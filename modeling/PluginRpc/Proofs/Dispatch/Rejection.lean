/-
Calls that are rejected before any handler runs.

A call whose address nobody serves, whose function does not answer
through a stream, or whose context is dead is told so through its
response stream, by the push that everything else goes through. A push
waits where a live stream is full, so a rejected call may have to wait,
though it has nothing to wait for: that a full stream keeps its producer
waiting is what a bounded stream is for, and there is no other push.

# How far it waits

`Tells` has the two ways in which a rejected call can come out, by the
state in which its one push finds the stream. Where the stream is full
the call goes no further and the stream stays live; everywhere else the
call is over and so is the stream. What other threads do while the push
waits comes before it, so a company decides which of the two it is, and
one section of another thread that is no push is enough
(`Fits.room_behind`).
-/
import PluginRpc.Proofs.Call.Company
import PluginRpc.Proofs.Call.Unbounded
import PluginRpc.Proofs.Dispatch.Gates
import PluginRpc.Proofs.Stream.Capacity

namespace PluginRpc

-- ================================================================= room

namespace RecordStream

/-- Only a push leaves a stream full. -/
theorem Fits.room_behind {s s' : RecordStream} {op : StreamOp}
    {answer : StreamReply} (h : Fits s) (e : Effect s op answer s')
    (other : ∀ r, op ≠ .push r) : s'.isFull = false := by
  -- a stream that fits and buffers nothing has room
  have hollow : s.queue = [] → s.isFull = false := by
    intro empty
    rw [← Bool.not_eq_true, isFull_iff, atCapacity_iff]
    rintro ⟨-, n, bound, most⟩
    rw [empty, List.length_nil, Nat.le_zero] at most
    exact h.roomy (bound.trans (congrArg some most))
  cases e with
  | accepted r | refused r | blocked r => exact absurd rfl (other r)
  | took pull first =>
      rw [← Bool.not_eq_true, isFull_iff, atCapacity_iff]
      rintro ⟨-, n, bound, most⟩
      have within := h.within n bound
      rw [first, List.length_cons] at within
      have most : n ≤ _ := most
      exact absurd within (Nat.not_le_of_lt (Nat.lt_succ_of_le most))
  | finished pull empty | dry pull empty | parked timeout empty =>
      exact hollow empty
  | ended => exact not_isFull_of_over _ s.endStream_over
  | closed | moved => exact not_isFull_of_over _ s.close_over

end RecordStream

-- ============================================================== rejections

/-- The error of a call on a response stream that is rejected before any
handler runs. -/
inductive DispatchTable.Rejected (t : DispatchTable) (context : CallContext)
    (key : DispatchKey) (w : Surroundings) : ErrorInfo → Prop
  /-- Nobody serves the address. -/
  | unrouted (nowhere : t.route? key = none) :
      Rejected t context key w (t.unrouted key)
  /-- The function does not answer through a stream. -/
  | misshapen {r : Route} (served : t.route? key = some r)
      (unfit : r.function.kind.streamsResponses = false) :
      Rejected t context key w
        (client.misshapen r.method r.function.kind)
  /-- The call is cancelled or late. -/
  | dead {r : Route} (served : t.route? key = some r)
      (fits : r.function.kind.streamsResponses = true) {e : ErrorInfo}
      (stopped : context.check w = .error e) :
      Rejected t context key w e

namespace DispatchTable.Rejected

open CallProgram

variable {t : DispatchTable} {context : CallContext} {key : DispatchKey}
  {w : Surroundings} {e : ErrorInfo}

theorem gate_eq (h : t.Rejected context key w e) :
    t.gate context key .stream w = .error e := by
  unfold gate
  cases h with
  | unrouted nowhere => rw [nowhere]
  | misshapen served unfit =>
      rw [served]
      exact if_neg (by rw [unfit]; exact Bool.false_ne_true)
  | dead served fits stopped =>
      rw [served]
      refine (if_pos fits).trans ?_
      rw [stopped]
      rfl

/-- What a rejected call does: it resets the response, looks at the
context if it gets as far as that, and tells the error. -/
theorem client_eq (h : t.Rejected context key w e) (channel : Channel)
    (request : Record) :
    let call := t.client channel context key request .stream
    (call = (edit .reset).bind fun _ => fail .stream e)
    ∨ context.check w = .error e
      ∧ ∃ next : Except ErrorInfo Unit → CallProgram Unit,
        next (.error e) = fail .stream e
        ∧ call = (edit .reset).bind fun _ =>
            (Program.check context).bind next := by
  intro call
  unfold call client
  cases h with
  | unrouted nowhere =>
      rw [nowhere]
      exact Or.inl rfl
  | @misshapen r served unfit =>
      rw [served]
      refine Or.inl (congrArg ((edit .reset).bind ·) (funext fun _ => ?_))
      exact if_pos (by rw [unfit]; rfl)
  | @dead r served fits _ stopped =>
      rw [served]
      refine Or.inr ⟨stopped, _, ?_, congrArg ((edit .reset).bind ·)
        (funext fun _ => if_neg (by rw [fits]; exact Bool.false_ne_true))⟩
      rfl

end DispatchTable.Rejected

-- ======================================================= telling the error

/-- What comes of telling an error to a response stream that is found in
this state. -/
inductive Tells (e : ErrorInfo) (found : RecordStream) :
    CallCourse Unit → Prop
  /-- The stream is full: the call waits, and the stream is as it was. -/
  | waits (full : found.isFull = true) {state : CallState}
      (left : state.response = .ofStream found) :
      Tells e found ⟨.stalled, [], state⟩
  /-- Everywhere else the call is over, and so is the stream. It has taken
  the error if it was live. -/
  | told (room : found.isFull = false) {state : CallState} {o : Outlet}
      (left : state.response = .stream o) (shut : o.stream.state ≠ .live) :
      Tells e found
        ⟨.returned (), [(.failed e, found.isLive)], state⟩

/-- What a company does up to the operation of a number. -/
def Company.upTo (company : Company) (n : Nat) : List StreamTurn :=
  (List.range (n + 1)).flatMap company

theorem Company.upTo_zero (company : Company) :
    company.upTo 0 = company 0 := by
  simp [upTo]

theorem Company.upTo_succ (company : Company) (n : Nat) :
    company.upTo (n + 1) = company.upTo n ++ company (n + 1) := by
  unfold upTo
  rw [List.range_succ, List.flatMap_append, List.flatMap_singleton]

theorem RecordStream.after_append (s : RecordStream)
    (turns more : List StreamTurn) :
    s.after (turns ++ more) = (s.after turns).after more :=
  List.foldl_append

namespace CallProgram

/-- A push that nobody makes room for waits at a full stream. -/
theorem push?_of_full {s : RecordStream} (full : s.isFull = true)
    (r : Record) : Outlet.push? ⟨s, .unattended⟩ r = none := by
  unfold Outlet.push? RecordStream.push
  rw [RecordStream.isFull, Bool.and_eq_true] at full
  rw [full.1, full.2]
  rfl

variable (company : Company) (s : RecordStream) (line : Line)
  (dialled : List ChannelCall)

/-- Telling an error, in company. -/
theorem tells_fail (n : Nat) (e : ErrorInfo) :
    Tells e (s.after (company n))
      (amid company n (.streaming s .unattended line dialled)
        (fail .stream e)) := by
  generalize hf : s.after (company n) = found
  have there : (CallState.streaming s .unattended line dialled).after
      (company n) = .streaming found .unattended line dialled := by
    rw [← hf]
    rfl
  have parts : fail .stream e
      = .perform (.push (.failed e)) fun _ =>
          .perform .endStream Program.done := rfl
  rw [parts]
  cases full : found.isFull with
  | true =>
      have waits : CallOp.run? ((CallState.streaming s .unattended line
          dialled).after (company n)) (.push (.failed e)) = none := by
        rw [there]
        exact Option.map_eq_none_iff.mpr (push?_of_full full _)
      rw [amid_waits waits, there]
      exact .waits full rfl
  | false =>
      have answered : CallOp.run? ((CallState.streaming s .unattended line
          dialled).after (company n)) (.push (.failed e))
          = some (found.isLive,
              .streaming (found.afterPush (.failed e)) .unattended line
                dialled) := by
        rw [there]
        exact congrArg (Option.map _) (push?_of_room .unattended full _)
      rw [amid_answered answered]
      exact .told full rfl (RecordStream.endStream_over _)

end CallProgram

-- ============================================================== whole runs

namespace DispatchTable

open CallProgram RecordStream

variable {t : DispatchTable} {context : CallContext} {key : DispatchKey}
  {line : Line} {e : ErrorInfo} (channel : Channel) (request : Record)
  (s : RecordStream) (dialled : List ChannelCall)

/-- A rejected call tells its error, whatever others do meanwhile. -/
theorem Rejected.tells (rejected : t.Rejected context key line.surroundings e)
    (company : Company) :
    ∃ n ≤ 2, Tells e (s.after (company.upTo n))
      (amid company 0 (.streaming s .unattended line dialled)
        (t.client channel context key request .stream)) := by
  -- the response is a stream, so resetting it does nothing
  have reset : ∀ rest : CallProgram Unit,
      amid company 0 (.streaming s .unattended line dialled)
          ((edit .reset).bind fun _ => rest)
        = amid company 1
            (.streaming (s.after (company 0)) .unattended line dialled)
            rest := fun rest => rfl
  rcases rejected.client_eq channel request with
    call | ⟨stopped, next, fails, call⟩
  · refine ⟨1, by omega, ?_⟩
    rw [call, reset, company.upTo_succ, company.upTo_zero, after_append]
    exact tells_fail company _ line dialled 1 e
  · refine ⟨2, Nat.le_refl 2, ?_⟩
    have looked : amid company 1
          (.streaming (s.after (company 0)) .unattended line dialled)
          ((Program.check context).bind next)
        = amid company 2
            (.streaming ((s.after (company 0)).after (company 1)) .unattended
              line dialled) (next (context.check line.surroundings)) := rfl
    rw [call, reset, looked, stopped, fails, company.upTo_succ,
      company.upTo_succ, company.upTo_zero, after_append, after_append]
    exact tells_fail company _ line dialled 2 e

/-- A rejected call waits for room to tell its error and for nothing else.
At a stream that is not full, which is to say at one that is no longer
live or has room, it returns at once and leaves the stream over, with the
error behind the records if the stream was live, and as it was if it had
been ended. At a full stream that nobody reads it waits, and the stream
stays live and as it was. While it waits other threads may be at the
stream: then the state in which its push finds the stream decides, and
where that is not full the call returns and the stream is over. A full
stream ceases to be full with the first thing that another thread does to
it other than pushing, be it to take a record, to end it, to close it or
to move it. -/
theorem rejected_call_waits_only_for_room
    (rejected : t.Rejected context key line.surroundings e) :
    let call := t.client channel context key request .stream
    let told := (s.afterPush (.failed e)).endStream
    (s.isFull = false → told.state ≠ .live
      ∧ (s.eos = true → told = s)
      ∧ ∀ attendance, run (.streaming s attendance line dialled) call
        = (.returned (), .streaming told attendance line dialled))
    ∧ (s.isFull = true →
      run (.streaming s .unattended line dialled) call
        = (.stalled, .streaming s .unattended line dialled))
    ∧ (∀ company : Company, ∃ n ≤ 2, Tells e (s.after (company.upTo n))
      (amid company 0 (.streaming s .unattended line dialled) call))
    ∧ (Fits s → ∀ now op, (∀ r, op ≠ .push r) →
      (s.run now op).2.isFull = false) := by
  intro call told
  have ran : ∀ attendance, run (.streaming s attendance line dialled) call
      = run (.streaming s attendance line dialled) (fail .stream e) := by
    intro attendance
    have here : (CallState.streaming s attendance line dialled).response
        = .stream ⟨s, attendance⟩ := rfl
    have shut : t.gate context key .stream
        (CallState.streaming s attendance line dialled).line.surroundings
        = .error e := rejected.gate_eq
    unfold call
    rw [run_client, shut, CallState.cleared_of_stream _ here]
  refine ⟨fun room => ⟨endStream_over _, fun ended => ?_,
      fun attendance => ?_⟩, fun full => ?_,
    rejected.tells channel request s dialled, fun fits now op other => ?_⟩
  · unfold told
    rw [afterPush_of_over (s.over_of_eos ended), s.endStream_of_eos ended]
  · rw [ran, run_fail_stream (o := ⟨s, attendance⟩) rfl,
      push?_of_room attendance room]
    rfl
  · rw [ran, run_fail_stream (o := ⟨s, .unattended⟩) rfl, push?_of_full full]
  · exact fits.room_behind (s.run_effect now op) other

/-- A call to an address that nobody serves, at a full stream: it waits,
and the stream stays live. -/
theorem rejected_call_waits_at_full_stream :
    let t := ofPackage ⟨"echo", "echo.proto", ⟨1, 0, 0⟩, [], ⟨[]⟩⟩
    let key : DispatchKey := ⟨0, 9⟩
    let context : CallContext := ⟨⟨0⟩, .unlimited, []⟩
    let line : Line := ⟨.start, []⟩
    let channel := (Loopback.ofTarget "mem" .insecure).channel
    let s := (bounded 1).after [(0, .push .empty)]
    let ended := run (.streaming s .unattended line [])
      (t.client channel context key .empty .stream)
    t.Rejected context key line.surroundings (t.unrouted key)
      ∧ ended.1 = .stalled
      ∧ ended.2.response = .ofStream s ∧ s.state = .live :=
  ⟨.unrouted rfl, rfl, rfl, rfl⟩

/-- The same call where a reader takes the record: the call returns, and
the stream is over. -/
theorem rejected_call_returns_behind_reader :
    let t := ofPackage ⟨"echo", "echo.proto", ⟨1, 0, 0⟩, [], ⟨[]⟩⟩
    let key : DispatchKey := ⟨0, 9⟩
    let context : CallContext := ⟨⟨0⟩, .unlimited, []⟩
    let line : Line := ⟨.start, []⟩
    let channel := (Loopback.ofTarget "mem" .insecure).channel
    let s := (bounded 1).after [(0, .push .empty)]
    let company : Company := fun n => if n = 0 then [(1, .tryNext)] else []
    let course := amid company 0 (.streaming s .unattended line [])
      (t.client channel context key .empty .stream)
    t.Rejected context key line.surroundings (t.unrouted key)
      ∧ s.isFull = true
      ∧ course.outcome = .returned ()
      ∧ course.pushes = [(.failed (t.unrouted key), true)]
      ∧ (∃ o, course.state.response = .stream o ∧ o.stream.state ≠ .live)
      ∧ (s.run 1 .tryNext).2.isFull = false := by
  intro t key context line channel s company course
  have rejected : t.Rejected context key line.surroundings (t.unrouted key) :=
    .unrouted rfl
  have fits : Fits s := (fits_fresh (some 1)).after _
  obtain ⟨-, -, amidst, others⟩ := rejected_call_waits_only_for_room
    (t := t) channel .empty s [] rejected
  have room := others fits 1 .tryNext nofun
  obtain ⟨n, few, tells⟩ := amidst company
  have found : s.after (company.upTo n) = ⟨[], some 1, false, false⟩ := by
    rcases n with _ | _ | _ | n
    · rfl
    · rfl
    · rfl
    · omega
  rw [found] at tells
  change Tells _ _ course at tells
  refine ⟨rejected, rfl, ?_⟩
  generalize course = course at tells ⊢
  cases tells with
  | waits full => cases full
  | told _ left shut => exact ⟨rfl, rfl, ⟨_, left, shut⟩, room⟩

end DispatchTable

end PluginRpc
