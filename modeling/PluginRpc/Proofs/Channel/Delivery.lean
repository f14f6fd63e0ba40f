/-
What a call on a loopback channel comes to.

A call is refused when its context is dead on arrival; it is listed and
refused when nobody answers its method; and otherwise it is listed and
the responder has its course. Three things can then speak for the result:
the responder's own failure, a reply that was withheld, and, where one
message is expected, what got through. `Delivers` gives the result in
this order, for every responder and every receiver.

# The four ways of calling

Two ways deliver replies, and two return a single one. The latter are
the former with a receiver that keeps the last message it hears, so they
have the same courses.
-/
import PluginRpc.Proofs.Channel.Feeding

namespace PluginRpc

open CallProgram

-- ====================================================== programs in programs

namespace Outcome

variable {α β γ : Type}

theorem map_map (f : α → β) (g : β → γ) (o : Outcome α) :
    (o.map f).map g = o.map fun a => g (f a) := by
  cases o <;> rfl

end Outcome

namespace Program

theorem within_bind {S T : Signature} [S.Within T] {α β : Type}
    (x : Program S α) (f : α → Program S β) :
    ((x.bind f).within : Program T β)
      = x.within.bind fun a => (f a).within := by
  induction x with
  | done a => rfl
  | panic p => rfl
  | perform op next ih =>
      rw [perform_bind, within, within, bind_assoc]
      exact congrArg _ (funext ih)

theorem receive_bind {T : Signature} [wire.Within T] {α β σ : Type}
    (receiver : σ → Payload → Program T (σ × Flow)) (s : σ)
    (x : Program feed α) (f : α → Program feed β) :
    receive receiver s (x.bind f)
      = (receive receiver s x).bind fun r => receive receiver r.1 (f r.2) := by
  induction x generalizing s with
  | done a => rfl
  | panic p => rfl
  | perform op next ih =>
      cases op with
      | wire op =>
          show Program.bind _ _ = Program.bind (Program.bind _ _) _
          rw [bind_assoc]
          exact congrArg _ (funext fun answer => ih answer s)
      | deliver message =>
          show Program.bind _ _ = Program.bind (Program.bind _ _) _
          rw [bind_assoc]
          exact congrArg _ (funext fun r => ih r.2 r.1)

/-- Whether a feed meets its receiver on the line or in the call does not
matter. -/
theorem within_receive {α σ : Type}
    (receiver : σ → Payload → Program wire (σ × Flow)) (s : σ)
    (x : Program feed α) :
    ((receive receiver s x).within : CallProgram (σ × α))
      = receive (fun s message => (receiver s message).within) s x := by
  induction x generalizing s with
  | done a => rfl
  | panic p => rfl
  | perform op next ih =>
      cases op with
      | wire op => exact congrArg _ (funext fun answer => ih answer s)
      | deliver message =>
          show (Program.bind _ _).within = _
          rw [within_bind]
          exact congrArg _ (funext fun r => ih r.2 r.1)

end Program

-- ================================================================ the verdict

/-- A call has been entered into the channel's list. -/
def CallState.listing (st : CallState) (method : MethodPath) : CallState :=
  { st with line := { st.line with calls := st.line.calls ++ [method] } }

/-- The result of a call that delivers its replies: the responder's
failure goes before the reason for which a reply was withheld. -/
def settled (replies : List Reply) (result : Except ErrorInfo Unit) :
    Except ErrorInfo Unit :=
  match result, (withheld replies).getLast? with
  | .error e, _ => .error e
  | .ok (), some e => .error e
  | .ok (), none => .ok ()

namespace Loopback

/-- The result of a call that answers with one message: the last one that
got through, if nothing has failed. -/
def answerOf (method : MethodPath) (replies : List Reply)
    (result : Except ErrorInfo Unit) : Except ErrorInfo Payload :=
  match result, (passed replies).getLast? with
  | .error e, _ => .error e
  | .ok (), some message => .ok message
  | .ok (), none =>
      .error (.internal (method.text ++ " produced no response"))

variable (b : Loopback) (context : CallContext) (method : MethodPath)
  (requests : List Payload)

section

variable {σ : Type} (sink : σ → Payload → CallProgram (σ × Flow))
  (st : CallState) (s : σ)

/-- What a call comes to: the replies of the responder, what the caller
gets, and the state that is left. -/
inductive Delivers : List Reply → Outcome (σ × Except ErrorInfo Unit) →
    CallState → Prop where
  /-- The context is dead: nothing happens. -/
  | refused {e : ErrorInfo}
      (dead : context.check st.line.surroundings = .error e) :
      Delivers [] (.returned (s, .error e)) st
  | unanswered (alive : context.check st.line.surroundings = .ok ())
      (nobody : b.responders.get? compare method.text = none) :
      Delivers []
        (.returned (s, .error (.unimplemented
          (b.target ++ " has no responder for " ++ method.text))))
        (st.listing method)
  | answered {responder : Responder} {replies : List Reply}
      {o : Outcome (σ × Except ErrorInfo Unit)} {st' : CallState}
      (alive : context.check st.line.surroundings = .ok ())
      (there : b.responders.get? compare method.text = some responder)
      (feeds : Feeds context sink (st.listing method) s
        (responder context requests) replies o st') :
      Delivers replies (o.map fun r => (r.1, settled replies r.2)) st'

theorem delivers_total :
    ∃ replies o st', b.Delivers context method requests sink st s replies o
      st' := by
  cases standing : context.check st.line.surroundings with
  | error e => exact ⟨[], _, st, .refused standing⟩
  | ok u =>
      cases there : b.responders.get? compare method.text with
      | none => exact ⟨[], _, _, .unanswered standing there⟩
      | some responder =>
          obtain ⟨replies, o, st', feeds⟩ := feeds_total context sink
            (st.listing method) s (responder context requests)
          exact ⟨replies, _, st', .answered standing there feeds⟩

/-- Entering a method into the list, in front of something else. -/
theorem run_receive_recordCall {α : Type} (f : Unit → Program feed α) :
    run st (Program.receive sink s ((Program.recordCall method).bind f))
      = run (st.listing method) (Program.receive sink s (f ())) := rfl

variable {b context method requests sink st s} {replies : List Reply}
  {o : Outcome (σ × Except ErrorInfo Unit)} {st' : CallState}

/-- The channel does what the verdict says. -/
theorem Delivers.run
    (h : b.Delivers context method requests sink st s replies o st') :
    CallProgram.run st
        (Program.receive sink s (b.dispatch context method requests))
      = (o, st') := by
  unfold dispatch
  rw [Program.bind_eq, Program.receive_check_bind, Program.run_look_bind]
  cases h with
  | refused dead =>
      rw [dead]
      rfl
  | unanswered alive nobody =>
      rw [alive]
      dsimp only
      rw [Program.bind_eq, run_receive_recordCall, nobody]
      rfl
  | @answered _ replies o st' alive there feeds =>
      rw [alive]
      dsimp only
      rw [Program.bind_eq, run_receive_recordCall, there]
      dsimp only
      -- at the start of a course no reply has been withheld
      rw [Program.bind_eq, Program.receive_bind, run_bind, feeds.run none,
        Option.or_none]
      cases o with
      | returned r =>
          obtain ⟨s', result⟩ := r
          unfold settled
          cases result with
          | error e => rfl
          | ok u =>
              show andThen _ (.returned (s', (withheld replies).getLast?, _), _)
                = (.returned (s', _), _)
              dsimp only
              cases (withheld replies).getLast? <;> rfl
      | panicked p => rfl
      | stalled => rfl

/-- The receiver hears what got through. -/
theorem Delivers.noting
    (h : b.Delivers context method requests sink st s replies o st') :
    b.Delivers context method requests (noting sink) st (s, []) replies
      (o.map fun r => ((r.1, passed replies), r.2)) st' := by
  cases h with
  | refused dead => exact .refused dead
  | unanswered alive nobody => exact .unanswered alive nobody
  | answered alive there feeds =>
      -- the receiver has heard nothing yet
      have noted := Delivers.answered alive there (feeds.noting [])
      rw [Outcome.map_map] at noted ⊢
      exact noted

theorem Delivers.in_time
    (h : b.Delivers context method requests sink st s replies o st') :
    replies.Pairwise fun r later => r.passed? = none → later.passed? = none := by
  cases h with
  | refused dead => exact .nil
  | unanswered alive nobody => exact .nil
  | answered alive there feeds => exact feeds.in_time

/-- A call whose context lives is listed once, if neither side writes to
the list of its own. -/
theorem Delivers.calls
    (h : b.Delivers context method requests sink st s replies o st')
    (alive : context.check st.line.surroundings = .ok ())
    (quiet : ∀ responder, b.responders.get? compare method.text = some responder →
      (responder context requests).Without FeedOp.Lists)
    (quiet_sink : ∀ s message, (sink s message).Without CallOp.Lists) :
    st'.line.calls = st.line.calls ++ [method] := by
  cases h with
  | refused dead =>
      rw [alive] at dead
      cases dead
  | unanswered alive nobody => rfl
  | answered alive there feeds => exact feeds.calls (quiet _ there) quiet_sink

end

-- ====================================================== calls for one message

variable {b context method requests} {st st' : CallState}
  {replies : List Reply} {o : Outcome (Option Payload × Except ErrorInfo Unit)}

/-- What is kept is the last message that got through. -/
theorem Delivers.kept
    (h : b.Delivers context method requests keepsLast st none replies o st') :
    o = o.map fun r => ((passed replies).getLast?, r.2) := by
  cases h with
  | refused dead => rfl
  | unanswered alive nobody => rfl
  | @answered _ _ o _ alive there feeds =>
      have kept := feeds.keepsLast
      rw [Option.or_none] at kept
      rw [kept]
      simp only [Outcome.map_map]

theorem Delivers.run_single
    (h : b.Delivers context method requests keepsLast st none replies o st') :
    CallProgram.run st (b.single context method requests).within
      = (o.map fun r => answerOf method replies r.2, st') := by
  unfold single
  rw [Program.bind_eq, Program.within_bind, Program.within_receive, run_bind]
  show andThen _ (CallProgram.run st (Program.receive keepsLast none _)) = _
  rw [h.run, h.kept]
  cases o with
  | returned r =>
      obtain ⟨kept, result⟩ := r
      unfold answerOf
      cases result with
      | error e => rfl
      | ok u =>
          show andThen _ (.returned ((passed replies).getLast?, _), _)
            = (.returned _, _)
          dsimp only
          cases (passed replies).getLast? <;> rfl
  | panicked p => rfl
  | stalled => rfl

end Loopback

-- ======================================================= all ways of calling

/-- The responder of a method enters nothing into the list of calls. -/
def Loopback.Quiet (b : Loopback) (context : CallContext) (method : MethodPath)
    (requests : List Payload) : Prop :=
  ∀ responder, b.responders.get? compare method.text = some responder →
    (responder context requests).Without FeedOp.Lists

/-- What a caller can rely on who calls a method with some requests, in a
way that delivers several replies and in one that answers with a single
message. -/
structure Loopback.Delivery (b : Loopback) (context : CallContext)
    (method : MethodPath) (requests : List Payload) (st : CallState)
    (several : Program feed (Except ErrorInfo Unit))
    (single : Program wire (Except ErrorInfo Payload)) : Prop where
  /-- With any receiver the call comes to what the verdict says. The
  receiver hears the replies that got through, none of which was emitted
  after one that did not; and a call whose context lives is listed once,
  where nobody else writes to the list. -/
  several : ∀ (σ : Type) (sink : σ → Payload → CallProgram (σ × Flow)) (s : σ),
    ∃ replies o st',
      b.Delivers context method requests sink st s replies o st'
        ∧ run st (several.receive sink s) = (o, st')
        ∧ run st (several.receive (noting sink) (s, []))
          = (o.map fun r => ((r.1, passed replies), r.2), st')
        ∧ (replies.Pairwise fun r later =>
            r.passed? = none → later.passed? = none)
        ∧ (context.check st.line.surroundings = .ok () →
            b.Quiet context method requests →
            (∀ s message, (sink s message).Without CallOp.Lists) →
            st'.line.calls = st.line.calls ++ [method])
  /-- The call for a single message has the same verdict, with a receiver
  that keeps what it hears last. -/
  single : ∃ replies o st',
    b.Delivers context method requests keepsLast st none replies o st'
      ∧ run st single.within
        = (o.map fun r => Loopback.answerOf method replies r.2, st')
      ∧ (replies.Pairwise fun r later =>
          r.passed? = none → later.passed? = none)
      ∧ (context.check st.line.surroundings = .ok () →
          b.Quiet context method requests →
          st'.line.calls = st.line.calls ++ [method])

namespace Loopback

variable (b : Loopback) (context : CallContext) (method : MethodPath)
  (st : CallState)

theorem delivery (requests : List Payload) :
    b.Delivery context method requests st
      (b.dispatch context method requests)
      (b.single context method requests) where
  several σ sink s := by
    obtain ⟨replies, o, st', h⟩ :=
      b.delivers_total context method requests sink st s
    exact ⟨replies, o, st', h, h.run, h.noting.run, h.in_time,
      fun alive quiet quiet_sink => h.calls alive quiet quiet_sink⟩
  single := by
    obtain ⟨replies, o, st', h⟩ :=
      b.delivers_total context method requests keepsLast st none
    have quiet_sink : ∀ kept message,
        (keepsLast kept message).Without CallOp.Lists := fun _ _ => trivial
    exact ⟨replies, o, st', h, h.run_single, h.in_time,
      fun alive quiet => h.calls alive quiet quiet_sink⟩

/-- All four ways of calling deliver what was emitted in time, settle who
speaks for the result in the same order, and list what they do not
refuse. -/
theorem channel_delivers (request : Payload) (requests : List Payload) :
    b.Delivery context method requests st
        (b.channel.bidirectional context method requests)
        (b.channel.clientStreaming context method requests)
      ∧ b.Delivery context method [request] st
        (b.channel.serverStreaming context method request)
        (b.channel.unary context method request) :=
  ⟨b.delivery context method st requests, b.delivery context method st [request]⟩

end Loopback

end PluginRpc
