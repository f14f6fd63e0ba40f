/-
Replies on their way through a loopback channel.

A responder emits replies between whatever else it does: it may cancel
the call, wait until it is late, look at the context itself, stop when it
is told to or go on. The receiver behind the channel is code as well, and
may do any of these things in the middle of taking a reply. `Feeds` says
what a course of this kind comes to, in rules and without the channel's
own bookkeeping: a reply emitted while the context lives is taken by the
receiver, and the responder is told what the receiver says; a reply
emitted when the context is dead is withheld, the receiver never hears of
it, and the responder is told to stop.

What a course leaves behind is the list of its replies, each with what
the context said when it was emitted. That list is all that is needed
afterwards: what got through is the part that was emitted in time, and
since a dead context stays dead, that is an initial part.
-/
import PluginRpc.Channel.Loopback
import PluginRpc.Proofs.Call.Run
import PluginRpc.Proofs.Context.Finality

namespace PluginRpc

open CallProgram

-- ============================================================== the replies

/-- A reply as it was emitted. -/
structure Reply where
  message : Payload
  /-- What the context said just then. -/
  standing : Except ErrorInfo Unit

namespace Reply

/-- The message of a reply that got through. -/
def passed? (r : Reply) : Option Payload :=
  match r.standing with
  | .ok () => some r.message
  | .error _ => none

/-- Why a reply was withheld, if it was. -/
def withheld? (r : Reply) : Option ErrorInfo :=
  match r.standing with
  | .ok () => none
  | .error e => some e

end Reply

/-- What got through, in order. -/
def passed (replies : List Reply) : List Payload :=
  replies.filterMap Reply.passed?

/-- The reasons for which replies were withheld, in order. -/
def withheld (replies : List Reply) : List ErrorInfo :=
  replies.filterMap Reply.withheld?

theorem withheld_map_ok {β : Type} (message : β → Payload) (l : List β) :
    withheld (l.map fun b => ⟨message b, .ok ()⟩) = [] := by
  induction l with
  | nil => rfl
  | cons b l ih => exact ih

-- =============================================================== the courses

/-- The outcome of a run, with something else made of what it returns. -/
def Outcome.map {α β : Type} (f : α → β) : Outcome α → Outcome β
  | .returned a => .returned (f a)
  | .panicked p => .panicked p
  | .stalled => .stalled

section

variable {σ α : Type} (context : CallContext)
  (sink : σ → Payload → CallProgram (σ × Flow))

/-- A responder runs, and its replies go to a receiver while the context
lives. -/
inductive Feeds : CallState → σ → Program feed α → List Reply →
    Outcome (σ × α) → CallState → Prop where
  | done (st : CallState) (s : σ) (a : α) :
      Feeds st s (.done a) [] (.returned (s, a)) st
  | panicked (st : CallState) (s : σ) (p : Panic) :
      Feeds st s (.panic p) [] (.panicked p) st
  /-- The responder does something else. -/
  | wire {st st' : CallState} {s : σ} (op : WireOp)
      {next : op.Answer → Program feed α} {replies : List Reply}
      {o : Outcome (σ × α)}
      (rest : Feeds { st with line := (op.run st.line).2 } s
        (next (op.run st.line).1) replies o st') :
      Feeds st s (.perform (.wire op) next) replies o st'
  /-- The receiver takes the reply. -/
  | through {st st₁ st' : CallState} {s s₁ : σ} {message : Payload} {flow : Flow}
      {next : Flow → Program feed α} {replies : List Reply}
      {o : Outcome (σ × α)}
      (alive : context.check st.line.surroundings = .ok ())
      (taken : run st (sink s message) = (.returned (s₁, flow), st₁))
      (rest : Feeds st₁ s₁ (next flow) replies o st') :
      Feeds st s (.perform (.deliver message) next)
        (⟨message, .ok ()⟩ :: replies) o st'
  /-- The context is dead; the receiver is not asked. -/
  | held {st st' : CallState} {s : σ} {message : Payload} {e : ErrorInfo}
      {next : Flow → Program feed α} {replies : List Reply}
      {o : Outcome (σ × α)}
      (dead : context.check st.line.surroundings = .error e)
      (rest : Feeds st s (next .stop) replies o st') :
      Feeds st s (.perform (.deliver message) next)
        (⟨message, .error e⟩ :: replies) o st'
  /-- The receiver panics at the reply. -/
  | broken {st st' : CallState} {s : σ} {message : Payload} {p : Panic}
      {next : Flow → Program feed α}
      (alive : context.check st.line.surroundings = .ok ())
      (broke : run st (sink s message) = (.panicked p, st')) :
      Feeds st s (.perform (.deliver message) next) [⟨message, .ok ()⟩]
        (.panicked p) st'
  /-- The receiver waits for ever. -/
  | stuck {st st' : CallState} {s : σ} {message : Payload}
      {next : Flow → Program feed α}
      (alive : context.check st.line.surroundings = .ok ())
      (waits : run st (sink s message) = (.stalled, st')) :
      Feeds st s (.perform (.deliver message) next) [⟨message, .ok ()⟩]
        .stalled st'

/-- Every responder has a course, whatever the receiver does. -/
theorem feeds_total (st : CallState) (s : σ) (x : Program feed α) :
    ∃ replies o st', Feeds context sink st s x replies o st' := by
  induction x generalizing st s with
  | done a => exact ⟨[], _, st, .done st s a⟩
  | panic p => exact ⟨[], _, st, .panicked st s p⟩
  | perform op next ih =>
      cases op with
      | wire op =>
          obtain ⟨replies, o, st', rest⟩ :=
            ih (op.run st.line).1 { st with line := (op.run st.line).2 } s
          exact ⟨replies, o, st', .wire op rest⟩
      | deliver message =>
          cases standing : context.check st.line.surroundings with
          | error e =>
              obtain ⟨replies, o, st', rest⟩ := ih .stop st s
              exact ⟨_, o, st', .held standing rest⟩
          | ok u =>
              cases result : run st (sink s message) with
              | mk outcome st₁ =>
                cases outcome with
                | returned r =>
                    obtain ⟨replies, o, st', rest⟩ := ih r.2 st₁ r.1
                    exact ⟨_, o, st', .through standing result rest⟩
                | panicked p => exact ⟨_, _, st₁, .broken standing result⟩
                | stalled => exact ⟨_, _, st₁, .stuck standing result⟩

-- ================================================== the courses are the runs

variable {context sink}

/-- A reply on its way: the channel looks at the context, and either
gives the reply to the receiver or tells the responder to stop. -/
theorem receive_forward_deliver (w : Option ErrorInfo) (s : σ)
    (message : Payload) (next : Flow → Program feed α) :
    Program.receive sink s
        (Program.receive (Loopback.forward context) w
          (.perform (.deliver message) next))
      = (Program.look context).bind fun standing =>
          match standing with
          | .error e => Program.receive sink s
              (Program.receive (Loopback.forward context) (some e) (next .stop))
          | .ok () => (sink s message).bind fun r => Program.receive sink r.1
              (Program.receive (Loopback.forward context) w (next r.2)) := by
  refine congrArg (Program.look context).bind (funext fun standing => ?_)
  cases standing with
  | error e => rfl
  | ok u => rfl

theorem getLast?_cons_or {β : Type} (b : β) (l : List β) (w : Option β) :
    (b :: l).getLast?.or w = l.getLast?.or (some b) := by
  rw [List.getLast?_cons]
  cases l.getLast? <;> rfl

/-- The channel runs a responder as its course says. -/
theorem Feeds.run {st st' : CallState} {s : σ} {x : Program feed α}
    {replies : List Reply} {o : Outcome (σ × α)}
    (h : Feeds context sink st s x replies o st') (w : Option ErrorInfo) :
    CallProgram.run st (Program.receive sink s
        (Program.receive (Loopback.forward context) w x))
      = (o.map fun r => (r.1, (withheld replies).getLast?.or w, r.2), st') := by
  induction h generalizing w with
  | done st s a => rfl
  | panicked st s p => rfl
  | wire op rest ih => exact ih w
  | @through st st₁ st' s s₁ message flow next replies o alive taken rest ih =>
      rw [receive_forward_deliver, Program.run_look_bind, alive]
      show CallProgram.run st ((sink s message).bind _) = _
      rw [run_bind, taken]
      exact ih w
  | @held st st' s message e next replies o dead rest ih =>
      rw [receive_forward_deliver, Program.run_look_bind, dead]
      -- the reason that the channel had in mind gives way to this one
      show _ = (Outcome.map (fun r =>
        (r.1, (e :: withheld replies).getLast?.or w, r.2)) o, st')
      rw [getLast?_cons_or]
      exact ih (some e)
  | @broken st st' s message p next alive broke =>
      rw [receive_forward_deliver, Program.run_look_bind, alive]
      show CallProgram.run st ((sink s message).bind _) = _
      rw [run_bind, broke]
      rfl
  | @stuck st st' s message next alive waits =>
      rw [receive_forward_deliver, Program.run_look_bind, alive]
      show CallProgram.run st ((sink s message).bind _) = _
      rw [run_bind, waits]
      rfl

-- ======================================================= what receivers hear

/-- A receiver that also writes down what it hears. -/
def noting (sink : σ → Payload → CallProgram (σ × Flow)) :
    σ × List Payload → Payload → CallProgram ((σ × List Payload) × Flow) :=
  fun r message => (sink r.1 message).bind fun t =>
    .done ((t.1, r.2 ++ [message]), t.2)

variable {st st' : CallState} {s : σ} {x : Program feed α}
  {replies : List Reply} {o : Outcome (σ × α)}

/-- A receiver hears what got through, and nothing else. -/
theorem Feeds.noting (h : Feeds context sink st s x replies o st')
    (heard : List Payload) :
    Feeds context (noting sink) st (s, heard) x replies
      (o.map fun r => ((r.1, heard ++ passed replies), r.2)) st' := by
  induction h generalizing heard with
  | done st s a =>
      have all : heard ++ passed [] = heard := List.append_nil heard
      rw [Outcome.map, all]
      exact .done st (s, heard) a
  | panicked st s p => exact .panicked st (s, heard) p
  | wire op rest ih => exact .wire op (ih heard)
  | @through st st₁ st' s s₁ message flow next replies o alive taken rest ih =>
      have noted : CallProgram.run st (PluginRpc.noting sink (s, heard) message)
          = (.returned ((s₁, heard ++ [message]), flow), st₁) := by
        rw [PluginRpc.noting, run_bind, taken]
        rfl
      have all : heard ++ passed (⟨message, .ok ()⟩ :: replies)
          = heard ++ [message] ++ passed replies := by
        rw [List.append_assoc]
        rfl
      rw [all]
      exact .through alive noted (ih (heard ++ [message]))
  | held dead rest ih => exact .held dead (ih heard)
  | @broken st st' s message p next alive broke =>
      refine .broken alive ?_
      rw [PluginRpc.noting, run_bind, broke]
      rfl
  | @stuck st st' s message next alive waits =>
      refine .stuck alive ?_
      rw [PluginRpc.noting, run_bind, waits]
      rfl

/-- The receiver of a call that answers with one message. -/
def keepsLast (kept : Option Payload) (message : Payload) :
    CallProgram (Option Payload × Flow) :=
  (Loopback.keepLast kept message).within

/-- It is left with the last message that got through. -/
theorem Feeds.keepsLast {kept : Option Payload} {o : Outcome (Option Payload × α)}
    (h : Feeds context keepsLast st kept x replies o st') :
    o = o.map fun r => ((passed replies).getLast?.or kept, r.2) := by
  induction h with
  | done st kept a => rfl
  | panicked st kept p => rfl
  | wire op rest ih => exact ih
  | @through st st₁ st' kept kept₁ message flow next replies o alive taken rest
      ih =>
      cases taken
      show o = o.map fun r =>
        ((message :: passed replies).getLast?.or kept, r.2)
      rw [getLast?_cons_or]
      exact ih
  | held dead rest ih => exact ih
  | broken alive broke => rfl
  | stuck alive waits => rfl

-- ========================================================= a dead context

theorem CallContext.FailsBy.check {c : CallContext} {w : Surroundings}
    {e : ErrorInfo} (fails : c.FailsBy w e) : ∃ e', c.check w = .error e' := by
  by_cases dead : w.isCancelled c.token = true
  · exact ⟨_, c.check_of_cancelled dead⟩
  · rcases fails with ⟨-, cancelled⟩ | ⟨-, overdue⟩
    · exact absurd cancelled dead
    · exact ⟨_, (c.check_of_alive dead).trans (if_pos overdue)⟩

/-- A context that is dead stays dead, whatever happens. -/
theorem CallContext.check_later {c : CallContext} {w w' : Surroundings}
    {asks : List Ask} (happened : Asked w asks w') {e : ErrorInfo}
    (dead : c.check w = .error e) : ∃ e', c.check w' = .error e' := by
  have now := ((Accounts.start w).check c).2
  rw [dead] at now
  have later := (now.asked happened).2
  exact (later.failed c e List.mem_cons_self).check

theorem asked_wire (st : CallState) (op : WireOp) :
    Asked st.line.surroundings (CallOp.told (.wire op) (op.run st.line).1)
      (op.run st.line).2.surroundings := by
  have answered : CallOp.run? st (.wire op)
      = some ((op.run st.line).1, { st with line := (op.run st.line).2 }) := rfl
  exact asked_run? answered

/-- Nothing gets through once the context is dead. -/
theorem Feeds.late {e : ErrorInfo}
    (h : Feeds context sink st s x replies o st')
    (dead : context.check st.line.surroundings = .error e) :
    ∀ r ∈ replies, r.passed? = none := by
  induction h generalizing e with
  | done st s a => exact List.forall_mem_nil _
  | panicked st s p => exact List.forall_mem_nil _
  | @wire st st' s op next replies o rest ih =>
      obtain ⟨e', dead'⟩ := CallContext.check_later (asked_wire st op) dead
      exact ih dead'
  | held dead' rest ih => exact List.forall_mem_cons.mpr ⟨rfl, ih dead⟩
  | through alive | broken alive | stuck alive =>
      rw [dead] at alive
      cases alive

/-- What got through was emitted before anything that was withheld. -/
theorem Feeds.in_time (h : Feeds context sink st s x replies o st') :
    replies.Pairwise fun r later => r.passed? = none → later.passed? = none := by
  induction h with
  | done st s a => exact .nil
  | panicked st s p => exact .nil
  | wire op rest ih => exact ih
  | through alive taken rest ih =>
      exact .cons (fun _ _ withheld => nomatch withheld) ih
  | held dead rest ih =>
      exact .cons (fun r mem _ => rest.late dead r mem) ih
  | broken alive broke => exact List.pairwise_singleton _ _
  | stuck alive waits => exact List.pairwise_singleton _ _

-- ======================================================== the list of calls

/-- Code that never does what is marked. -/
def Program.Without {S : Signature} {α : Type} (marked : S.Op → Prop) :
    Program S α → Prop
  | .done _ => True
  | .panic _ => True
  | .perform op next => ¬ marked op ∧ ∀ answer, (next answer).Without marked

/-- Entering a method into a channel's list of calls. -/
def FeedOp.Lists (op : FeedOp) : Prop := ∃ method, op = .wire (.record method)

def CallOp.Lists (op : CallOp) : Prop := ∃ method, op = .wire (.record method)

theorem CallOp.run?_calls {st st' : CallState} {op : CallOp}
    {answer : op.Answer} (quiet : ¬ op.Lists)
    (answered : CallOp.run? st op = some (answer, st')) :
    st'.line.calls = st.line.calls := by
  obtain ⟨response, line, dialled⟩ := st
  cases op with
  | wire op =>
      cases op with
      | ambient op =>
          cases answered
          rfl
      | record method => exact absurd ⟨method, rfl⟩ quiet
  | inspect | edit e | endStream | close | transfer =>
      cases response <;> cases answered <;> rfl
  | push r =>
      cases response with
      | record prior =>
          cases answered
          rfl
      | stream outlet =>
          obtain ⟨result, -, same⟩ := Option.map_eq_some_iff.mp answered
          cases same
          rfl
  | dial c =>
      cases answered
      rfl

theorem CallProgram.run_calls {x : CallProgram α}
    (quiet : x.Without CallOp.Lists) (st : CallState) :
    (CallProgram.run st x).2.line.calls = st.line.calls := by
  induction x generalizing st with
  | done a => rfl
  | panic p => rfl
  | perform op next ih =>
      rw [run_perform]
      cases answered : CallOp.run? st op with
      | none => rfl
      | some result =>
          exact (ih result.1 (quiet.2 result.1) result.2).trans
            (CallOp.run?_calls quiet.1 answered)

/-- A course enters nothing into the list of calls if neither side does. -/
theorem Feeds.calls (h : Feeds context sink st s x replies o st')
    (quiet : x.Without FeedOp.Lists)
    (quiet_sink : ∀ s message, (sink s message).Without CallOp.Lists) :
    st'.line.calls = st.line.calls := by
  induction h with
  | done st s a => rfl
  | panicked st s p => rfl
  | @wire st st' s op next replies o rest ih =>
      have kept : (op.run st.line).2.calls = st.line.calls := by
        cases op with
        | ambient op => rfl
        | record method => exact absurd ⟨method, rfl⟩ quiet.1
      exact (ih (quiet.2 _)).trans kept
  | @through st st₁ st' s s₁ message flow next replies o alive taken rest ih =>
      have kept := CallProgram.run_calls (quiet_sink s message) st
      rw [taken] at kept
      exact (ih (quiet.2 flow)).trans kept
  | held dead rest ih => exact ih (quiet.2 .stop)
  | @broken st st' s message p next alive broke =>
      have kept := CallProgram.run_calls (quiet_sink s message) st
      rw [broke] at kept
      exact kept
  | @stuck st st' s message next alive waits =>
      have kept := CallProgram.run_calls (quiet_sink s message) st
      rw [waits] at kept
      exact kept

end

end PluginRpc
