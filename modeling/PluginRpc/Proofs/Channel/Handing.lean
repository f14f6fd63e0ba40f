/-
What a channel hands over.

A channel that delivers replies is code of somebody else: it hands over
payloads, is told after each whether more are wanted, and may go by that
or not. `Hands` is one such course, seen from the channel alone: which
payloads, what it was told, and how its part of the call ended. A receiver
that waits for ever ends it too.

A channel heeds what it is told if it hands over nothing more once none is
wanted. Then every payload of a course but the last was answered with a
wish for more. The loopback channel heeds if its responder does, for what
it withholds by itself it does not hand over.
-/
import PluginRpc.Proofs.Call.Dialling

namespace PluginRpc

-- ============================================================== the courses

/-- A payload that a channel handed over, and what it was told. -/
structure Handed where
  payload : Payload
  flow : Flow

section

variable {α β σ : Type}

/-- The course of a channel's part in a call, from one state of its line
to another. -/
inductive Hands : Line → Program feed α → List Handed → Outcome α → Line → Prop
  | done (l : Line) (a : α) : Hands l (.done a) [] (.returned a) l
  | panicked (l : Line) (p : Panic) : Hands l (.panic p) [] (.panicked p) l
  /-- The channel does something else. -/
  | wire {l l' : Line} (op : WireOp) {next : op.Answer → Program feed α}
      {handed : List Handed} {ending : Outcome α}
      (rest : Hands (op.run l).2 (next (op.run l).1) handed ending l') :
      Hands l (.perform (.wire op) next) handed ending l'
  /-- The payload is taken, and the channel is told how to go on. -/
  | taken {l l' : Line} (message : Payload) (flow : Flow)
      {next : Flow → Program feed α} {handed : List Handed}
      {ending : Outcome α} (rest : Hands l (next flow) handed ending l') :
      Hands l (.perform (.deliver message) next)
        (⟨message, flow⟩ :: handed) ending l'
  /-- The payload is never done with. -/
  | waits (l : Line) (message : Payload) (next : Flow → Program feed α) :
      Hands l (.perform (.deliver message) next) [] .stalled l

-- ================================================================== heeding

/-- Handing over a message. -/
def FeedOp.Delivers (op : FeedOp) : Prop := ∃ message, op = .deliver message

/-- A channel that hands over nothing more once it is told to stop. -/
def Program.Heeds : Program feed α → Prop
  | .done _ => True
  | .panic _ => True
  | .perform (.wire _) next => ∀ answer, (next answer).Heeds
  | .perform (.deliver _) next =>
      (next .proceed).Heeds ∧ (next .stop).Without FeedOp.Delivers

variable {l l' : Line} {x : Program feed α} {handed : List Handed}
  {ending : Outcome α}

theorem Hands.nothing (h : Hands l x handed ending l')
    (silent : x.Without FeedOp.Delivers) : handed = [] := by
  induction h with
  | done | panicked | waits => rfl
  | wire op rest ih => exact ih (silent.2 _)
  | taken message flow rest ih => exact absurd ⟨message, rfl⟩ silent.1

/-- Of a channel that heeds, more was wanted after every payload but the
last. -/
theorem Hands.heeded (h : Hands l x handed ending l') (heeds : x.Heeds) :
    ∀ h ∈ handed.dropLast, h.flow = .proceed := by
  induction h with
  | done | panicked | waits => exact List.forall_mem_nil _
  | wire op rest ih => exact ih (heeds _)
  | @taken l l' message flow next handed ending rest ih =>
      cases flow with
      | stop =>
          rw [rest.nothing heeds.2]
          exact List.forall_mem_nil _
      | proceed =>
          have others := ih heeds.1
          cases handed with
          | nil => exact List.forall_mem_nil _
          | cons h handed => exact List.forall_mem_cons.mpr ⟨rfl, others⟩

-- =============================================================== a loopback

namespace Program

theorem Without.heeds (h : x.Without FeedOp.Delivers) : x.Heeds := by
  induction x with
  | done a => exact trivial
  | panic p => exact trivial
  | perform op next ih =>
      cases op with
      | wire op => exact fun answer => ih answer (h.2 answer)
      | deliver message => exact absurd ⟨message, rfl⟩ h.1

/-- Something else may be done before and behind. -/
theorem Heeds.bind {f : α → Program feed β} (hx : x.Heeds)
    (hf : ∀ a, (f a).Without FeedOp.Delivers) : (x.bind f).Heeds := by
  induction x with
  | done a => exact (hf a).heeds
  | panic p => exact trivial
  | perform op next ih =>
      cases op with
      | wire op => exact fun answer => ih answer (hx answer)
      | deliver message => exact ⟨ih .proceed hx.1, hx.2.bind hf⟩

/-- The loopback channel hands over nothing if its responder does not. -/
theorem Without.forward (h : x.Without FeedOp.Delivers) (context : CallContext)
    (w : Option ErrorInfo) :
    (receive (Loopback.forward context) w x).Without FeedOp.Delivers := by
  induction x generalizing w with
  | done a => exact trivial
  | panic p => exact trivial
  | perform op next ih =>
      cases op with
      | wire op => exact ⟨nofun, fun answer => ih answer (h.2 answer) w⟩
      | deliver message => exact absurd ⟨message, rfl⟩ h.1

/-- It heeds what it is told if its responder does: a reply that is
withheld is not handed over. -/
theorem Heeds.forward (h : x.Heeds) (context : CallContext)
    (w : Option ErrorInfo) :
    (receive (Loopback.forward context) w x).Heeds := by
  induction x generalizing w with
  | done a => exact trivial
  | panic p => exact trivial
  | perform op next ih =>
      cases op with
      | wire op => exact fun answer => ih answer (h answer) w
      | deliver message =>
          intro standing
          cases standing with
          | error e => exact (h.2.forward context (some e)).heeds
          | ok u => exact ⟨ih .proceed h.1 w, h.2.forward context w⟩

end Program

/-- So does the whole of a call. -/
theorem Loopback.heeds_dispatch (b : Loopback) {context : CallContext}
    {method : MethodPath} {requests : List Payload}
    (heeds : ∀ responder,
      b.responders.get? compare method.text = some responder →
      (responder context requests).Heeds) :
    (b.dispatch context method requests).Heeds := by
  intro standing
  cases standing with
  | error e => exact trivial
  | ok u =>
      intro listed
      dsimp only
      cases found : b.responders.get? compare method.text with
      | none => exact trivial
      | some responder =>
          refine ((heeds responder found).forward context none).bind fun r => ?_
          obtain ⟨withheld, outcome⟩ := r
          cases outcome with
          | error e => exact trivial
          | ok u => cases withheld <;> exact trivial

end

end PluginRpc
