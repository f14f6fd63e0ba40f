/-
What goes out over the channel in a run.

`dial` marks that a call is handed to the channel, so a run's `dialled`
grows by exactly the calls that were handed over. Code that dials nothing
leaves it as it is, and that is so of everything a channel does, of taking
its replies and of failing or ending a response: none of these can call a
channel by itself.

Whatever a channel does in a call touches its own line and nothing else.
In a call that is answered by one message there is no receiver either, so
the call can be run on the line by itself, and the call's own state comes
out of it as it went in.
-/
import PluginRpc.Proofs.Channel.Delivery

namespace PluginRpc

-- ========================================================== who dials nothing

/-- Handing a call to the channel. -/
def CallOp.Dials : CallOp → Prop
  | .dial _ => True
  | _ => False

namespace Program

variable {S : Signature} {α β σ : Type}

theorem Without.bind {marked : S.Op → Prop} {x : Program S α}
    {f : α → Program S β} (hx : x.Without marked)
    (hf : ∀ a, (f a).Without marked) : (x.bind f).Without marked := by
  induction x with
  | done a => exact hf a
  | panic p => exact trivial
  | perform op next ih => exact ⟨hx.1, fun a => ih a (hx.2 a)⟩

variable {marked : CallOp → Prop}

/-- Nothing that a channel does is marked where only other operations
are. -/
theorem without_within (unmarked : ∀ op, ¬ marked (.wire op))
    (x : Program wire α) : (x.within : CallProgram α).Without marked := by
  induction x with
  | done a => exact trivial
  | panic p => exact trivial
  | perform op next ih =>
      exact ⟨unmarked op, ih⟩

/-- Nor is anything in a channel's delivering its replies, unless it is
the receiver that does it. -/
theorem without_receive (unmarked : ∀ op, ¬ marked (.wire op))
    {sink : σ → Payload → CallProgram (σ × Flow)}
    (silent : ∀ s message, (sink s message).Without marked) (s : σ)
    (x : Program feed α) : (receive sink s x).Without marked := by
  induction x generalizing s with
  | done a => exact trivial
  | panic p => exact trivial
  | perform op next ih =>
      cases op with
      | wire op =>
          exact ⟨unmarked op, fun answer => ih answer s⟩
      | deliver message =>
          exact (silent s message).bind fun r => ih r.2 r.1

end Program

namespace CallProgram

variable {α : Type}

theorem without_push (r : Record) : (push r).Without CallOp.Dials :=
  ⟨id, fun _ => trivial⟩

theorem without_edit (e : Record.Edit) : (edit e).Without CallOp.Dials :=
  ⟨id, fun _ => trivial⟩

theorem without_endStream : endStream.Without CallOp.Dials :=
  ⟨id, fun _ => trivial⟩

theorem without_fail (shape : ResponseShape) (e : ErrorInfo) :
    (fail shape e).Without CallOp.Dials := by
  cases shape with
  | record => exact without_edit _
  | stream => exact (without_push _).bind fun _ => without_endStream

end CallProgram

-- ================================================================ the runs

theorem CallOp.run?_dialled {st st' : CallState} {op : CallOp}
    {answer : op.Answer} (silent : ¬ op.Dials)
    (answered : CallOp.run? st op = some (answer, st')) :
    st'.dialled = st.dialled := by
  obtain ⟨response, line, dialled⟩ := st
  cases op with
  | dial c => exact absurd trivial silent
  | wire op =>
      cases answered
      rfl
  | inspect | edit e | endStream | close | transfer =>
      cases response <;> cases answered <;> rfl
  | push r =>
      cases response with
      | record prior =>
          cases answered
          rfl
      | stream o =>
          obtain ⟨result, -, same⟩ := Option.map_eq_some_iff.mp answered
          cases same
          rfl

namespace CallProgram

variable {α : Type}

theorem run_dialled {x : CallProgram α} (silent : x.Without CallOp.Dials)
    (st : CallState) : (run st x).2.dialled = st.dialled := by
  induction x generalizing st with
  | done a => rfl
  | panic p => rfl
  | perform op next ih =>
      rw [run_perform]
      cases answered : CallOp.run? st op with
      | none => rfl
      | some result =>
          have later := ih result.1 (silent.2 result.1) result.2
          exact later.trans (CallOp.run?_dialled silent.1 answered)

/-- Where one call is dialled and no other behind it, it is the one that
the run adds. -/
theorem run_dial_bind {f : Unit → CallProgram α}
    (silent : (f ()).Without CallOp.Dials) (st : CallState) (c : ChannelCall) :
    (run st ((dial c).bind f)).2.dialled = st.dialled ++ [c] :=
  run_dialled silent { st with dialled := st.dialled ++ [c] }

end CallProgram

/-- The end of a call's handler is told without calling a channel. -/
theorem DispatchTable.conclude_dialled (shape : ResponseShape)
    (result : Outcome (Except ErrorInfo Unit) × CallState) :
    (conclude shape result).2.dialled = result.2.dialled := by
  obtain ⟨outcome, st⟩ := result
  cases outcome with
  | returned verdict =>
      cases verdict with
      | error e => exact CallProgram.run_dialled (CallProgram.without_fail ..) st
      | ok u => exact CallProgram.run_dialled CallProgram.without_endStream st
  | panicked p => exact CallProgram.run_dialled (CallProgram.without_fail ..) st
  | stalled => rfl

-- ====================================================== calls on the line alone

/-- What comes of a run that cannot be held up. -/
def Ending.outcome {α : Type} : Ending α → Outcome α
  | .returned a => .returned a
  | .panicked p => .panicked p

/-- A channel's part of a call runs on the line, and leaves the rest of
the call's state alone. -/
theorem CallProgram.run_within {α : Type} (st : CallState)
    (x : Program wire α) :
    run st x.within
      = ((x.runWire st.line).1.outcome,
          { st with line := (x.runWire st.line).2 }) := by
  induction x generalizing st with
  | done a => rfl
  | panic p => rfl
  | perform op next ih => exact ih _ { st with line := (WireOp.run st.line op).2 }

-- ============================================================ ways of calling

namespace Channel

variable (channel : Channel)

/-- What a channel does in a call that is answered by one message. -/
inductive Answers : ChannelCall → Program wire (Except ErrorInfo Payload) → Prop
  | unary (context : CallContext) (method : MethodPath) (payload : Payload) :
      Answers ⟨.unary, context, method, [payload]⟩
        (channel.unary context method payload)
  | clientStreaming (context : CallContext) (method : MethodPath)
      (payloads : List Payload) :
      Answers ⟨.clientStreaming, context, method, payloads⟩
        (channel.clientStreaming context method payloads)

/-- What a channel does in a call that is answered by several. -/
inductive Delivers : ChannelCall → Program feed (Except ErrorInfo Unit) → Prop
  | serverStreaming (context : CallContext) (method : MethodPath)
      (payload : Payload) :
      Delivers ⟨.serverStreaming, context, method, [payload]⟩
        (channel.serverStreaming context method payload)
  | bidirectional (context : CallContext) (method : MethodPath)
      (payloads : List Payload) :
      Delivers ⟨.bidirectional, context, method, payloads⟩
        (channel.bidirectional context method payloads)

/-- Another channel does in a call what this one does; in any other call
it may do something else. -/
structure MatchedBy (other : Channel) (call : ChannelCall) : Prop where
  answers : ∀ x, channel.Answers call x → other.Answers call x
  delivers : ∀ x, channel.Delivers call x → other.Delivers call x

end Channel

end PluginRpc
