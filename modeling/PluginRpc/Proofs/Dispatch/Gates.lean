/-
Which handler a call reaches, and with what.

A call on a table's client is decided before any handler runs: either one
of three gates is closed, and the response fails with the error of the
first such gate, or one handler runs once. `Decides` gives the decision as
rules over the history of registrations, with a rule for each way it can
go. The rules exclude each other, so a call in which several gates are
closed still has one answer.

# Why the handlers come last

A decision names the attempt whose handler is to run, by its number, and
the invocation that the handler is given. It is chosen before the
handlers are: one decision is carried out for every `H`. So nothing of a
run depends on any handler but the one that the decision names, and that
one is asked once, with that invocation.
-/
import PluginRpc.Dispatch.Client
import PluginRpc.Proofs.Call.Run
import PluginRpc.Proofs.Dispatch.Registration

namespace PluginRpc.DispatchTable

open CallProgram

variable (t : DispatchTable) (channel : Channel) (context : CallContext)
  (key : DispatchKey) (request : Record) (shape : ResponseShape)

-- ====================================================== a run of a client

/-- The error of the first gate that is closed, or the route behind all of
them. -/
def gate (w : Surroundings) : Except ErrorInfo Route :=
  match t.route? key with
  | none => .error (t.unrouted key)
  | some r =>
      if r.function.kind.streamsResponses = shape.isStream then
        (context.check w).map fun _ => r
      else .error (client.misshapen r.method r.function.kind)

/-- What the handler of a route is given. -/
def invocation (r : Route) : Invocation :=
  ⟨context, channel, r.method, r.function, t.package.records, request⟩

/-- What is made of the end of a handler's run. -/
def conclude :
    Outcome (Except ErrorInfo Unit) × CallState → Outcome Unit × CallState
  | (.returned (.ok ()), st) => run st endStream
  | (.returned (.error e), st) => run st (fail shape e)
  | (.panicked p, st) => run st (fail shape (p.toError "dispatch handler"))
  | (.stalled, st) => (.stalled, st)

/-- The handler's run behind its fence, and what follows it. -/
theorem run_handler (st : CallState)
    (x : CallProgram (Except ErrorInfo Unit)) :
    run st ((x.guardResult "dispatch handler").bind fun
        | .ok () => endStream
        | .error e => fail shape e)
      = conclude shape (run st x) := by
  rw [run_bind, run_guardResult]
  obtain ⟨outcome, st'⟩ := run st x
  cases outcome with
  | returned result => cases result <;> rfl
  | panicked p => rfl
  | stalled => rfl

/-- A run of a client: the response is reset; then it fails at the first
closed gate, or the handler runs behind its fence and the rest depends on
how that ended. -/
theorem run_client (st : CallState) :
    run st (t.client channel context key request shape)
      = match t.gate context key shape st.line.surroundings with
        | .error e => run st.cleared (fail shape e)
        | .ok r =>
            conclude shape
              (run st.cleared (r.handler
                (t.invocation channel context request r) shape)) := by
  unfold client gate
  rw [Program.bind_eq, run_bind, run_reset]
  -- from here on the response is reset, and the line is as it was
  show run st.cleared (match t.route? key with | none => _ | some r => _) = _
  cases t.route? key with
  | none => rfl
  | some r =>
      dsimp only
      by_cases fits : r.function.kind.streamsResponses = shape.isStream
      · have passes : ¬ (r.function.kind.streamsResponses != shape.isStream)
            = true := fun h => bne_iff_ne.mp h fits
        rw [if_pos fits, if_neg passes, Program.bind_eq, run_bind, run_check,
          st.cleared_line]
        cases context.check st.line.surroundings with
        | error e => rfl
        | ok u => exact run_handler shape st.cleared _
      · rw [if_neg fits, if_pos (bne_iff_ne.mpr fits)]

-- =========================================================== the decision

/-- How a call on the table of a history is decided in given
surroundings: by an error, or for the handler of an attempt and what this
handler is given. -/
inductive Decides (package : PackageDecl) (H : Nat → Handler)
    (plan : List Address) (channel : Channel) (context : CallContext)
    (key : DispatchKey) (request : Record) (shape : ResponseShape)
    (w : Surroundings) : Except ErrorInfo (Nat × Invocation) → Prop
  /-- No registration for the key succeeded. -/
  | unrouted (never : ∀ k, ¬ Registers package H plan key k) :
      Decides package H plan channel context key request shape w
        (.error (.unimplemented ("no function routed at " ++ key.describe
          ++ " in package `" ++ package.name ++ "`")))
  /-- The key is served, but not in this shape. -/
  | misshapen {k : Nat} {service : ServiceDecl} {function : FunctionDecl}
      (first : RegistersFirst package H plan key k)
      (found : package.resolve? key = some (service, function))
      (unfit : function.kind.streamsResponses ≠ shape.isStream) :
      Decides package H plan channel context key request shape w
        (.error (.invalidArgument (
          (MethodPath.of package.name service.name function.name).text
            ++ " is " ++ function.kind.name ++ "; its response must be "
            ++ if function.kind.streamsResponses then "a record stream"
              else "a record")))
  /-- The call was cancelled before, whether or not it is also late. -/
  | cancelled {k : Nat} {service : ServiceDecl} {function : FunctionDecl}
      (first : RegistersFirst package H plan key k)
      (found : package.resolve? key = some (service, function))
      (fits : function.kind.streamsResponses = shape.isStream)
      (dead : w.isCancelled context.token = true) :
      Decides package H plan channel context key request shape w
        (.error (.cancelled "call cancelled by caller"))
  /-- The call is late and nothing else is wrong with it. -/
  | late {k : Nat} {service : ServiceDecl} {function : FunctionDecl}
      (first : RegistersFirst package H plan key k)
      (found : package.resolve? key = some (service, function))
      (fits : function.kind.streamsResponses = shape.isStream)
      (alive : w.isCancelled context.token = false)
      (overdue : context.deadline.isExpired w.now = true) :
      Decides package H plan channel context key request shape w
        (.error (.deadlineExceeded "call deadline elapsed"))
  /-- All gates are open: the handler of the first successful registration
  for the key runs. -/
  | handled {k : Nat} {service : ServiceDecl} {function : FunctionDecl}
      (first : RegistersFirst package H plan key k)
      (found : package.resolve? key = some (service, function))
      (fits : function.kind.streamsResponses = shape.isStream)
      (alive : w.isCancelled context.token = false)
      (early : context.deadline.isExpired w.now = false) :
      Decides package H plan channel context key request shape w
        (.ok (k, {
          context := context
          channel := channel
          method := .of package.name service.name function.name
          function := function
          records := package.records
          request := request }))

variable (package : PackageDecl) (H : Nat → Handler) (plan : List Address)

/-- The decision, worked out from the plan alone. -/
def decision (w : Surroundings) : Except ErrorInfo (Nat × Invocation) :=
  match served? package plan key, package.resolve? key with
  | some k, some (service, function) =>
      let method := .of package.name service.name function.name
      if function.kind.streamsResponses = shape.isStream then
        (context.check w).map fun _ =>
          (k, ⟨context, channel, method, function, package.records, request⟩)
      else .error (client.misshapen method function.kind)
  | _, _ => .error ((ofPackage package).unrouted key)

/-- The rules allow for the decision. -/
theorem decides_decision (w : Surroundings) :
    Decides package H plan channel context key request shape w
      (decision channel context key request shape package plan w) := by
  unfold decision
  cases serves : served? package plan key with
  | none =>
      refine .unrouted fun k h => ?_
      rw [registers_iff, serves] at h
      cases h
  | some k =>
      obtain ⟨⟨service, function⟩, found⟩ := resolve?_of_served? serves
      have first := (registersFirst_iff package H plan key k).mpr serves
      -- the gates behind the first, in the order in which they are asked
      rw [found]
      dsimp only
      by_cases fits : function.kind.streamsResponses = shape.isStream
      · rw [if_pos fits]
        unfold CallContext.check
        cases alive : w.isCancelled context.token with
        | true => exact .cancelled first found fits alive
        | false =>
            cases early : context.deadline.isExpired w.now with
            | true => exact .late first found fits alive early
            | false => exact .handled first found fits alive early
      · rw [if_neg fits]
        exact .misshapen first found fits

/-- The rules allow for no other. -/
theorem Decides.eq_decision {w : Surroundings}
    {verdict : Except ErrorInfo (Nat × Invocation)}
    (h : Decides package H plan channel context key request shape w verdict) :
    verdict = decision channel context key request shape package plan w := by
  unfold decision
  cases h with
  | unrouted never =>
      cases serves : served? package plan key with
      | none => rfl
      | some k => exact absurd ((registers_iff ..).mpr serves) (never k)
  | misshapen first found unfit =>
      rw [(registersFirst_iff ..).mp first, found]
      dsimp only
      rw [if_neg unfit]
      rfl
  | cancelled first found fits dead =>
      rw [(registersFirst_iff ..).mp first, found]
      simp only [fits, CallContext.check, dead, if_true]
      rfl
  | late first found fits alive overdue =>
      rw [(registersFirst_iff ..).mp first, found]
      simp only [fits, CallContext.check, alive, overdue, if_true]
      rfl
  | handled first found fits alive early =>
      rw [(registersFirst_iff ..).mp first, found]
      simp only [fits, CallContext.check, alive, early, if_true]
      rfl

/-- A decision carried out: a response that fails, or one run of one
handler. -/
def carryOut (st : CallState) :
    Except ErrorInfo (Nat × Invocation) → Outcome Unit × CallState
  | .error e => run st.cleared (fail shape e)
  | .ok (k, i) => conclude shape (run st.cleared (H k i shape))

/-- A run of the client carries the decision out. -/
theorem run_client_ofHistory (st : CallState) :
    run st ((ofHistory package H plan).client channel context key request
        shape)
      = carryOut shape H st
          (decision channel context key request shape package plan
            st.line.surroundings) := by
  rw [run_client]
  unfold gate decision
  rw [route?_ofHistory]
  cases serves : served? package plan key with
  | none =>
      unfold unrouted
      rw [ofHistory_package]
      rfl
  | some k =>
      obtain ⟨⟨service, function⟩, found⟩ := resolve?_of_served? serves
      rw [found]
      dsimp only [Option.bind_some, Option.map_some, routeTo]
      by_cases fits : function.kind.streamsResponses = shape.isStream
      · rw [if_pos fits, if_pos fits]
        cases context.check st.line.surroundings with
        | error e => rfl
        | ok u =>
            unfold invocation
            rw [ofHistory_package]
            rfl
      · rw [if_neg fits, if_neg fits]
        rfl

/-- A call reaches the handler that was first registered for its key, or
no handler. There is one decision by the rules, whichever handlers the
history registered; a call fails its response with the decision's error,
or else runs the named handler once, on the named invocation, and goes by
its end. -/
theorem call_reaches_first_registration (st : CallState) :
    ∃ verdict : Except ErrorInfo (Nat × Invocation), ∀ H : Nat → Handler,
      (∀ v, Decides package H plan channel context key request
          st.response.shape st.line.surroundings v ↔ v = verdict)
        ∧ run st ((ofHistory package H plan).client channel context key
            request st.response.shape)
          = carryOut st.response.shape H st verdict := by
  refine ⟨decision channel context key request st.response.shape package plan
    st.line.surroundings, fun H => ⟨fun v => ⟨fun h => ?_, fun h => ?_⟩, ?_⟩⟩
  · exact h.eq_decision
  · rw [h]
    exact decides_decision ..
  · exact run_client_ofHistory ..

end PluginRpc.DispatchTable
