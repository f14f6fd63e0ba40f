/-
The algebra of runs.

A client is put together from smaller programs: it goes on with one where
another is done, puts a fence around a third, asks a question, fails the
response. `CallProgram.run` runs the whole tree; the equations here say
what a run of the whole is in terms of runs of the parts, so that nothing
behind this file looks at a tree again.

A run that stalls has no continuation and no fence: both pass it on. What
a run did before it ended is `performed`, the operations in the order in
which they were answered.
-/
import PluginRpc.Call.Run

namespace PluginRpc

variable {α β : Type}

namespace CallProgram

/-- Where an operation is answered the run goes on with the answer. -/
theorem run_perform (st : CallState) (op : call.Op)
    (next : call.Answer op → CallProgram α) :
    run st (.perform op next)
      = match CallOp.run? st op with
        | none => (.stalled, st)
        | some (answer, st') => run st' (next answer) := by
  cases answered : CallOp.run? st op with
  | none => rw [run, answered]
  | some result => rw [run, answered]

-- ============================================================ composition

/-- What comes of a run that is gone on with. -/
def andThen (f : α → CallProgram β) :
    Outcome α × CallState → Outcome β × CallState
  | (.returned a, st) => run st (f a)
  | (.panicked p, st) => (.panicked p, st)
  | (.stalled, st) => (.stalled, st)

/-- Where one program is done the run of the next begins. -/
theorem run_bind (st : CallState) (x : CallProgram α)
    (f : α → CallProgram β) :
    run st (x.bind f) = andThen f (run st x) := by
  induction x generalizing st with
  | done a => rfl
  | panic p => rfl
  | perform op next ih =>
      rw [Program.perform_bind, run, run]
      cases CallOp.run? st op with
      | none => rfl
      | some result => exact ih result.1 result.2

/-- How the outcome of a run is seen from outside a fence. -/
def fenced (scope : String) : Outcome α → Outcome (Except ErrorInfo α)
  | .returned a => .returned (.ok a)
  | .panicked p => .returned (.error (p.toError scope))
  | .stalled => .stalled

/-- A fence changes how a run ends and nothing that it does. -/
theorem run_guard (scope : String) (st : CallState) (x : CallProgram α) :
    run st (x.guard scope) = (fenced scope (run st x).1, (run st x).2) := by
  induction x generalizing st with
  | done a => rfl
  | panic p => rfl
  | perform op next ih =>
      rw [Program.guard, run, run]
      cases CallOp.run? st op with
      | none => rfl
      | some result => exact ih result.1 result.2

/-- A fence around a program that can fail of itself. -/
theorem run_guardResult (scope : String) (st : CallState)
    (x : CallProgram (Except ErrorInfo α)) :
    run st (x.guardResult scope)
      = match run st x with
        | (.returned outcome, st') => (.returned outcome, st')
        | (.panicked p, st') => (.returned (.error (p.toError scope)), st')
        | (.stalled, st') => (.stalled, st') := by
  rw [Program.guardResult, run_bind, run_guard]
  obtain ⟨outcome, st'⟩ := run st x
  cases outcome with
  | returned a => cases a <;> rfl
  | panicked p => rfl
  | stalled => rfl

-- ====================================================== single operations

/-- Looking at a context changes nothing. -/
theorem run_check (st : CallState) (c : CallContext) :
    run st (Program.check c)
      = (.returned (c.check st.line.surroundings), st) := rfl

end CallProgram

/-- The state of a call whose response record has been reset; a response
stream is as it was. -/
def CallState.cleared (st : CallState) : CallState :=
  match st.response with
  | .record _ => { st with response := .record .empty }
  | .stream _ => st

namespace CallState

variable (st : CallState)

theorem cleared_line : st.cleared.line = st.line := by
  unfold cleared
  split <;> rfl

theorem cleared_dialled : st.cleared.dialled = st.dialled := by
  unfold cleared
  split <;> rfl

theorem cleared_shape : st.cleared.response.shape = st.response.shape := by
  obtain ⟨response, line, dialled⟩ := st
  cases response <;> rfl

theorem cleared_of_stream {o : Outlet} (h : st.response = .stream o) :
    st.cleared = st := by
  unfold cleared
  rw [h]

end CallState

namespace CallProgram

/-- Resetting the response record. -/
theorem run_reset (st : CallState) :
    run st (edit .reset) = (.returned (), st.cleared) := by
  obtain ⟨response, line, dialled⟩ := st
  cases response <;> rfl

/-- Failing a response record attaches the error. -/
theorem run_fail_record {st : CallState} {r : Record}
    (h : st.response = .record r) (e : ErrorInfo) :
    run st (fail .record e)
      = (.returned (), { st with response := .record (r.setError e) }) := by
  obtain ⟨response, line, dialled⟩ := st
  subst h
  rfl

/-- Pushing to a response stream. -/
theorem run_push {st : CallState} {o : Outlet}
    (h : st.response = .stream o) (r : Record) :
    run st (push r)
      = match o.push? r with
        | none => (.stalled, st)
        | some (accepted, o') =>
            (.returned accepted, { st with response := .stream o' }) := by
  obtain ⟨response, line, dialled⟩ := st
  subst h
  have pushed : CallOp.run? ⟨.stream o, line, dialled⟩ (.push r)
      = (o.push? r).map fun result =>
          (result.1, ⟨.stream result.2, line, dialled⟩) := rfl
  refine (run_perform _ (CallOp.push r) Program.done).trans ?_
  rw [pushed]
  cases o.push? r with
  | none => rfl
  | some result => rfl

/-- Failing a response stream pushes a failed record and ends the stream,
unless the push waits for ever. -/
theorem run_fail_stream {st : CallState} {o : Outlet}
    (h : st.response = .stream o) (e : ErrorInfo) :
    run st (fail .stream e)
      = match o.push? (.failed e) with
        | none => (.stalled, st)
        | some (_, o') =>
            (.returned (),
              { st with response :=
                  .stream { o' with stream := o'.stream.endStream } }) := by
  have parts : fail .stream e
      = (push (.failed e)).bind fun _ => endStream := rfl
  rw [parts, run_bind, run_push h]
  cases o.push? (.failed e) with
  | none => rfl
  | some result => rfl

-- ==================================================== what a run performs

/-- The operations of a run, in order; one that waits for ever is none of
them. -/
def performed (st : CallState) : CallProgram α → List CallOp
  | .done _ => []
  | .panic _ => []
  | .perform op next =>
      match CallOp.run? st op with
      | none => []
      | some (answer, st') => op :: performed st' (next answer)

end CallProgram

end PluginRpc
