/-
The algebra of runs that need nothing but their surroundings.

What the entries of modules do is run by `Program.runAmbient`. Nothing
can hold such a run up, so it has two endings only, and a fence leaves
one.
-/
import PluginRpc.Context

namespace PluginRpc.Program

variable {α β : Type}

/-- Where one program is done the run of the next begins. -/
theorem runAmbient_bind (w : Surroundings)
    (x : Program PluginRpc.ambient α)
    (f : α → Program PluginRpc.ambient β) :
    (x.bind f).runAmbient w
      = match x.runAmbient w with
        | (.returned a, w') => (f a).runAmbient w'
        | (.panicked p, w') => (.panicked p, w') := by
  induction x generalizing w with
  | done a => rfl
  | panic p => rfl
  | perform op next ih =>
      rw [perform_bind, runAmbient, runAmbient]
      exact ih _ _

/-- Behind a fence a run returns. -/
theorem runAmbient_guard (scope : String) (w : Surroundings)
    (x : Program PluginRpc.ambient α) :
    (x.guard scope).runAmbient w
      = match x.runAmbient w with
        | (.returned a, w') => (.returned (.ok a), w')
        | (.panicked p, w') =>
            (.returned (.error (p.toError scope)), w') := by
  induction x generalizing w with
  | done a => rfl
  | panic p => rfl
  | perform op next ih =>
      rw [guard, runAmbient, runAmbient]
      exact ih _ _

/-- A fence around a program that can fail of itself. -/
theorem runAmbient_guardResult (scope : String) (w : Surroundings)
    (x : Program PluginRpc.ambient (Except ErrorInfo α)) :
    (x.guardResult scope).runAmbient w
      = match x.runAmbient w with
        | (.returned outcome, w') => (.returned outcome, w')
        | (.panicked p, w') =>
            (.returned (.error (p.toError scope)), w') := by
  rw [guardResult, runAmbient_bind, runAmbient_guard]
  obtain ⟨ending, w'⟩ := x.runAmbient w
  cases ending with
  | returned outcome => cases outcome <;> rfl
  | panicked p => rfl

end PluginRpc.Program
