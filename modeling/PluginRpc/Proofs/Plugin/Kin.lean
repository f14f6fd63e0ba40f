/-
Where the holdings of one module come from.

A module gives rise to one plugin at most, when it is opened, and the
number it gets then was no module's before. So as long as the plugin
lives, all that lives of its module goes back to it: the other plugins
are copies of it, the factories are copies of the one in it, and the
clients were made by that factory.

The counts of custody need that. Whether the last copy of a plugin takes a
share of the factory with it is read off the copy that is given up, and
what makes a client is taken from whichever holding has a factory in it.
-/
import PluginRpc.Plugin.Host
import PluginRpc.Proofs.Ambient

namespace PluginRpc

/-- A client that a factory has made of some channel. -/
def ClientFactory.Makes (f : ClientFactory) (c : PluginClient) : Prop :=
  ∃ channel w w', (f.create channel).runAmbient w = (.returned (.ok c), w')

/-- A client is of its factory's module. -/
theorem ClientFactory.Makes.moduleId_eq {f : ClientFactory}
    {c : PluginClient} (h : f.Makes c) : c.moduleId = f.moduleId := by
  obtain ⟨channel, w, w', run⟩ := h
  rw [create, Program.bind_eq, Program.runAmbient_bind] at run
  cases made :
    ((f.maker channel).guardResult "client factory").runAmbient w with
  | mk ending w₁ =>
      rw [made] at run
      cases ending with
      | panicked p => cases run
      | returned outcome =>
          cases outcome with
          | error e => cases run
          | ok inner => cases run; rfl

namespace Holding

/-- A holding goes back to a plugin of the same module. -/
def StemsFrom (p : LoadedPlugin) : Holding → Prop
  | plugin q => q = p
  | factory f => p.factory = some f
  | client c => ∃ f, p.factory = some f ∧ f.Makes c

theorem StemsFrom.factory_eq {p : LoadedPlugin} {x : Holding}
    {f : ClientFactory} (h : x.StemsFrom p) (made : x.factory? = some f) :
    p.factory = some f := by
  cases x with
  | plugin q => cases h; exact made
  | factory g => cases made; exact h
  | client c => cases made

end Holding

/-- Among all that lives the holdings of a module stem from its plugin,
and what has a factory in it is of the factory's module. -/
structure Kin (living : List Holding) : Prop where
  own : ∀ x ∈ living, ∀ f, x.factory? = some f → f.moduleId = x.moduleId
  stem : ∀ p, .plugin p ∈ living → ∀ x ∈ living, x.moduleId = p.moduleId →
    x.StemsFrom p

namespace Kin

variable {living living' : List Holding} {p : LoadedPlugin}
  {f : ClientFactory} {c : PluginClient} {x : Holding}

theorem empty : Kin [] :=
  ⟨fun _ h => absurd h List.not_mem_nil, fun _ h => absurd h List.not_mem_nil⟩

theorem mono (h : Kin living) (sub : ∀ x ∈ living', x ∈ living) :
    Kin living' where
  own x hx := h.own x (sub x hx)
  stem p hp x hx := h.stem p (sub _ hp) x (sub x hx)

/-- What comes stems from the plugin that is there, or all that is there
stems from what comes. -/
theorem cons (h : Kin living)
    (own : ∀ f, x.factory? = some f → f.moduleId = x.moduleId)
    (stems : ∀ p, .plugin p ∈ living → x.moduleId = p.moduleId →
      x.StemsFrom p)
    (leads : ∀ p, x = .plugin p → ∀ y ∈ living, y.moduleId = p.moduleId →
      y.StemsFrom p) : Kin (x :: living) where
  own y hy := by
    cases hy with
    | head => exact own
    | tail _ hy => exact h.own y hy
  stem p hp y hy same := by
    rcases List.mem_cons.mp hp with first | behind
    · rcases List.mem_cons.mp hy with rfl | hy
      · cases first
        rfl
      · exact leads p first.symm y hy same
    · rcases List.mem_cons.mp hy with rfl | hy
      · exact stems p behind same
      · exact h.stem p behind y hy same

theorem copyPlugin (h : Kin living) (there : .plugin p ∈ living) :
    Kin (.plugin p :: living) := by
  refine h.mono fun x hx => ?_
  rcases List.mem_cons.mp hx with rfl | hx
  · exact there
  · exact hx

/-- A copy of a factory that is there, by itself or in a plugin. -/
theorem copyFactory (h : Kin living) (there : x ∈ living)
    (made : x.factory? = some f) : Kin (.factory f :: living) := by
  refine h.cons (fun g of_f => ?_) (fun p hp same => ?_)
    fun p first => nomatch first
  · cases of_f
    rfl
  · have of_x : x.moduleId = p.moduleId :=
      (h.own x there f made).symm.trans same
    exact (h.stem p hp x there of_x).factory_eq made

theorem client (h : Kin living) (there : x ∈ living)
    (made : x.factory? = some f) (makes : f.Makes c) :
    Kin (.client c :: living) := by
  refine h.cons (fun g of_c => nomatch of_c) (fun p hp same => ?_)
    fun p first => nomatch first
  have of_x : x.moduleId = p.moduleId :=
    (h.own x there f made).symm.trans (makes.moduleId_eq.symm.trans same)
  exact ⟨f, (h.stem p hp x there of_x).factory_eq made, makes⟩

/-- A plugin of a module that nothing else is of. -/
theorem plugin (h : Kin living)
    (fresh : ∀ x ∈ living, x.moduleId ≠ p.moduleId)
    (own : ∀ f, p.factory = some f → f.moduleId = p.moduleId) :
    Kin (.plugin p :: living) := by
  refine h.cons own (fun q hq same => ?_) fun q first y hy same => ?_
  · exact absurd same.symm (fresh _ hq)
  · cases first
    exact absurd same (fresh y hy)

end Kin

end PluginRpc
