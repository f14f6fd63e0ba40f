/-
What a host gets from the entries of an opened module.

A module may export an entry or not; the code behind it may make
something, fail or panic; and what it makes may be of another build. The
host tells only three things apart, and they are the constructors of
`Yield`: it is left without, it has something of another build, or it
has something to work with. `YieldsSchema` and `YieldsFactory` say when
it is which, and in what surroundings the module's code leaves the
process. Every module yields something, however its code behaves.
-/
import PluginRpc.Plugin.Loader
import PluginRpc.Proofs.Ambient

namespace PluginRpc

/-- What a host has of an entry. -/
inductive Yield (α : Type) where
  /-- Nothing: there is no entry, or nothing came of it. -/
  | lacking (cause : LoadCause)
  /-- Something that another build made. -/
  | foreign (stamp : AbiStamp)
  | ours (a : α)

/-- What the loader is told of it. -/
def Yield.result {α : Type} (path : Path) : Yield α → Except LoadError α
  | .lacking cause => .error ⟨path, cause⟩
  | .foreign stamp => .error ⟨path, .foreignBuild stamp⟩
  | .ours a => .ok a

-- ============================================================= the stamps

namespace AbiStamp

theorem verify_foreign {s : AbiStamp} (other : s ≠ current) (path : Path) :
    s.verify path = .error ⟨path, .foreignBuild s⟩ := if_neg other

end AbiStamp

namespace Module

variable {m : Module} {w : Surroundings}

-- ======================================================= the schema entry

/-- What a host has of a module's schema entry, and the surroundings
behind the look. -/
inductive YieldsSchema (m : Module) (w : Surroundings) :
    Yield PluginApi → Surroundings → Prop
  | missing (absent : m.schema = none) :
      YieldsSchema m w (.lacking (.missingEntry .schema)) w
  | panicked {make : SchemaMaker} {p : Panic} {w' : Surroundings}
      (present : m.schema = some make)
      (ran : make.runAmbient w = (.panicked p, w')) :
      YieldsSchema m w (.lacking (.nullEntry .schema)) w'
  | foreign {make : SchemaMaker} {api : PluginApi} {w' : Surroundings}
      (present : m.schema = some make)
      (ran : make.runAmbient w = (.returned api, w'))
      (other : api.stamp ≠ .current) :
      YieldsSchema m w (.foreign api.stamp) w'
  | ours {make : SchemaMaker} {api : PluginApi} {w' : Surroundings}
      (present : m.schema = some make)
      (ran : make.runAmbient w = (.returned api, w'))
      (same : api.stamp = .current) :
      YieldsSchema m w (.ours api) w'

/-- Every module yields a schema or the lack of one. -/
theorem yieldsSchema_total (m : Module) (w : Surroundings) :
    ∃ y w', m.YieldsSchema w y w' := by
  cases present : m.schema with
  | none => exact ⟨_, _, .missing present⟩
  | some make =>
      rcases ran : make.runAmbient w with ⟨ending, w'⟩
      cases ending with
      | panicked p => exact ⟨_, _, .panicked present ran⟩
      | returned api =>
          by_cases same : api.stamp = .current
          · exact ⟨_, _, .ours present ran same⟩
          · exact ⟨_, _, .foreign present ran same⟩

/-- The look at a schema entry that is there. -/
theorem runAmbient_resolveSchema {make : SchemaMaker}
    (present : m.schema = some make) (path : Path) (w : Surroundings) :
    (Loader.resolveSchema path m).runAmbient w
      = match make.runAmbient w with
        | (.returned api, w') =>
            (.returned ((api.stamp.verify path).map fun _ => api), w')
        | (.panicked _, w') =>
            (.returned (.error ⟨path, .nullEntry .schema⟩), w') := by
  unfold Loader.resolveSchema schemaEntry? exportApi
  rw [present, Option.map_some]
  dsimp only
  rw [Program.bind_eq, Program.runAmbient_bind, Program.bind_eq,
    Program.runAmbient_bind, Program.runAmbient_guard]
  obtain ⟨ending, w'⟩ := make.runAmbient w
  cases ending with
  | returned api =>
      dsimp only [Program.pure_eq, Program.runAmbient]
      cases api.stamp.verify path <;> rfl
  | panicked p => rfl

/-- The loader is told what the module yields. -/
theorem YieldsSchema.run {y : Yield PluginApi} {w' : Surroundings}
    (h : m.YieldsSchema w y w') (path : Path) :
    (Loader.resolveSchema path m).runAmbient w
      = (.returned (y.result path), w') := by
  cases h with
  | missing absent =>
      unfold Loader.resolveSchema schemaEntry?
      rw [absent]
      rfl
  | panicked present ran =>
      rw [runAmbient_resolveSchema present, ran]
      rfl
  | foreign present ran other =>
      rw [runAmbient_resolveSchema present, ran]
      dsimp only
      rw [AbiStamp.verify_foreign other]
      rfl
  | ours present ran same =>
      rw [runAmbient_resolveSchema present, ran]
      dsimp only
      rw [same]
      rfl

-- ====================================================== the factory entry

/-- What a host has of a module's factory entry, given the hint that
crosses, and the surroundings behind the look. -/
inductive YieldsFactory (m : Module) (hint : Option String)
    (w : Surroundings) : Yield FactoryExport → Surroundings → Prop
  | missing (absent : m.factory = none) :
      YieldsFactory m hint w (.lacking (.missingEntry .clientFactory)) w
  | failed {make : FactoryMaker} {e : ErrorInfo} {w' : Surroundings}
      (present : m.factory = some make)
      (ran : (make hint).runAmbient w = (.returned (.error e), w')) :
      YieldsFactory m hint w (.lacking (.nullEntry .clientFactory)) w'
  | panicked {make : FactoryMaker} {p : Panic} {w' : Surroundings}
      (present : m.factory = some make)
      (ran : (make hint).runAmbient w = (.panicked p, w')) :
      YieldsFactory m hint w (.lacking (.nullEntry .clientFactory)) w'
  | foreign {make : FactoryMaker} {f : FactoryExport} {w' : Surroundings}
      (present : m.factory = some make)
      (ran : (make hint).runAmbient w = (.returned (.ok f), w'))
      (other : f.stamp ≠ .current) :
      YieldsFactory m hint w (.foreign f.stamp) w'
  | ours {make : FactoryMaker} {f : FactoryExport} {w' : Surroundings}
      (present : m.factory = some make)
      (ran : (make hint).runAmbient w = (.returned (.ok f), w'))
      (same : f.stamp = .current) :
      YieldsFactory m hint w (.ours f) w'

/-- Every module yields a factory or the lack of one. -/
theorem yieldsFactory_total (m : Module) (hint : Option String)
    (w : Surroundings) : ∃ y w', m.YieldsFactory hint w y w' := by
  cases present : m.factory with
  | none => exact ⟨_, _, .missing present⟩
  | some make =>
      rcases ran : (make hint).runAmbient w with ⟨ending, w'⟩
      cases ending with
      | panicked p => exact ⟨_, _, .panicked present ran⟩
      | returned made =>
          cases made with
          | error e => exact ⟨_, _, .failed present ran⟩
          | ok f =>
              by_cases same : f.stamp = .current
              · exact ⟨_, _, .ours present ran same⟩
              · exact ⟨_, _, .foreign present ran same⟩

end Module

-- =============================================================== the hint

/-- The hint for a module's client factory: what the settings name, or
else the configuration; a hint with a zero in it crosses as none. -/
def LoaderConfig.hintFor (c : LoaderConfig) (settings : PluginSettings) :
    Option String :=
  (settings.service.or c.defaultServiceHint).filter fun hint =>
    !hint.toList.contains '\x00'

namespace Loader

variable (l : Loader)

theorem hint?_eq (settings : PluginSettings) :
    l.hint? settings = (l.config.hintFor settings).map Payload.ofText := by
  unfold hint? LoaderConfig.hintFor
  cases settings.service.or l.config.defaultServiceHint with
  | none => rfl
  | some hint =>
      simp only [Option.bind_some, Option.filter_some]
      cases hint.toList.contains '\x00' <;> rfl

/-- What the loader makes of a module's factory: to be without is an
error or a reason, as the configuration has it; another build is an
error in any case. -/
def judge (path : Path) :
    Yield FactoryExport → Except LoadError (Except String FactoryExport)
  | .lacking cause => l.degrade ⟨path, cause⟩
  | .foreign stamp => .error ⟨path, .foreignBuild stamp⟩
  | .ours f => .ok (.ok f)

/-- The look at a factory entry that is there. The hint crosses as bytes
that encode a text, so it reaches the code behind the entry as it was. -/
theorem runAmbient_resolveFactory {m : Module} {make : FactoryMaker}
    (present : m.factory = some make) (path : Path)
    (settings : PluginSettings) (w : Surroundings) :
    (l.resolveFactory path m settings).runAmbient w
      = match (make (l.config.hintFor settings)).runAmbient w with
        | (.returned (.ok f), w') =>
            (.returned ((f.stamp.verify path).map fun _ => .ok f), w')
        | (.returned (.error _), w') =>
            (.returned (l.degrade ⟨path, .nullEntry .clientFactory⟩), w')
        | (.panicked _, w') =>
            (.returned (l.degrade ⟨path, .nullEntry .clientFactory⟩),
              w') := by
  have read : (l.hint? settings).bind Payload.text?
      = l.config.hintFor settings := by
    rw [hint?_eq]
    cases l.config.hintFor settings with
    | none => rfl
    | some text => exact Payload.text?_ofText text
  unfold resolveFactory Module.factoryEntry? exportFactory
  rw [present, Option.map_some]
  dsimp only
  rw [read, Program.bind_eq, Program.runAmbient_bind, Program.bind_eq,
    Program.runAmbient_bind, Program.runAmbient_guardResult]
  obtain ⟨ending, w'⟩ := (make (l.config.hintFor settings)).runAmbient w
  cases ending with
  | returned made =>
      cases made with
      | error e => rfl
      | ok f =>
          dsimp only [Program.pure_eq, Program.runAmbient]
          cases f.stamp.verify path <;> rfl
  | panicked p => rfl

end Loader

/-- The loader judges what the module yields for its hint. -/
theorem Module.YieldsFactory.run {l : Loader} {m : Module}
    {settings : PluginSettings} {w w' : Surroundings}
    {y : Yield FactoryExport}
    (h : m.YieldsFactory (l.config.hintFor settings) w y w') (path : Path) :
    (l.resolveFactory path m settings).runAmbient w
      = (.returned (l.judge path y), w') := by
  cases h with
  | missing absent =>
      unfold Loader.resolveFactory Module.factoryEntry?
      rw [absent]
      rfl
  | failed present ran =>
      rw [l.runAmbient_resolveFactory present, ran]
      rfl
  | panicked present ran =>
      rw [l.runAmbient_resolveFactory present, ran]
      rfl
  | foreign present ran other =>
      rw [l.runAmbient_resolveFactory present, ran]
      dsimp only
      rw [AbiStamp.verify_foreign other]
      rfl
  | ours present ran same =>
      rw [l.runAmbient_resolveFactory present, ran]
      dsimp only
      rw [same]
      rfl

end PluginRpc
