/-
What the status of a candidate depends on.

It is read off the candidate's settings, its module and the
configuration, and not off what else the loader has or what else is to be
found. One thing is left through which other candidates can touch it: the
code of their modules runs first and leaves the surroundings changed.

`Alike` says of two surroundings that they make no difference to what a
module's entries offer, and a module is independent of another if what
the other's entries do never makes a difference to it. For a module that
is independent of those before it the fate in their company has the
status of the fate alone.
-/
import PluginRpc.Proofs.Plugin.Course

namespace PluginRpc

-- =========================================================== independence

namespace Module

/-- What a host has of a module's two entries, the schema looked at
first. -/
def Offers (m : Module) (hint : Option String) (w : Surroundings)
    (y : Yield PluginApi) (z : Yield FactoryExport) : Prop :=
  ∃ w' w'', m.YieldsSchema w y w' ∧ m.YieldsFactory hint w' z w''

/-- A module's entries offer the same in either surroundings. -/
def Alike (m : Module) (w v : Surroundings) : Prop :=
  ∀ hint y z, m.Offers hint w y z ↔ m.Offers hint v y z

/-- A module's code leads from some surroundings to others. -/
inductive Leads (m : Module) (w : Surroundings) : Surroundings → Prop
  | schema {y : Yield PluginApi} {v : Surroundings}
      (look : m.YieldsSchema w y v) : Leads m w v
  | factory {hint : Option String} {z : Yield FactoryExport}
      {v : Surroundings} (look : m.YieldsFactory hint w z v) : Leads m w v

/-- To a module's entries it is the same whether another module's entries
have run. -/
def IndependentOf (m other : Module) : Prop :=
  ∀ w v, other.Leads w v → m.Alike w v

variable {m other : Module} {w v u : Surroundings} {y : Yield PluginApi}

theorem Alike.refl (m : Module) (w : Surroundings) : m.Alike w w :=
  fun _ _ _ => Iff.rfl

theorem Alike.symm (h : m.Alike w v) : m.Alike v w :=
  fun hint y z => (h hint y z).symm

theorem Alike.trans (h : m.Alike w v) (h' : m.Alike v u) : m.Alike w u :=
  fun hint y z => (h hint y z).trans (h' hint y z)

theorem Alike.yieldsSchema (h : m.Alike w v) {w' : Surroundings}
    (schema : m.YieldsSchema w y w') : ∃ v', m.YieldsSchema v y v' := by
  -- `Alike` is about both entries; any look at the factory will do
  obtain ⟨z, w'', factory⟩ := m.yieldsFactory_total none w'
  obtain ⟨v', _, schema', _⟩ := (h none y z).mp ⟨w', w'', schema, factory⟩
  exact ⟨v', schema'⟩

theorem Alike.yieldsBoth (h : m.Alike w v) {hint : Option String}
    {z : Yield FactoryExport} {w' w'' : Surroundings}
    (schema : m.YieldsSchema w y w')
    (factory : m.YieldsFactory hint w' z w'') :
    ∃ v' v'', m.YieldsSchema v y v' ∧ m.YieldsFactory hint v' z v'' :=
  (h hint y z).mp ⟨w', w'', schema, factory⟩

theorem IndependentOf.alike_both (h : m.IndependentOf other)
    {hint : Option String} {z : Yield FactoryExport} {w' w'' : Surroundings}
    (schema : other.YieldsSchema w y w')
    (factory : other.YieldsFactory hint w' z w'') : m.Alike w w'' :=
  (h w w' (.schema schema)).trans (h w' w'' (.factory factory))

-- ------------------------------------------- modules with a schema entry

variable {make : SchemaMaker}

theorem YieldsSchema.transport (present : m.schema = some make)
    (same : (make.runAmbient w).1 = (make.runAmbient v).1)
    {w' : Surroundings} (look : m.YieldsSchema w y w') :
    m.YieldsSchema v y (make.runAmbient v).2 := by
  cases look with
  | missing absent =>
      rw [present] at absent
      cases absent
  | panicked found ran =>
      cases present.symm.trans found
      rw [ran] at same
      exact .panicked present (Prod.ext same.symm rfl)
  | foreign found ran other =>
      cases present.symm.trans found
      rw [ran] at same
      exact .foreign present (Prod.ext same.symm rfl) other
  | ours found ran ours =>
      cases present.symm.trans found
      rw [ran] at same
      exact .ours present (Prod.ext same.symm rfl) ours

/-- A module without a factory has no eye for a difference that its schema
entry does not see. -/
theorem Alike.of_schema (present : m.schema = some make)
    (absent : m.factory = none)
    (same : (make.runAmbient w).1 = (make.runAmbient v).1) :
    m.Alike w v := by
  have lacking : ∀ {hint z u u' t}, m.YieldsFactory hint u z u' →
      m.YieldsFactory hint t z t := by
    intro hint z u u' t look
    cases look with
    | missing _ => exact .missing absent
    | failed found _ | panicked found _ | foreign found _ _
    | ours found _ _ =>
        rw [absent] at found
        cases found
  refine fun hint y z => ⟨?_, ?_⟩
  · rintro ⟨_, _, schema, factory⟩
    exact ⟨_, _, schema.transport present same, lacking factory⟩
  · rintro ⟨_, _, schema, factory⟩
    exact ⟨_, _, schema.transport present same.symm, lacking factory⟩

/-- What such a module does to its surroundings its schema entry does. -/
theorem Leads.of_schema (present : m.schema = some make)
    (absent : m.factory = none) (leads : m.Leads w v) :
    v = w ∨ v = (make.runAmbient w).2 := by
  cases leads with
  | schema look =>
      cases look with
      | missing _ => exact .inl rfl
      | panicked found ran | foreign found ran _ | ours found ran _ =>
          cases present.symm.trans found
          exact .inr (congrArg Prod.snd ran).symm
  | factory look =>
      cases look with
      | missing _ => exact .inl rfl
      | failed found _ | panicked found _ | foreign found _ _
      | ours found _ _ =>
          rw [absent] at found
          cases found

end Module

-- ============================================ the same in another company

/-- To one candidate two file systems and two ways of opening modules are
the same. -/
structure SameFor (path : Path) (config : LoaderConfig)
    (files files' : Files) (backend backend' : Backend) : Prop where
  module : backend' path = backend path
  settings : ∀ place, config.settingsPath? path = some place →
    files' place = files place

variable {path : Path} {config : LoaderConfig} {files files' : Files}
  {backend backend' : Backend}

theorem SameFor.symm
    (same : SameFor path config files files' backend backend') :
    SameFor path config files' files backend' backend where
  module := same.module.symm
  settings place at_place := (same.settings place at_place).symm

theorem SameFor.companion
    (same : SameFor path config files files' backend backend')
    {result : Except ConfigError PluginSettings}
    (h : Companion config files path result) :
    Companion config files' path result := by
  cases h with
  | absent place_at no =>
      rw [← same.settings _ place_at] at no
      exact .absent place_at no
  | unreadable place_at file garbled =>
      rw [← same.settings _ place_at] at file garbled
      exact .unreadable place_at file garbled
  | malformed place_at file read bad =>
      rw [← same.settings _ place_at] at file read
      exact .malformed place_at file read bad
  | settings place_at file read good =>
      rw [← same.settings _ place_at] at file read
      exact .settings place_at file read good

namespace Loader

variable {l l' l₁ : Loader} {w w' v : Surroundings} {status : LoadStatus}

theorem Opens.moved
    (same : SameFor path l.config files files' backend backend')
    (config : l₁.config = l.config) {s : PluginSettings} {m : Module}
    (opens : l.Opens files backend path s m) :
    l₁.Opens files' backend' path s m where
  companion := config ▸ same.companion opens.companion
  enabled := opens.enabled
  opened := same.module.trans opens.opened

/-- Where a candidate finds the same settings and the same module, and its
module surroundings alike, it has the same status. -/
theorem Fate.moved (h : Fate l files backend path w status l' w')
    (same : SameFor path l.config files files' backend backend')
    (config : l₁.config = l.config)
    (alike : ∀ m, backend path = .ok m → m.Alike w v) :
    ∃ l₁' v', Fate l₁ files' backend' path v status l₁' v' := by
  cases h with
  | unsettled companion =>
      exact ⟨_, _, .unsettled (config ▸ same.companion companion)⟩
  | disabled companion off =>
      exact ⟨_, _, .disabled (config ▸ same.companion companion) off⟩
  | unopened companion enabled shut =>
      exact ⟨_, _, .unopened (config ▸ same.companion companion) enabled
        (same.module.trans shut)⟩
  | schemaless opens schema =>
      obtain ⟨_, schema⟩ := (alike _ opens.opened).yieldsSchema schema
      exact ⟨_, _, .schemaless (opens.moved same config) schema⟩
  | foreignSchema opens schema =>
      obtain ⟨_, schema⟩ := (alike _ opens.opened).yieldsSchema schema
      exact ⟨_, _, .foreignSchema (opens.moved same config) schema⟩
  | strict opens schema factory required =>
      obtain ⟨_, _, schema, factory⟩ :=
        (alike _ opens.opened).yieldsBoth schema factory
      rw [← config] at factory required
      exact ⟨_, _, .strict (opens.moved same config) schema factory required⟩
  | schemaOnly opens schema factory optional =>
      obtain ⟨_, _, schema, factory⟩ :=
        (alike _ opens.opened).yieldsBoth schema factory
      rw [← config] at factory optional
      exact ⟨_, _,
        .schemaOnly (opens.moved same config) schema factory optional⟩
  | foreignFactory opens schema factory =>
      obtain ⟨_, _, schema, factory⟩ :=
        (alike _ opens.opened).yieldsBoth schema factory
      rw [← config] at factory
      exact ⟨_, _, .foreignFactory (opens.moved same config) schema factory⟩
  | loaded opens schema factory =>
      obtain ⟨_, _, schema, factory⟩ :=
        (alike _ opens.opened).yieldsBoth schema factory
      rw [← config] at factory
      exact ⟨_, _, .loaded (opens.moved same config) schema factory⟩

/-- To a module that is independent of a candidate's the surroundings are
alike behind that candidate. -/
theorem Fate.alike (h : Fate l files backend path w status l' w')
    {m : Module}
    (independent : ∀ other, backend path = .ok other →
      m.IndependentOf other) : m.Alike w w' := by
  cases h with
  | unsettled | disabled | unopened => exact .refl m w
  | schemaless opens schema | foreignSchema opens schema =>
      exact independent _ opens.opened _ _ (.schema schema)
  | strict opens schema factory _ | schemaOnly opens schema factory _
  | foreignFactory opens schema factory | loaded opens schema factory =>
      exact (independent _ opens.opened).alike_both schema factory

/-- A candidate has one status. -/
theorem Fate.status_unique {status' : LoadStatus} {l'' : Loader}
    {w'' : Surroundings} (h : Fate l files backend path w status l' w')
    (h' : Fate l files backend path w status' l'' w'') :
    status = status' := by
  have same := h.run.symm.trans h'.run
  cases same
  rfl

-- ======================================================== within a course

variable {cs : List Path} {statuses : List LoadStatus} {c : Path}
  {s : LoadStatus}

theorem mem_of_mem_outcomes (h : ⟨c, s⟩ ∈ outcomes cs statuses) : c ∈ cs := by
  induction cs generalizing statuses with
  | nil => cases h
  | cons path rest ih =>
      cases statuses with
      | nil => cases h
      | cons status others =>
          cases h with
          | head => exact List.mem_cons_self ..
          | tail _ behind => exact List.mem_cons_of_mem _ (ih behind)

theorem Course.outcome_of (h : Course files backend l w cs statuses l' w')
    (listed : c ∈ cs) : ∃ s, ⟨c, s⟩ ∈ outcomes cs statuses := by
  induction h with
  | done => cases listed
  | next _ _ ih =>
      cases listed with
      | head => exact ⟨_, List.mem_cons_self ..⟩
      | tail _ behind =>
          obtain ⟨s, reported⟩ := ih behind
          exact ⟨s, List.mem_cons_of_mem _ reported⟩

/-- The status of a candidate in a course is that of a fate. If its module
is independent of the others', that fate begins in surroundings that to
the module are those at the beginning of the course. -/
theorem Course.fate_of (h : Course files backend l w cs statuses l' w')
    (here : ⟨c, s⟩ ∈ outcomes cs statuses) (distinct : cs.Nodup)
    (undisturbed : ∀ d ∈ cs, d ≠ c → ∀ m other, backend c = .ok m →
      backend d = .ok other → m.IndependentOf other) :
    ∃ l₁ w₁ l₂ w₂, Fate l₁ files backend c w₁ s l₂ w₂
      ∧ l₁.config = l.config
      ∧ ∀ m, backend c = .ok m → m.Alike w w₁ := by
  induction h with
  | done => cases here
  | @next _ _ _ _ _ _ path rest _ _ first others ih =>
      obtain ⟨apart, distinct⟩ := List.nodup_cons.mp distinct
      cases here with
      | head =>
          exact ⟨_, _, _, _, first, rfl, fun m _ => .refl m _⟩
      | tail _ behind =>
          obtain ⟨l₁, w₁, l₂, w₂, fate, config, alike⟩ :=
            ih behind distinct fun d hd => undisturbed d (.tail _ hd)
          refine ⟨l₁, w₁, l₂, w₂, fate, config.trans first.grown.config_eq,
            fun m opened => ?_⟩
          -- nothing is loaded twice, so the first candidate is another one
          have other : path ≠ c := by
            intro eq
            subst eq
            exact apart (mem_of_mem_outcomes behind)
          have behind_first : m.Alike _ _ := first.alike fun o opened' =>
            undisturbed path (.head _) other m o opened opened'
          exact behind_first.trans (alike m opened)

end Loader

end PluginRpc
