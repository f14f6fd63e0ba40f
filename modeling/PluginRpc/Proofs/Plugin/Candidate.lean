/-
What becomes of one candidate.

`Fate` lists the ways in which the loading of a module file can go, each
with the status that is reported, the loader that is left and the
surroundings behind it. There are nine, and the order in which a loader
asks its questions is in what each of them presupposes: settings that
cannot be had come before settings that say no, both come before the
module is opened, the schema comes before the client factory.

# What is left in the loader

Before a module is opened nothing changes. An opened module leaves its
handle, with a number that no module had before, and the custody knows of
one holder. Only a module that is loaded, with its factory or without,
leaves a plugin as well, behind those that were there, and then the
plugin and its factory are holders too.
-/
import PluginRpc.Proofs.Plugin.Entries

namespace PluginRpc

-- =========================================================== the settings

/-- What is beside a module for its settings: nothing, which is having
the defaults, or a file, which can be read or not and says something or
not. -/
inductive Companion (config : LoaderConfig) (files : Files) (path : Path) :
    Except ConfigError PluginSettings → Prop
  | absent {place : Path} (place_at : config.settingsPath? path = some place)
      (no : (files place).isFile = false) :
      Companion config files path (.ok .default)
  | unreadable {place : Path}
      (place_at : config.settingsPath? path = some place)
      (file : (files place).isFile = true)
      (garbled : (files place).text? = none) :
      Companion config files path (.error (.unreadable place))
  | malformed {place : Path} {text : String}
      (place_at : config.settingsPath? path = some place)
      (file : (files place).isFile = true)
      (read : (files place).text? = some text)
      (bad : (Toml.document? text).bind PluginSettings.ofDocument? = none) :
      Companion config files path (.error (.malformed place.text))
  | settings {place : Path} {text : String} {s : PluginSettings}
      (place_at : config.settingsPath? path = some place)
      (file : (files place).isFile = true)
      (read : (files place).text? = some text)
      (good :
        (Toml.document? text).bind PluginSettings.ofDocument? = some s) :
      Companion config files path (.ok s)

variable {config : LoaderConfig} {files : Files} {path : Path}

/-- An extension without slash leads to a place for the settings. -/
theorem LoaderConfig.settingsPath?_isSome
    (plain : '/' ∉ config.settingsExtension.toList) (path : Path) :
    ∃ place, config.settingsPath? path = some place := by
  unfold settingsPath? Path.withExtension?
  have shut : ¬ config.settingsExtension.toList.contains '/' = true :=
    fun h => plain (List.contains_iff_mem.mp h)
  rw [if_neg shut]
  exact ⟨_, rfl⟩

theorem companion_total (plain : '/' ∉ config.settingsExtension.toList)
    (files : Files) (path : Path) :
    ∃ result, Companion config files path result := by
  obtain ⟨place, place_at⟩ := LoaderConfig.settingsPath?_isSome plain path
  cases file : (files place).isFile with
  | false => exact ⟨_, .absent place_at file⟩
  | true =>
      cases read : (files place).text? with
      | none => exact ⟨_, .unreadable place_at file read⟩
      | some text =>
          cases parsed :
            (Toml.document? text).bind PluginSettings.ofDocument? with
          | none => exact ⟨_, .malformed place_at file read parsed⟩
          | some s => exact ⟨_, .settings place_at file read parsed⟩

/-- The loader finds what is there. -/
theorem Companion.found {result : Except ConfigError PluginSettings}
    (h : Companion config files path result) :
    ∃ place, config.settingsPath? path = some place
      ∧ (PluginSettings.ofFile? files place).map (·.getD .default)
        = result := by
  unfold PluginSettings.ofFile? configText PluginSettings.parse
  cases h with
  | absent place_at no =>
      refine ⟨_, place_at, ?_⟩
      rw [no]
      rfl
  | unreadable place_at file garbled =>
      refine ⟨_, place_at, ?_⟩
      rw [file, garbled]
      rfl
  | malformed place_at file read bad =>
      refine ⟨_, place_at, ?_⟩
      rw [file, read]
      dsimp only [Except.bind]
      rw [bad]
      rfl
  | settings place_at file read good =>
      refine ⟨_, place_at, ?_⟩
      rw [file, read]
      dsimp only [Except.bind]
      rw [good]
      rfl

-- ============================================================= the loader

/-- A change of the counts of the module that was opened last. -/
theorem Custody.change_last (modules : List Shares) (last : Shares)
    (f : Shares → Shares) :
    change ⟨modules ++ [last]⟩ modules.length f = ⟨modules ++ [f last]⟩ := by
  refine congrArg Custody.mk ?_
  show (modules ++ [last]).modify modules.length f = modules ++ [f last]
  induction modules with
  | nil => rfl
  | cons first rest ih => exact congrArg (first :: ·) ih

namespace Loader

variable (l : Loader)

/-- The loader with the handle of one more opened module, which has no
other holder. -/
def withHandle : Loader :=
  { l with
    handles := l.handles ++ [l.custody.modules.length]
    custody := ⟨l.custody.modules ++ [⟨1, 0, 0⟩]⟩ }

/-- The loader with the handle of one more opened module and the plugin
that came of it; the plugin is a holder, and so is its factory. -/
def withPlugin (path : Path) (settings : PluginSettings) (api : PluginApi)
    (factory : Option FactoryExport) : Loader :=
  let id := l.custody.modules.length
  { l with
    plugins := l.plugins ++
      [⟨path, id, api, factory.map fun f => ⟨path, id, f.maker⟩, settings⟩]
    handles := l.handles ++ [id]
    custody := ⟨l.custody.modules ++
      [if factory.isSome then ⟨3, 1, 1⟩ else ⟨2, 1, 0⟩]⟩ }

/-- A plugin of the module that was opened last. -/
theorem register_withHandle (path : Path) (settings : PluginSettings)
    (api : PluginApi) (factory : Option FactoryExport) :
    l.withHandle.register path l.custody.modules.length settings api factory
      = l.withPlugin path settings api factory := by
  unfold register withHandle withPlugin
  dsimp only
  rw [Custody.change_last]
  cases factory <;> rfl

-- =============================================================== the fate

/-- A module that is enabled and can be opened. -/
structure Opens (files : Files) (backend : Backend) (path : Path)
    (settings : PluginSettings) (m : Module) : Prop where
  companion : Companion l.config files path (.ok settings)
  enabled : settings.enabled = true
  opened : backend path = .ok m

/-- The ways in which the loading of a module file can go. -/
inductive Fate (l : Loader) (files : Files) (backend : Backend)
    (path : Path) (w : Surroundings) :
    LoadStatus → Loader → Surroundings → Prop
  /-- The settings beside the module are not to be had. -/
  | unsettled {e : ConfigError}
      (companion : Companion l.config files path (.error e)) :
      Fate l files backend path w (.failed ⟨path, .settings e⟩) l w
  | disabled {s : PluginSettings}
      (companion : Companion l.config files path (.ok s))
      (off : s.enabled = false) :
      Fate l files backend path w .disabled l w
  | unopened {s : PluginSettings} {detail : String}
      (companion : Companion l.config files path (.ok s))
      (enabled : s.enabled = true)
      (shut : backend path = .error detail) :
      Fate l files backend path w (.failed ⟨path, .unopened (.file detail)⟩)
        l w
  /-- No schema; the handle stays. -/
  | schemaless {s : PluginSettings} {m : Module} {cause : LoadCause}
      {w' : Surroundings} (opens : l.Opens files backend path s m)
      (schema : m.YieldsSchema w (.lacking cause) w') :
      Fate l files backend path w (.failed ⟨path, cause⟩) l.withHandle w'
  | foreignSchema {s : PluginSettings} {m : Module} {stamp : AbiStamp}
      {w' : Surroundings} (opens : l.Opens files backend path s m)
      (schema : m.YieldsSchema w (.foreign stamp) w') :
      Fate l files backend path w (.failed ⟨path, .foreignBuild stamp⟩)
        l.withHandle w'
  /-- No client factory where one is required. -/
  | strict {s : PluginSettings} {m : Module} {api : PluginApi}
      {cause : LoadCause} {w' w'' : Surroundings}
      (opens : l.Opens files backend path s m)
      (schema : m.YieldsSchema w (.ours api) w')
      (factory :
        m.YieldsFactory (l.config.hintFor s) w' (.lacking cause) w'')
      (required : l.config.requireClientFactory = true) :
      Fate l files backend path w (.failed ⟨path, cause⟩) l.withHandle w''
  /-- No client factory where none is required: the text of what would be
  the error is the reason. -/
  | schemaOnly {s : PluginSettings} {m : Module} {api : PluginApi}
      {cause : LoadCause} {w' w'' : Surroundings}
      (opens : l.Opens files backend path s m)
      (schema : m.YieldsSchema w (.ours api) w')
      (factory :
        m.YieldsFactory (l.config.hintFor s) w' (.lacking cause) w'')
      (optional : l.config.requireClientFactory = false) :
      Fate l files backend path w
        (.schemaOnly (LoadError.message ⟨path, cause⟩))
        (l.withPlugin path s api none) w''
  /-- A client factory of another build, required or not. -/
  | foreignFactory {s : PluginSettings} {m : Module} {api : PluginApi}
      {stamp : AbiStamp} {w' w'' : Surroundings}
      (opens : l.Opens files backend path s m)
      (schema : m.YieldsSchema w (.ours api) w')
      (factory :
        m.YieldsFactory (l.config.hintFor s) w' (.foreign stamp) w'') :
      Fate l files backend path w (.failed ⟨path, .foreignBuild stamp⟩)
        l.withHandle w''
  | loaded {s : PluginSettings} {m : Module} {api : PluginApi}
      {f : FactoryExport} {w' w'' : Surroundings}
      (opens : l.Opens files backend path s m)
      (schema : m.YieldsSchema w (.ours api) w')
      (factory : m.YieldsFactory (l.config.hintFor s) w' (.ours f) w'') :
      Fate l files backend path w .loaded (l.withPlugin path s api (some f))
        w''

variable {l : Loader} {backend : Backend} {w : Surroundings}

/-- Every module that is opened has a fate. -/
theorem Opens.fate_total {settings : PluginSettings} {m : Module}
    (opens : l.Opens files backend path settings m) (w : Surroundings) :
    ∃ status l' w', Fate l files backend path w status l' w' := by
  obtain ⟨y, w', schema⟩ := m.yieldsSchema_total w
  cases y with
  | lacking cause => exact ⟨_, _, _, .schemaless opens schema⟩
  | foreign stamp => exact ⟨_, _, _, .foreignSchema opens schema⟩
  | ours api =>
      obtain ⟨z, w'', factory⟩ :=
        m.yieldsFactory_total (l.config.hintFor settings) w'
      cases z with
      | foreign stamp => exact ⟨_, _, _, .foreignFactory opens schema factory⟩
      | ours f => exact ⟨_, _, _, .loaded opens schema factory⟩
      | lacking cause =>
          cases required : l.config.requireClientFactory with
          | true => exact ⟨_, _, _, .strict opens schema factory required⟩
          | false =>
              exact ⟨_, _, _, .schemaOnly opens schema factory required⟩

/-- Every candidate has a fate. -/
theorem fate_total (plain : '/' ∉ l.config.settingsExtension.toList)
    (files : Files) (backend : Backend) (path : Path) (w : Surroundings) :
    ∃ status l' w', Fate l files backend path w status l' w' := by
  obtain ⟨result, companion⟩ := companion_total plain files path
  cases result with
  | error e => exact ⟨_, _, _, .unsettled companion⟩
  | ok s =>
      cases enabled : s.enabled with
      | false => exact ⟨_, _, _, .disabled companion enabled⟩
      | true =>
          cases opened : backend path with
          | error detail =>
              exact ⟨_, _, _, .unopened companion enabled opened⟩
          | ok m =>
              have opens : l.Opens files backend path s m :=
                ⟨companion, enabled, opened⟩
              exact opens.fate_total w

/-- What is done once the settings are known. -/
def proceed (l : Loader) (backend : Backend) (path : Path) :
    Except ConfigError PluginSettings →
      Program PluginRpc.ambient (LoadStatus × Loader)
  | .error e => .done (.failed ⟨path, .settings e⟩, l)
  | .ok s =>
      if s.enabled then
        match backend path with
        | .error detail =>
            .done (.failed ⟨path, .unopened (.file detail)⟩, l)
        | .ok m => l.withHandle.enroll path l.custody.modules.length m s
      else .done (.disabled, l)

theorem loadOne_of_companion {result : Except ConfigError PluginSettings}
    (h : Companion l.config files path result) :
    l.loadOne files backend path = l.proceed backend path result := by
  obtain ⟨place, place_at, rfl⟩ := h.found
  unfold loadOne
  rw [place_at]
  dsimp only
  cases PluginSettings.ofFile? files place <;> rfl

/-- What is done with a module that is opened. -/
theorem Opens.loadOne_eq {settings : PluginSettings} {m : Module}
    (opens : l.Opens files backend path settings m) :
    l.loadOne files backend path
      = l.withHandle.enroll path l.custody.modules.length m settings := by
  rw [loadOne_of_companion opens.companion, proceed, if_pos opens.enabled,
    opens.opened]

/-- A module whose schema is not to be had is not enrolled. -/
theorem runAmbient_enroll_of_no_schema {m : Module}
    {settings : PluginSettings} {id : ModuleId} {e : LoadError}
    {w' : Surroundings}
    (schema : (resolveSchema path m).runAmbient w
      = (.returned (.error e), w')) :
    (l.enroll path id m settings).runAmbient w
      = (.returned (.failed e, l), w') := by
  unfold enroll
  rw [Program.bind_eq, Program.runAmbient_bind, schema]
  rfl

/-- How a module with a schema is enrolled, by what the loader made of its
client factory. -/
def enrolled (l : Loader) (path : Path) (id : ModuleId)
    (settings : PluginSettings) (api : PluginApi) :
    Except LoadError (Except String FactoryExport) → LoadStatus × Loader
  | .error e => (.failed e, l)
  | .ok (.error reason) =>
      (.schemaOnly reason, l.register path id settings api none)
  | .ok (.ok f) => (.loaded, l.register path id settings api (some f))

theorem runAmbient_enroll_of_schema {m : Module}
    {settings : PluginSettings} {id : ModuleId} {api : PluginApi}
    {result : Except LoadError (Except String FactoryExport)}
    {w' w'' : Surroundings}
    (schema : (resolveSchema path m).runAmbient w = (.returned (.ok api), w'))
    (factory : (l.resolveFactory path m settings).runAmbient w'
      = (.returned result, w'')) :
    (l.enroll path id m settings).runAmbient w
      = (.returned (l.enrolled path id settings api result), w'') := by
  unfold enroll
  rw [Program.bind_eq, Program.runAmbient_bind, schema]
  dsimp only
  rw [Program.bind_eq, Program.runAmbient_bind, factory]
  cases result with
  | error e => rfl
  | ok found => cases found <;> rfl

/-- What becomes of a module that is opened and has a schema. -/
theorem Opens.run {settings : PluginSettings} {m : Module}
    (opens : l.Opens files backend path settings m) {api : PluginApi}
    {y : Yield FactoryExport} {w' w'' : Surroundings}
    (schema : m.YieldsSchema w (.ours api) w')
    (factory : m.YieldsFactory (l.config.hintFor settings) w' y w'') :
    (l.loadOne files backend path).runAmbient w
      = (.returned
          (l.withHandle.enrolled path l.custody.modules.length settings api
            (l.withHandle.judge path y)), w'') := by
  rw [opens.loadOne_eq]
  exact runAmbient_enroll_of_schema (schema.run path)
    (Module.YieldsFactory.run (l := l.withHandle) factory path)

/-- The loader does to a candidate what its fate is. -/
theorem Fate.run {status : LoadStatus} {l' : Loader} {w' : Surroundings}
    (h : Fate l files backend path w status l' w') :
    (l.loadOne files backend path).runAmbient w
      = (.returned (status, l'), w') := by
  cases h with
  | unsettled companion =>
      rw [loadOne_of_companion companion]
      rfl
  | disabled companion off =>
      rw [loadOne_of_companion companion, proceed, off]
      rfl
  | unopened companion enabled shut =>
      rw [loadOne_of_companion companion, proceed, if_pos enabled, shut]
      rfl
  | schemaless opens schema =>
      rw [opens.loadOne_eq]
      exact runAmbient_enroll_of_no_schema (schema.run path)
  | foreignSchema opens schema =>
      rw [opens.loadOne_eq]
      exact runAmbient_enroll_of_no_schema (schema.run path)
  | @strict s m api cause w' w'' opens schema factory required =>
      have judged : l.withHandle.judge path (.lacking cause)
          = .error ⟨path, cause⟩ := if_pos required
      rw [opens.run schema factory, judged]
      rfl
  | @schemaOnly s m api cause w' w'' opens schema factory optional =>
      have judged : l.withHandle.judge path (.lacking cause)
          = .ok (.error (LoadError.message ⟨path, cause⟩)) :=
        if_neg (Bool.eq_false_iff.mp optional)
      rw [opens.run schema factory, judged, enrolled, register_withHandle]
  | foreignFactory opens schema factory => exact opens.run schema factory
  | loaded opens schema factory =>
      rw [opens.run schema factory, judge, enrolled, register_withHandle]

/-- The loading of a module file goes in one of the ways of `Fate`, and
the run is that way and no other. So it always returns, and what it
reports and leaves is decided by the settings beside the module, the
module's entries and the configuration. -/
theorem loadOne_iff_fate (files : Files) (backend : Backend) (path : Path)
    (w : Surroundings)
    (plain : '/' ∉ l.config.settingsExtension.toList) :
    (∃ status l' w', Fate l files backend path w status l' w')
      ∧ ∀ status l' w',
        (l.loadOne files backend path).runAmbient w
            = (.returned (status, l'), w')
          ↔ Fate l files backend path w status l' w' := by
  -- a run has one result, so the fate there is must be the one of the run
  obtain ⟨status, l', w', fate⟩ := fate_total plain files backend path w
  refine ⟨⟨status, l', w', fate⟩, fun _ _ _ => ⟨fun h => ?_, Fate.run⟩⟩
  have same := fate.run.symm.trans h
  cases same
  exact fate

/-- A module without entries, and without a file beside it, under the
default configuration: it is opened, and fails for its schema. -/
theorem loadOne_of_no_entries :
    '/' ∉ LoaderConfig.default.settingsExtension.toList
      ∧ ((ofConfig .default).loadOne (fun _ => .nothing)
          (fun _ => .ok .empty) ⟨"lib/a.so"⟩).runAmbient .start
        = (.returned (.failed ⟨⟨"lib/a.so"⟩, .missingEntry .schema⟩,
            (ofConfig .default).withHandle), .start) := by
  have plain : '/' ∉ LoaderConfig.default.settingsExtension.toList := by
    decide
  have fate : Fate (ofConfig .default) (fun _ => .nothing)
      (fun _ => .ok .empty) ⟨"lib/a.so"⟩ .start
      (.failed ⟨⟨"lib/a.so"⟩, .missingEntry .schema⟩)
      (ofConfig .default).withHandle .start :=
    .schemaless ⟨.absent rfl rfl, rfl, rfl⟩ (.missing rfl)
  exact ⟨plain, ((loadOne_iff_fate _ _ _ _ plain).2 _ _ _).mpr fate⟩

end Loader

end PluginRpc
