/-
The books of a loader.

A loader keeps two lists that grow at different moments: the handle of a
module is entered when the module is opened, and the plugin when
everything about it has turned out well. Its callers know neither moment;
they have the reports of their loads. `Book` keeps the reports beside the
loader, from one giving-up to the next, and `Book.Balanced` says that the
two agree at any time: what is in the lists can be read off the reports.

# One entry

A candidate can do three things to the lists: nothing, enter a handle, or
enter a handle and a plugin. Which of them it was shows in its status,
and a plugin that is entered has what was found for that very candidate.
`Enters` says so; balance after one candidate, after a report and after
a run are consequences.
-/
import PluginRpc.Proofs.Plugin.Course

namespace PluginRpc

-- ============================================================ what is known

namespace LoadStatus

/-- Loaded, with a client factory. -/
def isLoaded : LoadStatus → Bool
  | loaded => true
  | _ => false

/-- The module was opened: it was enabled, its settings could be had, and
the opening did not fail. -/
def opened : LoadStatus → Bool
  | disabled => false
  | failed ⟨_, .settings _⟩ => false
  | failed ⟨_, .unopened _⟩ => false
  | _ => true

/-- A plugin comes of an opened module only. -/
theorem opened_of_isRegistered {status : LoadStatus}
    (h : status.isRegistered = true) : status.opened = true := by
  cases status with
  | loaded => rfl
  | schemaOnly reason => rfl
  | disabled => cases h
  | failed e => cases h

end LoadStatus

/-- A candidate that has been tried, what became of it, and the files at
that time. -/
structure Tried where
  files : Files
  outcome : LoadOutcome

namespace Tried

variable (t : Tried)

def isRegistered : Bool := t.outcome.status.isRegistered

def isLoaded : Bool := t.outcome.status.isLoaded

def opened : Bool := t.outcome.status.opened

end Tried

/-- The candidates of which a plugin came. -/
def registeredOf (tried : List Tried) : List Tried :=
  tried.filter Tried.isRegistered

theorem registeredOf_concat {t : Tried} (h : t.isRegistered = true)
    (tried : List Tried) :
    registeredOf (tried ++ [t]) = registeredOf tried ++ [t] := by
  unfold registeredOf
  rw [List.filter_append, List.filter_cons_of_pos h, List.filter_nil]

theorem registeredOf_concat_of_not {t : Tried} (h : t.isRegistered = false)
    (tried : List Tried) :
    registeredOf (tried ++ [t]) = registeredOf tried := by
  unfold registeredOf
  rw [List.filter_append, List.filter_cons_of_neg (Bool.eq_false_iff.mp h),
    List.filter_nil, List.append_nil]

/-- A plugin is what came of a candidate: it has the candidate's path, the
settings that were beside it, and a client factory of the same module if
the candidate was loaded with one. -/
structure LoadedPlugin.CameOf (config : LoaderConfig) (p : LoadedPlugin)
    (t : Tried) : Prop where
  path : p.path = t.outcome.path
  settings : Companion config t.files t.outcome.path (.ok p.settings)
  factory : p.factory.isSome = t.isLoaded
  ours : ∀ f, p.factory = some f → f.path = p.path ∧ f.moduleId = p.moduleId

namespace Loader

variable {files : Files} {backend : Backend} {l l' : Loader}
  {w w' : Surroundings} {path : Path} {status : LoadStatus}

-- =============================================================== one entry

/-- What a candidate with a status enters into the lists. -/
inductive Enters (l : Loader) (files : Files) (path : Path) :
    LoadStatus → Loader → Prop
  | nothing {status : LoadStatus} (registered : status.isRegistered = false)
      (opened : status.opened = false) : Enters l files path status l
  | handle {status : LoadStatus} (registered : status.isRegistered = false)
      (opened : status.opened = true) :
      Enters l files path status l.withHandle
  | plugin {status : LoadStatus} {settings : PluginSettings}
      (api : PluginApi) {factory : Option FactoryExport}
      (registered : status.isRegistered = true)
      (companion : Companion l.config files path (.ok settings))
      (loaded : factory.isSome = status.isLoaded) :
      Enters l files path status (l.withPlugin path settings api factory)

/-- The lack of a schema is no matter of settings or of opening. -/
theorem opened_of_schemaless {m : Module} {cause : LoadCause}
    (h : m.YieldsSchema w (.lacking cause) w') (path : Path) :
    (LoadStatus.failed ⟨path, cause⟩).opened = true := by
  cases h <;> rfl

theorem opened_of_factoryless {m : Module} {hint : Option String}
    {cause : LoadCause} (h : m.YieldsFactory hint w (.lacking cause) w')
    (path : Path) : (LoadStatus.failed ⟨path, cause⟩).opened = true := by
  cases h <;> rfl

theorem Fate.enters (h : Fate l files backend path w status l' w') :
    l.Enters files path status l' := by
  cases h with
  | unsettled companion => exact .nothing rfl rfl
  | disabled companion off => exact .nothing rfl rfl
  | unopened companion enabled shut => exact .nothing rfl rfl
  | schemaless opens schema =>
      exact .handle rfl (opened_of_schemaless schema path)
  | foreignSchema opens schema => exact .handle rfl rfl
  | strict opens schema factory required =>
      exact .handle rfl (opened_of_factoryless factory path)
  | foreignFactory opens schema factory => exact .handle rfl rfl
  | @schemaOnly s m api cause w' w'' opens schema factory optional =>
      exact .plugin api rfl opens.companion rfl
  | @loaded s m api f w' w'' opens schema factory =>
      exact .plugin api rfl opens.companion rfl

-- ============================================================= the balance

/-- The lists of a loader are those of the candidates that have been
tried. -/
structure Lists (config : LoaderConfig) (l : Loader) (tried : List Tried) :
    Prop where
  config_eq : l.config = config
  length_eq : l.plugins.length = (registeredOf tried).length
  came : ∀ pair ∈ l.plugins.zip (registeredOf tried),
    pair.1.CameOf config pair.2
  handles : l.handles.length = tried.countP Tried.opened

namespace Lists

variable {config : LoaderConfig} {tried : List Tried}

theorem ofConfig (config : LoaderConfig) :
    Lists config (Loader.ofConfig config) [] :=
  ⟨rfl, rfl, fun _ mem => absurd mem List.not_mem_nil, rfl⟩

theorem unload (h : Lists config l tried) : Lists config l.unload [] :=
  ⟨h.config_eq, rfl, fun _ mem => absurd mem List.not_mem_nil, rfl⟩

/-- One candidate more. -/
theorem enter (h : Lists config l tried)
    (entry : l.Enters files path status l') :
    Lists config l' (tried ++ [⟨files, path, status⟩]) := by
  let t : Tried := ⟨files, path, status⟩
  cases entry with
  | nothing registered opened =>
      have same := registeredOf_concat_of_not (t := t) registered tried
      have no_handle : [t].countP Tried.opened = 0 :=
        List.countP_cons_of_neg (Bool.eq_false_iff.mp opened)
      refine ⟨h.config_eq, ?_, ?_, ?_⟩
      · rw [same]
        exact h.length_eq
      · rw [same]
        exact h.came
      · rw [List.countP_append, no_handle]
        exact h.handles
  | handle registered opened =>
      -- opened and then given up: the plugins do not see it, the handles do
      have same := registeredOf_concat_of_not (t := t) registered tried
      have a_handle : [t].countP Tried.opened = 1 :=
        List.countP_cons_of_pos opened
      refine ⟨h.config_eq, ?_, ?_, ?_⟩
      · rw [same]
        exact h.length_eq
      · rw [same]
        exact h.came
      · rw [List.countP_append, a_handle, ← h.handles]
        exact List.length_append
  | @plugin settings api factory registered companion loaded =>
      have more := registeredOf_concat (t := t) registered tried
      have a_handle : [t].countP Tried.opened = 1 :=
        List.countP_cons_of_pos (LoadStatus.opened_of_isRegistered registered)
      -- the plugin that is entered, with the module of the new handle
      let id := l.custody.modules.length
      let p : LoadedPlugin :=
        ⟨path, id, api, factory.map fun f => ⟨path, id, f.maker⟩, settings⟩
      have grown : (l.withPlugin path settings api factory).plugins
          = l.plugins ++ [p] := rfl
      have came : p.CameOf config t := by
        refine ⟨rfl, h.config_eq ▸ companion, ?_, fun f made => ?_⟩
        · show (factory.map _).isSome = _
          rw [Option.isSome_map]
          exact loaded
        · obtain ⟨f', -, rfl⟩ := Option.map_eq_some_iff.mp made
          exact ⟨rfl, rfl⟩
      refine ⟨h.config_eq, ?_, ?_, ?_⟩
      · rw [more, grown, List.length_append, List.length_append, h.length_eq]
        rfl
      · rw [more, grown, List.zip_append h.length_eq]
        intro pair mem
        rcases List.mem_append.mp mem with before | now
        · exact h.came pair before
        · cases List.mem_singleton.mp now
          exact came
      · rw [List.countP_append, a_handle, ← h.handles]
        exact List.length_append

/-- All the candidates of a course. -/
theorem course {cs : List Path} {statuses : List LoadStatus}
    (h : Lists config l tried)
    (c : Course files backend l w cs statuses l' w') :
    Lists config l'
      (tried ++ (outcomes cs statuses).map fun o => ⟨files, o⟩) := by
  induction c generalizing tried with
  | done =>
      rw [show outcomes [] [] = [] from rfl, List.map_nil, List.append_nil]
      exact h
  | @next l l₁ l₂ w w₁ w₂ path rest status statuses first _ ih =>
      have later := ih (h.enter first.enters)
      rw [List.append_assoc] at later
      exact later

end Lists

-- ================================================================== a load

/-- A load of a path that is refused leaves everything as it was, and any
other comes to a report of a course. -/
theorem load_report (plain : '/' ∉ l.config.settingsExtension.toList)
    (files : Files) (backend : Backend) (path : Path) (w : Surroundings) :
    (∃ cause, Refused (files path) cause
        ∧ (l.load files backend path).runAmbient w
          = (.returned (.error ⟨path, cause⟩, l), w))
      ∨ ((∀ cause, ¬ Refused (files path) cause) ∧ ∃ cs statuses l' w',
          Course files backend l w cs statuses l' w'
            ∧ (l.load files backend path).runAmbient w
              = (.returned (.ok ⟨outcomes cs statuses⟩, l'), w')) := by
  rcases refused_or_offered files path with
    ⟨cause, refused⟩ | ⟨taken, cs, offered⟩
  · refine .inl ⟨cause, refused, ?_⟩
    rw [refused.load_eq]
    rfl
  · obtain ⟨statuses, l', w', course⟩ := course_total plain files backend w cs
    exact .inr ⟨taken, cs, statuses, l', w', course, course.run_load offered⟩

end Loader

-- ==================================================================== books

/-- What is done with a loader. -/
inductive Errand where
  /-- A load, with the files, the backend and the surroundings as they are
  at the time. -/
  | load (files : Files) (backend : Backend) (w : Surroundings) (path : Path)
  | unload

/-- A loader, with the reports of its loads since everything was last
given up. -/
structure Book where
  loader : Loader
  reports : List (Files × LoadReport)

namespace Book

def start (config : LoaderConfig) : Book := ⟨.ofConfig config, []⟩

variable (b : Book)

/-- All candidates that have been tried, in the order of the reports. -/
def tried : List Tried :=
  b.reports.flatMap fun r => r.2.outcomes.map fun o => ⟨r.1, o⟩

/-- What comes of a load; one that is refused reports nothing. -/
def enter (files : Files) : Ending (Except LoadError LoadReport × Loader) → Book
  | .returned (.ok report, l) => ⟨l, b.reports ++ [(files, report)]⟩
  | .returned (.error _, l) => ⟨l, b.reports⟩
  | .panicked _ => b

def step : Errand → Book
  | .load files backend w path =>
      b.enter files ((b.loader.load files backend path).runAmbient w).1
  | .unload => ⟨b.loader.unload, []⟩

/-- How many plugins some reports count. -/
def counted : List (Files × LoadReport) → Nat
  | [] => 0
  | r :: rest => r.2.registered + counted rest

/-- The lists of the loader agree with the reports. -/
structure Balanced (config : LoaderConfig) : Prop where
  /-- There are as many plugins as the reports count. -/
  count : b.loader.plugins.length = counted b.reports
  /-- The plugins are what came of the candidates that were registered, in
  their order. -/
  length_eq : b.loader.plugins.length = (registeredOf b.tried).length
  came : ∀ pair ∈ b.loader.plugins.zip (registeredOf b.tried),
    pair.1.CameOf config pair.2
  /-- The client factories are those of the plugins whose candidates were
  loaded with one. -/
  factories : b.loader.clientFactories.map some
    = ((b.loader.plugins.zip (registeredOf b.tried)).filter
        fun pair => pair.2.isLoaded).map fun pair => pair.1.factory
  /-- There is a handle for each candidate that was opened. -/
  handles : b.loader.handles.length = b.tried.countP Tried.opened
  enough : b.loader.plugins.length ≤ b.loader.handles.length
  /-- A load is refused exactly where there is nothing to load or a
  directory that cannot be listed, and then the loader stays as it is;
  otherwise there is a report. -/
  refused : ∀ files backend path w,
    (∃ cause, Loader.Refused (files path) cause ∧
        (b.loader.load files backend path).runAmbient w
          = (.returned (.error ⟨path, cause⟩, b.loader), w))
      ∨ ((∀ cause, ¬ Loader.Refused (files path) cause) ∧ ∃ report l' w',
        (b.loader.load files backend path).runAmbient w
          = (.returned (.ok report, l'), w'))

variable {b} {config : LoaderConfig}

theorem tried_concat (b : Book) (l : Loader) (files : Files)
    (report : LoadReport) :
    tried ⟨l, b.reports ++ [(files, report)]⟩
      = b.tried ++ report.outcomes.map fun o => ⟨files, o⟩ := by
  unfold tried
  rw [List.flatMap_append, List.flatMap_singleton]

/-- Every errand keeps the lists right. -/
theorem lists_step (plain : '/' ∉ config.settingsExtension.toList)
    (h : b.loader.Lists config b.tried) (errand : Errand) :
    (b.step errand).loader.Lists config (b.step errand).tried := by
  cases errand with
  | unload => exact h.unload
  | load files backend w path =>
      show (b.enter files _).loader.Lists config (b.enter files _).tried
      rcases Loader.load_report (h.config_eq ▸ plain) files backend path w with
        ⟨_, -, ran⟩ | ⟨-, cs, statuses, l', w', course, ran⟩
      · rw [ran]
        exact h
      · rw [ran]
        show l'.Lists config (tried ⟨l', b.reports ++ [(files, _)]⟩)
        rw [tried_concat]
        exact h.course course

theorem lists_run (plain : '/' ∉ config.settingsExtension.toList)
    (h : b.loader.Lists config b.tried) (errands : List Errand) :
    (errands.foldl step b).loader.Lists config (errands.foldl step b).tried := by
  induction errands generalizing b with
  | nil => exact h
  | cons errand rest ih => exact ih (lists_step plain h errand)

theorem countP_tried (b : Book) :
    b.tried.countP Tried.isRegistered = counted b.reports := by
  unfold tried
  induction b.reports with
  | nil => rfl
  | cons r rest ih =>
      rw [List.flatMap_cons, List.countP_append, ih, List.countP_map]
      rfl

/-- Of plugins that came of candidates, those have a client factory whose
candidates were loaded. -/
theorem factories_of_came (plugins : List LoadedPlugin) (ts : List Tried)
    (length_eq : plugins.length = ts.length)
    (came : ∀ pair ∈ plugins.zip ts, pair.1.CameOf config pair.2) :
    (plugins.filterMap LoadedPlugin.factory).map some
      = ((plugins.zip ts).filter fun pair => pair.2.isLoaded).map
          fun pair => pair.1.factory := by
  induction plugins generalizing ts with
  | nil => rfl
  | cons p plugins ih =>
      cases ts with
      | nil => cases length_eq
      | cons t ts =>
          rw [List.zip_cons_cons] at came ⊢
          obtain ⟨first, others⟩ := List.forall_mem_cons.mp came
          have rest := ih ts (Nat.succ.inj length_eq) others
          have same : p.factory.isSome = t.isLoaded := first.factory
          rw [List.filterMap_cons, List.filter_cons]
          -- both sides take the first plugin, or both leave it out
          cases made : p.factory with
          | none =>
              rw [made] at same
              rw [if_neg (Bool.eq_false_iff.mp same.symm)]
              exact rest
          | some f =>
              rw [made] at same
              have loaded : (p, t).2.isLoaded = true := same.symm
              rw [if_pos loaded, List.map_cons, List.map_cons, rest, made]

/-- Lists that are right are balanced with the reports. -/
theorem balanced_of_lists (plain : '/' ∉ config.settingsExtension.toList)
    (h : b.loader.Lists config b.tried) : b.Balanced config where
  count := by
    rw [h.length_eq, ← countP_tried, List.countP_eq_length_filter]
    rfl
  length_eq := h.length_eq
  came := h.came
  factories := factories_of_came _ _ h.length_eq h.came
  handles := h.handles
  enough := by
    rw [h.length_eq, h.handles]
    show (b.tried.filter Tried.isRegistered).length ≤ _
    rw [← List.countP_eq_length_filter]
    exact List.countP_mono_left fun t _ registered =>
      LoadStatus.opened_of_isRegistered registered
  refused files backend path w := by
    rcases Loader.load_report (h.config_eq ▸ plain) files backend path w with
      refused | ⟨taken, cs, statuses, l', w', -, ran⟩
    · exact .inl refused
    · exact .inr ⟨taken, _, l', w', ran⟩

/-- Whatever is loaded from wherever, again or for the first time, and
however often everything is given up in between: the lists of a loader
agree with the reports of its loads. -/
theorem balanced_run (config : LoaderConfig)
    (plain : '/' ∉ config.settingsExtension.toList) (errands : List Errand) :
    (errands.foldl step (start config)).Balanced config :=
  balanced_of_lists plain (lists_run plain (Loader.Lists.ofConfig config) errands)

/-- A module file is loaded twice, nothing is loaded from a path with
nothing at it or from a directory that cannot be listed, everything is
given up, and the file is loaded once more when its module has lost its
entries. -/
theorem balanced_after_reload :
    let files : Files := fun path =>
      if path.text = "lib/a.so" then .file (some [])
      else if path.text = "sealed" then .unlisted "permission denied"
      else .nothing
    let whole : Backend := fun _ => .ok ⟨some (.done (.ofPackages [])), none⟩
    let stripped : Backend := fun _ => .ok .empty
    '/' ∉ LoaderConfig.default.settingsExtension.toList
      ∧ ([.load files whole .start ⟨"lib/a.so"⟩,
          .load files whole .start ⟨"lib/a.so"⟩,
          .load files whole .start ⟨"lib/b.so"⟩,
          .load files whole .start ⟨"sealed"⟩, .unload,
          .load files stripped .start ⟨"lib/a.so"⟩].foldl step
            (start .default)).Balanced .default := by
  intro files whole stripped
  have plain : '/' ∉ LoaderConfig.default.settingsExtension.toList := by
    decide
  exact ⟨plain, balanced_run .default plain _⟩

end Book

end PluginRpc
