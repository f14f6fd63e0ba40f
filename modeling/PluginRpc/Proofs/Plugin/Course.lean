/-
The loading of candidates one after another.

`Course` lists the fates of several candidates, each from what the one
before it has left: the loader and the surroundings. There is a course for
every list of candidates, whatever becomes of any of them, and `loadAll`
as well as as many single calls of `load` follow it.

# What is left in the loader

Every fate leaves the loader as it was, or with a handle more, or with a
handle and a plugin more. What those three keep a course keeps.

# From a path to candidates

What is found at a path refuses a load, with a cause, or offers
candidates: a module file itself, a directory the module files among its
entries. `Refused` and `Offered` are all that is to be known of it, and
behind each there is one equation for `load`.
-/
import PluginRpc.Proofs.Plugin.Candidate

namespace PluginRpc.Loader

variable {files : Files} {backend : Backend} {l l' : Loader}
  {w w' : Surroundings} {path : Path}

-- ============================================================= the loader

/-- What one candidate may leave of a loader. -/
inductive Grown (l : Loader) : Loader → Prop
  | same : Grown l l
  | handle : Grown l l.withHandle
  | plugin (path : Path) (settings : PluginSettings) (api : PluginApi)
      (factory : Option FactoryExport) :
      Grown l (l.withPlugin path settings api factory)

theorem Grown.config_eq (h : l.Grown l') : l'.config = l.config := by
  cases h <;> rfl

theorem Fate.grown {status : LoadStatus}
    (h : Fate l files backend path w status l' w') : l.Grown l' := by
  cases h with
  | unsettled | disabled | unopened => exact .same
  | schemaless | foreignSchema | strict | foreignFactory => exact .handle
  | schemaOnly | loaded => exact .plugin ..

-- ============================================================= the course

/-- What becomes of candidates one after another. -/
inductive Course (files : Files) (backend : Backend) :
    Loader → Surroundings → List Path → List LoadStatus → Loader →
      Surroundings → Prop
  | done {l : Loader} {w : Surroundings} :
      Course files backend l w [] [] l w
  | next {l l₁ l₂ : Loader} {w w₁ w₂ : Surroundings} {path : Path}
      {rest : List Path} {status : LoadStatus} {statuses : List LoadStatus}
      (first : Fate l files backend path w status l₁ w₁)
      (others : Course files backend l₁ w₁ rest statuses l₂ w₂) :
      Course files backend l w (path :: rest) (status :: statuses) l₂ w₂

variable {cs : List Path} {statuses : List LoadStatus}

/-- Nothing that becomes of a candidate keeps the next one from its turn. -/
theorem course_total (plain : '/' ∉ l.config.settingsExtension.toList)
    (files : Files) (backend : Backend) (w : Surroundings)
    (cs : List Path) :
    ∃ statuses l' w', Course files backend l w cs statuses l' w' := by
  induction cs generalizing l w with
  | nil => exact ⟨_, _, _, .done⟩
  | cons path rest ih =>
      obtain ⟨status, l₁, w₁, first⟩ := fate_total plain files backend path w
      have still : '/' ∉ l₁.config.settingsExtension.toList := by
        rw [first.grown.config_eq]
        exact plain
      obtain ⟨statuses, l₂, w₂, others⟩ := ih still w₁
      exact ⟨_, _, _, .next first others⟩

theorem Course.length_eq
    (h : Course files backend l w cs statuses l' w') :
    statuses.length = cs.length := by
  induction h with
  | done => rfl
  | next _ _ ih => exact congrArg (· + 1) ih

/-- What every fate keeps a course keeps. -/
theorem Course.induction {P : Loader → Prop}
    (h : Course files backend l w cs statuses l' w') (start : P l)
    (step : ∀ {l₁ l₂ : Loader}, P l₁ → l₁.Grown l₂ → P l₂) : P l' := by
  induction h with
  | done => exact start
  | next first _ ih => exact ih (step start first.grown)

-- =========================================================== the programs

/-- The outcomes of candidates. -/
def outcomes (cs : List Path) (statuses : List LoadStatus) :
    List LoadOutcome :=
  List.zipWith LoadOutcome.mk cs statuses

theorem Course.run_loadAll
    (h : Course files backend l w cs statuses l' w') :
    (l.loadAll files backend cs).runAmbient w
      = (.returned (outcomes cs statuses, l'), w') := by
  induction h with
  | done => rfl
  | next first _ ih =>
      rw [loadAll, Program.bind_eq, Program.runAmbient_bind, first.run]
      dsimp only
      rw [Program.bind_eq, Program.runAmbient_bind, ih]
      rfl

-- =============================================================== at a path

/-- Why nothing is loaded from a path, by what is found there. -/
inductive Refused : Found → LoadCause → Prop
  | nothing : Refused .nothing .invalidPath
  /-- A directory whose entries cannot be listed. -/
  | unlisted (detail : String) :
      Refused (.unlisted detail) (.unopened (.directory detail))

/-- The candidates that a path offers. -/
inductive Offered (files : Files) (path : Path) : List Path → Prop
  | file (file : (files path).isFile = true) : Offered files path [path]
  | directory {names : List String}
      (listed : files path = .directory names) :
      Offered files path (candidates files path names)

/-- A path is refused, or else it offers candidates. -/
theorem refused_or_offered (files : Files) (path : Path) :
    (∃ cause, Refused (files path) cause)
      ∨ (∀ cause, ¬ Refused (files path) cause)
        ∧ ∃ cs, Offered files path cs := by
  cases found : files path with
  | nothing => exact .inl ⟨_, .nothing⟩
  | file content => exact .inr ⟨nofun, _, .file (found ▸ rfl)⟩
  | directory names => exact .inr ⟨nofun, _, .directory found⟩
  | unlisted detail => exact .inl ⟨_, .unlisted detail⟩

theorem Refused.load_eq {cause : LoadCause}
    (h : Refused (files path) cause) (l : Loader) (backend : Backend) :
    l.load files backend path = .done (.error ⟨path, cause⟩, l) := by
  unfold load
  generalize files path = found at h
  cases h <;> rfl

theorem Offered.load_eq (h : Offered files path cs) (l : Loader)
    (backend : Backend) :
    l.load files backend path
      = (l.loadAll files backend cs).bind fun done =>
          .done (.ok ⟨done.1⟩, done.2) := by
  unfold load
  cases h with
  | directory listed =>
      rw [listed]
      rfl
  | file file =>
      cases found : files path with
      | file content => rfl
      | nothing | directory names | unlisted detail =>
          rw [found] at file
          cases file

/-- A load is the course of the candidates that its path offers. -/
theorem Course.run_load (offered : Offered files path cs)
    (h : Course files backend l w cs statuses l' w') :
    (l.load files backend path).runAmbient w
      = (.returned (.ok ⟨outcomes cs statuses⟩, l'), w') := by
  rw [offered.load_eq, Program.runAmbient_bind, h.run_loadAll]
  rfl

/-- Where the extension of settings files is none, the first candidate
stops the loading, before anything has been done. -/
theorem runAmbient_loadAll_of_slash
    (slash : '/' ∈ l.config.settingsExtension.toList) (path : Path)
    (rest : List Path) :
    (l.loadAll files backend (path :: rest)).runAmbient w
      = (.panicked (noExtension l.config.settingsExtension), w) := by
  have no_place : l.config.settingsPath? path = none := by
    unfold LoaderConfig.settingsPath? Path.withExtension?
    exact if_pos (List.contains_iff_mem.mpr slash)
  rw [loadAll, loadOne, no_place]
  rfl

/-- A load follows a course, of whatever candidates, or has done
nothing. -/
theorem load_cases (l : Loader) (files : Files) (backend : Backend)
    (path : Path) (w : Surroundings) :
    (∃ result cs statuses l' w',
        Course files backend l w cs statuses l' w'
          ∧ (l.load files backend path).runAmbient w
            = (.returned (result, l'), w'))
      ∨ ∃ p, (l.load files backend path).runAmbient w = (.panicked p, w) := by
  rcases refused_or_offered files path with
    ⟨cause, refused⟩ | ⟨-, cs, offered⟩
  · refine .inl ⟨.error ⟨path, cause⟩, [], [], l, w, .done, ?_⟩
    rw [refused.load_eq]
    rfl
  by_cases plain : '/' ∉ l.config.settingsExtension.toList
  · obtain ⟨statuses, l', w', course⟩ := course_total plain files backend w cs
    exact .inl ⟨_, cs, statuses, l', w', course, course.run_load offered⟩
  · rw [offered.load_eq, Program.runAmbient_bind]
    cases cs with
    | nil => exact .inl ⟨_, [], [], l, w, .done, rfl⟩
    | cons first rest =>
        right
        rw [runAmbient_loadAll_of_slash (Decidable.not_not.mp plain)]
        exact ⟨_, rfl⟩

/-- Loads what is at several paths, each by a call of its own. -/
def loadEach (files : Files) (backend : Backend) (l : Loader) :
    List Path →
      Program ambient (List (Except LoadError LoadReport) × Loader)
  | [] => return ([], l)
  | path :: rest => do
      let (result, l) ← l.load files backend path
      let (results, l) ← loadEach files backend l rest
      return (result :: results, l)

/-- A report for each candidate, on that candidate only. -/
def reports (cs : List Path) (statuses : List LoadStatus) :
    List (Except LoadError LoadReport) :=
  (outcomes cs statuses).map fun o => .ok ⟨[o]⟩

theorem Course.run_loadEach
    (h : Course files backend l w cs statuses l' w')
    (file : ∀ c ∈ cs, (files c).isFile = true) :
    (l.loadEach files backend cs).runAmbient w
      = (.returned (reports cs statuses, l'), w') := by
  induction h with
  | done => rfl
  | @next l l₁ l₂ w w₁ w₂ path rest status statuses first _ ih =>
      have here : Course files backend l w [path] [status] l₁ w₁ :=
        .next first .done
      rw [loadEach, Program.bind_eq, Program.runAmbient_bind,
        here.run_load (.file (file path (List.mem_cons_self ..)))]
      dsimp only
      rw [Program.bind_eq, Program.runAmbient_bind,
        ih fun c hc => file c (List.mem_cons_of_mem _ hc)]
      rfl

end PluginRpc.Loader
