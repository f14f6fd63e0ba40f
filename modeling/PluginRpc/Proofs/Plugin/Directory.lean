/-
The loading of a directory.

It is the loading of the directory's module files one after another, each
by a call of its own, and the report has an outcome for each of them in
the order of their paths. In what order the directory lists its entries
makes no difference. Nor do the other files to what is reported of one:
they may be other modules, or broken, or none, as long as the code in
them does not interfere with that module's.
-/
import PluginRpc.Proofs.Plugin.Independence
import PluginRpc.Proofs.Plugin.Listing

namespace PluginRpc.Visit

open Loader

variable {v v' : Visit} {w : Surroundings} {c : Path} {s : LoadStatus}

def load (v : Visit) :
    Program ambient (Except LoadError LoadReport × Loader) :=
  v.loader.load v.files v.backend v.directory

-- ====================================================== one after another

/-- The course that the loading of a directory takes. -/
theorem run_load {cs : List Path} (scan : v.Scan cs) (w : Surroundings) :
    ∃ statuses l' w',
      Course v.files v.backend v.loader w cs statuses l' w'
        ∧ v.load.runAmbient w
          = (.returned (.ok ⟨outcomes cs statuses⟩, l'), w') := by
  have found : cs = v.candidates :=
    scan.unique v.scan_candidates fun _ => Iff.rfl
  subst found
  obtain ⟨statuses, l', w', course⟩ :=
    course_total v.plain v.files v.backend w v.candidates
  exact ⟨statuses, l', w', course, course.run_load (.directory v.readable)⟩

theorem Scan.isFile {cs : List Path} (scan : v.Scan cs) :
    ∀ c ∈ cs, (v.files c).isFile = true :=
  fun c hc => ((scan.complete c).mp hc).isFile

-- ============================================================ the listing

/-- The same directory, listed in another order. -/
structure Relisted (v v' : Visit) : Prop where
  loader : v'.loader = v.loader
  backend : v'.backend = v.backend
  directory : v'.directory = v.directory
  files : ∀ p, p ≠ v.directory → v'.files p = v.files p
  names : v'.names.Perm v.names

/-- What is looked for in a file system: whether there are files, and what
settings they are. -/
theorem Relisted.files_eq (h : v.Relisted v') (p : Path) :
    (v'.files p).isFile = (v.files p).isFile
      ∧ PluginSettings.ofFile? v'.files p
        = PluginSettings.ofFile? v.files p := by
  unfold PluginSettings.ofFile? configText
  by_cases at_directory : p = v.directory
  · subst at_directory
    have listed := v'.readable
    rw [h.directory] at listed
    rw [listed, v.readable]
    exact ⟨rfl, rfl⟩
  · rw [h.files p at_directory]
    exact ⟨rfl, rfl⟩

theorem Relisted.isCandidate_iff (h : v.Relisted v') (c : Path) :
    v'.IsCandidate c ↔ v.IsCandidate c := by
  unfold IsCandidate
  simp only [h.directory, (h.files_eq c).1, h.names.mem_iff]

theorem loadAll_congr {files files' : Files} {backend : Backend}
    (same : ∀ p, PluginSettings.ofFile? files' p
      = PluginSettings.ofFile? files p) (l : Loader) (cs : List Path) :
    l.loadAll files' backend cs = l.loadAll files backend cs := by
  induction cs generalizing l with
  | nil => rfl
  | cons path rest ih =>
      have first : l.loadOne files' backend path
          = l.loadOne files backend path := by
        unfold loadOne
        cases l.config.settingsPath? path with
        | none => rfl
        | some place => simp only [same place]
      rw [loadAll, loadAll, first]
      simp only [ih]

theorem Relisted.load_eq (h : v.Relisted v') : v'.load = v.load := by
  have found : v'.candidates = v.candidates :=
    v'.scan_candidates.unique v.scan_candidates h.isCandidate_iff
  have offered : Offered v.files v.directory v.candidates :=
    .directory v.readable
  have offered' : Offered v'.files v'.directory v'.candidates :=
    .directory v'.readable
  unfold load
  rw [offered'.load_eq, offered.load_eq, found, h.loader, h.backend,
    loadAll_congr fun p => (h.files_eq p).2]

-- ============================================================== isolation

/-- What is reported of a candidate. -/
def Reports (v : Visit) (w : Surroundings) (c : Path) (s : LoadStatus) :
    Prop :=
  ∃ report l' w',
    v.load.runAmbient w = (.returned (.ok report, l'), w')
      ∧ ⟨c, s⟩ ∈ report.outcomes

/-- The module of a candidate is independent of all others'. -/
def Undisturbed (v : Visit) (c : Path) : Prop :=
  ∀ d, v.IsCandidate d → d ≠ c → ∀ m other, v.backend c = .ok m →
    v.backend d = .ok other → m.IndependentOf other

/-- A candidate has the same module and the same settings file in both
places, and is loaded under the same configuration. -/
structure Shares (v v' : Visit) (c : Path) : Prop where
  config : v'.loader.config = v.loader.config
  same : SameFor c v.loader.config v.files v'.files v.backend v'.backend

theorem Shares.symm (h : v.Shares v' c) : v'.Shares v c :=
  ⟨h.config.symm, h.config ▸ h.same.symm⟩

theorem Scan.undisturbed {cs : List Path} (scan : v.Scan cs)
    (h : v.Undisturbed c) :
    ∀ d ∈ cs, d ≠ c → ∀ m other, v.backend c = .ok m →
      v.backend d = .ok other → m.IndependentOf other :=
  fun d hd => h d ((scan.complete d).mp hd)

/-- What is reported of a candidate in one directory is reported of it in
another one where it is the same and as undisturbed. -/
theorem Reports.moved (h : v.Reports w c s) (there : v'.IsCandidate c)
    (shares : v.Shares v' c) (undisturbed : v.Undisturbed c)
    (undisturbed' : v'.Undisturbed c) : v'.Reports w c s := by
  have scan := v.scan_candidates
  have scan' := v'.scan_candidates
  obtain ⟨statuses, l₁, w₁, course, run⟩ := run_load scan w
  obtain ⟨statuses', l₂, w₂, course', run'⟩ := run_load scan' w
  -- the report of `h` is the one of the run, and the candidate is in it
  obtain ⟨report, _, _, ran, here⟩ := h
  have same := ran.symm.trans run
  cases same
  obtain ⟨s', here'⟩ := course'.outcome_of ((scan'.complete c).mpr there)
  obtain ⟨l₃, w₃, _, _, fate, config, alike⟩ :=
    course.fate_of here scan.nodup (scan.undisturbed undisturbed)
  obtain ⟨l₄, w₄, _, _, fate', config', alike'⟩ :=
    course'.fate_of here' scan'.nodup (scan'.undisturbed undisturbed')
  -- both fates begin, for the module, where the two runs begin
  have between : ∀ m, v.backend c = .ok m → m.Alike w₃ w₄ := by
    intro m opened
    have opened' : v'.backend c = .ok m := shares.same.module.trans opened
    exact (alike m opened).symm.trans (alike' m opened')
  have configs : l₄.config = l₃.config :=
    config'.trans (shares.config.trans config.symm)
  obtain ⟨_, _, moved⟩ :=
    fate.moved (config ▸ shares.same) configs between
  have one : s = s' := moved.status_unique fate'
  subst one
  exact ⟨_, _, _, run', here'⟩

theorem reports_iff (here : v.IsCandidate c) (there : v'.IsCandidate c)
    (shares : v.Shares v' c) (undisturbed : v.Undisturbed c)
    (undisturbed' : v'.Undisturbed c) :
    v.Reports w c s ↔ v'.Reports w c s :=
  ⟨fun h => h.moved there shares undisturbed undisturbed',
    fun h => h.moved here shares.symm undisturbed' undisturbed⟩

-- =============================================================== together

/-- The loading of a directory is the loading of its module files, each by
a call of its own, in the order of their paths: with the same statuses,
the same loader behind it and the same surroundings. The order of the
listing does not matter to it, and to the status of a candidate neither do
the other candidates. -/
theorem load_directory (v : Visit) :
    (∃ cs, v.Scan cs)
      ∧ (∀ cs w, v.Scan cs → ∃ statuses l' w',
          statuses.length = cs.length
            ∧ v.load.runAmbient w
              = (.returned (.ok ⟨outcomes cs statuses⟩, l'), w')
            ∧ (v.loader.loadEach v.files v.backend cs).runAmbient w
              = (.returned (reports cs statuses, l'), w'))
      ∧ (∀ v', v.Relisted v' → v'.load = v.load)
      ∧ ∀ v' c w s, v.IsCandidate c → v'.IsCandidate c → v.Shares v' c →
          v.Undisturbed c → v'.Undisturbed c →
          (v.Reports w c s ↔ v'.Reports w c s) := by
  refine ⟨⟨_, v.scan_candidates⟩, fun cs w scan => ?_,
    fun v' relisted => relisted.load_eq,
    fun v' c w s here there shares undisturbed undisturbed' =>
      reports_iff here there shares undisturbed undisturbed'⟩
  obtain ⟨statuses, l', w', course, run⟩ := run_load scan w
  exact ⟨statuses, l', w', course.length_eq, run,
    course.run_loadEach scan.isFile⟩

-- ============================================================== two modules

/-- A module that takes an hour to come up with a schema, and has nothing
else. -/
def slow : Module where
  schema := some (.perform (.elapse .hour) fun _ => .done (.ofPackages []))
  factory := none

/-- Looks whether a call has been cancelled, and panics if so. -/
def askWary : SchemaMaker :=
  .perform (.check ⟨⟨0⟩, .unlimited, []⟩) fun (alive : Except _ _) =>
    match alive with
    | .ok () => .done (.ofPackages [])
    | .error _ => .panic .nonText

/-- A module that has a schema as long as nobody has cancelled a call, and
has nothing else. -/
def wary : Module := ⟨some askWary, none⟩

/-- What it looks at is what has been cancelled, not the time. -/
theorem alike_wary {w v : Surroundings} (same : w.cancelled = v.cancelled) :
    wary.Alike w v := by
  let c : CallContext := ⟨⟨0⟩, .unlimited, []⟩
  have alive : c.check w = c.check v := by
    unfold CallContext.check Surroundings.isCancelled
    rw [same]
    rfl
  refine .of_schema rfl rfl ?_
  unfold askWary Program.runAmbient AmbientOp.run
  dsimp only
  rw [alive]
  cases c.check v <;> rfl

/-- A directory of modules under the default configuration, the first of
which is slow. -/
def shelf (names : List String) (listing : Listing names) : Visit where
  loader := ofConfig .default
  files p :=
    if p = ⟨"lib"⟩ then .directory names
    else if p.extension? = some moduleExtension then .file none
    else .nothing
  backend p := .ok (if p = ⟨"lib/a.so"⟩ then slow else wary)
  directory := ⟨"lib"⟩
  names := names
  plain := by decide
  readable := rfl
  listing := listing

theorem listing_one : Listing ["b.so"] where
  distinct := by decide
  entries := by
    intro name h
    obtain rfl := List.mem_singleton.mp h
    exact ⟨by decide, by decide, by decide⟩

theorem listing_three : Listing ["b.so", "notes.txt", "a.so"] where
  distinct := by decide
  entries := by
    intro name h
    simp only [List.mem_cons, List.not_mem_nil, or_false] at h
    rcases h with rfl | rfl | rfl <;> exact ⟨by decide, by decide, by decide⟩

theorem scan_shelf : (shelf _ listing_three).Scan
    [⟨"lib/a.so"⟩, ⟨"lib/b.so"⟩] where
  complete c := by
    unfold IsCandidate shelf
    constructor
    · intro h
      simp only [List.mem_cons, List.not_mem_nil, or_false] at h
      rcases h with rfl | rfl
      · exact ⟨"a.so", by decide, by decide, by decide, by decide⟩
      · exact ⟨"b.so", by decide, by decide, by decide, by decide⟩
    · rintro ⟨name, h, rfl, -, extension⟩
      simp only [List.mem_cons, List.not_mem_nil, or_false] at h
      rcases h with rfl | rfl | rfl
      · decide
      · exact absurd extension (by decide)
      · decide
  increasing := by decide

/-- Neither module cancels anything. -/
theorem shelf_undisturbed {names : List String} (listing : Listing names) :
    (shelf names listing).Undisturbed ⟨"lib/b.so"⟩ := by
  intro d _ _ m other opened opened' w v leads
  have here : m = wary := (Except.ok.inj opened).symm
  subst here
  refine alike_wary ?_
  have module : (if d = ⟨"lib/a.so"⟩ then slow else wary) = other :=
    Except.ok.inj opened'
  by_cases first : d = ⟨"lib/a.so"⟩
  · rw [if_pos first] at module
    subst module
    obtain rfl | rfl := Module.Leads.of_schema rfl rfl leads <;> rfl
  · rw [if_neg first] at module
    subst module
    have looks : (askWary.runAmbient w).2 = w := by
      unfold askWary Program.runAmbient AmbientOp.run
      dsimp only
      split <;> rfl
    obtain rfl | rfl := Module.Leads.of_schema rfl rfl leads
    · rfl
    · rw [looks]

/-- Two modules and a text, listed backwards: two outcomes in order. The
first module lets an hour pass, and the second one is reported on as it is
in a directory of its own. -/
theorem load_directory_of_two :
    (∃ statuses l' w', statuses.length = 2
        ∧ (shelf _ listing_three).load.runAmbient .start
          = (.returned
              (.ok ⟨outcomes [⟨"lib/a.so"⟩, ⟨"lib/b.so"⟩] statuses⟩, l'),
            w'))
      ∧ slow.Leads .start (Surroundings.start.elapse .hour)
      ∧ ∀ s, (shelf _ listing_three).Reports .start ⟨"lib/b.so"⟩ s
          ↔ (shelf _ listing_one).Reports .start ⟨"lib/b.so"⟩ s := by
  have here : (shelf _ listing_three).IsCandidate ⟨"lib/b.so"⟩ :=
    ⟨"b.so", by decide, by decide, by decide, by decide⟩
  have there : (shelf _ listing_one).IsCandidate ⟨"lib/b.so"⟩ :=
    ⟨"b.so", by decide, by decide, by decide, by decide⟩
  have shares : (shelf _ listing_three).Shares (shelf _ listing_one)
      ⟨"lib/b.so"⟩ := by
    refine ⟨rfl, rfl, fun place at_place => ?_⟩
    have beside : place = ⟨"lib/b.toml"⟩ :=
      Option.some.inj (at_place.symm.trans (by decide))
    subst beside
    decide
  obtain ⟨-, runs, -, isolated⟩ := load_directory (shelf _ listing_three)
  obtain ⟨statuses, l', w', count, run, -⟩ := runs _ .start scan_shelf
  exact ⟨⟨statuses, l', w', count, run⟩, .schema (.ours rfl rfl rfl),
    fun s => isolated _ _ .start s here there shares
      (shelf_undisturbed _) (shelf_undisturbed _)⟩

end PluginRpc.Visit
