/-
Which files of a directory are loaded, and in which order.

A directory's entries are listed in whatever order, each once. Of the
entries that are files and have the extension of modules the loader makes
one list, increasing in the order of paths. `Scan` says so without the
loader's sorting; there is one such list only, so the order of the listing
is without consequence.
-/
import PluginRpc.Plugin.Loader
import PluginRpc.Proofs.Path

namespace PluginRpc

/-- The names of a directory's entries, as they are listed. -/
structure Listing (names : List String) : Prop where
  distinct : names.Nodup
  entries : ∀ name ∈ names, Path.IsEntry name

/-- A loader in front of a directory that can be read. Its extension of
settings files is one. -/
structure Visit where
  loader : Loader
  files : Files
  backend : Backend
  directory : Path
  names : List String
  plain : '/' ∉ loader.config.settingsExtension.toList
  readable : files directory = .directory names
  listing : Listing names

namespace Visit

variable {v : Visit}

/-- An entry that is a module file. -/
def IsCandidate (v : Visit) (c : Path) : Prop :=
  ∃ name ∈ v.names, c = v.directory.child name ∧ (v.files c).isFile = true
    ∧ c.extension? = some Loader.moduleExtension

/-- All module files, in the order of their paths. -/
structure Scan (v : Visit) (cs : List Path) : Prop where
  complete : ∀ c, c ∈ cs ↔ v.IsCandidate c
  increasing : cs.Pairwise fun a b => a.order b = .lt

theorem IsCandidate.isFile {c : Path} (h : v.IsCandidate c) :
    (v.files c).isFile = true := by
  obtain ⟨_, _, _, file, _⟩ := h
  exact file

/-- Module files are not ahead of each other both ways. -/
theorem IsCandidate.order_asymm {a b : Path} (ha : v.IsCandidate a)
    (hb : v.IsCandidate b) (before : a.order b = .lt) :
    b.order a ≠ .lt := by
  obtain ⟨x, hx, rfl, -⟩ := ha
  obtain ⟨y, hy, rfl, -⟩ := hb
  have ex := v.listing.entries x hx
  have ey := v.listing.entries y hy
  rw [Path.order_child _ ex ey] at before
  rw [Path.order_child _ ey ex]
  exact Std.OrientedCmp.not_lt_of_lt before

/-- A list that increases has nothing in it twice. -/
theorem Scan.nodup {cs : List Path} (h : v.Scan cs) : cs.Nodup := by
  refine List.Pairwise.imp_of_mem ?_ h.increasing
  rintro a b ha - before rfl
  have candidate := (h.complete a).mp ha
  exact candidate.order_asymm candidate before before

/-- There is one list of a directory's module files. -/
theorem Scan.unique {v' : Visit} {cs cs' : List Path} (h : v.Scan cs)
    (h' : v'.Scan cs') (same : ∀ c, v.IsCandidate c ↔ v'.IsCandidate c) :
    cs = cs' := by
  have members : ∀ c, c ∈ cs ↔ c ∈ cs' := fun c =>
    (h.complete c).trans ((same c).trans (h'.complete c).symm)
  have perm : cs.Perm cs' :=
    (List.perm_ext_iff_of_nodup h.nodup h'.nodup).mpr members
  refine perm.eq_of_pairwise (fun a b ha hb before behind => ?_)
    h.increasing h'.increasing
  have hb : b ∈ cs := (members b).mpr hb
  exact absurd behind
    (((h.complete a).mp ha).order_asymm ((h.complete b).mp hb) before)

-- ============================================================ the sorting

/-- The names of the module files, in the order of the listing. -/
def moduleNames (v : Visit) : List String :=
  v.names.filter fun name =>
    (v.files (v.directory.child name)).isFile
      && (v.directory.child name).extension? == some Loader.moduleExtension

def sortedNames (v : Visit) : List String :=
  v.moduleNames.mergeSort fun a b => compare a b != .gt

/-- What the loader makes of the listing. -/
def candidates (v : Visit) : List Path :=
  Loader.candidates v.files v.directory v.names

theorem isEntry_of_mem_moduleNames {name : String}
    (h : name ∈ v.moduleNames) : Path.IsEntry name :=
  v.listing.entries name (List.mem_filter.mp h).1

/-- Sorting the paths is sorting the names. -/
theorem candidates_eq :
    v.candidates = v.sortedNames.map v.directory.child := by
  unfold candidates Loader.candidates
  dsimp only
  rw [List.filter_map]
  refine (List.map_mergeSort fun a ha b hb => ?_).symm
  rw [Path.order_child _ (isEntry_of_mem_moduleNames ha)
    (isEntry_of_mem_moduleNames hb)]

/-- Distinct texts are sorted into an increasing list. -/
theorem pairwise_lt_mergeSort {names : List String}
    (distinct : names.Nodup) :
    (names.mergeSort fun a b => compare a b != .gt).Pairwise
      fun a b => compare a b = .lt := by
  have reading : ∀ o : Ordering, (o != .gt) = o.isLE := fun o => by
    cases o <;> rfl
  have sorted : (names.mergeSort fun a b => compare a b != .gt).Pairwise
      fun a b => (compare a b != .gt) = true := by
    refine List.pairwise_mergeSort (fun a b c => ?_) (fun a b => ?_) names
    · simp only [reading]
      exact Std.TransOrd.isLE_trans
    · rw [Std.OrientedOrd.eq_swap (a := b)]
      cases compare a b <;> rfl
  have nodup : (names.mergeSort fun a b => compare a b != .gt).Nodup :=
    (List.mergeSort_perm names _).nodup_iff.mpr distinct
  refine List.Pairwise.imp₂ (fun a b before differ => ?_) sorted nodup
  cases h : compare a b with
  | lt => rfl
  | eq => exact absurd (Std.LawfulEqOrd.eq_of_compare h) differ
  | gt => rw [h] at before; cases before

theorem mem_sortedNames {name : String} :
    name ∈ v.sortedNames ↔ name ∈ v.moduleNames :=
  List.mem_mergeSort

theorem sortedNames_increasing :
    v.sortedNames.Pairwise fun a b => compare a b = .lt :=
  pairwise_lt_mergeSort (v.listing.distinct.sublist List.filter_sublist)

/-- The loader finds all module files, in the order of their paths. -/
theorem scan_candidates (v : Visit) : v.Scan v.candidates := by
  rw [candidates_eq]
  refine ⟨fun c => ?_, List.pairwise_map.mpr ?_⟩
  · simp only [List.mem_map, mem_sortedNames, moduleNames, List.mem_filter,
      Bool.and_eq_true, beq_iff_eq]
    constructor
    · rintro ⟨name, ⟨listed, file, extension⟩, rfl⟩
      exact ⟨name, listed, rfl, file, extension⟩
    · rintro ⟨name, listed, rfl, file, extension⟩
      exact ⟨name, ⟨listed, file, extension⟩, rfl⟩
  · refine List.Pairwise.imp_of_mem (fun {a b} ha hb before => ?_)
      v.sortedNames_increasing
    have ea := isEntry_of_mem_moduleNames (mem_sortedNames.mp ha)
    have eb := isEntry_of_mem_moduleNames (mem_sortedNames.mp hb)
    rw [Path.order_child _ ea eb]
    exact before

end Visit

end PluginRpc
