/-
The settings files of a directory's modules.

Each module found in a directory has a settings file of its own: its name
is the module's stem and the extension of settings files, and different
modules have different stems. So whatever is where one module's settings
are looked for, it makes no difference to the loading of another.

For one pair of names this fails. With no extension for settings files,
the settings of `..so` and of `...so` are both looked for at two dots,
the one's because its stem is a dot and the other's because its stem is
two.
-/
import PluginRpc.Proofs.Extension
import PluginRpc.Proofs.Plugin.Directory

open PluginRpc.Path (Segment IsEntry renamed)

namespace PluginRpc.Visit

open Loader

variable {v : Visit} {c d : Path} {stem other : Segment}

-- ================================================================== stems

/-- The name of a module file. -/
def moduleName (stem : Segment) : String :=
  String.ofList (stem ++ '.' :: moduleExtension)

/-- The place for the settings of a module with a stem. -/
def companion (v : Visit) (stem : Segment) : Path :=
  v.directory.child
    (String.ofList (renamed stem v.loader.config.settingsExtension.toList))

/-- A module file in the directory. -/
structure Stemmed (v : Visit) (stem : Segment) (c : Path) : Prop where
  named : stem ≠ []
  entry : IsEntry (moduleName stem)
  place : c = v.directory.child (moduleName stem)

theorem IsCandidate.stemmed (h : v.IsCandidate c) :
    ∃ stem, v.Stemmed stem c := by
  obtain ⟨name, listed, rfl, -, extension⟩ := h
  have entry := v.listing.entries name listed
  rw [Path.extension?_child entry] at extension
  obtain ⟨stem, named, -, whole⟩ := Path.eq_append_of_splitName extension
  have name_eq : name = moduleName stem := by
    rw [← String.toList_inj, whole, moduleName, String.toList_ofList]
  subst name_eq
  exact ⟨stem, named, entry, rfl⟩

theorem moduleName_inj : moduleName stem = moduleName other ↔ stem = other := by
  rw [moduleName, moduleName, ← String.toList_inj, String.toList_ofList,
    String.toList_ofList, List.append_cancel_right_eq]

theorem Stemmed.eq_iff (h : v.Stemmed stem c) :
    c = v.directory.child (moduleName other) ↔ stem = other := by
  rw [h.place, Path.child_inj, moduleName_inj]

theorem Stemmed.plain (h : v.Stemmed stem c) : '/' ∉ stem := fun inside =>
  h.entry.plain <| by
    rw [moduleName, String.toList_ofList]
    exact List.mem_append_left _ inside

/-- Where the settings of a module are looked for. -/
theorem Stemmed.settingsPath?_eq (h : v.Stemmed stem c) :
    v.loader.config.settingsPath? c = some (v.companion stem) := by
  rw [h.place]
  exact Path.withExtension?_child h.named (by decide) h.entry v.plain

-- ========================================================== their places

/-- The two modules whose settings are looked for at one place. -/
def Crossed (v : Visit) (c d : Path) : Prop :=
  v.loader.config.settingsExtension = ""
    ∧ (c = v.directory.child "..so" ∧ d = v.directory.child "...so"
      ∨ c = v.directory.child "...so" ∧ d = v.directory.child "..so")

/-- They are those whose stems are a dot and two dots. -/
theorem Stemmed.crossed_iff (h : v.Stemmed stem c)
    (h' : v.Stemmed other d) :
    v.Crossed c d ↔ v.loader.config.settingsExtension.toList = []
      ∧ (stem = Path.here ∧ other = Path.up
        ∨ stem = Path.up ∧ other = Path.here) := by
  have one_dot : "..so" = moduleName Path.here := by decide
  have two_dots : "...so" = moduleName Path.up := by decide
  unfold Crossed
  rw [one_dot, two_dots, h.eq_iff, h'.eq_iff, h.eq_iff, h'.eq_iff,
    String.toList_eq_nil_iff]

/-- Their place is two dots. -/
theorem Stemmed.companion_of_crossed (h : v.Stemmed stem c)
    (h' : v.Stemmed other d) (crossed : v.Crossed c d) :
    v.companion stem = v.directory.child ".." := by
  obtain ⟨bare, stems⟩ := (h.crossed_iff h').mp crossed
  unfold companion
  rw [bare]
  obtain ⟨rfl, -⟩ | ⟨rfl, -⟩ := stems <;> rfl

theorem Crossed.symm (h : v.Crossed c d) : v.Crossed d c :=
  ⟨h.1, h.2.symm.imp And.symm And.symm⟩

/-- To the loading of a module only that is of consequence which is where
its settings are looked for. -/
theorem loadOne_congr {l : Loader} {files files' : Files} {place : Path}
    (plain : '/' ∉ l.config.settingsExtension.toList) (backend : Backend)
    (place_at : l.config.settingsPath? c = some place)
    (same : files' place = files place) :
    l.loadOne files' backend c = l.loadOne files backend c := by
  have alike : SameFor c l.config files files' backend backend :=
    ⟨rfl, fun place' at_place' => by
      rw [Option.some.inj (at_place'.symm.trans place_at), same]⟩
  obtain ⟨result, companion⟩ := companion_total plain files c
  rw [loadOne_of_companion companion,
    loadOne_of_companion (alike.companion companion)]

/-- Different modules of a directory have different places for their
settings, and nothing that is at the one's makes a difference to the
loading of the other. The exception is the pair of `..so` and `...so`
where settings files have no extension. They have one place, two dots, and
as long as no file is there both have the defaults. -/
theorem companions_apart (hc : v.IsCandidate c) (hd : v.IsCandidate d)
    (differ : c ≠ d) :
    ∃ p q, v.loader.config.settingsPath? c = some p
      ∧ v.loader.config.settingsPath? d = some q
      ∧ (p.same q = true ↔ v.Crossed c d)
      ∧ ∀ (l : Loader) (backend : Backend), l.config = v.loader.config →
          (¬ v.Crossed c d → ∀ files : Files,
              (∀ r : Path, r.same q = false → files r = v.files r) →
              l.loadOne files backend c = l.loadOne v.files backend c)
          ∧ (v.Crossed c d → p = v.directory.child ".."
              ∧ q = v.directory.child ".."
              ∧ ((v.files (v.directory.child "..")).isFile = false →
                l.loadOne v.files backend c
                  = l.proceed backend c (.ok .default))) := by
  obtain ⟨stem, hs⟩ := hc.stemmed
  obtain ⟨other, ht⟩ := hd.stemmed
  have stems : stem ≠ other := fun same =>
    differ (by rw [hs.place, ht.place, same])
  have places : (v.companion stem).same (v.companion other) = true
      ↔ v.Crossed c d := by
    rw [hs.crossed_iff ht]
    exact (Path.same_renamed_iff hs.named ht.named hs.plain ht.plain
      v.plain).trans (or_iff_right stems)
  refine ⟨_, _, hs.settingsPath?_eq, ht.settingsPath?_eq, places,
    fun l backend config => ⟨fun apart files elsewhere => ?_,
      fun crossed => ⟨hs.companion_of_crossed ht crossed,
        ht.companion_of_crossed hs crossed.symm, fun nothing => ?_⟩⟩⟩
  · have place_at := hs.settingsPath?_eq
    rw [← config] at place_at
    refine loadOne_congr (config ▸ v.plain) backend place_at (elsewhere _ ?_)
    exact Bool.eq_false_iff.mpr fun same => apart (places.mp same)
  · rw [← hs.companion_of_crossed ht crossed] at nothing
    exact loadOne_of_companion (config ▸ .absent hs.settingsPath?_eq nothing)

/-- The modules of two names of a directory, under the default
configuration. -/
theorem companions_of_two :
    (shelf _ listing_three).IsCandidate ⟨"lib/a.so"⟩
      ∧ (shelf _ listing_three).IsCandidate ⟨"lib/b.so"⟩
      ∧ ∃ p q, LoaderConfig.default.settingsPath? ⟨"lib/a.so"⟩ = some p
        ∧ LoaderConfig.default.settingsPath? ⟨"lib/b.so"⟩ = some q
        ∧ p.same q = false := by
  have first : (shelf _ listing_three).IsCandidate ⟨"lib/a.so"⟩ :=
    ⟨"a.so", by decide, by decide, by decide, by decide⟩
  have second : (shelf _ listing_three).IsCandidate ⟨"lib/b.so"⟩ :=
    ⟨"b.so", by decide, by decide, by decide, by decide⟩
  obtain ⟨p, q, at_p, at_q, places, -⟩ :=
    companions_apart first second (by decide)
  refine ⟨first, second, p, q, at_p, at_q,
    Bool.eq_false_iff.mpr fun same => ?_⟩
  exact absurd (places.mp same).1 (by decide)

-- ========================================================== the exception

theorem listing_dots : Listing ["..so", "...so"] where
  distinct := by decide
  entries := by
    intro name h
    simp only [List.mem_cons, List.not_mem_nil, or_false] at h
    rcases h with rfl | rfl <;> exact ⟨by decide, by decide, by decide⟩

/-- The two modules, where settings files have no extension. -/
def dots : Visit where
  loader := ofConfig { LoaderConfig.default with settingsExtension := "" }
  files := (shelf _ listing_dots).files
  backend := (shelf _ listing_dots).backend
  directory := ⟨"lib"⟩
  names := ["..so", "...so"]
  plain := by decide
  readable := rfl
  listing := listing_dots

/-- Two modules of a directory whose settings are looked for at one
place. -/
theorem companions_of_dots :
    dots.IsCandidate ⟨"lib/..so"⟩ ∧ dots.IsCandidate ⟨"lib/...so"⟩
      ∧ dots.loader.config.settingsPath? ⟨"lib/..so"⟩ = some ⟨"lib/.."⟩
      ∧ dots.loader.config.settingsPath? ⟨"lib/...so"⟩ = some ⟨"lib/.."⟩ :=
  ⟨⟨"..so", by decide, by decide, by decide, by decide⟩,
    ⟨"...so", by decide, by decide, by decide, by decide⟩,
    by decide, by decide⟩

end PluginRpc.Visit
