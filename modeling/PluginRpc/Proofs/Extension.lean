/-
Changing the extension of what is found in a directory.

An entry that has an extension is named by a stem, a dot and the
extension, and the dot is the last one. What gets another extension is
found in the same directory, under the stem and the new extension, or
under the bare stem if the new extension is empty.

There is one exception. The old extension is cut off before the new one is
set, and up to then the dot stays with the stem. For a stem that is itself
a single dot the path then ends in two dots. That leads out of the
directory, is no file name, and gets no extension any more.
-/
import PluginRpc.Proofs.Path
import Mathlib.Data.List.TakeWhile

namespace PluginRpc.Path

-- ================================================================== stems

/-- A name is cut at its last dot, if something stands in front of it. -/
theorem splitName_append {stem extension : Segment} (named : stem ≠ [])
    (dotless : '.' ∉ extension) :
    splitName (stem ++ '.' :: extension) = (stem, some extension) := by
  have others : ∀ c ∈ extension.reverse, (c != '.') = true := fun c inside =>
    bne_iff_ne.mpr fun dot => dotless (dot ▸ List.mem_reverse.mp inside)
  have backwards : (stem ++ '.' :: extension).reverse
      = extension.reverse ++ '.' :: stem.reverse := by simp
  have dropped : (extension.reverse ++ '.' :: stem.reverse).dropWhile (· != '.')
      = '.' :: stem.reverse := by
    rw [List.dropWhile_append_of_pos others]
    rfl
  have taken : (extension.reverse ++ '.' :: stem.reverse).takeWhile (· != '.')
      = extension.reverse := by
    rw [List.takeWhile_append_of_pos others]
    simp
  unfold splitName
  rw [backwards, dropped, taken, List.reverse_reverse]
  cases back : stem.reverse with
  | nil => exact absurd (List.reverse_eq_nil_iff.mp back) named
  | cons c cs =>
      show ((c :: cs).reverse, _) = _
      rw [← back, List.reverse_reverse]

/-- What has an extension is named by a stem, a dot and the extension. -/
theorem eq_append_of_splitName {name extension : Segment}
    (h : (splitName name).2 = some extension) :
    ∃ stem, stem ≠ [] ∧ '.' ∉ extension ∧ name = stem ++ '.' :: extension := by
  have whole := List.takeWhile_append_dropWhile
    (p := (· != '.')) (l := name.reverse)
  unfold splitName at h
  cases behind : name.reverse.dropWhile (· != '.') with
  | nil => rw [behind] at h; cases h
  | cons dot stem =>
      have is_dot : dot = '.' := by
        have stops := List.head_dropWhile_not (p := (· != '.'))
          (l := name.reverse) (by rw [behind]; exact List.cons_ne_nil _ _)
        simpa [behind] using stops
      subst is_dot
      rw [behind] at h whole
      cases stem with
      | nil => cases h
      | cons c cs =>
          obtain rfl := Option.some.inj h
          refine ⟨(c :: cs).reverse, by simp, fun inside => ?_, ?_⟩
          · have dotless := List.mem_takeWhile_imp (List.mem_reverse.mp inside)
            exact absurd dotless (by decide)
          · have flipped := congrArg List.reverse whole
            simpa using flipped.symm

-- ================================================================ entries

variable {p : Path} {name other : String}

/-- The path of what is found under a name ends in the name, and begins
the same for all names. -/
theorem child_text (p : Path) :
    ∃ front : List Char, ∀ name : String,
      (p.child name).text.toList = front ++ name.toList := by
  unfold child
  split
  · exact ⟨[], fun name => rfl⟩
  · split
    · exact ⟨p.text.toList, fun name => String.toList_append⟩
    · exact ⟨p.text.toList ++ ['/'], fun name => by simp⟩

theorem child_inj : p.child name = p.child other ↔ name = other := by
  obtain ⟨front, ends⟩ := p.child_text
  constructor
  · intro same
    have texts : front ++ name.toList = front ++ other.toList := by
      rw [← ends, ← ends, same]
    exact String.toList_inj.mp (List.append_cancel_left texts)
  · rintro rfl
    rfl

/-- The last segment that tells something is the name, if it does. -/
theorem backwards_child (p : Path) :
    ∃ before, ∀ name : String, '/' ∉ name.toList →
      (p.child name).segments = before ++ [name.toList]
        ∧ (isIdle name.toList = false →
          (p.child name).backwards = name.toList :: before.reverse) := by
  obtain ⟨before, cut⟩ := p.segments_child
  refine ⟨before, fun name plain => ⟨cut name plain, fun telling => ?_⟩⟩
  unfold backwards
  rw [cut name plain, List.reverse_append]
  show List.dropWhile isIdle (name.toList :: before.reverse) = _
  rw [List.dropWhile_cons_of_neg (Bool.eq_false_iff.mp telling)]

theorem extension?_child (entry : IsEntry name) :
    (p.child name).extension? = (splitName name.toList).2 := by
  obtain ⟨before, ends⟩ := p.backwards_child
  have backwards := (ends name entry.plain).2 entry.telling
  unfold extension? fileName?
  rw [backwards]
  dsimp only
  rw [if_neg entry.below]
  rfl

-- ============================================================= extensions

/-- What stands behind the stem for an extension. -/
def suffix (extension : Segment) : Segment :=
  if extension.isEmpty then [] else '.' :: extension

/-- The name under a stem with another extension. -/
def renamed (stem extension : Segment) : Segment :=
  if stem = here then up else stem ++ suffix extension

theorem renamed_plain {stem extension : Segment} (plain : '/' ∉ stem)
    (whole : '/' ∉ extension) : '/' ∉ renamed stem extension := by
  unfold renamed suffix
  split
  · decide
  · split <;> simp [plain, whole]

/-- Where the extension behind a stem is cut off, the dot stays. -/
theorem cutExtension_child {stem extension : Segment} (named : stem ≠ [])
    (dotless : '.' ∉ extension)
    (entry : IsEntry (String.ofList (stem ++ '.' :: extension))) :
    (p.child (String.ofList (stem ++ '.' :: extension))).cutExtension
      = p.child (String.ofList (stem ++ ['.'])) := by
  obtain ⟨front, ends⟩ := p.child_text
  have cut : ((front ++ (stem ++ ['.'])) ++ extension).take
        (((front ++ (stem ++ ['.'])) ++ extension).length - extension.length)
      = front ++ (stem ++ ['.']) := by
    rw [List.length_append, Nat.add_sub_cancel, List.take_left]
  have whole : front ++ (stem ++ '.' :: extension)
      = (front ++ (stem ++ ['.'])) ++ extension := by simp
  have text : (p.child (String.ofList (stem ++ ['.']))).text
      = String.ofList (front ++ (stem ++ ['.'])) := by
    rw [← String.toList_inj, ends, String.toList_ofList, String.toList_ofList]
  unfold cutExtension
  rw [extension?_child entry, String.toList_ofList,
    splitName_append named dotless]
  dsimp only
  rw [ends, String.toList_ofList, whole, cut, ← text]

/-- A stem's dot and what is set behind the stem. The stem that is a dot
itself is then no file name any more, and nothing is set. -/
theorem setExtension_child {stem extension : Segment} (named : stem ≠ [])
    (plain : '/' ∉ stem) (whole : '/' ∉ extension) :
    (p.child (String.ofList (stem ++ ['.']))).setExtension extension
      = p.child (String.ofList (renamed stem extension)) := by
  obtain ⟨before, ends⟩ := p.backwards_child
  have dotted : '/' ∉ stem ++ ['.'] := by simp [plain]
  have telling : isIdle (stem ++ ['.']) = false := by
    cases stem with
    | nil => exact absurd rfl named
    | cons c cs => simp [isIdle, here]
  obtain ⟨-, backwards⟩ :=
    ends (String.ofList (stem ++ ['.'])) (by rwa [String.toList_ofList])
  rw [String.toList_ofList] at backwards
  unfold setExtension
  rw [backwards telling]
  dsimp only
  by_cases single : stem = here
  · subst single
    rw [if_pos (by rfl), renamed, if_pos rfl]
    rfl
  · have not_up : stem ++ ['.'] ≠ up := fun h =>
      single (List.append_cancel_right (h : stem ++ ['.'] = here ++ ['.']))
    have new_plain := renamed_plain plain whole
    rw [renamed, if_neg single] at new_plain
    obtain ⟨segments, -⟩ := ends (String.ofList (stem ++ suffix extension))
      (by rwa [String.toList_ofList])
    rw [String.toList_ofList] at segments
    have text : join (before ++ [stem ++ suffix extension])
        = (p.child (String.ofList (stem ++ suffix extension))).text.toList := by
      rw [← segments]
      exact join_split _
    rw [if_neg not_up, renamed, if_neg single, splitName_append named
      List.not_mem_nil, List.reverse_reverse]
    show (⟨String.ofList (join (before ++ [stem ++ suffix extension]))⟩ : Path)
      = _
    rw [text, String.ofList_toList]

/-- What gets another extension is found in the same directory, and under
the same stem unless that is a dot. -/
theorem withExtension?_child {stem old : Segment} {extension : String}
    (named : stem ≠ []) (dotless : '.' ∉ old)
    (entry : IsEntry (String.ofList (stem ++ '.' :: old)))
    (whole : '/' ∉ extension.toList) :
    (p.child (String.ofList (stem ++ '.' :: old))).withExtension? extension
      = some (p.child (String.ofList (renamed stem extension.toList))) := by
  have plain : '/' ∉ stem := fun inside => entry.plain <| by
    rw [String.toList_ofList]
    exact List.mem_append_left _ inside
  have open_name : ¬ extension.toList.contains '/' = true := fun h =>
    whole (List.contains_iff_mem.mp h)
  rw [withExtension?, if_neg open_name, cutExtension_child named dotless entry,
    setExtension_child named plain whole]

-- ========================================================= distinct names

theorem suffix_eq_nil {extension : Segment} :
    suffix extension = [] ↔ extension = [] := by
  cases extension <;> simp [suffix]

/-- Behind a stem that is no dot, only an empty extension leaves two
dots. -/
theorem append_suffix_eq_up {stem extension : Segment} (named : stem ≠ [])
    (not_single : stem ≠ here) :
    stem ++ suffix extension = up ↔ stem = up ∧ extension = [] := by
  constructor
  · intro two
    -- a stem that is not all of it would be the first dot
    cases stem with
    | nil => exact absurd rfl named
    | cons c cs =>
        cases cs with
        | nil =>
            obtain rfl : c = '.' := by
              have heads := congrArg List.head? two
              exact Option.some.inj heads
            exact absurd rfl not_single
        | cons d ds =>
            obtain ⟨rfl, rfl, rest⟩ :
                c = '.' ∧ d = '.' ∧ ds ++ suffix extension = [] := by
              simpa [up] using two
            obtain ⟨rfl, none_set⟩ := List.append_eq_nil_iff.mp rest
            exact ⟨rfl, suffix_eq_nil.mp none_set⟩
  · rintro ⟨rfl, rfl⟩
    rfl

/-- Two stems get the same name only if the one is a dot and the other two
dots, and the new extension is empty. -/
theorem renamed_eq_iff {stem other extension : Segment} (named : stem ≠ [])
    (other_named : other ≠ []) :
    renamed stem extension = renamed other extension
      ↔ stem = other ∨ extension = []
          ∧ (stem = here ∧ other = up ∨ stem = up ∧ other = here) := by
  have distinct : here ≠ up := by decide
  unfold renamed
  by_cases h : stem = here <;> by_cases k : other = here
  · simp [h, k]
  · rw [if_pos h, if_neg k, eq_comm, append_suffix_eq_up other_named k]
    subst h
    simp [Ne.symm k, distinct, and_comm]
  · rw [if_neg h, if_pos k, append_suffix_eq_up named h]
    subst k
    simp [h, and_comm]
  · rw [if_neg h, if_neg k, List.append_cancel_right_eq]
    simp [h, k]

/-- A new name tells something. -/
theorem renamed_telling {stem extension : Segment} (named : stem ≠ []) :
    isIdle (renamed stem extension) = false := by
  unfold renamed
  by_cases single : stem = here
  · rw [if_pos single]
    rfl
  · rw [if_neg single]
    cases stem with
    | nil => exact absurd rfl named
    | cons c cs =>
        have longer : c :: (cs ++ suffix extension) ≠ here := fun h => by
          obtain ⟨rfl, rest⟩ : c = '.' ∧ cs ++ suffix extension = [] := by
            simpa [here] using h
          exact single (by rw [(List.append_eq_nil_iff.mp rest).1]; rfl)
        simp [isIdle, longer]

/-- Segments that tell the same are the same. -/
theorem Component.ofSegment?_inj {a b : Segment} (telling_a : isIdle a = false)
    (telling_b : isIdle b = false) :
    ofSegment? a = ofSegment? b ↔ a = b := by
  refine ⟨fun same => ?_, fun h => h ▸ rfl⟩
  rw [ofSegment?, ofSegment?, if_neg (Bool.eq_false_iff.mp telling_a),
    if_neg (Bool.eq_false_iff.mp telling_b)] at same
  by_cases ha : a = up <;> by_cases hb : b = up
  · exact ha.trans hb.symm
  · simp [ha, hb] at same
  · simp [ha, hb] at same
  · rw [if_neg ha, if_neg hb] at same
    have texts : String.ofList a = String.ofList b := by simpa using same
    rw [← String.toList_ofList (l := a), texts, String.toList_ofList]

/-- What is found under two names in a directory is the same only if the
names are. -/
theorem same_child {a b : Segment} (plain_a : '/' ∉ a) (plain_b : '/' ∉ b)
    (telling_a : isIdle a = false) (telling_b : isIdle b = false) :
    (p.child (String.ofList a)).same (p.child (String.ofList b)) = true
      ↔ a = b := by
  obtain ⟨base, tells⟩ := p.components_child
  have told : ∀ {s : Segment}, '/' ∉ s → isIdle s = false →
      ∃ c, Component.ofSegment? s = some c
        ∧ (p.child (String.ofList s)).components = base ++ [c] := by
    intro s plain telling
    obtain ⟨c, is_c⟩ : ∃ c, Component.ofSegment? s = some c := by
      rw [Component.ofSegment?, if_neg (Bool.eq_false_iff.mp telling)]
      split <;> exact ⟨_, rfl⟩
    exact ⟨c, is_c, tells _ c (by rwa [String.toList_ofList])
      (by rwa [String.toList_ofList])⟩
  obtain ⟨c, is_c, ends_c⟩ := told plain_a telling_a
  obtain ⟨d, is_d, ends_d⟩ := told plain_b telling_b
  rw [same, ends_c, ends_d, beq_iff_eq, List.append_cancel_left_eq,
    List.singleton_inj, ← Component.ofSegment?_inj telling_a telling_b,
    is_c, is_d, Option.some_inj]

/-- When two stems lead to the same place. -/
theorem same_renamed_iff {stem other extension : Segment} (named : stem ≠ [])
    (other_named : other ≠ []) (plain : '/' ∉ stem) (other_plain : '/' ∉ other)
    (whole : '/' ∉ extension) :
    (p.child (String.ofList (renamed stem extension))).same
        (p.child (String.ofList (renamed other extension))) = true
      ↔ stem = other ∨ extension = []
          ∧ (stem = here ∧ other = up ∨ stem = up ∧ other = here) :=
  (same_child (renamed_plain plain whole) (renamed_plain other_plain whole)
    (renamed_telling named) (renamed_telling other_named)).trans
      (renamed_eq_iff named other_named)

end PluginRpc.Path
