/-
The paths of a directory's entries.

The path of an entry is that of the directory, a slash unless one is
there already, and the entry's name. So it says what the directory says
and then the name, and the entries of one directory are ordered as their
names are, however the directory's own path is written.
-/
import PluginRpc.Path

namespace PluginRpc.Path

-- ======================================================== cuts at slashes

theorem split_of_plain {s : List Char} (plain : '/' ∉ s) : split s = [s] := by
  induction s with
  | nil => rfl
  | cons c rest ih =>
      have first : c ≠ '/' := fun h => plain (h ▸ List.mem_cons_self ..)
      have others : '/' ∉ rest := fun h => plain (List.mem_cons_of_mem _ h)
      rw [split, if_neg first, ih others]

theorem split_append_slash (t s : List Char) :
    split (t ++ '/' :: s) = split t ++ split s := by
  induction t with
  | nil => rfl
  | cons c rest ih =>
      rw [List.cons_append, split, ih]
      by_cases slash : c = '/'
      · rw [if_pos slash, split, if_pos slash, List.cons_append]
      · rw [if_neg slash, split, if_neg slash]
        cases cut : split rest with
        | nil => exact absurd cut (split_ne_nil rest)
        | cons segment others => rfl

-- ================================================================ entries

/-- A name that an entry of a directory may have. -/
structure IsEntry (name : String) : Prop where
  plain : '/' ∉ name.toList
  telling : isIdle name.toList = false
  below : name.toList ≠ up

variable {p : Path}

theorem IsEntry.ofSegment?_eq {name : String} (entry : IsEntry name) :
    Component.ofSegment? name.toList = some (.name name) := by
  have telling : ¬ isIdle name.toList = true :=
    Bool.eq_false_iff.mp entry.telling
  rw [Component.ofSegment?, if_neg telling, if_neg entry.below,
    String.ofList_toList]

/-- The last segment of an entry's path is its name, and those before it
are the same for all entries. -/
theorem segments_child (p : Path) :
    ∃ before, ∀ name, '/' ∉ name.toList →
      (p.child name).segments = before ++ [name.toList] := by
  by_cases bare : p.text.isEmpty
  · refine ⟨[], fun name plain => ?_⟩
    rw [child, if_pos bare]
    exact split_of_plain plain
  · by_cases closed : p.text.toList.getLast? = some '/'
    · -- the slash at the end is the one before the name
      obtain ⟨t, ends⟩ := List.getLast?_eq_some_iff.mp closed
      refine ⟨split t, fun name plain => ?_⟩
      rw [child, if_neg bare, if_pos closed]
      show split (p.text ++ name).toList = _
      rw [String.toList_append, ends, List.append_assoc]
      show split (t ++ '/' :: name.toList) = _
      rw [split_append_slash, split_of_plain plain]
    · refine ⟨p.segments, fun name plain => ?_⟩
      rw [child, if_neg bare, if_neg closed]
      show split (p.text ++ "/" ++ name).toList = _
      rw [String.toList_append, String.toList_append, List.append_assoc]
      show split (p.text.toList ++ '/' :: name.toList) = _
      rw [split_append_slash, split_of_plain plain]
      rfl

/-- What the first segment of a path tells, where others follow. -/
def lead (first : Segment) : List Component :=
  if first = [] then [.root]
  else if first = here then [.current]
  else (Component.ofSegment? first).toList

theorem components_of_segments {first : Segment} {rest : List Segment}
    (cut : p.segments = first :: rest) (more : rest ≠ []) :
    p.components = lead first ++ rest.filterMap Component.ofSegment? := by
  obtain ⟨second, others, rfl⟩ := List.exists_cons_of_ne_nil more
  unfold components lead
  rw [cut]
  by_cases root : first = []
  · subst root; rfl
  · by_cases at_here : first = here
    · subst at_here; rfl
    · simp only [if_neg root, if_neg at_here]

/-- A path of one segment that tells something. -/
theorem components_of_segment {segment : Segment} {c : Component}
    (tells : Component.ofSegment? segment = some c)
    (alone : p.segments = [segment]) : p.components = [c] := by
  unfold components
  rw [alone]
  cases segment with
  | nil => cases tells
  | cons d ds =>
      have not_here : d :: ds ≠ here := fun h => by
        rw [h] at tells; cases tells
      show (if d :: ds = [] then _ else _) = _
      rw [if_neg (List.cons_ne_nil d ds), if_neg not_here, tells]
      rfl

/-- The path of what is found under a name says what the directory says,
and then what the name does. -/
theorem components_child (p : Path) :
    ∃ base, ∀ (name : String) (c : Component), '/' ∉ name.toList →
      Component.ofSegment? name.toList = some c →
        (p.child name).components = base ++ [c] := by
  obtain ⟨before, cut⟩ := p.segments_child
  cases before with
  | nil =>
      exact ⟨[], fun name c plain tells =>
        components_of_segment tells (cut name plain)⟩
  | cons first rest =>
      refine ⟨lead first ++ rest.filterMap Component.ofSegment?,
        fun name c plain tells => ?_⟩
      have cut : (p.child name).segments = first :: (rest ++ [name.toList]) :=
        cut name plain
      rw [components_of_segments cut (List.concat_ne_nil _ _),
        List.filterMap_append, List.append_assoc]
      simp only [List.filterMap_cons, List.filterMap_nil, tells]

-- ============================================================== the order

theorem Component.order_self (c : Component) : c.order c = .eq := by
  cases c <;> simp [Component.order]

theorem orderComponents_append (base as bs : List Component) :
    orderComponents (base ++ as) (base ++ bs) = orderComponents as bs := by
  induction base with
  | nil => rfl
  | cons c rest ih =>
      rw [List.cons_append, List.cons_append, orderComponents,
        Component.order_self]
      exact ih

/-- Entries of one directory are ordered by their names. -/
theorem order_child (p : Path) {a b : String} (ha : IsEntry a)
    (hb : IsEntry b) : (p.child a).order (p.child b) = compare a b := by
  obtain ⟨base, tells⟩ := p.components_child
  rw [order, tells a _ ha.plain ha.ofSegment?_eq,
    tells b _ hb.plain hb.ofSegment?_eq, orderComponents_append]
  show (compare a b).then .eq = compare a b
  cases compare a b <;> rfl

end PluginRpc.Path
