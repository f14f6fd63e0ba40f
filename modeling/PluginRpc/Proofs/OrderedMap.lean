/-
Looking things up in small maps.

An insertion is seen by a look-up of its own key and by no other. That
takes nothing of the order but that it tells any two keys apart: where
the entries stand in the list decides how a map is shown, and never what
it answers. For the list itself to be the same whichever of two keys came
first, the order has to be one.
-/
import PluginRpc.OrderedMap

namespace PluginRpc.OrderedMap

variable {κ α : Type} {order : κ → κ → Ordering}

/-- Looking for an entry in a list that begins with one. -/
theorem get?_cons (key k : κ) (v : α) (rest : List (κ × α)) :
    get? order ⟨(k, v) :: rest⟩ key
      = if order key k = .eq then some v else get? order ⟨rest⟩ key := by
  unfold get?
  rw [List.find?_cons]
  by_cases h : order key k = .eq
  · rw [if_pos h, show (order key k == .eq) = true from beq_iff_eq.mpr h]
    rfl
  · rw [if_neg h,
      show (order key k == .eq) = false from beq_eq_false_iff_ne.mpr h]

/-- What a map answers after an insertion. -/
theorem get?_insert [DecidableEq κ]
    (apart : ∀ a b, order a b = .eq ↔ a = b)
    (m : OrderedMap κ α) (key : κ) (value : α) (key' : κ) :
    (m.insert order key value).get? order key'
      = if key' = key then some value else m.get? order key' := by
  obtain ⟨entries⟩ := m
  unfold insert
  induction entries with
  | nil =>
      rw [insertEntry, get?_cons]
      simp only [apart]
  | cons e rest ih =>
      obtain ⟨k, v⟩ := e
      rw [insertEntry]
      split
      · rw [get?_cons]
        simp only [apart]
      · next h =>
        -- the entry that gives way had the same key
        have same : key = k := (apart key k).mp h
        subst same
        rw [get?_cons, get?_cons]
        simp only [apart]
        by_cases h' : key' = key
        · rw [if_pos h', if_pos h']
        · rw [if_neg h', if_neg h', if_neg h']
      · next h =>
        have other : ¬ key = k := fun same => by
          rw [(apart key k).mpr same] at h
          cases h
        rw [get?_cons, get?_cons, ih]
        simp only [apart]
        by_cases h' : key' = key
        · subst h'
          rw [if_neg other, if_pos rfl, if_pos rfl]
        · rw [if_neg h', if_neg h']

/-- A key that is not there gets an entry of its own. -/
theorem size_insert_of_absent {m : OrderedMap κ α} {key : κ}
    (absent : m.get? order key = none) (value : α) :
    (m.insert order key value).size = m.size + 1 := by
  obtain ⟨entries⟩ := m
  unfold insert size
  induction entries with
  | nil => rfl
  | cons e rest ih =>
      obtain ⟨k, v⟩ := e
      rw [get?_cons] at absent
      rw [insertEntry]
      split at absent
      · cases absent
      · next other =>
        split
        · rfl
        · next h => exact absurd h other
        · exact congrArg (· + 1) (ih absent)

/-- Entries of two keys stand where their keys say, whichever was inserted
first. -/
theorem insertEntry_comm [Std.TransCmp order]
    (apart : ∀ a b, order a b = .eq ↔ a = b) {k k' : κ}
    (before : order k k' = .lt) (v v' : α) (entries : List (κ × α)) :
    insertEntry order k v (insertEntry order k' v' entries)
      = insertEntry order k' v' (insertEntry order k v entries) := by
  have behind : order k' k = .gt := Std.OrientedCmp.gt_of_lt before
  induction entries with
  | nil => simp only [insertEntry, before, behind]
  | cons e rest ih =>
      obtain ⟨j, w⟩ := e
      cases first : order k j with
      | lt =>
          cases second : order k' j <;>
            simp only [insertEntry, before, behind, first, second]
      | eq =>
          obtain rfl := (apart k j).mp first
          simp only [insertEntry, first, behind]
      | gt =>
          have second : order k' j = .gt := Std.TransCmp.gt_trans behind first
          simp only [insertEntry, first, second, ih]

theorem insert_comm [Std.TransCmp order]
    (apart : ∀ a b, order a b = .eq ↔ a = b) (m : OrderedMap κ α) {k k' : κ}
    (other : k ≠ k') (v v' : α) :
    (m.insert order k v).insert order k' v'
      = (m.insert order k' v').insert order k v := by
  refine congrArg OrderedMap.mk ?_
  cases h : order k k' with
  | lt => exact (insertEntry_comm apart h v v' m.entries).symm
  | eq => exact absurd ((apart k k').mp h) other
  | gt =>
      have h' : order k' k = .lt := Std.OrientedCmp.lt_of_gt h
      exact insertEntry_comm apart h' v' v m.entries

end PluginRpc.OrderedMap
