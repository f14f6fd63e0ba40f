/-
How a message lies in slots.

A slot holds one value, so a column that refers to a record has no slot of
its own: in its place lie the slots of that record, and of the records
within it, depth first. Every other column has one slot, the members of a
group among them. `LaidOut` is this rule, column by column.

The rule says nothing about values, so how many slots a message takes is a
matter of the columns alone, the same for every message; where references
come to an end there are messages, and a message is empty only where no
column at any depth has a slot.
-/
import PluginRpc.Proofs.Schema.Unfolding
import PluginRpc.Scalar

namespace PluginRpc.RecordGraph

variable (g : RecordGraph)

/-- A message of some columns, as it lies in slots. -/
inductive LaidOut : List ColumnDecl → List Slot → Prop
  | nil : LaidOut [] []
  | plain {c : ColumnDecl} {columns : List ColumnDecl} {rest : List Slot}
      (absent : c.nested = none) (slot : Slot) (others : LaidOut columns rest) :
      LaidOut (c :: columns) (slot :: rest)
  | nested {c : ColumnDecl} {columns : List ColumnDecl} {id : RecordId}
      {inner rest : List Slot} (refers : c.nested = some id)
      (inside : LaidOut (g.record id).columns inner)
      (others : LaidOut columns rest) :
      LaidOut (c :: columns) (inner ++ rest)

/-- Some column of a record, or of a record that it leads to, has a slot
of its own. -/
def HasLeaf (id : RecordId) : Prop :=
  ∃ j, g.Reaches id j ∧ ∃ c ∈ (g.record j).columns, c.nested = none

variable {g}

-- ============================================================== the length

/-- All messages of the same columns take as many slots. -/
theorem LaidOut.length_eq {columns : List ColumnDecl} {m m' : List Slot}
    (h : g.LaidOut columns m) (h' : g.LaidOut columns m') :
    m.length = m'.length := by
  induction h generalizing m' with
  | nil =>
      cases h'
      rfl
  | plain absent slot others ih =>
      cases h' with
      | plain absent' slot' others' => exact congrArg (· + 1) (ih others')
      | nested refers' =>
          rw [absent] at refers'
          cases refers'
  | nested refers inside others ih_inside ih_others =>
      cases h' with
      | plain absent' =>
          rw [refers] at absent'
          cases absent'
      | nested refers' inside' others' =>
          obtain rfl := Option.some.inj (refers.symm.trans refers')
          rw [List.length_append, List.length_append, ih_inside inside',
            ih_others others']

/-- Columns that refer to nothing have one slot each. -/
theorem LaidOut.length_of_flat {columns : List ColumnDecl} {m : List Slot}
    (h : g.LaidOut columns m) (flat : ∀ c ∈ columns, c.nested = none) :
    m.length = columns.length := by
  induction h with
  | nil => rfl
  | plain absent slot others ih =>
      exact congrArg (· + 1) (ih (List.forall_mem_cons.mp flat).2)
  | nested refers inside others ih_inside ih_others =>
      rw [(List.forall_mem_cons.mp flat).1] at refers
      cases refers

/-- A column with a slot of its own is seen in the message. -/
theorem LaidOut.length_pos_of_mem {columns : List ColumnDecl} {m : List Slot}
    (h : g.LaidOut columns m) {c : ColumnDecl} (column : c ∈ columns)
    (absent : c.nested = none) : 0 < m.length := by
  induction h with
  | nil => cases column
  | plain absent' slot others ih => exact Nat.succ_pos _
  | nested refers inside others ih_inside ih_others =>
      rw [List.length_append]
      rcases List.mem_cons.mp column with rfl | later
      · rw [absent] at refers
        cases refers
      · exact Nat.lt_of_lt_of_le (ih_others later) (Nat.le_add_left ..)

/-- So is what a column refers to. -/
theorem LaidOut.nested_of_mem {columns : List ColumnDecl} {m : List Slot}
    (h : g.LaidOut columns m) {c : ColumnDecl} (column : c ∈ columns)
    {id : RecordId} (refers : c.nested = some id) :
    ∃ inner, g.LaidOut (g.record id).columns inner ∧ inner.length ≤ m.length := by
  induction h with
  | nil => cases column
  | plain absent slot others ih =>
      rcases List.mem_cons.mp column with rfl | later
      · rw [refers] at absent
        cases absent
      · obtain ⟨inner, laid, fits⟩ := ih later
        exact ⟨inner, laid, Nat.le_succ_of_le fits⟩
  | nested refers' inside others ih_inside ih_others =>
      rcases List.mem_cons.mp column with rfl | later
      · obtain rfl := Option.some.inj (refers.symm.trans refers')
        exact ⟨_, inside, List.length_append ▸ Nat.le_add_right ..⟩
      · obtain ⟨inner, laid, fits⟩ := ih_others later
        exact ⟨inner, laid, List.length_append ▸ Nat.le_add_left_of_le fits⟩

/-- A message of a record with a leaf is not empty. -/
theorem LaidOut.length_pos {id : RecordId} (leaf : g.HasLeaf id) {m : List Slot}
    (h : g.LaidOut (g.record id).columns m) : 0 < m.length := by
  obtain ⟨j, reaches, c, column, absent⟩ := leaf
  induction reaches using Relation.ReflTransGen.head_induction_on generalizing m with
  | refl => exact h.length_pos_of_mem column absent
  | head step _ ih =>
      obtain ⟨d, refers_in, refers⟩ := step
      obtain ⟨inner, laid, fits⟩ := h.nested_of_mem refers_in refers
      exact Nat.lt_of_lt_of_le (ih laid) fits

-- ============================================================= existence

/-- Columns have a message if all that they refer to have one. -/
theorem exists_laidOut_of_nested {columns : List ColumnDecl}
    (each : ∀ c ∈ columns, ∀ id, c.nested = some id →
      ∃ inner, g.LaidOut (g.record id).columns inner) :
    ∃ m, g.LaidOut columns m := by
  induction columns with
  | nil => exact ⟨[], .nil⟩
  | cons c columns ih =>
      obtain ⟨first, others⟩ := List.forall_mem_cons.mp each
      obtain ⟨rest, laid⟩ := ih others
      cases refers : c.nested with
      | none => exact ⟨none :: rest, .plain refers none laid⟩
      | some id =>
          obtain ⟨inner, inside⟩ := first id refers
          exact ⟨inner ++ rest, .nested refers inside laid⟩

/-- Where references come to an end there are messages. -/
theorem exists_laidOut_of_acc {id : RecordId}
    (ends : Acc (fun j i => g.Refers i j) id) :
    ∃ m, g.LaidOut (g.record id).columns m := by
  induction ends with
  | intro id _ ih =>
      exact exists_laidOut_of_nested fun c column j refers =>
        ih j ⟨c, column, refers⟩

/-- They do so where following references never leads back. -/
theorem acc_of_acyclic {id : RecordId}
    (acyclic : ∀ j, g.Reaches id j → ¬ g.Cyclic j) :
    Acc (fun j i => g.Refers i j) id := by
  obtain ⟨t, unfolds⟩ := g.exists_unfolds [] id
  refine unfolds.acc_of_unmarked fun marked => ?_
  obtain ⟨j, reaches, cycle⟩ := unfolds.marked_iff.mp marked
  exact acyclic j reaches cycle

end PluginRpc.RecordGraph
