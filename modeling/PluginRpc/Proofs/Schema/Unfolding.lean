/-
The tree that a graph of records unfolds to.

Records refer to one another by number, in any pattern. To write a record
out is to follow every reference, and to stop where a record is met again
inside itself. `Unfolds` is this as rules, for a record and the records
around it: a record that is around itself is a marker, and any other is
expanded, with what its columns refer to one level further in. The rules
know nothing of names, nor of what has been expanded elsewhere.

# How deep it goes

No record is expanded inside itself, so the expanded records around a
place are all different, and there are no more of them than records that
can be reached at all. A marker at some place says that the record there
has led back to itself; and where there is none, following references
comes to an end everywhere, which on a cycle it does not.
-/
import Mathlib.Data.Finset.Card
import Mathlib.Logic.Relation
import PluginRpc.Schema.Export

namespace PluginRpc

-- ================================================================= trees

/-- A column without what it refers to. -/
structure ColumnHead where
  index : UInt32
  name : String
  type : ColumnType
  oneof : Option OneofGroup
deriving DecidableEq, Repr

def ColumnDecl.head (c : ColumnDecl) : ColumnHead :=
  ⟨c.index, c.name, c.type, c.oneof⟩

mutual

/-- A record, written out as far as it goes. -/
inductive RecordTree where
  /-- A record inside itself, by its name alone. -/
  | marker (name : String)
  | expanded (name : String) (columns : List ColumnTree)

/-- A column with what it refers to. -/
inductive ColumnTree where
  | plain (head : ColumnHead)
  | composite (head : ColumnHead) (nested : RecordTree)

end

/-- A declared column, given the trees of the records. -/
def ColumnDecl.tree (sub : RecordId → RecordTree) (c : ColumnDecl) :
    ColumnTree :=
  match c.nested with
  | none => .plain c.head
  | some n => .composite c.head (sub n)

theorem ColumnDecl.tree_plain {c : ColumnDecl} (absent : c.nested = none)
    (sub : RecordId → RecordTree) : c.tree sub = .plain c.head := by
  unfold tree
  rw [absent]

theorem ColumnDecl.tree_composite {c : ColumnDecl} {n : RecordId}
    (refers : c.nested = some n) (sub : RecordId → RecordTree) :
    c.tree sub = .composite c.head (sub n) := by
  unfold tree
  rw [refers]

mutual

/-- How many expanded records there are inside each other, at most. -/
def RecordTree.nesting : RecordTree → Nat
  | .marker _ => 0
  | .expanded _ columns => nestingAmong columns + 1

def ColumnTree.nesting : ColumnTree → Nat
  | .plain _ => 0
  | .composite _ nested => nested.nesting

def nestingAmong : List ColumnTree → Nat
  | [] => 0
  | c :: rest => max c.nesting (nestingAmong rest)

end

theorem nestingAmong_le {columns : List ColumnTree} {bound : Nat}
    (each : ∀ c ∈ columns, c.nesting ≤ bound) :
    nestingAmong columns ≤ bound := by
  induction columns with
  | nil => exact Nat.zero_le _
  | cons c rest ih =>
      have first := each c List.mem_cons_self
      have others := ih fun d hd => each d (List.mem_cons_of_mem c hd)
      exact Nat.max_le.mpr ⟨first, others⟩

/-- There is a marker somewhere. -/
inductive RecordTree.Marked : RecordTree → Prop
  | here (name : String) : Marked (.marker name)
  | inside {name : String} {columns : List ColumnTree} {head : ColumnHead}
      {nested : RecordTree} (column : .composite head nested ∈ columns)
      (marked : Marked nested) : Marked (.expanded name columns)

namespace RecordGraph

variable (g : RecordGraph)

-- ============================================================= references

/-- A column of the one record refers to the other. -/
def Refers (i j : RecordId) : Prop :=
  ∃ c ∈ (g.record i).columns, c.nested = some j

/-- Following references leads from the one to the other, or they are the
same. -/
abbrev Reaches : RecordId → RecordId → Prop := Relation.ReflTransGen g.Refers

/-- Following references leads back. -/
def Cyclic (i : RecordId) : Prop := Relation.TransGen g.Refers i i

variable {g}

/-- Only declared records have columns. -/
theorem declared_of_column {i : RecordId} {c : ColumnDecl}
    (column : c ∈ (g.record i).columns) : i < g.records.length := by
  by_contra undeclared
  have absent : g.records[i]? = none :=
    List.getElem?_eq_none (Nat.le_of_not_lt undeclared)
  unfold record at column
  rw [absent] at column
  cases column

-- ============================================================= unfolding

variable (g) in
/-- The tree of a record inside the records of a path. -/
inductive Unfolds : List RecordId → RecordId → RecordTree → Prop
  | recursive {path : List RecordId} {id : RecordId} (around : id ∈ path) :
      Unfolds path id (.marker (g.record id).name)
  | expanded {path : List RecordId} {id : RecordId} (fresh : id ∉ path)
      (sub : RecordId → RecordTree)
      (nested : ∀ c ∈ (g.record id).columns, ∀ n, c.nested = some n →
        Unfolds (id :: path) n (sub n)) :
      Unfolds path id
        (.expanded (g.record id).name ((g.record id).columns.map (·.tree sub)))

/-- Every record unfolds, inside any others. -/
theorem exists_unfolds (path : List RecordId) (id : RecordId) :
    ∃ t, g.Unfolds path id t := by
  induction left : g.unseen path using Nat.strongRecOn generalizing path id with
  | ind left ih =>
    by_cases around : id ∈ path
    · exact ⟨_, .recursive around⟩
    · have below : ∀ n, ∃ t, id < g.records.length →
          g.Unfolds (id :: path) n t := by
        intro n
        by_cases declared : id < g.records.length
        · have fewer := g.unseen_cons_lt (by simpa using around) declared
          obtain ⟨t, ht⟩ := ih _ (left ▸ fewer) (id :: path) n rfl
          exact ⟨t, fun _ => ht⟩
        · exact ⟨.marker "", fun h => absurd h declared⟩
      choose sub unfolds using below
      refine ⟨_, .expanded around sub fun c hc n _ => ?_⟩
      exact unfolds n (declared_of_column hc)

/-- A record unfolds in one way. -/
theorem Unfolds.unique {path : List RecordId} {id : RecordId}
    {t t' : RecordTree} (h : g.Unfolds path id t) (h' : g.Unfolds path id t') :
    t = t' := by
  induction h generalizing t' with
  | recursive around =>
      cases h' with
      | recursive _ => rfl
      | expanded fresh _ _ => exact absurd around fresh
  | @expanded path id fresh sub nested ih =>
      cases h' with
      | recursive around => exact absurd around fresh
      | expanded _ sub' nested' =>
          have same : ∀ c ∈ (g.record id).columns, c.tree sub = c.tree sub' := by
            intro c hc
            cases refers : c.nested with
            | none => rw [c.tree_plain refers, c.tree_plain refers]
            | some n =>
                have agree := ih c hc n refers (nested' c hc n refers)
                rw [c.tree_composite refers, c.tree_composite refers, agree]
          rw [List.map_congr_left same]

-- =============================================================== nesting

/-- Records that are expanded inside each other are reached and are not
around. -/
theorem Unfolds.nesting_le {path : List RecordId} {id : RecordId}
    {t : RecordTree} (h : g.Unfolds path id t) {s : Finset RecordId}
    (all : ∀ j, g.Reaches id j → j ∈ s) :
    t.nesting ≤ (s \ path.toFinset).card := by
  induction h with
  | recursive around => exact Nat.zero_le _
  | @expanded path id fresh sub nested ih =>
      have inside : id ∈ s \ path.toFinset := by
        simpa using ⟨all id .refl, fresh⟩
      -- what is left for the columns is everything but the record itself
      have fewer : (s \ (id :: path).toFinset).card + 1
          = (s \ path.toFinset).card := by
        rw [List.toFinset_cons, Finset.sdiff_insert]
        exact Finset.card_erase_add_one inside
      have each : ∀ c ∈ (g.record id).columns.map (·.tree sub),
          c.nesting ≤ (s \ (id :: path).toFinset).card := by
        intro c hc
        obtain ⟨d, hd, rfl⟩ := List.mem_map.mp hc
        cases refers : d.nested with
        | none =>
            rw [d.tree_plain refers]
            exact Nat.zero_le _
        | some n =>
            rw [d.tree_composite refers]
            have first : g.Refers id n := ⟨d, hd, refers⟩
            exact ih d hd n refers fun j hj => all j (.head first hj)
      rw [← fewer]
      exact Nat.succ_le_succ (nestingAmong_le each)

-- =============================================================== markers

/-- Where a tree has a marker there is a cycle. -/
theorem Unfolds.cyclic_of_marked {path : List RecordId} {id : RecordId}
    {t : RecordTree} (h : g.Unfolds path id t)
    (around : ∀ p ∈ path, Relation.TransGen g.Refers p id)
    (marked : t.Marked) : ∃ j, g.Reaches id j ∧ g.Cyclic j := by
  induction h with
  | @recursive path id on_path => exact ⟨id, .refl, around id on_path⟩
  | @expanded path id fresh sub nested ih =>
      cases marked with
      | @inside _ _ head t column marked =>
        obtain ⟨c, hc, tree⟩ := List.mem_map.mp column
        cases refers : c.nested with
        | none =>
            rw [c.tree_plain refers] at tree
            cases tree
        | some n =>
            rw [c.tree_composite refers] at tree
            cases tree
            have first : g.Refers id n := ⟨c, hc, refers⟩
            -- the record itself is around its columns
            have around' : ∀ p ∈ id :: path, Relation.TransGen g.Refers p n := by
              intro p hp
              rcases List.mem_cons.mp hp with rfl | hp
              · exact .single first
              · exact (around p hp).tail first
            obtain ⟨j, reaches, cycle⟩ := ih c hc n refers around' marked
            exact ⟨j, .head first reaches, cycle⟩

/-- Where a tree has no marker references come to an end. -/
theorem Unfolds.acc_of_unmarked {path : List RecordId} {id : RecordId}
    {t : RecordTree} (h : g.Unfolds path id t) (unmarked : ¬ t.Marked) :
    Acc (fun j i => g.Refers i j) id := by
  induction h with
  | recursive around => exact absurd (.here _) unmarked
  | @expanded path id fresh sub nested ih =>
      refine ⟨id, fun n hn => ?_⟩
      obtain ⟨c, hc, refers⟩ := hn
      refine ih c hc n refers fun marked => unmarked ?_
      have column : .composite c.head (sub n)
          ∈ (g.record id).columns.map (·.tree sub) :=
        List.mem_map.mpr ⟨c, hc, c.tree_composite refers sub⟩
      exact .inside column marked

/-- Where references come to an end from one record, they do so from all
that it leads to. -/
theorem acc_of_reaches {i j : RecordId}
    (ends : Acc (fun j i => g.Refers i j) i) (reaches : g.Reaches i j) :
    Acc (fun j i => g.Refers i j) j := by
  induction reaches with
  | refl => exact ends
  | tail _ step ih => exact ih.inv step

/-- Where references come to an end they do not lead back. -/
theorem not_cyclic_of_acc {i : RecordId}
    (ends : Acc (fun j i => g.Refers i j) i) : ¬ g.Cyclic i := by
  induction ends with
  | intro i _ ih =>
      intro cycle
      -- a cycle through `i` is one through the record it goes on to
      obtain ⟨j, first, back⟩ := Relation.TransGen.head'_iff.mp cycle
      exact ih j first (Relation.TransGen.tail' back first)

/-- Markers are there for cycles, and only for them. -/
theorem Unfolds.marked_iff {id : RecordId} {t : RecordTree}
    (h : g.Unfolds [] id t) :
    t.Marked ↔ ∃ j, g.Reaches id j ∧ g.Cyclic j := by
  constructor
  · exact h.cyclic_of_marked nofun
  · rintro ⟨j, reaches, cycle⟩
    by_contra unmarked
    have ends := acc_of_reaches (h.acc_of_unmarked unmarked) reaches
    exact not_cyclic_of_acc ends cycle

end RecordGraph

end PluginRpc
