/-
What is written of a graph of records.

The written form of a record is that of the tree it unfolds to: so there
is one for each record, wherever in a package it is referred to, and all
that holds of trees holds of what is written. A column object is looked
for in the written form itself, at any depth, and is then found to be the
one of a declared column, with all its members whatever is absent.
-/
import PluginRpc.Proofs.Schema.Unfolding

namespace PluginRpc

-- ======================================================= trees as values

/-- The object of a column, given what is written of the record that it
refers to. -/
def ColumnHead.json (head : ColumnHead) (nested : Json) : Json :=
  .object
    [("index", .ofNat head.index.toNat),
     ("column_name", .text head.name),
     ("type_kind", .text head.type.name),
     ("oneof_index", .ofOption (fun o => .ofNat o.index.toNat) head.oneof),
     ("oneof_name", .ofOption (fun o => .text o.name) head.oneof),
     ("nested_record", nested)]

mutual

/-- A tree as a value. -/
def RecordTree.json : RecordTree → Json
  | .marker name =>
      .object [("record_name", .text name), ("recursive", .bool true)]
  | .expanded name columns =>
      .object [("record_name", .text name),
        ("columns", .array (columnsJson columns))]

def ColumnTree.json : ColumnTree → Json
  | .plain head => head.json .null
  | .composite head nested => head.json nested.json

def columnsJson : List ColumnTree → List Json
  | [] => []
  | c :: rest => c.json :: columnsJson rest

end

theorem columnsJson_eq (columns : List ColumnTree) :
    columnsJson columns = columns.map ColumnTree.json := by
  induction columns with
  | nil => rfl
  | cons c rest ih => rw [columnsJson, ih, List.map_cons]

-- ================================================= what is written of records

namespace RecordGraph

variable {g : RecordGraph} {path : List RecordId} {id : RecordId}

theorem recordJson_around (around : id ∈ path) :
    g.recordJson path id
      = .object [("record_name", .text (g.record id).name),
          ("recursive", .bool true)] := by
  rw [recordJson, dif_pos (by simpa using around)]

/-- One step into a record, declared or not. -/
theorem recordJson_fresh (fresh : id ∉ path) :
    g.recordJson path id
      = .object [("record_name", .text (g.record id).name),
          ("columns", .array ((g.record id).columns.map fun c =>
            c.head.json (match c.nested with
              | none => .null
              | some n => g.recordJson (id :: path) n)))] := by
  rw [recordJson, dif_neg (by simpa using fresh)]
  by_cases declared : id < g.records.length
  · rw [dif_pos declared]
    have here : g.record id = g.records[id] := by
      unfold record
      rw [List.getElem?_eq_getElem declared, Option.getD_some]
    rw [here]
    rfl
  · rw [dif_neg declared]
    have empty : (g.record id).columns = [] := by
      refine List.eq_nil_iff_forall_not_mem.mpr fun c column => ?_
      exact declared (declared_of_column column)
    rw [empty]
    rfl

/-- What is written of a record is its tree. -/
theorem Unfolds.recordJson {t : RecordTree} (h : g.Unfolds path id t) :
    g.recordJson path id = t.json := by
  induction h with
  | recursive around => rw [recordJson_around around, RecordTree.json]
  | @expanded path id fresh sub nested ih =>
      rw [recordJson_fresh fresh, RecordTree.json, columnsJson_eq,
        List.map_map]
      have same : ∀ c ∈ (g.record id).columns,
          c.head.json (match c.nested with
              | none => .null
              | some n => g.recordJson (id :: path) n)
            = (c.tree sub).json := by
        intro c hc
        cases refers : c.nested with
        | none => rw [c.tree_plain refers, ColumnTree.json]
        | some n =>
            rw [c.tree_composite refers, ColumnTree.json,
              ← ih c hc n refers]
      rw [List.map_congr_left same]
      rfl

end RecordGraph

-- ======================================================== column objects

/-- A record's object lists a column's. -/
def Json.ListsColumn (record column : Json) : Prop :=
  ∃ members items, record = .object members
    ∧ ("columns", .array items) ∈ members ∧ column ∈ items

/-- A record's object lists a column's, or one of the records written
inside it does. -/
inductive Json.ColumnWithin : Json → Json → Prop
  | here {record column : Json} (listed : record.ListsColumn column) :
      ColumnWithin record column
  | deeper {record nested column : Json} {members : List (String × Json)}
      (listed : record.ListsColumn (.object members))
      (refers : ("nested_record", nested) ∈ members)
      (within : ColumnWithin nested column) : ColumnWithin record column

/-- Nothing is listed in a null. -/
theorem Json.not_columnWithin_null (column : Json) :
    ¬ Json.null.ColumnWithin column := by
  rintro (⟨_, _, object, _⟩ | ⟨⟨_, _, object, _⟩, _, _⟩)
  · cases object
  · cases object

/-- A column's object has one nested record. -/
theorem ColumnHead.eq_of_nested {head : ColumnHead} {value nested : Json}
    {members : List (String × Json)} (same : .object members = head.json value)
    (refers : ("nested_record", nested) ∈ members) : nested = value := by
  unfold ColumnHead.json at same
  cases same
  simpa using refers

theorem RecordTree.json_ne_null (t : RecordTree) : t.json ≠ .null := by
  cases t <;> nofun

/-- What is written of a declared column. -/
theorem ColumnDecl.tree_json (c : ColumnDecl) (sub : RecordId → RecordTree) :
    ∃ nested, (c.tree sub).json = c.head.json nested
      ∧ (nested = .null ↔ c.nested = none) := by
  cases refers : c.nested with
  | none =>
      rw [c.tree_plain refers, ColumnTree.json]
      exact ⟨.null, rfl, by simp⟩
  | some n =>
      rw [c.tree_composite refers, ColumnTree.json]
      refine ⟨_, rfl, ?_⟩
      exact iff_of_false (sub n).json_ne_null nofun

namespace RecordGraph

variable {g : RecordGraph}

/-- The columns listed for a record are the declared ones. -/
theorem Unfolds.declared_of_listed {path : List RecordId} {id : RecordId}
    {t : RecordTree} {column : Json} (h : g.Unfolds path id t)
    (listed : t.json.ListsColumn column) :
    ∃ d ∈ (g.record id).columns, ∃ sub, column = (d.tree sub).json
      ∧ ∀ n, d.nested = some n → g.Unfolds (id :: path) n (sub n) := by
  obtain ⟨members, items, object, columns, item⟩ := listed
  cases h with
  | recursive around =>
      -- a marker has no columns
      rw [RecordTree.json] at object
      cases object
      simp at columns
  | expanded fresh sub nested =>
      rw [RecordTree.json, columnsJson_eq] at object
      cases object
      have all : items
          = ((g.record id).columns.map (·.tree sub)).map ColumnTree.json := by
        simpa using columns
      rw [all, List.map_map] at item
      obtain ⟨d, hd, rfl⟩ := List.mem_map.mp item
      exact ⟨d, hd, sub, rfl, nested d hd⟩

/-- At every depth, columns are those declared by some record that can be
reached. -/
theorem Unfolds.declared_of_within {value column : Json}
    (within : value.ColumnWithin column) {path : List RecordId}
    {id : RecordId} {t : RecordTree} (h : g.Unfolds path id t)
    (written : value = t.json) :
    ∃ j, g.Reaches id j ∧ ∃ d ∈ (g.record j).columns,
      ∃ sub, column = (d.tree sub).json := by
  induction within generalizing path id t with
  | here listed =>
      rw [written] at listed
      obtain ⟨d, hd, sub, same, -⟩ := h.declared_of_listed listed
      exact ⟨id, .refl, d, hd, sub, same⟩
  | @deeper record nested column members listed refers within ih =>
      rw [written] at listed
      obtain ⟨d, hd, sub, same, unfolds⟩ := h.declared_of_listed listed
      cases goes_on : d.nested with
      | none =>
          rw [d.tree_plain goes_on, ColumnTree.json] at same
          have nothing := ColumnHead.eq_of_nested same refers
          rw [nothing] at within
          exact absurd within (Json.not_columnWithin_null column)
      | some n =>
          rw [d.tree_composite goes_on, ColumnTree.json] at same
          have next := ColumnHead.eq_of_nested same refers
          obtain ⟨j, reaches, found⟩ := ih (unfolds n goes_on) next
          exact ⟨j, .head ⟨d, hd, goes_on⟩ reaches, found⟩

-- ============================================================ the rendering

/-- What is to be said of the tree of a record, and of how it is written. -/
structure Renders (g : RecordGraph) (id : RecordId) (t : RecordTree) : Prop where
  /-- It is what references unfold to, where only the records around a
  place count, and by their numbers. -/
  unfolds : ∀ t', g.Unfolds [] id t' ↔ t' = t
  written : g.recordJson [] id = t.json
  /-- Nowhere are more records expanded inside each other than there are
  records in any set with all that can be reached. -/
  nesting : ∀ s : Finset RecordId, (∀ j, g.Reaches id j → j ∈ s) →
    t.nesting ≤ s.card
  /-- There are markers exactly if a cycle can be reached. -/
  marked : t.Marked ↔ ∃ j, g.Reaches id j ∧ g.Cyclic j
  /-- A column, however deep inside, has six members whatever is declared
  of it. -/
  columns : ∀ column, t.json.ColumnWithin column →
    ∃ j, g.Reaches id j ∧ ∃ d ∈ (g.record j).columns, ∃ nested,
      column = .object
        [("index", .ofNat d.index.toNat),
         ("column_name", .text d.name),
         ("type_kind", .text d.type.name),
         ("oneof_index", .ofOption (fun o => .ofNat o.index.toNat) d.oneof),
         ("oneof_name", .ofOption (fun o => .text o.name) d.oneof),
         ("nested_record", nested)]
        ∧ (nested = .null ↔ d.nested = none)

theorem exists_renders (g : RecordGraph) (id : RecordId) :
    ∃ t, g.Renders id t := by
  obtain ⟨t, unfolds⟩ := exists_unfolds (g := g) [] id
  refine ⟨t, ⟨fun t' => ⟨fun h => h.unique unfolds, fun h => h ▸ unfolds⟩,
    unfolds.recordJson, fun s all => ?_, unfolds.marked_iff,
    fun column within => ?_⟩⟩
  · have bound := unfolds.nesting_le all
    simpa using bound
  · obtain ⟨j, reaches, d, hd, sub, same⟩ :=
      unfolds.declared_of_within within rfl
    obtain ⟨nested, object, absent⟩ := d.tree_json sub
    exact ⟨j, reaches, d, hd, nested, same.trans object, absent⟩

end RecordGraph

/-- Every record of a package has one tree, which is written wherever a
function refers to the record, whatever else has been written. -/
theorem PackageDecl.records_written_as_trees (p : PackageDecl) :
    ∃ tree : RecordId → RecordTree,
      (∀ id, p.records.Renders id (tree id))
        ∧ ∀ f : FunctionDecl, p.functionJson f = .object
          [("function_index", .ofNat f.index.toNat),
           ("function_name", .text f.name),
           ("function_kind", .text f.kind.name),
           ("input_record", (tree f.input).json),
           ("output_record", (tree f.output).json)] := by
  choose tree renders using p.records.exists_renders
  refine ⟨tree, renders, fun f => ?_⟩
  rw [functionJson, (renders f.input).written, (renders f.output).written]

/-- Two records of one name that refer to each other: the second is
expanded in both columns of the first, which inside it is only named. -/
example :
    let up : ColumnDecl := ⟨0, "up", .message, none, some 0⟩
    let left : ColumnDecl := ⟨0, "left", .message, none, some 1⟩
    let right : ColumnDecl := ⟨1, "right", .message, none, some 1⟩
    let inner : RecordTree :=
      .expanded "Node" [.composite up.head (.marker "Node")]
    RecordGraph.recordJson ⟨[⟨"Node", [left, right]⟩, ⟨"Node", [up]⟩]⟩ [] 0
      = (RecordTree.expanded "Node"
          [.composite left.head inner, .composite right.head inner]).json := by
  cbv

end PluginRpc
