/-
Schemas as structured values, for scripts and for people.

Every optional part of a declaration is an explicit null, so the members
of an object do not depend on what is declared. A nested record is
written out where it is referred to. Records may refer to themselves, so
a record that is being written already, at this place or around it, is
only named and marked as recursive. What counts is the record's number:
another record of the same name is written out, and so is the same record
in a neighbouring column.

The rendering ends because every record that is being written is one
number fewer to meet: `unseen` counts the numbers that are left.
-/
import PluginRpc.Json.Value
import PluginRpc.Schema.Basic

namespace PluginRpc

namespace RecordGraph

variable (g : RecordGraph)

/-- How many records are not on a path. -/
def unseen (path : List RecordId) : Nat :=
  (List.range g.records.length).countP fun id => !path.contains id

/-- A test that is stricter, and strictly so on some member, passes fewer
members. -/
private theorem countP_lt {α : Type} {p q : α → Bool} {l : List α} {a : α}
    (stricter : ∀ x, q x = true → p x = true) (member : a ∈ l)
    (passes : p a = true) (fails : q a = false) : l.countP q < l.countP p := by
  induction l with
  | nil => cases member
  | cons b rest ih =>
    rw [List.countP_cons, List.countP_cons]
    have le : rest.countP q ≤ rest.countP p :=
      List.countP_mono_left fun x _ => stricter x
    rcases List.mem_cons.1 member with rfl | later
    · simp only [passes, fails, if_true]
      simpa using Nat.lt_succ_of_le le
    · have := ih later
      have head : (if q b = true then 1 else 0) ≤ if p b = true then 1 else 0 := by
        by_cases h : q b = true
        · simp [h, stricter b h]
        · simp [h]
      omega

/-- A declared record that is not on a path leaves fewer behind. -/
theorem unseen_cons_lt {path : List RecordId} {id : RecordId}
    (fresh : path.contains id = false) (declared : id < g.records.length) :
    g.unseen (id :: path) < g.unseen path := by
  refine countP_lt (fun i h => ?_) (List.mem_range.2 declared) ?_ ?_
  · rw [List.contains_cons] at h
    cases hi : path.contains i with
    | false => rfl
    | true => rw [hi, Bool.or_true] at h; exact h
  · rw [fresh]; rfl
  · rw [List.contains_cons, beq_self_eq_true, Bool.true_or]; rfl

/-- A record, within those whose numbers are on the path. -/
def recordJson (path : List RecordId) (id : RecordId) : Json :=
  if fresh : path.contains id then
    .object [("record_name", .text (g.record id).name), ("recursive", .bool true)]
  else if declared : id < g.records.length then
    .object
      [("record_name", .text g.records[id].name),
       ("columns", .array (g.records[id].columns.map fun c =>
          .object
            [("index", .ofNat c.index.toNat),
             ("column_name", .text c.name),
             ("type_kind", .text c.type.name),
             ("oneof_index", .ofOption (fun o => .ofNat o.index.toNat) c.oneof),
             ("oneof_name", .ofOption (fun o => .text o.name) c.oneof),
             ("nested_record",
               match c.nested with
               | none => .null
               | some nested => recordJson (id :: path) nested)]))]
  else .object [("record_name", .text (g.record id).name), ("columns", .array [])]
termination_by g.unseen path
decreasing_by exact g.unseen_cons_lt (by simpa using fresh) declared

end RecordGraph

namespace PackageDecl

variable (p : PackageDecl)

/-- A function with its records. -/
def functionJson (f : FunctionDecl) : Json :=
  .object
    [("function_index", .ofNat f.index.toNat),
     ("function_name", .text f.name),
     ("function_kind", .text f.kind.name),
     ("input_record", p.records.recordJson [] f.input),
     ("output_record", p.records.recordJson [] f.output)]

/-- A service with its functions. -/
def serviceJson (s : ServiceDecl) : Json :=
  .object
    [("service_index", .ofNat s.index.toNat),
     ("service_name", .text s.name),
     ("functions", .array (s.functions.map p.functionJson))]

/-- A package with everything below it. -/
def json : Json :=
  .object
    [("package_name", .text p.name),
     ("file_name", .text p.file),
     ("version", .object
       [("major", .ofNat p.version.major.toNat),
        ("minor", .ofNat p.version.minor.toNat),
        ("patch", .ofNat p.version.patch.toNat)]),
     ("services", .array (p.services.map p.serviceJson))]

end PackageDecl

end PluginRpc
