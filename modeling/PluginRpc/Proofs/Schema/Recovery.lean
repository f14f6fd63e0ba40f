/-
What can be told from an export.

An export says of a package everything that it declares: two packages
with the same export have the same services and functions in the same
order, and their functions' records are written out as the same trees.
Which numbers the records have in their graphs, and whether a record that
occurs twice is one record or two that look alike, cannot be told.

# Equal values

The members of an object have no order, so two values count as equal if
they differ in nothing else. `Json.Alike` is this, and `Alike.object_iff`
reads off such an equality what it says: objects with the same different
keys are alike member by member. Every object of an export has its fixed
keys, so an equality of exports falls apart into equalities of the parts.

The trees are compared by one induction on both at once. A marker and an
expanded record differ in a key, an absent and a present reference in that
only one of them is an object.
-/
import Mathlib.Data.List.Forall2
import Mathlib.Data.List.Perm.Basic
import PluginRpc.Proofs.Schema.Rendering

namespace PluginRpc

-- ========================================================= equal values

/-- Two values are alike if they differ in the order of members, at most. -/
inductive Json.Alike : Json → Json → Prop
  | null : Alike .null .null
  | bool (b : Bool) : Alike (.bool b) (.bool b)
  | number (n : Int) : Alike (.number n) (.number n)
  | text (s : String) : Alike (.text s) (.text s)
  | array {items items' : List Json} (same : List.Forall₂ Alike items items') :
      Alike (.array items) (.array items')
  | object {members members' arranged : List (String × Json)}
      (rearranged : arranged.Perm members')
      (keys : members.map Prod.fst = arranged.map Prod.fst)
      (values : List.Forall₂ Alike (members.map Prod.snd)
        (arranged.map Prod.snd)) :
      Alike (.object members) (.object members')

namespace Json.Alike

mutual

theorem refl : ∀ v : Json, v.Alike v
  | .null => .null
  | .bool b => .bool b
  | .number n => .number n
  | .text s => .text s
  | .array items => .array (refl_items items)
  | .object members => .object (.refl _) rfl (refl_values members)

theorem refl_items : ∀ items : List Json, List.Forall₂ Alike items items
  | [] => .nil
  | item :: rest => .cons (refl item) (refl_items rest)

theorem refl_values : ∀ members : List (String × Json),
    List.Forall₂ Alike (members.map Prod.snd) (members.map Prod.snd)
  | [] => .nil
  | (_, value) :: rest => .cons (refl value) (refl_values rest)

end

/-- A rearrangement that leaves different keys where they are is none. -/
theorem eq_of_rearranged {l l' : List (String × Json)} (perm : l.Perm l')
    (same : l.map Prod.fst = l'.map Prod.fst)
    (distinct : (l.map Prod.fst).Nodup) : l = l' := by
  induction l generalizing l' with
  | nil => exact perm.nil_eq
  | cons m rest ih =>
      cases l' with
      | nil => exact absurd perm.length_eq (by simp)
      | cons m' rest' =>
          rw [List.map_cons, List.map_cons, List.cons.injEq] at same
          have there : m' ∈ m :: rest := perm.symm.subset List.mem_cons_self
          have head : m = m' :=
            List.inj_on_of_nodup_map distinct List.mem_cons_self there same.1
          subst head
          rw [ih perm.cons_inv same.2 (List.nodup_cons.mp distinct).2]

variable {ms ms' : List (String × Json)}

/-- Objects with the same keys, all different, are alike if they are so
member by member. -/
theorem object_iff (same : ms.map Prod.fst = ms'.map Prod.fst)
    (distinct : (ms.map Prod.fst).Nodup) :
    (Json.object ms).Alike (.object ms')
      ↔ List.Forall₂ Alike (ms.map Prod.snd) (ms'.map Prod.snd) := by
  constructor
  · intro h
    cases h with
    | object rearranged keys values =>
        have arranged_eq := eq_of_rearranged rearranged (keys.symm.trans same)
          (keys ▸ distinct)
        rwa [arranged_eq] at values
  · exact .object (.refl _) same

theorem keys_perm (h : (Json.object ms).Alike (.object ms')) :
    (ms.map Prod.fst).Perm (ms'.map Prod.fst) := by
  cases h with
  | object rearranged keys values =>
      rw [keys]
      exact rearranged.map Prod.fst

theorem array_iff {α β : Type} {f : α → Json} {f' : β → Json} {l : List α}
    {l' : List β} :
    (Json.array (l.map f)).Alike (.array (l'.map f'))
      ↔ List.Forall₂ (fun a b => (f a).Alike (f' b)) l l' := by
  rw [← List.forall₂_map_right_iff, ← List.forall₂_map_left_iff]
  constructor
  · intro h
    cases h with
    | array same => exact same
  · exact .array

theorem text_iff {s s' : String} :
    (Json.text s).Alike (.text s') ↔ s = s' := by
  constructor
  · intro h
    cases h
    rfl
  · rintro rfl
    exact .text s

theorem number_iff {n n' : Int} :
    (Json.number n).Alike (.number n') ↔ n = n' := by
  constructor
  · intro h
    cases h
    rfl
  · rintro rfl
    exact .number n

theorem index_iff {n n' : UInt32} :
    (Json.ofNat n.toNat).Alike (.ofNat n'.toNat) ↔ n = n' := by
  unfold Json.ofNat
  rw [number_iff, Int.ofNat_inj, UInt32.toNat_inj]

end Json.Alike

-- ================================================================ names

/-- Names by which everything in a list is found again are different. -/
theorem name_inj_of_find? {α : Type} (name : α → String) (all : List α)
    (found : ∀ k, all.find? (fun c => name c == name k) = some k) {a b : α} :
    name a = name b ↔ a = b := by
  constructor
  · intro same
    have at_a := found a
    rw [same, found b] at at_a
    exact (Option.some.inj at_a).symm
  · rintro rfl
    rfl

theorem FunctionKind.name_inj {a b : FunctionKind} :
    a.name = b.name ↔ a = b := by
  apply name_inj_of_find? name all
  intro k
  cases k <;> decide

theorem ColumnType.name_inj {a b : ColumnType} : a.name = b.name ↔ a = b := by
  apply name_inj_of_find? name all
  intro k
  cases k <;> decide

-- ================================================================ trees

/-- A group has an index and a name, and where there is no group there is
neither. -/
theorem OneofGroup.eq_of_alike {o o' : Option OneofGroup}
    (index : (Json.ofOption (fun o => .ofNat o.index.toNat) o).Alike
      (.ofOption (fun o : OneofGroup => .ofNat o.index.toNat) o'))
    (name : (Json.ofOption (fun o => .text o.name) o).Alike
      (.ofOption (fun o : OneofGroup => .text o.name) o')) : o = o' := by
  cases o with
  | none =>
      cases o' with
      | none => rfl
      | some group' => cases name
  | some group =>
      cases o' with
      | none => cases name
      | some group' =>
          obtain ⟨i, s⟩ := group
          obtain ⟨i', s'⟩ := group'
          have index_eq : i = i' := Json.Alike.index_iff.mp index
          have name_eq : s = s' := Json.Alike.text_iff.mp name
          rw [index_eq, name_eq]

theorem ColumnHead.eq_of_alike {head head' : ColumnHead} {v v' : Json}
    (h : (head.json v).Alike (head'.json v')) : head = head' ∧ v.Alike v' := by
  have parts := (Json.Alike.object_iff (by rfl) (by simp)).mp h
  simp only [List.map_cons, List.map_nil, List.forall₂_cons,
    Json.Alike.index_iff, Json.Alike.text_iff, ColumnType.name_inj] at parts
  obtain ⟨index, name, type, oneof_index, oneof_name, nested, -⟩ := parts
  have oneof := OneofGroup.eq_of_alike oneof_index oneof_name
  obtain ⟨i, s, t, o⟩ := head
  cases index
  cases name
  cases type
  cases oneof
  exact ⟨rfl, nested⟩

/-- What is written of a tree is no null. -/
theorem RecordTree.not_null_alike (t : RecordTree) : ¬ Json.null.Alike t.json := by
  intro h
  cases t with
  | marker name => cases h
  | expanded name columns => cases h

theorem RecordTree.not_alike_null (t : RecordTree) : ¬ t.json.Alike .null := by
  intro h
  cases t with
  | marker name => cases h
  | expanded name columns => cases h

mutual

/-- Trees that are written alike are the same tree. -/
theorem RecordTree.eq_of_alike : ∀ t t' : RecordTree,
    t.json.Alike t'.json → t = t'
  | .marker name, .marker name', h => by
      have parts := (Json.Alike.object_iff (by rfl) (by simp)).mp h
      simp only [List.map_cons, List.map_nil, List.forall₂_cons,
        Json.Alike.text_iff] at parts
      rw [parts.1]
  | .marker name, .expanded name' columns', h =>
      absurd (h.keys_perm.mem_iff (a := "recursive")) (by simp)
  | .expanded name columns, .marker name', h =>
      absurd (h.keys_perm.mem_iff (a := "recursive")) (by simp)
  | .expanded name columns, .expanded name' columns', h => by
      have parts := (Json.Alike.object_iff (by rfl) (by simp)).mp h
      simp only [List.map_cons, List.map_nil, List.forall₂_cons,
        Json.Alike.text_iff] at parts
      obtain ⟨name_eq, items, -⟩ := parts
      cases items with
      | array same => rw [name_eq, columns_eq_of_alike columns columns' same]

theorem ColumnTree.eq_of_alike : ∀ c c' : ColumnTree,
    c.json.Alike c'.json → c = c'
  | .plain head, .plain head', h => by
      rw [(ColumnHead.eq_of_alike h).1]
  | .plain head, .composite head' nested', h =>
      absurd (ColumnHead.eq_of_alike h).2 nested'.not_null_alike
  | .composite head nested, .plain head', h =>
      absurd (ColumnHead.eq_of_alike h).2 nested.not_alike_null
  | .composite head nested, .composite head' nested', h => by
      obtain ⟨head_eq, alike⟩ := ColumnHead.eq_of_alike h
      rw [head_eq, RecordTree.eq_of_alike nested nested' alike]

theorem columns_eq_of_alike : ∀ columns columns' : List ColumnTree,
    List.Forall₂ Json.Alike (columnsJson columns) (columnsJson columns') →
      columns = columns'
  | [], [], _ => rfl
  | [], _ :: _, h => by cases h
  | _ :: _, [], h => by cases h
  | c :: rest, c' :: rest', h => by
      rw [columnsJson, columnsJson, List.forall₂_cons] at h
      rw [ColumnTree.eq_of_alike c c' h.1, columns_eq_of_alike rest rest' h.2]

end

-- ============================================================== packages

/-- Records of two graphs that unfold to one tree. It has no markers where
the record does not lead to a cycle. -/
def RecordGraph.SameTree (g : RecordGraph) (i : RecordId) (g' : RecordGraph)
    (j : RecordId) : Prop :=
  ∃ t, g.Unfolds [] i t ∧ g'.Unfolds [] j t
    ∧ (t.Marked → ∃ k, g.Reaches i k ∧ g.Cyclic k)

theorem RecordGraph.alike_recordJson_iff (g : RecordGraph) (i : RecordId)
    (g' : RecordGraph) (j : RecordId) :
    (g.recordJson [] i).Alike (g'.recordJson [] j) ↔ g.SameTree i g' j := by
  constructor
  · intro alike
    obtain ⟨t, unfolds⟩ := exists_unfolds (g := g) [] i
    obtain ⟨t', unfolds'⟩ := exists_unfolds (g := g') [] j
    rw [unfolds.recordJson, unfolds'.recordJson] at alike
    have same := RecordTree.eq_of_alike t t' alike
    subst same
    exact ⟨t, unfolds, unfolds', unfolds.marked_iff.mp⟩
  · rintro ⟨t, unfolds, unfolds', -⟩
    rw [unfolds.recordJson, unfolds'.recordJson]
    exact .refl _

/-- Functions of two packages that are declared alike, with the records
of these packages. -/
structure FunctionDecl.Same (g g' : RecordGraph) (f f' : FunctionDecl) :
    Prop where
  index : f.index = f'.index
  name : f.name = f'.name
  kind : f.kind = f'.kind
  input : g.SameTree f.input g' f'.input
  output : g.SameTree f.output g' f'.output

/-- The same for services; their functions are in the same order. -/
structure ServiceDecl.Same (g g' : RecordGraph) (s s' : ServiceDecl) :
    Prop where
  index : s.index = s'.index
  name : s.name = s'.name
  functions : List.Forall₂ (FunctionDecl.Same g g') s.functions s'.functions

/-- The same for packages; their services are in the same order. -/
structure PackageDecl.Same (p q : PackageDecl) : Prop where
  name : p.name = q.name
  file : p.file = q.file
  version : p.version = q.version
  services : List.Forall₂ (ServiceDecl.Same p.records q.records)
    p.services q.services

theorem Version.alike_json_iff {v v' : Version} :
    (Json.object
        [("major", .ofNat v.major.toNat), ("minor", .ofNat v.minor.toNat),
         ("patch", .ofNat v.patch.toNat)]).Alike
      (.object
        [("major", .ofNat v'.major.toNat), ("minor", .ofNat v'.minor.toNat),
         ("patch", .ofNat v'.patch.toNat)])
      ↔ v = v' := by
  refine (Json.Alike.object_iff (by rfl) (by simp)).trans ?_
  obtain ⟨major, minor, patch⟩ := v
  obtain ⟨major', minor', patch'⟩ := v'
  simp only [List.map_cons, List.map_nil, List.forall₂_cons,
    List.forall₂_nil_right_iff, Json.Alike.index_iff, and_true,
    Version.mk.injEq]

variable {p q : PackageDecl}

theorem PackageDecl.alike_functionJson_iff {f f' : FunctionDecl} :
    (p.functionJson f).Alike (q.functionJson f')
      ↔ f.Same p.records q.records f' := by
  unfold functionJson
  refine (Json.Alike.object_iff (by rfl) (by simp)).trans ?_
  simp only [List.map_cons, List.map_nil, List.forall₂_cons,
    List.forall₂_nil_right_iff, Json.Alike.index_iff, Json.Alike.text_iff,
    FunctionKind.name_inj, RecordGraph.alike_recordJson_iff, and_true]
  constructor
  · rintro ⟨index, name, kind, input, output⟩
    exact ⟨index, name, kind, input, output⟩
  · rintro ⟨index, name, kind, input, output⟩
    exact ⟨index, name, kind, input, output⟩

theorem PackageDecl.alike_serviceJson_iff {s s' : ServiceDecl} :
    (p.serviceJson s).Alike (q.serviceJson s')
      ↔ s.Same p.records q.records s' := by
  unfold serviceJson
  refine (Json.Alike.object_iff (by rfl) (by simp)).trans ?_
  simp only [List.map_cons, List.map_nil, List.forall₂_cons,
    List.forall₂_nil_right_iff, Json.Alike.index_iff, Json.Alike.text_iff,
    Json.Alike.array_iff, alike_functionJson_iff, and_true]
  constructor
  · rintro ⟨index, name, functions⟩
    exact ⟨index, name, functions⟩
  · rintro ⟨index, name, functions⟩
    exact ⟨index, name, functions⟩

/-- Two exports are equal, whatever the order of members in them, exactly
if the packages have the same name, file and version and the same services
and functions in the same order, and the functions' records unfold to the
same trees: trees without markers, where no cycle can be reached. -/
theorem PackageDecl.alike_exports_iff (p q : PackageDecl) :
    p.json.Alike q.json ↔ p.Same q := by
  unfold json
  refine (Json.Alike.object_iff (by rfl) (by simp)).trans ?_
  simp only [List.map_cons, List.map_nil, List.forall₂_cons,
    List.forall₂_nil_right_iff, Json.Alike.text_iff, Json.Alike.array_iff,
    alike_serviceJson_iff, Version.alike_json_iff, and_true]
  constructor
  · rintro ⟨name, file, version, services⟩
    exact ⟨name, file, version, services⟩
  · rintro ⟨name, file, version, services⟩
    exact ⟨name, file, version, services⟩

end PluginRpc
