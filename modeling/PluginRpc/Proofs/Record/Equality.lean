/-
When two records are equal.

Slots are compared by kind and value, and floats by what they stand for.
That leaves two exceptions to being the same slot: a slot with a NaN is
equal to none, not even to itself, and the two zeros of a float kind are
equal though they are not the same pattern. `Slot.Alike` has a case for
each way in which two slots can be equal, and everything about the
equality of records is read off these cases, position by position.

So equality is symmetric and transitive, and a record is equal to itself,
and to any copy of it, exactly if there is no NaN in it.
-/
import PluginRpc.Proofs.Ieee
import PluginRpc.Record.Basic

namespace PluginRpc

-- ================================================================= values

namespace Scalar

/-- Plus zero and minus zero of one float kind. -/
inductive Zeros : Scalar → Scalar → Prop
  | float : Zeros (.float 0) (.float 0x80000000)
  | double : Zeros (.double 0) (.double 0x8000000000000000)

variable {x y z : Scalar}

theorem zeros_iff :
    Zeros x y ↔ (x = .float 0 ∧ y = .float 0x80000000)
      ∨ (x = .double 0 ∧ y = .double 0x8000000000000000) := by
  constructor
  · rintro (_ | _)
    · exact .inl ⟨rfl, rfl⟩
    · exact .inr ⟨rfl, rfl⟩
  · rintro (⟨rfl, rfl⟩ | ⟨rfl, rfl⟩)
    · exact .float
    · exact .double

theorem Zeros.numbers (h : Zeros x y) :
    x.isNaN = false ∧ y.isNaN = false := by
  cases h <;> decide

/-- Values are equal if none is a NaN and they are the same value or the
two zeros of a float kind. -/
theorem equal_iff (x y : Scalar) :
    x.equal y = true ↔ x.isNaN = false ∧ y.isNaN = false
      ∧ (x = y ∨ Zeros x y ∨ Zeros y x) := by
  simp only [zeros_iff]
  cases x <;> cases y
  case float.float a b =>
    refine (Ieee.single_equal_iff a b).trans ?_
    simp [isNaN, and_comm (a := a = 0x80000000)]
  case double.double a b =>
    refine (Ieee.double_equal_iff a b).trans ?_
    simp [isNaN, and_comm (a := a = 0x8000000000000000)]
  -- all else is compared exactly
  all_goals simp [equal, isNaN]

end Scalar

-- ================================================================== slots

namespace Slot

/-- The ways in which two slots are equal. -/
inductive Alike : Slot → Slot → Prop
  | absent : Alike none none
  /-- The same value, pattern by pattern, and a number if it is a float. -/
  | same {x : Scalar} (number : x.isNaN = false) : Alike (some x) (some x)
  | plusMinus {x y : Scalar} (zeros : Scalar.Zeros x y) :
      Alike (some x) (some y)
  | minusPlus {x y : Scalar} (zeros : Scalar.Zeros y x) :
      Alike (some x) (some y)

variable {s t u : Slot}

theorem equal_iff_alike (s t : Slot) : s.equal t = true ↔ s.Alike t := by
  constructor
  · intro equals
    match s, t with
    | none, none => exact .absent
    | some x, some y =>
        obtain ⟨number, -, rfl | zeros | zeros⟩ :=
          (Scalar.equal_iff x y).mp equals
        · exact .same number
        · exact .plusMinus zeros
        · exact .minusPlus zeros
    | none, some y => cases equals
    | some x, none => cases equals
  · intro alike
    cases alike with
    | absent => rfl
    | same number =>
        exact (Scalar.equal_iff _ _).mpr ⟨number, number, .inl rfl⟩
    | plusMinus zeros =>
        exact (Scalar.equal_iff _ _).mpr
          ⟨zeros.numbers.1, zeros.numbers.2, .inr (.inl zeros)⟩
    | minusPlus zeros =>
        exact (Scalar.equal_iff _ _).mpr
          ⟨zeros.numbers.2, zeros.numbers.1, .inr (.inr zeros)⟩

theorem Alike.symm (h : s.Alike t) : t.Alike s := by
  cases h with
  | absent => exact .absent
  | same number => exact .same number
  | plusMinus zeros => exact .minusPlus zeros
  | minusPlus zeros => exact .plusMinus zeros

theorem Alike.trans (h : s.Alike t) (h' : t.Alike u) : s.Alike u := by
  cases h with
  | absent => exact h'
  | same number => exact h'
  | plusMinus zeros =>
      cases h' with
      | same number => exact .plusMinus zeros
      | plusMinus zeros' => cases zeros <;> cases zeros'
      | minusPlus zeros' =>
          -- there and back again
          cases zeros <;> cases zeros' <;> exact .same (by decide)
  | minusPlus zeros =>
      cases h' with
      | same number => exact .minusPlus zeros
      | plusMinus zeros' =>
          cases zeros <;> cases zeros' <;> exact .same (by decide)
      | minusPlus zeros' => cases zeros <;> cases zeros'

theorem alike_self_iff (s : Slot) :
    s.Alike s ↔ ∀ x, s = some x → x.isNaN = false := by
  constructor
  · rintro alike x rfl
    cases alike with
    | same number => exact number
    | plusMinus zeros => exact zeros.numbers.1
    | minusPlus zeros => exact zeros.numbers.1
  · intro numbers
    cases s with
    | none => exact .absent
    | some x => exact .same (numbers x rfl)

theorem Alike.kind_eq (h : s.Alike t) :
    s.map Scalar.kind = t.map Scalar.kind := by
  cases h with
  | absent => rfl
  | same number => rfl
  | plusMinus zeros => cases zeros <;> rfl
  | minusPlus zeros => cases zeros <;> rfl

end Slot

-- ================================================================ records

namespace Record

variable {a b c : Record}

/-- Records are equal if they are position by position, and their errors
are the same. -/
theorem equal_iff_positions (a b : Record) :
    a.equal b = true
      ↔ a.length = b.length ∧ a.error = b.error
        ∧ ∀ (i : Nat) (s t : Slot), a.slots[i]? = some s →
          b.slots[i]? = some t → s.Alike t := by
  have together : ∀ s t, (s, t) ∈ a.slots.zip b.slots
      ↔ ∃ i : Nat, a.slots[i]? = some s ∧ b.slots[i]? = some t := by
    intro s t
    rw [List.mem_iff_getElem?]
    exact exists_congr fun i => List.getElem?_zip_eq_some
  unfold equal length
  rw [Bool.and_eq_true, Bool.and_eq_true, beq_iff_eq, beq_iff_eq,
    List.all_eq_true, and_assoc, and_comm (b := a.error = b.error)]
  refine and_congr_right fun _ => and_congr_right fun _ => ?_
  constructor
  · intro pairs i s t here there
    exact (Slot.equal_iff_alike s t).mp
      (pairs (s, t) ((together s t).mpr ⟨i, here, there⟩))
  · rintro alike ⟨s, t⟩ pair
    obtain ⟨i, here, there⟩ := (together s t).mp pair
    exact (Slot.equal_iff_alike s t).mpr (alike i s t here there)

theorem equal_symm (h : a.equal b = true) : b.equal a = true := by
  obtain ⟨lengths, errors, alike⟩ := (equal_iff_positions a b).mp h
  exact (equal_iff_positions b a).mpr ⟨lengths.symm, errors.symm,
    fun i s t here there => (alike i t s there here).symm⟩

theorem equal_trans (h : a.equal b = true) (h' : b.equal c = true) :
    a.equal c = true := by
  obtain ⟨lengths, errors, alike⟩ := (equal_iff_positions a b).mp h
  obtain ⟨lengths', errors', alike'⟩ := (equal_iff_positions b c).mp h'
  refine (equal_iff_positions a c).mpr ⟨lengths.trans lengths',
    errors.trans errors', fun i s u here there => ?_⟩
  -- the record between them has a slot at the position, too
  have inside : i < b.slots.length := by
    have within := (List.getElem?_eq_some_iff.mp here).1
    have same : a.slots.length = b.slots.length := lengths
    omega
  have between := List.getElem?_eq_getElem inside
  exact (alike i s _ here between).trans (alike' i _ u between there)

theorem equal_self_iff (a : Record) :
    a.equal a = true ↔ ∀ x, some x ∈ a.slots → x.isNaN = false := by
  rw [equal_iff_positions]
  constructor
  · rintro ⟨-, -, alike⟩ x held
    obtain ⟨i, here⟩ := List.mem_iff_getElem?.mp held
    exact (Slot.alike_self_iff _).mp (alike i _ _ here here) x rfl
  · intro numbers
    refine ⟨rfl, rfl, fun i s t here there => ?_⟩
    cases here.symm.trans there
    refine (Slot.alike_self_iff s).mpr ?_
    rintro x rfl
    exact numbers x (List.mem_of_getElem? here)

/-- Equal records have the same kinds in the same places. -/
theorem kinds_of_equal (h : a.equal b = true) :
    a.slots.map (Option.map Scalar.kind)
      = b.slots.map (Option.map Scalar.kind) := by
  obtain ⟨lengths, -, alike⟩ := (equal_iff_positions a b).mp h
  have mapped : (a.slots.map (Option.map Scalar.kind)).length
      = (b.slots.map (Option.map Scalar.kind)).length := by
    rw [List.length_map, List.length_map]
    exact lengths
  refine List.ext_getElem mapped fun i here there => ?_
  rw [List.getElem_map, List.getElem_map]
  exact (alike i _ _ (List.getElem?_eq_getElem _)
    (List.getElem?_eq_getElem _)).kind_eq

/-- Equality is symmetric and transitive; a record is equal to itself
exactly if it holds no NaN. Two records are equal exactly if they have as
many slots, the same error, and at each position the same kind of value or
none: the same value, a number if it is a float, or the two zeros of a
float kind. What is compared of floats, and what is a NaN, is what the
floats themselves say of it. -/
theorem equality_of_records :
    (∀ a b : Record, a.equal b = b.equal a)
      ∧ (∀ a b c : Record, a.equal b = true → b.equal c = true →
        a.equal c = true)
      ∧ (∀ a : Record, a.equal a = true
        ↔ ∀ x, some x ∈ a.slots → x.isNaN = false)
      ∧ (∀ a b : Record, a.equal b = true
        ↔ a.length = b.length ∧ a.error = b.error
          ∧ ∀ (i : Nat) (s t : Slot), a.slots[i]? = some s →
            b.slots[i]? = some t → s.Alike t)
      ∧ (∀ a b : Record, a.equal b = true →
        a.slots.map (Option.map Scalar.kind)
          = b.slots.map (Option.map Scalar.kind))
      ∧ (∀ f g : UInt32,
        (Scalar.float f).isNaN = (Float32.ofBits f).isNaN
          ∧ (Scalar.float f).equal (.float g)
            = (Float32.ofBits f == Float32.ofBits g))
      ∧ ∀ f g : UInt64,
        (Scalar.double f).isNaN = (Float.ofBits f).isNaN
          ∧ (Scalar.double f).equal (.double g)
            = (Float.ofBits f == Float.ofBits g) := by
  refine ⟨fun a b => Bool.eq_iff_iff.mpr ⟨equal_symm, equal_symm⟩,
    fun a b c => equal_trans, equal_self_iff, equal_iff_positions,
    fun a b => kinds_of_equal, fun f g => ?_, fun f g => ?_⟩
  · exact ⟨Ieee.single_isNaN f, Ieee.single_equal f g⟩
  · exact ⟨Ieee.double_isNaN f, Ieee.double_equal f g⟩

/-- Zeros are equal whatever their signs, and so is a record with plus
zero to itself, by way of one with minus zero; one with a NaN is not. -/
theorem equality_of_zeros :
    let plus : Record := ofSlots [some (.double 0), none]
    let minus : Record := ofSlots [some (.double 0x8000000000000000), none]
    let nan : Record := ofSlots [some (.float 0x7fc00000)]
    plus.equal minus = true ∧ minus.equal plus = true
      ∧ plus.equal plus = true ∧ nan.equal nan = false := by
  intro plus minus nan
  obtain ⟨symmetric, transitive, itself, -⟩ := equality_of_records
  have there : plus.equal minus = true := by decide
  have back : minus.equal plus = true := symmetric minus plus ▸ there
  refine ⟨there, back, transitive plus minus plus there back,
    Bool.eq_false_iff.mpr fun same => ?_⟩
  have number := (itself nan).mp same (.float 0x7fc00000)
    (List.mem_singleton_self _)
  exact absurd number (by decide)

end Record

end PluginRpc
