/-
The comparison of patterns is the comparison of floats.

A float is kept as the word that holds it, and two words are compared by
two facts about them: whether they are NaNs, and whether they are zeros.
Here these facts are read off the three fields of a word. In front of the
fraction stands the exponent, and the two together are the pattern without
its sign; so the pattern of infinity, which has all ones for an exponent
and no fraction, is passed by NaNs only.

The reading is the same for every interchange format, and it makes the
comparison that of the floats themselves: `Float32` and `Float` compare
two words as they are compared here.
-/
import Mathlib
import PluginRpc.Ieee

namespace PluginRpc.Ieee

open Float.Model.UnpackedFloat

variable {spec : Float.Model.Format}

-- ================================================================= fields

/-- The format whose exponents and fractions have so many bits. -/
def Format.ofSpec (spec : Float.Model.Format) : Format :=
  ⟨2 ^ (spec.mantissaBitsWithoutImplicit + spec.exponentBits) - 1,
    (2 ^ spec.exponentBits - 1) * 2 ^ spec.mantissaBitsWithoutImplicit⟩

namespace Format

/-- Without its sign a pattern is the exponent and behind it the
fraction. -/
theorem magnitude_ofSpec (b : BitVec spec.numBits) :
    (ofSpec spec).magnitude b.toNat
      = (unpackExponent b).toNat * 2 ^ spec.mantissaBitsWithoutImplicit
        + (unpackMantissa b).toNat := by
  have exponent : (unpackExponent b).toNat
      = b.toNat / 2 ^ spec.mantissaBitsWithoutImplicit
        % 2 ^ spec.exponentBits := by
    rw [unpackExponent_def, BitVec.extractLsb'_toNat,
      Nat.shiftRight_eq_div_pow]
  have fraction : (unpackMantissa b).toNat
      = b.toNat % 2 ^ spec.mantissaBitsWithoutImplicit := by
    rw [unpackMantissa_def, BitVec.extractLsb'_toNat, Nat.shiftRight_zero]
  have masked : (ofSpec spec).magnitude b.toNat
      = b.toNat % 2 ^ (spec.mantissaBitsWithoutImplicit
        + spec.exponentBits) := Nat.and_two_pow_sub_one_eq_mod ..
  rw [masked, Nat.pow_add, Nat.mod_mul, exponent, fraction, Nat.mul_comm,
    Nat.add_comm]

/-- All ones for an exponent, and a fraction. -/
theorem isNaN_ofSpec (b : BitVec spec.numBits) :
    (ofSpec spec).isNaN b.toNat = isNaNBits b := by
  have below : (unpackExponent b).toNat < 2 ^ spec.exponentBits :=
    BitVec.isLt _
  have fraction_below :
      (unpackMantissa b).toNat < 2 ^ spec.mantissaBitsWithoutImplicit :=
    BitVec.isLt _
  unfold isNaN isNaNBits
  rw [magnitude_ofSpec]
  refine decide_eq_decide.mpr ?_
  show (2 ^ spec.exponentBits - 1) * _ < _ ↔ _
  rw [BitVec.neg_one_eq_allOnes, ← BitVec.toNat_inj, BitVec.toNat_allOnes,
    Ne, ← BitVec.toNat_inj, BitVec.toNat_ofNat, Nat.zero_mod]
  constructor
  · intro above
    -- an exponent with a zero in it leaves room for the whole fraction
    have full : ¬ (unpackExponent b).toNat + 1 ≤ 2 ^ spec.exponentBits - 1 := by
      intro room
      have grown := Nat.mul_le_mul_right
        (2 ^ spec.mantissaBitsWithoutImplicit) room
      rw [Nat.add_mul, Nat.one_mul] at grown
      omega
    have ones : (unpackExponent b).toNat = 2 ^ spec.exponentBits - 1 := by
      omega
    rw [ones] at above
    exact ⟨ones, by omega⟩
  · rintro ⟨ones, some_fraction⟩
    rw [ones]
    omega

/-- Neither exponent nor fraction. -/
theorem isZero_ofSpec (b : BitVec spec.numBits) :
    (ofSpec spec).isZero b.toNat = true ↔ ∃ sign, b = packedZero spec sign := by
  unfold isZero
  rw [beq_iff_eq, magnitude_ofSpec]
  constructor
  · intro nothing
    have exponent : unpackExponent b = 0 := by
      refine BitVec.eq_of_toNat_eq ?_
      have := Nat.eq_zero_of_add_eq_zero_right nothing
      simpa using this
    have fraction : unpackMantissa b = 0 :=
      BitVec.eq_of_toNat_eq (by simpa using Nat.eq_zero_of_add_eq_zero_left nothing)
    refine ⟨Sign.ofBitVec (unpackSign b), ?_⟩
    have whole := packComponents_unpackSign_unpackExponent_unpackMantissa b
    rw [exponent, fraction] at whole
    exact whole.symm
  · rintro ⟨sign, rfl⟩
    simp [packedZero]

-- ============================================================= comparisons

/-- Two patterns are equal if none is a NaN and they are the same or zeros
of opposite sign. -/
theorem equal_ofSpec_iff (spec : Float.Model.Format)
    (b b' : BitVec spec.numBits) :
    (ofSpec spec).equal b.toNat b'.toNat = true
      ↔ (ofSpec spec).isNaN b.toNat = false
        ∧ (ofSpec spec).isNaN b'.toNat = false
        ∧ (b = b'
          ∨ (b = packedZero spec .positive ∧ b' = packedZero spec .negative)
          ∨ (b = packedZero spec .negative
            ∧ b' = packedZero spec .positive)) := by
  unfold equal
  simp only [Bool.and_eq_true, Bool.or_eq_true, Bool.not_eq_true', beq_iff_eq,
    BitVec.toNat_inj, isZero_ofSpec, and_assoc]
  refine and_congr_right fun _ => and_congr_right fun _ => ?_
  constructor
  · rintro (same | ⟨⟨sign, rfl⟩, ⟨sign', rfl⟩⟩)
    · exact .inl same
    · cases sign <;> cases sign' <;> simp
  · rintro (same | ⟨rfl, rfl⟩ | ⟨rfl, rfl⟩)
    · exact .inl same
    · exact .inr ⟨⟨_, rfl⟩, ⟨_, rfl⟩⟩
    · exact .inr ⟨⟨_, rfl⟩, ⟨_, rfl⟩⟩

/-- A float keeps of a NaN only that it is one. -/
theorem pack_unpack_eq_packedNaN_iff (two : 2 ≤ spec.exponentBits)
    (b : BitVec spec.numBits) :
    (unpack spec b).pack spec = packedNaN spec ↔ isNaNBits b = true := by
  rw [pack_unpack b two]
  constructor
  · intro packed
    by_cases nan : isNaNBits b = true
    · exact nan
    · rw [if_neg nan] at packed
      rw [packed]
      exact isNaNBits_packedNaN
  · intro nan
    rw [if_pos nan]

/-- The comparison of patterns is that of the floats they stand for. -/
theorem equal_ofSpec (spec : Float.Model.Format)
    (two : 2 ≤ spec.exponentBits) (b b' : BitVec spec.numBits) :
    (ofSpec spec).equal b.toNat b'.toNat
      = (unpack spec ((unpack spec b).pack spec)).beq
          (unpack spec ((unpack spec b').pack spec)) := by
  rw [Bool.eq_iff_iff, equal_ofSpec_iff, isNaN_ofSpec, isNaN_ofSpec,
    unpack_beq_unpack_iff valid_pack valid_pack two, Ne, Ne,
    pack_unpack_eq_packedNaN_iff two, pack_unpack_eq_packedNaN_iff two,
    Bool.not_eq_true, Bool.not_eq_true]
  refine and_congr_right fun number => and_congr_right fun number' => ?_
  rw [pack_unpack b two, pack_unpack b' two,
    if_neg (Bool.eq_false_iff.mp number), if_neg (Bool.eq_false_iff.mp number')]

/-- What is no number for the pattern is none for the float. -/
theorem isNaN_ofSpec_eq_unpack (spec : Float.Model.Format)
    (two : 2 ≤ spec.exponentBits) (b : BitVec spec.numBits) :
    (ofSpec spec).isNaN b.toNat
      = (unpack spec ((unpack spec b).pack spec)).isNaN := by
  rw [isNaN_ofSpec, Bool.eq_iff_iff, isNaN_unpack_iff_of_valid valid_pack two,
    pack_unpack_eq_packedNaN_iff two]

end Format

-- ================================================================== floats

-- `single` and `double` are those of the standard's formats of 32 and 64
-- bits by computation.

theorem single_isNaN (a : UInt32) :
    single.isNaN a.toNat = (Float32.ofBits a).isNaN :=
  Format.isNaN_ofSpec_eq_unpack .binary32 (by decide) a.toBitVec

theorem double_isNaN (a : UInt64) :
    double.isNaN a.toNat = (Float.ofBits a).isNaN :=
  Format.isNaN_ofSpec_eq_unpack .binary64 (by decide) a.toBitVec

/-- Patterns of four bytes are compared as the floats they stand for. -/
theorem single_equal (a b : UInt32) :
    single.equal a.toNat b.toNat = (Float32.ofBits a == Float32.ofBits b) :=
  Format.equal_ofSpec .binary32 (by decide) a.toBitVec b.toBitVec

/-- Patterns of eight bytes are compared as the floats they stand for. -/
theorem double_equal (a b : UInt64) :
    double.equal a.toNat b.toNat = (Float.ofBits a == Float.ofBits b) :=
  Format.equal_ofSpec .binary64 (by decide) a.toBitVec b.toBitVec

/-- Two patterns of four bytes are equal if they are numbers, and the same
pattern or the two zeros. -/
theorem single_equal_iff (a b : UInt32) :
    single.equal a.toNat b.toNat = true
      ↔ single.isNaN a.toNat = false ∧ single.isNaN b.toNat = false
        ∧ (a = b ∨ (a = 0 ∧ b = 0x80000000)
          ∨ (a = 0x80000000 ∧ b = 0)) := by
  simp only [← UInt32.toBitVec_inj]
  exact Format.equal_ofSpec_iff .binary32 a.toBitVec b.toBitVec

/-- Two patterns of eight bytes are equal if they are numbers, and the same
pattern or the two zeros. -/
theorem double_equal_iff (a b : UInt64) :
    double.equal a.toNat b.toNat = true
      ↔ double.isNaN a.toNat = false ∧ double.isNaN b.toNat = false
        ∧ (a = b ∨ (a = 0 ∧ b = 0x8000000000000000)
          ∨ (a = 0x8000000000000000 ∧ b = 0)) := by
  simp only [← UInt64.toBitVec_inj]
  exact Format.equal_ofSpec_iff .binary64 a.toBitVec b.toBitVec

end PluginRpc.Ieee
