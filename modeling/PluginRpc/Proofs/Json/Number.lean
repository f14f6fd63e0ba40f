/-
Whole numbers as they are written.

A number is written digit by digit from the last one, so what is true of
its digits is shown by dividing it by ten until one digit is left. Read
back they are the number again; and they are a number for a reader that
does not yet ask for its value, because the first of several digits is
no zero.
-/
import PluginRpc.Json.Decode
import PluginRpc.Json.Value

namespace PluginRpc.Lexed

open Json

-- ================================================================= digits

theorem natBytes_of_lt {n : Nat} (h : n < 10) : natBytes n = [digitByte n] := by
  unfold natBytes digitsReversed
  rw [dif_pos h]
  rfl

theorem natBytes_of_ge {n : Nat} (h : ¬ n < 10) :
    natBytes n = natBytes (n / 10) ++ [digitByte (n % 10)] := by
  unfold natBytes
  rw [digitsReversed, dif_neg h, List.map_cons, List.reverse_cons]

/-- What is written of a number, digit by digit. -/
theorem natBytes_induction {motive : Nat → Payload → Prop}
    (digit : ∀ d, d < 10 → motive d [digitByte d])
    (further : ∀ n d bytes, 0 < n → d < 10 → motive n bytes →
      motive (n * 10 + d) (bytes ++ [digitByte d])) (n : Nat) :
    motive n (natBytes n) := by
  induction n using Nat.strongRecOn with
  | ind n ih =>
    by_cases small : n < 10
    · rw [natBytes_of_lt small]
      exact digit n small
    · rw [natBytes_of_ge small]
      have cut : n = n / 10 * 10 + n % 10 := by omega
      have step := further (n / 10) (n % 10) (natBytes (n / 10)) (by omega)
        (by omega) (ih (n / 10) (by omega))
      rwa [← cut] at step

theorem isDigit_digitByte : ∀ d, d < 10 → isDigit (digitByte d) = true := by
  decide

theorem toNat_digitByte : ∀ d, d < 10 → (digitByte d).toNat - 0x30 = d := by
  decide

theorem digitByte_ne_minus : ∀ d, d < 10 → digitByte d ≠ 0x2d := by
  decide

theorem digitByte_ne_zero : ∀ d, d < 10 → 0 < d → digitByte d ≠ 0x30 := by
  decide

/-- Nothing but digits is written. -/
theorem isDigit_of_mem_natBytes (n : Nat) :
    ∀ b ∈ natBytes n, isDigit b = true := by
  refine natBytes_induction
    (motive := fun _ bytes => ∀ b ∈ bytes, isDigit b = true) ?_ ?_ n
  · intro d small b mem
    rw [List.mem_singleton.mp mem]
    exact isDigit_digitByte d small
  · intro _ d bytes _ small ih b mem
    rcases List.mem_append.mp mem with front | last
    · exact ih b front
    · rw [List.mem_singleton.mp last]
      exact isDigit_digitByte d small

theorem digitsValue_concat (digits : Payload) (d : UInt8) :
    digitsValue (digits ++ [d]) = digitsValue digits * 10 + (d.toNat - 0x30) := by
  unfold digitsValue
  rw [List.foldl_append]
  rfl

/-- The value of what is written is the number. -/
theorem digitsValue_natBytes (n : Nat) : digitsValue (natBytes n) = n := by
  refine natBytes_induction
    (motive := fun n bytes => digitsValue bytes = n) ?_ ?_ n
  · intro d small
    show 0 * 10 + _ = d
    rw [toNat_digitByte d small]
    omega
  · intro n d bytes _ small ih
    rw [digitsValue_concat, ih, toNat_digitByte d small]

/-- The first digit, which is a zero of the number zero only. -/
theorem natBytes_head (n : Nat) :
    ∃ d rest, natBytes n = digitByte d :: rest ∧ d < 10 ∧ (0 < n → 0 < d) := by
  refine natBytes_induction (motive := fun n bytes =>
    ∃ d rest, bytes = digitByte d :: rest ∧ d < 10 ∧ (0 < n → 0 < d)) ?_ ?_ n
  · intro d small
    exact ⟨d, [], rfl, small, id⟩
  · rintro n d bytes positive small ⟨first, rest, rfl, digit, lead⟩
    exact ⟨first, rest ++ [digitByte d], rfl, digit, fun _ => lead positive⟩

-- ======================================================= numbers as written

/-- Digits are read to their end. -/
theorem digits?_natBytes (n : Nat) : digits? (natBytes n) = some [] := by
  have all : ∀ b ∈ natBytes n, isDigit b = true := isDigit_of_mem_natBytes n
  have taken : (natBytes n ++ []).takeWhile isDigit = natBytes n ++ [] :=
    List.takeWhile_append_of_pos all
  have left : (natBytes n ++ []).dropWhile isDigit = [] :=
    List.dropWhile_append_of_pos all
  rw [List.append_nil] at taken left
  obtain ⟨d, rest, front, -, -⟩ := natBytes_head n
  unfold digits?
  rw [taken, left, if_neg]
  rw [front]
  exact Bool.false_ne_true

/-- No zero stands in front of other digits. -/
theorem whole?_natBytes (n : Nat) : whole? (natBytes n) = some [] := by
  -- the number zero is the one whose first digit is a zero
  rcases Nat.eq_zero_or_pos n with rfl | positive
  · rw [natBytes_of_lt (by decide)]
    rfl
  · have read := digits?_natBytes n
    obtain ⟨d, rest, front, digit, lead⟩ := natBytes_head n
    rw [front] at read ⊢
    rw [whole?, read]
    intro _ same
    injection same with same
    exact digitByte_ne_zero d digit (lead positive) same

theorem isNumber_natBytes (n : Nat) : isNumber (natBytes n) = true := by
  obtain ⟨d, rest, front, digit, -⟩ := natBytes_head n
  have read := whole?_natBytes n
  unfold isNumber
  rw [front] at read ⊢
  split
  · next same =>
    injection same with same
    exact absurd same (digitByte_ne_minus d digit)
  · dsimp only
    rw [read]
    rfl

theorem isNumber_minus_natBytes (n : Nat) :
    isNumber (0x2d :: natBytes n) = true := by
  show ((whole? (natBytes n)).bind fraction?).bind exponent? == some []
  rw [whole?_natBytes]
  rfl

/-- What is written for a whole number is a number. -/
theorem isNumber_intBytes (n : Int) : isNumber (intBytes n) = true := by
  cases n with
  | ofNat n => exact isNumber_natBytes n
  | negSucc n => exact isNumber_minus_natBytes (n + 1)

theorem intBytes_ne_nil (n : Int) : intBytes n ≠ [] := by
  cases n with
  | ofNat n =>
      obtain ⟨d, rest, front, -, -⟩ := natBytes_head n
      show natBytes n ≠ []
      rw [front]
      exact List.cons_ne_nil _ _
  | negSucc n => exact List.cons_ne_nil _ _

theorem isNumberByte_of_mem_intBytes (n : Int) :
    ∀ b ∈ intBytes n, isNumberByte b = true := by
  have digit : ∀ b, isDigit b = true → isNumberByte b = true := fun b h => by
    unfold isNumberByte
    rw [h]
    rfl
  intro b mem
  cases n with
  | ofNat n => exact digit b (isDigit_of_mem_natBytes n b mem)
  | negSucc n =>
      rcases List.mem_cons.mp mem with rfl | mem
      · rfl
      · exact digit b (isDigit_of_mem_natBytes (n + 1) b mem)

theorem int?_natBytes (n : Nat) :
    int? (.number (natBytes n)) = some (n : Int) := by
  obtain ⟨d, rest, front, digit, -⟩ := natBytes_head n
  have all : (natBytes n).all isDigit = true :=
    List.all_eq_true.mpr (isDigit_of_mem_natBytes n)
  have value := digitsValue_natBytes n
  rw [front] at all value ⊢
  rw [int?, if_pos all, value]
  intro digits same
  injection same with same
  exact absurd same (digitByte_ne_minus d digit)

theorem int?_minus_natBytes (n : Nat) :
    int? (.number (0x2d :: natBytes (n + 1))) = some (.negSucc n) := by
  have all : (natBytes (n + 1)).all isDigit = true :=
    List.all_eq_true.mpr (isDigit_of_mem_natBytes (n + 1))
  rw [int?, digitsValue_natBytes, all]
  rfl

/-- It is the number that was written. -/
theorem int?_intBytes (n : Int) : int? (.number (intBytes n)) = some n := by
  cases n with
  | ofNat n => exact int?_natBytes n
  | negSucc n => exact int?_minus_natBytes n

-- ================================================== numbers of fixed width

theorem intWithin?_intBytes {low high n : Int} (above : low ≤ n)
    (below : n ≤ high) :
    intWithin? low high (.number (intBytes n)) = some n := by
  unfold intWithin?
  rw [int?_intBytes]
  simp [above, below]

theorem int32?_intBytes (n : Int32) :
    int32? (.number (intBytes n.toInt)) = some n := by
  unfold int32?
  rw [intWithin?_intBytes (Int32.le_iff_toInt_le.mp n.minValue_le)
    (Int32.le_iff_toInt_le.mp n.le_maxValue)]
  exact congrArg some n.ofInt_toInt

theorem int64?_intBytes (n : Int64) :
    int64? (.number (intBytes n.toInt)) = some n := by
  unfold int64?
  rw [intWithin?_intBytes (Int64.le_iff_toInt_le.mp n.minValue_le)
    (Int64.le_iff_toInt_le.mp n.le_maxValue)]
  exact congrArg some n.ofInt_toInt

theorem uint32?_intBytes (n : UInt32) :
    uint32? (.number (intBytes n.toNat)) = some n := by
  have below : (n.toNat : Int) ≤ UInt32.size - 1 :=
    Int.le_sub_one_of_lt (Int.ofNat_lt.mpr n.toNat_lt)
  unfold uint32?
  rw [intWithin?_intBytes (Int.natCast_nonneg n.toNat) below]
  exact congrArg some n.ofNat_toNat

end PluginRpc.Lexed
