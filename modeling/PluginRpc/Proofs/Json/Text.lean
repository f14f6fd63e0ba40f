/-
Texts between quotes.

A writer puts a text between quotes character by character, and a reader
takes it apart again in two passes: the first only looks for the closing
quote, the second says what the bytes in between mean. For both to come
out right, one fact about each character is enough: it is spelled in one
of three ways, by a letter behind a backslash, by four digits behind a
backslash, or by its own encoding, and in the last case no byte of it is
a quote, a backslash or a control character. Both passes then go over a
spelling as one piece, and a text is one spelling behind the other.
-/
import PluginRpc.Json.Decode
import PluginRpc.Json.Value

namespace PluginRpc

open Json

/-- A text is encoded character by character. -/
theorem Payload.ofText_eq_flatMap (s : String) :
    Payload.ofText s = s.toList.flatMap String.utf8EncodeChar := by
  have listed : s.toByteArray = (String.ofList s.toList).toByteArray := by
    rw [String.ofList_toList]
  show s.toByteArray.data.toList = _
  rw [listed, String.toByteArray_ofList]
  simp [List.utf8Encode]

namespace Lexed

-- ================================================== one step of the passes

/-- A byte that stands for itself between quotes. -/
def IsPlain (b : UInt8) : Prop := 0x20 ≤ b ∧ b ≠ 0x22 ∧ b ≠ 0x5c

theorem body?_plain {b : UInt8} (plain : IsPlain b) (rest : Payload) :
    body? (b :: rest) = (body? rest).map (behind [b]) := by
  obtain ⟨visible, no_quote, no_backslash⟩ := plain
  rw [body?, if_neg]
  · simp [no_backslash, UInt8.not_lt.mpr visible]
  · exact no_quote
  · intro _ _ _ _ _ same
    exact absurd same no_backslash
  · intro _ _ same
    exact absurd same no_backslash

theorem body?_letter {e : UInt8} (escapes : isEscapeLetter e = true)
    (rest : Payload) :
    body? (0x5c :: e :: rest) = (body? rest).map (behind [0x5c, e]) := by
  rw [body?, if_pos escapes]
  rintro _ _ _ _ _ rfl
  cases escapes

theorem body?_digits {a b c d : UInt8}
    (hex : ∀ x ∈ [a, b, c, d], isHexDigit x = true) (rest : Payload) :
    body? (0x5c :: 0x75 :: a :: b :: c :: d :: rest)
      = (body? rest).map (behind [0x5c, 0x75, a, b, c, d]) := by
  rw [body?, if_pos]
  simp_all

theorem resolve?_plain {b : UInt8} (plain : IsPlain b) (rest : Payload) :
    resolve? (b :: rest) = (resolve? rest).map (b :: ·) := by
  obtain ⟨-, -, no_backslash⟩ := plain
  rw [resolve?]
  · intro _ _ _ _ _ same
    exact absurd same no_backslash
  · intro _ _ same
    exact absurd same no_backslash

theorem resolve?_letter {e : UInt8} (escapes : isEscapeLetter e = true)
    (rest : Payload) :
    resolve? (0x5c :: e :: rest) = (resolve? rest).map (letterByte e :: ·) := by
  rw [resolve?]
  rintro _ _ _ _ _ rfl
  cases escapes

theorem resolve?_digits {a b c d : UInt8}
    (low : isLowHalf (hexUnit a b c d) = false)
    (high : isHighHalf (hexUnit a b c d) = false) (rest : Payload) :
    resolve? (0x5c :: 0x75 :: a :: b :: c :: d :: rest)
      = (resolve? rest).map
          (String.utf8EncodeChar (Char.ofNat (hexUnit a b c d)) ++ ·) := by
  conv => lhs; unfold resolve?
  simp [low, high]

/-- Putting bytes in front twice. -/
theorem behind_behind (lead lead' : Payload) (read : Payload × Payload) :
    behind lead (behind lead' read) = behind (lead ++ lead') read := by
  obtain ⟨body, rest⟩ := read
  exact congrArg (·, rest) (List.append_assoc lead lead' body).symm

/-- The first pass goes over plain bytes as one piece. -/
theorem body?_plains {bytes : Payload} (plain : ∀ b ∈ bytes, IsPlain b)
    (rest : Payload) :
    body? (bytes ++ rest) = (body? rest).map (behind bytes) := by
  induction bytes with
  | nil => exact Option.map_id'.symm
  | cons b bytes ih =>
      have first := plain b List.mem_cons_self
      have others := ih fun b' mem => plain b' (List.mem_cons_of_mem b mem)
      rw [List.cons_append, body?_plain first, others, Option.map_map]
      exact congrArg (Option.map · (body? rest))
        (funext fun read => behind_behind [b] bytes read)

/-- So does the second. -/
theorem resolve?_plains {bytes : Payload} (plain : ∀ b ∈ bytes, IsPlain b)
    (rest : Payload) :
    resolve? (bytes ++ rest) = (resolve? rest).map (bytes ++ ·) := by
  induction bytes with
  | nil => exact Option.map_id'.symm
  | cons b bytes ih =>
      have first := plain b List.mem_cons_self
      have others := ih fun b' mem => plain b' (List.mem_cons_of_mem b mem)
      rw [List.cons_append, resolve?_plain first, others, Option.map_map]
      rfl

-- =============================================================== spellings

/-- The ways in which a character is spelled between quotes. -/
inductive Spelling (c : Char) : Payload → Prop where
  | letter {e : UInt8} (escapes : isEscapeLetter e = true)
      (meaning : String.utf8EncodeChar c = [letterByte e]) :
      Spelling c [0x5c, e]
  | digits {x y z w : UInt8} (hex : ∀ b ∈ [x, y, z, w], isHexDigit b = true)
      (low : isLowHalf (hexUnit x y z w) = false)
      (high : isHighHalf (hexUnit x y z w) = false)
      (meaning : Char.ofNat (hexUnit x y z w) = c) :
      Spelling c [0x5c, 0x75, x, y, z, w]
  | itself (plain : ∀ b ∈ String.utf8EncodeChar c, IsPlain b) :
      Spelling c (String.utf8EncodeChar c)

theorem isHexDigit_hexByte : ∀ d, d < 16 → isHexDigit (hexByte d) = true := by
  decide

theorem hexValue_hexByte : ∀ d, d < 16 → hexValue (hexByte d) = d := by
  decide

/-- The four digits of a control character are its number. -/
theorem hexUnit_control {n : Nat} (control : n < 0x20) :
    hexUnit 0x30 0x30 (hexByte (n / 16)) (hexByte (n % 16)) = n := by
  unfold hexUnit
  rw [hexValue_hexByte (n / 16) (by omega),
    hexValue_hexByte (n % 16) (by omega)]
  show 0 * 4096 + 0 * 256 + _ + _ = n
  omega

/-- A control character may be spelled by its number. -/
theorem spelling_control {c : Char} (control : c.toNat < 0x20) :
    Spelling c [0x5c, 0x75, 0x30, 0x30,
      hexByte (c.toNat / 16), hexByte (c.toNat % 16)] := by
  have unit := hexUnit_control control
  refine .digits ?_ ?_ ?_ ?_
  · intro b mem
    simp only [List.mem_cons, List.not_mem_nil, or_false] at mem
    rcases mem with rfl | rfl | rfl | rfl
    · rfl
    · rfl
    · exact isHexDigit_hexByte _ (by omega)
    · exact isHexDigit_hexByte _ (by omega)
  · rw [unit]
    simp only [isLowHalf, Bool.and_eq_false_iff, decide_eq_false_iff_not]
    omega
  · rw [unit]
    simp only [isHighHalf, Bool.and_eq_false_iff, decide_eq_false_iff_not]
    omega
  · rw [unit, Char.ofNat_toNat]

/-- No other character has a quote, a backslash or a control character
among its bytes: beyond the first 128 characters every byte is at least
128, and the byte of one of those is the character itself. -/
theorem isPlain_of_mem_utf8EncodeChar {c : Char} (visible : 0x20 ≤ c.toNat)
    (no_quote : c ≠ '"') (no_backslash : c ≠ '\\') :
    ∀ b ∈ String.utf8EncodeChar c, IsPlain b := by
  have h_quote : c.val.toNat ≠ 0x22 := fun same =>
    no_quote (Char.ext (UInt32.toNat_inj.mp same))
  have h_backslash : c.val.toNat ≠ 0x5c := fun same =>
    no_backslash (Char.ext (UInt32.toNat_inj.mp same))
  have h_visible : 0x20 ≤ c.val.toNat := visible
  intro b mem
  suffices number : 0x20 ≤ b.toNat ∧ b.toNat ≠ 0x22 ∧ b.toNat ≠ 0x5c by
    refine ⟨UInt8.le_iff_toNat_le.mpr number.1, ?_, ?_⟩
    · rintro rfl
      exact number.2.1 rfl
    · rintro rfl
      exact number.2.2 rfl
  unfold String.utf8EncodeChar at mem
  dsimp only at mem
  -- one case for each number of bytes
  split at mem
  · rw [List.mem_singleton.mp mem, UInt8.toNat_ofNat']
    omega
  · split at mem
    · simp only [List.mem_cons, List.not_mem_nil, or_false] at mem
      rcases mem with rfl | rfl <;> rw [UInt8.toNat_ofNat'] <;> omega
    · split at mem
      · simp only [List.mem_cons, List.not_mem_nil, or_false] at mem
        rcases mem with rfl | rfl | rfl <;> rw [UInt8.toNat_ofNat'] <;> omega
      · simp only [List.mem_cons, List.not_mem_nil, or_false] at mem
        rcases mem with rfl | rfl | rfl | rfl <;>
          rw [UInt8.toNat_ofNat'] <;> omega

/-- The letter of a character that has one means that character, and the
quote and the backslash have one. -/
theorem escapeLetter?_cases (c : Char) :
    (∃ e, escapeLetter? c = some e ∧ isEscapeLetter e = true
      ∧ String.utf8EncodeChar c = [letterByte e])
    ∨ (escapeLetter? c = none ∧ c ≠ '"' ∧ c ≠ '\\') := by
  unfold escapeLetter?
  repeat' split
  all_goals first
    | exact .inr ⟨rfl, by simp_all, by simp_all⟩
    | next h =>
        rw [beq_iff_eq.mp h]
        exact .inl ⟨_, rfl, by decide, by decide⟩

/-- What is written for a character is one of its spellings. -/
theorem spelling_charBytes (c : Char) : Spelling c (charBytes c) := by
  unfold charBytes
  rcases escapeLetter?_cases c with ⟨e, found, escapes, meaning⟩ |
      ⟨missing, no_quote, no_backslash⟩
  · rw [found]
    exact .letter escapes meaning
  · rw [missing]
    by_cases control : c.toNat < 0x20
    · rw [if_pos control]
      exact spelling_control control
    · rw [if_neg control]
      exact .itself (isPlain_of_mem_utf8EncodeChar (Nat.le_of_not_lt control)
        no_quote no_backslash)

theorem Spelling.body? {c : Char} {bytes : Payload} (h : Spelling c bytes)
    (rest : Payload) :
    body? (bytes ++ rest) = (Lexed.body? rest).map (behind bytes) := by
  cases h with
  | letter escapes meaning => exact body?_letter escapes rest
  | digits hex low high meaning => exact body?_digits hex rest
  | itself plain => exact body?_plains plain rest

theorem Spelling.resolve? {c : Char} {bytes : Payload} (h : Spelling c bytes)
    (rest : Payload) :
    resolve? (bytes ++ rest)
      = (Lexed.resolve? rest).map (String.utf8EncodeChar c ++ ·) := by
  cases h with
  | letter escapes meaning =>
      rw [meaning]
      exact resolve?_letter escapes rest
  | digits hex low high meaning =>
      rw [← meaning]
      exact resolve?_digits low high rest
  | itself plain => exact resolve?_plains plain rest

-- ============================================================ whole texts

/-- What is written between the quotes of a text. -/
def quoted (s : String) : Payload := s.toList.flatMap charBytes

theorem textBytes_append (s : String) (rest : Payload) :
    textBytes s ++ rest = 0x22 :: (quoted s ++ 0x22 :: rest) := by
  unfold textBytes quoted
  simp

theorem body?_flatMap_charBytes (cs : List Char) (rest : Payload) :
    body? (cs.flatMap charBytes ++ 0x22 :: rest)
      = some (cs.flatMap charBytes, rest) := by
  induction cs with
  | nil => rfl
  | cons c cs ih =>
      rw [List.flatMap_cons, List.append_assoc,
        (spelling_charBytes c).body?, ih]
      rfl

theorem resolve?_flatMap_charBytes (cs : List Char) :
    resolve? (cs.flatMap charBytes)
      = some (cs.flatMap String.utf8EncodeChar) := by
  induction cs with
  | nil => rfl
  | cons c cs ih =>
      rw [List.flatMap_cons, (spelling_charBytes c).resolve?, ih]
      rfl

/-- The first pass stops at the closing quote of a text, and there
only. -/
theorem body?_quoted (s : String) (rest : Payload) :
    body? (quoted s ++ 0x22 :: rest) = some (quoted s, rest) :=
  body?_flatMap_charBytes s.toList rest

/-- The second pass gives the text back. -/
theorem characters?_quoted (s : String) : characters? (quoted s) = some s := by
  unfold characters? quoted
  rw [resolve?_flatMap_charBytes, ← Payload.ofText_eq_flatMap]
  exact Payload.text?_ofText s

end Lexed

end PluginRpc
