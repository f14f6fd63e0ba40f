/-
Bytes and the texts they encode.

Payloads are bytes; most of them are meant as text. Reading a payload as
text is strict where it must be a text and lenient where somebody only
wants to look at it. The lenient reading replaces what is no encoding of
a character by the replacement character, one for each longest run of
bytes that could still have become a character, so that a reader sees how
often the text is broken and nothing of what is intact is lost.
-/

namespace PluginRpc

/-- The bytes of one message. -/
abbrev Payload := List UInt8

namespace Payload

/-- The encoding of a text. -/
def ofText (text : String) : Payload := text.toUTF8.data.toList

/-- The text that the bytes encode, if they encode one. -/
def text? (bytes : Payload) : Option String :=
  String.fromUTF8? ⟨bytes.toArray⟩

/-- Reading undoes encoding. -/
theorem text?_ofText (text : String) : (ofText text).text? = some text := by
  have whole : (⟨(ofText text).toArray⟩ : ByteArray) = text.toByteArray := by
    simp [ofText, String.toUTF8]
  unfold text?
  rw [whole]
  simp only [String.fromUTF8?, String.fromUTF8, dif_pos text.isValidUTF8]

-- ====================================================== lenient reading

/-- How an encoding goes on after its first byte: the range of the second
byte, the number of bytes after that, and the bits of the first byte. -/
structure Lead where
  low : Nat
  high : Nat
  more : Nat
  bits : Nat

/-- What the first byte of an encoding longer than one byte announces.
The range of the second byte leaves out longer encodings of shorter ones,
surrogates, and what lies beyond the last character. -/
def lead? (byte : Nat) : Option Lead :=
  if 0xc2 ≤ byte ∧ byte ≤ 0xdf then some ⟨0x80, 0xbf, 0, byte - 0xc0⟩
  else if byte = 0xe0 then some ⟨0xa0, 0xbf, 1, 0⟩
  else if byte = 0xed then some ⟨0x80, 0x9f, 1, 0xd⟩
  else if 0xe1 ≤ byte ∧ byte ≤ 0xef then some ⟨0x80, 0xbf, 1, byte - 0xe0⟩
  else if byte = 0xf0 then some ⟨0x90, 0xbf, 2, 0⟩
  else if 0xf1 ≤ byte ∧ byte ≤ 0xf3 then some ⟨0x80, 0xbf, 2, byte - 0xf0⟩
  else if byte = 0xf4 then some ⟨0x80, 0x8f, 2, 4⟩
  else none

/-- The character that stands for what is no encoding. -/
def replacement : Char := '\uFFFD'

/-- The lenient reading, with an encoding under way: the range of its
next byte, the number of bytes after that one, and the bits so far. -/
def lenient : Option Lead → List Nat → List Char
  | none, [] => []
  | some _, [] => [replacement]
  | none, byte :: rest =>
      if byte < 0x80 then Char.ofNat byte :: lenient none rest
      else
        match lead? byte with
        | some lead => lenient (some lead) rest
        | none => replacement :: lenient none rest
  | some lead, byte :: rest =>
      if lead.low ≤ byte ∧ byte ≤ lead.high then
        let bits := lead.bits * 64 + (byte - 0x80)
        match lead.more with
        | 0 => Char.ofNat bits :: lenient none rest
        | more + 1 => lenient (some ⟨0x80, 0xbf, more, bits⟩) rest
      else if byte < 0x80 then
        replacement :: Char.ofNat byte :: lenient none rest
      else
        match lead? byte with
        | some lead' => replacement :: lenient (some lead') rest
        | none => replacement :: replacement :: lenient none rest

/-- The text of the bytes, with whatever is no text replaced. -/
def lenientText (bytes : Payload) : String :=
  String.ofList (lenient none (bytes.map UInt8.toNat))

end Payload

end PluginRpc
