/-
Structured values and their compact written form.

Numbers are whole numbers: nothing that is written here is anything else.
Members of an object are written in the order in which they are given.
The written form has no blanks. In a text the quote, the backslash and
the control characters are escaped, by a letter where there is one and by
four digits otherwise; every other character stands for itself.
-/
import PluginRpc.Text.Bytes

namespace PluginRpc

/-- A structured value. -/
inductive Json where
  | null
  | bool (b : Bool)
  | number (n : Int)
  | text (s : String)
  | array (items : List Json)
  | object (members : List (String × Json))
deriving Repr

namespace Json

def ofNat (n : Nat) : Json := number n

/-- An option, with an explicit null for absence. -/
def ofOption {α : Type} (f : α → Json) : Option α → Json
  | none => null
  | some a => f a

-- ============================================================= numbers

/-- The decimal digits of a number, the last one first. -/
def digitsReversed (n : Nat) : List Nat :=
  if h : n < 10 then [n] else n % 10 :: digitsReversed (n / 10)
termination_by n
decreasing_by omega

/-- The byte of a decimal digit. -/
def digitByte (d : Nat) : UInt8 := UInt8.ofNat (0x30 + d)

/-- A number without sign, as bytes. -/
def natBytes (n : Nat) : Payload :=
  ((digitsReversed n).map digitByte).reverse

/-- A number, as bytes. -/
def intBytes : Int → Payload
  | .ofNat n => natBytes n
  | .negSucc n => 0x2d :: natBytes (n + 1)

-- =============================================================== texts

/-- The lower-case digit of a number below sixteen, as a byte. -/
def hexByte (d : Nat) : UInt8 :=
  if d < 10 then UInt8.ofNat (0x30 + d) else UInt8.ofNat (0x61 + (d - 10))

/-- The letter that escapes a character, where there is one. -/
def escapeLetter? (c : Char) : Option UInt8 :=
  if c == '"' then some 0x22
  else if c == '\\' then some 0x5c
  else if c == '\x08' then some 0x62
  else if c == '\x0c' then some 0x66
  else if c == '\n' then some 0x6e
  else if c == '\r' then some 0x72
  else if c == '\t' then some 0x74
  else none

/-- A character between quotes. -/
def charBytes (c : Char) : Payload :=
  match escapeLetter? c with
  | some letter => [0x5c, letter]
  | none =>
      if c.toNat < 0x20 then
        [0x5c, 0x75, 0x30, 0x30, hexByte (c.toNat / 16), hexByte (c.toNat % 16)]
      else String.utf8EncodeChar c

/-- A text in quotes, as bytes. -/
def textBytes (s : String) : Payload :=
  0x22 :: s.toList.flatMap charBytes ++ [0x22]

-- ============================================================== values

mutual

/-- The compact written form of a value. -/
def bytes : Json → Payload
  | null => [0x6e, 0x75, 0x6c, 0x6c]
  | bool true => [0x74, 0x72, 0x75, 0x65]
  | bool false => [0x66, 0x61, 0x6c, 0x73, 0x65]
  | number n => intBytes n
  | text s => textBytes s
  | array items => 0x5b :: itemsBytes items ++ [0x5d]
  | object members => 0x7b :: membersBytes members ++ [0x7d]

/-- The items of an array, with commas between them. -/
def itemsBytes : List Json → Payload
  | [] => []
  | [item] => item.bytes
  | item :: next :: rest => item.bytes ++ 0x2c :: itemsBytes (next :: rest)

/-- The members of an object, with commas between them. -/
def membersBytes : List (String × Json) → Payload
  | [] => []
  | [(key, value)] => textBytes key ++ 0x3a :: value.bytes
  | (key, value) :: next :: rest =>
      textBytes key ++ 0x3a :: value.bytes ++ 0x2c :: membersBytes (next :: rest)

end

end Json

end PluginRpc
