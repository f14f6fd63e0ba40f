/-
The meaning of what is written.

A text means the characters it encodes once its escapes are resolved; it
means nothing if an escape stands for half of a surrogate pair or if the
bytes encode no characters. A whole number is a sign and digits; minus
zero is no whole number, and neither is anything with a fraction or an
exponent, whatever its value.

A message with named fields is written as an object, in which other
members are ignored and none of the fields may come twice, or as an array
of exactly its fields in their order. `fields?` brings both to one form.
-/
import PluginRpc.Json.Lexed

namespace PluginRpc.Lexed

-- =============================================================== texts

/-- The value of a hexadecimal digit. -/
def hexValue (b : UInt8) : Nat :=
  if isDigit b then b.toNat - 0x30
  else if 0x61 ≤ b then b.toNat - 0x61 + 10
  else b.toNat - 0x41 + 10

/-- The value of four hexadecimal digits. -/
def hexUnit (a b c d : UInt8) : Nat :=
  hexValue a * 4096 + hexValue b * 256 + hexValue c * 16 + hexValue d

/-- The first half of a surrogate pair. -/
def isHighHalf (unit : Nat) : Bool := 0xd800 ≤ unit && unit < 0xdc00

/-- The second half of a surrogate pair. -/
def isLowHalf (unit : Nat) : Bool := 0xdc00 ≤ unit && unit < 0xe000

/-- The byte that a letter behind a backslash stands for. -/
def letterByte (e : UInt8) : UInt8 :=
  if e == 0x62 then 0x08
  else if e == 0x66 then 0x0c
  else if e == 0x6e then 0x0a
  else if e == 0x72 then 0x0d
  else if e == 0x74 then 0x09
  else e

/-- The bytes between the quotes with their escapes resolved. -/
def resolve? : Payload → Option Payload
  | [] => some []
  | 0x5c :: 0x75 :: a :: b :: c :: d :: rest =>
      let unit := hexUnit a b c d
      if isLowHalf unit then none
      else if isHighHalf unit then
        match rest with
        | 0x5c :: 0x75 :: a' :: b' :: c' :: d' :: rest' =>
            let low := hexUnit a' b' c' d'
            if isLowHalf low then
              (resolve? rest').map (String.utf8EncodeChar (Char.ofNat
                (0x10000 + (unit - 0xd800) * 0x400 + (low - 0xdc00))) ++ ·)
            else none
        | _ => none
      else (resolve? rest).map (String.utf8EncodeChar (Char.ofNat unit) ++ ·)
  | 0x5c :: e :: rest => (resolve? rest).map (letterByte e :: ·)
  | b :: rest => (resolve? rest).map (b :: ·)

/-- The characters that stand between quotes. -/
def characters? (body : Payload) : Option String :=
  (resolve? body).bind Payload.text?

/-- The text that a value is. -/
def text? : Lexed → Option String
  | text body => characters? body
  | _ => none

-- ============================================================= numbers

/-- The value of decimal digits. -/
def digitsValue (digits : Payload) : Nat :=
  digits.foldl (fun n d => n * 10 + (d.toNat - 0x30)) 0

/-- The whole number that a value is. -/
def int? : Lexed → Option Int
  | number (0x2d :: digits) =>
      if digits.all isDigit && digitsValue digits != 0 then
        some (-(digitsValue digits : Int))
      else none
  | number digits =>
      if digits.all isDigit then some (digitsValue digits) else none
  | _ => none

/-- The whole number that a value is, if it lies in a range. -/
def intWithin? (low high : Int) (v : Lexed) : Option Int :=
  match v.int? with
  | some n => if low ≤ n && n ≤ high then some n else none
  | none => none

def int32? (v : Lexed) : Option Int32 :=
  (v.intWithin? Int32.minValue.toInt Int32.maxValue.toInt).map Int32.ofInt

def int64? (v : Lexed) : Option Int64 :=
  (v.intWithin? Int64.minValue.toInt Int64.maxValue.toInt).map Int64.ofInt

def uint32? (v : Lexed) : Option UInt32 :=
  (v.intWithin? 0 (UInt32.size - 1)).map fun n => UInt32.ofNat n.toNat

-- ============================================================== fields

/-- Members with the characters of their keys. -/
def keyed? : List (Payload × Lexed) → Option (List (String × Lexed))
  | [] => some []
  | (key, value) :: rest => do
      let name ← characters? key
      let others ← keyed? rest
      return (name, value) :: others

/-- The member of a name, absent if there is none; there must not be
two. -/
def field? (members : List (String × Lexed)) (name : String) :
    Option (Option Lexed) :=
  match members.filter fun m => m.1 == name with
  | [] => some none
  | [(_, value)] => some (some value)
  | _ => none

/-- The fields of a message, in order, absent ones marked; nothing if the
value is no such message. -/
def fields? (names : List String) : Lexed → Option (List (Option Lexed))
  | object members => do
      let members ← keyed? members
      names.mapM (field? members)
  | array items =>
      if items.length == names.length then some (items.map some) else none
  | _ => none

end PluginRpc.Lexed
