/-
Structured values as they are written.

Reading goes in two steps. The first, here, checks that the bytes are one
structured value and builds its tree, in which texts and numbers are kept
as they are written: a text without its quotes but with its escapes, a
number as its characters. What a text or a number means is asked only
where somebody wants it (`Json/Decode`), so parts that nobody reads need
not mean anything: a text there may hold bytes that encode no character
and halves of surrogate pairs, and a number may be out of any range.

The fuel of the reader is more than twice the number of bytes; of two
steps at least one takes a byte, so it never runs out.
-/
import PluginRpc.Text.Bytes

namespace PluginRpc

/-- A structured value, as written. -/
inductive Lexed where
  | null
  | bool (b : Bool)
  /-- The characters of a number. -/
  | number (characters : Payload)
  /-- What stands between the quotes. -/
  | text (body : Payload)
  | array (items : List Lexed)
  | object (members : List (Payload × Lexed))
deriving Repr

namespace Lexed

-- ============================================================== blanks

def isBlank (b : UInt8) : Bool :=
  b == 0x20 || b == 0x09 || b == 0x0a || b == 0x0d

/-- What comes after blanks. -/
def skip (bytes : Payload) : Payload := bytes.dropWhile isBlank

-- =============================================================== texts

def isDigit (b : UInt8) : Bool := 0x30 ≤ b && b ≤ 0x39

def isHexDigit (b : UInt8) : Bool :=
  isDigit b || (0x41 ≤ b && b ≤ 0x46) || (0x61 ≤ b && b ≤ 0x66)

/-- The letters that may follow a backslash, the four-digit escape
apart. -/
def isEscapeLetter (b : UInt8) : Bool :=
  b == 0x22 || b == 0x5c || b == 0x2f || b == 0x62 || b == 0x66
    || b == 0x6e || b == 0x72 || b == 0x74

/-- Puts bytes in front of what has been read. -/
def behind (lead : Payload) : Payload × Payload → Payload × Payload
  | (body, rest) => (lead ++ body, rest)

/-- What stands before the closing quote, and what comes after it. -/
def body? : Payload → Option (Payload × Payload)
  | [] => none
  | 0x22 :: rest => some ([], rest)
  | 0x5c :: 0x75 :: a :: b :: c :: d :: rest =>
      if isHexDigit a && isHexDigit b && isHexDigit c && isHexDigit d then
        (body? rest).map (behind [0x5c, 0x75, a, b, c, d])
      else none
  | 0x5c :: e :: rest =>
      if isEscapeLetter e then (body? rest).map (behind [0x5c, e]) else none
  | b :: rest =>
      if b < 0x20 || b == 0x5c then none else (body? rest).map (behind [b])

-- ============================================================= numbers

/-- The characters of which numbers are made. -/
def isNumberByte (b : UInt8) : Bool :=
  isDigit b || b == 0x2d || b == 0x2b || b == 0x2e || b == 0x65 || b == 0x45

/-- One digit or more, and what comes after them. -/
def digits? (bytes : Payload) : Option Payload :=
  if (bytes.takeWhile isDigit).isEmpty then none
  else some (bytes.dropWhile isDigit)

/-- A whole number: a zero, or digits that do not begin with one. -/
def whole? : Payload → Option Payload
  | 0x30 :: rest => some rest
  | bytes => digits? bytes

/-- A fraction, if there is one. -/
def fraction? : Payload → Option Payload
  | 0x2e :: rest => digits? rest
  | bytes => some bytes

/-- An exponent, if there is one. -/
def exponent? : Payload → Option Payload
  | b :: rest =>
      if b == 0x65 || b == 0x45 then
        match rest with
        | sign :: rest' =>
            if sign == 0x2b || sign == 0x2d then digits? rest' else digits? rest
        | [] => none
      else some (b :: rest)
  | [] => some []

/-- Whether the characters are those of one number. -/
def isNumber (characters : Payload) : Bool :=
  let unsigned := match characters with
    | 0x2d :: rest => rest
    | bytes => bytes
  ((whole? unsigned).bind fraction?).bind exponent? == some []

-- ============================================================== values

mutual

/-- One value at the head of the bytes, and what comes after it. -/
def value? (fuel : Nat) (bytes : Payload) : Option (Lexed × Payload) :=
  match fuel with
  | 0 => none
  | fuel + 1 =>
    match skip bytes with
    | [] => none
    | 0x6e :: 0x75 :: 0x6c :: 0x6c :: rest => some (null, rest)
    | 0x74 :: 0x72 :: 0x75 :: 0x65 :: rest => some (bool true, rest)
    | 0x66 :: 0x61 :: 0x6c :: 0x73 :: 0x65 :: rest => some (bool false, rest)
    | 0x22 :: rest => (body? rest).map fun (body, rest) => (text body, rest)
    | 0x5b :: rest =>
        match skip rest with
        | 0x5d :: rest => some (array [], rest)
        | rest => (items? fuel rest).map fun (items, rest) => (array items, rest)
    | 0x7b :: rest =>
        match skip rest with
        | 0x7d :: rest => some (object [], rest)
        | rest =>
            (members? fuel rest).map fun (members, rest) => (object members, rest)
    | b :: rest =>
        let characters := (b :: rest).takeWhile isNumberByte
        if isNumber characters then
          some (number characters, (b :: rest).dropWhile isNumberByte)
        else none

/-- Items up to the end of an array. -/
def items? (fuel : Nat) (bytes : Payload) : Option (List Lexed × Payload) :=
  match fuel with
  | 0 => none
  | fuel + 1 =>
    match value? fuel bytes with
    | none => none
    | some (item, rest) =>
      match skip rest with
      | 0x2c :: rest =>
          (items? fuel rest).map fun (items, rest) => (item :: items, rest)
      | 0x5d :: rest => some ([item], rest)
      | _ => none

/-- Members up to the end of an object. -/
def members? (fuel : Nat) (bytes : Payload) :
    Option (List (Payload × Lexed) × Payload) :=
  match fuel with
  | 0 => none
  | fuel + 1 =>
    match skip bytes with
    | 0x22 :: rest =>
      match body? rest with
      | none => none
      | some (key, rest) =>
        match skip rest with
        | 0x3a :: rest =>
          match value? fuel rest with
          | none => none
          | some (value, rest) =>
            match skip rest with
            | 0x2c :: rest =>
                (members? fuel rest).map fun (members, rest) =>
                  ((key, value) :: members, rest)
            | 0x7d :: rest => some ([(key, value)], rest)
            | _ => none
        | _ => none
    | _ => none

end

/-- The value that the bytes are, blanks around it allowed. -/
def ofBytes? (bytes : Payload) : Option Lexed :=
  match value? (2 * bytes.length + 2) bytes with
  | some (value, rest) => if (skip rest).isEmpty then some value else none
  | none => none

end Lexed

end PluginRpc
