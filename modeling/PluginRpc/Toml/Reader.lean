/-
Reading a document.

A document is lines: empty ones, headers in brackets, and pairs of a key
and a value; each may end in a comment. Keys are bare words or quoted
texts with dots between them. Arrays may run over several lines and have
comments in them; inline tables have neither.

Brackets do not nest deeper than a limit, and neither do dotted keys, so
what is read is never deeper than whoever takes it apart can follow.

The fuel of the reader is more than twice the number of characters; of
two steps at least one takes a character, so it never runs out.
-/
import PluginRpc.Toml.Draft
import PluginRpc.Toml.Quoted

namespace PluginRpc.Toml

/-- Brackets nest less deep than this, and a dotted key has fewer
parts. -/
def nestingLimit : Nat := 80

-- =========================================================== the margins

/-- What comes after a comment, if there is one. -/
def skipComment : List Char → List Char
  | '#' :: rest => rest.dropWhile isPlain
  | chars => chars

/-- What comes after the end of a line. -/
def lineEnd? (chars : List Char) : Option (List Char) :=
  match skipComment (chars.dropWhile isBlank) with
  | [] => some []
  | rest => newline? rest

/-- What comes after blanks, comments and line breaks. The fuel is the
number of characters. -/
def skipGap : Nat → List Char → List Char
  | 0, chars => chars
  | fuel + 1, chars =>
      let rest := skipComment (chars.dropWhile isBlank)
      match newline? rest with
      | some rest' => skipGap fuel rest'
      | none => rest

/-- What comes after a gap between the items of an array. -/
def gap (chars : List Char) : List Char := skipGap (chars.length + 1) chars

-- ================================================================== keys

def isBare (c : Char) : Bool := c.isAlphanum || c == '-' || c == '_'

/-- A key without dots. -/
def simpleKey? (chars : List Char) : Reading String :=
  match chars with
  | [] => none
  | c :: _ =>
      if c = doubleQuote ∨ c = singleQuote then quotedLine? chars
      else
        match chars.takeWhile isBare with
        | [] => none
        | word => some (String.ofList word, chars.dropWhile isBare)

/-- The parts of a key, with blanks around them. The fuel is the number
of characters and one more. -/
def keyParts? : Nat → List Char → Reading (List String)
  | 0, _ => none
  | fuel + 1, chars =>
      match simpleKey? (chars.dropWhile isBlank) with
      | none => none
      | some (part, rest) =>
          match rest.dropWhile isBlank with
          | '.' :: rest' =>
              (keyParts? fuel rest').map fun (parts, rest) => (part :: parts, rest)
          | rest' => some ([part], rest')

/-- The last part of a key, and the parts that lead to it. -/
def leadAndLast? : List String → Option (List String × String)
  | [] => none
  | [part] => some ([], part)
  | part :: rest =>
      (leadAndLast? rest).map fun (lead, last) => (part :: lead, last)

/-- A key. -/
def key? (chars : List Char) :
    Option ((List String × String) × List Char) := do
  let (parts, rest) ← keyParts? (chars.length + 1) chars
  if parts.length < nestingLimit then
    let key ← leadAndLast? parts
    return (key, rest)
  else none

-- ================================================================ values

mutual

/-- One value at the head of the characters, within so many more brackets
at most. -/
def value? (fuel depth : Nat) (chars : List Char) : Reading Value :=
  match fuel with
  | 0 => none
  | fuel + 1 =>
    match chars with
    | [] => none
    | 't' :: 'r' :: 'u' :: 'e' :: rest => some (.boolean true, rest)
    | 'f' :: 'a' :: 'l' :: 's' :: 'e' :: rest => some (.boolean false, rest)
    | '[' :: rest =>
        match depth with
        | 0 => none
        | depth + 1 =>
            (items? fuel depth (gap rest)).map fun (items, rest') =>
              (.array items, rest')
    | '\x7b' :: rest =>
        match depth with
        | 0 => none
        | depth + 1 =>
            match rest.dropWhile isBlank with
            | '\x7d' :: rest' => some (.table [], rest')
            | rest' =>
                match pairs? fuel depth rest' with
                | none => none
                | some (pairs, rest'') =>
                    (Draft.ofPairs? pairs).map fun d =>
                      (.table (Draft.toMembers d), rest'')
    | c :: rest =>
        if c = doubleQuote ∨ c = singleQuote then
          (quoted? (c :: rest)).map fun (text, rest') => (.text text, rest')
        else (quantity? (c :: rest)).map (.quantity, ·)

/-- Items up to the end of an array; a comma may stand behind the
last. -/
def items? (fuel depth : Nat) (chars : List Char) : Reading (List Value) :=
  match fuel with
  | 0 => none
  | fuel + 1 =>
    match chars with
    | ']' :: rest => some ([], rest)
    | _ =>
      match value? fuel depth chars with
      | none => none
      | some (item, rest) =>
        match gap rest with
        | ',' :: rest' =>
            (items? fuel depth (gap rest')).map fun (items, rest'') =>
              (item :: items, rest'')
        | ']' :: rest' => some ([item], rest')
        | _ => none

/-- Pairs up to the end of an inline table. -/
def pairs? (fuel depth : Nat) (chars : List Char) :
    Reading (List ((List String × String) × Value)) :=
  match fuel with
  | 0 => none
  | fuel + 1 =>
    match key? chars with
    | none => none
    | some (key, rest) =>
      match rest with
      | '=' :: rest =>
        match value? fuel depth (rest.dropWhile isBlank) with
        | none => none
        | some (v, rest) =>
          match rest.dropWhile isBlank with
          | ',' :: rest' =>
              (pairs? fuel depth rest').map fun (pairs, rest'') =>
                ((key, v) :: pairs, rest'')
          | '\x7d' :: rest' => some ([(key, v)], rest')
          | _ => none
      | _ => none

end

-- ============================================================= documents

/-- A document that is being read: the open section, and all that has
been said. -/
structure Reader where
  opened : List String
  draft : Draft

namespace Reader

/-- One statement of a line that is not empty, and what comes after it on
the line. -/
def statement? (r : Reader) (chars : List Char) :
    Option (Reader × List Char) :=
  match chars with
  | '[' :: '[' :: rest => do
      let ((lead, key), rest) ← key? rest
      match rest with
      | ']' :: ']' :: rest =>
          let d ← r.draft.openAnother? lead key
          return (⟨lead ++ [key], d⟩, rest)
      | _ => none
  | '[' :: rest => do
      let ((lead, key), rest) ← key? rest
      match rest with
      | ']' :: rest =>
          let d ← r.draft.open? lead key
          return (⟨lead ++ [key], d⟩, rest)
      | _ => none
  | chars => do
      let ((lead, key), rest) ← key? chars
      match rest with
      | '=' :: rest =>
          let (v, rest) ← value? (2 * rest.length + 2) (nestingLimit - 1)
            (rest.dropWhile isBlank)
          let d ← r.draft.pair? r.opened lead key v
          return (⟨r.opened, d⟩, rest)
      | _ => none

/-- Lines up to the end. The fuel is the number of characters and one
more. -/
def lines? : Nat → Reader → List Char → Option Reader
  | 0, _, _ => none
  | fuel + 1, r, chars =>
      match chars.dropWhile isBlank with
      | [] => some r
      | rest =>
          match lineEnd? rest with
          | some rest' => lines? fuel r rest'
          | none =>
              match r.statement? rest with
              | none => none
              | some (r', rest') =>
                  match lineEnd? rest' with
                  | some rest'' => lines? fuel r' rest''
                  | none => none

end Reader

/-- What comes after a byte order mark, if there is one. -/
def skipOrderMark : List Char → List Char
  | '\uFEFF' :: rest => rest
  | chars => chars

/-- The document that a text is. -/
def document? (text : String) : Option Members :=
  let chars := skipOrderMark text.toList
  (Reader.lines? (chars.length + 1) ⟨[], []⟩ chars).map fun r =>
    Draft.toMembers r.draft

end PluginRpc.Toml
