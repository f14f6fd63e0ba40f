/-
Quoted texts.

A text between double quotes has escapes, one between single quotes has
none. Either may be quoted three times on each side: then it may have
several lines, a line break right behind the opening quotes does not
count, and up to two of its own quotes may stand before the closing
ones. In such a text with escapes a backslash at the end of a line joins
it with what comes after the blanks and line breaks that follow.

A line break of two characters counts as one of one character. Control
characters other than the tab stand in no text.
-/
import PluginRpc.Toml.Quantity

namespace PluginRpc.Toml

-- ============================================================ characters

def isBlank (c : Char) : Bool := c == ' ' || c == '\t'

/-- The characters that may stand for themselves within a line. -/
def isPlain (c : Char) : Bool :=
  c == '\t' || (0x20 ≤ c.toNat && c.toNat != 0x7f)

def doubleQuote : Char := '"'

def singleQuote : Char := '\x27'

/-- What comes after a line break. -/
def newline? : List Char → Option (List Char)
  | '\n' :: rest => some rest
  | '\r' :: '\n' :: rest => some rest
  | _ => none

/-- What comes after blanks and line breaks. The fuel is the number of
characters. -/
def skipLines : Nat → List Char → List Char
  | 0, chars => chars
  | fuel + 1, chars =>
      let rest := chars.dropWhile isBlank
      match newline? rest with
      | some rest' => skipLines fuel rest'
      | none => rest

-- =============================================================== escapes

/-- The character of a number, if there is one. -/
def charOf? (n : Nat) : Option Char :=
  if n.isValidChar then some (Char.ofNat n) else none

/-- A character by so many digits in base sixteen. -/
def coded? (count : Nat) (chars : List Char) : Reading Char :=
  let digits := chars.take count
  if digits.length = count then
    ((digits.foldlM (fun n c => (digitIn? 16 c).map (n * 16 + ·)) 0).bind
      charOf?).map (·, chars.drop count)
  else none

/-- What stands behind a backslash. -/
def escaped? : List Char → Reading Char
  | [] => none
  | c :: rest =>
      match c with
      | 'b' => some ('\x08', rest)
      | 't' => some ('\t', rest)
      | 'n' => some ('\n', rest)
      | 'f' => some ('\x0c', rest)
      | 'r' => some ('\r', rest)
      | '"' => some ('"', rest)
      | '\\' => some ('\\', rest)
      | 'u' => coded? 4 rest
      | 'U' => coded? 8 rest
      | _ => none

/-- A backslash at the end of a line: what comes after the break and the
blanks and breaks behind it. -/
def joined? (chars : List Char) : Option (List Char) :=
  (newline? (chars.dropWhile isBlank)).map fun rest =>
    skipLines (rest.length + 1) rest

-- ================================================================= texts

/-- Puts a character in front of what has been read. -/
def front (c : Char) : List Char × List Char → List Char × List Char
  | (text, rest) => (c :: text, rest)

/-- The rest of a text of one line, up to its closing quote. The fuel is
the number of characters and one more. -/
def line? (quote : Char) : Nat → List Char → Reading (List Char)
  | 0, _ => none
  | _ + 1, [] => none
  | fuel + 1, c :: rest =>
      if c = quote then some ([], rest)
      else if c = '\\' ∧ quote = doubleQuote then
        match escaped? rest with
        | some (e, rest') => (line? quote fuel rest').map (front e)
        | none => none
      else if isPlain c then (line? quote fuel rest).map (front c)
      else none

/-- The rest of a text of several lines, up to its closing quotes. The
fuel is the number of characters and one more. -/
def lines? (quote : Char) : Nat → List Char → Reading (List Char)
  | 0, _ => none
  | fuel + 1, chars =>
      if chars.take 3 = [quote, quote, quote] then
        let rest := chars.drop 3
        let own := (rest.takeWhile (· = quote)).take 2
        some (own, rest.drop own.length)
      else
        match chars with
        | [] => none
        | '\r' :: '\n' :: rest => (lines? quote fuel rest).map (front '\n')
        | c :: rest =>
            if c = '\\' ∧ quote = doubleQuote then
              match joined? rest with
              | some rest' => lines? quote fuel rest'
              | none =>
                  match escaped? rest with
                  | some (e, rest') => (lines? quote fuel rest').map (front e)
                  | none => none
            else if c = '\n' ∨ isPlain c then
              (lines? quote fuel rest).map (front c)
            else none

/-- A quoted text of one line. -/
def quotedLine? : List Char → Reading String
  | [] => none
  | c :: rest =>
      if c = doubleQuote ∨ c = singleQuote then
        (line? c (rest.length + 1) rest).map fun (text, rest') =>
          (String.ofList text, rest')
      else none

/-- A quoted text. -/
def quoted? (chars : List Char) : Reading String :=
  match chars with
  | c :: d :: e :: rest =>
      if (c = doubleQuote ∨ c = singleQuote) ∧ d = c ∧ e = c then
        let body := (newline? rest).getD rest
        (lines? c (body.length + 1) body).map fun (text, rest') =>
          (String.ofList text, rest')
      else quotedLine? chars
  | _ => quotedLine? chars

end PluginRpc.Toml
