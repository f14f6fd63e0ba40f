/-
Numbers and points in time, as they are written.

What is asked here is only whether a number or a point in time stands at
the head of some characters, and what comes after it. A whole number is
decimal with an optional sign, or has a mark for its base, and is less
than two to the sixty-third; single underscores may stand between digits.
A number that is not whole has a fraction, an exponent or both, or is one
of the named ones; above, it has to be near a number of double precision.
A point in time is a date, a time of day, or both,
then perhaps with an offset, and has to exist in the calendar.
-/

namespace PluginRpc.Toml

/-- What has been read, and what comes after it. -/
abbrev Reading (α : Type) := Option (α × List Char)

-- ============================================================== digits

/-- The value of a digit in a base. -/
def digitIn? (base : Nat) (c : Char) : Option Nat :=
  let value :=
    if c.isDigit then some (c.toNat - '0'.toNat)
    else if 'a' ≤ c ∧ c ≤ 'f' then some (c.toNat - 'a'.toNat + 10)
    else if 'A' ≤ c ∧ c ≤ 'F' then some (c.toNat - 'A'.toNat + 10)
    else none
  value.filter (· < base)

/-- Digits of a base with single underscores between them, behind a
digit. -/
def moreDigits (base : Nat) : List Char → List Nat × List Char
  | '_' :: c :: rest =>
      match digitIn? base c with
      | some d =>
          let (digits, rest') := moreDigits base rest
          (d :: digits, rest')
      | none => ([], '_' :: c :: rest)
  | c :: rest =>
      match digitIn? base c with
      | some d =>
          let (digits, rest') := moreDigits base rest
          (d :: digits, rest')
      | none => ([], c :: rest)
  | [] => ([], [])

/-- One digit or more. -/
def digits? (base : Nat) : List Char → Reading (List Nat)
  | [] => none
  | c :: rest => (digitIn? base c).map fun d =>
      let (digits, rest') := moreDigits base rest
      (d :: digits, rest')

/-- The number that digits of a base are. -/
def numberOf (base : Nat) (digits : List Nat) : Nat :=
  digits.foldl (fun n d => n * base + d) 0

/-- Exactly so many digits, without anything between them. -/
def exactly? (count : Nat) (chars : List Char) : Reading Nat :=
  let digits := chars.take count
  if digits.length = count then
    (digits.foldlM (fun n c => (digitIn? 10 c).map (n * 10 + ·)) 0).map
      (·, chars.drop count)
  else none

-- ============================================================== numbers

/-- What comes after a sign, if there is one. -/
def skipSign : List Char → List Char
  | '+' :: rest => rest
  | '-' :: rest => rest
  | chars => chars

/-- Decimal digits that do not begin with a zero, or a zero. -/
def whole? : List Char → Reading (List Nat)
  | '0' :: rest => some ([0], rest)
  | chars => digits? 10 chars

/-- The digits of a fraction, if there is one. A point alone is no
fraction. -/
def fraction (chars : List Char) : List Nat × List Char :=
  match chars with
  | '.' :: rest => (digits? 10 rest).getD ([], chars)
  | _ => ([], chars)

/-- An exponent, if there is one. -/
def exponent (chars : List Char) : Option Int × List Char :=
  match chars with
  | c :: rest =>
      if c = 'e' ∨ c = 'E' then
        match digits? 10 (skipSign rest) with
        | some (digits, rest') =>
            let size : Int := numberOf 10 digits
            (some (if rest.head? = some '-' then -size else size), rest')
        | none => (none, chars)
      else (none, chars)
  | [] => (none, chars)

/-- One more than the largest whole number. -/
def wholeLimit : Nat := Nat.pow 2 63

/-- The least number that is no longer rounded to one of 53 binary digits
and an exponent below 1024: it lies in the middle between the largest of
them and the power of two above it. -/
def roundingLimit : Nat := (Nat.pow 2 54 - 1) * Nat.pow 2 970

/-- Whether decimal digits, scaled by a power of ten, are less than the
rounding limit. The limit has 309 digits, so it is only for a number of
as many that they have to be compared. -/
def isRoundable (digits : List Nat) (scale : Int) : Bool :=
  let digits := digits.dropWhile (· == 0)
  let length : Int := digits.length + scale
  if digits.isEmpty || length < 309 then true
  else if 309 < length then false
  else
    numberOf 10 digits * Nat.pow 10 scale.toNat
      < roundingLimit * Nat.pow 10 (-scale).toNat

/-- What comes after a whole number in a base. -/
def based? (base : Nat) (chars : List Char) : Option (List Char) :=
  match digits? base chars with
  | some (digits, rest) =>
      if numberOf base digits < wholeLimit then some rest else none
  | none => none

/-- What comes after a decimal number. The least whole number is one
further from zero than the greatest. Of the others, those without a minus
sign must not be too large to be rounded; below there is no limit. -/
def decimal? (chars : List Char) : Option (List Char) :=
  match whole? (skipSign chars) with
  | none => none
  | some (whole, rest) =>
      let (fraction, rest) := fraction rest
      let (exponent, rest) := exponent rest
      let negative := chars.head? = some '-'
      if fraction.isEmpty && exponent.isNone then
        let limit := if negative then wholeLimit + 1 else wholeLimit
        if numberOf 10 whole < limit then some rest else none
      else
        let scale := exponent.getD 0 - fraction.length
        if negative || isRoundable (whole ++ fraction) scale then some rest
        else none

/-- What comes after a number. -/
def number? (chars : List Char) : Option (List Char) :=
  match chars with
  | '0' :: 'x' :: rest => based? 16 rest
  | '0' :: 'o' :: rest => based? 8 rest
  | '0' :: 'b' :: rest => based? 2 rest
  | _ =>
      match skipSign chars with
      | 'i' :: 'n' :: 'f' :: rest => some rest
      | 'n' :: 'a' :: 'n' :: rest => some rest
      | _ => decimal? chars

-- ======================================================= points in time

/-- How many days a month has. -/
def daysIn (year month : Nat) : Nat :=
  if month = 2 then
    if year % 4 = 0 ∧ (year % 100 ≠ 0 ∨ year % 400 = 0) then 29 else 28
  else if month = 4 ∨ month = 6 ∨ month = 9 ∨ month = 11 then 30
  else 31

/-- What comes after a given character. -/
def after? (c : Char) : List Char → Option (List Char)
  | [] => none
  | d :: rest => if d = c then some rest else none

/-- What comes after a date. -/
def date? (chars : List Char) : Option (List Char) := do
  let (year, rest) ← exactly? 4 chars
  let rest ← after? '-' rest
  let (month, rest) ← exactly? 2 rest
  let rest ← after? '-' rest
  let (day, rest) ← exactly? 2 rest
  if 1 ≤ month ∧ month ≤ 12 ∧ 1 ≤ day ∧ day ≤ daysIn year month then rest
  else none

/-- What comes after hours and minutes. -/
def clock? (chars : List Char) : Option (List Char) := do
  let (hour, rest) ← exactly? 2 chars
  let rest ← after? ':' rest
  let (minute, rest) ← exactly? 2 rest
  if hour < 24 ∧ minute < 60 then rest else none

/-- What comes after a time of day. A minute may have a leap second. -/
def time? (chars : List Char) : Option (List Char) := do
  let rest ← clock? chars
  let rest ← after? ':' rest
  let (second, rest) ← exactly? 2 rest
  if 60 < second then none
  else
    match rest with
    | '.' :: c :: more =>
        if c.isDigit then more.dropWhile Char.isDigit else rest
    | _ => rest

/-- What comes after an offset, if there is one. -/
def skipOffset (chars : List Char) : List Char :=
  match chars with
  | 'Z' :: rest => rest
  | 'z' :: rest => rest
  | '+' :: rest => (clock? rest).getD chars
  | '-' :: rest => (clock? rest).getD chars
  | _ => chars

/-- What comes after a point in time. -/
def moment? (chars : List Char) : Option (List Char) :=
  match date? chars with
  | none => time? chars
  | some rest =>
      match rest with
      | c :: more =>
          if c = 'T' ∨ c = 't' ∨ c = ' ' then
            match time? more with
            | some rest' => some (skipOffset rest')
            | none => some rest
          else some rest
      | [] => some rest

/-- Whether the characters begin as a point in time does: four digits and
a dash, or two digits and a colon. -/
def beginsMoment (chars : List Char) : Bool :=
  ((exactly? 4 chars).bind fun r => after? '-' r.2).isSome
    || ((exactly? 2 chars).bind fun r => after? ':' r.2).isSome

/-- What comes after a number or a point in time. -/
def quantity? (chars : List Char) : Option (List Char) :=
  if beginsMoment chars then moment? chars else number? chars

end PluginRpc.Toml
