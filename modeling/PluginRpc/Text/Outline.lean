/-
Outlines: the one-line text of a value for a person who debugs.

A value is outlined as a small tree of words, quoted texts, options,
lists and named records, and `render` is the only place that knows how
such a tree is spelled. So each type says what it shows of itself, and
none of them prints.
-/

namespace PluginRpc

/-- What is shown of a value. -/
inductive Outline where
  /-- A number, a truth value or a bare name. -/
  | word (text : String)
  /-- A text, shown in quotes. -/
  | quoted (text : String)
  | absent
  | present (value : Outline)
  | list (values : List Outline)
  /-- A record with named fields. `whole` is false if there are fields
  that are not shown. -/
  | fields (name : String) (shown : List (String × Outline)) (whole : Bool)
deriving Repr

namespace Outline

def ofBool (b : Bool) : Outline := word (if b then "true" else "false")

def ofNat (n : Nat) : Outline := word (toString n)

/-- An option, by the outline of its value. -/
def ofOption {α : Type} (show? : α → Outline) : Option α → Outline
  | none => absent
  | some a => present (show? a)

/-- A record all of whose fields are shown. -/
def record (name : String) (shown : List (String × Outline)) : Outline :=
  fields name shown true

-- ============================================================= spelling

/-- The digits of a number in base sixteen. -/
def hexadecimal (n : Nat) : String := String.ofList (Nat.toDigits 16 n)

/-- A character inside quotes: the quote, the backslash and the control
characters are escaped, all else stands for itself. -/
def quoteChar (c : Char) : String :=
  if c == '"' then "\\\""
  else if c == '\\' then "\\\\"
  else if c == '\n' then "\\n"
  else if c == '\r' then "\\r"
  else if c == '\t' then "\\t"
  else if c.toNat == 0 then "\\0"
  else if c.toNat < 0x20 || c.toNat == 0x7f then
    "\\u\x7b" ++ hexadecimal c.toNat ++ "\x7d"
  else c.toString

/-- A text in quotes. -/
def quote (text : String) : String :=
  "\"" ++ String.join (text.toList.map quoteChar) ++ "\""

mutual

/-- The text of an outline. -/
def render : Outline → String
  | word text => text
  | quoted text => quote text
  | absent => "None"
  | present value => "Some(" ++ value.render ++ ")"
  | list values => "[" ++ String.intercalate ", " (renderAll values) ++ "]"
  | fields name [] true => name
  | fields name shown whole =>
      let rest := if whole then [] else [".."]
      name ++ " \x7b " ++ String.intercalate ", " (renderFields shown ++ rest)
        ++ " \x7d"

/-- The texts of a list of outlines. -/
def renderAll : List Outline → List String
  | [] => []
  | o :: rest => o.render :: renderAll rest

/-- The texts of a list of fields. -/
def renderFields : List (String × Outline) → List String
  | [] => []
  | (name, o) :: rest => (name ++ ": " ++ o.render) :: renderFields rest

end

end Outline

end PluginRpc
