/-
Documents of sections, keys and values.

A document is a table: members with distinct keys, in order of their
first mention. Nothing in this library has a use for numbers and for
points in time, so of such a value nothing is kept but that it is one.
-/

namespace PluginRpc.Toml

/-- A value. -/
inductive Value where
  | boolean (b : Bool)
  | text (s : String)
  /-- A number or a point in time. -/
  | quantity
  | array (items : List Value)
  | table (members : List (String × Value))
deriving Repr

/-- The members of a table. -/
abbrev Members := List (String × Value)

namespace Members

/-- The value of a key. -/
def find? (members : Members) (key : String) : Option Value :=
  List.lookup key members

/-- Whether every key is one of those that are known. -/
def areAmong (members : Members) (known : List String) : Bool :=
  members.all fun m => known.contains m.1

/-- A field of a record: the default if there is no such member, and
nothing if the member is not of the field's type. -/
def field? {α : Type} (members : Members) (key : String)
    (read : Value → Option α) (default : α) : Option α :=
  match members.find? key with
  | none => some default
  | some v => read v

end Members

namespace Value

def boolean? : Value → Option Bool
  | boolean b => some b
  | _ => none

def text? : Value → Option String
  | text s => some s
  | _ => none

/-- A text, for a field that may be without one. -/
def optionalText? (v : Value) : Option (Option String) := v.text?.map some

/-- A record, as members: a table, or an array of the fields from the
first one on. An array may be short, and what is too much in it is
ignored. -/
def members? (fields : List String) : Value → Option Members
  | table members => some members
  | array items => some (fields.zip items)
  | _ => none

end Value

end PluginRpc.Toml
