/-
Documents while they are being read.

A document is written statement by statement: a header opens a section,
and a pair gives a value to a key, which may be dotted. Tables come about
in three ways, and that decides what may still be said about them. A
table that a header has named is opened once. A table that a deeper
header merely implies may still be named. A table made by dotted keys is
extended by dotted keys only. A value, an inline table among them, is
closed.

So no statement can change what another one has said: whatever would, has
no result here.
-/
import PluginRpc.Toml.Value

namespace PluginRpc.Toml

/-- How a table has come about. -/
inductive Origin where
  /-- A header has named it, or it is the document. -/
  | named
  /-- A header has named a table below it. -/
  | implied
  /-- A dotted key has led through it. -/
  | dotted
deriving DecidableEq, Repr

/-- What a key stands for so far. -/
inductive Entry where
  | value (v : Value)
  | table (origin : Origin) (members : List (String × Entry))
  /-- Tables under one header, of which the last one is open. -/
  | tables (closed : List (List (String × Entry)))
      (last : List (String × Entry))

/-- The members of a table so far. -/
abbrev Draft := List (String × Entry)

namespace Draft

/-- Changes what a key stands for; a new key comes last. -/
def change? (key : String) (f : Option Entry → Option Entry) :
    Draft → Option Draft
  | [] => (f none).map fun e => [(key, e)]
  | (k, e) :: rest =>
      if k = key then (f (some e)).map fun e' => (k, e') :: rest
      else (change? key f rest).map ((k, e) :: ·)

/-- Goes down a path, makes tables of an origin where there are none, and
acts on the table at its end. Dotted keys do not lead through tables that
a header has named. -/
def descend? (made : Origin) (act : Origin → Draft → Option Draft) :
    List String → Origin → Draft → Option Draft
  | [], own, d => act own d
  | key :: rest, _, d =>
      d.change? key fun
        | none => (descend? made act rest made []).map (.table made)
        | some (.value _) => none
        | some (.tables closed last) =>
            (descend? made act rest .named last).map (.tables closed)
        | some (.table own members) =>
            if made = .dotted ∧ own = .named then none
            else (descend? made act rest own members).map (.table own)

/-- Gives a value to a key that has none. -/
def assign? (key : String) (v : Value) (d : Draft) : Option Draft :=
  d.change? key fun
    | none => some (.value v)
    | some _ => none

/-- Gives a value to a key, behind the keys that lead to it. They end in
a table that dotted keys have made. -/
def assignDotted? (lead : List String) (key : String) (v : Value) (d : Draft) :
    Option Draft :=
  descend? .dotted (fun own d =>
    if (own == .dotted) == lead.isEmpty then none else d.assign? key v)
    lead .named d

/-- A pair under the open section. -/
def pair? (opened lead : List String) (key : String)
    (v : Value) (d : Draft) : Option Draft :=
  descend? .implied (fun _ d => d.assignDotted? lead key v) opened .named d

/-- A header opens a section. -/
def open? (lead : List String) (key : String) (d : Draft) : Option Draft :=
  descend? .implied (fun _ d => d.change? key fun
    | none => some (.table .named [])
    | some (.table .implied members) => some (.table .named members)
    | some _ => none) lead .named d

/-- A header opens one more section of the same name. -/
def openAnother? (lead : List String) (key : String) (d : Draft) :
    Option Draft :=
  descend? .implied (fun _ d => d.change? key fun
    | none => some (.tables [] [])
    | some (.tables closed last) => some (.tables (closed ++ [last]) [])
    | some _ => none) lead .named d

end Draft

mutual

/-- What an entry comes to. -/
def Entry.toValue : Entry → Value
  | .value v => v
  | .table _ members => .table (Draft.toMembers members)
  | .tables closed last =>
      .array (Draft.toTables closed ++ [.table (Draft.toMembers last)])

/-- What the members of a table come to. -/
def Draft.toMembers : List (String × Entry) → Members
  | [] => []
  | (key, e) :: rest => (key, e.toValue) :: Draft.toMembers rest

/-- What several tables come to. -/
def Draft.toTables : List (List (String × Entry)) → List Value
  | [] => []
  | members :: rest => .table (Draft.toMembers members) :: Draft.toTables rest

end

/-- The table of an inline table's pairs. -/
def Draft.ofPairs? (pairs : List ((List String × String) × Value)) :
    Option Draft :=
  pairs.foldlM (fun d ((lead, key), v) => Draft.assignDotted? lead key v d) []

end PluginRpc.Toml
