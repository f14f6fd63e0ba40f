/-
Small maps whose keys are kept in order.

The entries of a map are listed by ascending key, each key once, so the
listing of a map is its order of display, and two maps with the same
entries are the same map however they were filled.
-/

namespace PluginRpc

/-- Entries by ascending key. -/
structure OrderedMap (κ α : Type) where
  entries : List (κ × α)

namespace OrderedMap

variable {κ α : Type} (order : κ → κ → Ordering)

def empty : OrderedMap κ α := ⟨[]⟩

/-- An entry in its place; an entry of the same key gives way. -/
def insertEntry (key : κ) (value : α) :
    List (κ × α) → List (κ × α)
  | [] => [(key, value)]
  | (k, v) :: rest =>
      match order key k with
      | .lt => (key, value) :: (k, v) :: rest
      | .eq => (key, value) :: rest
      | .gt => (k, v) :: insertEntry key value rest

def insert (m : OrderedMap κ α) (key : κ) (value : α) : OrderedMap κ α :=
  ⟨insertEntry order key value m.entries⟩

/-- The value of a key. -/
def get? (m : OrderedMap κ α) (key : κ) : Option α :=
  (m.entries.find? fun e => order key e.1 == .eq).map Prod.snd

def contains (m : OrderedMap κ α) (key : κ) : Bool := (m.get? order key).isSome

def size (m : OrderedMap κ α) : Nat := m.entries.length

/-- The keys in ascending order. -/
def keys (m : OrderedMap κ α) : List κ := m.entries.map Prod.fst

end OrderedMap

end PluginRpc
