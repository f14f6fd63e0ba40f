/-
Reading a record from the front.

A cursor is the number of slots already consumed and the slots still to
come. Every consuming step takes exactly one slot as long as there is
one, whether or not it holds what was asked for, so a reader that meets
an absent or a mismatched slot stays aligned with the columns behind it.
At the end nothing moves any more. Because the slots to come are the
state itself, a step on a copy of a cursor cannot move the cursor it was
copied from.
-/
import PluginRpc.Record.Basic

namespace PluginRpc

/-- A position in a row of slots. -/
structure Cursor where
  /-- How many slots have been consumed. -/
  position : Nat
  /-- The slots still to come. -/
  rest : List Slot
deriving DecidableEq, Repr

namespace Cursor

/-- The cursor in front of the first slot. -/
def start (slots : List Slot) : Cursor := ⟨0, slots⟩

variable (c : Cursor)

/-- How many slots are still to come. -/
def remaining : Nat := c.rest.length

def hasNext : Bool := !c.rest.isEmpty

/-- Consumes a slot; `none` at the end. -/
def next? : Option (Slot × Cursor) :=
  match c.rest with
  | [] => none
  | slot :: rest => some (slot, ⟨c.position + 1, rest⟩)

/-- The cursor behind the next slot, or where it is at the end. -/
def advance : Cursor := (c.next?.map Prod.snd).getD c

/-- Consumes a slot and yields its value if it is of the kind asked
for. -/
def fetch (k : ScalarKind) : Option k.Carrier × Cursor :=
  match c.next? with
  | none => (none, c)
  | some (slot, c') => (slot.get? k, c')

/-- The kind of the next slot, which stays where it is: `none` at the
end, `some none` for an absent slot. -/
def peekKind? : Option (Option ScalarKind) :=
  c.rest.head?.map (·.map Scalar.kind)

-- ============================================================ the steps

/-- One thing a reader can do. -/
inductive Step where
  /-- Consume a slot, expecting a kind. -/
  | fetch (k : ScalarKind)
  /-- Consume a slot, whatever it is. -/
  | next
  /-- Look at the kind of the next slot. -/
  | peekKind
  /-- Ask whether there is a next slot. -/
  | hasNext
  /-- Do other steps on a copy of the cursor. -/
  | fork (steps : List Step)

/-- What a step yields. -/
inductive Seen where
  /-- A value of the kind asked for, or its absence. -/
  | value (slot : Slot)
  /-- The next slot, or the end. -/
  | slot (slot : Option Slot)
  /-- The kind of the next slot, or the end. -/
  | kind (kind : Option (Option ScalarKind))
  /-- Whether there is a next slot. -/
  | more (more : Bool)
  /-- What the steps on a copy yielded, each with the position and the
  number of slots to come after it. -/
  | forked (seen : List (Seen × Nat × Nat))

mutual

/-- What a step yields, and the cursor after it. -/
def step (c : Cursor) : Step → Seen × Cursor
  | .fetch k =>
      let (value, c') := c.fetch k
      (.value (value.map (Scalar.ofCarrier k)), c')
  | .next => (.slot (c.next?.map Prod.fst), c.advance)
  | .peekKind => (.kind c.peekKind?, c)
  | .hasNext => (.more c.hasNext, c)
  | .fork steps => (.forked (c.steps steps), c)

/-- What a sequence of steps yields. -/
def steps (c : Cursor) : List Step → List (Seen × Nat × Nat)
  | [] => []
  | s :: rest =>
      let (seen, c') := c.step s
      (seen, c'.position, c'.remaining) :: c'.steps rest

end

end Cursor

/-- A cursor in front of the first slot of a record. -/
def Record.cursor (r : Record) : Cursor := .start r.slots

end PluginRpc
