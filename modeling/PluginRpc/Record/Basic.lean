/-
Records: a row of slots, read and written by position, and an error.

A request and a response are one record each; a streaming call moves
whole records through a stream. A record with an error stands for a
failed result, whatever slots it still holds. `reset` takes both away, so
a record can be used again without anything of its former content
showing.

Everything a holder of a record can do to it is one of the edits of
`Record.Edit`; a sequence of edits is what a caller or a handler does to
a record over time.
-/
import PluginRpc.Scalar
import PluginRpc.Status

namespace PluginRpc

/-- A row of slots and, for a failed result, the error. -/
structure Record where
  slots : List Slot
  error : Option ErrorInfo
deriving DecidableEq, Repr

namespace Record

/-- A new record: no slots, no error. -/
def empty : Record := ⟨[], none⟩

/-- A failed result without slots. -/
def failed (e : ErrorInfo) : Record := ⟨[], some e⟩

/-- A successful result with the given slots. -/
def ofSlots (slots : List Slot) : Record := ⟨slots, none⟩

variable (r : Record)

def length : Nat := r.slots.length

def isEmpty : Bool := r.slots.isEmpty

def isFailed : Bool := r.error.isSome

/-- Adds a slot after the last one. -/
def append (slot : Slot) : Record := { r with slots := r.slots ++ [slot] }

/-- Marks the record as failed; an earlier error is replaced. -/
def setError (e : ErrorInfo) : Record := { r with error := some e }

/-- Equality of records: as many slots, equal slot by slot, and the same
error or none. -/
def equal (a b : Record) : Bool :=
  a.slots.length == b.slots.length
    && (a.slots.zip b.slots).all (fun (x, y) => Slot.equal x y)
    && a.error == b.error

-- ============================================================ the edits

/-- One thing that can be done to a record. -/
inductive Edit where
  /-- Add a slot after the last one. -/
  | append (slot : Slot)
  /-- Forget slots and error. -/
  | reset
  /-- Attach an error, replacing an earlier one. -/
  | setError (e : ErrorInfo)
  /-- Detach the error. -/
  | takeError
  /-- Replace the record by a failed one without slots. -/
  | fail (e : ErrorInfo)
deriving DecidableEq, Repr

/-- The record after an edit. -/
def apply (r : Record) : Edit → Record
  | .append slot => r.append slot
  | .reset => empty
  | .setError e => r.setError e
  | .takeError => { r with error := none }
  | .fail e => failed e

/-- The record after a sequence of edits. -/
def applyAll (r : Record) (edits : List Edit) : Record :=
  edits.foldl apply r

end Record

/-- The edit that writes a value of a known kind, or its absence. The
kind of an absent value is not kept: an empty slot is only empty. -/
def Record.Edit.write (k : ScalarKind) (value : Option k.Carrier) :
    Record.Edit :=
  .append (value.map (Scalar.ofCarrier k))

end PluginRpc
