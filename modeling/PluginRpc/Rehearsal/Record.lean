/-
Records, edited and read from a script.
-/
import PluginRpc.Record.Cursor

namespace PluginRpc.Rehearsal

/-- Something done with a record. -/
inductive RecordStep where
  | edit (e : Record.Edit)
  /-- Detach the error and look at it. -/
  | takeError
  | compare (other : Record)
  /-- Compare the record with itself. -/
  | compareSelf
  /-- Read it from the front. -/
  | read (steps : List Cursor.Step)

/-- What a step shows. -/
inductive RecordSeen where
  | nothing
  | error (e : Option ErrorInfo)
  | same (same : Bool)
  | read (seen : List (Cursor.Seen × Nat × Nat))

/-- One step. -/
def RecordStep.run (r : Record) : RecordStep → RecordSeen × Record
  | edit e => (.nothing, r.apply e)
  | takeError => (.error r.error, r.apply .takeError)
  | compare other => (.same (r.equal other), r)
  | compareSelf => (.same (r.equal r), r)
  | read steps => (.read (r.cursor.steps steps), r)

/-- A sequence of steps: what each shows and the record after it. -/
def runRecordSteps (r : Record) : List RecordStep → List (RecordSeen × Record)
  | [] => []
  | step :: rest =>
      let (seen, r') := step.run r
      (seen, r') :: runRecordSteps r' rest

end PluginRpc.Rehearsal
