/-
Running the programs of a call.

`CallState` is everything a call can change: its response, the channel's
side, and the list of calls handed to the channel. A run ends by
returning, by a panic, or not at all: a push to a full stream that nobody
reads waits for ever, and the run has `stalled`.

During a call a response stream may have a reader of its own in another
thread. Such a reader takes records as they come; here it takes one
whenever a push would otherwise have to wait, which no party of the call
can tell from its being quicker.
-/
import PluginRpc.Call.Effect

namespace PluginRpc

-- ============================================================ responses

/-- Who reads a response stream while the call is under way. -/
inductive Attendance where
  /-- Nobody; the stream is read afterwards. -/
  | unattended
  /-- Another thread, which has taken these items so far. -/
  | attended (taken : List StreamItem)

/-- A response stream and its reader. -/
structure Outlet where
  stream : RecordStream
  attendance : Attendance

namespace Outlet

/-- Pushes a record, `none` if that waits for ever. -/
def push? (o : Outlet) (r : Record) : Option (Bool × Outlet) :=
  match o.stream.push r with
  | .accepted s => some (true, { o with stream := s })
  | .refused => some (false, o)
  | .waits =>
      match o.attendance, o.stream.tryNext with
      | .attended taken, .delivered first s =>
          match s.push r with
          | .accepted s' => some (true, ⟨s', .attended (taken ++ [first.toItem])⟩)
          | _ => none
      | _, _ => none

/-- Everything an attending reader has got once the call is over. -/
def allItems (o : Outlet) (now : Instant) : List StreamItem :=
  let rest := (o.stream.items now).1
  match o.attendance with
  | .unattended => rest
  | .attended taken => taken ++ rest

end Outlet

/-- Where the result of a call goes, with what is there. -/
inductive Response where
  | record (r : Record)
  | stream (o : Outlet)

namespace Response

def shape : Response → ResponseShape
  | record _ => .record
  | stream _ => .stream

/-- A stream that nobody reads during the call. -/
def ofStream (s : RecordStream) : Response := stream ⟨s, .unattended⟩

end Response

-- ================================================================= runs

/-- Everything a call can change. -/
structure CallState where
  response : Response
  line : Line
  /-- The calls handed to the channel, in order. -/
  dialled : List ChannelCall

/-- How a run ended. -/
inductive Outcome (α : Type) where
  | returned (a : α)
  | panicked (p : Panic)
  /-- It waits for ever. -/
  | stalled
deriving Repr

namespace CallOp

/-- An operation on a response stream; on a record it does nothing. -/
def onStream (st : CallState) (f : RecordStream → RecordStream) :
    CallState :=
  match st.response with
  | .record _ => st
  | .stream o => { st with response := .stream { o with stream := f o.stream } }

/-- An operation of a call, `none` if it waits for ever. -/
def run? (st : CallState) : (op : CallOp) → Option (op.Answer × CallState)
  | .wire op =>
      let (answer, l) := op.run st.line
      some (answer, { st with line := l })
  | .inspect =>
      match st.response with
      | .record r => some (some r, st)
      | .stream _ => some (none, st)
  | .edit e =>
      match st.response with
      | .record r => some ((), { st with response := .record (r.apply e) })
      | .stream _ => some ((), st)
  | .push r =>
      match st.response with
      | .record _ => some (false, st)
      | .stream o =>
          (o.push? r).map fun (accepted, o') =>
            (accepted, { st with response := .stream o' })
  | .endStream => some ((), onStream st (·.endStream))
  | .close => some ((), onStream st (·.close))
  | .transfer =>
      match st.response with
      | .record _ => some (RecordStream.unbounded.close, st)
      | .stream o =>
          some (o.stream.transfer.1, onStream st fun s => s.transfer.2)
  | .dial c => some ((), { st with dialled := st.dialled ++ [c] })

end CallOp

/-- Runs a program of a call. -/
def CallProgram.run {α : Type} (st : CallState) :
    Program call α → Outcome α × CallState
  | .done a => (.returned a, st)
  | .panic p => (.panicked p, st)
  | .perform op next =>
      match CallOp.run? st op with
      | none => (.stalled, st)
      | some (answer, st') => run st' (next answer)

end PluginRpc
