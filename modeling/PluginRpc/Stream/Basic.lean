/-
Record streams: a queue of records with a life of three states.

A stream is `live` while records may be pushed, `ended` when no more
will come but buffered ones may still be taken, and `closed` when the
buffer has been thrown away too. It keeps a flag for each of the two
steps, and its state is read off them. The state only ever moves forward.
The end of a stream is seen by a reader only after every buffered record
has been taken, so delivery is exactly in push order.

A bounded stream holds at most its capacity. Every operation here is one
critical section: it says either what it did, or that the thread that
called it has to wait. What waiting means, and who wakes whom, is
`Stream/Waiting`.

A push on a stream that is no longer live is dropped, not an error: the
producer cannot always know that its reader has gone.
-/
import PluginRpc.Clock
import PluginRpc.Record.Basic
import PluginRpc.Text.Outline

namespace PluginRpc

-- ============================================================ the state

/-- Where a stream is in its life. -/
inductive StreamState where
  /-- Records may be pushed. -/
  | live
  /-- No more records will come; buffered ones may be taken. -/
  | ended
  /-- The buffer has been discarded or moved elsewhere. -/
  | closed
deriving DecidableEq, Repr

/-- A queue of records between a producer and a reader. -/
structure RecordStream where
  queue : List Record
  /-- How many records may be buffered; `none` for no bound. -/
  capacity : Option Nat
  /-- No more records will come. -/
  eos : Bool
  /-- The buffer has been discarded or moved elsewhere. -/
  closed : Bool
deriving DecidableEq, Repr

namespace RecordStream

/-- A live stream without bound. -/
def unbounded : RecordStream := ⟨[], none, false, false⟩

/-- A live stream that buffers at most `n` records, at least one: a
stream that could hold nothing could deliver nothing. -/
def bounded (n : Nat) : RecordStream := ⟨[], some (max n 1), false, false⟩

variable (s : RecordStream)

/-- Where the stream is in its life. -/
def state : StreamState :=
  if s.closed then .closed else if s.eos then .ended else .live

/-- How many records are buffered. -/
def buffered : Nat := s.queue.length

/-- Whether a push is accepted in principle, room or not. -/
def isLive : Bool := !(s.eos || s.closed)

/-- Whether the buffer is at its bound. -/
def atCapacity : Bool := s.capacity.any fun n => n ≤ s.queue.length

/-- Live and without room: a push has to wait. -/
def isFull : Bool := s.isLive && s.atCapacity

/-- A reader gets an answer at once: a record, or the end. -/
def isReadable : Bool := !s.queue.isEmpty || s.eos || s.closed

/-- Live and empty: a reader has to wait. -/
def isDry : Bool := !s.isReadable

-- ============================================================== pushing

/-- What became of a push. -/
inductive Push where
  /-- The record is the last one of the queue now. -/
  | accepted (s : RecordStream)
  /-- The stream is no longer live; the record is dropped. -/
  | refused
  /-- There is no room yet. -/
  | waits
deriving DecidableEq, Repr

def push (r : Record) : Push :=
  if s.isLive then
    if s.atCapacity then .waits
    else .accepted { s with queue := s.queue ++ [r] }
  else .refused

-- =============================================================== taking

/-- What became of an attempt to take a record. -/
inductive Pull where
  /-- The first record of the queue was taken. -/
  | delivered (r : Record) (s : RecordStream)
  /-- The queue is empty and nothing more will come. -/
  | finished
  /-- The queue is empty for now. -/
  | notReady
deriving DecidableEq, Repr

/-- The answer of a readable stream. -/
def deliver : Pull :=
  match s.queue with
  | r :: rest => .delivered r { s with queue := rest }
  | [] => .finished

/-- Takes the first record without waiting. -/
def tryNext : Pull := if s.isReadable then s.deliver else .notReady

/-- What became of an attempt to take a record that may wait. -/
inductive Wait (α : Type) where
  | done (a : α)
  /-- The caller waits, with no limit to its patience. -/
  | waits
deriving DecidableEq, Repr

/-- Takes the first record, waiting for one if need be. With a timeout
the wait has an end, at which a stream that is still dry is not ready;
an end the clock will never show is no end. -/
def next (now : Instant) (timeout : Option Span) : Wait Pull :=
  if s.isReadable then .done s.deliver
  else
    match timeout.bind now.after? with
    | some _ => .done .notReady
    | none => .waits

-- =============================================================== ending

/-- No more records will come. -/
def endStream : RecordStream := { s with eos := true }

/-- Throws the buffer away and refuses whatever comes. -/
def close : RecordStream :=
  { s with queue := [], eos := true, closed := true }

/-- Moves queue and flags into a new stream and closes the old one. The
new stream comes first in the answer, the old one second. -/
def transfer : RecordStream × RecordStream := (s, s.close)

/-- What is shown of a stream: how much it buffers, its bound, and its
flags. -/
def outline : Outline :=
  .record "GenericRecordStream"
    [("buffered", .ofNat s.buffered),
     ("capacity", .ofOption .ofNat s.capacity),
     ("eos", .ofBool s.eos),
     ("closed", .ofBool s.closed)]

end RecordStream

-- ========================================================== the answers

/-- How a reader is told what it got. -/
inductive StreamStatus where
  /-- A record without error. -/
  | ok
  /-- A record that carries an error. -/
  | error
  | endOfStream
  | notReady
deriving DecidableEq, Repr

namespace RecordStream.Pull

/-- The status a reader is told. -/
def status : Pull → StreamStatus
  | .delivered r _ => if r.isFailed then .error else .ok
  | .finished => .endOfStream
  | .notReady => .notReady

/-- The reader's record afterwards: the record taken, or what
was in it before. -/
def into (reading : Record) : Pull → Record
  | .delivered r _ => r
  | .finished => reading
  | .notReady => reading

/-- The stream afterwards. -/
def stream (before : RecordStream) : Pull → RecordStream
  | .delivered _ s => s
  | .finished => before
  | .notReady => before

end RecordStream.Pull

-- ======================================================== the operations

/-- One operation of a producer or a reader on a stream. -/
inductive StreamOp where
  | push (r : Record)
  | tryNext
  | next (timeout : Option Span)
  | endStream
  | close
  | transfer
deriving DecidableEq, Repr

/-- What the caller of an operation is told. -/
inductive StreamReply where
  | pushed (accepted : Bool)
  | pulled (p : RecordStream.Pull)
  | done
  /-- The stream that received queue and flags. -/
  | moved (target : RecordStream)
  /-- The caller has to wait; nothing happened. -/
  | waits
deriving DecidableEq, Repr

namespace RecordStream

/-- An operation as a critical section: the caller's answer and the
stream afterwards. -/
def run (s : RecordStream) (now : Instant) :
    StreamOp → StreamReply × RecordStream
  | .push r =>
      match s.push r with
      | .accepted s' => (.pushed true, s')
      | .refused => (.pushed false, s)
      | .waits => (.waits, s)
  | .tryNext => (.pulled s.tryNext, s.tryNext.stream s)
  | .next timeout =>
      match s.next now timeout with
      | .done p => (.pulled p, p.stream s)
      | .waits => (.waits, s)
  | .endStream => (.done, s.endStream)
  | .close => (.done, s.close)
  | .transfer => (.moved s.transfer.1, s.transfer.2)

end RecordStream

end PluginRpc
