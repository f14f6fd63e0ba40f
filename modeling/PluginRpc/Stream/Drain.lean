/-
Reading a stream to its end.

The reader that takes one record after another and stops at the end of
the stream gets an item for each record: the record itself, or the error
of a failed one, whose slots are not to be trusted and are dropped. A
failed record does not stop it.
-/
import PluginRpc.Stream.Basic

namespace PluginRpc

/-- What a draining reader gets for one record. -/
abbrev StreamItem := Except ErrorInfo Record

/-- The item for a record. -/
def Record.toItem (r : Record) : StreamItem :=
  match r.error with
  | some e => .error e
  | none => .ok r

/-- The item that a draining reader makes of the record it holds, by what
it was told of it: none where it was told of no record. An error that was
told of and is not there would make none either, and pass for the end. -/
def StreamStatus.item? (held : Record) : StreamStatus → Option StreamItem
  | .ok => some (.ok held)
  | .error => held.error.map .error
  | .endOfStream => none
  | .notReady => none

namespace RecordStream

/-- The next item, or none at the end, and the stream behind it. Each is
read into a new record. -/
def nextItem (s : RecordStream) (now : Instant) :
    Wait (Option StreamItem × RecordStream) :=
  match s.next now none with
  | .done p => .done (p.status.item? (p.into .empty), p.stream s)
  | .waits => .waits

/-- The next `n` items at most, up to the end or to where the reader
would have to wait, and the stream behind them. -/
def takeItems (s : RecordStream) (now : Instant) :
    Nat → List StreamItem × RecordStream
  | 0 => ([], s)
  | n + 1 =>
      match s.nextItem now with
      | .done (some item, s') =>
          let (items, s'') := s'.takeItems now n
          (item :: items, s'')
      | .done (none, s') => ([], s')
      | .waits => ([], s)

/-- What a reader that never waits is told and gets, up to and including
the answer that brings no record. -/
def readOut (s : RecordStream) : List (StreamStatus × Record) :=
  s.queue.map (fun r => (if r.isFailed then .error else .ok, r))
    ++ [(if s.isLive then .notReady else .endOfStream, .empty)]

/-- Every item that can be had without waiting. -/
def items (s : RecordStream) (now : Instant) :
    List StreamItem × RecordStream :=
  s.takeItems now (s.buffered + 1)

end RecordStream

end PluginRpc
