/-
Streams that come from one another.

Moving a stream's content makes a new stream, so a run over one stream is
in general a run over a growing family of them. A family is the list of
its streams in the order of their making; an operation addresses one by
its place, and a transfer adds one at the end. Beside the streams stands
the reader's record variable, which an unsuccessful read leaves alone.
-/
import PluginRpc.Stream.Drain
import PluginRpc.Stream.Waiting

namespace PluginRpc

/-- Streams made from one another, and the reader's record variable. -/
structure StreamFamily where
  streams : List RecordStream
  reading : Record
deriving DecidableEq, Repr

namespace StreamFamily

/-- A family of one new stream. -/
def start (s : RecordStream) : StreamFamily := ⟨[s], .empty⟩

variable (f : StreamFamily) (now : Instant)

/-- The stream at a place; a place nobody made is a closed stream. -/
def stream (i : Nat) : RecordStream :=
  f.streams[i]?.getD (RecordStream.unbounded.close)

/-- Replaces the stream at a place and adds those that were made. -/
def store (i : Nat) (s : RecordStream) (made : List RecordStream) :
    StreamFamily :=
  { f with streams := f.streams.set i s ++ made }

/-- The streams an answer brings into being. -/
def madeBy : StreamReply → List RecordStream
  | .moved target => [target]
  | _ => []

/-- The record variable after an answer. -/
def keep (r : Record) : StreamReply → Record
  | .pulled p => p.into r
  | _ => r

/-- An operation on the stream at a place. -/
def run (i : Nat) (op : StreamOp) : StreamReply × StreamFamily :=
  let (answer, s) := (f.stream i).run now op
  (answer,
    { f.store i s (madeBy answer) with reading := keep f.reading answer })

/-- Drains up to `n` items; from a live stream no more than are buffered,
for the reader would have to wait for another. -/
def drain (i n : Nat) : List StreamItem × StreamFamily :=
  let s := f.stream i
  let (items, s') := s.takeItems now (if s.isLive then min n s.buffered else n)
  (items, f.store i s' [])

/-- What came of a thread that had to wait while another one acted. -/
inductive Meeting where
  /-- There was nothing to wait for, so nothing was tried. -/
  | noWait
  /-- Both are done: the one that waited, then the other. -/
  | both (waited other : StreamReply)
  /-- The one that waited still waits. -/
  | stuck (other : StreamReply)
deriving DecidableEq, Repr

/-- One thread waits on the stream at a place while another operates on
it. The waiting reader has a record variable of its own. -/
def meet (i : Nat) (w : Waiter) (op : StreamOp) : Meeting × StreamFamily :=
  match Post.ofWaiter now (f.stream i) w with
  | .inl _ => (.noWait, f)
  | .inr post =>
      let (answer, post) := post.disturb now op
      let f' := { f with reading := keep f.reading answer }
      match post.settle now with
      | .inl (waited, s) => (.both waited answer, f'.store i s (madeBy answer))
      | .inr post => (.stuck answer, f'.store i post.stream (madeBy answer))

end StreamFamily

end PluginRpc
