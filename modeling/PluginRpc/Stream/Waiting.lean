/-
Waiting on a stream.

A producer waits for room and a reader waits for a record or the end. A
waiting thread sleeps on a condition and looks at the stream again when
it is woken, so waking it too often is harmless and waking it too seldom
is not. `signals` says which conditions an operation announces: a push
announces that there is something to read, taking from a bounded stream
announces room, and whatever ends a stream announces both.

`Post` is one sleeper beside a stream, with the note whether it has been
woken since it last looked. `Post.disturb` is an operation of another
thread, `Post.rouse` is the sleeper's own look.
-/
import PluginRpc.Stream.Basic

namespace PluginRpc

-- ======================================================= the conditions

/-- What a thread can wait for. -/
inductive Condition where
  | readable
  | writable
deriving DecidableEq, Repr

namespace RecordStream

/-- Taking a record makes room only where room is limited. -/
def pullSignals (s : RecordStream) : Pull → List Condition
  | .delivered .. => if s.capacity.isSome then [.writable] else []
  | .finished => []
  | .notReady => []

/-- The conditions that an operation on `s` announces. -/
def signals (s : RecordStream) (now : Instant) : StreamOp → List Condition
  | .push r =>
      match s.push r with
      | .accepted _ => [.readable]
      | .refused => []
      | .waits => []
  | .tryNext => s.pullSignals s.tryNext
  | .next timeout =>
      match s.next now timeout with
      | .done p => s.pullSignals p
      | .waits => []
  | .endStream => [.readable, .writable]
  | .close => [.readable, .writable]
  | .transfer => [.readable, .writable]

end RecordStream

-- ========================================================= the sleepers

/-- A thread in the middle of an operation that had to wait. -/
inductive Waiter where
  /-- Wants to push a record. -/
  | producer (r : Record)
  /-- Wants a record, however long it takes. -/
  | reader
deriving DecidableEq, Repr

namespace Waiter

/-- The operation the thread is in the middle of. -/
def op : Waiter → StreamOp
  | producer r => .push r
  | reader => .next none

/-- The condition it sleeps on. -/
def condition : Waiter → Condition
  | producer _ => .writable
  | reader => .readable

end Waiter

/-- A stream and a thread asleep beside it. -/
structure Post where
  stream : RecordStream
  waiter : Waiter
  /-- Whether the thread has been woken since it last looked. -/
  woken : Bool
deriving DecidableEq, Repr

namespace Post

variable (p : Post) (now : Instant)

/-- The thread begins the operation: it either has its answer at once or
falls asleep. -/
def ofWaiter (s : RecordStream) (w : Waiter) :
    StreamReply × RecordStream ⊕ Post :=
  match s.run now w.op with
  | (.waits, s') => .inr ⟨s', w, false⟩
  | answer => .inl answer

/-- Another thread operates on the stream, and its announcements may wake
the sleeper. -/
def disturb (op : StreamOp) : StreamReply × Post :=
  let (answer, s') := p.stream.run now op
  (answer,
    { p with
      stream := s'
      woken := p.woken || (p.stream.signals now op).contains p.waiter.condition })

/-- The sleeper looks again: it has its answer, or it goes back to
sleep. -/
def rouse : StreamReply × RecordStream ⊕ Post :=
  ofWaiter now p.stream p.waiter

/-- The sleeper looks if it has been woken and sleeps on if not. -/
def settle : StreamReply × RecordStream ⊕ Post :=
  if p.woken then p.rouse now else .inr p

end Post

end PluginRpc
