/-
How a call that answers through a stream ends.

A reader of a response stream waits for its end, so every call has to end
it, however the call comes out; and it has to learn that a call failed,
once, behind everything the handler had pushed by then. A call comes out
in one of six ways: one of three gates was closed, or the handler
succeeded, failed or panicked. Whatever the way, what happens to the
stream is one list of operations: those of the handler, the push of the
failure if there is one, and the end. The stream behind the call is what
that list leaves of the stream before it.
-/
import PluginRpc.Proofs.Call.Unbounded
import PluginRpc.Proofs.Dispatch.Gates

namespace PluginRpc

/-- How a handler failed, if it did. -/
def Outcome.failure : Outcome (Except ErrorInfo Unit) → Option ErrorInfo
  | .returned (.ok ()) => none
  | .returned (.error e) => some e
  | .panicked p =>
      some (.internal ("dispatch handler panicked: " ++ p.detail))
  | .stalled => none

-- ============================================================= the ending

/-- How a call ends its stream: the report of a failure if there is one,
and the end. -/
def ending (failure : Option ErrorInfo) : List CallOp :=
  failure.toList.map (fun e => .push (.failed e)) ++ [.endStream]

namespace DispatchTable

open CallProgram RecordStream

variable (t : DispatchTable) (channel : Channel) (context : CallContext)
  (key : DispatchKey) (request : Record)

-- =================================================== the course of a call

/-- What goes wrong in a call: its rejection, or how the handler failed. -/
def failure (st : CallState) : Option ErrorInfo :=
  match t.gate context key .stream st.line.surroundings with
  | .error e => some e
  | .ok r =>
      (run st
        (r.handler (t.invocation channel context request r) .stream)).1.failure

variable {s : RecordStream} (attendance : Attendance) (line : Line)
  (dialled : List ChannelCall)

end DispatchTable

end PluginRpc
