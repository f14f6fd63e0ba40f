/-
What a handler is given, and how it calls on.

An invocation is the view of one call that a handler gets: the context,
the client's channel, the method path and the function as declared, and
the request. A request of several messages is one record in which the
messages follow each other; `rows` cuts it by the number of columns of
the function's input record.

The four ways of calling take their context and method from the
invocation. Where several replies come, a receiver takes them one by one.
-/
import PluginRpc.Call.Effect
import PluginRpc.Record.Cursor

namespace PluginRpc

/-- One call, as a handler sees it. -/
structure Invocation where
  context : CallContext
  channel : Channel
  method : MethodPath
  function : FunctionDecl
  /-- The records that the function's declaration refers to. -/
  records : RecordGraph
  request : Record

-- ================================================================= rows

/-- Cuts a list into pieces of a width, the last of which may be shorter.
A piece has at least one member, so a width of zero counts as one. -/
def chunks {α : Type} (width : Nat) : List α → List (List α)
  | [] => []
  | a :: rest =>
      (a :: rest.take (width - 1)) :: chunks width (rest.drop (width - 1))
termination_by l => l.length
decreasing_by simp only [List.length_drop, List.length_cons]; omega

namespace Invocation

variable (i : Invocation)

/-- How many slots make one row; a record without columns still makes
rows of one slot. -/
def width : Nat := max 1 (i.records.record i.function.input).columns.length

/-- The messages of the request, each as a cursor over its slots. -/
def rows : List Cursor := (chunks i.width i.request.slots).map .start

-- ======================================================== calling onwards

/-- The call that the invocation hands on. -/
def callOf (kind : FunctionKind) (payloads : List Payload) : ChannelCall :=
  ⟨kind, i.context, i.method, payloads⟩

/-- One message out, one message back. -/
def unary (payload : Payload) : CallProgram (Except ErrorInfo Payload) := do
  CallProgram.dial (i.callOf .unary [payload])
  (i.channel.unary i.context i.method payload).within

/-- Several messages out, one message back. -/
def clientStreaming (payloads : List Payload) :
    CallProgram (Except ErrorInfo Payload) := do
  CallProgram.dial (i.callOf .clientStreaming payloads)
  (i.channel.clientStreaming i.context i.method payloads).within

/-- Takes replies one by one, with something to keep in mind between
them. -/
abbrev Receiver (σ : Type) := σ → Payload → CallProgram (σ × Flow)

/-- One message out, several back. -/
def serverStreaming {σ : Type} (payload : Payload) (receiver : Receiver σ)
    (s : σ) : CallProgram (σ × Except ErrorInfo Unit) := do
  CallProgram.dial (i.callOf .serverStreaming [payload])
  (i.channel.serverStreaming i.context i.method payload).receive receiver s

/-- Several messages out, several back. -/
def bidirectional {σ : Type} (payloads : List Payload) (receiver : Receiver σ)
    (s : σ) : CallProgram (σ × Except ErrorInfo Unit) := do
  CallProgram.dial (i.callOf .bidirectional payloads)
  (i.channel.bidirectional i.context i.method payloads).receive receiver s

end Invocation

/-- The logic of one function. An error it returns is put into the
response for it, and a response stream is ended for it. -/
abbrev Handler :=
  Invocation → ResponseShape → CallProgram (Except ErrorInfo Unit)

end PluginRpc
