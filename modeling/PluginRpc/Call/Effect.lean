/-
What code may do in the course of a call.

Beside the operations of a channel there are those on the call's
response: a look at a response record and edits of it, and pushing to,
ending, closing or moving away a response stream. An operation on a
response of the other shape does nothing. `dial` marks that a call is handed to the channel and
with what; it changes nothing, and lets a run tell what went out.
-/
import PluginRpc.Channel.Basic
import PluginRpc.Stream.Drain

namespace PluginRpc

/-- Where the result of a call goes. -/
inductive ResponseShape where
  | record
  | stream
deriving DecidableEq, Repr

def ResponseShape.isStream : ResponseShape → Bool
  | record => false
  | stream => true

/-- One call handed to a channel: the way of calling, and everything that
goes with it. -/
structure ChannelCall where
  kind : FunctionKind
  context : CallContext
  method : MethodPath
  payloads : List Payload
deriving DecidableEq, Repr

/-- What code may do during a call. -/
inductive CallOp where
  | wire (op : WireOp)
  /-- Look at the response record; there is none if the response is a
  stream. -/
  | inspect
  /-- Edit the response record. -/
  | edit (e : Record.Edit)
  /-- Push a record to the response stream; the answer is whether the
  stream took it. -/
  | push (r : Record)
  | endStream
  | close
  /-- Move the response stream's content into a stream of one's own. -/
  | transfer
  /-- A call is about to be handed to the channel. -/
  | dial (call : ChannelCall)
deriving DecidableEq, Repr

def CallOp.Answer : CallOp → Type
  | wire op => op.Answer
  | inspect => Option Record
  | push _ => Bool
  | transfer => RecordStream
  | _ => Unit

/-- The operations of handlers and clients. -/
def call : Signature := ⟨CallOp, CallOp.Answer⟩

instance : ambient.Within call :=
  ⟨fun op => Program.ask (S := call) (.wire (.ambient op))⟩

instance : wire.Within call := ⟨fun op => Program.ask (S := call) (.wire op)⟩

/-- What handlers and clients do. -/
abbrev CallProgram := Program call

namespace CallProgram

/-- Looks at the response record. -/
def inspect : CallProgram (Option Record) := Program.ask (S := call) .inspect

/-- Edits the response record. -/
def edit (e : Record.Edit) : CallProgram Unit :=
  Program.ask (S := call) (.edit e)

/-- Pushes a record to the response stream. -/
def push (r : Record) : CallProgram Bool :=
  Program.ask (S := call) (.push r)

def endStream : CallProgram Unit := Program.ask (S := call) .endStream

def close : CallProgram Unit := Program.ask (S := call) .close

def transfer : CallProgram RecordStream := Program.ask (S := call) .transfer

def dial (c : ChannelCall) : CallProgram Unit :=
  Program.ask (S := call) (.dial c)

/-- Ends the call with a failure: a record gets the error, a stream gets
one last record that carries it. -/
def fail (shape : ResponseShape) (e : ErrorInfo) : CallProgram Unit :=
  match shape with
  | .record => edit (.setError e)
  | .stream => do
      let _ ← push (.failed e)
      endStream

end CallProgram

end PluginRpc
