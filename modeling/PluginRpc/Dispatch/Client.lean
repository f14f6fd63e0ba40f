/-
Clients: calling a function by its address.

A client takes any address, request and response, and answers every call
through the response: whatever goes wrong becomes an error there. The
client of a dispatch table goes through four gates, and the first that is
closed decides: the address must be served, the response must have the
shape that the function's kind asks for, and the context must be alive.
Only then does the handler run, behind a fence, with a response record
that starts out empty. If it succeeds, a response stream is ended; if it
fails or panics, the response fails.
-/
import PluginRpc.Dispatch.Table

namespace PluginRpc

/-- A client, by what it does in a call. -/
abbrev Client :=
  CallContext → DispatchKey → Record → ResponseShape → CallProgram Unit

/-- Makes a client of a channel, or says why it cannot. -/
abbrev ClientMaker := Channel → Program ambient (Except ErrorInfo Client)

namespace DispatchTable

variable (t : DispatchTable)

/-- Why a call must not reach a handler: an address that nobody serves. -/
def unrouted (key : DispatchKey) : ErrorInfo :=
  .unimplemented ("no function routed at " ++ key.describe ++ " in package `"
    ++ t.package.name ++ "`")

/-- The client of a table and a channel. -/
def client (channel : Channel) : Client := fun context key request shape => do
  CallProgram.edit .reset
  match t.route? key with
  | none => CallProgram.fail shape (t.unrouted key)
  | some route =>
    let kind := route.function.kind
    if kind.streamsResponses != shape.isStream then
      CallProgram.fail shape (misshapen route.method kind)
    else
      match ← Program.check context with
      | .error e => CallProgram.fail shape e
      | .ok () =>
        let invocation : Invocation :=
          ⟨context, channel, route.method, route.function, t.package.records,
           request⟩
        match ← (route.handler invocation shape).guardResult "dispatch handler" with
        | .ok () => CallProgram.endStream
        | .error e => CallProgram.fail shape e
where
  /-- A response of the wrong shape for the function's kind. -/
  misshapen (method : MethodPath) (kind : FunctionKind) : ErrorInfo :=
    .invalidArgument (method.text ++ " is " ++ kind.name
      ++ "; its response must be "
      ++ if kind.streamsResponses then "a record stream" else "a record")

/-- What is shown of a table's client. -/
def clientOutline (channel : Channel) : Outline :=
  .record "TableClient"
    [("table", t.outline), ("channel", channel.outline)]

/-- A table makes a client of any channel. -/
def maker : ClientMaker := fun channel => .done (.ok (t.client channel))

end DispatchTable

end PluginRpc
