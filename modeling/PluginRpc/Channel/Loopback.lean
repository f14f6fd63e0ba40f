/-
The loopback channel: methods answered in the same process.

A responder is registered under the path of a method; it is given the
requests and delivers its replies. Before a call, and again before every
reply, the channel looks at the context. A call whose context is dead
does not reach the responder and is not listed; a reply that comes when
the context has died is withheld, and the responder is told that no more
are wanted. A responder may go on regardless, and its own failure is
then what the caller learns.

A call that answers with one message is a feed of which the last message
that got through counts.
-/
import PluginRpc.Channel.Basic
import PluginRpc.OrderedMap

namespace PluginRpc

/-- Answers the requests of a method. -/
abbrev Responder :=
  CallContext → List Payload → Program feed (Except ErrorInfo Unit)

/-- A responder that answers each request with one reply, until one fails
or no more replies are wanted. -/
def Responder.onEach (answer : Payload → Program feed (Except ErrorInfo Payload)) :
    Responder :=
  fun _ requests => go requests
where
  go : List Payload → Program feed (Except ErrorInfo Unit)
    | [] => .done (.ok ())
    | request :: rest =>
        (answer request).bind fun
          | .error e => .done (.error e)
          | .ok reply =>
              (Program.deliver reply).bind fun
                | .stop => .done (.ok ())
                | .proceed => go rest

/-- A loopback channel and its responders. -/
structure Loopback where
  target : String
  credentials : Credentials
  responders : OrderedMap String Responder

namespace Loopback

/-- A channel nobody answers on. -/
def ofTarget (target : String) (credentials : Credentials) : Loopback :=
  ⟨target, credentials, .empty⟩

variable (l : Loopback)

/-- Registers a responder; an earlier one for the same method is
replaced. -/
def on (method : String) (responder : Responder) : Loopback :=
  { l with responders := l.responders.insert compare method responder }

/-- What is shown of the channel: its methods in order. -/
def outline : Outline :=
  .record "LoopbackChannel"
    [("target", .quoted l.target),
     ("credentials", l.credentials.outline),
     ("methods", .list (l.responders.keys.map .quoted))]

/-- Passes a reply on while the context lives, and remembers why one was
withheld. -/
def forward (context : CallContext) (withheld : Option ErrorInfo)
    (reply : Payload) : Program feed (Option ErrorInfo × Flow) := do
  match ← Program.check context with
  | .error e => return (some e, .stop)
  | .ok () => return (withheld, ← Program.deliver reply)

/-- A call that delivers its replies. -/
def dispatch (context : CallContext) (method : MethodPath)
    (requests : List Payload) : Program feed (Except ErrorInfo Unit) := do
  match ← Program.check context with
  | .error e => return .error e
  | .ok () =>
    Program.recordCall method
    match l.responders.get? compare method.text with
    | none =>
      return .error (.unimplemented
        (l.target ++ " has no responder for " ++ method.text))
    | some responder =>
      let (withheld, outcome) ←
        Program.receive (forward context) none (responder context requests)
      match outcome, withheld with
      | .error e, _ => return .error e
      | .ok (), some e => return .error e
      | .ok (), none => return .ok ()

/-- Keeps the last message and wants no other. -/
def keepLast (_ : Option Payload) (message : Payload) :
    Program wire (Option Payload × Flow) :=
  .done (some message, .stop)

/-- A call that answers with one message. -/
def single (context : CallContext) (method : MethodPath)
    (requests : List Payload) : Program wire (Except ErrorInfo Payload) := do
  let (kept, outcome) ←
    Program.receive keepLast none (l.dispatch context method requests)
  match outcome, kept with
  | .error e, _ => return .error e
  | .ok (), some message => return .ok message
  | .ok (), none =>
    return .error (.internal (method.text ++ " produced no response"))

/-- The loopback as a channel. -/
def channel : Channel where
  target := l.target
  credentials := l.credentials
  outline := l.outline
  unary context method request := l.single context method [request]
  clientStreaming := l.single
  serverStreaming context method request := l.dispatch context method [request]
  bidirectional := l.dispatch

end Loopback

end PluginRpc
