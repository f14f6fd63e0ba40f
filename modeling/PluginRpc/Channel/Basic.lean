/-
Channels: the seam to whatever carries messages.

A channel is opened elsewhere; here is only what a client may ask of it:
one way of calling for each kind of function, over payloads nobody looks
into. A call that answers with several messages does not return them: it
delivers them one by one, and after each it is told whether more are
wanted. A channel is expected to look at the context before and after it
waits.

A channel that can make unary calls only need not say anything about the
others; they are refused by name.
-/
import PluginRpc.Context
import PluginRpc.Schema.Basic
import PluginRpc.Text.Bytes

namespace PluginRpc

-- ========================================================== credentials

/-- How a channel is secured. -/
inductive Credentials where
  | insecure
  /-- Encrypted; the server's certificate may be checked against another
  name. -/
  | tls (serverName : Option String)
deriving DecidableEq, Repr

namespace Credentials

def isSecure : Credentials → Bool
  | insecure => false
  | tls _ => true

def outline : Credentials → Outline
  | insecure => .word "Insecure"
  | tls name =>
      .record "Tls" [("server_name", .ofOption .quoted name)]

end Credentials

-- ====================================================== what channels do

/-- Whether a receiver wants more messages. -/
inductive Flow where
  | proceed
  | stop
deriving DecidableEq, Repr

/-- What a channel may do during any call. -/
inductive WireOp where
  | ambient (op : AmbientOp)
  /-- Enter a method into the channel's own list of calls. -/
  | record (method : MethodPath)
deriving DecidableEq, Repr

def WireOp.Answer : WireOp → Type
  | ambient op => op.Answer
  | record _ => Unit

/-- The operations of a channel. -/
def wire : Signature := ⟨WireOp, WireOp.Answer⟩

/-- What a channel may do during a call that answers with several
messages. -/
inductive FeedOp where
  | wire (op : WireOp)
  /-- Hand over one message. -/
  | deliver (message : Payload)
deriving DecidableEq, Repr

def FeedOp.Answer : FeedOp → Type
  | wire op => op.Answer
  | deliver _ => Flow

/-- The operations of a channel that delivers messages. -/
def feed : Signature := ⟨FeedOp, FeedOp.Answer⟩

instance : ambient.Within wire := ⟨fun op => Program.ask (S := wire) (.ambient op)⟩

instance : wire.Within wire := ⟨Program.ask⟩

instance : ambient.Within feed :=
  ⟨fun op => Program.ask (S := feed) (.wire (.ambient op))⟩

instance : wire.Within feed := ⟨fun op => Program.ask (S := feed) (.wire op)⟩

namespace Program

variable {T : Signature} {α σ : Type}

/-- Enters a method into the channel's list of calls. -/
def recordCall [h : wire.Within T] (method : MethodPath) : Program T Unit :=
  h.lift (.record method)

/-- Hands over one message. -/
def deliver (message : Payload) : Program feed Flow :=
  ask (S := feed) (.deliver message)

/-- Runs a feed with a receiver for its messages. The receiver may keep
something in mind from one message to the next; what it has in mind at
the end comes back with the feed's own answer. -/
def receive [h : wire.Within T]
    (receiver : σ → Payload → Program T (σ × Flow)) :
    σ → Program feed α → Program T (σ × α)
  | s, done a => done (s, a)
  | _, panic p => panic p
  | s, perform (.wire op) next =>
      (h.lift op).bind fun answer => receive receiver s (next answer)
  | s, perform (.deliver message) next =>
      (receiver s message).bind fun (s', flow) =>
        receive receiver s' (next flow)

end Program

-- ============================================================= channels

/-- The refusal of a way of calling that a channel does not support. -/
def Channel.unsupported (target way : String) (method : MethodPath) :
    ErrorInfo :=
  .unimplemented ("channel `" ++ target ++ "` does not support " ++ way
    ++ " for " ++ method.text)

/-- An open channel. -/
structure Channel where
  /-- The address the channel was opened with. -/
  target : String
  credentials : Credentials
  /-- What is shown of the channel. -/
  outline : Outline
  unary : CallContext → MethodPath → Payload →
    Program wire (Except ErrorInfo Payload)
  clientStreaming : CallContext → MethodPath → List Payload →
      Program wire (Except ErrorInfo Payload) :=
    fun _ method _ => .done (.error
      (Channel.unsupported target "client streaming" method))
  serverStreaming : CallContext → MethodPath → Payload →
      Program feed (Except ErrorInfo Unit) :=
    fun _ method _ => .done (.error
      (Channel.unsupported target "server streaming" method))
  bidirectional : CallContext → MethodPath → List Payload →
      Program feed (Except ErrorInfo Unit) :=
    fun _ method _ => .done (.error
      (Channel.unsupported target "bidirectional streaming" method))

-- ========================================================= running a call

/-- A channel's side of a run: its surroundings and its list of calls. -/
structure Line where
  surroundings : Surroundings
  calls : List MethodPath
deriving DecidableEq, Repr

/-- An operation of a channel. -/
def WireOp.run (l : Line) : (op : WireOp) → op.Answer × Line
  | ambient op =>
      let (answer, w) := op.run l.surroundings
      (answer, { l with surroundings := w })
  | record method => ((), { l with calls := l.calls ++ [method] })

/-- Runs a program that needs nothing but its line. -/
def Program.runWire {α : Type} (l : Line) :
    Program wire α → Ending α × Line
  | done a => (.returned a, l)
  | panic p => (.panicked p, l)
  | perform op next =>
      let (answer, l') := WireOp.run l op
      (next answer).runWire l'

end PluginRpc
