/-
Calls made directly on a channel.

An exchange is a call with its payloads and the number of replies that
are wanted: the receiver collects replies and stops as soon as it has so
many. A way of calling that takes one payload gets the first, or an empty
one.
-/
import PluginRpc.Rehearsal.Context
import PluginRpc.Rehearsal.Responder

namespace PluginRpc.Rehearsal

/-- A call on a channel, with its payloads and how many replies are
wanted. -/
structure Exchange where
  kind : FunctionKind
  payloads : List Payload
  stopAfter : Option Nat
deriving DecidableEq, Repr

namespace Exchange

variable (x : Exchange)

/-- The payload of a call that takes one. -/
def single : Payload := x.payloads.head?.getD []

/-- Collects replies until there are as many as are wanted. -/
def collect {S : Signature} (replies : List Payload) (reply : Payload) :
    Program S (List Payload × Flow) :=
  let replies := replies ++ [reply]
  .done (replies, if x.stopAfter.any (· ≤ replies.length) then .stop else .proceed)

/-- The one reply of a call that answers with one message. -/
def collectOne : Except ErrorInfo Payload → List Payload × Option ErrorInfo
  | .ok reply => ([reply], none)
  | .error e => ([], some e)

/-- Makes the call directly: the replies, and the error if there was
one. -/
def run (channel : Channel) (c : CallContext) (method : MethodPath) :
    Program wire (List Payload × Option ErrorInfo) :=
  match x.kind with
  | .unary => do return collectOne (← channel.unary c method x.single)
  | .clientStreaming => do
      return collectOne (← channel.clientStreaming c method x.payloads)
  | .serverStreaming => do
      let (replies, outcome) ←
        (channel.serverStreaming c method x.single).receive x.collect []
      return (replies, match outcome with | .error e => some e | .ok () => none)
  | .bidirectional => do
      let (replies, outcome) ←
        (channel.bidirectional c method x.payloads).receive x.collect []
      return (replies, match outcome with | .error e => some e | .ok () => none)

end Exchange

/-- A call to be made on a channel, with its context. -/
structure ExchangeScript where
  exchange : Exchange
  method : MethodPath
  context : ContextScript

/-- What a call on a channel showed. -/
structure ExchangeReport where
  ending : Ending (List Payload × Option ErrorInfo)
  notes : List Note

/-- Makes one call and reports on it. -/
def ExchangeScript.run (channel : Channel) (l : Line) (s : ExchangeScript) :
    ExchangeReport × Line :=
  let (_, c, w) := s.context.build l.surroundings
  let (ending, l) :=
    (s.exchange.run channel c s.method).runWire { l with surroundings := w }
  let (notes, w) := l.surroundings.takeJournal
  (⟨ending, notes⟩, { l with surroundings := w })

/-- Makes calls one after another. -/
def runExchanges (channel : Channel) (l : Line) :
    List ExchangeScript → List ExchangeReport × Line
  | [] => ([], l)
  | s :: rest =>
      let (report, l) := s.run channel l
      let (reports, l) := runExchanges channel l rest
      (report :: reports, l)

/-- The line of a channel nobody has called on. -/
def freshLine : Line := ⟨.start, []⟩

/-- A scripted channel, the calls made on it, and what it has to show for
them. -/
def ChannelScript.rehearse (s : ChannelScript) (calls : List ExchangeScript) :
    List ExchangeReport × ChannelSummary :=
  let (reports, l) := runExchanges s.channel freshLine calls
  (reports, s.summary l)

end PluginRpc.Rehearsal
