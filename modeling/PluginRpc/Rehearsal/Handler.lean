/-
Handlers from a script.

A scripted handler runs through a list of actions and notes what it does.
What it emits goes to the response in the form that the response has: to
a record slot by slot, to a stream as one record. An action may end the
handler with an error.
-/
import PluginRpc.Dispatch.Client
import PluginRpc.Json.Value
import PluginRpc.Rehearsal.Exchange

namespace PluginRpc.Rehearsal

/-- The payloads of a call that a handler makes. -/
inductive PayloadScript where
  | given (payloads : List Payload)
  /-- The first text of every row. -/
  | rows
deriving DecidableEq, Repr

/-- One thing a handler does. -/
inductive HandlerAction where
  | emit (slots : List Slot) (error : Option ErrorInfo)
  /-- Emit the request. -/
  | echo
  /-- Emit every row, read as values of the given kinds. -/
  | rows (kinds : List ScalarKind)
  /-- Emit what the invocation says. -/
  | info
  /-- Call on, and emit the replies. -/
  | exchange (kind : FunctionKind) (payloads : PayloadScript)
      (stopAfter : Option Nat) (ignoreError : Bool)
  | setError (e : ErrorInfo)
  /-- Fail the response and go on. -/
  | finish (e : ErrorInfo)
  | reset
  | endStream
  | close
  | cancel
  | check
  | fail (e : ErrorInfo)
  | panic (p : Panic)
deriving DecidableEq, Repr

/-- Emits a record. -/
def emit (shape : ResponseShape) (r : Record) : CallProgram Unit :=
  match shape with
  | .record => appendAll r.slots
  | .stream => do
      let accepted ← CallProgram.push r
      Program.note (S := call) (.pushed accepted)
where
  appendAll : List Slot → CallProgram Unit
    | [] => .done ()
    | slot :: rest => do
        CallProgram.edit (.append slot)
        appendAll rest

/-- Reads values of the given kinds, one after another. -/
def fetchAll (c : Cursor) : List ScalarKind → List Slot
  | [] => []
  | k :: rest =>
      let (value, c') := c.fetch k
      value.map (Scalar.ofCarrier k) :: fetchAll c' rest

/-- Emits rows one by one. -/
def emitRows (shape : ResponseShape) (kinds : List ScalarKind) :
    List Cursor → CallProgram Unit
  | [] => .done ()
  | row :: rest => do
      Program.note (S := call) (.row row.remaining)
      emit shape (.ofSlots (fetchAll row kinds))
      emitRows shape kinds rest

/-- A slot that holds a text. -/
def textSlot (s : String) : Slot := some (.string s)

/-- Emits replies one by one, each as one text. -/
def emitReplies (shape : ResponseShape) : List Payload → CallProgram Unit
  | [] => .done ()
  | reply :: rest => do
      emit shape (.ofSlots [textSlot reply.lenientText])
      emitReplies shape rest

/-- Credentials as a structured value. -/
def credentialsJson : Credentials → Json
  | .insecure => .text "insecure"
  | .tls name => .object [("tls", .ofOption .text name)]

/-- What an invocation says, as slots. -/
def infoSlots (i : Invocation) (shape : ResponseShape) : List Slot :=
  [i.method.text, i.function.name, i.function.kind.name, i.channel.target,
   Payload.lenientText (credentialsJson i.channel.credentials).bytes,
   String.join (i.context.metadata.map fun (k, v) => k ++ "=" ++ v ++ ";"),
   toString shape.isStream].map textSlot

/-- The payloads of a call, read from the request if need be. -/
def PayloadScript.payloads (i : Invocation) : PayloadScript → List Payload
  | given payloads => payloads
  | rows => i.rows.map fun row =>
      let text : Option String := (row.fetch .string).1
      .ofText (text.getD "")

/-- Calls on: the replies, and the error if there was one. -/
def callOn (i : Invocation) (x : Exchange) :
    CallProgram (List Payload × Option ErrorInfo) :=
  match x.kind with
  | .unary => do return Exchange.collectOne (← i.unary x.single)
  | .clientStreaming => do
      return Exchange.collectOne (← i.clientStreaming x.payloads)
  | .serverStreaming => do
      let (replies, outcome) ← i.serverStreaming x.single x.collect []
      return (replies, match outcome with | .error e => some e | .ok () => none)
  | .bidirectional => do
      let (replies, outcome) ← i.bidirectional x.payloads x.collect []
      return (replies, match outcome with | .error e => some e | .ok () => none)

/-- Runs one action; the answer is the error with which it ends the
handler, if it does. -/
def HandlerAction.run (i : Invocation) (shape : ResponseShape) :
    HandlerAction → CallProgram (Option ErrorInfo)
  | emit slots error => do
      Rehearsal.emit shape ⟨slots, error⟩
      return none
  | echo => do
      Rehearsal.emit shape i.request
      return none
  | rows kinds => do
      emitRows shape kinds i.rows
      return none
  | info => do
      Rehearsal.emit shape (.ofSlots (infoSlots i shape))
      return none
  | exchange kind payloads stopAfter ignoreError => do
      let (replies, error) ← callOn i ⟨kind, payloads.payloads i, stopAfter⟩
      emitReplies shape replies
      return if ignoreError then none else error
  | setError e => do
      match shape with
      | .record => CallProgram.edit (.setError e)
      | .stream => Rehearsal.emit shape (.failed e)
      return none
  | finish e => do
      CallProgram.fail shape e
      return none
  | reset => do
      CallProgram.edit .reset
      return none
  | endStream => do
      CallProgram.endStream
      return none
  | close => do
      CallProgram.close
      return none
  | cancel => do
      let first ← Program.cancel (S := call) i.context.token
      Program.note (S := call) (.cancel first)
      return none
  | check => do
      match ← Program.check (S := call) i.context with
      | .error e => return some e
      | .ok () => return none
  | fail e => .done (some e)
  | panic p => .panic p

/-- Runs actions until one ends the handler. -/
def runHandlerActions (i : Invocation) (shape : ResponseShape) :
    List HandlerAction → CallProgram (Except ErrorInfo Unit)
  | [] => .done (.ok ())
  | action :: rest => do
      match ← action.run i shape with
      | some e => return .error e
      | none => runHandlerActions i shape rest

/-- The handler of a list of actions. -/
def handlerOf (actions : List HandlerAction) : Handler := fun i shape => do
  Program.note (S := call) (.handler i.function.name)
  runHandlerActions i shape actions

end PluginRpc.Rehearsal
