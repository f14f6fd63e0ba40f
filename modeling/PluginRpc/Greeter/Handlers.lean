/-
What the greeter does in a call.

A handler reads the request by position, sends the messages that it makes
of it over the channel, and writes what comes back into the response. A
nested record lies in the request slot by slot, and each column of a
group has a slot of its own. A message that is refused, or a reply that
cannot be read, is the handler's error.

Replies that come one by one are relayed: each is read and pushed to the
response stream as a record. No more are wanted once one cannot be read
or the stream does not take a record; a reply that comes all the same is
treated like any other. The channel's own error goes before the error of
a reply.
-/
import PluginRpc.Dispatch.Invocation
import PluginRpc.Greeter.Messages

namespace PluginRpc.Greeter

variable (i : Invocation)

/-- Appends a slot to the response record. -/
def answer (slot : Slot) : CallProgram (Except ErrorInfo Unit) := do
  CallProgram.edit (.append slot)
  return .ok ()

/-- Reads a reply that has come. -/
def readReply [Wording] {α : Type} [Message α]
    (reply : Except ErrorInfo Payload) : Except ErrorInfo α :=
  reply.bind decode

/-- Sends one message and reads the reply. -/
def exchange [Wording] {α β : Type} [Message α] [Message β] (request : α) :
    CallProgram (Except ErrorInfo β) := do
  return readReply (← i.unary (encode request))

/-- The first text of every row, or an empty one. -/
def rowTexts : List String :=
  i.rows.map fun row =>
    let text : Option String := (row.fetch .string).1
    text.getD ""

-- ================================================================ relays

/-- Takes one reply; what is kept in mind is the error of the last reply
that could not be read. -/
def relayOne [Wording] {α : Type} [Message α] (fill : α → Slot)
    (unread : Option ErrorInfo) (reply : Payload) :
    CallProgram (Option ErrorInfo × Flow) :=
  match (decode reply : Except ErrorInfo α) with
  | .error e => return (some e, .stop)
  | .ok message => do
      if ← CallProgram.push (.ofSlots [fill message]) then
        return (unread, .proceed)
      else return (unread, .stop)

/-- The outcome of a relay. -/
def relayed (unread : Option ErrorInfo) (outcome : Except ErrorInfo Unit) :
    Except ErrorInfo Unit :=
  match outcome, unread with
  | .error e, _ => .error e
  | .ok (), some e => .error e
  | .ok (), none => .ok ()

/-- Makes a call whose replies are relayed, each as a record of one
slot. -/
def relay [Wording] {α : Type} [Message α] (fill : α → Slot)
    (call : Invocation.Receiver (Option ErrorInfo) → Option ErrorInfo →
      CallProgram (Option ErrorInfo × Except ErrorInfo Unit)) :
    CallProgram (Except ErrorInfo Unit) := do
  let (unread, outcome) ← call (relayOne fill) none
  return relayed unread outcome

/-- A function that answers with records must have a stream to push them
to. -/
def needsStream (function : String) : ErrorInfo :=
  .internal (function ++ " expects a stream response")

-- ============================================================== handlers

/-- Greets the one who is named. -/
def sayHello [Wording] : Handler := fun i _ => do
  let name : Option String := (i.request.cursor.fetch .string).1
  match name with
  | none => return .error (.invalidArgument "SayHello requires a name")
  | some name =>
    match (← exchange i (⟨name⟩ : HelloRequest) : Except ErrorInfo HelloReply) with
    | .error e => return .error e
    | .ok reply => answer (some (.string reply.message))

/-- Adds one to a number; what is no number is left alone. -/
def addIntOne [Wording] : Handler := fun i _ => do
  let value : Option Int32 := (i.request.cursor.fetch .int4).1
  match value with
  | none => answer none
  | some value =>
    match (← exchange i (⟨value⟩ : IntValue) : Except ErrorInfo IntValue) with
    | .error e => return .error e
    | .ok reply => answer (some (.int4 reply.value))

/-- Counts up from a number, so many times. -/
def countUp [Wording] : Handler := fun i shape => do
  if shape.isStream then
    let (first, next) := i.request.cursor.fetch .int8
    let first : Option Int64 := first
    let count : Option UInt32 := (next.fetch .uint4).1
    let request : CountRequest := ⟨first.getD 0, count.getD 0⟩
    relay (fun (reply : CountReply) => some (.int8 reply.value))
      (i.serverStreaming (encode request))
  else return .error (needsStream "CountUp")

/-- Greets all who are named, one to a row. -/
def joinNames [Wording] : Handler := fun i _ => do
  let requests := (rowTexts i).map fun name => encode (⟨name⟩ : HelloRequest)
  match (readReply (← i.clientStreaming requests) :
      Except ErrorInfo HelloReply) with
  | .error e => return .error e
  | .ok reply => answer (some (.string reply.message))

/-- Answers each text with a text. -/
def chat [Wording] : Handler := fun i shape => do
  if shape.isStream then
    let requests := (rowTexts i).map fun text => encode (⟨text⟩ : ChatMessage)
    relay (fun (reply : ChatMessage) => some (.string reply.text))
      (i.bidirectional requests)
  else return .error (needsStream "Chat")

/-- The one way to get in touch that is given, if not both are. -/
def contactOf : Option String → Option String →
    Except ErrorInfo (Option Contact)
  | some _, some _ =>
      .error (.invalidArgument "oneof `contact` has more than one member set")
  | some email, none => .ok (some (.email email))
  | none, some phone => .ok (some (.phone phone))
  | none, none => .ok none

/-- Describes a person. -/
def describe [Wording] : Handler := fun i _ => do
  let (name, next) := i.request.cursor.fetch .string
  let (age, next) := next.fetch .int4
  let (email, next) := next.fetch .string
  let phone := (next.fetch .string).1
  let name : Option String := name
  let age : Option Int32 := age
  match contactOf email phone with
  | .error e => return .error e
  | .ok contact =>
    let request : DescribeRequest := ⟨⟨name.getD "", age.getD 0⟩, contact⟩
    match (← exchange i request : Except ErrorInfo DescribeReply) with
    | .error e => return .error e
    | .ok reply => answer (some (.string reply.summary))

end PluginRpc.Greeter
