/-
What a request becomes.

A request is a row of slots, and each function takes what it needs by
position: a slot that is absent, that holds something else or that is not
there at all counts as no value, and those behind it stay where they are.
`Function.opening` says, function by function, what a request becomes: the
messages of one call, or an answer or a refusal that needs no call. It
speaks of positions only, and knows nothing of reading one slot after
another.

A handler does what the opening says. If there are messages, they go out
in one call, in the way of the function's kind and under its path, and all
that the handler does beside is to look at what comes back.
-/
import PluginRpc.Proofs.Call.Dialling
import PluginRpc.Proofs.Greeter.Codec
import PluginRpc.Proofs.Greeter.Table
import PluginRpc.Proofs.Record.Slots

namespace PluginRpc.Greeter

open CallProgram

-- =============================================== the messages of a function

namespace Function

/-- What a function sends. -/
@[reducible]
def Request : Function → Type
  | sayHello => HelloRequest
  | addIntOne => IntValue
  | countUp => CountRequest
  | joinNames => HelloRequest
  | chat => ChatMessage
  | describe => DescribeRequest

/-- What a function gets back. -/
@[reducible]
def Reply : Function → Type
  | sayHello => HelloReply
  | addIntOne => IntValue
  | countUp => CountReply
  | joinNames => HelloReply
  | chat => ChatMessage
  | describe => DescribeReply

instance : (f : Function) → Message f.Request
  | sayHello => inferInstanceAs (Message HelloRequest)
  | addIntOne => inferInstanceAs (Message IntValue)
  | countUp => inferInstanceAs (Message CountRequest)
  | joinNames => inferInstanceAs (Message HelloRequest)
  | chat => inferInstanceAs (Message ChatMessage)
  | describe => inferInstanceAs (Message DescribeRequest)

instance : (f : Function) → Message f.Reply
  | sayHello => inferInstanceAs (Message HelloReply)
  | addIntOne => inferInstanceAs (Message IntValue)
  | countUp => inferInstanceAs (Message CountReply)
  | joinNames => inferInstanceAs (Message HelloReply)
  | chat => inferInstanceAs (Message ChatMessage)
  | describe => inferInstanceAs (Message DescribeReply)

theorem request_returns : (f : Function) → (m : f.Request) → Returns m
  | sayHello => helloRequest_returns
  | addIntOne => intValue_returns
  | countUp => countRequest_returns
  | joinNames => helloRequest_returns
  | chat => chatMessage_returns
  | describe => describeRequest_returns

/-- The slot that a reply becomes. -/
def slotOf : (f : Function) → f.Reply → Slot
  | sayHello, reply => some (.string reply.message)
  | addIntOne, reply => some (.int4 reply.value)
  | countUp, reply => some (.int8 reply.value)
  | joinNames, reply => some (.string reply.message)
  | chat, reply => some (.string reply.text)
  | describe, reply => some (.string reply.summary)

/-- The call that carries messages of a function. -/
def callOf (f : Function) (context : CallContext) (messages : List f.Request) :
    ChannelCall :=
  ⟨f.decl.kind, context, f.path, messages.map encode⟩

theorem path_eq (f : Function) :
    f.path = ⟨"/helloworld.Greeter/" ++ f.decl.name⟩ := by
  cases f <;> decide

end Function

-- ============================================================== the opening

/-- What a function makes of a request. -/
inductive Opening (f : Function) where
  /-- Messages, to be sent in one call. -/
  | sends (messages : List f.Request)
  /-- The answer, for which no call is needed. -/
  | answers (slot : Slot)
  | refuses (e : ErrorInfo)

namespace Opening

/-- Who has a name is greeted. -/
def greeting : Option String → Opening .sayHello
  | some name => sends [⟨name⟩]
  | none => refuses (.invalidArgument "SayHello requires a name")

/-- What is no number has no successor, and that is no error. -/
def successor : Option Int32 → Opening .addIntOne
  | some value => sends [⟨value⟩]
  | none => answers none

/-- A person with at most one way to get in touch, out of a mail address
and a telephone number. -/
def portrait (person : Person) : Option String → Option String →
    Opening .describe
  | some _, some _ =>
      refuses (.invalidArgument
        "oneof `contact` has more than one member set")
  | some email, none => sends [⟨person, some (.email email)⟩]
  | none, some phone => sends [⟨person, some (.phone phone)⟩]
  | none, none => sends [⟨person, none⟩]

/-- What is done for an opening that needs no call. -/
def alone? {f : Function} :
    Opening f → Option (CallProgram (Except ErrorInfo Unit))
  | sends _ => none
  | answers slot => some (answer slot)
  | refuses e => some (.done (.error e))

end Opening

namespace Function

/-- What a function makes of a request, by the positions of the slots. -/
def opening (request : Record) : (f : Function) → Opening f
  | sayHello => .greeting (request.valueAt 0 .string)
  | addIntOne => .successor (request.valueAt 0 .int4)
  | countUp =>
      let start : Option Int64 := request.valueAt 0 .int8
      let count : Option UInt32 := request.valueAt 1 .uint4
      .sends [⟨start.getD 0, count.getD 0⟩]
  | joinNames => .sends (request.slots.map fun slot => ⟨slotText slot⟩)
  | chat => .sends (request.slots.map fun slot => ⟨slotText slot⟩)
  | describe =>
      let name : Option String := request.valueAt 0 .string
      let age : Option Int32 := request.valueAt 1 .int4
      .portrait ⟨name.getD "", age.getD 0⟩
        (request.valueAt 2 .string) (request.valueAt 3 .string)

end Function

-- ============================================================= the handlers

theorem first_fetch (request : Record) (k : ScalarKind) :
    (request.cursor.fetch k).1 = request.valueAt 0 k :=
  (Cursor.fetch_at rfl k).1

/-- Where each slot is a row, each slot becomes a message. -/
theorem rowTexts_encode {α : Type} [Message α] (mk : String → α)
    {i : Invocation} (one : i.width = 1) :
    (rowTexts i).map (fun text => encode (mk text))
      = (i.request.slots.map fun slot => mk (slotText slot)).map encode := by
  rw [rowTexts_of_width_one one, List.map_map, List.map_map]
  rfl

/-- Answers with a reply that could be read. -/
def Function.answerWith (f : Function) :
    Except ErrorInfo f.Reply → CallProgram (Except ErrorInfo Unit)
  | .error e => .done (.error e)
  | .ok message => answer (f.slotOf message)

variable [Wording]

/-- What a handler does with the one reply to its call. -/
def Function.finish (f : Function) (reply : Except ErrorInfo Payload) :
    CallProgram (Except ErrorInfo Unit) :=
  f.answerWith (readReply reply)

/-- What a handler does behind the call that it makes: the channel's part
in that call, and what it does with the reply or with each of the
replies. -/
inductive Function.Carries (f : Function) (channel : Channel)
    (call : ChannelCall) : CallProgram (Except ErrorInfo Unit) → Prop
  | answered {x : Program wire (Except ErrorInfo Payload)}
      (unstreamed : f.decl.kind.streamsResponses = false)
      (answers : channel.Answers call x) :
      Carries f channel call (x.within.bind f.finish)
  | delivered {x : Program feed (Except ErrorInfo Unit)}
      (streamed : f.decl.kind.streamsResponses = true)
      (delivers : channel.Delivers call x) :
      Carries f channel call
        ((Program.receive (relayOne f.slotOf) none x).bind fun r =>
          .done (relayed r.1 r.2))

/-- A channel does one thing in a call, and so does the handler behind
it. -/
theorem Function.Carries.unique {f : Function} {channel : Channel}
    {call : ChannelCall} {x y : CallProgram (Except ErrorInfo Unit)}
    (hx : f.Carries channel call x) (hy : f.Carries channel call y) : x = y := by
  cases hx with
  | answered unstreamed answers =>
      cases hy with
      | answered _ answers' => cases answers <;> cases answers' <;> rfl
      | delivered streamed =>
          rw [unstreamed] at streamed
          cases streamed
  | delivered streamed delivers =>
      cases hy with
      | answered unstreamed =>
          rw [unstreamed] at streamed
          cases streamed
      | delivered _ delivers' => cases delivers <;> cases delivers' <;> rfl

/-- A handler's program does what an opening says. -/
def Opening.Plays {f : Function} (channel : Channel) (context : CallContext)
    (x : CallProgram (Except ErrorInfo Unit)) : Opening f → Prop
  | sends messages =>
      ∃ y, f.Carries channel (f.callOf context messages) y
        ∧ x = (dial (f.callOf context messages)).bind fun _ => y
  | answers slot => x = answer slot
  | refuses e => x = .done (.error e)

theorem Opening.Plays.alone {f : Function} {channel : Channel}
    {context : CallContext} {x y : CallProgram (Except ErrorInfo Unit)}
    {opening : Opening f} (plays : opening.Plays channel context x)
    (alone : opening.alone? = some y) : x = y := by
  cases opening with
  | sends messages => cases alone
  | answers slot | refuses e =>
      cases alone
      exact plays

section Handlers

variable (channel : Channel) (context : CallContext) (request : Record)

/-- One message out and one back; `k` is the handler's own way to put what
is done with the reply. -/
theorem exchange_plays {f : Function} (unary : f.decl.kind = .unary)
    {m : f.Request}
    {k : Except ErrorInfo f.Reply → CallProgram (Except ErrorInfo Unit)}
    (finishes : ∀ reply, k reply = f.answerWith reply) :
    Opening.Plays channel context
      ((exchange (f.invocation channel context request) m).bind k)
      (.sends [m] : Opening f) := by
  have same : f.callOf context [m] = ⟨.unary, context, f.path, [encode m]⟩ := by
    unfold Function.callOf
    rw [unary]
    rfl
  have answers : channel.Answers (f.callOf context [m])
      (channel.unary context f.path (encode m)) := by
    rw [same]
    exact .unary ..
  obtain rfl : k = f.answerWith := funext finishes
  refine ⟨_, .answered (by rw [unary]; rfl) answers, ?_⟩
  rw [same]
  exact congrArg (Program.perform (S := call) _)
    (funext fun _ => Program.bind_assoc _ _ _)

theorem sayHello_plays (shape : ResponseShape) :
    (Function.sayHello.opening request).Plays channel context
      (sayHello (Function.sayHello.invocation channel context request) shape) := by
  unfold sayHello
  dsimp only [Function.invocation, Function.opening]
  rw [first_fetch]
  generalize request.valueAt 0 .string = name
  cases name with
  | none => rfl
  | some name =>
      exact exchange_plays channel context request rfl fun reply => by
        cases reply <;> rfl

theorem addIntOne_plays (shape : ResponseShape) :
    (Function.addIntOne.opening request).Plays channel context
      (addIntOne (Function.addIntOne.invocation channel context request)
        shape) := by
  unfold addIntOne
  dsimp only [Function.invocation, Function.opening]
  rw [first_fetch]
  generalize request.valueAt 0 .int4 = value
  cases value with
  | none => rfl
  | some value =>
      exact exchange_plays channel context request rfl fun reply => by
        cases reply <;> rfl

theorem countUp_plays :
    (Function.countUp.opening request).Plays channel context
      (countUp (Function.countUp.invocation channel context request)
        .stream) := by
  have start := Cursor.fetch_at (c := request.cursor) (n := 0) rfl .int8
  have count := Cursor.fetch_at start.2 .uint4
  unfold countUp
  dsimp only [Function.invocation, Function.opening]
  rw [start.1, count.1]
  exact ⟨_, .delivered rfl (.serverStreaming ..), rfl⟩

theorem joinNames_plays (shape : ResponseShape) :
    (Function.joinNames.opening request).Plays channel context
      (joinNames (Function.joinNames.invocation channel context request)
        shape) := by
  unfold joinNames
  rw [rowTexts_encode HelloRequest.mk rfl]
  refine ⟨_, .answered rfl (.clientStreaming ..), ?_⟩
  refine congrArg (Program.perform (S := call) _)
    (funext fun _ => congrArg (Program.bind _) (funext fun reply => ?_))
  show _ = Function.joinNames.answerWith
    (readReply reply : Except ErrorInfo HelloReply)
  cases (readReply reply : Except ErrorInfo HelloReply) <;> rfl

theorem chat_plays :
    (Function.chat.opening request).Plays channel context
      (chat (Function.chat.invocation channel context request) .stream) := by
  unfold chat
  rw [rowTexts_encode ChatMessage.mk rfl]
  exact ⟨_, .delivered rfl (.bidirectional ..), rfl⟩

theorem describe_plays (shape : ResponseShape) :
    (Function.describe.opening request).Plays channel context
      (describe (Function.describe.invocation channel context request)
        shape) := by
  have name := Cursor.fetch_at (c := request.cursor) (n := 0) rfl .string
  have age := Cursor.fetch_at name.2 .int4
  have email := Cursor.fetch_at age.2 .string
  have phone := Cursor.fetch_at email.2 .string
  unfold describe
  dsimp only [Function.invocation, Function.opening]
  rw [name.1, age.1, email.1, phone.1]
  generalize request.valueAt 2 .string = email
  generalize request.valueAt 3 .string = phone
  cases email <;> cases phone
  case some.some => rfl
  -- otherwise there is a message, with one way to get in touch or none
  all_goals
    exact exchange_plays channel context request rfl fun reply => by
      cases reply <;> rfl

/-- A handler does what the opening of the request says. -/
theorem Function.handler_plays (f : Function) {shape : ResponseShape}
    (fits : f.decl.kind.streamsResponses = shape.isStream) :
    (f.opening request).Plays channel context
      (f.handler (f.invocation channel context request) shape) := by
  cases f with
  | sayHello => exact sayHello_plays channel context request shape
  | addIntOne => exact addIntOne_plays channel context request shape
  | joinNames => exact joinNames_plays channel context request shape
  | describe => exact describe_plays channel context request shape
  | countUp =>
      cases shape with
      | record => cases fits
      | stream => exact countUp_plays channel context request
  | chat =>
      cases shape with
      | record => cases fits
      | stream => exact chat_plays channel context request

variable {request}

/-- Whatever the channel, there is something that it does in the call. -/
theorem Function.carries_total {f : Function} {messages : List f.Request}
    (sends : f.opening request = .sends messages) :
    ∃ x, f.Carries channel (f.callOf context messages) x := by
  have some_shape : ∃ shape : ResponseShape,
      f.decl.kind.streamsResponses = shape.isStream := by
    cases f.decl.kind.streamsResponses with
    | false => exact ⟨.record, rfl⟩
    | true => exact ⟨.stream, rfl⟩
  obtain ⟨shape, fits⟩ := some_shape
  have plays := f.handler_plays channel context request fits
  rw [sends] at plays
  obtain ⟨x, carries, -⟩ := plays
  exact ⟨x, carries⟩

/-- A handler that has messages to send sends them in one call. -/
theorem Function.handler_sends {f : Function} {shape : ResponseShape}
    (fits : f.decl.kind.streamsResponses = shape.isStream)
    {messages : List f.Request} (sends : f.opening request = .sends messages)
    {x : CallProgram (Except ErrorInfo Unit)}
    (carries : f.Carries channel (f.callOf context messages) x) :
    f.handler (f.invocation channel context request) shape
      = (dial (f.callOf context messages)).bind fun _ => x := by
  have plays := f.handler_plays channel context request fits
  rw [sends] at plays
  obtain ⟨y, carries', handled⟩ := plays
  rw [handled, carries'.unique carries]

end Handlers

end PluginRpc.Greeter
