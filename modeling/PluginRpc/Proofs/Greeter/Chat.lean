/-
Chat, from the request to the stream.

A text takes a long way: it is read from its slot, written as a message,
handed to the channel, read by the responder, answered, written again,
passed by the channel, read by the relay and pushed as a record. Each
part of the way has its own lemma elsewhere; here they are put together.
What there is to show is that nothing on the way holds a message up: the
messages come back as they were written, the context is as alive at each
reply as it was at the start, the stream takes every record, so nobody
ever asks the responder to stop, and there is one record for each slot,
in the order of the slots.
-/
import PluginRpc.Proofs.Call.Unbounded
import PluginRpc.Proofs.Channel.Delivery
import PluginRpc.Proofs.Greeter.Codec
import PluginRpc.Proofs.Greeter.Table
import PluginRpc.Proofs.OrderedMap

namespace PluginRpc

/-- Who answers at a method is who was put there last. -/
theorem Loopback.responder_on (b : Loopback) (method : String)
    (responder : Responder) :
    (b.on method responder).responders.get? compare method
      = some responder := by
  show OrderedMap.get? compare (OrderedMap.insert _ _ _ _) method = _
  rw [OrderedMap.get?_insert fun _ _ => Std.LawfulEqOrd.compare_eq_iff_eq]
  exact if_pos rfl

namespace Greeter

open CallProgram RecordStream

/-- A responder that answers each text with what a function makes of it. -/
def answering [Wording] (f : String → String) : Responder :=
  .onEach fun request =>
    .done ((decode request).map fun (m : ChatMessage) =>
      encode (⟨f m.text⟩ : ChatMessage))

/-- The record that comes of a text. -/
def answerRecord (text : String) : Record := .ofSlots [some (.string text)]

/-- A relay pushes what it can read to a stream without bound, and wants
more. -/
theorem run_relayOne [Wording] {α : Type} [Message α] (fill : α → Slot)
    (unread : Option ErrorInfo) {reply : Payload} {message : α}
    (read : decode reply = .ok message) {s : RecordStream}
    (unbounded : s.capacity = none) (live : s.state = .live)
    (attendance : Attendance) (line : Line) (dialled : List ChannelCall) :
    run (.streaming s attendance line dialled) (relayOne fill unread reply)
      = (.returned (unread, .proceed),
          .streaming { s with queue := s.queue ++ [.ofSlots [fill message]] }
            attendance line dialled) := by
  unfold relayOne
  rw [read]
  dsimp only
  rw [Program.bind_eq, run_bind, run_push (o := ⟨s, attendance⟩) rfl,
    push?_unbounded attendance unbounded, (isLive_iff s).mpr live,
    afterPush_of_live live]
  rfl

abbrev chatRelay [Wording] : Option ErrorInfo → Payload →
    CallProgram (Option ErrorInfo × Flow) :=
  relayOne fun (reply : ChatMessage) => some (.string reply.text)

def chatPayloads (texts : List String) : List Payload :=
  texts.map fun text => encode (⟨text⟩ : ChatMessage)

/-- A message that has been written is answered first, and the others
when the answer has been taken. -/
theorem answering_cons [Wording] (f : String → String) (context : CallContext)
    (text : String) (texts : List String) :
    ∃ next : Flow → Program feed (Except ErrorInfo Unit),
      answering f context (chatPayloads (text :: texts))
          = .perform (.deliver (encode (⟨f text⟩ : ChatMessage))) next
        ∧ next .proceed = answering f context (chatPayloads texts) := by
  have read := (chatMessage_returns ⟨text⟩).decode_encode
  unfold answering Responder.onEach chatPayloads
  rw [List.map_cons, Responder.onEach.go, read]
  exact ⟨_, rfl, rfl⟩

section Alive

variable [Wording] (f : String → String) {context : CallContext} {line : Line}
  (alive : context.check line.surroundings = .ok ())
  (attendance : Attendance) (dialled : List ChannelCall)

include alive

/-- The course of the responder: each text is answered in its turn, and
the answer is pushed behind those before it. -/
theorem feeds_answering (texts : List String) (queue : List Record) :
    Feeds context chatRelay
      (.streaming ⟨queue, none, false, false⟩ attendance line dialled) none
      (answering f context (chatPayloads texts))
      (texts.map fun text => ⟨encode (⟨f text⟩ : ChatMessage), .ok ()⟩)
      (.returned (none, .ok ()))
      (.streaming ⟨queue ++ texts.map fun text => answerRecord (f text),
        none, false, false⟩ attendance line dialled) := by
  induction texts generalizing queue with
  | nil =>
      have same : queue ++ [].map (fun text => answerRecord (f text)) = queue :=
        List.append_nil queue
      rw [same]
      exact .done _ _ _
  | cons text texts ih =>
      have taken := run_relayOne
        (fun (reply : ChatMessage) => some (.string reply.text)) none
        (chatMessage_returns ⟨f text⟩).decode_encode
        (s := ⟨queue, none, false, false⟩) rfl rfl attendance line dialled
      -- the first answer joins the queue, and the others begin from there
      have others := ih (queue ++ [answerRecord (f text)])
      rw [List.append_assoc] at others
      obtain ⟨next, first, proceeds⟩ := answering_cons f context text texts
      rw [← proceeds] at others
      rw [first]
      exact .through alive taken others

variable {b : Loopback}
  (answers : b.responders.get? compare Function.chat.path.text
    = some (answering f))

include answers

/-- What the channel makes of it: every answer gets through. -/
theorem delivers_answering (texts : List String) :
    b.Delivers context Function.chat.path (chatPayloads texts) chatRelay
      (.streaming .unbounded attendance line dialled) none
      (texts.map fun text => ⟨encode (⟨f text⟩ : ChatMessage), .ok ()⟩)
      (.returned (none, .ok ()))
      (.streaming
        ⟨texts.map fun text => answerRecord (f text), none, false, false⟩
        attendance { line with calls := line.calls ++ [Function.chat.path] }
        dialled) := by
  let replies : List Reply :=
    texts.map fun text => ⟨encode (⟨f text⟩ : ChatMessage), .ok ()⟩
  let listed : Line :=
    { line with calls := line.calls ++ [Function.chat.path] }
  -- the list of calls has no part in what a context says
  have course := feeds_answering f
    (show context.check listed.surroundings = .ok () from alive)
    attendance dialled texts []
  have nothing_withheld :
      (Outcome.returned (none, .ok ())).map
          (fun r : Option ErrorInfo × Except ErrorInfo Unit =>
            (r.1, settled replies r.2))
        = .returned (none, .ok ()) := by
    unfold Outcome.map settled
    rw [withheld_map_ok]
    rfl
  rw [← nothing_withheld]
  exact .answered alive answers course

omit alive answers in
/-- A chat is one call, with a message for each slot, and its replies
relayed. -/
theorem chat_eq {i : Invocation} (one : i.width = 1) :
    let payloads := chatPayloads (i.request.slots.map slotText)
    chat i .stream
      = (dial (i.callOf .bidirectional payloads)).bind fun _ =>
          (Program.receive chatRelay none
            (i.channel.bidirectional i.context i.method payloads)).bind fun r =>
              .done (relayed r.1 r.2) := by
  intro payloads
  have sent : (rowTexts i).map (fun text => encode (⟨text⟩ : ChatMessage))
      = payloads := by
    rw [rowTexts_of_width_one one]
    rfl
  have streams : ResponseShape.stream.isStream = true := rfl
  unfold chat Invocation.bidirectional
  rw [if_pos streams, sent]
  rfl

/-- The handler's run: the call goes out, and every answer is in the
stream. -/
theorem run_chat (request : Record) :
    let texts := request.slots.map slotText
    run (.streaming .unbounded attendance line dialled)
        (chat (Function.chat.invocation b.channel context request) .stream)
      = (.returned (.ok ()),
          .streaming
            ⟨texts.map fun text => answerRecord (f text), none, false, false⟩
            attendance { line with calls := line.calls ++ [Function.chat.path] }
            (dialled ++ [⟨.bidirectional, context, Function.chat.path,
              chatPayloads texts⟩])) := by
  intro texts
  let call : ChannelCall :=
    ⟨.bidirectional, context, Function.chat.path, chatPayloads texts⟩
  have delivered := (delivers_answering f alive attendance (dialled ++ [call])
    answers texts).run
  have goes_out : run (.streaming .unbounded attendance line dialled) (dial call)
      = (.returned (), .streaming .unbounded attendance line
          (dialled ++ [call])) := rfl
  rw [chat_eq rfl, run_bind]
  show andThen _ (run _ (dial call)) = _
  rw [goes_out]
  -- a bidirectional call on the loopback is its dispatch
  show run _ (Program.bind (Program.receive chatRelay none (b.dispatch context
    Function.chat.path (chatPayloads texts))) _) = _
  rw [run_bind, delivered]
  rfl

end Alive

-- ================================================================ the whole

/-- A chat over a channel whose responder answers each text leaves one
record for each slot of the request, in the order of the slots, and the
end of the stream; no record is failed, and the channel has listed one
call. -/
theorem chat_answers_each_slot [Wording] (b : Loopback) (f : String → String)
    (context : CallContext) (request : Record) (attendance : Attendance)
    (line : Line) (dialled : List ChannelCall)
    (answers : b.responders.get? compare "/helloworld.Greeter/Chat"
      = some (answering f))
    (alive : context.check line.surroundings = .ok ()) :
    ∃ t, table = .ok t ∧ ∃ s : RecordStream,
      run (.streaming .unbounded attendance line dialled)
          (t.client b.channel context Function.chat.key request .stream)
        = (.returned (), .streaming s attendance
            { line with calls :=
                line.calls ++ [⟨"/helloworld.Greeter/Chat"⟩] }
            (dialled ++ [⟨.bidirectional, context,
              ⟨"/helloworld.Greeter/Chat"⟩,
              chatPayloads (request.slots.map slotText)⟩]))
        ∧ s.readOut
          = request.slots.map (fun slot =>
              (.ok, .ofSlots [some (.string (f (slotText slot)))]))
            ++ [(.endOfStream, .empty)] := by
  have path : Function.chat.path = ⟨"/helloworld.Greeter/Chat"⟩ := by decide
  obtain ⟨t, made, packaged, serves⟩ := table_serves
  let texts := request.slots.map slotText
  let records := texts.map fun text => answerRecord (f text)
  let st : CallState := .streaming .unbounded attendance line dialled
  have fits : Function.chat.decl.kind.streamsResponses
      = ResponseShape.stream.isStream := rfl
  have alive_now : context.check st.line.surroundings = .ok () := alive
  have chatted := run_chat f alive attendance dialled
    (by rw [path]; exact answers) request
  rw [← path]
  refine ⟨t, made, ⟨records, none, true, false⟩, ?_, ?_⟩
  · rw [run_client_of_alive packaged serves .chat b.channel request fits
      alive_now, st.cleared_of_stream rfl]
    show DispatchTable.conclude .stream (run st (chat _ .stream)) = _
    rw [chatted]
    rfl
  · show records.map _ ++ _ = _
    rw [List.map_map, List.map_map]
    rfl

/-- A text, an absent slot and a number, answered in their turn. -/
theorem chat_answers_three_slots :
    let _ : Wording := ⟨fun _ _ => "expected value at line 1 column 1"⟩
    let b := (Loopback.ofTarget "mem" .insecure).on "/helloworld.Greeter/Chat"
      (answering fun text => "re: " ++ text)
    let context : CallContext := ⟨⟨0⟩, .unlimited, []⟩
    let request : Record := .ofSlots [some (.string "hi"), none, some (.int4 7)]
    ∃ t, table = .ok t ∧ ∃ s : RecordStream,
      run (.streaming .unbounded .unattended ⟨.start, []⟩ [])
          (t.client b.channel context Function.chat.key request .stream)
        = (.returned (), .streaming s .unattended
            ⟨.start, [⟨"/helloworld.Greeter/Chat"⟩]⟩
            [⟨.bidirectional, context, ⟨"/helloworld.Greeter/Chat"⟩,
              chatPayloads ["hi", "", ""]⟩])
        ∧ s.readOut
          = [(.ok, .ofSlots [some (.string "re: hi")]),
             (.ok, .ofSlots [some (.string "re: ")]),
             (.ok, .ofSlots [some (.string "re: ")]),
             (.endOfStream, .empty)] := by
  intro _ b context request
  exact chat_answers_each_slot b (fun text => "re: " ++ text) context request
    .unattended ⟨.start, []⟩ [] (Loopback.responder_on ..) rfl

end Greeter

end PluginRpc
