/-
What a call of the greeter sends.

A client's call that the gates let through is a run of the handler, and a
handler sends what the opening of the request says. So a run hands one
call to the channel or none, and none for three kinds of request only: no
name to greet, no number to count on from, two ways to get in touch.

The call is of the function's kind, under its path, and its payloads read
back as the messages. Nothing else of the channel is used: a channel that
does the same in this call leaves the same behind, whatever it would do in
others. A call that is stopped at a gate sends nothing.
-/
import PluginRpc.Proofs.Call.Recorded
import PluginRpc.Proofs.Greeter.Requests

namespace PluginRpc

/-- A call that is stopped at a gate hands nothing to the channel. -/
theorem DispatchTable.run_client_shut {t : DispatchTable} {channel : Channel}
    {context : CallContext} {key : DispatchKey} {request : Record}
    {shape : ResponseShape} {st : CallState} {e : ErrorInfo}
    (shut : t.gate context key shape st.line.surroundings = .error e) :
    (CallProgram.run st (t.client channel context key request shape)).2.dialled
      = st.dialled := by
  rw [run_client, shut]
  exact (CallProgram.run_dialled (CallProgram.without_fail shape e) _).trans
    st.cleared_dialled

namespace Greeter

open CallProgram

-- ================================================================== silence

/-- The requests that are dealt with without a call. -/
def Function.Withholds (request : Record) : Function → Prop
  | sayHello => ∀ s, request.slotAt 0 ≠ some (.string s)
  | addIntOne => ∀ n, request.slotAt 0 ≠ some (.int4 n)
  | describe =>
      ∃ email phone, request.slotAt 2 = some (.string email)
        ∧ request.slotAt 3 = some (.string phone)
  | _ => False

namespace Opening

theorem greeting_alone (name : Option String) :
    (greeting name).alone?.isSome ↔ name = none := by
  cases name <;> simp [greeting, alone?]

theorem successor_alone (value : Option Int32) :
    (successor value).alone?.isSome ↔ value = none := by
  cases value <;> simp [successor, alone?]

theorem portrait_alone (person : Person) (email phone : Option String) :
    (portrait person email phone).alone?.isSome
      ↔ ∃ e p, email = some e ∧ phone = some p := by
  cases email <;> cases phone <;> simp [portrait, alone?]

end Opening

theorem Function.withholds_iff (f : Function) (request : Record) :
    f.Withholds request ↔ (f.opening request).alone?.isSome := by
  cases f with
  | sayHello =>
      have nameless : request.valueAt 0 .string = none
          ↔ ∀ s : String, request.slotAt 0 ≠ some (.string s) :=
        Slot.get?_eq_none
      exact nameless.symm.trans (Opening.greeting_alone _).symm
  | addIntOne =>
      have numberless : request.valueAt 0 .int4 = none
          ↔ ∀ n : Int32, request.slotAt 0 ≠ some (.int4 n) :=
        Slot.get?_eq_none
      exact numberless.symm.trans (Opening.successor_alone _).symm
  | countUp | joinNames | chat => exact ⟨False.elim, nofun⟩
  | describe =>
      have holds : ∀ n (s : String), request.valueAt n .string = some s
          ↔ request.slotAt n = some (.string s) := fun _ _ => Slot.get?_eq_some
      refine Iff.trans ?_ (Opening.portrait_alone _ _ _).symm
      exact exists_congr fun email => exists_congr fun phone =>
        and_congr (holds 2 email).symm (holds 3 phone).symm

/-- Only functions that answer with a record ever do without a call. -/
theorem Function.unstreamed_of_alone {f : Function} {request : Record}
    (alone : (f.opening request).alone?.isSome) :
    f.decl.kind.streamsResponses = false := by
  cases f with
  | sayHello | addIntOne | describe | joinNames => rfl
  | countUp | chat => cases alone

-- =================================================================== gates

/-- The gates let a call of a function through: the response has the right
shape, and the context is alive. -/
structure Function.Admits (f : Function) (context : CallContext)
    (st : CallState) : Prop where
  fits : f.decl.kind.streamsResponses = st.response.shape.isStream
  alive : context.check st.line.surroundings = .ok ()

theorem gate_of_not_admits [Wording] {t : DispatchTable}
    (serves : ∀ f : Function,
      t.route? f.key = some ⟨f.path, f.decl, f.handler⟩)
    {f : Function} {context : CallContext} {st : CallState}
    (shut : ¬ f.Admits context st) :
    ∃ e, t.gate context f.key st.response.shape st.line.surroundings
      = .error e := by
  unfold DispatchTable.gate
  rw [serves f]
  dsimp only
  split
  · next fits =>
      cases alive : context.check st.line.surroundings with
      | error e => exact ⟨e, rfl⟩
      | ok u => exact absurd ⟨fits, alive⟩ shut
  · exact ⟨_, rfl⟩

-- ============================================================ what is sent

theorem Function.callOf_eq (f : Function) (context : CallContext)
    (messages : List f.Request) :
    f.callOf context messages
      = ⟨f.decl.kind, context, ⟨"/helloworld.Greeter/" ++ f.decl.name⟩,
          messages.map encode⟩ := by
  unfold callOf
  rw [path_eq]

theorem without_answer (slot : Slot) : (answer slot).Without CallOp.Dials :=
  (without_edit _).bind fun _ => trivial

section Sent

variable [Wording]

/-- A run makes one call, `ran` being the run for any channel. -/
structure Function.CallsOnce (f : Function) (st : CallState)
    (ran : Channel → Outcome Unit × CallState) (channel : Channel)
    (call : ChannelCall) : Prop where
  dialled : (ran channel).2.dialled = st.dialled ++ [call]
  /-- Once the call is handed over, the channel does its part, and the
  handler sees to what comes back. -/
  carried : ∃ x, f.Carries channel call x
    ∧ ran channel = DispatchTable.conclude st.response.shape
        (run st.cleared ((dial call).bind fun _ => x))
  /-- Whatever the channel would do in other calls makes no difference. -/
  only : ∀ other, channel.MatchedBy other call → ran other = ran channel

/-- What a run shows of the opening of its request. -/
def Opening.Shows {f : Function} (context : CallContext) (st : CallState)
    (ran : Channel → Outcome Unit × CallState) (channel : Channel) :
    Opening f → Prop
  | sends messages =>
      let payloads := messages.map encode
      f.CallsOnce st ran channel ⟨f.decl.kind, context,
          ⟨"/helloworld.Greeter/" ++ f.decl.name⟩, payloads⟩
        ∧ payloads.map decode = messages.map .ok
  | answers slot =>
      ran channel
        = (.returned (), { st with response := .record ⟨[slot], none⟩ })
  | refuses e =>
      ran channel
        = (.returned (), { st with response := .record ⟨[], some e⟩ })

theorem Function.without_finish (f : Function)
    (reply : Except ErrorInfo Payload) :
    (f.finish reply).Without CallOp.Dials := by
  unfold finish answerWith
  split
  · exact trivial
  · exact without_answer _

theorem without_relayOne {α : Type} [Message α] (fill : α → Slot)
    (unread : Option ErrorInfo) (reply : Payload) :
    (relayOne fill unread reply).Without CallOp.Dials := by
  unfold relayOne
  split
  · exact trivial
  · refine (without_push _).bind fun taken => ?_
    cases taken <;> exact trivial

/-- Behind its one call a handler calls nobody. -/
theorem Function.Carries.without {f : Function} {channel : Channel}
    {call : ChannelCall} {x : CallProgram (Except ErrorInfo Unit)}
    (carries : f.Carries channel call x) : x.Without CallOp.Dials := by
  cases carries with
  | answered unstreamed answers =>
      exact (Program.without_within (fun _ => id) _).bind f.without_finish
  | delivered streamed delivers =>
      exact (Program.without_receive (fun _ => id) (without_relayOne _) none _).bind
        fun _ => trivial

theorem Function.Carries.matched {f : Function} {channel other : Channel}
    {call : ChannelCall} {x : CallProgram (Except ErrorInfo Unit)}
    (same : channel.MatchedBy other call) (carries : f.Carries channel call x) :
    f.Carries other call x := by
  cases carries with
  | answered unstreamed answers =>
      exact .answered unstreamed (same.answers _ answers)
  | delivered streamed delivers =>
      exact .delivered streamed (same.delivers _ delivers)

/-- The payloads of a call read back as its messages. -/
theorem Function.decode_encode (f : Function) (messages : List f.Request) :
    (messages.map encode).map decode
      = messages.map (Except.ok (ε := ErrorInfo)) := by
  rw [List.map_map]
  exact List.map_congr_left fun m _ => (f.request_returns m).decode_encode

section Dispatched

variable {t : DispatchTable} (packaged : t.package = package)
  (serves : ∀ f : Function, t.route? f.key = some ⟨f.path, f.decl, f.handler⟩)
  {f : Function} {context : CallContext} {st : CallState}
  (admits : f.Admits context st) (channel : Channel) {request : Record}

include packaged serves admits

/-- A call with messages to send hands them to the channel and goes by
what the channel does with them. -/
theorem run_client_sends {messages : List f.Request}
    (sends : f.opening request = .sends messages)
    {x : CallProgram (Except ErrorInfo Unit)}
    (carries : f.Carries channel (f.callOf context messages) x) :
    run st (t.client channel context f.key request st.response.shape)
      = DispatchTable.conclude st.response.shape (run st.cleared
          ((dial (f.callOf context messages)).bind fun _ => x)) := by
  rw [run_client_of_alive packaged serves f channel request admits.fits
    admits.alive]
  rw [Function.handler_sends channel context admits.fits sends carries]

/-- A call that has nothing to send is over at once. -/
theorem run_client_alone {x : CallProgram (Except ErrorInfo Unit)}
    (alone : (f.opening request).alone? = some x) :
    run st (t.client channel context f.key request st.response.shape)
      = DispatchTable.conclude .record
          (run (.recording .empty st.line st.dialled) x) := by
  have plays := f.handler_plays channel context request admits.fits
  have unstreamed : f.decl.kind.streamsResponses = false :=
    Function.unstreamed_of_alone (by rw [alone]; rfl)
  rw [run_client_of_alive packaged serves f channel request admits.fits
    admits.alive, plays.alone alone]
  have fits := admits.fits
  rw [unstreamed] at fits
  obtain ⟨response, line, dialled⟩ := st
  cases response with
  | record prior => rfl
  | stream o => cases fits

theorem callsOnce_of_admits {messages : List f.Request}
    (sends : f.opening request = .sends messages) :
    f.CallsOnce st (fun channel =>
        run st (t.client channel context f.key request st.response.shape))
      channel (f.callOf context messages) := by
  obtain ⟨x, carries⟩ := Function.carries_total channel context sends
  have ran := run_client_sends packaged serves admits channel sends carries
  refine ⟨?_, ⟨x, carries, ran⟩, fun other same => ?_⟩
  · rw [ran, DispatchTable.conclude_dialled, run_dial_bind carries.without,
      st.cleared_dialled]
  · exact (run_client_sends packaged serves admits other sends
      (carries.matched same)).trans ran.symm

theorem shows_of_admits (request : Record) :
    (f.opening request).Shows context st (fun channel =>
      run st (t.client channel context f.key request st.response.shape))
      channel := by
  cases opening : f.opening request with
  | sends messages =>
      have once := callsOnce_of_admits packaged serves admits channel opening
      rw [f.callOf_eq] at once
      exact ⟨once, f.decode_encode messages⟩
  | answers slot =>
      exact run_client_alone packaged serves admits channel
        (congrArg Opening.alone? opening)
  | refuses e =>
      exact run_client_alone packaged serves admits channel
        (congrArg Opening.alone? opening)

end Dispatched

theorem Opening.Shows.dialled_iff {f : Function} {context : CallContext}
    {st : CallState} {ran : Channel → Outcome Unit × CallState}
    {channel : Channel} {opening : Opening f}
    (shows : opening.Shows context st ran channel) :
    (ran channel).2.dialled = st.dialled ↔ opening.alone?.isSome := by
  cases opening with
  | sends messages =>
      refine ⟨fun same => ?_, nofun⟩
      have longer := congrArg List.length (shows.1.dialled.symm.trans same)
      simp at longer
  | answers slot | refuses e =>
      have dialled : (ran channel).2.dialled = st.dialled :=
        congrArg (fun r => r.2.dialled) shows
      exact ⟨fun _ => rfl, fun _ => dialled⟩

/-- What a call of the greeter sends. A call that the gates let through
hands the messages of its request to the channel in one call, unless it is
one of those that need none, and makes no other use of the channel; a call
that is stopped at a gate makes none at all. -/
theorem request_goes_out (f : Function) (channel : Channel)
    (context : CallContext) (request : Record) (st : CallState) :
    ∃ t, table = .ok t ∧
      let ran := fun channel : Channel =>
        run st (t.client channel context f.key request st.response.shape)
      (f.Admits context st →
          (f.opening request).Shows context st ran channel
            ∧ ((ran channel).2.dialled = st.dialled ↔ f.Withholds request))
        ∧ (¬ f.Admits context st → (ran channel).2.dialled = st.dialled) := by
  obtain ⟨t, made, packaged, serves⟩ := table_serves
  refine ⟨t, made, fun admits => ?_, fun shut => ?_⟩
  · have shows := shows_of_admits packaged serves admits channel request
    exact ⟨shows, shows.dialled_iff.trans (f.withholds_iff request).symm⟩
  · obtain ⟨e, closed⟩ := gate_of_not_admits serves shut
    exact DispatchTable.run_client_shut closed

end Sent

/-- A person of no age, with a number where the mail address should be: the
telephone number is still found. -/
theorem description_goes_out :
    let _ : Wording := ⟨fun _ _ => "expected value at line 1 column 1"⟩
    let channel := (Loopback.ofTarget "mem" .insecure).channel
    let context : CallContext := ⟨⟨0⟩, .unlimited, []⟩
    let request : Record := .ofSlots
      [some (.string "Ann"), none, some (.int4 5), some (.string "12")]
    ∃ t, table = .ok t
      ∧ (run (.recording .empty ⟨.start, []⟩ [])
          (t.client channel context Function.describe.key request .record)).2.dialled
        = [⟨.unary, context, ⟨"/helloworld.Greeter/Describe"⟩,
            [encode (⟨⟨"Ann", 0⟩, some (.phone "12")⟩ : DescribeRequest)]⟩] := by
  intro _ channel context request
  obtain ⟨t, made, ran, -⟩ := request_goes_out .describe channel context request
    (.recording .empty ⟨.start, []⟩ [])
  obtain ⟨shows, -⟩ := ran ⟨rfl, rfl⟩
  exact ⟨t, made, shows.1.dialled⟩

end Greeter

end PluginRpc
