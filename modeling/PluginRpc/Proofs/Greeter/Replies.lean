/-
What a reply becomes in a response record.

The functions that are answered by one message put one slot into the
response, and only once the whole reply has been read. Until then nothing
is written, so whatever goes wrong before leaves a record without slots: a
gate that is shut, a request that is refused, a channel that fails or
panics, bytes that are no reply.

`Function.settle` says what the channel's end of the call becomes, case by
case; it depends on nothing else. All that a channel can do comes down to
how it ends, since in such a call it has no hand in the response.
-/
import PluginRpc.Proofs.Dispatch.Recording
import PluginRpc.Proofs.Greeter.Calls

namespace PluginRpc.Greeter

open CallProgram

-- ================================================================ the ends

namespace Function

/-- What a slot of an answer may hold. -/
def Yields (slot : Slot) : Function → Prop
  | addIntOne => slot = none ∨ ∃ n, slot = some (.int4 n)
  | countUp => ∃ n, slot = some (.int8 n)
  | _ => ∃ s, slot = some (.string s)

/-- One slot and no error, or an error and no slots. -/
def AllOrNothing (f : Function) (final : Record) : Prop :=
  (∃ slot, final = ⟨[slot], none⟩ ∧ f.Yields slot) ∨ ∃ e, final = ⟨[], some e⟩

/-- What the end of the channel's part in a call becomes. -/
def settle [Wording] (f : Function) : Ending (Except ErrorInfo Payload) → Record
  | .returned (.error e) => ⟨[], some e⟩
  | .returned (.ok bytes) =>
      match (decode? bytes : Option f.Reply) with
      | some reply => ⟨[f.slotOf reply], none⟩
      | none =>
          ⟨[], some (.invalidArgument
            ("malformed payload: " ++ Wording.unread f.Reply bytes))⟩
  | .panicked p =>
      ⟨[], some (.internal ("dispatch handler panicked: " ++ p.detail))⟩

theorem yields_slotOf : (f : Function) → (reply : f.Reply) →
    f.Yields (f.slotOf reply)
  | addIntOne, reply => .inr ⟨reply.value, rfl⟩
  | countUp, reply => ⟨reply.value, rfl⟩
  | sayHello, reply => ⟨reply.message, rfl⟩
  | joinNames, reply => ⟨reply.message, rfl⟩
  | chat, reply => ⟨reply.text, rfl⟩
  | describe, reply => ⟨reply.summary, rfl⟩

theorem allOrNothing_settle [Wording] (f : Function)
    (ending : Ending (Except ErrorInfo Payload)) :
    f.AllOrNothing (f.settle ending) := by
  cases ending with
  | panicked p => exact .inr ⟨_, rfl⟩
  | returned reply =>
      cases reply with
      | error e => exact .inr ⟨_, rfl⟩
      | ok bytes =>
          unfold settle
          dsimp only
          split
          · exact .inl ⟨_, rfl, f.yields_slotOf _⟩
          · exact .inr ⟨_, rfl⟩

/-- An answer that needs no call is an answer like any other. -/
theorem yields_of_answers {f : Function} {request : Record} {slot : Slot}
    (answers : f.opening request = .answers slot) : f.Yields slot := by
  cases f with
  | addIntOne =>
      have numbered : Opening.successor (request.valueAt 0 .int4) = _ := answers
      generalize request.valueAt 0 .int4 = value at numbered
      cases value <;> cases numbered
      exact .inl rfl
  | sayHello =>
      have named : Opening.greeting (request.valueAt 0 .string) = _ := answers
      generalize request.valueAt 0 .string = name at named
      cases name <;> cases named
  | describe =>
      have drawn : Opening.portrait _ (request.valueAt 2 .string)
        (request.valueAt 3 .string) = _ := answers
      generalize request.valueAt 2 .string = email at drawn
      generalize request.valueAt 3 .string = phone at drawn
      cases email <;> cases phone <;> cases drawn
  | countUp | joinNames | chat => cases answers

end Function

-- =============================================================== the records

/-- Behind a call that is answered by one message there is in the record
what the channel's end of it becomes. -/
theorem run_answered [Wording] (f : Function) (line : Line)
    (dialled : List ChannelCall) (x : Program wire (Except ErrorInfo Payload)) :
    DispatchTable.conclude .record
        (run (.recording .empty line dialled) (x.within.bind f.finish))
      = (.returned (), .recording (f.settle (x.runWire line).1)
          (x.runWire line).2 dialled) := by
  have ran := run_within (.recording .empty line dialled) x
  have same : (CallState.recording .empty line dialled).line = line := rfl
  rw [same] at ran
  rw [run_bind, ran]
  generalize x.runWire line = ended
  obtain ⟨ending, line'⟩ := ended
  cases ending with
  | panicked p => rfl
  | returned reply =>
      cases reply with
      | error e => rfl
      | ok bytes =>
          show DispatchTable.conclude .record
            (run _ (f.answerWith (decode bytes))) = _
          unfold decode Function.settle
          dsimp only
          cases (decode? bytes : Option f.Reply) <;> rfl

/-- What a call of the greeter leaves in a response record: one slot, or
an error and no slots, whatever was there before. A call that was handed
to the channel leaves what the channel's end of it becomes. -/
theorem record_is_whole [Wording] (f : Function)
    (unstreamed : f.decl.kind.streamsResponses = false) (channel : Channel)
    (context : CallContext) (request : Record) (line : Line)
    (dialled : List ChannelCall) :
    ∃ t, table = .ok t ∧ ∃ final line' dialled',
      (∀ prior, run (.recording prior line dialled)
          (t.client channel context f.key request .record)
        = (.returned (), .recording final line' dialled'))
      ∧ f.AllOrNothing final
      ∧ ((f.Withholds request ∨ context.check line.surroundings ≠ .ok ())
          ∧ line' = line ∧ dialled' = dialled
        ∨ ∃ call x, dialled' = dialled ++ [call] ∧ channel.Answers call x
          ∧ final = f.settle (x.runWire line).1
          ∧ line' = (x.runWire line).2) := by
  obtain ⟨t, made, packaged, serves⟩ := table_serves
  refine ⟨t, made, ?_⟩
  by_cases alive : context.check line.surroundings = .ok ()
  · have admits : ∀ prior, f.Admits context (.recording prior line dialled) :=
      fun prior => ⟨unstreamed, alive⟩
    cases opening : f.opening request with
    | sends messages =>
        obtain ⟨x, carries⟩ := Function.carries_total channel context opening
        have ran := fun prior =>
          run_client_sends packaged serves (admits prior) channel opening carries
        cases carries with
        | @answered x _ answers =>
            have settled := run_answered f line
              (dialled ++ [f.callOf context messages]) x
            exact ⟨_, _, _, fun prior => (ran prior).trans settled,
              f.allOrNothing_settle _, .inr ⟨_, _, rfl, answers, rfl, rfl⟩⟩
        | delivered streamed =>
            rw [unstreamed] at streamed
            cases streamed
    | answers slot =>
        exact ⟨⟨[slot], none⟩, line, dialled, fun prior =>
          run_client_alone packaged serves (admits prior) channel
            (congrArg Opening.alone? opening),
          .inl ⟨slot, rfl, f.yields_of_answers opening⟩,
          .inl ⟨.inl ((f.withholds_iff request).mpr (by rw [opening]; rfl)),
            rfl, rfl⟩⟩
    | refuses e =>
        exact ⟨⟨[], some e⟩, line, dialled, fun prior =>
          run_client_alone packaged serves (admits prior) channel
            (congrArg Opening.alone? opening),
          .inr ⟨e, rfl⟩,
          .inl ⟨.inl ((f.withholds_iff request).mpr (by rw [opening]; rfl)),
            rfl, rfl⟩⟩
  · have shut : ¬ f.Admits context (.recording .empty line dialled) :=
      fun admits => alive admits.alive
    obtain ⟨e, closed⟩ := gate_of_not_admits serves shut
    exact ⟨⟨[], some e⟩, line, dialled,
      t.run_client_rejected channel context f.key request line dialled closed,
      .inr ⟨e, rfl⟩, .inl ⟨.inr alive, rfl, rfl⟩⟩

/-- A reply that breaks off is no reply, and the record that was there
before is gone. -/
theorem record_is_whole_behind_broken_reply :
    let text := "EOF while parsing an object at line 1 column 1"
    let _ : Wording := ⟨fun _ _ => text⟩
    let channel : Channel := {
      target := "mem"
      credentials := .insecure
      outline := .word "Broken"
      unary := fun _ _ _ => .done (.ok [0x7b])
      clientStreaming := fun _ _ _ => .done (.ok [0x7b]) }
    let context : CallContext := ⟨⟨0⟩, .unlimited, []⟩
    let request : Record := .ofSlots [some (.int4 5)]
    let prior : Record :=
      ⟨[some (.bool true), none], some (.invalidArgument "reused")⟩
    ∃ t, table = .ok t ∧ ∃ line' dialled',
      run (.recording prior ⟨.start, []⟩ [])
          (t.client channel context Function.addIntOne.key request .record)
        = (.returned (), .recording
            ⟨[], some (.invalidArgument ("malformed payload: " ++ text))⟩
            line' dialled') := by
  intro text _ channel context request prior
  obtain ⟨t, made, final, line', dialled', ran, -, unsent | sent⟩ :=
    record_is_whole .addIntOne rfl channel context request ⟨.start, []⟩ []
  · obtain ⟨withholds | dead, -⟩ := unsent
    · exact absurd rfl (withholds 5)
    · exact absurd rfl dead
  · obtain ⟨call, x, -, answers, rfl, -⟩ := sent
    refine ⟨t, made, line', dialled', (ran prior).trans ?_⟩
    -- both ways of calling break off in the same place
    cases answers <;> rfl

end PluginRpc.Greeter
