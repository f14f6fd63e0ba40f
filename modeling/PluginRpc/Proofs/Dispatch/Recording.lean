/-
How a call that answers through a record ends.

A caller may use one record for call after call. So nothing that was in
it before may show afterwards, be it slots or an error, and that is more
than the record's being overwritten: the handler may look at the record,
and what it does may depend on what it sees. The record is therefore reset
before anything else happens, before the address is even looked up, and a
handler finds the same empty record in every call.

# What a caller finds

`Answers` gives the final record by rules, one for each way in which a
call can end. A rejected call has an error and no slots. Behind a handler
the slots are those it has built, also if it fails or panics half way;
and the failure is told by the error, even where the handler had attached
one of its own. The prior record is in none of the rules.
-/
import PluginRpc.Proofs.Call.Recorded
import PluginRpc.Proofs.Dispatch.Gates

namespace PluginRpc.DispatchTable

open CallProgram

variable (t : DispatchTable) (channel : Channel) (context : CallContext)
  (key : DispatchKey) (request : Record) (line : Line)
  (dialled : List ChannelCall)

-- ============================================================ the answers

/-- The run of a route's handler on an empty record. -/
def handlerRun (r : Route) : Outcome (Except ErrorInfo Unit) × CallState :=
  run (.recording .empty line dialled)
    (r.handler (t.invocation channel context request r) .record)

/-- What the edits of a route's handler make of an empty record. -/
def built (r : Route) : Record :=
  Record.empty.applyAll (editsBy (performed (.recording .empty line dialled)
    (r.handler (t.invocation channel context request r) .record)))

/-- What is in the response record behind a call. -/
inductive Answers : Record → Prop
  /-- The call reached no handler. -/
  | rejected {e : ErrorInfo}
      (shut : t.gate context key .record line.surroundings = .error e) :
      Answers ⟨[], some e⟩
  | succeeded {r : Route}
      (reached : t.gate context key .record line.surroundings = .ok r)
      (ended : (t.handlerRun channel context request line dialled r).1
        = .returned (.ok ())) :
      Answers (t.built channel context request line dialled r)
  | failed {r : Route} {e : ErrorInfo}
      (reached : t.gate context key .record line.surroundings = .ok r)
      (ended : (t.handlerRun channel context request line dialled r).1
        = .returned (.error e)) :
      Answers ⟨(t.built channel context request line dialled r).slots, some e⟩
  | panicked {r : Route} {p : Panic}
      (reached : t.gate context key .record line.surroundings = .ok r)
      (ended : (t.handlerRun channel context request line dialled r).1
        = .panicked p) :
      Answers ⟨(t.built channel context request line dialled r).slots,
        some (.internal ("dispatch handler panicked: " ++ p.detail))⟩

-- ============================================================== the calls

/-- A call that reaches no handler. -/
theorem run_client_rejected {e : ErrorInfo}
    (shut : t.gate context key .record line.surroundings = .error e)
    (prior : Record) :
    run (.recording prior line dialled)
        (t.client channel context key request .record)
      = (.returned (), .recording ⟨[], some e⟩ line dialled) := by
  have gate : t.gate context key .record
      (CallState.recording prior line dialled).line.surroundings
        = .error e := shut
  rw [run_client, gate]
  rfl

/-- A call that reaches a handler is the handler's run on an empty record,
and what is made of the end of that. -/
theorem run_client_reached {r : Route}
    (reached : t.gate context key .record line.surroundings = .ok r)
    (prior : Record) :
    run (.recording prior line dialled)
        (t.client channel context key request .record)
      = conclude .record
          (t.handlerRun channel context request line dialled r) := by
  have gate : t.gate context key .record
      (CallState.recording prior line dialled).line.surroundings
        = .ok r := reached
  rw [run_client, gate, CallState.cleared_recording]
  rfl

/-- The record that a handler leaves is the one that its edits build. -/
theorem handlerRun_eq (r : Route) :
    ∃ outcome line' dialled',
      t.handlerRun channel context request line dialled r
        = (outcome, .recording (t.built channel context request line dialled r)
            line' dialled')
      ∧ outcome ≠ .stalled :=
  run_recording .empty line dialled
    (r.handler (t.invocation channel context request r) .record)

/-- However a call ends, there is a rule for it. -/
theorem answers_total :
    ∃ a, t.Answers channel context key request line dialled a := by
  cases decided : t.gate context key .record line.surroundings with
  | error e => exact ⟨_, .rejected decided⟩
  | ok r =>
      obtain ⟨outcome, line', dialled', left, ended⟩ :=
        t.handlerRun_eq channel context request line dialled r
      have outcome_eq := congrArg Prod.fst left
      cases outcome with
      | stalled => exact absurd rfl ended
      | panicked p => exact ⟨_, .panicked decided outcome_eq⟩
      | returned result =>
          cases result with
          | ok u => exact ⟨_, .succeeded decided outcome_eq⟩
          | error e => exact ⟨_, .failed decided outcome_eq⟩

variable {t channel context key request line dialled}

/-- Where a rule applies, the call leaves the rule's record, whatever was
in the record before. -/
theorem Answers.run {a : Record}
    (h : t.Answers channel context key request line dialled a) :
    ∃ line' dialled', ∀ prior : Record,
      CallProgram.run (.recording prior line dialled)
          (t.client channel context key request .record)
        = (.returned (), .recording a line' dialled') := by
  cases h with
  | rejected shut =>
      exact ⟨line, dialled,
        t.run_client_rejected channel context key request line dialled shut⟩
  | @succeeded r reached ended | @failed r e reached ended
  | @panicked r p reached ended =>
      obtain ⟨outcome, line', dialled', left, -⟩ :=
        t.handlerRun_eq channel context request line dialled r
      have outcome_eq := congrArg Prod.fst left
      rw [ended] at outcome_eq
      refine ⟨line', dialled', fun prior => ?_⟩
      rw [t.run_client_reached channel context key request line dialled
        reached, left]
      -- the end of the handler's run, which is known, decides the rest
      cases outcome_eq
      rfl

variable (t channel context key request line dialled)

/-- A call that answers through a record returns, and leaves in the record
what the rules say and nothing else. What it leaves, there and elsewhere,
is the same whatever was in the record before. -/
theorem record_call_forgets_prior :
    ∃ final line' dialled',
      (∀ a, t.Answers channel context key request line dialled a ↔ a = final)
        ∧ ∀ prior : Record,
          run (.recording prior line dialled)
              (t.client channel context key request .record)
            = (.returned (), .recording final line' dialled') := by
  obtain ⟨final, answers⟩ :=
    t.answers_total channel context key request line dialled
  obtain ⟨line', dialled', runs⟩ := answers.run
  refine ⟨final, line', dialled', fun a => ⟨fun h => ?_, fun h => ?_⟩, runs⟩
  · -- two rules that apply are about one run
    obtain ⟨_, _, runs'⟩ := h.run
    have same := (runs .empty).symm.trans (runs' .empty)
    cases same
    rfl
  · rw [h]
    exact answers

end PluginRpc.DispatchTable
