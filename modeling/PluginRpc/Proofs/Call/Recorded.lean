/-
Runs that answer through a record.

A record has no room that could run out and no reader who could be late,
so no operation on it waits, and every program of a call runs to its end.
What is left in the record is then a matter of the edits alone: those
that the run made, in their order, made to whatever was there before.

An operation may also look at the record, and a program may go by what it
sees. So the edits of a run are not the same for every record that it
starts from, and `performed` has to be asked at the very record.
-/
import PluginRpc.Proofs.Call.Run

namespace PluginRpc

-- ================================================================ edits

/-- The edit that an operation makes to a response record. -/
def CallOp.edit? : CallOp → Option Record.Edit
  | .edit e => some e
  | _ => none

/-- The edits that some operations make, in order. -/
def editsBy (ops : List CallOp) : List Record.Edit := ops.filterMap CallOp.edit?

theorem editsBy_cons (op : CallOp) (ops : List CallOp) :
    editsBy (op :: ops) = op.edit?.toList ++ editsBy ops := by
  unfold editsBy
  rw [List.filterMap_cons]
  cases op.edit? with
  | none => rfl
  | some e => rfl

theorem Record.applyAll_append (r : Record) (first second : List Edit) :
    r.applyAll (first ++ second) = (r.applyAll first).applyAll second := by
  unfold applyAll
  exact List.foldl_append

-- ================================================================= runs

/-- The state of a call that answers through a record. -/
def CallState.recording (r : Record) (line : Line)
    (dialled : List ChannelCall) : CallState :=
  ⟨.record r, line, dialled⟩

theorem CallState.cleared_recording (r : Record) (line : Line)
    (dialled : List ChannelCall) :
    (recording r line dialled).cleared = recording .empty line dialled := rfl

namespace CallProgram

variable {α : Type}

/-- No operation waits, and only edits touch the record. -/
theorem run?_recording (r : Record) (line : Line)
    (dialled : List ChannelCall) (op : CallOp) :
    ∃ answer line' dialled',
      CallOp.run? (.recording r line dialled) op
        = some (answer,
            .recording (r.applyAll op.edit?.toList) line' dialled') := by
  cases op with
  | wire op => exact ⟨_, _, _, rfl⟩
  | inspect => exact ⟨_, _, _, rfl⟩
  | edit e => exact ⟨_, _, _, rfl⟩
  | push r => exact ⟨_, _, _, rfl⟩
  | endStream => exact ⟨_, _, _, rfl⟩
  | close => exact ⟨_, _, _, rfl⟩
  | transfer => exact ⟨_, _, _, rfl⟩
  | dial c => exact ⟨_, _, _, rfl⟩

/-- A run comes to an end, and leaves of the record what its edits
leave. -/
theorem run_recording (r : Record) (line : Line)
    (dialled : List ChannelCall) (x : CallProgram α) :
    ∃ outcome line' dialled',
      run (.recording r line dialled) x
        = (outcome, .recording
            (r.applyAll (editsBy (performed (.recording r line dialled) x)))
            line' dialled')
      ∧ outcome ≠ .stalled := by
  induction x generalizing r line dialled with
  | done a => exact ⟨_, line, dialled, rfl, nofun⟩
  | panic p => exact ⟨_, line, dialled, rfl, nofun⟩
  | perform op next ih =>
      obtain ⟨answer, line', dialled', answered⟩ :=
        run?_recording r line dialled op
      obtain ⟨outcome, line'', dialled'', ran, ended⟩ :=
        ih answer (r.applyAll op.edit?.toList) line' dialled'
      have edits : editsBy
            (performed (.recording r line dialled) (.perform op next))
          = (CallOp.edit? op).toList ++ editsBy (performed
              (.recording (r.applyAll (CallOp.edit? op).toList) line' dialled')
              (next answer)) := by
        rw [performed, answered]
        exact editsBy_cons op _
      refine ⟨outcome, line'', dialled'', ?_, ended⟩
      rw [run_perform, answered, edits, Record.applyAll_append]
      exact ran

end CallProgram

end PluginRpc
