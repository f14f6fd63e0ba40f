/-
The greeter's table, and what its handlers are given.

The table serves the six functions of the service, each by its own
handler and under its own path. So a call that passes the gates runs the
handler of its function, with an invocation that depends on nothing but
the call: `Function.invocation`. What the handlers read from it row by
row is one slot a row, since the records that are read in this way have
one column.
-/
import PluginRpc.Greeter.Plugin
import PluginRpc.Proofs.Dispatch.Gates

namespace PluginRpc

/-- Pieces of one member each. -/
theorem chunks_one {α : Type} (l : List α) : chunks 1 l = l.map fun a => [a] := by
  induction l with
  | nil => rw [chunks, List.map_nil]
  | cons a rest ih =>
      rw [chunks]
      show [a] :: chunks 1 rest = _
      rw [ih, List.map_cons]

namespace Greeter

open CallProgram

/-- The path of a function. -/
def Function.path (f : Function) : MethodPath :=
  .of package.name service.name f.decl.name

/-- There is a table, and it serves every function. -/
theorem table_serves [Wording] :
    ∃ t, table = .ok t ∧ t.package = package ∧ ∀ f : Function,
      t.route? f.key = some ⟨f.path, f.decl, f.handler⟩ := by
  refine ⟨_, rfl, rfl, fun f => ?_⟩
  cases f <;> rfl

-- ============================================================ open gates

/-- What the handler of a function is given. -/
def Function.invocation (f : Function) (channel : Channel)
    (context : CallContext) (request : Record) : Invocation :=
  ⟨context, channel, f.path, f.decl, records, request⟩

/-- A call of the greeter in the right shape and with a live context is a
run of the function's handler. -/
theorem run_client_of_alive [Wording] {t : DispatchTable}
    (packaged : t.package = package)
    (serves : ∀ f : Function,
      t.route? f.key = some ⟨f.path, f.decl, f.handler⟩)
    (f : Function) (channel : Channel) {context : CallContext}
    (request : Record) {shape : ResponseShape} {st : CallState}
    (fits : f.decl.kind.streamsResponses = shape.isStream)
    (alive : context.check st.line.surroundings = .ok ()) :
    run st (t.client channel context f.key request shape)
      = DispatchTable.conclude shape (run st.cleared
          (f.handler (f.invocation channel context request) shape)) := by
  rw [DispatchTable.run_client]
  unfold DispatchTable.gate
  rw [serves f]
  dsimp only
  rw [if_pos fits, alive]
  show DispatchTable.conclude shape (run st.cleared (f.handler
    ⟨context, channel, f.path, f.decl, t.package.records, request⟩ shape)) = _
  rw [packaged]
  rfl

-- =============================================================== the rows

/-- The text of a slot; empty if the slot is absent or holds something
else. -/
def slotText : Slot → String
  | some (.string s) => s
  | _ => ""

theorem fetch_getD_slotText (slot : Slot) :
    ((Cursor.start [slot]).fetch .string).1.getD "" = slotText slot := by
  cases slot with
  | none => rfl
  | some value => cases value <;> rfl

/-- Where the rows have one column, each slot of the request is a row. -/
theorem rowTexts_of_width_one {i : Invocation} (one : i.width = 1) :
    rowTexts i = i.request.slots.map slotText := by
  unfold rowTexts Invocation.rows
  rw [one, chunks_one, List.map_map, List.map_map]
  exact List.map_congr_left fun slot _ => fetch_getD_slotText slot

end Greeter

end PluginRpc
