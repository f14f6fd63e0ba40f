/-
Failing a response.

A call that goes wrong is told through its response: a record gets the
error, a stream gets a last record that carries it and is ended. The push
of that record is an ordinary push, so a stream that is no longer live
takes nothing more, and a stream that is full may keep the call waiting.
`Response.Fails` says what becomes of a response wherever nobody has to
wait.

A response keeps its shape in every run: who fails a response at the end
of a run finds it of the shape in which it was handed in.
-/
import PluginRpc.Proofs.Call.Unbounded

namespace PluginRpc

-- ============================================================ the shapes

namespace CallOp

theorem shape_onStream (st : CallState) (f : RecordStream → RecordStream) :
    (onStream st f).response.shape = st.response.shape := by
  obtain ⟨response, line, dialled⟩ := st
  cases response <;> rfl

theorem shape_run? {st st' : CallState} {op : CallOp} {answer : op.Answer}
    (answered : run? st op = some (answer, st')) :
    st'.response.shape = st.response.shape := by
  obtain ⟨response, line, dialled⟩ := st
  cases op with
  | wire op | dial c =>
      cases answered
      rfl
  | endStream | close =>
      cases answered
      exact shape_onStream _ _
  | inspect | edit e =>
      cases response <;> cases answered <;> rfl
  | transfer =>
      cases response with
      | record r =>
          cases answered
          rfl
      | stream o =>
          cases answered
          exact shape_onStream _ _
  | push r =>
      cases response with
      | record prior =>
          cases answered
          rfl
      | stream o =>
          obtain ⟨result, -, same⟩ := Option.map_eq_some_iff.mp answered
          cases same
          rfl

end CallOp

namespace CallProgram

variable {α : Type}

/-- A run leaves a response of the shape that it found. -/
theorem shape_run (st : CallState) (x : CallProgram α) :
    (run st x).2.response.shape = st.response.shape := by
  induction x generalizing st with
  | done a => rfl
  | panic p => rfl
  | perform op next ih =>
      rw [run_perform]
      cases answered : CallOp.run? st op with
      | none => rfl
      | some result =>
          have step := CallOp.shape_run? answered
          exact (ih result.1 result.2).trans step

-- =========================================================== no panicking

/-- A single operation may have to wait, but it does not panic. -/
theorem run_ask_ne_panicked (st : CallState) (op : call.Op) (p : Panic) :
    (run st (Program.ask op)).1 ≠ .panicked p := by
  have asked := run_perform st op Program.done
  intro panicked
  rw [show run st (Program.ask op) = _ from asked] at panicked
  cases answered : CallOp.run? st op with
  | none =>
      rw [answered] at panicked
      cases panicked
  | some result =>
      rw [answered] at panicked
      cases panicked

theorem run_bind_ne_panicked {β : Type} {st : CallState}
    {x : CallProgram α} {f : α → CallProgram β} {p : Panic}
    (calm : (run st x).1 ≠ .panicked p)
    (calm_behind : ∀ a st', (run st' (f a)).1 ≠ .panicked p) :
    (run st (x.bind f)).1 ≠ .panicked p := by
  rw [run_bind]
  rcases ran : run st x with ⟨outcome, st'⟩
  rw [ran] at calm
  cases outcome with
  | returned a => exact calm_behind a st'
  | panicked q =>
      intro same
      cases same
      exact calm rfl
  | stalled => nofun

/-- Nor does the failing of a response panic, of whatever shape. -/
theorem run_fail_ne_panicked (st : CallState) (shape : ResponseShape)
    (e : ErrorInfo) (p : Panic) :
    (run st (fail shape e)).1 ≠ .panicked p := by
  cases shape with
  | record => exact run_ask_ne_panicked st (.edit (.setError e)) p
  | stream =>
      have pushed := run_ask_ne_panicked st (.push (.failed e)) p
      exact run_bind_ne_panicked pushed fun _ st' =>
        run_ask_ne_panicked st' .endStream p

end CallProgram

/-- Failing a response leaves everything else alone. -/
theorem CallProgram.run_fail_line (st : CallState) (e : ErrorInfo) :
    let left := (run st (fail st.response.shape e)).2
    left.line = st.line ∧ left.dialled = st.dialled := by
  obtain ⟨response, line, dialled⟩ := st
  cases response with
  | record r => exact ⟨rfl, rfl⟩
  | stream o =>
      have here : CallState.response ⟨.stream o, line, dialled⟩ = .stream o := rfl
      have failed := run_fail_stream here e
      show (run _ (fail .stream e)).2.line = _
        ∧ (run _ (fail .stream e)).2.dialled = _
      rw [failed]
      cases o.push? (.failed e) with
      | none => exact ⟨rfl, rfl⟩
      | some result => exact ⟨rfl, rfl⟩

-- =========================================================== what is left

/-- What a response is once it has failed with an error and nobody had to
wait for it. -/
inductive Response.Fails (e : ErrorInfo) : Response → Response → Prop
  | record (r : Record) : Fails e (.record r) (.record ⟨r.slots, some e⟩)
  /-- A live stream with room; where there is no bound there is room. -/
  | live {s : RecordStream} (attendance : Attendance) (live : s.state = .live)
      (room : s.atCapacity = false) :
      Fails e (.stream ⟨s, attendance⟩)
        (.stream
          ⟨⟨s.queue ++ [.failed e], s.capacity, true, false⟩, attendance⟩)
  /-- A stream that was ended or closed before is ended once more. -/
  | late {s : RecordStream} (attendance : Attendance)
      (spent : s.state ≠ .live) :
      Fails e (.stream ⟨s, attendance⟩) (.stream ⟨s.endStream, attendance⟩)

/-- Failing a response does what the rules say. -/
theorem Response.Fails.run {e : ErrorInfo} {st : CallState} {left : Response}
    (h : st.response.Fails e left) :
    CallProgram.run st (CallProgram.fail st.response.shape e)
      = (.returned (), { st with response := left }) := by
  obtain ⟨response, line, dialled⟩ := st
  cases h with
  | record r => exact CallProgram.run_fail_record rfl e
  | @live s attendance live room =>
      have unfull : s.isFull = false := by
        unfold RecordStream.isFull
        rw [room, Bool.and_false]
      refine (CallProgram.run_fail_stream rfl e).trans ?_
      rw [CallProgram.push?_of_room attendance unfull,
        RecordStream.afterPush_of_live live, ← (s.state_eq_live_iff.mp live).2]
      rfl
  | @late s attendance spent =>
      refine (CallProgram.run_fail_stream rfl e).trans ?_
      rw [CallProgram.push?_of_room attendance (s.not_isFull_of_over spent),
        RecordStream.afterPush_of_over spent]

end PluginRpc
