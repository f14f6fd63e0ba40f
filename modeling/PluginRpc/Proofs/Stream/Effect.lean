/-
What one critical section of a stream can do.

`RecordStream.run` computes: it tests the state, the room and the queue,
and each operation tests them in its own order. What everything behind
it needs is the other way round: from the answer, which state the stream
was in, and what is left of it. `Effect` is that table, one line for
each operation and each way it can end, and `run_effect` says that there
is no other line. An invariant of streams is then a case analysis over
the table, and never opens an operation.
-/
import PluginRpc.Stream.Basic

namespace PluginRpc.RecordStream

-- ============================================================== the table

/-- The operations that take a record. -/
inductive IsPull : StreamOp → Prop where
  | tryNext : IsPull .tryNext
  | next (timeout : Option Span) : IsPull (.next timeout)

/-- The lines of the table: the stream before, the operation, the answer
and the stream behind it. -/
inductive Effect (s : RecordStream) :
    StreamOp → StreamReply → RecordStream → Prop where
  | accepted (r : Record) (live : s.state = .live)
      (room : s.atCapacity = false) :
      Effect s (.push r) (.pushed true) { s with queue := s.queue ++ [r] }
  | refused (r : Record) (spent : s.state ≠ .live) :
      Effect s (.push r) (.pushed false) s
  | blocked (r : Record) (live : s.state = .live)
      (full : s.atCapacity = true) :
      Effect s (.push r) .waits s
  | took {op : StreamOp} (pull : IsPull op) {r : Record}
      {rest : List Record} (first : s.queue = r :: rest) :
      Effect s op (.pulled (.delivered r { s with queue := rest }))
        { s with queue := rest }
  | finished {op : StreamOp} (pull : IsPull op) (empty : s.queue = [])
      (spent : s.state ≠ .live) :
      Effect s op (.pulled .finished) s
  | dry {op : StreamOp} (pull : IsPull op) (empty : s.queue = [])
      (live : s.state = .live) :
      Effect s op (.pulled .notReady) s
  | parked (timeout : Option Span) (empty : s.queue = [])
      (live : s.state = .live) :
      Effect s (.next timeout) .waits s
  | ended : Effect s .endStream .done s.endStream
  | closed : Effect s .close .done s.close
  | moved : Effect s .transfer (.moved s) s.close

-- ====================================================== reading the tests

variable (s : RecordStream)

theorem state_eq_closed_iff : s.state = .closed ↔ s.closed = true := by
  unfold state
  cases s.closed <;> cases s.eos <;> decide

theorem state_eq_live_iff :
    s.state = .live ↔ s.eos = false ∧ s.closed = false := by
  unfold state
  cases s.closed <;> cases s.eos <;> decide

/-- A stream is live as long as neither flag is set. -/
theorem isLive_iff : s.isLive = true ↔ s.state = .live := by
  unfold isLive
  rw [state_eq_live_iff, Bool.not_eq_true', Bool.or_eq_false_iff]

/-- A stream that has been ended is not live. -/
theorem over_of_eos (ended : s.eos = true) : s.state ≠ .live := by
  intro live
  rw [(s.state_eq_live_iff.1 live).1] at ended
  cases ended

theorem not_isLive_iff : s.isLive = false ↔ s.state ≠ .live := by
  rw [← Bool.not_eq_true, isLive_iff]

/-- A stream that has no answer for a reader is empty and live. -/
theorem not_isReadable_iff :
    s.isReadable = false ↔ s.queue = [] ∧ s.state = .live := by
  unfold isReadable
  rw [Bool.or_assoc, Bool.or_eq_false_iff, Bool.not_eq_false',
    ← Bool.not_eq_true', ← isLive, isLive_iff, List.isEmpty_iff]

/-- A stream that is no longer live has an answer for every reader. -/
theorem isReadable_of_over (spent : s.state ≠ .live) :
    s.isReadable = true := by
  rw [← Bool.not_eq_false, not_isReadable_iff]
  exact fun dry => spent dry.2

/-- Nor does it keep a producer waiting. -/
theorem not_isFull_of_over (spent : s.state ≠ .live) : s.isFull = false := by
  unfold isFull
  rw [s.not_isLive_iff.2 spent, Bool.false_and]

/-- Ending a stream neither closes it nor opens it again. -/
theorem endStream_closed_iff :
    s.endStream.state = .closed ↔ s.state = .closed := by
  rw [state_eq_closed_iff, state_eq_closed_iff]
  rfl

/-- A stream that has been ended is not changed by ending it again. -/
theorem endStream_of_eos (ended : s.eos = true) : s.endStream = s := by
  unfold endStream
  rw [← ended]

/-- An ended stream is over. -/
theorem endStream_over : s.endStream.state ≠ .live :=
  s.endStream.not_isLive_iff.1 rfl

/-- A closed stream is over. -/
theorem close_over : s.close.state ≠ .live := s.close.not_isLive_iff.1 rfl

-- =========================================================== completeness

/-- A reader that is answered gets the first record, or the end of a
stream that is empty and over. -/
theorem deliver_effect {op : StreamOp} (pull : IsPull op)
    (readable : s.isReadable = true) :
    Effect s op (.pulled s.deliver) (s.deliver.stream s) := by
  unfold deliver
  cases hq : s.queue with
  | cons r rest => exact .took pull hq
  | nil =>
      refine .finished pull hq ?_
      intro live
      have unreadable := (not_isReadable_iff s).2 ⟨hq, live⟩
      rw [readable] at unreadable
      cases unreadable

/-- Every critical section is a line of the table. -/
theorem run_effect (now : Instant) (op : StreamOp) :
    Effect s op (s.run now op).1 (s.run now op).2 := by
  cases op with
  | push r =>
      simp only [run, push]
      cases hl : s.isLive with
      | false => exact .refused r ((not_isLive_iff s).1 hl)
      | true =>
          have live := (isLive_iff s).1 hl
          cases hc : s.atCapacity with
          | true => exact .blocked r live hc
          | false => exact .accepted r live hc
  | tryNext =>
      simp only [run, tryNext]
      cases hr : s.isReadable with
      | true => exact deliver_effect s .tryNext hr
      | false =>
          obtain ⟨empty, live⟩ := (not_isReadable_iff s).1 hr
          exact .dry .tryNext empty live
  | next timeout =>
      simp only [run, next]
      cases hr : s.isReadable with
      | true => exact deliver_effect s (.next timeout) hr
      | false =>
          obtain ⟨empty, live⟩ := (not_isReadable_iff s).1 hr
          -- the wait has an end or none, which is for the clock to say
          cases timeout.bind now.after? with
          | some limit => exact .dry (.next timeout) empty live
          | none => exact .parked timeout empty live
  | endStream => exact .ended
  | close => exact .closed
  | transfer => exact .moved

end PluginRpc.RecordStream
