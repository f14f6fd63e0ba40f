/-
The life of one stream, over every run.

A run of a stream is the sequence of its critical sections, each with the
reading of the clock at which it happened. Whose critical sections they
are does not matter to the stream, and a thread that waits does nothing
to it: the operation of such a thread stands in the run where it is
answered. So every sequence is a run, and nothing is asked of the clock.

# The end

`Spent` is the state behind the end: nothing is buffered and nothing can
be pushed. It is what a reader sees as the end of a stream, it is kept by
every critical section, and in it every critical section has only one
answer. That the end is final needs no more than these three facts.

# The two ways of reading

Taking a record with and without waiting is written twice. The two agree
wherever there is an answer at once, and with a timeout of zero
everywhere: the limit of such a wait is the instant at which it begins.
-/
import PluginRpc.Proofs.Stream.Effect
import PluginRpc.Stream.Family

namespace PluginRpc

-- =================================================================== runs

/-- How far a stream is in its life. -/
def StreamState.stage : StreamState → Nat
  | live => 0
  | ended => 1
  | closed => 2

/-- One critical section of a stream: when, and which operation. -/
abbrev StreamTurn := Instant × StreamOp

/-- What a reader's operation answered, if it was one and it was
answered. -/
def StreamReply.status? : StreamReply → Option StreamStatus
  | pulled p => some p.status
  | _ => none

namespace RecordStream

/-- The stream after a run. -/
def after (s : RecordStream) (turns : List StreamTurn) : RecordStream :=
  turns.foldl (fun s turn => (s.run turn.1 turn.2).2) s

/-- What one critical section preserves, a run preserves. -/
theorem after_induction {P : RecordStream → Prop}
    (step : ∀ s op answer s', Effect s op answer s' → P s → P s')
    (turns : List StreamTurn) :
    ∀ s : RecordStream, P s → P (s.after turns) := by
  induction turns with
  | nil => exact fun s h => h
  | cons turn rest ih =>
      intro s h
      exact ih _ (step _ _ _ _ (s.run_effect turn.1 turn.2) h)

-- ================================================================== order

/-- Ending a stream takes it no further than to its end, and not back. -/
theorem stage_endStream (s : RecordStream) :
    s.state.stage ≤ s.endStream.state.stage := by
  unfold endStream state
  dsimp only
  cases s.closed with
  | true => exact Nat.le_refl _
  | false =>
      cases s.eos with
      | true => exact Nat.le_refl _
      | false => exact Nat.zero_le _

/-- A critical section takes a stream forward in its life, or leaves it
where it is. -/
theorem Effect.stage_le {s s' : RecordStream} {op : StreamOp}
    {answer : StreamReply} (e : Effect s op answer s') :
    s.state.stage ≤ s'.state.stage := by
  have last : s.state.stage ≤ StreamState.closed.stage := by
    cases s.state <;> decide
  cases e with
  | ended => exact s.stage_endStream
  | closed => exact last
  | moved => exact last
  | _ => exact Nat.le_refl _

theorem Effect.shut {s s' : RecordStream} {op : StreamOp}
    {answer : StreamReply} (e : Effect s op answer s')
    (shut : s.state ≠ .live) : s'.state ≠ .live := by
  intro live
  have stage := e.stage_le
  rw [live] at stage
  cases hs : s.state with
  | live => exact shut hs
  | ended => rw [hs] at stage; cases stage
  | closed => rw [hs] at stage; cases stage

theorem stage_after (s : RecordStream) (turns : List StreamTurn) :
    s.state.stage ≤ (s.after turns).state.stage :=
  after_induction (P := fun t => s.state.stage ≤ t.state.stage)
    (fun _ _ _ _ e h => Nat.le_trans h e.stage_le) turns s (Nat.le_refl _)

-- ================================================================ the end

/-- Nothing is buffered, and nothing can be pushed. -/
structure Spent (s : RecordStream) : Prop where
  empty : s.queue = []
  shut : s.state ≠ .live

theorem Effect.spent {s s' : RecordStream} {op : StreamOp}
    {answer : StreamReply} (e : Effect s op answer s') (h : Spent s) :
    Spent s' := by
  cases e with
  | accepted r live room => exact absurd live h.shut
  | took pull first =>
      rw [h.empty] at first
      cases first
  | ended => exact ⟨h.empty, Effect.ended.shut h.shut⟩
  | closed => exact ⟨rfl, Effect.closed.shut h.shut⟩
  | moved => exact ⟨rfl, Effect.moved.shut h.shut⟩
  | _ => exact h

theorem Spent.after {s : RecordStream} (h : Spent s)
    (turns : List StreamTurn) : Spent (s.after turns) :=
  after_induction (fun _ _ _ _ e => e.spent) turns s h

/-- A reader of a spent stream is told that this is the end. -/
theorem Spent.run_pull {s : RecordStream} (h : Spent s) {op : StreamOp}
    (pull : IsPull op) (now : Instant) :
    s.run now op = (.pulled .finished, s) := by
  have readable := s.isReadable_of_over h.shut
  have finished : s.deliver = .finished := by
    unfold deliver
    rw [h.empty]
  cases pull with
  | tryNext =>
      simp only [run, tryNext]
      rw [if_pos readable, finished]
      rfl
  | next timeout =>
      simp only [run, next]
      rw [if_pos readable, finished]
      rfl

theorem Spent.run_push {s : RecordStream} (h : Spent s) (r : Record)
    (now : Instant) : s.run now (.push r) = (.pushed false, s) := by
  simp only [run, push]
  rw [(not_isLive_iff s).2 h.shut]
  rfl

-- ============================================ what a reader is told, when

variable {s s' : RecordStream} {op : StreamOp} {answer : StreamReply}

/-- The end of a stream is told by a spent stream, and by no other. -/
theorem Effect.endOfStream_iff (e : Effect s op answer s')
    (pull : IsPull op) : answer.status? = some .endOfStream ↔ Spent s := by
  constructor
  · intro told
    cases e with
    | finished _ empty spent => exact ⟨empty, spent⟩
    | @took _ _ r _ _ =>
        simp only [StreamReply.status?, Pull.status, Option.some.injEq]
          at told
        split at told <;> cases told
    | _ => cases told
  · intro spent
    cases e with
    | finished => rfl
    | took _ first =>
        rw [spent.empty] at first
        cases first
    | dry _ _ live => exact absurd live spent.shut
    | parked _ _ live => exact absurd live spent.shut
    | _ => cases pull

/-- A reader is told that a stream is not ready only if it is dry. -/
theorem Effect.dry_of_notReady (e : Effect s op answer s')
    (told : answer.status? = some .notReady) :
    s.queue = [] ∧ s.state = .live := by
  cases e with
  | dry _ empty live => exact ⟨empty, live⟩
  | @took _ _ r _ _ =>
      simp only [StreamReply.status?, Pull.status, Option.some.injEq] at told
      split at told <;> cases told
  | _ => cases told

/-- What it is to take a record: it is no longer the first of the queue,
nothing else about the stream is changed, and it is in the reader's record
variable. -/
structure Taken (s s' : RecordStream) (answer : StreamReply)
    (reading r : Record) : Prop where
  first : s.queue = r :: s'.queue
  rest : s' = { s with queue := s'.queue }
  read : StreamFamily.keep reading answer = r

/-- A reader is told of success where a record was taken, and of an error
where that record carries one. -/
theorem Effect.taken_iff (e : Effect s op answer s') (pull : IsPull op)
    (reading : Record) (failed : Bool) :
    answer.status? = some (if failed then .error else .ok)
      ↔ ∃ r, Taken s s' answer reading r ∧ r.isFailed = failed := by
  constructor
  · intro told
    cases e with
    | @took _ _ r _ first =>
        refine ⟨r, ⟨first, rfl, rfl⟩, ?_⟩
        simp only [StreamReply.status?, Pull.status, Option.some.injEq]
          at told
        cases hr : r.isFailed <;> cases failed <;> simp [hr] at told ⊢
    | _ =>
        simp only [StreamReply.status?, Pull.status, Option.some.injEq,
          reduceCtorEq] at told <;> split at told <;> cases told
  · rintro ⟨r, taken, rfl⟩
    cases e with
    | @took _ _ r' _ first =>
        have same : r' = r := taken.read
        rw [same]
        rfl
    | finished _ empty _ =>
        have first := taken.first
        rw [empty] at first
        cases first
    | dry _ empty _ =>
        have first := taken.first
        rw [empty] at first
        cases first
    | parked _ empty _ =>
        have first := taken.first
        rw [empty] at first
        cases first
    | _ => cases pull

-- ================================================ the two ways of reading

/-- Where there is an answer at once, waiting makes no difference. -/
theorem run_next_of_readable (readable : s.isReadable = true)
    (now : Instant) (timeout : Option Span) :
    s.run now (.next timeout) = s.run now .tryNext := by
  simp only [run, next, tryNext]
  rw [if_pos readable, if_pos readable]

/-- To wait for no time is not to wait. -/
theorem run_next_zero (s : RecordStream) {now : Instant}
    (shown : now < Instant.limit) :
    s.run now (.next (some Span.zero)) = s.run now .tryNext := by
  have limit : Instant.after? now Span.zero = some now := if_pos shown
  cases readable : s.isReadable with
  | true => exact run_next_of_readable readable now _
  | false =>
      simp only [run, next, tryNext, readable, Option.bind_some, limit]
      rfl

-- ========================================================= the life cycle

/-- The life of a stream, over every run of its operations. Whatever has
been done to it, its state has only moved forward; a reader is told of the
end exactly where nothing is buffered and nothing can be pushed, and that
it is not ready only where something may still come; of success and of an
error exactly where it has taken a record, and that record carries none or
one. Behind the end there is nothing but the end: whatever is done later,
every reader is told of it and keeps what it had, every push is refused,
and nothing is buffered. And a reader that need not wait, or is given no
time to wait, is answered as one that does not. -/
theorem stream_life (s : RecordStream) (turns : List StreamTurn) :
    let t := s.after turns
    s.state.stage ≤ t.state.stage
    ∧ (∀ op now (reading : Record), IsPull op →
        let answer := (t.run now op).1
        let t' := (t.run now op).2
        (answer.status? = some .endOfStream
            ↔ t.queue = [] ∧ t.state ≠ .live)
        ∧ (answer.status? = some .notReady →
            t.queue = [] ∧ t.state = .live)
        ∧ (answer.status? = some .ok
            ↔ ∃ r, Taken t t' answer reading r ∧ r.error = none)
        ∧ (answer.status? = some .error
            ↔ ∃ r, Taken t t' answer reading r ∧ r.error ≠ none)
        ∧ (answer.status? = some .endOfStream →
            ∀ later : List StreamTurn,
              let u := t'.after later
              u.queue = []
              ∧ (∀ op' now' (reading' : Record), IsPull op' →
                  (u.run now' op').1.status? = some .endOfStream
                  ∧ StreamFamily.keep reading' (u.run now' op').1
                      = reading')
              ∧ ∀ r now', (u.run now' (.push r)).1 = .pushed false))
    ∧ (∀ now timeout, t.isReadable = true →
        t.run now (.next timeout) = t.run now .tryNext)
    ∧ ∀ now, now < Instant.limit →
        t.run now (.next (some Span.zero)) = t.run now .tryNext := by
  intro t
  refine ⟨s.stage_after turns, fun op now reading pull => ?_,
    fun now timeout readable => run_next_of_readable readable now timeout,
    fun now shown => t.run_next_zero shown⟩
  have e := t.run_effect now op
  have ended := e.endOfStream_iff pull
  intro answer t'
  refine ⟨ended.trans ⟨fun h => ⟨h.empty, h.shut⟩, fun h => ⟨h.1, h.2⟩⟩,
    e.dry_of_notReady, ?_, ?_, fun told later => ?_⟩
  · simpa [Record.isFailed] using e.taken_iff pull reading false
  · simpa [Record.isFailed, Option.isSome_iff_ne_none]
      using e.taken_iff pull reading true
  · have spent : Spent (t'.after later) :=
      (e.spent (ended.1 told)).after later
    refine ⟨spent.empty, fun op' now' reading' pull' => ?_, fun r now' => ?_⟩
    · rw [spent.run_pull pull' now']
      exact ⟨rfl, rfl⟩
    · rw [spent.run_push r now']

/-- A stream that ends with a record in it: once the record is taken the
end is told, and whatever is done then leaves it empty. -/
theorem stream_life_behind_end (r : Record) :
    let t := unbounded.after [(0, .push r), (1, .endStream), (2, .tryNext)]
    (t.run 3 .tryNext).1.status? = some .endOfStream
    ∧ ∀ later, ((t.run 3 .tryNext).2.after later).queue = [] := by
  intro t
  have told : (t.run 3 .tryNext).1.status? = some .endOfStream := rfl
  obtain ⟨-, reads, -⟩ := stream_life unbounded
    [(0, .push r), (1, .endStream), (2, .tryNext)]
  obtain ⟨-, -, -, -, final⟩ := reads .tryNext 3 .empty .tryNext
  exact ⟨told, fun later => (final told later).1⟩

/-- What is buffered at the end is still delivered, and then the end is
told for good. -/
example (r : Record) :
    ((unbounded.after [(0, .push r), (1, .endStream), (2, .tryNext),
        (3, .push r)]).run 4 (.next none)).1 = .pulled .finished := by
  cbv

end RecordStream

end PluginRpc
