/-
Two threads at one stream, one of them waiting.

A `Vigil` is a stream with two threads: one is in the middle of a push or
of a read and has to wait, the other one operates on the stream as it
likes. What can happen is a `Move`, and every list of moves is a run; a
move that is not possible where it stands changes nothing.

# What is atomic

An operation is one critical section, and so is a look of the thread that
waits. Between the critical section of an operation and its announcements
the lock is free: `owed` is what the other thread has still to announce,
and until it has, it does nothing else. In between, the one that waits may
stir, look, find nothing and fall asleep again, or have its answer before
it is announced. An announcement reaches the thread only if it sleeps and
waits for just that; otherwise it is lost.

An operation of the other thread that has to wait itself is a move only
where it is answered. What the thread that waits announces when it is done
is left out: the only other thread does not sleep.

# The post

A `Post` is a vigil in which nothing is owed: there an operation and its
announcements are one step. `Post.vigil_disturb` says which moves that
step is made of.
-/
import PluginRpc.Proofs.Stream.Capacity
import PluginRpc.Stream.Waiting

namespace PluginRpc

-- ============================================================= the reason

/-- The thread has to wait: it would push and there is no room, or it
would read and there is nothing yet. -/
def Waiter.mustWait (s : RecordStream) : Waiter → Bool
  | producer _ => s.isFull
  | reader => s.isDry

-- ================================================= what is announced, why

/-- The announcements of an operation, told from its answer. -/
def StreamReply.announces (bounded : Bool) : StreamReply → List Condition
  | pushed true => [.readable]
  | pulled (.delivered ..) => if bounded then [.writable] else []
  | done => [.readable, .writable]
  | moved _ => [.readable, .writable]
  | _ => []

namespace RecordStream

variable {s s' : RecordStream} {op : StreamOp} {answer : StreamReply}

theorem pullSignals_eq (s : RecordStream) (p : Pull) :
    s.pullSignals p = (StreamReply.pulled p).announces s.capacity.isSome := by
  cases p <;> rfl

theorem signals_eq (s : RecordStream) (now : Instant) (op : StreamOp) :
    s.signals now op = (s.run now op).1.announces s.capacity.isSome := by
  cases op with
  | push r =>
      simp only [signals, run]
      cases s.push r <;> rfl
  | tryNext => exact s.pullSignals_eq s.tryNext
  | next timeout =>
      simp only [signals, run]
      cases s.next now timeout with
      | done p => exact s.pullSignals_eq p
      | waits => rfl
  | endStream => rfl
  | close => rfl
  | transfer => rfl

/-- A reader of unlimited patience has to wait where a stream is dry. -/
theorem run_next_of_dry (dry : s.isDry = true) (now : Instant) :
    s.run now (.next none) = (.waits, s) := by
  have unreadable : s.isReadable = false := by
    simpa [isDry] using dry
  simp only [run, next, unreadable, Option.bind_none]
  rfl

/-- Who had to wait before an operation has to wait after it, unless the
operation announces the contrary. -/
theorem Effect.mustWait (e : Effect s op answer s') {w : Waiter}
    (must : w.mustWait s = true)
    (silent : w.condition ∉ answer.announces s.capacity.isSome) :
    w.mustWait s' = true := by
  have everything : w.condition ∈ [.readable, .writable] := by
    cases w <;> simp [Waiter.condition]
  cases w with
  | producer r =>
      obtain ⟨live, full⟩ := s.isFull_iff.1 must
      -- only a record taken makes room, and a full stream has a bound, so
      -- that is announced
      cases e with
      | accepted r' _ room => rw [full] at room; cases room
      | took _ _ =>
          rw [bounded_of_atCapacity full] at silent
          exact absurd (List.mem_singleton.2 rfl) silent
      | ended => exact absurd everything silent
      | closed => exact absurd everything silent
      | moved => exact absurd everything silent
      | _ => exact must
  | reader =>
      obtain ⟨empty, live⟩ := s.isDry_iff.1 must
      cases e with
      | accepted r' _ _ => exact absurd (List.mem_singleton.2 rfl) silent
      | took _ first => rw [empty] at first; cases first
      | ended => exact absurd everything silent
      | closed => exact absurd everything silent
      | moved => exact absurd everything silent
      | _ => exact must

end RecordStream

-- ============================================================== the vigil

/-- What a thread in the middle of an operation is doing. -/
inductive Watch where
  | asleep
  /-- It has been woken, by an announcement or by nothing at all, and has
  not looked yet. -/
  | woken
  /-- Its operation is over. -/
  | answered (answer : StreamReply)
deriving DecidableEq

/-- A stream, a thread in the middle of an operation, and another one. -/
structure Vigil where
  stream : RecordStream
  waiter : Waiter
  watch : Watch
  /-- The record variable of the thread that waits. -/
  reading : Record
  /-- What the other thread has still to announce. -/
  owed : List Condition

/-- One thing that can happen. -/
inductive Move where
  /-- The other thread announces the first thing that it owes. -/
  | announce
  /-- The thread that waits wakes without cause. -/
  | stir
  /-- The thread that waits looks, having been woken. -/
  | look (now : Instant)
  /-- The other thread operates on the stream. -/
  | act (op : StreamOp) (now : Instant)

/-- Nobody but the other thread operates on the stream of its own
accord. -/
def Move.isAct : Move → Bool
  | act .. => true
  | _ => false

namespace Vigil

/-- A thread falls asleep in the middle of an operation. -/
def start (s : RecordStream) (w : Waiter) (reading : Record) : Vigil :=
  ⟨s, w, .asleep, reading, []⟩

variable (v : Vigil)

/-- An announcement, which wakes the thread if it sleeps and waits for
that. -/
def hear (c : Condition) (rest : List Condition) : Vigil :=
  { v with
    owed := rest
    watch := if v.watch = .asleep ∧ c = v.waiter.condition then .woken
      else v.watch }

/-- The look of the thread that waits. -/
def look (now : Instant) : Vigil :=
  match Post.ofWaiter now v.stream v.waiter with
  | .inl (answer, s) =>
      { v with
        stream := s
        watch := .answered answer
        reading := StreamFamily.keep v.reading answer }
  | .inr _ => { v with watch := .asleep }

/-- An operation of the other thread, which then owes its
announcements. -/
def act (op : StreamOp) (now : Instant) : Vigil :=
  { v with
    stream := (v.stream.run now op).2
    owed := v.stream.signals now op }

/-- What a move does, if it is possible. -/
def move : Move → Vigil
  | .announce =>
      match v.owed with
      | [] => v
      | c :: rest => v.hear c rest
  | .stir => if v.watch = .asleep then { v with watch := .woken } else v
  | .look now => if v.watch = .woken then v.look now else v
  | .act op now =>
      if v.owed = [] ∧ (v.stream.run now op).1 ≠ .waits then v.act op now
      else v

def run (moves : List Move) : Vigil := moves.foldl move v

/-- No wake-up is outstanding: the other thread owes no announcement, and
the one that waits has not been woken since its last look. -/
structure Quiet : Prop where
  announced : v.owed = []
  looked : v.watch ≠ .woken

-- =============================================================== the look

/-- What a look comes to, line by line. -/
inductive Looked (v : Vigil) : Vigil → Prop where
  /-- There is room: the record is the last of the queue now. -/
  | appended {r : Record} (waits : v.waiter = .producer r)
      (live : v.stream.state = .live) (room : v.stream.isFull = false) :
      Looked v
        { v with
          stream := { v.stream with queue := v.stream.queue ++ [r] }
          watch := .answered (.pushed true) }
  /-- The stream is no longer live: it is left as it is. -/
  | refused {r : Record} (waits : v.waiter = .producer r)
      (shut : v.stream.state ≠ .live) :
      Looked v { v with watch := .answered (.pushed false) }
  /-- There is something to read: the first record is taken. -/
  | took {r : Record} {rest : List Record} (waits : v.waiter = .reader)
      (first : v.stream.queue = r :: rest) :
      Looked v
        { v with
          stream := { v.stream with queue := rest }
          watch := .answered
            (.pulled (.delivered r { v.stream with queue := rest }))
          reading := r }
  /-- Nothing will come: the record variable keeps what is in it. -/
  | finished (waits : v.waiter = .reader) (empty : v.stream.queue = [])
      (shut : v.stream.state ≠ .live) :
      Looked v { v with watch := .answered (.pulled .finished) }
  /-- There is still reason to wait. -/
  | inVain (must : v.waiter.mustWait v.stream = true) :
      Looked v { v with watch := .asleep }

theorem look_eq (now : Instant) :
    v.look now
      = match v.stream.run now v.waiter.op with
        | (.waits, _) => { v with watch := .asleep }
        | (answer, s) =>
            { v with
              stream := s
              watch := .answered answer
              reading := StreamFamily.keep v.reading answer } := by
  unfold look Post.ofWaiter
  obtain ⟨answer, s⟩ := v.stream.run now v.waiter.op
  cases answer <;> rfl

theorem looked (now : Instant) : Looked v (v.look now) := by
  obtain ⟨s, w, watch, reading, owed⟩ := v
  rw [look_eq]
  cases w with
  | producer r =>
      have e := s.run_effect now (.push r)
      simp only [Waiter.op]
      generalize s.run now (.push r) = found at e ⊢
      obtain ⟨answer, s'⟩ := found
      cases e with
      | accepted _ live room =>
          have notFull : s.isFull = false := by
            rw [RecordStream.isFull, room, Bool.and_false]
          exact .appended rfl live notFull
      | refused _ shut => exact .refused rfl shut
      | blocked _ live full =>
          exact .inVain ((RecordStream.isFull_iff _).2 ⟨live, full⟩)
      | took pull => cases pull
      | finished pull => cases pull
      | dry pull => cases pull
  | reader =>
      simp only [Waiter.op]
      cases dry : s.isDry with
      | true =>
          rw [RecordStream.run_next_of_dry dry]
          exact .inVain dry
      | false =>
          have readable : s.isReadable = true := by
            simpa [RecordStream.isDry] using dry
          have e := s.run_effect now .tryNext
          rw [RecordStream.run_next_of_readable readable]
          generalize s.run now .tryNext = found at e ⊢
          obtain ⟨answer, s'⟩ := found
          cases e with
          | took _ first => exact .took rfl first
          | finished _ empty shut => exact .finished rfl empty shut
          | dry _ empty live =>
              rw [(RecordStream.isDry_iff _).2 ⟨empty, live⟩] at dry
              cases dry

-- ================================================================== moves

variable {v : Vigil}

/-- A property of the vigil behind a move, by what the move was. -/
theorem move_cases {P : Vigil → Prop} (m : Move) (none : P v)
    (announce : ∀ c rest, v.owed = c :: rest → P (v.hear c rest))
    (stir : v.watch = .asleep → P { v with watch := .woken })
    (look : ∀ v', v.watch = .woken → Looked v v' → P v')
    (act : ∀ op now, m = .act op now → v.owed = [] → P (v.act op now)) :
    P (v.move m) := by
  cases m with
  | announce =>
      simp only [move]
      split
      · exact none
      · next c rest owed => exact announce c rest owed
  | stir =>
      simp only [move]
      split
      · next asleep => exact stir asleep
      · exact none
  | look now =>
      simp only [move]
      split
      · next woken => exact look _ woken (v.looked now)
      · exact none
  | act op now =>
      simp only [move]
      split
      · next possible => exact act op now rfl possible.1
      · exact none

/-- What every move of a run preserves, the run preserves. -/
theorem run_induction {P : Vigil → Prop} (moves : List Move)
    (step : ∀ m ∈ moves, ∀ v, P v → P (v.move m)) :
    ∀ v : Vigil, P v → P (v.run moves) := by
  induction moves with
  | nil => exact fun v h => h
  | cons m rest ih =>
      intro v h
      refine ih (fun m' listed => step m' (List.mem_cons_of_mem m listed)) _ ?_
      exact step m List.mem_cons_self v h

/-- A look changes neither who waits nor what is owed, and ends and
reopens nothing. -/
theorem Looked.frame {v' : Vigil} (h : Looked v v') :
    v'.waiter = v.waiter ∧ v'.owed = v.owed
      ∧ v'.stream.state = v.stream.state := by
  cases h <;> exact ⟨rfl, rfl, rfl⟩

theorem Looked.unwoken {v' : Vigil} (h : Looked v v') :
    v'.watch ≠ .woken := by
  cases h <;> exact Watch.noConfusion

theorem move_waiter (v : Vigil) (m : Move) :
    (v.move m).waiter = v.waiter :=
  move_cases (P := fun u => u.waiter = v.waiter) m rfl (fun _ _ _ => rfl)
    (fun _ => rfl) (fun _ _ looked => looked.frame.1) fun _ _ _ _ => rfl

theorem run_waiter (v : Vigil) (moves : List Move) :
    (v.run moves).waiter = v.waiter :=
  run_induction (P := fun u => u.waiter = v.waiter) moves
    (fun m _ u same => (u.move_waiter m).trans same) v rfl

/-- A look takes no more than there is, and adds nothing to what is
full. -/
theorem Looked.fits {v' : Vigil} (h : Looked v v') (fits : v.stream.Fits) :
    v'.stream.Fits := by
  cases h with
  | @appended r waits live room =>
      refine (RecordStream.Effect.accepted r live ?_).fits fits
      have open_ := v.stream.isLive_iff.2 live
      rw [RecordStream.isFull, open_, Bool.true_and] at room
      exact room
  | took waits first =>
      exact (RecordStream.Effect.took .tryNext first).fits fits
  | _ => exact fits

theorem run_fits (fits : v.stream.Fits) (moves : List Move) :
    (v.run moves).stream.Fits :=
  run_induction (P := fun u => u.stream.Fits) moves
    (fun m _ u fits => move_cases (P := fun u => u.stream.Fits) m fits
      (fun _ _ _ => fits) (fun _ => fits) (fun _ _ looked => looked.fits fits)
      fun op now _ _ => (u.stream.run_effect now op).fits fits)
    v fits

/-- A stream on which nothing can be pushed stays so. -/
theorem move_over (shut : v.stream.state ≠ .live) (m : Move) :
    (v.move m).stream.state ≠ .live := by
  refine move_cases (P := fun u => u.stream.state ≠ .live) m shut
    (fun _ _ _ => shut) (fun _ => shut) (fun v' _ h => ?_) fun op now _ _ => ?_
  · rw [h.frame.2.2]
    exact shut
  · exact (v.stream.run_effect now op).shut shut

end Vigil

-- ===================================================== one act, announced

namespace Post

/-- A post as a vigil: the other thread owes nothing. -/
def vigil (p : Post) (reading : Record) : Vigil :=
  ⟨p.stream, p.waiter, if p.woken then .woken else .asleep, reading, []⟩

/-- Announcing all that is owed wakes the sleeper if what it waits for is
among it. -/
theorem run_announce_all (s : RecordStream) (w : Waiter) (reading : Record)
    (owed : List Condition) :
    ∀ woken : Bool,
      (Vigil.mk s w (if woken then .woken else .asleep) reading owed).run
          (List.replicate owed.length .announce)
        = vigil ⟨s, w, woken || owed.contains w.condition⟩ reading := by
  -- for both values of `woken`: the first announcement may change it
  induction owed with
  | nil =>
      intro woken
      rw [List.contains_nil, Bool.or_false]
      rfl
  | cons c rest ih =>
      intro woken
      have heard :
          (Vigil.mk s w (if woken then .woken else .asleep) reading
              (c :: rest)).move .announce
            = ⟨s, w, if (woken || w.condition == c) then .woken
                else .asleep, reading, rest⟩ := by
        by_cases h : c = w.condition
        · cases woken <;> simp [Vigil.move, Vigil.hear, h]
        · cases woken <;> simp [Vigil.move, Vigil.hear, h, Ne.symm h]
      rw [List.length_cons, List.replicate_succ, List.contains_cons,
        ← Bool.or_assoc, ← ih, ← heard]
      rfl

/-- Another thread's operation on a post is its critical section and then
all of its announcements. -/
theorem vigil_disturb (p : Post) (now : Instant) (op : StreamOp)
    (reading : Record) (answered : (p.stream.run now op).1 ≠ .waits) :
    (p.vigil reading).run
        (.act op now
          :: List.replicate (p.stream.signals now op).length .announce)
      = (p.disturb now op).2.vigil reading := by
  have acted : (p.vigil reading).move (.act op now)
      = ⟨(p.stream.run now op).2, p.waiter,
          if p.woken then .woken else .asleep, reading,
          p.stream.signals now op⟩ := if_pos ⟨rfl, answered⟩
  rw [Vigil.run, List.foldl_cons, acted]
  exact run_announce_all _ _ _ _ _

end Post

end PluginRpc
