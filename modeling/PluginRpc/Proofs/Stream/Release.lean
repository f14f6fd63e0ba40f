/-
No thread that waits at a stream is forgotten.

`Heeded` says that the thread sleeps for a reason, unless what would end
its sleep is still owed to it. It is kept by every move, because an
operation that takes the reason away announces it: whatever ends a stream
announces everything, a push into an empty stream announces that there is
something to read, and taking from a stream that is full announces room,
for a stream that can be full is bounded. Where nothing is outstanding,
`Heeded` leaves a thread without answer no way out but to have to wait.

From there the releases follow. A stream on which nothing can be pushed
makes nobody wait, and stays so whatever is done to it. Room is another
matter: the other thread may take it away again. As long as it does not,
the room is the producer's, and that is `Served`.
-/
import PluginRpc.Proofs.Stream.Vigil

namespace PluginRpc.Vigil

variable {v : Vigil}

-- ========================================================== the invariant

/-- Whoever sleeps has to wait, or is still to be told that it has not. -/
def Heeded (v : Vigil) : Prop :=
  v.watch = .asleep → v.waiter.condition ∉ v.owed →
    v.waiter.mustWait v.stream = true

/-- No announcement is made that the thread does not hear, if it sleeps
and waits for that. -/
theorem Heeded.hear (h : Heeded v) {c : Condition} {rest : List Condition}
    (owed : v.owed = c :: rest) : Heeded (v.hear c rest) := by
  intro asleep silent
  simp only [Vigil.hear] at asleep silent ⊢
  split at asleep
  · cases asleep
  · next other =>
    refine h asleep fun listed => ?_
    rw [owed] at listed
    rcases List.mem_cons.1 listed with heard | later
    · exact other ⟨asleep, heard.symm⟩
    · exact silent later

/-- A thread that falls asleep again has just seen why. -/
theorem Looked.heeded {v' : Vigil} (h : Looked v v') : Heeded v' := by
  intro asleep _
  cases h with
  | inVain must => exact must
  | _ => cases asleep

/-- What takes away the reason for sleeping is owed to the sleeper. -/
theorem Heeded.act (h : Heeded v) (op : StreamOp) (now : Instant)
    (idle : v.owed = []) : Heeded (v.act op now) := by
  intro asleep silent
  have must : v.waiter.mustWait v.stream = true := by
    refine h asleep ?_
    rw [idle]
    exact List.not_mem_nil
  simp only [Vigil.act, RecordStream.signals_eq] at silent
  exact (v.stream.run_effect now op).mustWait must silent

theorem Heeded.move (h : Heeded v) (m : Move) : Heeded (v.move m) :=
  move_cases m h (fun _ _ => h.hear) (fun _ asleep => nomatch asleep)
    (fun _ _ looked => looked.heeded) fun op now _ => h.act op now

theorem Heeded.run (h : Heeded v) (moves : List Move) :
    Heeded (v.run moves) :=
  run_induction moves (fun m _ _ h => h.move m) v h

theorem heeded_start {s : RecordStream} {w : Waiter} (reading : Record)
    (must : w.mustWait s = true) : Heeded (start s w reading) :=
  fun _ _ => must

/-- Where no wake-up is outstanding, whoever has no answer has to wait. -/
theorem Heeded.rest (h : Heeded v) (quiet : v.Quiet)
    (open_ : ∀ answer, v.watch ≠ .answered answer) :
    v.waiter.mustWait v.stream = true := by
  cases hw : v.watch with
  | asleep =>
      refine h hw ?_
      rw [quiet.announced]
      exact List.not_mem_nil
  | woken => exact absurd hw quiet.looked
  | answered answer => exact absurd hw (open_ answer)

-- =============================================================== releases

theorem not_mustWait_of_over {s : RecordStream} (shut : s.state ≠ .live)
    (w : Waiter) : w.mustWait s = false := by
  cases w with
  | producer r => exact s.not_isFull_of_over shut
  | reader =>
      show (!s.isReadable) = false
      rw [s.isReadable_of_over shut]
      rfl

/-- At a stream on which nothing can be pushed, whoever waited has its
answer as soon as no wake-up is outstanding. -/
theorem Heeded.answered_of_over (h : Heeded v)
    (shut : v.stream.state ≠ .live) (quiet : v.Quiet) :
    ∃ answer, v.watch = .answered answer := by
  refine Classical.byContradiction fun none => ?_
  have must := h.rest quiet fun answer given => none ⟨answer, given⟩
  rw [not_mustWait_of_over shut] at must
  cases must

/-- What ends a stream is always possible, and leaves it over. -/
theorem over_of_ending {op : StreamOp}
    (ends : op ∈ [StreamOp.endStream, .close, .transfer])
    (idle : v.owed = []) (now : Instant) :
    (v.move (.act op now)).stream.state ≠ .live := by
  have possible : v.owed = [] ∧ (v.stream.run now op).1 ≠ .waits := by
    refine ⟨idle, ?_⟩
    simp only [List.mem_cons, List.not_mem_nil, or_false] at ends
    rcases ends with rfl | rfl | rfl <;> exact StreamReply.noConfusion
  simp only [move]
  rw [if_pos possible]
  simp only [List.mem_cons, List.not_mem_nil, or_false] at ends
  rcases ends with rfl | rfl | rfl
  · exact v.stream.endStream_over
  · exact v.stream.close_over
  · exact v.stream.close_over

/-- The producer has not been answered and finds room, or it has used the
room: `s` is the stream that it found or will find. -/
def Served (s : RecordStream) (r : Record) (v : Vigil) : Prop :=
  v.waiter = .producer r
  ∧ ((v.stream = s ∧ ∀ answer, v.watch ≠ .answered answer)
    ∨ (v.stream = { s with queue := s.queue ++ [r] }
      ∧ v.watch = .answered (.pushed true)))

/-- As long as the other thread does nothing more, the room is the
producer's. -/
theorem Served.move {s : RecordStream} {r : Record} (h : Served s r v)
    (live : s.state = .live) (room : s.isFull = false) {m : Move}
    (alone : m.isAct = false) : Served s r (v.move m) := by
  obtain ⟨waits, ⟨found, open_⟩ | ⟨used, done⟩⟩ := h
  · -- the room is still there, and only the producer's look can use it
    refine move_cases m ⟨waits, .inl ⟨found, open_⟩⟩ (fun c rest _ => ?_)
      (fun _ => ⟨waits, .inl ⟨found, fun _ => Watch.noConfusion⟩⟩)
      (fun v' _ looked => ?_) fun op now acts _ => ?_
    · refine ⟨waits, .inl ⟨found, fun answer => ?_⟩⟩
      simp only [Vigil.hear]
      split
      · exact Watch.noConfusion
      · exact open_ answer
    · cases looked with
      | appended same _ _ =>
          rw [waits] at same
          cases same
          exact ⟨waits, .inr ⟨by rw [found], rfl⟩⟩
      | refused _ shut =>
          rw [found] at shut
          exact absurd live shut
      | took same _ =>
          rw [waits] at same
          cases same
      | finished same _ _ =>
          rw [waits] at same
          cases same
      | inVain must =>
          rw [waits, found] at must
          exact absurd must (by rw [Waiter.mustWait, room]; decide)
    · rw [acts] at alone
      cases alone
  · -- behind its answer the producer neither stirs nor looks
    refine move_cases m ⟨waits, .inr ⟨used, done⟩⟩ (fun c rest _ => ?_)
      (fun asleep => ?_) (fun v' woken _ => ?_) fun op now acts _ => ?_
    · refine ⟨waits, .inr ⟨used, ?_⟩⟩
      simp only [Vigil.hear, done]
      rfl
    · rw [done] at asleep
      cases asleep
    · rw [done] at woken
      cases woken
    · rw [acts] at alone
      cases alone

/-- One record taken from a full stream is room for the producer. -/
theorem served_of_tryNext {r : Record} (fits : v.stream.Fits)
    (waits : v.waiter = .producer r) (idle : v.owed = [])
    (open_ : ∀ answer, v.watch ≠ .answered answer)
    (full : v.stream.isFull = true) (now : Instant) :
    let s := { v.stream with queue := v.stream.queue.tail }
    s.isFull = false ∧ Served s r (v.move (.act .tryNext now)) := by
  intro s
  obtain ⟨live, atCapacity⟩ := v.stream.isFull_iff.1 full
  obtain ⟨first, rest, hq, room⟩ := fits.room_behind_first atCapacity
  have hs : s = { v.stream with queue := rest } := by
    simp only [s, hq, List.tail_cons]
  have taken : v.stream.run now .tryNext
      = (.pulled (.delivered first s), s) := by
    rw [hs]
    simp [RecordStream.run, RecordStream.tryNext, RecordStream.isReadable,
      RecordStream.deliver, hq, RecordStream.Pull.stream]
  refine ⟨by rw [hs, RecordStream.isFull, room, Bool.and_false], ?_⟩
  simp only [Vigil.move]
  rw [if_pos ⟨idle, by rw [taken]; exact StreamReply.noConfusion⟩]
  exact ⟨waits, .inl ⟨congrArg Prod.snd taken, open_⟩⟩

-- =================================================== outstanding wake-ups

/-- Carrying out what is outstanding: the thread that waits looks if it
has been woken, and so after each announcement. -/
def carryOut (now : Instant) : Nat → List Move
  | 0 => [.look now]
  | n + 1 => .look now :: .announce :: carryOut now n

/-- A look changes nothing that is owed, and behind it the thread has
looked. -/
theorem move_look (v : Vigil) (now : Instant) :
    (v.move (.look now)).owed = v.owed
      ∧ (v.move (.look now)).watch ≠ .woken := by
  simp only [move]
  split
  · exact ⟨(v.looked now).frame.2.1, (v.looked now).unwoken⟩
  · next unwoken => exact ⟨rfl, unwoken⟩

theorem quiet_carryOut (now : Instant) (n : Nat) :
    ∀ v : Vigil, v.owed.length = n → (v.run (carryOut now n)).Quiet := by
  induction n with
  | zero =>
      intro v none
      have looked := v.move_look now
      exact ⟨looked.1.trans (List.length_eq_zero_iff.1 none), looked.2⟩
  | succ n ih =>
      intro v more
      refine ih ((v.move (.look now)).move .announce) ?_
      have owed := (v.move_look now).1
      -- the look owes nothing new, so one announcement fewer is left
      cases hv : v.owed with
      | nil =>
          rw [hv] at more
          cases more
      | cons c rest =>
          rw [hv] at owed more
          generalize v.move (.look now) = u at owed ⊢
          simp only [move, owed]
          exact Nat.succ.inj more

-- =================================================================== runs

/-- No thread that waits at a stream is lost, whatever happens and in
whatever order. Where no wake-up is outstanding, a thread that has no
answer still has to wait. A thread that looks is in one of five cases, by
the stream that it finds. What is outstanding can always be carried out.
Whatever ends the stream releases the thread for good. And one record
taken from a full stream lets the producer finish, unless the other thread
takes the room away. -/
theorem no_waiter_is_lost (capacity : Option Nat)
    (turns : List StreamTurn) (w : Waiter) (reading : Record)
    (blocked :
      w.mustWait ((RecordStream.fresh capacity).after turns) = true)
    (moves : List Move) :
    let s := (RecordStream.fresh capacity).after turns
    let v := (start s w reading).run moves
    (v.Quiet → (∀ answer, v.watch ≠ .answered answer) →
        w.mustWait v.stream = true)
    ∧ (∀ now, v.watch = .woken → Looked v (v.move (.look now)))
    ∧ (∀ now, (v.run (carryOut now v.owed.length)).Quiet)
    ∧ (∀ op ∈ [StreamOp.endStream, .close, .transfer], v.owed = [] →
        ∀ now later,
          let u := (v.move (.act op now)).run later
          u.Quiet → ∃ answer, u.watch = .answered answer)
    ∧ ∀ r, w = .producer r → v.owed = [] →
        (∀ answer, v.watch ≠ .answered answer) →
        v.stream.isFull = true →
        ∀ now later, (∀ m ∈ later, m.isAct = false) →
          let u := (v.move (.act .tryNext now)).run later
          u.Quiet →
            u.watch = .answered (.pushed true)
            ∧ u.stream
              = { v.stream with queue := v.stream.queue.tail ++ [r] } := by
  intro s v
  have heeded : Heeded v := (heeded_start reading blocked).run moves
  have same : v.waiter = w := (start s w reading).run_waiter moves
  refine ⟨fun quiet open_ => ?_, fun now woken => ?_,
    fun now => quiet_carryOut now _ v rfl, fun op ends idle now later => ?_,
    fun r waits idle open_ full now later alone => ?_⟩
  · have must := heeded.rest quiet open_
    rw [same] at must
    exact must
  · simp only [move]
    rw [if_pos woken]
    exact v.looked now
  · intro u quiet
    have shut : u.stream.state ≠ .live :=
      run_induction (P := fun u => u.stream.state ≠ .live) later
        (fun m _ _ shut => move_over shut m) _ (over_of_ending ends idle now)
    exact ((heeded.move _).run later).answered_of_over shut quiet
  · intro u quiet
    have fits : v.stream.Fits :=
      run_fits ((RecordStream.fits_fresh capacity).after turns) moves
    have live := (v.stream.isFull_iff.1 full).1
    obtain ⟨room, taken⟩ :=
      served_of_tryNext fits (same.trans waits) idle open_ full now
    have served : Served { v.stream with queue := v.stream.queue.tail } r u :=
      run_induction later
        (fun m listed _ h => h.move live room (alone m listed)) _ taken
    obtain ⟨waits', ⟨found, unanswered⟩ | ⟨used, done⟩⟩ := served
    · -- it would have to wait, but there is room
      have must := ((heeded.move _).run later).rest quiet unanswered
      rw [waits', found, Waiter.mustWait, room] at must
      cases must
    · exact ⟨done, used⟩

/-- A producer waits at a full stream. The other thread closes the stream;
before it announces that, the producer stirs and looks. -/
theorem no_waiter_is_lost_at_close :
    let s := (RecordStream.fresh (some 1)).after [(0, .push .empty)]
    (Waiter.producer .empty).mustWait s = true
    ∧ ∃ answer,
      (((start s (.producer .empty) .empty).move (.act .close 1)).run
          [.stir, .look 2, .announce, .announce]).watch
        = .answered answer := by
  refine ⟨rfl, ?_⟩
  have released := (no_waiter_is_lost (some 1) [(0, .push .empty)]
    (.producer .empty) .empty rfl []).2.2.2.1 .close (by decide) rfl 1
    [.stir, .look 2, .announce, .announce]
  exact released ⟨rfl, by decide⟩

end PluginRpc.Vigil
