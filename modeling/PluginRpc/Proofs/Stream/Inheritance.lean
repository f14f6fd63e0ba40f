/-
What a stream keeps from the stream it was made for.

Moving a stream makes another one, and that one may be moved again, so a
bound that somebody asked for is handed down a chain of streams.
`Founded` reads the chain off the history: which capacity was asked for
where the stream at the far end of the chain was made.

# The invariant

`RecordStream.KeepsTo` says of one stream what it owes to the capacity
that was asked for, the bound itself and a buffer within the bound, and
what its two flags owe to each other: whatever closes a stream ends it in
the same section. It is kept by every line of `Effect`, and whatever a
transfer moves into a new stream keeps to it because it is the stream that
was found. `Descent` says it of a family: every stream has been founded,
and keeps to what it was founded with. That a closed stream buffers
nothing is in the books of the family already.

`run_keeps_bounds` is the run. Threads that wait look again within it, so
the pushes that had to wait are among those that fill a buffer.
-/
import PluginRpc.Proofs.Stream.Capacity
import PluginRpc.Proofs.Stream.Conservation

namespace PluginRpc

open RecordStream (Effect Fits IsPull Spent)

-- ============================================================== the chain

/-- The capacity that was asked for where the stream at a place was made,
or where the stream was made that it was moved from, and so on. -/
inductive Founded : List StreamEvent → Nat → Option Nat → Prop where
  | made (h : List StreamEvent) (capacity : Option Nat) :
      Founded (h ++ [.made (.fresh capacity)]) (births h).length capacity
  | moved {h : List StreamEvent} {place : Nat} {capacity : Option Nat}
      (source : Founded h place capacity) (found : RecordStream) :
      Founded (h ++ [.ran place found .transfer (.moved found)])
        (births h).length capacity
  | kept {h : List StreamEvent} {i : Nat} {capacity : Option Nat}
      (before : Founded h i capacity) (e : StreamEvent) :
      Founded (h ++ [e]) i capacity

namespace Founded

variable {h : List StreamEvent} {i : Nat} {capacity : Option Nat}

/-- What one more event can have founded: the stream that was made in it
or moved in it. -/
theorem of_concat {e : StreamEvent} (d : Founded (h ++ [e]) i capacity) :
    Founded h i capacity
      ∨ i = (births h).length
        ∧ (e = .made (.fresh capacity)
          ∨ ∃ place found, Founded h place capacity
            ∧ e = .ran place found .transfer (.moved found)) := by
  generalize hh : h ++ [e] = h' at d
  cases d with
  | made g =>
      obtain ⟨rfl, last⟩ := List.append_inj' hh rfl
      exact Or.inr ⟨rfl, Or.inl (List.singleton_inj.1 last)⟩
  | @moved g place _ source found =>
      obtain ⟨rfl, last⟩ := List.append_inj' hh rfl
      exact Or.inr ⟨rfl, Or.inr ⟨place, found, source,
        List.singleton_inj.1 last⟩⟩
  | kept before _ =>
      obtain ⟨rfl, -⟩ := List.append_inj' hh rfl
      exact Or.inl before

theorem append (d : Founded h i capacity) (more : List StreamEvent) :
    Founded (h ++ more) i capacity := by
  induction more generalizing h with
  | nil =>
      rw [List.append_nil]
      exact d
  | cons e rest ih =>
      rw [List.append_cons]
      exact ih (d.kept e)

end Founded

-- ============================================================= one stream

namespace RecordStream

/-- A stream that keeps to the capacity that was asked for. -/
structure KeepsTo (capacity : Option Nat) (s : RecordStream) : Prop where
  /-- A bound is room for one record at least. -/
  bound : s.capacity = capacity.map (max · 1)
  fits : Fits s
  /-- No stream is closed that has not been ended. -/
  ended : s.closed = true → s.eos = true

/-- A stream that was made for a capacity buffers all that it has room
for. -/
def Brimful (capacity : Option Nat) (s : RecordStream) : Prop :=
  ∃ n, capacity = some n ∧ s.buffered = max n 1

variable {s s' : RecordStream} {op : StreamOp} {answer : StreamReply}
  {capacity : Option Nat}

theorem keepsTo_fresh (capacity : Option Nat) :
    KeepsTo capacity (fresh capacity) := by
  refine ⟨?_, fits_fresh capacity, fun closed => ?_⟩
  · cases capacity <;> rfl
  · cases capacity <;> cases closed

/-- Only a transfer makes a stream, and what it makes is what it found. -/
theorem Effect.made_by_transfer (e : Effect s op answer s') :
    StreamFamily.madeBy answer = []
      ∨ op = .transfer ∧ answer = .moved s := by
  cases e with
  | moved => exact Or.inr ⟨rfl, rfl⟩
  | _ => exact Or.inl rfl

/-- The end is set with the closing, and neither flag is ever taken
back. -/
theorem Effect.eos_of_closed (e : Effect s op answer s')
    (before : s.closed = true → s.eos = true) (closed : s'.closed = true) :
    s'.eos = true := by
  cases e with
  | ended | closed | moved => rfl
  | _ => exact before closed

/-- No critical section lets a stream depart from its capacity. -/
theorem Effect.keepsTo (e : Effect s op answer s') (k : KeepsTo capacity s) :
    KeepsTo capacity s' :=
  ⟨e.capacity_eq.trans k.bound, e.fits k.fits, e.eos_of_closed k.ended⟩

namespace KeepsTo

theorem buffered_le (k : KeepsTo capacity s) {n : Nat}
    (asked : capacity = some n) : s.buffered ≤ max n 1 := by
  refine k.fits.within (max n 1) ?_
  rw [k.bound, asked]
  rfl

/-- There is no room where the buffer is as long as the bound, and it is
never longer. -/
theorem atCapacity_iff_brimful (k : KeepsTo capacity s) :
    s.atCapacity = true ↔ s.Brimful capacity := by
  rw [atCapacity_iff, k.bound]
  constructor
  · rintro ⟨m, bound, most⟩
    obtain ⟨n, asked, rfl⟩ := Option.map_eq_some_iff.1 bound
    exact ⟨n, asked, Nat.le_antisymm (k.buffered_le asked) most⟩
  · rintro ⟨n, asked, brim⟩
    exact ⟨max n 1, by rw [asked, Option.map_some], Nat.le_of_eq brim.symm⟩

/-- The two answers of a push on a live stream, and when it gets which. -/
theorem push_of_live (k : KeepsTo capacity s) (live : s.state = .live)
    (now : Instant) (r : Record) :
    (s.Brimful capacity ∧ (s.run now (.push r)).1 = .waits)
      ∨ (¬ s.Brimful capacity ∧ (s.run now (.push r)).1 = .pushed true) := by
  rw [← k.atCapacity_iff_brimful]
  have e := s.run_effect now (.push r)
  generalize (s.run now (.push r)).1 = answer at e
  generalize (s.run now (.push r)).2 = s' at e
  cases e with
  | accepted _ _ room =>
      refine Or.inr ⟨?_, rfl⟩
      rw [room]
      exact Bool.false_ne_true
  | refused _ spent => exact absurd live spent
  | blocked _ _ full => exact Or.inl ⟨full, rfl⟩
  | took pull _ => cases pull
  | finished pull _ _ => cases pull
  | dry pull _ _ => cases pull

end KeepsTo

/-- A spent stream says so to everybody. -/
theorem Spent.answers (h : Spent s) (now : Instant) :
    (∀ r, (s.run now (.push r)).1 = .pushed false)
      ∧ ∀ op, IsPull op → (s.run now op).1 = .pulled .finished := by
  refine ⟨fun r => ?_, fun op pull => ?_⟩
  · rw [h.run_push r now]
  · rw [h.run_pull pull now]

end RecordStream

/-- A closed stream is over as well. -/
theorem Settled.spent_of_closed {a : StreamAccount} {s : RecordStream}
    (h : Settled a s) (closed : s.state = .closed) : Spent s := by
  refine ⟨h.emptied closed, ?_⟩
  rw [closed]
  intro live
  cases live

-- =============================================================== a family

/-- Every stream of a family has been founded, and keeps to the capacity
it has been founded with. The books of the family say at which place a
stream is founded. -/
structure Descent (h : List StreamEvent) (f : StreamFamily) : Prop
    extends Books h f where
  founded : ∀ i < f.streams.length, ∃ capacity, Founded h i capacity
  taken : ∀ {i capacity}, Founded h i capacity → i < f.streams.length
  keeps : ∀ {i capacity}, Founded h i capacity →
    (f.stream i).KeepsTo capacity

namespace Descent

variable {h : List StreamEvent} {f : StreamFamily}

theorem start : Descent [] ⟨[], .empty⟩ := by
  -- a history in which anything has been founded ends in an event
  have unfounded : ∀ {i capacity}, ¬ Founded [] i capacity := by
    intro i capacity d
    generalize hh : ([] : List StreamEvent) = h at d
    cases d <;> exact List.append_ne_nil_of_right_ne_nil _
      (List.cons_ne_nil _ _) hh.symm
  exact ⟨.start, fun i hi => absurd hi (Nat.not_lt_zero i),
    fun d => absurd d unfounded, fun d => absurd d unfounded⟩

/-- A stream that is made is the first of a new chain. -/
theorem made (d : Descent h f) (capacity : Option Nat) :
    Descent (h ++ [.made (.fresh capacity)])
      { f with streams := f.streams ++ [.fresh capacity] } := by
  have one : (f.streams ++ [RecordStream.fresh capacity]).length
      = f.streams.length + 1 := by simp
  refine ⟨d.toBooks.made capacity, fun i hi => ?_, fun founded => ?_,
    fun founded => ?_⟩
  · rw [one] at hi
    by_cases old : i < f.streams.length
    · obtain ⟨c, founded⟩ := d.founded i old
      exact ⟨c, founded.kept _⟩
    · have last : i = (births h).length := by rw [d.places]; omega
      exact ⟨capacity, last ▸ .made h capacity⟩
  · rw [one]
    rcases founded.of_concat with old | ⟨rfl, -⟩
    · exact Nat.lt_succ_of_lt (d.taken old)
    · rw [d.places]
      exact Nat.lt_succ_self _
  · rw [f.stream_concat]
    rcases founded.of_concat with old | ⟨rfl, new | ⟨place, found, -, new⟩⟩
    · rw [if_neg (Nat.ne_of_lt (d.taken old))]
      exact d.keeps old
    · rw [if_pos d.places, StreamEvent.made.inj new]
      exact RecordStream.keepsTo_fresh _
    · cases new

/-- A critical section founds nothing, save a transfer, and that hands
down what the stream it found was founded with. -/
theorem ran (d : Descent h f) {place : Nat} (op : StreamOp) (now : Instant)
    (there : place < f.streams.length) :
    Descent (h ++ [.ran place (f.stream place) op (f.run now place op).1])
      (f.run now place op).2 := by
  have e := RecordStream.run_effect (f.stream place) now op
  rw [← f.run_answer] at e
  have length := f.length_run now place op
  refine ⟨d.toBooks.ran op now there, fun i hi => ?_, fun founded => ?_,
    fun {i _} founded => ?_⟩
  · by_cases old : i < f.streams.length
    · obtain ⟨c, founded⟩ := d.founded i old
      exact ⟨c, founded.kept _⟩
    · rw [length] at hi
      rcases e.made_by_transfer with none | ⟨hop, answer⟩
      · rw [none, List.length_nil] at hi
        exact absurd hi old
      · rw [answer] at hi
        have one : i < f.streams.length + 1 := hi
        have last : i = (births h).length := by rw [d.places]; omega
        obtain ⟨c, source⟩ := d.founded place there
        rw [answer, hop]
        exact ⟨c, last ▸ source.moved (f.stream place)⟩
  · rw [length]
    rcases founded.of_concat with old | ⟨rfl, new | ⟨_, found, -, new⟩⟩
    · exact Nat.lt_add_right _ (d.taken old)
    · cases new
    · obtain ⟨-, -, -, answer⟩ := StreamEvent.ran.inj new
      rw [d.places, answer]
      exact Nat.lt_succ_self _
  · rw [f.stream_run now op there]
    rcases founded.of_concat with old | ⟨rfl, new | ⟨p, found, source, new⟩⟩
    · by_cases here : i = place
      · subst here
        rw [if_pos rfl]
        exact e.keepsTo (d.keeps old)
      · rw [if_neg here, if_pos (d.taken old)]
        exact d.keeps old
    · cases new
    · obtain ⟨rfl, rfl, -, answer⟩ := StreamEvent.ran.inj new
      -- the new stream stands behind all others, as it was found
      rw [d.places, if_neg (Nat.ne_of_gt there), if_neg (Nat.lt_irrefl _),
        answer, Nat.sub_self]
      exact d.keeps source

/-- What holds of a family still holds after a run of it. -/
theorem run {t : Traffic} (d : Descent h t.family) (acts : List StreamAct) :
    Descent (h ++ (t.run acts).1) (t.run acts).2.family :=
  Traffic.run_induction (P := Descent) (fun _ _ capacity d => d.made capacity)
    (fun _ _ _ op now d there => d.ran op now there) acts h t d

end Descent

-- ================================================================ the run

/-- What can be relied on in every stream, at every point of every run of
any number of threads on any number of streams. Every stream has been
founded, which is to say made with a capacity or moved, over any number
of streams, from one that was, and this is what it keeps to. A closed
stream has been ended as well, buffers nothing, and tells everybody so. Its
bound is what was asked for, at least one, whatever stream it was asked
for; its buffer never exceeds it; and no act to come changes the bound.
A live stream refuses no push: it makes it wait if the buffer is as long
as the bound, and takes it if not. -/
theorem run_keeps_bounds (acts : List StreamAct) :
    let h := (Traffic.empty.run acts).1
    let t := (Traffic.empty.run acts).2
    (∀ i, i < t.family.streams.length ↔ ∃ capacity, Founded h i capacity)
    ∧ ∀ i capacity, Founded h i capacity →
      let s := t.family.stream i
      (s.state = .closed ↔ s.closed = true)
      ∧ (s.closed = true →
        s.eos = true ∧ Spent s
          ∧ ∀ now, (∀ r, (s.run now (.push r)).1 = .pushed false)
            ∧ ∀ op, IsPull op → (s.run now op).1 = .pulled .finished)
      ∧ s.capacity = capacity.map (max · 1)
      ∧ (∀ n, capacity = some n → s.buffered ≤ max n 1)
      ∧ (s.state = .live → ∀ now r,
          (s.Brimful capacity ∧ (s.run now (.push r)).1 = .waits)
            ∨ (¬ s.Brimful capacity
              ∧ (s.run now (.push r)).1 = .pushed true))
      ∧ ∀ later, let f := (t.run later).2.family
        i < f.streams.length ∧ (f.stream i).capacity = s.capacity := by
  intro h t
  have descent : Descent h t.family := by
    simpa using Descent.start.run (t := Traffic.empty) acts
  refine ⟨fun i => ⟨descent.founded i, fun ⟨_, founded⟩ =>
    descent.taken founded⟩, fun i capacity founded => ?_⟩
  intro s
  have keeps : s.KeepsTo capacity := descent.keeps founded
  refine ⟨s.state_eq_closed_iff, fun closed => ?_, keeps.bound,
    fun n => keeps.buffered_le, keeps.push_of_live, fun later => ?_⟩
  · have spent := (descent.settled i).spent_of_closed
      (s.state_eq_closed_iff.2 closed)
    exact ⟨keeps.ended closed, spent, spent.answers⟩
  · have behind := descent.run later
    have still := founded.append (t.run later).1
    exact ⟨behind.taken still,
      (behind.keeps still).bound.trans keeps.bound.symm⟩

/-- A stream made for nothing has room for one record, moved twice still,
and a push behind that record waits there until it has been taken. -/
example (a b : Record) :
    let t := (Traffic.empty.run
      [.make (some 0), .call 0 (.push a) 0, .call 0 .transfer 0,
        .call 1 .transfer 0, .call 2 (.push b) 0]).2
    t.asleep = [(2, .push b)]
      ∧ ((t.run [.call 2 .tryNext 0, .look 0 0]).2.family.stream 2).queue
        = [b] := by
  cbv

end PluginRpc
