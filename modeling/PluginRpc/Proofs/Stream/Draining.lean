/-
Draining a stream that is over.

The reader that drains a stream is three readers in one: a read that may
wait, the status and the record that it brings, and the item that is made
of these. The last step is where a record could get lost, for an error
that was told of and is not there would make no item, and no item is the
end. `item?_status` says that this does not happen: a record is told of as
failed exactly if it carries an error.

From there on a stream that is over is its queue. `nextItem_of_over` is
one call, `takeItems_of_over` a reader that stops at the end, and
`answers_of_over` one that does not.
-/
import Mathlib.Data.List.Forall2
import PluginRpc.Proofs.Stream.Lifecycle
import PluginRpc.Stream.Drain

namespace PluginRpc

-- ================================================================ the items

/-- What a record comes out as: itself if nothing is wrong with it, and
its error if something is. -/
inductive Record.ComesOut : Record → StreamItem → Prop
  | whole {r : Record} (sound : r.error = none) : ComesOut r (.ok r)
  | failed {r : Record} {e : ErrorInfo} (carries : r.error = some e) :
      ComesOut r (.error e)

theorem Record.comesOut_iff {r : Record} {item : StreamItem} :
    r.ComesOut item ↔ r.toItem = item := by
  unfold Record.toItem
  constructor
  · intro out
    cases out with
    | whole sound => rw [sound]
    | failed carries => rw [carries]
  · rintro rfl
    cases carries : r.error with
    | none => exact .whole carries
    | some e => exact .failed carries

/-- Records come out as their items, each in its place. -/
theorem forall₂_comesOut_iff {queue : List Record} {items : List StreamItem} :
    List.Forall₂ Record.ComesOut queue items
      ↔ queue.map Record.toItem = items := by
  rw [← List.forall₂_eq_eq_eq, List.forall₂_map_left_iff]
  constructor
  · exact fun each => each.imp fun _ _ => Record.comesOut_iff.mp
  · exact fun each => each.imp fun _ _ => Record.comesOut_iff.mpr

/-- The status and the record that a reader gets make the record's
item. -/
theorem Record.item?_status (r : Record) (s : RecordStream) :
    let p := RecordStream.Pull.delivered r s
    p.status.item? (p.into .empty) = some r.toItem := by
  intro p
  show (if r.isFailed then StreamStatus.error else .ok).item? r = _
  unfold Record.isFailed Record.toItem
  cases carries : r.error with
  | none => rfl
  | some e =>
      show r.error.map _ = _
      rw [carries]
      rfl

namespace RecordStream

-- ================================================================= one call

/-- What is answered to calls for the next item, one at each of these
instants, by a reader that goes on calling at the end. -/
def answers (s : RecordStream) : List Instant → List (Wait (Option StreamItem))
  | [] => []
  | now :: later =>
      match s.nextItem now with
      | .done (item, s') => .done item :: s'.answers later
      | .waits => .waits :: s.answers later

variable {s : RecordStream}

/-- A stream that is over answers at once: with its first record, or that
there is none. -/
theorem next_of_over (spent : s.state ≠ .live) (now : Instant)
    (timeout : Option Span) : s.next now timeout = .done s.deliver :=
  if_pos (s.isReadable_of_over spent)

theorem nextItem_of_over (spent : s.state ≠ .live) (now : Instant) :
    s.nextItem now
      = .done (s.queue.head?.map Record.toItem,
          { s with queue := s.queue.tail }) := by
  unfold nextItem
  rw [next_of_over spent]
  obtain ⟨queue, capacity, eos, closed⟩ := s
  cases queue with
  | nil => rfl
  | cons r rest =>
      have item := r.item?_status ⟨rest, capacity, eos, closed⟩
      exact congrArg (fun item => Wait.done (item, _)) item

-- =============================================================== many calls

/-- A reader that takes so many items takes those of the records in front,
or of all if there are no more. -/
theorem takeItems_of_over (spent : s.state ≠ .live) (now : Instant)
    (n : Nat) :
    s.takeItems now n
      = ((s.queue.take n).map Record.toItem,
          { s with queue := s.queue.drop n }) := by
  induction n generalizing s with
  | zero => rfl
  | succ n ih =>
      unfold takeItems
      rw [nextItem_of_over spent]
      obtain ⟨queue, capacity, eos, closed⟩ := s
      cases queue with
      | nil => rfl
      | cons r rest =>
          have spent' : (⟨rest, capacity, eos, closed⟩ : RecordStream).state
              ≠ .live := spent
          show (_ :: (takeItems ⟨rest, capacity, eos, closed⟩ now n).1,
            (takeItems ⟨rest, capacity, eos, closed⟩ now n).2) = _
          rw [ih spent']
          rfl

theorem items_of_over (spent : s.state ≠ .live) (now : Instant) :
    s.items now = (s.queue.map Record.toItem, { s with queue := [] }) := by
  have enough : s.queue.length ≤ s.buffered + 1 := Nat.le_succ _
  unfold items
  rw [takeItems_of_over spent, List.take_of_length_le enough,
    List.drop_eq_nil_of_le enough]

/-- The call of a number is answered with the item of the record of that
number, and behind the last record all calls are answered alike. -/
theorem answers_of_over (spent : s.state ≠ .live) {nows : List Instant}
    {m : Nat} (called : m < nows.length) :
    (s.answers nows)[m]? = some (.done (s.queue[m]?.map Record.toItem)) := by
  induction nows generalizing s m with
  | nil => cases called
  | cons now later ih =>
      have spent' : ({ s with queue := s.queue.tail } : RecordStream).state
          ≠ .live := spent
      unfold answers
      rw [nextItem_of_over spent]
      cases m with
      | zero =>
          show some (Wait.done (s.queue.head?.map _)) = _
          rw [List.head?_eq_getElem?]
      | succ m =>
          have behind := ih spent' (Nat.lt_of_succ_lt_succ called)
          rw [List.getElem?_tail] at behind
          exact behind

/-- A stream that is over is drained to its end, whatever it buffers. There
is one item for each record, in order, which is the record if nothing is
wrong with it and its error if something is. These items are what a reader
collects; they are what calls for the next item are answered with one
after another, and when there are no more every further call is answered
that there is none. Whoever takes some items and leaves the rest to
another reader has taken the first of them, and the other gets those that
follow, and then no more. -/
theorem drained_in_order (s : RecordStream) (spent : s.state ≠ .live) :
    ∃ items : List StreamItem,
      List.Forall₂ Record.ComesOut s.queue items
      ∧ (∀ now, s.items now = (items, { s with queue := [] }))
      ∧ (∀ (nows : List Instant) m, m < nows.length →
          (s.answers nows)[m]? = some (.done items[m]?))
      ∧ ∀ k now,
          let first := s.takeItems now k
          first.1 = items.take k
          ∧ (∀ later, first.1 ++ (first.2.items later).1 = items)
          ∧ ∀ (nows : List Instant) m, m < nows.length →
              (first.2.answers nows)[m]? = some (.done items[k + m]?) := by
  refine ⟨s.queue.map Record.toItem, ?_, items_of_over spent,
    fun nows m called => ?_, fun k now => ?_⟩
  · exact forall₂_comesOut_iff.mpr rfl
  · rw [answers_of_over spent called, List.getElem?_map]
  · intro first
    have taken : first = _ := takeItems_of_over spent now k
    have spent' : first.2.state ≠ .live := by
      rw [taken]
      exact spent
    refine ⟨?_, fun later => ?_, fun nows m called => ?_⟩
    · rw [taken, List.map_take]
    · rw [items_of_over spent' later, taken, ← List.map_append,
        List.take_append_drop]
    · rw [answers_of_over spent' called, taken, List.getElem?_drop,
        List.getElem?_map]

/-- A failed record between two others is an item like these. -/
theorem drained_behind_failed_record :
    let a : Record := .ofSlots [some (.int4 1)]
    let b : Record := .ofSlots [some (.int4 2)]
    let e := ErrorInfo.unavailable "backend reset"
    let s := unbounded.after
      [(0, .push a), (0, .push (.failed e)), (0, .push b), (0, .endStream)]
    s.state ≠ .live
      ∧ (s.items 1).1 = [.ok a, .error e, .ok b]
      ∧ (s.answers [1, 2, 3, 4, 5])[4]? = some (.done none) := by
  intro a b e s
  have spent : s.state ≠ .live := StreamState.noConfusion
  obtain ⟨items, each, collected, called, -⟩ := drained_in_order s spent
  have all : [.ok a, .error e, .ok b] = items := forall₂_comesOut_iff.mp each
  refine ⟨spent, ?_, ?_⟩
  · rw [collected 1, ← all]
  · rw [called [1, 2, 3, 4, 5] 4 (by decide), ← all]
    rfl

end RecordStream

end PluginRpc
