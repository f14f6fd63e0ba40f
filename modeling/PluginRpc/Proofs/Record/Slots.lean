/-
What is written to a record, and what is read of it.

A record is a row that grows at its end. Every edit appends a slot, takes
all slots away, or has to do with the error only; so what stands in a
record is what was appended since the slots were last taken away, and no
edit between changes any of it.

Reading goes by counting. A cursor that has consumed `n` slots is
`Record.cursorAt n`, whatever it was asked for on the way, and what its
next step yields is a matter of the slot at position `n` alone. A step
that consumes makes it `n + 1`, and any other leaves it where it is;
behind the last slot all of these are one and the same cursor.

# Several cursors

Cursors over one record can be copied at any time, and each goes on by
itself. `Cursor.taken` counts for each of them the consuming steps that it
has made, those of the cursors it descends from included up to the copy;
`run_cursorAt` says that this count is all there is to a cursor.
-/
import Mathlib.Data.List.DropRight
import Mathlib.Data.List.Forall2
import Mathlib.Data.List.Induction
import PluginRpc.Record.Cursor

namespace PluginRpc

-- =============================================================== writing

namespace Record

/-- The slot that an edit appends. -/
def Edit.slot? : Edit → Option Slot
  | .append slot => some slot
  | _ => none

/-- Whether an edit takes all slots away. -/
def Edit.clears : Edit → Bool
  | .reset => true
  | .fail _ => true
  | _ => false

theorem Edit.filterMap_slot? (e : Edit) :
    [e].filterMap Edit.slot? = e.slot?.toList := by
  cases e <;> rfl

/-- The slots that some edits appended since the last of them that took
all slots away. -/
def written (edits : List Edit) : List Slot :=
  (edits.rtakeWhile fun e => !e.clears).filterMap Edit.slot?

theorem written_concat (edits : List Edit) (e : Edit) :
    written (edits ++ [e])
      = if e.clears then [] else written edits ++ e.slot?.toList := by
  unfold written
  rw [List.rtakeWhile_concat]
  cases e.clears with
  | true => rfl
  | false => exact List.filterMap_append.trans (congrArg _ e.filterMap_slot?)

/-- What stands behind is added, as long as nothing is taken away. -/
theorem written_append (edits : List Edit) {after : List Edit}
    (kept : ∀ e ∈ after, e.clears = false) :
    written (edits ++ after) = written edits ++ after.filterMap Edit.slot? := by
  induction after using List.reverseRecOn with
  | nil => rw [List.append_nil, List.filterMap_nil, List.append_nil]
  | append_singleton after e ih =>
      have stays := kept e (List.mem_append_right _ (List.mem_singleton_self e))
      have others := ih fun e h => kept e (List.mem_append_left _ h)
      rw [← List.append_assoc, written_concat, stays, others,
        List.filterMap_append, e.filterMap_slot?, List.append_assoc]
      rfl

theorem apply_slots (r : Record) (e : Edit) :
    (r.apply e).slots = if e.clears then [] else r.slots ++ e.slot?.toList := by
  cases e with
  | append slot => rfl
  | reset => rfl
  | setError e => exact (List.append_nil _).symm
  | takeError => exact (List.append_nil _).symm
  | fail e => rfl

/-- What stands in a record is what was written to it. -/
theorem slots_applyAll (edits : List Edit) :
    (empty.applyAll edits).slots = written edits := by
  induction edits using List.reverseRecOn with
  | nil => rfl
  | append_singleton edits e ih =>
      have last : empty.applyAll (edits ++ [e])
          = (empty.applyAll edits).apply e := List.foldl_concat ..
      rw [last, apply_slots, ih, written_concat]

-- ============================================================= positions

/-- The slot at a position; behind the end there is nothing. -/
def slotAt (r : Record) (n : Nat) : Slot := r.slots[n]?.join

/-- The value at a position, if there is one of the kind asked for. -/
def valueAt (r : Record) (n : Nat) (k : ScalarKind) : Option k.Carrier :=
  (r.slotAt n).get? k

/-- The cursor that has consumed so many slots, as far as there were as
many. -/
def cursorAt (r : Record) (n : Nat) : Cursor :=
  ⟨min n r.length, r.slots.drop n⟩

end Record

namespace Slot

theorem get?_eq_some {k : ScalarKind} {slot : Slot} {v : k.Carrier} :
    slot.get? k = some v ↔ slot = some (Scalar.ofCarrier k v) := by
  constructor
  · intro found
    obtain ⟨value, rfl, got⟩ := Option.bind_eq_some_iff.mp found
    cases k <;> cases value <;> cases got <;> rfl
  · rintro rfl
    exact Scalar.get?_ofCarrier k v

theorem get?_eq_none {k : ScalarKind} {slot : Slot} :
    slot.get? k = none ↔ ∀ v, slot ≠ some (Scalar.ofCarrier k v) := by
  rw [Option.eq_none_iff_forall_ne_some]
  exact forall_congr' fun v => not_congr get?_eq_some

/-- A value written by its kind is read by its kind. -/
theorem get?_written (k : ScalarKind) (v : Option k.Carrier) :
    get? k (v.map (Scalar.ofCarrier k)) = v := by
  cases v with
  | none => rfl
  | some v => exact Scalar.get?_ofCarrier k v

/-- And by no other. -/
theorem get?_written_of_ne {k k' : ScalarKind} (other : k' ≠ k)
    (v : Option k.Carrier) : get? k' (v.map (Scalar.ofCarrier k)) = none := by
  cases v with
  | none => rfl
  | some v =>
      refine Scalar.get?_eq_none_of_ne ?_
      rw [Scalar.kind_ofCarrier]
      exact other.symm

/-- The slot of a kind, if it is of that kind, comes back whole. -/
theorem map_get? (k : ScalarKind) (slot : Slot) :
    (slot.get? k).map (Scalar.ofCarrier k)
      = slot.filter fun v => v.kind = k := by
  cases slot with
  | none => rfl
  | some value => cases k <;> cases value <;> rfl

end Slot

-- =============================================================== reading

namespace Cursor

/-- The steps that consume a slot where there is one left. -/
def Step.consumes : Step → Bool
  | .fetch _ => true
  | .next => true
  | _ => false

/-- How many slots have been asked for after one more step. -/
def Step.count (n : Nat) (s : Step) : Nat := if s.consumes then n + 1 else n

end Cursor

/-- A fetch in front of a position yields what is there, and leaves the
cursor in front of the next. -/
theorem Cursor.fetch_at {c : Cursor} {r : Record} {n : Nat}
    (here : c.rest = r.slots.drop n) (k : ScalarKind) :
    (c.fetch k).1 = r.valueAt n k
      ∧ (c.fetch k).2.rest = r.slots.drop (n + 1) := by
  have slot : r.slotAt n = c.rest.head?.join := by
    unfold Record.slotAt
    rw [here, List.head?_drop]
  have rest : r.slots.drop (n + 1) = c.rest.tail := by
    rw [here, List.tail_drop]
  unfold Record.valueAt
  rw [slot, rest]
  obtain ⟨position, slots⟩ := c
  cases slots with
  | nil => exact ⟨rfl, rfl⟩
  | cons slot rest => exact ⟨rfl, rfl⟩

namespace Record

open Cursor

mutual

/-- What a step has to yield when so many slots have been consumed. -/
def seenAt (r : Record) (n : Nat) : Step → Seen
  | .fetch k => .value ((r.slotAt n).filter fun v => v.kind = k)
  | .next => .slot r.slots[n]?
  | .peekKind => .kind (r.slots[n]?.map fun slot => slot.map Scalar.kind)
  | .hasNext => .more (n < r.length)
  | .fork steps => .forked (r.seenFrom n steps)

/-- What a sequence of steps has to yield, and after each of them the
position and how many slots are left. -/
def seenFrom (r : Record) (n : Nat) : List Step → List (Seen × Nat × Nat)
  | [] => []
  | s :: rest =>
      (r.seenAt n s, min (s.count n) r.length, r.length - s.count n)
        :: r.seenFrom (s.count n) rest

end

variable (r : Record)

theorem cursor_eq : r.cursor = r.cursorAt 0 := by
  unfold cursor cursorAt Cursor.start
  rw [Nat.zero_min, List.drop_zero]

/-- At the end there is one cursor, however many slots it was asked
for. -/
theorem cursorAt_of_length_le {n : Nat} (past : r.length ≤ n) :
    r.cursorAt n = ⟨r.length, []⟩ := by
  unfold cursorAt
  rw [Nat.min_eq_right past, List.drop_eq_nil_of_le past]

theorem remaining_cursorAt (n : Nat) :
    (r.cursorAt n).remaining = r.length - n := List.length_drop

/-- The next slot is the one at the position. -/
theorem next?_cursorAt (n : Nat) :
    (r.cursorAt n).next? = r.slots[n]?.map fun slot => (slot, r.cursorAt (n + 1)) := by
  by_cases inside : n < r.slots.length
  · have here := List.drop_eq_getElem_cons inside
    have before : min n r.length = n := Nat.min_eq_left (Nat.le_of_lt inside)
    have behind : min (n + 1) r.length = n + 1 := Nat.min_eq_left inside
    unfold cursorAt Cursor.next?
    rw [here, before, behind, List.getElem?_eq_getElem inside]
    rfl
  · have past : r.length ≤ n := Nat.le_of_not_lt inside
    rw [r.cursorAt_of_length_le past, List.getElem?_eq_none past]
    rfl

theorem fetch_cursorAt (n : Nat) (k : ScalarKind) :
    (r.cursorAt n).fetch k = (r.valueAt n k, r.cursorAt (n + 1)) := by
  unfold Cursor.fetch valueAt slotAt
  rw [next?_cursorAt]
  by_cases inside : n < r.slots.length
  · rw [List.getElem?_eq_getElem inside]
    rfl
  · have past : r.length ≤ n := Nat.le_of_not_lt inside
    rw [List.getElem?_eq_none past, r.cursorAt_of_length_le past,
      r.cursorAt_of_length_le (Nat.le_succ_of_le past)]
    rfl

theorem advance_cursorAt (n : Nat) :
    (r.cursorAt n).advance = r.cursorAt (n + 1) := by
  have next := r.fetch_cursorAt n .bool
  unfold Cursor.fetch at next
  unfold Cursor.advance
  cases found : (r.cursorAt n).next? with
  | none =>
      rw [found] at next
      exact congrArg Prod.snd next
  | some taken =>
      rw [found] at next
      exact congrArg Prod.snd next

mutual

/-- A step yields what the slot at the position says, and a consuming one
moves to the next. -/
theorem step_cursorAt (n : Nat) : (s : Step) →
    (r.cursorAt n).step s = (r.seenAt n s, r.cursorAt (s.count n))
  | .fetch k => by
      have fetched := r.fetch_cursorAt n k
      unfold Cursor.step seenAt
      rw [fetched, ← Slot.map_get?]
      rfl
  | .next => by
      have slot : (r.cursorAt n).next?.map Prod.fst = r.slots[n]? := by
        rw [next?_cursorAt, Option.map_map]
        exact Option.map_id'
      unfold Cursor.step seenAt
      rw [slot, advance_cursorAt]
      rfl
  | .peekKind => by
      unfold Cursor.step seenAt Cursor.peekKind?
      rw [show (r.cursorAt n).rest.head? = r.slots[n]? from List.head?_drop]
      rfl
  | .hasNext => by
      unfold Cursor.step seenAt Cursor.hasNext
      have more : (!(r.cursorAt n).rest.isEmpty) = decide (n < r.length) := by
        show (!(r.slots.drop n).isEmpty) = decide (n < r.slots.length)
        rw [Bool.eq_iff_iff, decide_eq_true_iff, Bool.not_eq_true',
          List.isEmpty_eq_false_iff, ne_eq, List.drop_eq_nil_iff, Nat.not_le]
      rw [more]
      rfl
  | .fork steps => by
      unfold Cursor.step seenAt
      rw [steps_cursorAt n steps]
      rfl

/-- And so does a sequence of steps. -/
theorem steps_cursorAt (n : Nat) : (steps : List Step) →
    (r.cursorAt n).steps steps = r.seenFrom n steps
  | [] => by
      unfold Cursor.steps seenFrom
      rfl
  | s :: rest => by
      unfold Cursor.steps seenFrom
      rw [step_cursorAt n s]
      show (_, _, (r.cursorAt (s.count n)).remaining) :: _ = _
      rw [remaining_cursorAt, steps_cursorAt (s.count n) rest]
      rfl

end

/-- What a kind fetches is a value of that kind that stands there. -/
theorem valueAt_eq_some (n : Nat) (k : ScalarKind) (v : k.Carrier) :
    r.valueAt n k = some v ↔ r.slots[n]? = some (some (.ofCarrier k v)) := by
  unfold valueAt slotAt
  rw [Slot.get?_eq_some]
  exact Option.join_eq_some_iff

end Record

-- ======================================================= several cursors

namespace Cursor

/-- Something done with the cursors over a record. -/
inductive Act where
  /-- One of them makes a step. -/
  | step (i : Nat) (s : Step)
  /-- One of them is copied; the copy is the last from then on. -/
  | copy (i : Nat)

namespace Act

def run (cursors : List Cursor) : Act → List Cursor
  | .step i s => cursors.modify i fun c => (c.step s).2
  | .copy i => cursors ++ cursors[i]?.toList

/-- Whether a cursor makes a consuming step. -/
def consumes (i : Nat) : Act → Bool
  | .step j s => j = i && s.consumes
  | .copy _ => false

/-- The numbers of consuming steps after one more act. -/
def count (counts : List Nat) : Act → List Nat
  | .step i s => counts.modify i s.count
  | .copy i => counts ++ counts[i]?.toList

end Act

/-- How many consuming steps each cursor has made, in its own course and
in that of the cursor it was copied from, before the copy. -/
def taken (acts : List Act) : List Nat := acts.foldl Act.count [0]

variable (r : Record)

/-- A cursor is where its count says. -/
theorem Act.run_cursorAt (a : Act) (counts : List Nat) :
    a.run (counts.map r.cursorAt) = (a.count counts).map r.cursorAt := by
  cases a with
  | copy i =>
      show counts.map r.cursorAt ++ (counts.map r.cursorAt)[i]?.toList = _
      rw [List.getElem?_map, Act.count, List.map_append]
      cases counts[i]? <;> rfl
  | step i s =>
      refine List.ext_getElem? fun j => ?_
      rw [Act.run, Act.count, List.getElem?_modify, List.getElem?_map,
        List.getElem?_map, List.getElem?_modify]
      cases counts[j]? with
      | none => rfl
      | some n =>
          by_cases same : i = j
          · simp only [same, Option.map_eq_map, Option.map_some, if_true,
              r.step_cursorAt]
          · simp only [same, Option.map_eq_map, Option.map_some, if_false]

theorem run_cursorAt (acts : List Act) (counts : List Nat) :
    acts.foldl Act.run (counts.map r.cursorAt)
      = (acts.foldl Act.count counts).map r.cursorAt := by
  induction acts generalizing counts with
  | nil => rfl
  | cons a acts ih => rw [List.foldl_cons, List.foldl_cons, a.run_cursorAt, ih]

/-- What others do is not counted for a cursor. -/
theorem count_getElem? {counts : List Nat} {i n : Nat}
    (here : counts[i]? = some n) (acts : List Act) :
    (acts.foldl Act.count counts)[i]? = some (n + acts.countP (Act.consumes i)) := by
  induction acts generalizing counts n with
  | nil => exact here
  | cons a acts ih =>
      have first : (a.count counts)[i]?
          = some (if a.consumes i then n + 1 else n) := by
        cases a with
        | copy j =>
            have inside : i < counts.length :=
              (List.getElem?_eq_some_iff.mp here).1
            rw [Act.count, List.getElem?_append_left inside, here]
            rfl
        | step j s =>
            rw [Act.count, List.getElem?_modify, here]
            by_cases same : j = i
            · simp [Act.consumes, Step.count, same]
            · simp [Act.consumes, same]
      rw [List.foldl_cons, ih first, List.countP_cons]
      refine congrArg some ?_
      split <;> omega

-- ============================================================= the whole

/-- What a cursor over a record is after so many consuming steps. -/
structure StandsAt (n : Nat) (c : Cursor) : Prop where
  position : c.position = min n r.length
  /-- What has been consumed and what is left is the whole record. -/
  remaining : c.position + c.remaining = r.length
  /-- A fetch yields what the slot at the position holds of the kind. -/
  fetched : ∀ k, (c.fetch k).1 = r.valueAt n k
  /-- That is a value exactly where a value of the kind stands there. -/
  found : ∀ k v,
    (c.fetch k).1 = some v ↔ r.slots[n]? = some (some (.ofCarrier k v))
  /-- So it is with any step, on the slot as it stands there. -/
  seen : ∀ s, (c.step s).1 = r.seenAt n s
  /-- At the end nothing is there, and nothing moves. -/
  ended : r.length ≤ n → c.hasNext = false ∧ c.next? = none
    ∧ c.peekKind? = none ∧ (∀ k, (c.fetch k).1 = none) ∧ ∀ s, (c.step s).2 = c

theorem standsAt_cursorAt (n : Nat) : StandsAt r n (r.cursorAt n) where
  position := rfl
  remaining := by
    rw [r.remaining_cursorAt]
    show min n r.length + (r.length - n) = r.length
    omega
  fetched k := congrArg Prod.fst (r.fetch_cursorAt n k)
  found k v := by
    rw [r.fetch_cursorAt n k]
    exact r.valueAt_eq_some n k v
  seen s := congrArg Prod.fst (r.step_cursorAt n s)
  ended past := by
    rw [r.cursorAt_of_length_le past]
    refine ⟨rfl, rfl, rfl, fun k => rfl, fun s => ?_⟩
    cases s <;> rfl

end Cursor

/-- A value that is written by its kind stays in its place for that kind,
and is none of any other. -/
theorem Record.valueAt_write (before : List Edit) (k : ScalarKind)
    (v : Option k.Carrier) {after : List Edit}
    (kept : ∀ e ∈ after, e.clears = false) :
    let r := empty.applyAll (before ++ Edit.write k v :: after)
    let n := (written before).length
    r.valueAt n k = v ∧ ∀ k', k' ≠ k → r.valueAt n k' = none := by
  intro r n
  have all : r.slots = written before
      ++ v.map (Scalar.ofCarrier k) :: after.filterMap Edit.slot? := by
    have behind : ∀ e ∈ Edit.write k v :: after, e.clears = false :=
      List.forall_mem_cons.mpr ⟨rfl, kept⟩
    exact (slots_applyAll _).trans (written_append before behind)
  have here : r.slotAt n = v.map (Scalar.ofCarrier k) := by
    unfold slotAt
    rw [all, List.getElem?_append_right (Nat.le_refl n), Nat.sub_self]
    rfl
  unfold valueAt
  rw [here]
  exact ⟨Slot.get?_written k v, fun k' other => Slot.get?_written_of_ne other v⟩

/-- What stands in a record is what was appended since its slots were last
taken away; a value that was written by its kind is there for that kind
and for no other. All cursors over it, whatever they and others have been
asked for, stand where their consuming steps have brought them, the first
one by its own steps alone. -/
theorem Record.read_as_written (edits : List Record.Edit)
    (acts : List Cursor.Act) :
    let r := Record.empty.applyAll edits
    r.slots = Record.written edits
      ∧ (∀ before k (v : Option k.Carrier) after,
          edits = before ++ Edit.write k v :: after →
          (∀ e ∈ after, e.clears = false) →
          let n := (Record.written before).length
          r.valueAt n k = v ∧ ∀ k', k' ≠ k → r.valueAt n k' = none)
      ∧ List.Forall₂ (Cursor.StandsAt r) (Cursor.taken acts)
          (acts.foldl Cursor.Act.run [r.cursor])
      ∧ (Cursor.taken acts)[0]? = some (acts.countP (Cursor.Act.consumes 0))
      ∧ ∀ steps, r.cursor.steps steps = r.seenFrom 0 steps := by
  intro r
  have readers : acts.foldl Cursor.Act.run [r.cursor]
      = (Cursor.taken acts).map r.cursorAt := by
    rw [r.cursor_eq]
    exact Cursor.run_cursorAt r acts [0]
  refine ⟨slots_applyAll edits, ?_, ?_, ?_, fun steps => ?_⟩
  · rintro before k v after rfl kept
    exact valueAt_write before k v kept
  · rw [readers, List.forall₂_map_right_iff]
    exact List.forall₂_same.mpr fun n _ => Cursor.standsAt_cursorAt r n
  · have start : [0][0]? = some 0 := rfl
    have first := Cursor.count_getElem? start acts
    rw [Nat.zero_add] at first
    exact first
  · rw [r.cursor_eq, r.steps_cursorAt]

end PluginRpc
