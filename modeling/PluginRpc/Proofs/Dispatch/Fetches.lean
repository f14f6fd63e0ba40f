/-
What each fetch of a row reads.

A handler that takes several messages goes through the rows of its request
and fetches the columns of each row one after another. Where a row begins
is a matter of its number and of the width, and where a fetch stands in it
is a matter of how many slots were asked for before, of whatever kind. So
every fetch reads one slot of the request, which its two numbers tell, or
none: a row ends after its width, or where the request ends, and a fetch
behind that end does not get into the row that follows.

# How it is put together

`getElem?_rows` says which slots a row holds, `behind_cursorAt` where a
cursor stands after any steps. What a fetch yields is then the slot of a
part of a list, looked up in the whole.
-/
import PluginRpc.Proofs.Dispatch.Rows
import PluginRpc.Proofs.Record.Slots

namespace PluginRpc

-- ============================================================ a cursor's way

/-- The cursor behind some steps. -/
def Cursor.behind (c : Cursor) (steps : List Cursor.Step) : Cursor :=
  steps.foldl (fun c s => (c.step s).2) c

/-- Steps that consume nothing leave a cursor where it is, the others bring
it one slot further. -/
theorem Record.behind_cursorAt (r : Record) (n : Nat)
    (steps : List Cursor.Step) :
    (r.cursorAt n).behind steps
      = r.cursorAt (n + steps.countP Cursor.Step.consumes) := by
  induction steps generalizing n with
  | nil => rfl
  | cons s rest ih =>
      have first : (r.cursorAt n).behind (s :: rest)
          = (r.cursorAt (s.count n)).behind rest := by
        show ((r.cursorAt n).step s).2.behind rest = _
        rw [r.step_cursorAt]
      rw [first, ih, List.countP_cons]
      unfold Cursor.Step.count
      by_cases takes : s.consumes = true
      · rw [if_pos takes, if_pos takes]
        congr 1
        omega
      · rw [if_neg takes, if_neg takes]
        congr 1

-- ================================================================ the rows

namespace Invocation

variable (i : Invocation)

/-- The slots of the row of a number, as far as there are any. -/
def part (m : Nat) : List Slot :=
  (i.request.slots.drop (m * i.width)).take i.width

theorem length_part (m : Nat) :
    (i.part m).length = min i.width (i.request.length - m * i.width) := by
  unfold part
  rw [List.length_take, List.length_drop]
  rfl

/-- A slot of a row is the slot of the request that lies as far behind the
slots of the rows before. -/
theorem getElem?_part (m j : Nat) :
    (i.part m)[j]?
      = if j < i.width then i.request.slots[m * i.width + j]? else none := by
  unfold part
  rw [List.getElem?_take, List.getElem?_drop]

/-- There is a row where the request goes on, and it is a new cursor over
its part of the request. -/
theorem getElem?_rows (m : Nat) :
    i.rows[m]?
      = if m * i.width < i.request.length then
          some (Record.ofSlots (i.part m)).cursor
        else none := by
  unfold rows
  rw [List.getElem?_map, getElem?_chunks i.width_pos]
  split
  · next begins => exact (if_pos begins).symm
  · next ends => exact (if_neg ends).symm

theorem length_rows :
    i.rows.length = (i.request.length + i.width - 1) / i.width := by
  unfold rows
  rw [List.length_map, length_chunks i.width_pos]
  rfl

theorem flatten_rows :
    (i.rows.map Cursor.rest).flatten = i.request.slots := by
  unfold rows
  rw [List.map_map]
  show ((chunks i.width i.request.slots).map id).flatten = _
  rw [List.map_id, flatten_chunks]

/-- The rows of a request, slot by slot. Put together they are the request,
and there are no more of them than it takes; each but the last is as long
as the function has columns, a function without columns counting as one
with a single one, and the last is no longer than that and not empty. In
every row, a fetch that has so many consuming steps before it yields a
value exactly if there is one of its kind in the slot that lies as far
behind the beginning of the row, provided that this is not behind the
row's width. Where a row has been consumed a fetch yields nothing and
moves nowhere, whatever the next row holds. -/
theorem rows_read_by_position (i : Invocation) :
    let w := max 1 (i.records.record i.function.input).columns.length
    let n := i.request.slots.length
    (i.rows.map Cursor.rest).flatten = i.request.slots
      ∧ i.rows.length = (n + w - 1) / w
      ∧ ∀ m row, i.rows[m]? = some row →
          row.position = 0
          ∧ 1 ≤ row.remaining ∧ row.remaining ≤ w
          ∧ (m + 1 < i.rows.length → row.remaining = w)
          ∧ ∀ steps : List Cursor.Step,
              let j := steps.countP Cursor.Step.consumes
              let c := row.behind steps
              (∀ k v, (c.fetch k).1 = some v
                ↔ j < w
                  ∧ i.request.slots[m * w + j]? = some (some (.ofCarrier k v)))
              ∧ (row.remaining ≤ j → ∀ k, c.fetch k = (none, c)) := by
  intro w n
  refine ⟨i.flatten_rows, i.length_rows, fun m row found => ?_⟩
  rw [getElem?_rows] at found
  split at found
  case isFalse => cases found
  case isTrue begins =>
    cases found
    have length : (Record.ofSlots (i.part m)).cursor.remaining
        = min w (n - m * w) := i.length_part m
    have pos : 0 < w := i.width_pos
    have begins : m * w < n := begins
    refine ⟨rfl, ?_, ?_, fun followed => ?_, fun steps => ?_⟩
    · omega
    · omega
    · -- the row that follows begins a width further on
      have next := i.getElem?_rows (m + 1)
      rw [List.getElem?_eq_getElem followed] at next
      split at next
      case isFalse => cases next
      case isTrue further =>
        have further : (m + 1) * w < n := further
        rw [Nat.succ_mul] at further
        omega
    · intro j c
      have stands : c = (Record.ofSlots (i.part m)).cursorAt j := by
        have moved := (Record.ofSlots (i.part m)).behind_cursorAt 0 steps
        rw [Nat.zero_add] at moved
        exact moved
      refine ⟨fun k v => ?_, fun past k => ?_⟩
      · rw [stands, Record.fetch_cursorAt, Record.valueAt_eq_some]
        show (i.part m)[j]? = _ ↔ _
        rw [getElem?_part]
        by_cases inside : j < i.width
        · rw [if_pos inside]
          exact (and_iff_right inside).symm
        · rw [if_neg inside]
          exact iff_of_false nofun fun h => inside h.1
      · have past : (Record.ofSlots (i.part m)).length ≤ j := past
        rw [stands, Record.cursorAt_of_length_le _ past]
        rfl

end Invocation

end PluginRpc
