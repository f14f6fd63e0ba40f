/-
What a reader finds in what was written.

The reader of structured values is given the written form of one, with
something behind it, and has to stop where that form ends. Texts, arrays
and objects bring their own end; a number ends where no character of
numbers follows, so what stands behind a value must not begin with one.
A comma, a bracket and a brace do not, and neither does nothing at all.

The proof goes along the value and not along the bytes: each shape of
value is one step of the reader, and the steps for the parts are those
of the parts. Fuel is counted by the written bytes, two steps a byte.
-/
import PluginRpc.Proofs.Json.Number
import PluginRpc.Proofs.Json.Text

namespace PluginRpc

open Lexed

-- ==================================================== values as they are found

namespace Json

mutual

/-- A value as a reader finds it. -/
def lexed : Json → Lexed
  | null => .null
  | bool b => .bool b
  | number n => .number (intBytes n)
  | text s => .text (quoted s)
  | array items => .array (lexedItems items)
  | object members => .object (lexedMembers members)

def lexedItems : List Json → List Lexed
  | [] => []
  | item :: rest => item.lexed :: lexedItems rest

def lexedMembers : List (String × Json) → List (Payload × Lexed)
  | [] => []
  | (key, value) :: rest => (quoted key, value.lexed) :: lexedMembers rest

end

end Json

namespace Lexed

-- ====================================================== steps of the reader

theorem skip_of_not_blank {b : UInt8} (visible : isBlank b = false)
    (rest : Payload) : skip (b :: rest) = b :: rest := by
  unfold skip
  rw [List.dropWhile_cons, visible]
  rfl

theorem isBlank_of_isNumberByte {b : UInt8} (number : isNumberByte b = true) :
    isBlank b = false := by
  rw [Bool.eq_false_iff]
  intro blank
  simp only [isBlank, Bool.or_eq_true, beq_iff_eq] at blank
  rcases blank with ((rfl | rfl) | rfl) | rfl <;> cases number

variable (fuel : Nat) (rest : Payload)

theorem value?_quote :
    value? (fuel + 1) (0x22 :: rest)
      = (body? rest).map fun (body, rest) => (text body, rest) :=
  rfl

theorem value?_bracket {b : UInt8} (visible : isBlank b = false)
    (more : b ≠ 0x5d) :
    value? (fuel + 1) (0x5b :: b :: rest)
      = (items? fuel (b :: rest)).map fun (items, rest) =>
          (array items, rest) := by
  have bracket : skip (0x5b :: b :: rest) = 0x5b :: b :: rest := rfl
  have next : skip (b :: rest) = b :: rest := skip_of_not_blank visible rest
  simp only [value?, bracket, next]
  split
  · next same =>
    injection same with same
    exact absurd same more
  · rfl

theorem value?_brace :
    value? (fuel + 1) (0x7b :: 0x22 :: rest)
      = (members? fuel (0x22 :: rest)).map fun (members, rest) =>
          (object members, rest) :=
  rfl

/-- A number is taken as far as the characters of numbers go. -/
theorem value?_number {b : UInt8} (number : isNumberByte b = true) :
    value? (fuel + 1) (b :: rest)
      = if isNumber ((b :: rest).takeWhile isNumberByte) then
          some (.number ((b :: rest).takeWhile isNumberByte),
            (b :: rest).dropWhile isNumberByte)
        else none := by
  rw [value?, skip_of_not_blank (isBlank_of_isNumberByte number)]
  split
  -- every other shape begins with a byte of which no number is made
  all_goals first
    | next same => cases same; cases number
    | next same => cases same; rfl
    | next same => cases same

variable {rest} {bytes : Payload} {item : Lexed}

theorem items?_last (found : value? fuel bytes = some (item, 0x5d :: rest)) :
    items? (fuel + 1) bytes = some ([item], rest) := by
  rw [items?, found]
  rfl

theorem items?_more (found : value? fuel bytes = some (item, 0x2c :: rest)) :
    items? (fuel + 1) bytes
      = (items? fuel rest).map fun (items, rest) => (item :: items, rest) := by
  rw [items?, found]
  rfl

theorem members?_last (key : String) {bytes : Payload} {value : Lexed}
    (found : value? fuel bytes = some (value, 0x7d :: rest)) :
    members? (fuel + 1) (Json.textBytes key ++ 0x3a :: bytes)
      = some ([(quoted key, value)], rest) := by
  have named := body?_quoted key (0x3a :: bytes)
  have quote : skip (0x22 :: (quoted key ++ 0x22 :: 0x3a :: bytes))
      = 0x22 :: (quoted key ++ 0x22 :: 0x3a :: bytes) := rfl
  have colon : skip (0x3a :: bytes) = 0x3a :: bytes := rfl
  have brace : skip (0x7d :: rest) = 0x7d :: rest := rfl
  rw [textBytes_append]
  simp only [members?, quote, named, colon, found, brace]

theorem members?_more (key : String) {bytes : Payload} {value : Lexed}
    (found : value? fuel bytes = some (value, 0x2c :: rest)) :
    members? (fuel + 1) (Json.textBytes key ++ 0x3a :: bytes)
      = (members? fuel rest).map fun (members, rest) =>
          ((quoted key, value) :: members, rest) := by
  have named := body?_quoted key (0x3a :: bytes)
  have quote : skip (0x22 :: (quoted key ++ 0x22 :: 0x3a :: bytes))
      = 0x22 :: (quoted key ++ 0x22 :: 0x3a :: bytes) := rfl
  have colon : skip (0x3a :: bytes) = 0x3a :: bytes := rfl
  have comma : skip (0x2c :: rest) = 0x2c :: rest := rfl
  rw [textBytes_append]
  simp only [members?, quote, named, colon, found, comma]

-- ======================================================= where values end

/-- What may stand behind a value: nothing that would go on with a
number. -/
def Stops (rest : Payload) : Prop :=
  ∀ b, rest.head? = some b → isNumberByte b = false

theorem stops_nil : Stops [] := fun b h => by cases h

theorem stops_cons {b : UInt8} (other : isNumberByte b = false)
    (rest : Payload) : Stops (b :: rest) := fun b' h => by
  cases h
  exact other

theorem Stops.takeWhile {rest : Payload} (stops : Stops rest) :
    rest.takeWhile isNumberByte = [] := by
  cases rest with
  | nil => rfl
  | cons b rest =>
      rw [List.takeWhile_cons, stops b rfl]
      rfl

theorem Stops.dropWhile {rest : Payload} (stops : Stops rest) :
    rest.dropWhile isNumberByte = rest := by
  cases rest with
  | nil => rfl
  | cons b rest =>
      rw [List.dropWhile_cons, stops b rfl]
      rfl

/-- A whole number is read to its end. -/
theorem value?_intBytes (n : Int) (stops : Stops rest) :
    value? (fuel + 1) (Json.intBytes n ++ rest)
      = some (.number (Json.intBytes n), rest) := by
  have all := isNumberByte_of_mem_intBytes n
  have taken : (Json.intBytes n ++ rest).takeWhile isNumberByte
      = Json.intBytes n := by
    rw [List.takeWhile_append_of_pos all, stops.takeWhile, List.append_nil]
  have left : (Json.intBytes n ++ rest).dropWhile isNumberByte = rest := by
    rw [List.dropWhile_append_of_pos all, stops.dropWhile]
  have number := isNumber_intBytes n
  obtain ⟨b, tail, front⟩ := List.exists_cons_of_ne_nil (intBytes_ne_nil n)
  rw [front] at all taken left number ⊢
  rw [List.cons_append] at taken left ⊢
  rw [value?_number fuel _ (all b List.mem_cons_self), taken, left, number]
  rfl

-- ==================================================== what written values read

open Json

/-- A written value begins with something visible, and not with what
closes an array. -/
theorem bytes_head (j : Json) :
    ∃ b rest, j.bytes = b :: rest ∧ isBlank b = false ∧ b ≠ 0x5d := by
  cases j with
  | null => exact ⟨_, _, rfl, rfl, by decide⟩
  | bool b => cases b <;> exact ⟨_, _, rfl, rfl, by decide⟩
  | number n =>
      obtain ⟨b, rest, front⟩ := List.exists_cons_of_ne_nil (intBytes_ne_nil n)
      have number : isNumberByte b = true :=
        isNumberByte_of_mem_intBytes n b (front ▸ List.mem_cons_self)
      refine ⟨b, rest, front, isBlank_of_isNumberByte number, ?_⟩
      rintro rfl
      cases number
  | text s => exact ⟨_, _, rfl, rfl, by decide⟩
  | array items => exact ⟨_, _, rfl, rfl, by decide⟩
  | object members => exact ⟨_, _, rfl, rfl, by decide⟩

theorem itemsBytes_head (item : Json) (items : List Json) :
    ∃ b rest, itemsBytes (item :: items) = b :: rest ∧ isBlank b = false
      ∧ b ≠ 0x5d := by
  obtain ⟨b, rest, front, visible, more⟩ := bytes_head item
  cases items with
  | nil => exact ⟨b, rest, front, visible, more⟩
  | cons next items =>
      refine ⟨b, rest ++ 0x2c :: itemsBytes (next :: items), ?_, visible, more⟩
      rw [itemsBytes, front]
      rfl

theorem membersBytes_head (member : String × Json)
    (members : List (String × Json)) :
    ∃ rest, membersBytes (member :: members) = 0x22 :: rest := by
  obtain ⟨key, value⟩ := member
  cases members with
  | nil => exact ⟨_, rfl⟩
  | cons next members => exact ⟨_, rfl⟩

/-- A value is found by the reader, who stops behind it. -/
def Reads (j : Json) : Prop :=
  ∀ fuel rest, 2 * j.bytes.length ≤ fuel → Stops rest →
    value? fuel (j.bytes ++ rest) = some (j.lexed, rest)

theorem items?_itemsBytes {item : Json} {items : List Json}
    (each : ∀ j ∈ item :: items, Reads j) (fuel : Nat) (rest : Payload)
    (room : 2 * (itemsBytes (item :: items)).length + 1 ≤ fuel) :
    items? fuel (itemsBytes (item :: items) ++ 0x5d :: rest)
      = some (lexedItems (item :: items), rest) := by
  induction items generalizing item fuel with
  | nil =>
      obtain ⟨fuel, rfl⟩ :=
        Nat.exists_eq_add_one_of_ne_zero (show fuel ≠ 0 by omega)
      rw [itemsBytes] at room ⊢
      exact items?_last fuel (each item List.mem_cons_self fuel _ (by omega)
        (stops_cons rfl rest))
  | cons next items ih =>
      obtain ⟨fuel, rfl⟩ :=
        Nat.exists_eq_add_one_of_ne_zero (show fuel ≠ 0 by omega)
      simp only [itemsBytes, List.length_append, List.length_cons] at room
      have first := each item List.mem_cons_self fuel
        (0x2c :: (itemsBytes (next :: items) ++ 0x5d :: rest)) (by omega)
        (stops_cons rfl _)
      have others := ih (fun j mem => each j (List.mem_cons_of_mem item mem))
        fuel (by omega)
      rw [itemsBytes, List.append_assoc, List.cons_append,
        items?_more fuel first, others]
      rfl

theorem members?_membersBytes {member : String × Json}
    {members : List (String × Json)}
    (each : ∀ m ∈ member :: members, Reads m.2) (fuel : Nat) (rest : Payload)
    (room : 2 * (membersBytes (member :: members)).length + 1 ≤ fuel) :
    members? fuel (membersBytes (member :: members) ++ 0x7d :: rest)
      = some (lexedMembers (member :: members), rest) := by
  induction members generalizing member fuel with
  | nil =>
      obtain ⟨fuel, rfl⟩ :=
        Nat.exists_eq_add_one_of_ne_zero (show fuel ≠ 0 by omega)
      obtain ⟨key, value⟩ := member
      have reads : Reads value := each _ List.mem_cons_self
      simp only [membersBytes, List.length_append, List.length_cons] at room
      rw [membersBytes, List.append_assoc, List.cons_append]
      exact members?_last fuel key
        (reads fuel _ (by omega) (stops_cons rfl rest))
  | cons next members ih =>
      obtain ⟨fuel, rfl⟩ :=
        Nat.exists_eq_add_one_of_ne_zero (show fuel ≠ 0 by omega)
      obtain ⟨key, value⟩ := member
      have reads : Reads value := each _ List.mem_cons_self
      simp only [membersBytes, List.length_append, List.length_cons] at room
      have first := reads fuel
        (0x2c :: (membersBytes (next :: members) ++ 0x7d :: rest)) (by omega)
        (stops_cons rfl _)
      have others := ih (fun m mem => each m (List.mem_cons_of_mem _ mem))
        fuel (by omega)
      rw [membersBytes, List.append_assoc, List.append_assoc, List.cons_append,
        List.cons_append, members?_more fuel key first, others]
      rfl

theorem reads_array {items : List Json} (each : ∀ j ∈ items, Reads j) :
    Reads (.array items) := by
  intro fuel rest room stops
  rw [Json.bytes, List.length_append, List.length_cons, List.length_singleton]
    at room
  obtain ⟨fuel, rfl⟩ :=
    Nat.exists_eq_add_one_of_ne_zero (show fuel ≠ 0 by omega)
  cases items with
  | nil => rfl
  | cons item items =>
      have found := items?_itemsBytes each fuel rest (by omega)
      -- what comes behind the bracket is an item, and not the closing bracket
      obtain ⟨b, tail, front, visible, more⟩ := itemsBytes_head item items
      rw [Json.bytes, List.append_assoc]
      rw [front, List.cons_append] at found ⊢
      show value? (fuel + 1) (0x5b :: b :: (tail ++ 0x5d :: rest)) = _
      rw [value?_bracket fuel _ visible more, found]
      rfl

theorem reads_object {members : List (String × Json)}
    (each : ∀ m ∈ members, Reads m.2) : Reads (.object members) := by
  intro fuel rest room stops
  rw [Json.bytes, List.length_append, List.length_cons, List.length_singleton]
    at room
  obtain ⟨fuel, rfl⟩ :=
    Nat.exists_eq_add_one_of_ne_zero (show fuel ≠ 0 by omega)
  cases members with
  | nil => rfl
  | cons member members =>
      have found := members?_membersBytes each fuel rest (by omega)
      obtain ⟨tail, front⟩ := membersBytes_head member members
      rw [Json.bytes, List.append_assoc]
      rw [front, List.cons_append] at found ⊢
      show value? (fuel + 1) (0x7b :: 0x22 :: (tail ++ 0x7d :: rest)) = _
      rw [value?_brace, found]
      rfl

/-- What takes a step of the reader needs fuel for it, and has it. -/
theorem reads_of_step {j : Json}
    (step : ∀ fuel rest, Stops rest →
      value? (fuel + 1) (j.bytes ++ rest) = some (j.lexed, rest)) : Reads j := by
  intro fuel rest room stops
  obtain ⟨b, tail, front, -, -⟩ := bytes_head j
  rw [front, List.length_cons] at room
  obtain ⟨fuel, rfl⟩ :=
    Nat.exists_eq_add_one_of_ne_zero (show fuel ≠ 0 by omega)
  exact step fuel rest stops

mutual

/-- Every written value is found. -/
theorem reads : (j : Json) → Reads j
  | .null => reads_of_step fun _ _ _ => rfl
  | .bool true => reads_of_step fun _ _ _ => rfl
  | .bool false => reads_of_step fun _ _ _ => rfl
  | .number n => reads_of_step fun fuel _ stops => value?_intBytes fuel n stops
  | .text s => reads_of_step fun fuel rest _ => by
      show value? (fuel + 1) (textBytes s ++ rest) = _
      rw [textBytes_append, value?_quote, body?_quoted]
      rfl
  | .array items => reads_array (reads_items items)
  | .object members => reads_object (reads_members members)

theorem reads_items : (items : List Json) → ∀ j ∈ items, Reads j
  | [] => List.forall_mem_nil _
  | item :: items => List.forall_mem_cons.mpr ⟨reads item, reads_items items⟩

theorem reads_members :
    (members : List (String × Json)) → ∀ m ∈ members, Reads m.2
  | [] => List.forall_mem_nil _
  | (_, value) :: members =>
      List.forall_mem_cons.mpr ⟨reads value, reads_members members⟩

end

/-- Reading what was written, as a whole. -/
theorem ofBytes?_bytes (j : Json) : ofBytes? j.bytes = some j.lexed := by
  have found := reads j (2 * j.bytes.length + 2) [] (by omega) stops_nil
  rw [List.append_nil] at found
  unfold ofBytes?
  rw [found]
  rfl

end Lexed

end PluginRpc
