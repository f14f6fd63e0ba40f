/-
Rows and messages.

A request of several messages is one row of slots, and `rows` cuts it at
one width: the number of columns of the function's input record. A message
is as long as its layout makes it, which counts the columns of nested
records and not the ones that refer to them. So what is cut is what was
put together where the two numbers agree, as they do if no column refers
to a record; where they do not, the rows are the messages only if there is
hardly anything to cut.
-/
import PluginRpc.Channel.Loopback
import PluginRpc.Dispatch.Invocation
import PluginRpc.Greeter.Schema
import PluginRpc.Proofs.Schema.Layout

namespace PluginRpc

-- ================================================================ cutting

section

variable {α : Type} {w : Nat}

/-- The first piece is as wide as can be, and the rest is cut alike. -/
theorem chunks_of_ne_nil (pos : 0 < w) {l : List α} (filled : l ≠ []) :
    chunks w l = l.take w :: chunks w (l.drop w) := by
  obtain ⟨v, rfl⟩ := Nat.exists_eq_succ_of_ne_zero (Nat.ne_of_gt pos)
  cases l with
  | nil => exact absurd rfl filled
  | cons a rest =>
      rw [chunks]
      rfl

/-- What fits into one piece is not cut. -/
theorem chunks_of_length_le (pos : 0 < w) {l : List α} (filled : l ≠ [])
    (fits : l.length ≤ w) : chunks w l = [l] := by
  rw [chunks_of_ne_nil pos filled, List.take_of_length_le fits,
    List.drop_eq_nil_of_le fits, chunks]

/-- What has been cut is still all there, and in order. -/
theorem flatten_chunks (w : Nat) (l : List α) : (chunks w l).flatten = l := by
  fun_induction chunks w l with
  | case1 => rfl
  | case2 a rest ih =>
      rw [List.flatten_cons, ih, List.cons_append, List.take_append_drop]

/-- Each piece begins a width further on than the one before it. -/
theorem getElem?_chunks (pos : 0 < w) (l : List α) (m : Nat) :
    (chunks w l)[m]?
      = if m * w < l.length then some ((l.drop (m * w)).take w) else none := by
  induction m generalizing l with
  | zero =>
      by_cases filled : l = []
      · subst filled
        rw [chunks]
        rfl
      · have some := List.length_pos_of_ne_nil filled
        rw [chunks_of_ne_nil pos filled, Nat.zero_mul, if_pos some]
        rfl
  | succ m ih =>
      by_cases filled : l = []
      · subst filled
        rw [chunks]
        rfl
      · have further : m * w < (l.drop w).length ↔ (m + 1) * w < l.length := by
          rw [List.length_drop, Nat.succ_mul]
          omega
        rw [chunks_of_ne_nil pos filled, List.getElem?_cons_succ, ih,
          List.drop_drop, Nat.add_comm w, ← Nat.succ_mul]
        simp only [further]

/-- There are as many pieces as it takes to hold everything. -/
theorem length_chunks (pos : 0 < w) (l : List α) :
    (chunks w l).length = (l.length + w - 1) / w := by
  refine eq_of_forall_lt_iff fun m => ?_
  have begins : m < (chunks w l).length ↔ m * w < l.length := by
    rw [← not_iff_not, Nat.not_lt, ← List.getElem?_eq_none_iff,
      getElem?_chunks pos, ite_eq_right_iff]
    exact imp_congr_right fun _ => iff_of_false nofun not_false
  rw [begins, Nat.lt_div_iff_mul_lt pos]
  omega

/-- Pieces of the width itself come back as they were put together. -/
theorem chunks_flatten (pos : 0 < w) {pieces : List (List α)}
    (each : ∀ m ∈ pieces, m.length = w) : chunks w pieces.flatten = pieces := by
  induction pieces with
  | nil => rw [List.flatten_nil, chunks]
  | cons m rest ih =>
      obtain ⟨first, others⟩ := List.forall_mem_cons.mp each
      have filled : m ≠ [] := List.ne_nil_of_length_pos (first ▸ pos)
      rw [List.flatten_cons,
        chunks_of_ne_nil pos (List.append_ne_nil_of_left_ne_nil filled _),
        ← first, List.take_left, List.drop_left, first, ih others]

/-- Pieces of one length come back if that is the width, or if there is
nothing to be told apart. -/
theorem chunks_flatten_eq_iff (pos : 0 < w) {n : Nat} (npos : 0 < n)
    {pieces : List (List α)} (each : ∀ m ∈ pieces, m.length = n) :
    chunks w pieces.flatten = pieces
      ↔ pieces.length = 0 ∨ n = w ∨ pieces.length = 1 ∧ n ≤ w := by
  constructor
  · intro same
    cases pieces with
    | nil => exact .inl rfl
    | cons m rest =>
        obtain ⟨first, others⟩ := List.forall_mem_cons.mp each
        have filled : m ≠ [] := List.ne_nil_of_length_pos (first ▸ npos)
        rw [List.flatten_cons, chunks_of_ne_nil pos
          (List.append_ne_nil_of_left_ne_nil filled _)] at same
        -- the first piece is cut at the width, and is the first message
        have cut := congrArg List.length (List.cons.inj same).1
        rw [List.length_take, List.length_append, first] at cut
        cases rest with
        | nil => exact .inr (.inr ⟨rfl, by omega⟩)
        | cons m' rest =>
            have second := others m' List.mem_cons_self
            rw [List.flatten_cons, List.length_append, second] at cut
            exact .inr (.inl (by omega))
  · rintro (none | rfl | ⟨one, fits⟩)
    · obtain rfl := List.eq_nil_of_length_eq_zero none
      rw [List.flatten_nil, chunks]
    · exact chunks_flatten pos each
    · obtain ⟨m, rfl⟩ := List.length_eq_one_iff.mp one
      have long := each m (List.mem_singleton_self m)
      have filled : m ≠ [] := List.ne_nil_of_length_pos (long ▸ npos)
      rw [List.flatten_singleton]
      exact chunks_of_length_le pos filled (long ▸ fits)

end

-- =================================================================== rows

theorem Cursor.start_injective : Function.Injective Cursor.start :=
  fun _ _ same => congrArg Cursor.rest same

namespace Invocation

variable (i : Invocation)

theorem width_pos : 0 < i.width := Nat.le_max_left ..

/-- The rows are some messages where the cutting leaves these. -/
theorem rows_eq_iff {messages : List (List Slot)}
    (request : i.request.slots = messages.flatten) :
    i.rows = messages.map .start
      ↔ chunks i.width messages.flatten = messages := by
  unfold rows
  rw [request]
  exact (List.map_injective_iff.mpr Cursor.start_injective).eq_iff

theorem width_of_columns {i : Invocation}
    (pos : 0 < (i.records.record i.function.input).columns.length) :
    i.width = (i.records.record i.function.input).columns.length :=
  Nat.max_eq_right pos

/-- Messages that are laid out one behind the other all have one length,
which is the width if no column refers to a record. The rows are the
messages, one for each and slot by slot, exactly if that length is the
width, or if there is no message, or only one and it is no longer than
that. -/
theorem rows_are_messages_iff (i : Invocation)
    (acyclic : ∀ j, i.records.Reaches i.function.input j → ¬ i.records.Cyclic j)
    (leaf : i.records.HasLeaf i.function.input) :
    let columns := (i.records.record i.function.input).columns
    ∃ n, 0 < n
      ∧ (∃ m, i.records.LaidOut columns m)
      ∧ (∀ m, i.records.LaidOut columns m → m.length = n)
      ∧ ((∀ c ∈ columns, c.nested = none) → n = i.width)
      ∧ ∀ messages : List (List Slot),
          (∀ m ∈ messages, i.records.LaidOut columns m) →
          i.request.slots = messages.flatten →
          (i.rows = messages.map .start
            ↔ messages.length = 0 ∨ n = i.width
              ∨ messages.length = 1 ∧ n ≤ i.width) := by
  intro columns
  have ends := RecordGraph.acc_of_acyclic acyclic
  obtain ⟨m, laid⟩ := RecordGraph.exists_laidOut_of_acc ends
  have alike : ∀ m', i.records.LaidOut columns m' → m'.length = m.length :=
    fun m' laid' => laid'.length_eq laid
  have npos : 0 < m.length := laid.length_pos leaf
  refine ⟨m.length, npos, ⟨m, laid⟩, alike, fun flat => ?_,
    fun messages each request => ?_⟩
  · have flat_length : m.length = columns.length := laid.length_of_flat flat
    rw [flat_length] at npos
    rw [flat_length, width_of_columns npos]
  · rw [i.rows_eq_iff request]
    exact chunks_flatten_eq_iff i.width_pos npos fun m' h => alike m' (each m' h)

end Invocation

-- ==================================================== a record in a record

namespace Greeter

/-- In the greeter's schema only the request for a description refers to
another record. -/
theorem refers_person {i j : RecordId} (refers : records.Refers i j) :
    i = 7 ∧ j = 6 := by
  obtain ⟨c, column, nested⟩ := refers
  have declared : i < 9 := RecordGraph.declared_of_column column
  have only : ∀ i < 9, ∀ c ∈ (records.record i).columns, c.nested ≠ none →
      i = 7 ∧ c.nested = some 6 := by decide
  have refers : c.nested ≠ none := by
    rw [nested]
    exact Option.some_ne_none j
  obtain ⟨here, there⟩ := only i declared c column refers
  exact ⟨here, Option.some.inj (nested.symm.trans there)⟩

theorem records_acyclic (i : RecordId) : ¬ records.Cyclic i := by
  intro cycle
  obtain ⟨j, first, back⟩ := Relation.TransGen.head'_iff.mp cycle
  obtain ⟨rfl, rfl⟩ := refers_person first
  rcases Relation.ReflTransGen.cases_head back with same | ⟨k, second, -⟩
  · cases same
  · cases (refers_person second).1

/-- A person's name and age, and the two ways to get in touch. -/
theorem laidOut_description (name age email phone : Slot) :
    records.LaidOut describeRequest.columns [name, age, email, phone] := by
  show records.LaidOut _ ([name, age] ++ [email, phone])
  exact .nested rfl (.plain rfl name (.plain rfl age .nil))
    (.plain rfl email (.plain rfl phone .nil))

theorem hasLeaf_description : records.HasLeaf 7 :=
  ⟨7, .refl, _, .tail _ (.head _), rfl⟩

end Greeter

namespace Invocation

/-- Two descriptions of four slots each, in rows of three. -/
theorem rows_are_not_two_descriptions :
    let ann : List Slot :=
      [some (.string "Ann"), some (.int4 30), some (.string "a@b"), none]
    let bob : List Slot := [some (.string "Bob"), none, none, some (.string "7")]
    let i : Invocation :=
      ⟨⟨⟨0⟩, .unlimited, []⟩, (Loopback.ofTarget "mem" .insecure).channel,
       ⟨"/helloworld.Greeter/Enroll"⟩, ⟨6, "Enroll", .clientStreaming, 7, 8⟩,
       Greeter.records, .ofSlots (ann ++ bob)⟩
    (∀ j, i.records.Reaches 7 j → ¬ i.records.Cyclic j)
      ∧ i.records.HasLeaf 7
      ∧ i.rows ≠ [.start ann, .start bob] := by
  intro ann bob i
  have acyclic : ∀ j, i.records.Reaches 7 j → ¬ i.records.Cyclic j :=
    fun j _ => Greeter.records_acyclic j
  refine ⟨acyclic, Greeter.hasLeaf_description, fun same => ?_⟩
  obtain ⟨n, -, -, alike, -, iff⟩ :=
    rows_are_messages_iff i acyclic Greeter.hasLeaf_description
  have four : 4 = n := alike ann (Greeter.laidOut_description ..)
  have each : ∀ m ∈ [ann, bob], i.records.LaidOut _ m :=
    List.forall_mem_cons.mpr ⟨Greeter.laidOut_description ..,
      List.forall_mem_singleton.mpr (Greeter.laidOut_description ..)⟩
  subst four
  rcases (iff [ann, bob] each rfl).mp same with none | same | ⟨one, -⟩
  · cases none
  · cases same
  · cases one

/-- One description is a message of four slots, and makes two rows. -/
theorem description_in_two_rows :
    let message : List Slot :=
      [some (.string "Ann"), some (.int4 30), some (.string "a@b"), none]
    let i : Invocation :=
      ⟨⟨⟨0⟩, .unlimited, []⟩, (Loopback.ofTarget "mem" .insecure).channel,
       ⟨"/helloworld.Greeter/Enroll"⟩, ⟨6, "Enroll", .clientStreaming, 7, 8⟩,
       Greeter.records, .ofSlots message⟩
    (∀ j, i.records.Reaches 7 j → ¬ i.records.Cyclic j)
      ∧ i.records.HasLeaf 7
      ∧ i.records.LaidOut (i.records.record 7).columns message
      ∧ i.request.slots = [message].flatten
      ∧ i.rows = [.start (message.take 3), .start [none]]
      ∧ i.rows ≠ [message].map .start := by
  intro message i
  have rows : i.rows = [.start (message.take 3), .start [none]] := by
    have three : 0 < 3 := Nat.succ_pos 2
    have first := chunks_of_ne_nil (l := message) three (List.cons_ne_nil _ _)
    have second := chunks_of_length_le (l := message.drop 3) three
      (List.cons_ne_nil _ _) (Nat.le_add_left 1 2)
    rw [second] at first
    exact congrArg (List.map Cursor.start) first
  refine ⟨fun j _ => Greeter.records_acyclic j, Greeter.hasLeaf_description,
    Greeter.laidOut_description .., rfl, rows, fun same => ?_⟩
  rw [rows] at same
  cases congrArg List.length same

end Invocation

end PluginRpc
