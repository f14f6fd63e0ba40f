/-
Conservation of records, in order.

Every stream of a run has an account, read off the history: the records
it started with, those it accepted, those it delivered, those its closes
discarded and those its transfers moved out. The account balances with
what is still buffered, as lists and not only as counts: nothing is lost,
nothing appears twice, and nothing overtakes anything.

# The invariant

For one stream, `Settled` carries the balance together with what makes
it survive the next step: a closed stream buffers nothing, and a stream
that has discarded or moved anything is closed. So a later close or
transfer finds an empty queue, and a stream parts with its buffer at most
once, in one way. `Settled.post` is the step, by the table of
`Effect`.

For a family, `Books` adds that there is an account for each stream and
none besides, and that what a transfer takes from its source is what its
target starts with. `run_conserves` is the run.
-/
import PluginRpc.Proofs.Stream.Traffic

namespace PluginRpc

-- =========================================================== the accounts

/-- What has become of the records of one stream, each list in the order
of its events. -/
structure StreamAccount where
  /-- What the stream held when it was made. -/
  started : List Record
  /-- What was pushed, where the push was answered `true`. -/
  accepted : List Record
  /-- What readers took. -/
  delivered : List Record
  /-- What was buffered when the stream was closed. -/
  discarded : List Record
  /-- What was buffered when the stream was moved away. -/
  moved : List Record

/-- The record that a critical section accepted. -/
def acceptedBy : StreamOp → StreamReply → List Record
  | .push r, .pushed true => [r]
  | _, _ => []

/-- The record that a critical section delivered. -/
def deliveredBy : StreamReply → List Record
  | .pulled (.delivered r _) => [r]
  | _ => []

/-- The records that a critical section of a stream discarded. -/
def discardedBy (found : RecordStream) : StreamOp → List Record
  | .close => found.queue
  | _ => []

/-- The records that a critical section of a stream moved out. -/
def movedBy (found : RecordStream) : StreamOp → List Record
  | .transfer => found.queue
  | _ => []

namespace StreamAccount

/-- The account of a stream nobody has used. -/
def blank : StreamAccount := ⟨[], [], [], [], []⟩

/-- The account after one more critical section. -/
def post (a : StreamAccount) (found : RecordStream) (op : StreamOp)
    (answer : StreamReply) : StreamAccount :=
  { a with
    accepted := a.accepted ++ acceptedBy op answer
    delivered := a.delivered ++ deliveredBy answer
    discarded := a.discarded ++ discardedBy found op
    moved := a.moved ++ movedBy found op }

end StreamAccount

/-- How a stream came to be: the place of the stream it was moved from,
if it was, and what it started with. -/
structure Birth where
  parent : Option Nat
  contents : List Record

namespace StreamEvent

/-- The streams that came to be in an event. -/
def births : StreamEvent → List Birth
  | made s => [⟨none, s.queue⟩]
  | ran place _ _ answer =>
      (StreamFamily.madeBy answer).map fun s => ⟨some place, s.queue⟩

/-- What an event reads as where only one place counts. -/
def atPlace (i : Nat)
    (read : RecordStream → StreamOp → StreamReply → List Record) :
    StreamEvent → List Record
  | made _ => []
  | ran place found op answer =>
      if place = i then read found op answer else []

end StreamEvent

/-- The streams that came to be, in the order of their places. -/
def births (h : List StreamEvent) : List Birth := h.flatMap StreamEvent.births

/-- What the stream at a place started with. -/
def startedWith (h : List StreamEvent) (i : Nat) : List Record :=
  ((births h)[i]?.map Birth.contents).getD []

/-- What the streams that were moved from a place started with. -/
def inherited (h : List StreamEvent) (i : Nat) : List Record :=
  ((births h).filter fun b => b.parent == some i).flatMap Birth.contents

/-- The account of the stream at a place, read off a history. -/
def accountOf (h : List StreamEvent) (i : Nat) : StreamAccount where
  started := startedWith h i
  accepted := h.flatMap
    (StreamEvent.atPlace i fun _ op answer => acceptedBy op answer)
  delivered := h.flatMap
    (StreamEvent.atPlace i fun _ _ answer => deliveredBy answer)
  discarded := h.flatMap
    (StreamEvent.atPlace i fun found op _ => discardedBy found op)
  moved := h.flatMap
    (StreamEvent.atPlace i fun found op _ => movedBy found op)

-- ============================================================= one stream

open RecordStream (Effect)

/-- An account and a stream that agree with each other. -/
structure Settled (a : StreamAccount) (s : RecordStream) : Prop where
  balance : a.started ++ a.accepted
    = a.delivered ++ (a.discarded ++ (a.moved ++ s.queue))
  /-- A closed stream buffers nothing. -/
  emptied : s.state = .closed → s.queue = []
  /-- A stream that is not closed has parted with nothing unread. -/
  kept : s.state ≠ .closed → a.discarded = [] ∧ a.moved = []
  /-- A stream parts with its buffer in one way. -/
  apart : a.discarded = [] ∨ a.moved = []

namespace Settled

variable {a : StreamAccount} {s : RecordStream}

/-- The parts of an account that a stream which is not closed has left
open. -/
theorem parts_of_live (h : Settled a s) (live : s.state = .live) :
    a.discarded = [] ∧ a.moved = [] := by
  refine h.kept ?_
  rw [live]
  intro hcon
  cases hcon

/-- A stream that still buffers something has parted with nothing
unread. -/
theorem parts_of_queue (h : Settled a s) (hq : s.queue ≠ []) :
    a.discarded = [] ∧ a.moved = [] :=
  h.kept fun closed => hq (h.emptied closed)

/-- A critical section that posts nothing and leaves the stream as it
found it. -/
theorem post_idle (h : Settled a s) {op : StreamOp} {answer : StreamReply}
    (ha : acceptedBy op answer = []) (hd : deliveredBy answer = [])
    (hx : discardedBy s op = []) (hm : movedBy s op = []) :
    Settled (a.post s op answer) s := by
  have same : a.post s op answer = a := by
    unfold StreamAccount.post
    rw [ha, hd, hx, hm, List.append_nil, List.append_nil, List.append_nil,
      List.append_nil]
  rw [same]
  exact h

/-- An account and a stream that agree still agree after a critical
section of the stream. -/
theorem post (h : Settled a s) {op : StreamOp} {answer : StreamReply}
    {s' : RecordStream} (e : Effect s op answer s') :
    Settled (a.post s op answer) s' := by
  cases e with
  | accepted r live room =>
      obtain ⟨hx, hm⟩ := h.parts_of_live live
      have balance := h.balance
      rw [hx, hm] at balance
      refine ⟨?_, ?_, ?_, ?_⟩
      · simp only [StreamAccount.post, acceptedBy, deliveredBy, discardedBy,
          movedBy, List.append_nil, hx, hm, List.nil_append]
        rw [← List.append_assoc, balance, List.nil_append, List.nil_append,
          List.append_assoc]
      · intro closed
        cases live.symm.trans closed
      · intro _
        simp [StreamAccount.post, discardedBy, movedBy, hx, hm]
      · exact Or.inl (by simp [StreamAccount.post, discardedBy, hx])
  | refused r spent => exact h.post_idle rfl rfl rfl rfl
  | blocked r live full => exact h.post_idle rfl rfl rfl rfl
  | @took op pull r rest first =>
      have nonempty : s.queue ≠ [] := by
        rw [first]
        exact List.cons_ne_nil r rest
      obtain ⟨hx, hm⟩ := h.parts_of_queue nonempty
      have balance := h.balance
      rw [hx, hm, first] at balance
      have unclosed : s.state ≠ .closed := fun closed =>
        nonempty (h.emptied closed)
      -- neither way of taking is a push, a close or a transfer
      have silent :
          acceptedBy op (.pulled (.delivered r { s with queue := rest })) = []
            ∧ discardedBy s op = [] ∧ movedBy s op = [] := by
        cases pull <;> exact ⟨rfl, rfl, rfl⟩
      obtain ⟨ha, hdx, hdm⟩ := silent
      refine ⟨?_, fun closed => absurd closed unclosed, fun _ => ?_,
        Or.inl ?_⟩
      · simp only [StreamAccount.post, ha, hdx, hdm, deliveredBy, hx, hm,
          List.append_nil, List.nil_append]
        rw [balance, List.nil_append, List.nil_append, List.append_assoc,
          List.singleton_append]
      · simp only [StreamAccount.post, hdx, hdm, hx, hm, List.append_nil,
          and_self]
      · simp only [StreamAccount.post, hdx, hx, List.append_nil]
  | finished pull empty spent =>
      cases pull <;> exact h.post_idle rfl rfl rfl rfl
  | dry pull empty live =>
      cases pull <;> exact h.post_idle rfl rfl rfl rfl
  | parked timeout empty live => exact h.post_idle rfl rfl rfl rfl
  | ended =>
      have idle : Settled (a.post s .endStream .done) s :=
        h.post_idle rfl rfl rfl rfl
      refine ⟨idle.balance, ?_, ?_, idle.apart⟩
      · intro closed
        exact h.emptied (s.endStream_closed_iff.1 closed)
      · intro unclosed
        exact idle.kept fun closed =>
          unclosed (s.endStream_closed_iff.2 closed)
  | closed =>
      refine ⟨?_, fun _ => rfl, fun unclosed => absurd rfl unclosed, ?_⟩
      · simp only [StreamAccount.post, acceptedBy, deliveredBy, discardedBy,
          movedBy, RecordStream.close, List.append_nil]
        by_cases hq : s.queue = []
        · have balance := h.balance
          rw [hq, List.append_nil] at balance
          rw [hq, List.append_nil, balance]
        · obtain ⟨hx, hm⟩ := h.parts_of_queue hq
          have balance := h.balance
          rw [hx, hm] at balance
          rw [hx, hm, balance, List.append_nil, List.nil_append,
            List.nil_append]
      · by_cases hq : s.queue = []
        · simpa [StreamAccount.post, discardedBy, movedBy, hq] using h.apart
        · exact Or.inr (by
            simp [StreamAccount.post, movedBy, (h.parts_of_queue hq).2])
  | moved =>
      refine ⟨?_, fun _ => rfl, fun unclosed => absurd rfl unclosed, ?_⟩
      · simp only [StreamAccount.post, acceptedBy, deliveredBy, discardedBy,
          movedBy, RecordStream.close, List.append_nil]
        exact h.balance
      · by_cases hq : s.queue = []
        · simpa [StreamAccount.post, discardedBy, movedBy, hq] using h.apart
        · exact Or.inl (by
            simp [StreamAccount.post, discardedBy, (h.parts_of_queue hq).1])

/-- A stream that has just been made agrees with the account that says
what it holds. -/
theorem of_started (contents : List Record) {s : RecordStream}
    (hq : s.queue = contents) (closed : s.state = .closed → contents = []) :
    Settled { StreamAccount.blank with started := contents } s := by
  refine ⟨?_, fun hc => hq.trans (closed hc), fun _ => ⟨rfl, rfl⟩,
    Or.inl rfl⟩
  simp only [StreamAccount.blank, List.append_nil, List.nil_append, hq]

end Settled

-- =============================================================== a family

/-- The accounts of a family: one for each stream and none besides, each
in agreement with its stream, and every transfer found again where its
target starts. -/
structure Books (h : List StreamEvent) (f : StreamFamily) : Prop where
  places : (births h).length = f.streams.length
  settled : ∀ i, Settled (accountOf h i) (f.stream i)
  unused : ∀ i, f.streams.length ≤ i → accountOf h i = .blank
  handed : ∀ i, (accountOf h i).moved = inherited h i
  /-- Each transfer by itself moves what it found. -/
  targets : ∀ place found answer,
    .ran place found .transfer answer ∈ h → answer = .moved found

namespace Books

variable {h : List StreamEvent} {f : StreamFamily}

-- ------------------------------------------------- reading one more event

theorem births_concat (h : List StreamEvent) (e : StreamEvent) :
    births (h ++ [e]) = births h ++ e.births := by
  rw [births, births, List.flatMap_append, List.flatMap_singleton]

theorem inherited_concat (h : List StreamEvent) (e : StreamEvent) (i : Nat) :
    inherited (h ++ [e]) i
      = inherited h i
        ++ (e.births.filter fun b => b.parent == some i).flatMap
            Birth.contents := by
  rw [inherited, inherited, births_concat, List.filter_append,
    List.flatMap_append]

/-- A place that is taken keeps what it started with; a free one starts
with what is born there. -/
theorem startedWith_concat (h : List StreamEvent) (e : StreamEvent)
    (i : Nat) :
    startedWith (h ++ [e]) i
      = if i < (births h).length then startedWith h i
        else ((e.births[i - (births h).length]?).map
          Birth.contents).getD [] := by
  rw [startedWith, births_concat]
  split
  · next hi => rw [startedWith, List.getElem?_append_left hi]
  · next hi => rw [List.getElem?_append_right (Nat.le_of_not_lt hi)]

/-- The account of a place after one more event: what the place started
with is read off anew, and what happened there is added. -/
theorem accountOf_concat (h : List StreamEvent) (i place : Nat)
    (found : RecordStream) (op : StreamOp) (answer : StreamReply) :
    accountOf (h ++ [.ran place found op answer]) i
      = { (if place = i then (accountOf h i).post found op answer
            else accountOf h i) with
          started := startedWith (h ++ [.ran place found op answer]) i } := by
  unfold accountOf
  simp only [List.flatMap_append, List.flatMap_singleton, StreamEvent.atPlace]
  split
  · rfl
  · simp only [List.append_nil]

/-- Making a stream is nothing that happens at a place. -/
theorem accountOf_made (h : List StreamEvent) (i : Nat) (s : RecordStream) :
    accountOf (h ++ [.made s]) i
      = { accountOf h i with started := startedWith (h ++ [.made s]) i } := by
  unfold accountOf
  simp only [List.flatMap_append, List.flatMap_singleton, StreamEvent.atPlace,
    List.append_nil]

-- -------------------------------------------------------------- the steps

/-- No event, no stream: all accounts are blank. -/
theorem start : Books [] ⟨[], .empty⟩ := by
  refine ⟨rfl, fun i => ?_, fun i _ => rfl, fun i => rfl,
    fun place found answer listed => absurd listed List.not_mem_nil⟩
  exact Settled.of_started [] rfl fun _ => rfl

/-- The account of a free place after one more event says what is born
there, and nothing else. -/
theorem accountOf_free (b : Books h f) {i : Nat}
    (free : f.streams.length ≤ i) (e : StreamEvent)
    (elsewhere : accountOf (h ++ [e]) i
      = { accountOf h i with started := startedWith (h ++ [e]) i }) :
    accountOf (h ++ [e]) i
      = { StreamAccount.blank with
          started := ((e.births[i - f.streams.length]?).map
            Birth.contents).getD [] } := by
  rw [elsewhere, b.unused i free, startedWith_concat, b.places,
    if_neg (Nat.not_lt.2 free)]

/-- The account of a place that is taken is untouched by what happens
elsewhere. -/
theorem accountOf_taken (b : Books h f) {i : Nat}
    (taken : i < f.streams.length) (e : StreamEvent)
    (elsewhere : accountOf (h ++ [e]) i
      = { accountOf h i with started := startedWith (h ++ [e]) i }) :
    accountOf (h ++ [e]) i = accountOf h i := by
  rw [elsewhere, startedWith_concat, b.places, if_pos taken]
  rfl

/-- The books after a stream has been made. -/
theorem made (b : Books h f) (capacity : Option Nat) :
    Books (h ++ [.made (.fresh capacity)])
      { f with streams := f.streams ++ [.fresh capacity] } := by
  have hqueue : (RecordStream.fresh capacity).queue = [] := by
    cases capacity <;> rfl
  have hbirths :
      (StreamEvent.made (.fresh capacity)).births = [⟨none, []⟩] := by
    rw [StreamEvent.births, hqueue]
  have elsewhere := fun i => accountOf_made h i (.fresh capacity)
  refine ⟨?_, fun i => ?_, fun i hi => ?_, fun i => ?_,
    fun place found answer listed => ?_⟩
  · rw [births_concat, List.length_append, b.places, hbirths,
      List.length_append, List.length_singleton, List.length_singleton]
  · rw [StreamFamily.stream_concat]
    by_cases taken : i < f.streams.length
    · rw [if_neg (Nat.ne_of_lt taken),
        b.accountOf_taken taken _ (elsewhere i)]
      exact b.settled i
    · have free := Nat.le_of_not_lt taken
      rw [b.accountOf_free free _ (elsewhere i), hbirths]
      split
      · next hi =>
        rw [hi, Nat.sub_self]
        exact Settled.of_started [] hqueue fun _ => rfl
      · next hi =>
        rw [List.getElem?_eq_none (by simp; omega),
          f.stream_of_length_le free]
        exact Settled.of_started [] rfl fun _ => rfl
  · rw [List.length_append, List.length_singleton] at hi
    rw [b.accountOf_free (by omega) _ (elsewhere i), hbirths,
      List.getElem?_eq_none (by simp; omega)]
    rfl
  · rw [elsewhere i, inherited_concat, hbirths]
    simpa using b.handed i
  · rcases List.mem_append.mp listed with old | new
    · exact b.targets place found answer old
    · cases List.mem_singleton.mp new

/-- Only a transfer makes a stream, and what it makes is what it found. -/
theorem madeBy_effect {s s' : RecordStream} {op : StreamOp}
    {answer : StreamReply} (e : Effect s op answer s') :
    (StreamFamily.madeBy answer).flatMap RecordStream.queue = movedBy s op
      ∧ ∀ target ∈ StreamFamily.madeBy answer, target = s := by
  cases e with
  | took pull first => cases pull <;> simp [StreamFamily.madeBy, movedBy]
  | finished pull empty spent =>
      cases pull <;> simp [StreamFamily.madeBy, movedBy]
  | dry pull empty live => cases pull <;> simp [StreamFamily.madeBy, movedBy]
  | _ => simp [StreamFamily.madeBy, movedBy]

/-- What is born at a place by moving, seen from the place. -/
theorem contents_births (i place : Nat) (found : RecordStream)
    (op : StreamOp) (answer : StreamReply) :
    (((StreamEvent.ran place found op answer).births.filter
        fun b => b.parent == some i).flatMap Birth.contents)
      = if place = i then
          (StreamFamily.madeBy answer).flatMap RecordStream.queue
        else [] := by
  rw [StreamEvent.births, List.filter_map, List.flatMap_map]
  split
  · next hi =>
    subst hi
    rw [List.filter_eq_self.2 fun _ _ => by simp]
  · next hi =>
    rw [List.filter_eq_nil_iff.2 fun _ _ => by simpa using hi]
    rfl

/-- The books after a critical section. -/
theorem ran (b : Books h f) {place : Nat} (op : StreamOp) (now : Instant)
    (there : place < f.streams.length) :
    Books (h ++ [.ran place (f.stream place) op (f.run now place op).1])
      (f.run now place op).2 := by
  have e := RecordStream.run_effect (f.stream place) now op
  rw [← f.run_answer] at e
  obtain ⟨hborn, htarget⟩ := madeBy_effect e
  have elsewhere : ∀ i, i ≠ place →
      accountOf (h ++ [.ran place (f.stream place) op
          (f.run now place op).1]) i
        = { accountOf h i with
            started := startedWith
              (h ++ [.ran place (f.stream place) op
                (f.run now place op).1]) i } := by
    intro i hi
    rw [accountOf_concat, if_neg (Ne.symm hi)]
  refine ⟨?_, fun i => ?_, fun i hi => ?_, fun i => ?_,
    fun place' found answer listed => ?_⟩
  · rw [births_concat, List.length_append, b.places, f.length_run,
      StreamEvent.births, List.length_map]
  · rw [f.stream_run now op there]
    split
    · next hi =>
      subst hi
      rw [accountOf_concat, if_pos rfl, startedWith_concat, b.places,
        if_pos there]
      exact (b.settled i).post e
    · next hi =>
      split
      · next taken =>
        rw [b.accountOf_taken taken _ (elsewhere i hi)]
        exact b.settled i
      · next hfree =>
        have free := Nat.le_of_not_lt hfree
        rw [b.accountOf_free free _ (elsewhere i hi), StreamEvent.births,
          List.getElem?_map]
        cases hm : (StreamFamily.madeBy
            (f.run now place op).1)[i - f.streams.length]? with
        | none => exact Settled.of_started [] rfl fun _ => rfl
        | some target =>
            -- the target of a transfer is the stream as it was found
            have hsame := htarget target (List.mem_of_getElem? hm)
            refine Settled.of_started target.queue rfl ?_
            rw [hsame]
            exact (b.settled place).emptied
  · rw [f.length_run] at hi
    have hne : i ≠ place := by omega
    rw [b.accountOf_free (by omega) _ (elsewhere i hne), StreamEvent.births,
      List.getElem?_eq_none (by rw [List.length_map]; omega)]
    rfl
  · rw [inherited_concat, ← b.handed i, contents_births, hborn,
      accountOf_concat]
    split
    · rfl
    · rw [List.append_nil]
  · rcases List.mem_append.mp listed with old | new
    · exact b.targets place' found answer old
    · -- the transfer is the section that has just run
      obtain ⟨rfl, rfl, rfl, rfl⟩ := StreamEvent.ran.inj
        (List.mem_singleton.mp new)
      rfl

end Books

-- ============================================================ the refused

/-- No account shows a push that was refused. -/
theorem accountOf_refused (h : List StreamEvent) (i place : Nat)
    (found : RecordStream) (r : Record) :
    accountOf (h ++ [.ran place found (.push r) (.pushed false)]) i
      = accountOf h i := by
  have unborn :
      startedWith (h ++ [.ran place found (.push r) (.pushed false)]) i
        = startedWith h i := by
    rw [startedWith, startedWith, Books.births_concat]
    simp [StreamEvent.births, StreamFamily.madeBy]
  rw [Books.accountOf_concat, unborn]
  split
  · simp only [StreamAccount.post, acceptedBy, deliveredBy, discardedBy,
      movedBy, List.append_nil]
    rfl
  · rfl

/-- A push that is refused leaves the family as it was. -/
theorem StreamFamily.run_refused {f : StreamFamily} {place : Nat} {r : Record}
    {now : Instant} (there : place < f.streams.length)
    (refused : (f.run now place (.push r)).1 = .pushed false) :
    (f.run now place (.push r)).2 = f := by
  have e := RecordStream.run_effect (f.stream place) now (.push r)
  rw [← f.run_answer, refused] at e
  have same : ((f.stream place).run now (.push r)).2 = f.stream place := by
    generalize ((f.stream place).run now (.push r)).2 = s' at e
    cases e
    rfl
  have stored : f.stream place = f.streams[place] := by
    rw [StreamFamily.stream, List.getElem?_eq_getElem there, Option.getD_some]
  have unborn : StreamFamily.madeBy (.pushed false) = [] := rfl
  rw [f.run_answer] at refused
  simp only [StreamFamily.run, StreamFamily.store]
  rw [refused, same, stored, List.set_getElem_self, unborn, List.append_nil]
  rfl

/-- So does a critical section in which a push is refused. -/
theorem Traffic.attempt_refused {t : Traffic} {p place : Nat} {op : StreamOp}
    {now : Instant} {found : RecordStream} {r : Record}
    (refused : (t.attempt p op now).1
      = [.ran place found (.push r) (.pushed false)]) :
    (t.attempt p op now).2.family = t.family := by
  unfold Traffic.attempt at refused ⊢
  split at refused
  · next there =>
    simp only [List.cons.injEq, StreamEvent.ran.injEq, and_true] at refused
    obtain ⟨-, -, hop, answer⟩ := refused
    subst hop
    rw [if_pos there]
    exact StreamFamily.run_refused there answer
  · cases refused

-- ================================================================ the run

/-- Conservation of records and of their order, over every run of any
number of threads on any number of streams. What a stream started with
and what it accepted is, in that order, what it has delivered, then what
its closes have discarded, then what its transfers have moved out, then
what it still buffers, and of the last three at most one is not empty.
What was moved out is what the targets of the transfers started with,
each transfer having one target, which starts with what the transfer
found. An act in which a push is refused changes no stream, and no
account shows it. -/
theorem run_conserves (acts : List StreamAct) :
    let h := (Traffic.empty.run acts).1
    let t := (Traffic.empty.run acts).2
    (births h).length = t.family.streams.length
    ∧ (∀ i,
      let a := accountOf h i
      let buffered := (t.family.stream i).queue
      a.started ++ a.accepted
          = a.delivered ++ (a.discarded ++ (a.moved ++ buffered))
        ∧ (a.discarded = [] ∧ a.moved = [] ∨ a.discarded = [] ∧ buffered = []
            ∨ a.moved = [] ∧ buffered = [])
        ∧ a.moved = inherited h i)
    ∧ (∀ place found answer, .ran place found .transfer answer ∈ h →
        (StreamEvent.ran place found .transfer answer).births
          = [⟨some place, found.queue⟩])
    ∧ ∀ act place found r,
        (t.act act).1 = [.ran place found (.push r) (.pushed false)] →
          (t.act act).2.family = t.family
            ∧ ∀ i, accountOf (h ++ (t.act act).1) i = accountOf h i := by
  intro h t
  have books : Books h t.family := by
    have general := Traffic.run_induction (P := Books)
      (fun h f capacity b => b.made capacity)
      (fun h f place op now b there => b.ran op now there)
      acts [] Traffic.empty Books.start
    simpa using general
  refine ⟨books.places, fun i => ?_, fun place found answer listed => ?_,
    fun act place found r refused => ?_⟩
  · have settled := books.settled i
    refine ⟨settled.balance, ?_, books.handed i⟩
    by_cases hq : (t.family.stream i).queue = []
    · rcases settled.apart with hx | hm
      · exact Or.inr (Or.inl ⟨hx, hq⟩)
      · exact Or.inr (Or.inr ⟨hm, hq⟩)
    · exact Or.inl (settled.parts_of_queue hq)
  · rw [books.targets place found answer listed]
    rfl
  · constructor
    · cases act with
      | make capacity =>
          simp [Traffic.act, Traffic.make] at refused
      | call p op now => exact Traffic.attempt_refused refused
      | look sleeper now =>
          simp only [Traffic.act] at refused ⊢
          split at refused
          · cases refused
          · exact Traffic.attempt_refused refused
    · intro i
      rw [refused]
      exact accountOf_refused h i place found r

/-- A push that has to wait is accepted once there is room, behind what
was pushed before it, and what is left is moved out. -/
example (a b : Record) :
    let h := (Traffic.empty.run
      [.make (some 1), .call 0 (.push a) 0, .call 0 (.push b) 0,
        .call 0 .tryNext 0, .look 0 0, .call 0 .transfer 0]).1
    accountOf h 0 = ⟨[], [a, b], [a], [], [b]⟩
      ∧ startedWith h 1 = [b] := by
  cbv

end PluginRpc
