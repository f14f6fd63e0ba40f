/-
Calls in company.

While a call is under way other threads may be at its response stream: a
reader takes records, somebody ends the stream, closes it, moves its
content elsewhere or pushes to it too. Their critical sections fall
between the operations of the call. So a company is a list of sections
for each operation: those that come before it is answered. What is done
while a push waits for room comes before that push like everything else,
and a push that finds no room behind it all waits for ever.

A run in company is a run with the stream changed in between. What it
pushed, and what it was told each time, is written down beside it.

# Refusals

A stream refuses a record when it is no longer live, and no critical
section makes it live again, whoever is in it. So behind the first record
that is refused everything is, in every run and every company.
-/
import PluginRpc.Proofs.Channel.Feeding
import PluginRpc.Proofs.Stream.Lifecycle

namespace PluginRpc

-- =================================================================== runs

/-- What other threads do to the response stream of a call, before the
operation of each number is answered. -/
abbrev Company := Nat → List StreamTurn

/-- The company of a call that is alone with its stream. -/
def Company.nobody : Company := fun _ => []

/-- A call whose response stream other threads have been at. -/
def CallState.after (st : CallState) (turns : List StreamTurn) : CallState :=
  CallOp.onStream st (·.after turns)

/-- What came of a run in company. -/
structure CallCourse (α : Type) where
  outcome : Outcome α
  /-- The records that were pushed, in order, each with whether the
  response took it. -/
  pushes : List (Record × Bool)
  state : CallState

namespace CallCourse

variable {α β : Type} (c : CallCourse α)

/-- The course with these pushes before it. -/
def behind (first : List (Record × Bool)) : CallCourse α :=
  { c with pushes := first ++ c.pushes }

/-- The course with something else made of what is returned. -/
def map (f : α → β) : CallCourse β :=
  { c with outcome := c.outcome.map f }

end CallCourse

/-- What an answered operation pushed. -/
def CallOp.offered : (op : CallOp) → op.Answer → List (Record × Bool)
  | .push r, taken => [(r, taken)]
  | _, _ => []

namespace CallProgram

variable {α β : Type}

/-- Runs a program of a call in company, from the operation of a number
on. -/
def amid (company : Company) : Nat → CallState → CallProgram α → CallCourse α
  | _, st, .done a => ⟨.returned a, [], st⟩
  | _, st, .panic p => ⟨.panicked p, [], st⟩
  | n, st, .perform op next =>
      match CallOp.run? (st.after (company n)) op with
      | none => ⟨.stalled, [], st.after (company n)⟩
      | some (answer, st') =>
          (amid company (n + 1) st' (next answer)).behind
            (CallOp.offered op answer)

end CallProgram

namespace CallState

variable (st : CallState) (turns : List StreamTurn)

theorem after_line : (st.after turns).line = st.line := by
  obtain ⟨response, line, dialled⟩ := st
  cases response <;> rfl

theorem after_nil : st.after [] = st := by
  obtain ⟨response, line, dialled⟩ := st
  cases response <;> rfl

end CallState

namespace CallProgram

variable {α β : Type}

section

variable {company : Company} {n : Nat} {st st' : CallState} {op : call.Op}

/-- Where an operation is answered the run goes on with the answer. -/
theorem amid_answered {answer : call.Answer op}
    (answered : CallOp.run? (st.after (company n)) op = some (answer, st'))
    (next : call.Answer op → CallProgram α) :
    amid company n st (.perform op next)
      = (amid company (n + 1) st' (next answer)).behind
          (CallOp.offered op answer) := by
  rw [amid, answered]

theorem amid_waits (waits : CallOp.run? (st.after (company n)) op = none)
    (next : call.Answer op → CallProgram α) :
    amid company n st (.perform op next)
      = ⟨.stalled, [], st.after (company n)⟩ := by
  rw [amid, waits]

end

/-- A run in nobody's company is a run. -/
theorem amid_nobody (n : Nat) (st : CallState) (x : CallProgram α) :
    let alone := amid Company.nobody n st x
    run st x = (alone.outcome, alone.state) := by
  induction x generalizing n st with
  | done a => rfl
  | panic p => rfl
  | perform op next ih =>
      have found : st.after (Company.nobody n) = st := st.after_nil
      rw [run_perform, amid, found]
      cases CallOp.run? st op with
      | none => rfl
      | some result => exact ih result.1 (n + 1) result.2

variable (company : Company)

/-- What is made of the outcome afterwards has no part in the run. -/
theorem amid_bind_done (f : α → β) (n : Nat) (st : CallState)
    (x : CallProgram α) :
    amid company n st (x.bind fun a => .done (f a))
      = (amid company n st x).map f := by
  induction x generalizing n st with
  | done a => rfl
  | panic p => rfl
  | perform op next ih =>
      rw [Program.perform_bind, amid, amid]
      cases CallOp.run? (st.after (company n)) op with
      | none => rfl
      | some result =>
          exact congrArg (CallCourse.behind · _) (ih result.1 (n + 1) result.2)

end CallProgram

-- ======================================================= pushing to an outlet

/-- The three ways in which a push can end: the stream is full and stays
so, it takes the record, or it is no longer live and is left as it is. -/
inductive Outlet.Pushed (o : Outlet) : Option (Bool × Outlet) → Prop where
  | waits (full : o.stream.isFull = true) : Pushed o none
  | taken (live : o.stream.state = .live) (o' : Outlet) :
      Pushed o (some (true, o'))
  | refused (spent : o.stream.state ≠ .live) : Pushed o (some (false, o))

theorem Outlet.pushed (o : Outlet) (r : Record) : o.Pushed (o.push? r) := by
  unfold push? RecordStream.push
  cases live : o.stream.isLive with
  | false => exact .refused ((RecordStream.not_isLive_iff _).mp live)
  | true =>
      have alive := (RecordStream.isLive_iff _).mp live
      cases full : o.stream.atCapacity with
      | false => exact .taken alive _
      | true =>
          have held : o.stream.isFull = true := by
            rw [RecordStream.isFull, live, full]
            rfl
          -- a reader that attends to the stream can make room, or cannot
          simp only [if_true]
          split
          · split
            · exact .taken alive _
            · exact .waits held
          · exact .waits held

-- =============================================================== refusals

/-- No record is taken any more: the response stream is no longer live,
or there is none. -/
def CallState.Refuses (st : CallState) : Prop :=
  ∀ o, st.response = .stream o → o.stream.state ≠ .live

namespace CallState.Refuses

variable {st st' : CallState}

/-- Nothing that is done to the stream makes it live again. -/
theorem onStream (h : st.Refuses) {f : RecordStream → RecordStream}
    (forward : ∀ s, s.state ≠ .live → (f s).state ≠ .live) :
    (CallOp.onStream st f).Refuses := by
  obtain ⟨response, line, dialled⟩ := st
  cases response with
  | record r => exact h
  | stream o =>
      rintro o' same
      cases same
      exact forward _ (h o rfl)

theorem after (h : st.Refuses) (turns : List StreamTurn) :
    (st.after turns).Refuses :=
  h.onStream fun s spent => RecordStream.after_induction
    (fun _ _ _ _ e => e.shut) turns s spent

/-- An operation of the call does not either, and pushes in vain. -/
theorem run? (h : st.Refuses) {op : CallOp} {answer : op.Answer}
    (answered : CallOp.run? st op = some (answer, st')) :
    st'.Refuses ∧ ∀ p ∈ CallOp.offered op answer, p.2 = false := by
  cases op with
  | wire op | dial c =>
      cases answered
      exact ⟨h, List.forall_mem_nil _⟩
  | endStream =>
      cases answered
      exact ⟨h.onStream fun _ => RecordStream.Effect.ended.shut,
        List.forall_mem_nil _⟩
  | close =>
      cases answered
      exact ⟨h.onStream fun _ => RecordStream.Effect.closed.shut,
        List.forall_mem_nil _⟩
  | inspect | edit e =>
      obtain ⟨response, line, dialled⟩ := st
      cases response <;> cases answered
      · exact ⟨nofun, List.forall_mem_nil _⟩
      · exact ⟨h, List.forall_mem_nil _⟩
  | transfer =>
      obtain ⟨response, line, dialled⟩ := st
      cases response <;> cases answered
      · exact ⟨h, List.forall_mem_nil _⟩
      · exact ⟨h.onStream fun _ => RecordStream.Effect.moved.shut,
          List.forall_mem_nil _⟩
  | push r =>
      obtain ⟨response, line, dialled⟩ := st
      cases response with
      | record prior =>
          cases answered
          exact ⟨h, List.forall_mem_singleton.mpr rfl⟩
      | stream o =>
          obtain ⟨result, pushed, same⟩ := Option.map_eq_some_iff.mp answered
          cases same
          have fate := o.pushed r
          rw [pushed] at fate
          cases fate with
          | taken live o' => exact absurd live (h o rfl)
          | refused spent => exact ⟨h, List.forall_mem_singleton.mpr rfl⟩

end CallState.Refuses

/-- Whoever is refused a record finds that no more are taken. -/
theorem CallState.refuses_of_refused {st st' : CallState} {r : Record}
    (answered : CallOp.run? st (.push r) = some (false, st')) :
    st'.Refuses := by
  obtain ⟨response, line, dialled⟩ := st
  cases response with
  | record prior =>
      cases answered
      exact nofun
  | stream o =>
      obtain ⟨⟨accepted, left⟩, pushed, same⟩ :=
        Option.map_eq_some_iff.mp answered
      cases same
      have fate := o.pushed r
      rw [pushed] at fate
      cases fate with
      | refused spent =>
          rintro o' same
          cases same
          exact spent

-- ================================================ what operations leave alone

/-- Only a push can wait for ever, and only at a stream that is full. -/
theorem CallState.full_of_waits {st : CallState} {op : CallOp}
    (waits : CallOp.run? st op = none) :
    ∃ o, st.response = .stream o ∧ o.stream.isFull = true := by
  obtain ⟨response, line, dialled⟩ := st
  cases op with
  | push r =>
      cases response with
      | record prior => cases waits
      | stream o =>
          have fate := o.pushed r
          rw [Option.map_eq_none_iff.mp waits] at fate
          cases fate with
          | waits full => exact ⟨o, rfl, full⟩
  | inspect | edit e | transfer => cases response <;> cases waits
  | wire op | endStream | close | dial c => cases waits

namespace CallOp

variable (st : CallState) (turns : List StreamTurn)

/-- The line of a channel is nobody else's concern. -/
theorem run?_wire_after (op : WireOp) :
    run? (st.after turns) (.wire op)
      = some ((op.run st.line).1,
          { st.after turns with line := (op.run st.line).2 }) := by
  rw [← st.after_line turns]
  rfl

theorem run?_push_line {st st' : CallState} {r : Record} {taken : Bool}
    (answered : run? st (.push r) = some (taken, st')) :
    st'.line = st.line := by
  obtain ⟨response, line, dialled⟩ := st
  cases response with
  | record prior =>
      cases answered
      rfl
  | stream o =>
      obtain ⟨result, -, same⟩ := Option.map_eq_some_iff.mp answered
      cases same
      rfl

end CallOp

-- =============================================================== whole runs

namespace CallProgram

variable {α : Type} (company : Company)

/-- A run that begins when no more records are taken pushes in vain. -/
theorem amid_refused {st : CallState} (h : st.Refuses) (n : Nat)
    (x : CallProgram α) :
    ∀ p ∈ (amid company n st x).pushes, p.2 = false := by
  induction x generalizing n st with
  | done a => exact List.forall_mem_nil _
  | panic p => exact List.forall_mem_nil _
  | perform op next ih =>
      rw [amid]
      cases answered : CallOp.run? (st.after (company n)) op with
      | none => exact List.forall_mem_nil _
      | some result =>
          obtain ⟨still, vain⟩ := (h.after (company n)).run? answered
          exact List.forall_mem_append.mpr
            ⟨vain, ih result.1 still (n + 1)⟩

/-- Behind a record that is refused all are. -/
theorem amid_refusals_last (n : Nat) (st : CallState) (x : CallProgram α) :
    (amid company n st x).pushes.Pairwise fun p later =>
      p.2 = false → later.2 = false := by
  induction x generalizing n st with
  | done a => exact .nil
  | panic p => exact .nil
  | perform op next ih =>
      rw [amid]
      cases answered : CallOp.run? (st.after (company n)) op with
      | none => exact .nil
      | some result =>
          obtain ⟨answer, st'⟩ := result
          have rest := ih answer (n + 1) st'
          cases op with
          | push r =>
              refine .cons (fun later mem told => ?_) rest
              have told : answer = false := told
              subst told
              exact amid_refused company (CallState.refuses_of_refused answered)
                (n + 1) _ later mem
          | _ => exact rest

/-- A run that waits for ever waits at a stream that is full. -/
theorem amid_stalled (n : Nat) (st : CallState) (x : CallProgram α)
    (waits : (amid company n st x).outcome = .stalled) :
    ∃ o, (amid company n st x).state.response = .stream o
      ∧ o.stream.isFull = true := by
  induction x generalizing n st with
  | done a => cases waits
  | panic p => cases waits
  | perform op next ih =>
      rw [amid] at waits ⊢
      cases answered : CallOp.run? (st.after (company n)) op with
      | none => exact CallState.full_of_waits answered
      | some result =>
          rw [answered] at waits
          exact ih result.1 (n + 1) result.2 waits

end CallProgram

end PluginRpc
