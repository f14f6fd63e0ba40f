/-
What is asked about tokens and contexts, and what is answered.

Whether a call is cancelled or late is asked all the time and by everyone:
by a caller about its token, by a client before it dispatches, by a
channel before each message. All of them ask the same surroundings, which
all of them may change. `Asked` is the history of such a process: the
questions in the order in which they were asked, whoever asked them, each
with its answer. It is made of single steps, so it does not matter which
party took which, or whether one of them was in the middle of a call.

# What the answers must be

`Ask.Due` says what an answer has to be by the questions before it, and
does not mention the surroundings. `Accounts` ties the two: what the
surroundings hold is what the history says. Every step keeps the accounts
and gives the answer that is due, and so does every run.
-/
import PluginRpc.Proofs.Call.Run

namespace PluginRpc

-- ================================================================ answers

/-- The error of a call that was cancelled. -/
def ErrorInfo.callCancelled : ErrorInfo := .cancelled "call cancelled by caller"

/-- The error of a call that is late. -/
def ErrorInfo.callLate : ErrorInfo := .deadlineExceeded "call deadline elapsed"

/-- A question about a token or a context, with the answer it got. -/
inductive Ask where
  /-- To cancel a family, and whether that was the first time. -/
  | cancel (t : Token) (first : Bool)
  | isCancelled (t : Token) (answer : Bool)
  | check (c : CallContext) (answer : Except ErrorInfo Unit)

/-- A family is cancelled by what was asked since `w`, or was before. -/
def Revoked (w : Surroundings) (asks : List Ask) (t : Token) : Prop :=
  w.isCancelled t = true ∨ ∃ first, Ask.cancel t first ∈ asks

/-- What an answer has to be, by what was asked before. -/
def Ask.Due (w : Surroundings) (before : List Ask) : Ask → Prop
  | cancel t first => first = true ↔ ¬ Revoked w before t
  | isCancelled t answer => answer = true ↔ Revoked w before t
  | check c answer =>
      (Revoked w before c.token → answer = .error .callCancelled)
        ∧ (¬ Revoked w before c.token →
            answer = .ok () ∨ answer = .error .callLate)
        -- a context that has failed before fails again, and differently
        -- only if it was late and has been cancelled since
        ∧ ∀ e, .check c (.error e) ∈ before →
            answer = .error e
              ∨ e = .callLate ∧ answer = .error .callCancelled

-- ============================================================ the history

/-- What was asked on the way from one state of the surroundings to
another. -/
inductive Asked : Surroundings → List Ask → Surroundings → Prop
  | start (w : Surroundings) : Asked w [] w
  | cancel {w w' : Surroundings} {asks : List Ask} (t : Token)
      (rest : Asked (w.cancel t).2 asks w') :
      Asked w (.cancel t (w.cancel t).1 :: asks) w'
  | isCancelled {w w' : Surroundings} {asks : List Ask} (t : Token)
      (rest : Asked w asks w') :
      Asked w (.isCancelled t (w.isCancelled t) :: asks) w'
  | check {w w' : Surroundings} {asks : List Ask} (c : CallContext)
      (rest : Asked w asks w') : Asked w (.check c (c.check w) :: asks) w'
  | newToken {w w' : Surroundings} {asks : List Ask}
      (rest : Asked w.newToken.2 asks w') : Asked w asks w'
  | elapse {w w' : Surroundings} {asks : List Ask} (span : Span)
      (rest : Asked (w.elapse span) asks w') : Asked w asks w'
  | note {w w' : Surroundings} {asks : List Ask} (n : Note)
      (rest : Asked (w.note n) asks w') : Asked w asks w'

theorem Asked.trans {w w' w'' : Surroundings} {first second : List Ask}
    (h : Asked w first w') (h' : Asked w' second w'') :
    Asked w (first ++ second) w'' := by
  induction h with
  | start w => exact h'
  | cancel t _ ih => exact .cancel t (ih h')
  | isCancelled t _ ih => exact .isCancelled t (ih h')
  | check c _ ih => exact .check c (ih h')
  | newToken _ ih => exact .newToken (ih h')
  | elapse span _ ih => exact .elapse span (ih h')
  | note n _ ih => exact .note n (ih h')

-- =========================================================== the accounts

namespace Surroundings

theorem isCancelled_cancel (w : Surroundings) (t u : Token) :
    (w.cancel t).2.isCancelled u = true
      ↔ w.isCancelled u = true ∨ u = t := by
  unfold cancel
  by_cases before : w.isCancelled t = true
  · rw [if_pos before]
    constructor
    · exact .inl
    · rintro (h | rfl)
      · exact h
      · exact before
  · rw [if_neg before]
    show (t :: w.cancelled).contains u = true ↔ _
    simp only [isCancelled, List.contains_iff_mem, List.mem_cons]
    exact or_comm

theorem cancel_first (w : Surroundings) (t : Token) :
    (w.cancel t).1 = true ↔ ¬ w.isCancelled t = true := by
  unfold cancel
  by_cases before : w.isCancelled t = true
  · simp [before]
  · simp [before]

theorem cancel_now (w : Surroundings) (t : Token) :
    (w.cancel t).2.now = w.now := by
  unfold cancel
  split
  · rfl
  · rfl

theorem cancel_families (w : Surroundings) (t : Token) :
    (w.cancel t).2.families = w.families := by
  unfold cancel
  split
  · rfl
  · rfl

end Surroundings

/-- Families do not vanish. -/
theorem Asked.families_le {w w' : Surroundings} {asks : List Ask}
    (h : Asked w asks w') : w.families ≤ w'.families := by
  induction h with
  | start w => exact Nat.le_refl _
  | @cancel w _ _ t _ ih =>
      rw [w.cancel_families t] at ih
      exact ih
  | isCancelled t _ ih => exact ih
  | check c _ ih => exact ih
  | newToken _ ih => exact Nat.le_of_succ_le ih
  | elapse span _ ih => exact ih
  | note n _ ih => exact ih

theorem CallContext.check_of_cancelled {c : CallContext} {w : Surroundings}
    (dead : w.isCancelled c.token = true) :
    c.check w = .error .callCancelled := if_pos dead

theorem CallContext.check_of_alive {c : CallContext} {w : Surroundings}
    (alive : ¬ w.isCancelled c.token = true) :
    c.check w
      = if c.deadline.isExpired w.now then .error .callLate else .ok () :=
  if_neg alive

/-- Why a context fails in given surroundings. -/
def CallContext.FailsBy (c : CallContext) (w : Surroundings)
    (e : ErrorInfo) : Prop :=
  e = .callCancelled ∧ w.isCancelled c.token = true
    ∨ e = .callLate ∧ c.deadline.isExpired w.now = true

theorem CallContext.failsBy_of_check {c : CallContext} {w : Surroundings}
    {e : ErrorInfo} (h : c.check w = .error e) : c.FailsBy w e := by
  by_cases dead : w.isCancelled c.token = true
  · rw [check_of_cancelled dead] at h
    cases h
    exact .inl ⟨rfl, dead⟩
  · rw [check_of_alive dead] at h
    split at h
    · next overdue =>
      cases h
      exact .inr ⟨rfl, overdue⟩
    · cases h

/-- Questions behind others, all with the answers that are due. -/
def AllDue (w : Surroundings) (past asks : List Ask) : Prop :=
  ∀ before ask after, asks = before ++ ask :: after →
    ask.Due w (past ++ before)

theorem AllDue.nil {w : Surroundings} (past : List Ask) : AllDue w past [] := by
  intro before ask after split
  cases before <;> cases split

theorem AllDue.cons {w : Surroundings} {past rest : List Ask} {ask : Ask}
    (due : ask.Due w past) (behind : AllDue w (past ++ [ask]) rest) :
    AllDue w past (ask :: rest) := by
  intro before later after split
  cases before with
  | nil =>
      injection split with same _
      rw [← same, List.append_nil]
      exact due
  | cons first before =>
      injection split with same split
      have due_later := behind before later after split
      rw [List.append_assoc, same] at due_later
      exact due_later

/-- The surroundings hold what the history since `w₀` says: the families
it has cancelled, and the reasons for which contexts have failed. -/
structure Accounts (w₀ : Surroundings) (past : List Ask)
    (w : Surroundings) : Prop where
  cancelled : ∀ t, w.isCancelled t = true ↔ Revoked w₀ past t
  failed : ∀ c e, Ask.check c (.error e) ∈ past → c.FailsBy w e

theorem Ask.Due.followed {w₀ w : Surroundings} {past rest : List Ask} {ask : Ask}
    (due : ask.Due w₀ past)
    (behind : AllDue w₀ (past ++ [ask]) rest
      ∧ Accounts w₀ (past ++ [ask] ++ rest) w) :
    AllDue w₀ past (ask :: rest) ∧ Accounts w₀ (past ++ ask :: rest) w := by
  obtain ⟨later, last⟩ := behind
  rw [List.append_assoc] at last
  exact ⟨.cons due later, last⟩

namespace Accounts

variable {w₀ w : Surroundings} {past : List Ask}

theorem start (w : Surroundings) : Accounts w [] w := by
  refine ⟨fun t => ⟨.inl, ?_⟩, nofun⟩
  rintro (h | ⟨first, asked⟩)
  · exact h
  · cases asked

/-- A question that cancels nothing leaves the families as they were. -/
theorem revoked_concat (ask : Ask) (harmless : ∀ t first, ask ≠ .cancel t first)
    (t : Token) : Revoked w₀ (past ++ [ask]) t ↔ Revoked w₀ past t := by
  unfold Revoked
  simp only [List.mem_append, List.mem_singleton]
  constructor
  · rintro (h | ⟨first, asked | rfl⟩)
    · exact .inl h
    · exact .inr ⟨first, asked⟩
    · exact absurd rfl (harmless t first)
  · rintro (h | ⟨first, asked⟩)
    · exact .inl h
    · exact .inr ⟨first, .inl asked⟩

theorem revoked_concat_cancel (t u : Token) (first : Bool) :
    Revoked w₀ (past ++ [.cancel t first]) u
      ↔ Revoked w₀ past u ∨ u = t := by
  unfold Revoked
  simp only [List.mem_append, List.mem_singleton, Ask.cancel.injEq]
  constructor
  · rintro (h | ⟨b, asked | ⟨same, -⟩⟩)
    · exact .inl (.inl h)
    · exact .inl (.inr ⟨b, asked⟩)
    · exact .inr same
  · rintro ((h | ⟨b, asked⟩) | same)
    · exact .inl h
    · exact .inr ⟨b, .inl asked⟩
    · exact .inr ⟨first, .inr ⟨same, rfl⟩⟩

/-- Reasons to fail do not go away while families stay cancelled and the
clock does not go back. -/
theorem failed_later {w' : Surroundings} (h : Accounts w₀ past w)
    (cancelled : ∀ t, w.isCancelled t = true → w'.isCancelled t = true)
    (later : w.now ≤ w'.now) (c : CallContext) (e : ErrorInfo)
    (asked : Ask.check c (.error e) ∈ past) : c.FailsBy w' e := by
  rcases h.failed c e asked with ⟨reason, dead⟩ | ⟨reason, overdue⟩
  · exact .inl ⟨reason, cancelled _ dead⟩
  · exact .inr ⟨reason, Deadline.isExpired_mono overdue later⟩

theorem cancel (h : Accounts w₀ past w) (t : Token) :
    (Ask.cancel t (w.cancel t).1).Due w₀ past
      ∧ Accounts w₀ (past ++ [.cancel t (w.cancel t).1]) (w.cancel t).2 := by
  constructor
  · show (w.cancel t).1 = true ↔ _
    rw [w.cancel_first, h.cancelled]
  · refine ⟨fun u => ?_, fun c e asked => ?_⟩
    · rw [w.isCancelled_cancel, revoked_concat_cancel, h.cancelled]
    · have before : Ask.check c (.error e) ∈ past := by
        simpa using asked
      have still : ∀ u, w.isCancelled u = true →
          (w.cancel t).2.isCancelled u = true := by
        intro u hu
        exact (w.isCancelled_cancel t u).mpr (.inl hu)
      exact h.failed_later still (Nat.le_of_eq (w.cancel_now t).symm) c e before

theorem isCancelled (h : Accounts w₀ past w) (t : Token) :
    (Ask.isCancelled t (w.isCancelled t)).Due w₀ past
      ∧ Accounts w₀ (past ++ [.isCancelled t (w.isCancelled t)]) w := by
  refine ⟨h.cancelled t, fun u => ?_, fun c e asked => ?_⟩
  · rw [h.cancelled, revoked_concat (.isCancelled t (w.isCancelled t)) nofun]
  · have before : Ask.check c (.error e) ∈ past := by
      simpa using asked
    exact h.failed c e before

theorem check (h : Accounts w₀ past w) (c : CallContext) :
    (Ask.check c (c.check w)).Due w₀ past
      ∧ Accounts w₀ (past ++ [.check c (c.check w)]) w := by
  constructor
  · refine ⟨fun revoked => ?_, fun spared => ?_, fun e failed => ?_⟩
    · exact c.check_of_cancelled ((h.cancelled _).mpr revoked)
    · have alive : ¬ w.isCancelled c.token = true :=
        fun dead => spared ((h.cancelled _).mp dead)
      rw [c.check_of_alive alive]
      split
      · exact .inr rfl
      · exact .inl rfl
    · rcases h.failed c e failed with ⟨rfl, dead⟩ | ⟨rfl, overdue⟩
      · exact .inl (c.check_of_cancelled dead)
      · by_cases dead : w.isCancelled c.token = true
        · exact .inr ⟨rfl, c.check_of_cancelled dead⟩
        · rw [c.check_of_alive dead, if_pos overdue]
          exact .inl rfl
  · refine ⟨fun t => ?_, fun d e asked => ?_⟩
    · rw [h.cancelled, revoked_concat (.check c (c.check w)) nofun]
    · rcases List.mem_append.mp asked with before | now
      · exact h.failed d e before
      · have same := List.mem_singleton.mp now
        injection same with context answer
        rw [context]
        exact c.failsBy_of_check answer.symm

/-- What is asked later gets the answers that are due, and the accounts
are kept to the end. -/
theorem asked {w' : Surroundings} {asks : List Ask} (run : Asked w asks w')
    (h : Accounts w₀ past w) :
    AllDue w₀ past asks ∧ Accounts w₀ (past ++ asks) w' := by
  induction run generalizing past with
  | start w =>
      rw [List.append_nil]
      exact ⟨.nil past, h⟩
  | cancel t _ ih =>
      obtain ⟨due, accounts⟩ := h.cancel t
      exact due.followed (ih accounts)
  | isCancelled t _ ih =>
      obtain ⟨due, accounts⟩ := h.isCancelled t
      exact due.followed (ih accounts)
  | check c _ ih =>
      obtain ⟨due, accounts⟩ := h.check c
      exact due.followed (ih accounts)
  | newToken _ ih => exact ih ⟨h.cancelled, h.failed⟩
  | elapse span _ ih =>
      exact ih ⟨h.cancelled, h.failed_later (fun _ => id) (Nat.le_add_right ..)⟩
  | note n _ ih => exact ih ⟨h.cancelled, h.failed⟩

end Accounts

-- ====================================================== what code asks

/-- What an operation asks, given its answer. -/
def AmbientOp.told : (op : AmbientOp) → op.Answer → List Ask
  | cancel t, first => [.cancel t first]
  | check c, answer => [.check c answer]
  | elapse _, _ => []
  | note _, _ => []

theorem AmbientOp.asked (op : AmbientOp) (w : Surroundings) :
    Asked w (op.told (op.run w).1) (op.run w).2 := by
  cases op with
  | cancel t => exact .cancel t (.start _)
  | check c => exact .check c (.start _)
  | elapse span => exact .elapse span (.start _)
  | note n => exact .note n (.start _)

/-- Among the operations of a call only those on the surroundings ask
anything. -/
def CallOp.told : (op : CallOp) → op.Answer → List Ask
  | .wire (.ambient op), answer => op.told answer
  | _, _ => []

namespace CallProgram

variable {α : Type}

/-- What a run asks, in order. -/
def asks (st : CallState) : CallProgram α → List Ask
  | .done _ => []
  | .panic _ => []
  | .perform op next =>
      match CallOp.run? st op with
      | none => []
      | some (answer, st') => CallOp.told op answer ++ asks st' (next answer)

theorem asked_run? {st st' : CallState} {op : CallOp} {answer : op.Answer}
    (answered : CallOp.run? st op = some (answer, st')) :
    Asked st.line.surroundings (CallOp.told op answer)
      st'.line.surroundings := by
  obtain ⟨response, line, dialled⟩ := st
  cases op with
  | wire op =>
      cases answered
      cases op with
      | ambient op => exact op.asked line.surroundings
      | record method => exact .start _
  | inspect | edit e | endStream | close | transfer =>
      cases response <;> cases answered <;> exact .start _
  | push r =>
      cases response with
      | record prior =>
          cases answered
          exact .start _
      | stream o =>
          obtain ⟨result, -, same⟩ := Option.map_eq_some_iff.mp answered
          cases same
          exact .start _
  | dial c =>
      cases answered
      exact .start _

/-- A run, however it ends, is a history of what it asked. -/
theorem asked_run (st : CallState) (x : CallProgram α) :
    Asked st.line.surroundings (asks st x)
      (run st x).2.line.surroundings := by
  induction x generalizing st with
  | done a => exact .start _
  | panic p => exact .start _
  | perform op next ih =>
      rw [run_perform, asks]
      cases answered : CallOp.run? st op with
      | none => exact .start _
      | some result => exact (asked_run? answered).trans (ih result.1 result.2)

end CallProgram

end PluginRpc
