/-
Cancellation and expiry are final.

A process makes tokens, hands out clones and children of them, puts them
into contexts and clones the contexts. What descends in this way from one
token is a family, however long the way was. Any member may be used to
cancel or to ask, between calls as well as in the middle of them, by
whatever code the calls run into. `Process.run` runs a list of such deeds
and notes down what was asked.

Which family a member is of is not asked of the member: the process keeps
the founder of each, by following the deeds alone. That two members share
their bit exactly if they have one founder is then something to prove.

# What is barred

A call that begins when its context's family has been cancelled gets no
further than the first look at the context. `Barred` says so of a table's
client and of the loopback channel, whatever they were asked to do.
-/
import PluginRpc.Proofs.Call.Failure
import PluginRpc.Proofs.Context.History
import PluginRpc.Proofs.Dispatch.Gates
import PluginRpc.Channel.Loopback

namespace PluginRpc

open CallProgram

-- ============================================================== the members

/-- What holds a cancellation bit. -/
inductive Handle where
  | bare (t : Token)
  | context (c : CallContext)

def Handle.token : Handle → Token
  | bare t => t
  | context c => c.token

/-- How a handle is made from another. -/
inductive Derivation where
  | clone
  /-- The child of the token, or of a context's token. -/
  | child
  /-- A context with the token, or with a context's token. -/
  | context (deadline : Deadline) (metadata : List (String × String))

def Derivation.make (h : Handle) : Derivation → Handle
  | clone => h
  | child => .bare h.token.child
  | context deadline metadata => .context ⟨h.token, deadline, metadata⟩

theorem Derivation.make_token (d : Derivation) (h : Handle) :
    (d.make h).token = h.token := by
  cases d <;> rfl

/-- A handle of a process. -/
structure Member where
  handle : Handle
  /-- The position of the handle that was made as a token of its own and
  from which this one descends. -/
  founder : Nat

-- ================================================================ the deeds

/-- What may be asked of a handle. -/
inductive Question where
  | cancel
  | isCancelled
  /-- Asked of contexts only. -/
  | check

/-- What is asked, with its answer, and the surroundings afterwards. -/
def Question.put (w : Surroundings) (h : Handle) :
    Question → List Ask × Surroundings
  | cancel => ([.cancel h.token (w.cancel h.token).1], (w.cancel h.token).2)
  | isCancelled => ([.isCancelled h.token (w.isCancelled h.token)], w)
  | check =>
      match h with
      | .bare _ => ([], w)
      | .context c => ([.check c (c.check w)], w)

/-- What a process does; handles are named by their positions. -/
inductive Deed where
  /-- A token of a new family. -/
  | found
  | derive (i : Nat) (how : Derivation)
  | ask (i : Nat) (q : Question)
  | elapse (span : Span)
  /-- Run code with all handles at hand: a call of a client or on a
  channel, or anything else. -/
  | act (response : Response) (code : List Member → CallProgram Unit)

structure Process where
  line : Line
  members : List Member

namespace Process

/-- Nothing cancelled and no handle made. -/
def start : Process := ⟨⟨.start, []⟩, []⟩

variable (p : Process)

abbrev surroundings : Surroundings := p.line.surroundings

/-- One deed; one about a handle that is not there does nothing. -/
def step : Deed → List Ask × Process
  | .found =>
      let made := p.surroundings.newToken
      ([], ⟨{ p.line with surroundings := made.2 },
        p.members ++ [⟨.bare made.1, p.members.length⟩]⟩)
  | .derive i how =>
      match p.members[i]? with
      | none => ([], p)
      | some m => ([], ⟨p.line, p.members ++ [⟨how.make m.handle, m.founder⟩]⟩)
  | .ask i q =>
      match p.members[i]? with
      | none => ([], p)
      | some m =>
          let put := q.put p.surroundings m.handle
          (put.1, ⟨{ p.line with surroundings := put.2 }, p.members⟩)
  | .elapse span =>
      ([], ⟨{ p.line with surroundings := p.surroundings.elapse span },
        p.members⟩)
  | .act response code =>
      let st : CallState := ⟨response, p.line, []⟩
      (asks st (code p.members),
        ⟨(CallProgram.run st (code p.members)).2.line, p.members⟩)

variable {p} in
theorem step_derive {i : Nat} {m : Member} (there : p.members[i]? = some m)
    (how : Derivation) :
    p.step (.derive i how)
      = ([], ⟨p.line, p.members ++ [⟨how.make m.handle, m.founder⟩]⟩) := by
  simp only [step, there]

variable {p} in
theorem step_ask {i : Nat} {m : Member} (there : p.members[i]? = some m)
    (q : Question) :
    p.step (.ask i q)
      = ((q.put p.surroundings m.handle).1,
          ⟨{ p.line with surroundings := (q.put p.surroundings m.handle).2 },
            p.members⟩) := by
  simp only [step, there]

variable {p} in
theorem step_absent {i : Nat} (absent : p.members[i]? = none) :
    (∀ how, p.step (.derive i how) = ([], p))
      ∧ ∀ q, p.step (.ask i q) = ([], p) := by
  constructor
  · intro how
    simp only [step, absent]
  · intro q
    simp only [step, absent]

/-- Deeds one after another, with all that was asked. -/
def run (p : Process) : List Deed → List Ask × Process
  | [] => ([], p)
  | deed :: rest =>
      let (first, p') := p.step deed
      let (later, last) := p'.run rest
      (first ++ later, last)

-- ============================================================== the history

theorem asked_put (w : Surroundings) (h : Handle) (q : Question) :
    Asked w (q.put w h).1 (q.put w h).2 := by
  cases q with
  | cancel => exact .cancel h.token (.start _)
  | isCancelled => exact .isCancelled h.token (.start _)
  | check =>
      cases h with
      | bare t => exact .start _
      | context c => exact .check c (.start _)

theorem asked_step (deed : Deed) :
    Asked p.surroundings (p.step deed).1 (p.step deed).2.surroundings := by
  cases deed with
  | found => exact .newToken (.start _)
  | derive i how =>
      cases there : p.members[i]? with
      | none =>
          rw [(step_absent there).1 how]
          exact .start _
      | some m =>
          rw [step_derive there how]
          exact .start _
  | ask i q =>
      cases there : p.members[i]? with
      | none =>
          rw [(step_absent there).2 q]
          exact .start _
      | some m =>
          rw [step_ask there q]
          exact asked_put p.surroundings m.handle q
  | elapse span => exact .elapse span (.start _)
  | act response code => exact asked_run ⟨response, p.line, []⟩ _

theorem asked_run (deeds : List Deed) :
    Asked p.surroundings (p.run deeds).1 (p.run deeds).2.surroundings := by
  induction deeds generalizing p with
  | nil => exact .start _
  | cons deed rest ih =>
      have first := p.asked_step deed
      have later := ih (p.step deed).2
      exact first.trans later

-- ============================================================= the families

/-- Members have the same bit exactly if they have the same founder. -/
structure Kindred : Prop where
  kin : ∀ a ∈ p.members, ∀ b ∈ p.members,
    a.handle.token = b.handle.token ↔ a.founder = b.founder
  /-- Founders are members. -/
  founded : ∀ m ∈ p.members, m.founder < p.members.length
  /-- Tokens are of families that have been made. -/
  born : ∀ m ∈ p.members, m.handle.token.family < p.surroundings.families

variable {p}

/-- What leaves the members alone does not change who is of a family. -/
theorem Kindred.later (h : p.Kindred) {line : Line}
    (more : p.surroundings.families ≤ line.surroundings.families) :
    Kindred ⟨line, p.members⟩ where
  kin := h.kin
  founded := h.founded
  born m hm := Nat.lt_of_lt_of_le (h.born m hm) more

theorem Kindred.found (h : p.Kindred) : (p.step .found).2.Kindred := by
  -- the new token has a number that no member's token has, and a founder
  -- that no member has
  have fresh : ∀ m ∈ p.members, m.handle.token ≠ ⟨p.surroundings.families⟩ := by
    intro m hm same
    have born := h.born m hm
    rw [same] at born
    exact Nat.lt_irrefl _ born
  have alone : ∀ m ∈ p.members, m.founder ≠ p.members.length := by
    intro m hm same
    exact Nat.ne_of_lt (h.founded m hm) same
  refine ⟨fun a ha b hb => ?_, fun m hm => ?_, fun m hm => ?_⟩
  · rcases List.mem_append.mp ha with ha | ha
    · rcases List.mem_append.mp hb with hb | hb
      · exact h.kin a ha b hb
      · cases List.mem_singleton.mp hb
        exact iff_of_false (fresh a ha) (alone a ha)
    · cases List.mem_singleton.mp ha
      rcases List.mem_append.mp hb with hb | hb
      · exact iff_of_false (fun same => fresh b hb same.symm)
          fun same => alone b hb same.symm
      · cases List.mem_singleton.mp hb
        exact iff_of_true rfl rfl
  · have one_more : (p.step .found).2.members.length
        = p.members.length + 1 := List.length_append
    rw [one_more]
    rcases List.mem_append.mp hm with hm | hm
    · exact Nat.lt_succ_of_lt (h.founded m hm)
    · cases List.mem_singleton.mp hm
      exact Nat.lt_succ_self _
  · show _ < p.surroundings.families + 1
    rcases List.mem_append.mp hm with hm | hm
    · exact Nat.lt_succ_of_lt (h.born m hm)
    · cases List.mem_singleton.mp hm
      exact Nat.lt_succ_self _

/-- A further member with the bit and the founder of one that is there. -/
theorem Kindred.concat (h : p.Kindred) {m : Member}
    (hm : m ∈ p.members) (next : Member)
    (token : next.handle.token = m.handle.token)
    (founder : next.founder = m.founder) :
    Kindred ⟨p.line, p.members ++ [next]⟩ := by
  -- each member stands for one that was there before
  have stands : ∀ a ∈ p.members ++ [next], ∃ b ∈ p.members,
      a.handle.token = b.handle.token ∧ a.founder = b.founder := by
    intro a ha
    rcases List.mem_append.mp ha with ha | ha
    · exact ⟨a, ha, rfl, rfl⟩
    · cases List.mem_singleton.mp ha
      exact ⟨m, hm, token, founder⟩
  refine ⟨fun a ha b hb => ?_, fun a ha => ?_, fun a ha => ?_⟩
  · obtain ⟨a', ha', tokenA, founderA⟩ := stands a ha
    obtain ⟨b', hb', tokenB, founderB⟩ := stands b hb
    rw [tokenA, tokenB, founderA, founderB]
    exact h.kin a' ha' b' hb'
  · obtain ⟨b, hb, -, founder⟩ := stands a ha
    rw [founder]
    have bound := h.founded b hb
    exact Nat.lt_of_lt_of_le bound (by simp)
  · obtain ⟨b, hb, token, -⟩ := stands a ha
    rw [token]
    exact h.born b hb

theorem Kindred.step (h : p.Kindred) (deed : Deed) :
    (p.step deed).2.Kindred := by
  have more := (p.asked_step deed).families_le
  cases deed with
  | found => exact h.found
  | derive i how =>
      cases there : p.members[i]? with
      | none =>
          rw [(step_absent there).1 how]
          exact h
      | some m =>
          rw [step_derive there how]
          have member := List.mem_of_getElem? there
          exact h.concat member ⟨how.make m.handle, m.founder⟩
            (how.make_token m.handle) rfl
  | ask i q =>
      cases there : p.members[i]? with
      | none =>
          rw [(step_absent there).2 q]
          exact h
      | some m =>
          rw [step_ask there q] at more ⊢
          exact h.later more
  | elapse span => exact h.later more
  | act response code => exact h.later more

theorem Kindred.run (h : p.Kindred) (deeds : List Deed) :
    (p.run deeds).2.Kindred := by
  induction deeds generalizing p with
  | nil => exact h
  | cons deed rest ih => exact ih (h.step deed)

theorem kindred_start : start.Kindred := ⟨nofun, nofun, nofun⟩

end Process

-- ================================================= calls that come too late

/-- A look at a context, as channels take it. -/
def Program.look {T : Signature} [h : wire.Within T] (c : CallContext) :
    Program T (Except ErrorInfo Unit) :=
  h.lift (.ambient (.check c))

namespace Program

variable {α σ : Type} (c : CallContext)

theorem receive_check_bind {T : Signature} [wire.Within T]
    (receiver : σ → Payload → Program T (σ × Flow)) (s : σ)
    (f : Except ErrorInfo Unit → Program feed α) :
    receive receiver s ((check c).bind f)
      = (look c).bind fun answer => receive receiver s (f answer) := rfl

theorem within_look_bind (f : Except ErrorInfo Unit → Program wire α) :
    (((look c).bind f).within : CallProgram α)
      = (look c).bind fun answer => (f answer).within := rfl

theorem run_look_bind (st : CallState)
    (f : Except ErrorInfo Unit → CallProgram α) :
    run st ((look c).bind f) = run st (f (c.check st.line.surroundings)) := rfl

end Program

namespace Loopback

variable (b : Loopback) {context : CallContext} (method : MethodPath)
  (payloads : List Payload) {st : CallState}

theorem run_dispatch_of_cancelled
    (dead : st.line.surroundings.isCancelled context.token = true) {σ : Type}
    (receiver : σ → Payload → CallProgram (σ × Flow)) (s : σ) :
    run st (Program.receive receiver s (b.dispatch context method payloads))
      = (.returned (s, .error .callCancelled), st) := by
  unfold dispatch
  rw [Program.bind_eq, Program.receive_check_bind, Program.run_look_bind,
    CallContext.check_of_cancelled dead]
  rfl

theorem run_single_of_cancelled
    (dead : st.line.surroundings.isCancelled context.token = true) :
    run st (b.single context method payloads).within
      = (.returned (.error .callCancelled), st) := by
  unfold single dispatch
  rw [Program.bind_eq, Program.bind_eq, Program.receive_check_bind,
    Program.bind_assoc, Program.within_look_bind, Program.run_look_bind,
    CallContext.check_of_cancelled dead]
  rfl

end Loopback

/-- Where the family of the context is cancelled, no handler is decided
for. -/
theorem DispatchTable.decision_of_cancelled (channel : Channel)
    {context : CallContext} {key : DispatchKey} {request : Record}
    {shape : ResponseShape} {package : PackageDecl} {plan : List Address}
    {w : Surroundings} (dead : w.isCancelled context.token = true) :
    ∃ e, decision channel context key request shape package plan w
      = .error e := by
  cases decided : decision channel context key request shape package plan w with
  | error e => exact ⟨e, rfl⟩
  | ok verdict =>
      have rules := decides_decision channel context key request shape package
        (fun _ _ _ => .done (.ok ())) plan w
      rw [decided] at rules
      cases rules with
      | handled _ _ _ alive _ =>
          rw [dead] at alive
          cases alive

/-- No call with the context gets anywhere in given surroundings. -/
structure Barred (context : CallContext) (line : Line) : Prop where
  /-- A client of a table fails its response by the error of a gate, and
  leaves everything else as it was. It does so whatever handlers there are,
  so it asks none of them. -/
  client : ∀ (package : PackageDecl) (plan : List DispatchTable.Address)
      (channel : Channel) (key : DispatchKey) (request : Record)
      (st : CallState), st.line = line →
    ∃ e, ∀ H : Nat → Handler,
      let ended := run st ((DispatchTable.ofHistory package H plan).client
        channel context key request st.response.shape)
      DispatchTable.Decides package H plan channel context key request
          st.response.shape line.surroundings (.error e)
        ∧ ended = run st.cleared (fail st.response.shape e)
        ∧ ended.2.line = line ∧ ended.2.dialled = st.dialled
  /-- The loopback channel refuses a call that is answered with one
  message. -/
  single : ∀ (b : Loopback) (method : MethodPath) (payload : Payload)
      (payloads : List Payload) (st : CallState), st.line = line →
    run st (b.channel.unary context method payload).within
        = (.returned (.error .callCancelled), st)
      ∧ run st (b.channel.clientStreaming context method payloads).within
        = (.returned (.error .callCancelled), st)
  /-- It also refuses one that is answered with several, and delivers
  none. -/
  several : ∀ (b : Loopback) (method : MethodPath) (payload : Payload)
      (payloads : List Payload) (σ : Type) (s : σ)
      (receiver : σ → Payload → CallProgram (σ × Flow)) (st : CallState),
      st.line = line →
    run st (Program.receive receiver s
        (b.channel.serverStreaming context method payload))
        = (.returned (s, .error .callCancelled), st)
      ∧ run st (Program.receive receiver s
        (b.channel.bidirectional context method payloads))
        = (.returned (s, .error .callCancelled), st)

theorem barred_of_cancelled {context : CallContext} {line : Line}
    (dead : line.surroundings.isCancelled context.token = true) :
    Barred context line where
  client package plan channel key request st here := by
    subst here
    obtain ⟨e, decided⟩ := DispatchTable.decision_of_cancelled channel dead
    refine ⟨e, fun H => ?_⟩
    have rules := DispatchTable.decides_decision channel context key request
      st.response.shape package H plan st.line.surroundings
    have ended := DispatchTable.run_client_ofHistory channel context key
      request st.response.shape package H plan st
    rw [decided] at rules ended
    -- the response that fails is the cleared one, which is of the same shape
    have alone := run_fail_line st.cleared e
    rw [st.cleared_shape, st.cleared_line, st.cleared_dialled] at alone
    rw [ended]
    exact ⟨rules, rfl, alone⟩
  single b method payload payloads st here := by
    subst here
    exact ⟨b.run_single_of_cancelled method [payload] dead,
      b.run_single_of_cancelled method payloads dead⟩
  several b method payload payloads σ s receiver st here := by
    subst here
    exact ⟨b.run_dispatch_of_cancelled method [payload] dead receiver s,
      b.run_dispatch_of_cancelled method payloads dead receiver s⟩

-- ============================================================ to the end

/-- Whatever is done with the members of any number of families: two
members share their bit exactly if they have one founder; every question
gets the answer that is due by the questions before it, and what is
cancelled in the end is what was cancelled on the way; and no call with a
context whose family has been cancelled gets anywhere. -/
theorem cancellation_is_final (deeds : List Deed) :
    let history := (Process.start.run deeds).1
    let last := (Process.start.run deeds).2
    (∀ a ∈ last.members, ∀ b ∈ last.members,
        a.handle.token = b.handle.token ↔ a.founder = b.founder)
      ∧ (∀ before ask after, history = before ++ ask :: after →
        ask.Due .start before)
      ∧ (∀ t, last.surroundings.isCancelled t = true
        ↔ Revoked .start history t)
      ∧ ∀ context, Revoked .start history context.token →
        Barred context last.line := by
  intro history last
  have accounts := Accounts.start .start
  obtain ⟨due, kept⟩ := accounts.asked (Process.start.asked_run deeds)
  have kindred := Process.kindred_start.run deeds
  refine ⟨kindred.kin, due, kept.cancelled, fun context revoked => ?_⟩
  exact barred_of_cancelled ((kept.cancelled context.token).mpr revoked)

end PluginRpc
