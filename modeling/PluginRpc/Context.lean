/-
Call contexts: cancellation, deadline and metadata.

A caller keeps a token and hands its children to the calls it makes. All
tokens that come from one another are one family with one bit, so a token
is the number of its family; cancelling any member cancels them all, for
good, and only the first attempt says that it was the one. A deadline is
an instant of the monotonic clock, and does nothing by itself. Both are
looked at by `check`, which everyone along a call asks before going on;
where a call is both cancelled and late, it counts as cancelled.

`Surroundings` is what all parties of a process share: which families are
cancelled, what time it is, how many families there are, and the journal
of notes.
-/
import PluginRpc.Clock
import PluginRpc.Note
import PluginRpc.Program

namespace PluginRpc

-- ============================================================== tokens

/-- A cancellation token, by the number of its family. -/
structure Token where
  family : Nat
deriving DecidableEq, Repr

/-- The handle given to a call: of the same family. -/
def Token.child (t : Token) : Token := t

-- ============================================================ deadlines

/-- The latest instant at which a call may still be under way, if there
is one. -/
structure Deadline where
  instant : Option Instant
deriving DecidableEq, Repr

namespace Deadline

def unlimited : Deadline := ⟨none⟩

def ofInstant (i : Instant) : Deadline := ⟨some i⟩

/-- A span from now; one that reaches past the end of the clock sets no
limit. -/
def after (now : Instant) (span : Span) : Deadline := ⟨now.after? span⟩

variable (d : Deadline) (now : Instant)

/-- Reached, also at the very instant. -/
def isExpired : Bool := d.instant.any fun i => i ≤ now

/-- The time left, nothing once it is reached; `none` without a limit. -/
def remaining : Option Span := d.instant.map fun i => i - now

/-- The shared mark of a call without limit. -/
theorem isExpired_unlimited : unlimited.isExpired now = false := rfl

/-- A deadline that has been reached stays reached. -/
theorem isExpired_mono {d : Deadline} {now later : Instant}
    (h : d.isExpired now = true) (hle : now ≤ later) :
    d.isExpired later = true := by
  obtain ⟨_ | i⟩ := d
  · exact h
  · simp only [isExpired, Option.any_some, decide_eq_true_eq] at h ⊢
    exact Nat.le_trans h hle

end Deadline

-- ============================================================= contexts

/-- What goes with a call from the caller to the channel. -/
structure CallContext where
  token : Token
  deadline : Deadline
  /-- Pairs in the order in which they were given. -/
  metadata : List (String × String)
deriving DecidableEq, Repr

/-- What all parties share. -/
structure Surroundings where
  /-- The families that have been cancelled. -/
  cancelled : List Token
  now : Instant
  /-- How many families have been made. -/
  families : Nat
  journal : List Note
deriving DecidableEq, Repr

namespace Surroundings

/-- Nothing cancelled, nothing noted. -/
def start : Surroundings := ⟨[], 0, 0, []⟩

variable (w : Surroundings)

def isCancelled (t : Token) : Bool := w.cancelled.contains t

/-- A token of a new family. -/
def newToken : Token × Surroundings :=
  (⟨w.families⟩, { w with families := w.families + 1 })

/-- Cancels the family of a token. The answer is whether this was the
first time. -/
def cancel (t : Token) : Bool × Surroundings :=
  if w.isCancelled t then (false, w)
  else (true, { w with cancelled := t :: w.cancelled })

/-- Time passes. -/
def elapse (span : Span) : Surroundings := { w with now := w.now + span }

def note (n : Note) : Surroundings := { w with journal := w.journal ++ [n] }

/-- The notes so far, and a journal that begins anew. -/
def takeJournal : List Note × Surroundings :=
  (w.journal, { w with journal := [] })

end Surroundings

namespace CallContext

variable (c : CallContext) (w : Surroundings)

/-- Why the call must not go on, if it must not. Cancellation is told
before the deadline. -/
def check : Except ErrorInfo Unit :=
  if w.isCancelled c.token then .error (.cancelled "call cancelled by caller")
  else if c.deadline.isExpired w.now then
    .error (.deadlineExceeded "call deadline elapsed")
  else .ok ()

/-- The one-line form of a context. With a deadline still to come it
would show the time left, which is another one at every look; there is
none then. -/
def describe : Option String :=
  let text (left : String) :=
    "CallContext\x7bcancelled=" ++ toString (w.isCancelled c.token)
      ++ ", deadline=" ++ left
      ++ ", metadata=" ++ toString c.metadata.length ++ "\x7d"
  match c.deadline.remaining w.now with
  | none => some (text "none")
  | some 0 => some (text "0ns")
  | some (_ + 1) => none

end CallContext

-- ============================================== the operations of anyone

/-- What any party may do with its surroundings. -/
inductive AmbientOp where
  | cancel (t : Token)
  | check (c : CallContext)
  /-- Be busy for a while. -/
  | elapse (span : Span)
  | note (n : Note)
deriving DecidableEq, Repr

/-- The type of the answer. -/
def AmbientOp.Answer : AmbientOp → Type
  | cancel _ => Bool
  | check _ => Except ErrorInfo Unit
  | elapse _ => Unit
  | note _ => Unit

/-- The operations that need nothing but the surroundings. -/
def ambient : Signature := ⟨AmbientOp, AmbientOp.Answer⟩

/-- An operation on the surroundings. -/
def AmbientOp.run (w : Surroundings) :
    (op : AmbientOp) → op.Answer × Surroundings
  | cancel t => w.cancel t
  | check c => (c.check w, w)
  | elapse span => ((), w.elapse span)
  | note n => ((), w.note n)

namespace Program

variable {S : Signature} {α : Type}

/-- Asks for an operation on the surroundings. -/
def ambient [h : PluginRpc.ambient.Within S] (op : AmbientOp) :
    Program S op.Answer :=
  h.lift op

def note [PluginRpc.ambient.Within S] (n : Note) : Program S Unit :=
  ambient (.note n)

def cancel [PluginRpc.ambient.Within S] (t : Token) : Program S Bool :=
  ambient (.cancel t)

def check [PluginRpc.ambient.Within S] (c : CallContext) :
    Program S (Except ErrorInfo Unit) :=
  ambient (.check c)

end Program

instance : ambient.Within ambient := ⟨Program.ask⟩

/-- How a run ended that could not be held up. -/
inductive Ending (α : Type) where
  | returned (a : α)
  | panicked (p : Panic)
deriving Repr

/-- Runs a program that needs nothing but its surroundings. -/
def Program.runAmbient {α : Type} (w : Surroundings) :
    Program PluginRpc.ambient α → Ending α × Surroundings
  | done a => (.returned a, w)
  | panic p => (.panicked p, w)
  | perform op next =>
      let (answer, w') := AmbientOp.run w op
      (next answer).runAmbient w'

end PluginRpc
