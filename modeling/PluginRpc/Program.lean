/-
Programs: what a party does during a call, as a finite tree.

Handlers, channels, plugin entries and clients are code that somebody
else writes. What such code can do is fixed by a `Signature`: the
operations it may ask for and the type of each answer. A `Program` over a
signature is then a tree: it is done, it panics, or it asks for an
operation and goes on with the answer. Every program ends, and it can
touch nothing but what its signature names, so a statement about every
program is a statement about everything such code could possibly do.

A panic stops a program where it is; the operations before it have
happened. `guard` is the fence that stands at every module boundary: a
panic behind it becomes an error value in front of it.
-/
import PluginRpc.Status

namespace PluginRpc

-- ============================================================== panics

/-- What a panicking program leaves behind. -/
inductive Panic where
  | message (text : String)
  /-- Something that is no text. -/
  | nonText
deriving DecidableEq, Repr

/-- The text that describes a panic. -/
def Panic.detail : Panic → String
  | message text => text
  | nonText => "non-string panic payload"

/-- The error that a panic becomes at a fence. -/
def Panic.toError (scope : String) (p : Panic) : ErrorInfo :=
  .internal (scope ++ " panicked: " ++ p.detail)

-- ========================================================== signatures

/-- The operations that programs may ask for, each with the type of its
answer. -/
structure Signature where
  Op : Type
  Answer : Op → Type

/-- What code may do, given the operations it can ask for. -/
inductive Program (S : Signature) (α : Type) : Type where
  | done (a : α)
  | panic (p : Panic)
  | perform (op : S.Op) (next : S.Answer op → Program S α)

/-- The programs over `S` can be run where the operations of `T` are
available. -/
class Signature.Within (S T : Signature) where
  /-- What an operation of `S` comes to in terms of `T`. -/
  lift : (op : S.Op) → Program T (S.Answer op)

namespace Program

variable {S T : Signature} {α β : Type}

-- ========================================================= composition

/-- Goes on with another program where this one is done. -/
def bind : Program S α → (α → Program S β) → Program S β
  | done a, f => f a
  | panic p, _ => panic p
  | perform op next, f => perform op fun answer => (next answer).bind f

instance : Monad (Program S) where
  pure := done
  bind := bind

@[simp] theorem pure_eq (a : α) : (pure a : Program S α) = done a := rfl

@[simp] theorem bind_eq (x : Program S α) (f : α → Program S β) :
    x >>= f = x.bind f := rfl

@[simp] theorem done_bind (a : α) (f : α → Program S β) :
    (done a).bind f = f a := rfl

@[simp] theorem panic_bind (p : Panic) (f : α → Program S β) :
    (panic p : Program S α).bind f = panic p := rfl

@[simp] theorem perform_bind (op : S.Op) (next : S.Answer op → Program S α)
    (f : α → Program S β) :
    (perform op next).bind f = perform op fun a => (next a).bind f := rfl

theorem bind_assoc {γ : Type} (x : Program S α) (f : α → Program S β)
    (g : β → Program S γ) :
    (x.bind f).bind g = x.bind fun a => (f a).bind g := by
  induction x with
  | done a => rfl
  | panic p => rfl
  | perform op next ih => simp [ih]

/-- Asks for one operation. -/
def ask (op : S.Op) : Program S (S.Answer op) := perform op done

/-- The same program where more operations are available. -/
def within [S.Within T] : Program S α → Program T α
  | done a => done a
  | panic p => panic p
  | perform op next =>
      (Signature.Within.lift op : Program T _).bind fun answer =>
        (next answer).within

-- ============================================================ the fence

/-- Runs a program so that its panic ends up as an error of the given
scope and everything else is as it was. -/
def guard (scope : String) : Program S α → Program S (Except ErrorInfo α)
  | done a => done (.ok a)
  | panic p => done (.error (p.toError scope))
  | perform op next => perform op fun answer => (next answer).guard scope

/-- A fence around a program that can fail of itself: the error is the
program's own or the panic's. -/
def guardResult (scope : String) (x : Program S (Except ErrorInfo α)) :
    Program S (Except ErrorInfo α) :=
  (x.guard scope).bind fun outcome => done (outcome.bind id)

end Program

end PluginRpc
