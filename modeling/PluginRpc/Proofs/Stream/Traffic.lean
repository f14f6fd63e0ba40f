/-
Runs over a growing family of streams, with threads that wait.

A run is a list of acts: a stream is made, a thread calls an operation of
a stream that exists, or a thread that had to wait looks again. Every act
is one critical section, so the acts of all threads stand in one order,
and every order is a run. A thread that is answered `waits` falls asleep
in the middle of its operation; it may look again at any time, woken or
not, and whatever it is answered then is the answer of the operation it
began. A wait with a limit takes its effect in its last look, which is
the call that stands for it here.

Beside the streams a run leaves a history: what was made, and for each
critical section the stream it found, the operation and the answer.
-/
import PluginRpc.Proofs.Stream.Effect
import PluginRpc.Stream.Family

namespace PluginRpc

-- =================================================================== acts

/-- A new stream, without bound or with one. -/
def RecordStream.fresh : Option Nat → RecordStream
  | none => unbounded
  | some n => bounded n

/-- One thing that happens to a family of streams. -/
inductive StreamAct where
  /-- A stream is made. -/
  | make (capacity : Option Nat)
  /-- A thread calls an operation of the stream at a place. -/
  | call (place : Nat) (op : StreamOp) (now : Instant)
  /-- A thread that waits looks again. -/
  | look (sleeper : Nat) (now : Instant)

/-- An entry of the history. -/
inductive StreamEvent where
  | made (s : RecordStream)
  /-- A critical section: where, the stream it found, the operation and
  the answer. -/
  | ran (place : Nat) (found : RecordStream) (op : StreamOp)
    (answer : StreamReply)

/-- A family of streams and the threads that wait at them, each in the
middle of an operation. -/
structure Traffic where
  family : StreamFamily
  asleep : List (Nat × StreamOp)

namespace Traffic

/-- Nothing has been made yet. -/
def empty : Traffic := ⟨⟨[], .empty⟩, []⟩

variable (t : Traffic)

/-- A stream joins the family. -/
def make (s : RecordStream) : List StreamEvent × Traffic :=
  ([.made s],
    { t with family :=
        { t.family with streams := t.family.streams ++ [s] } })

/-- A critical section of the stream at a place; there is none where no
stream has been made. -/
def attempt (place : Nat) (op : StreamOp) (now : Instant) :
    List StreamEvent × Traffic :=
  if place < t.family.streams.length then
    let (answer, family) := t.family.run now place op
    ([.ran place (t.family.stream place) op answer],
      { family := family
        asleep :=
          if answer = .waits then t.asleep ++ [(place, op)]
          else t.asleep })
  else ([], t)

def act : StreamAct → List StreamEvent × Traffic
  | .make capacity => t.make (.fresh capacity)
  | .call place op now => t.attempt place op now
  | .look sleeper now =>
      match t.asleep[sleeper]? with
      | none => ([], t)
      | some (place, op) =>
          { t with asleep := t.asleep.eraseIdx sleeper }.attempt place op now

/-- What a list of acts adds to the history, and what is left. -/
def run (t : Traffic) : List StreamAct → List StreamEvent × Traffic
  | [] => ([], t)
  | a :: rest =>
      let (events, t') := t.act a
      let (events', t'') := t'.run rest
      (events ++ events', t'')

end Traffic

-- =============================================== a family, place by place

namespace StreamFamily

variable (f : StreamFamily)

/-- How many streams an operation leaves. -/
theorem length_run (now : Instant) (place : Nat) (op : StreamOp) :
    (f.run now place op).2.streams.length
      = f.streams.length + (madeBy (f.run now place op).1).length := by
  simp only [run, store, List.length_append, List.length_set]

/-- The answer of an operation is that of the stream at its place. -/
theorem run_answer (now : Instant) (place : Nat) (op : StreamOp) :
    (f.run now place op).1 = ((f.stream place).run now op).1 := rfl

/-- A stream behind an operation: at the place itself what the operation
left, at every other place what was there, and behind the last place what
the operation made. -/
theorem stream_run {place : Nat} (now : Instant) (op : StreamOp)
    (there : place < f.streams.length) (i : Nat) :
    (f.run now place op).2.stream i
      = if i = place then ((f.stream place).run now op).2
        else if i < f.streams.length then f.stream i
        else ((madeBy (f.run now place op).1)[i - f.streams.length]?).getD
          RecordStream.unbounded.close := by
  by_cases hi : i = place
  · subst hi
    rw [if_pos rfl]
    simp only [stream, run, store]
    rw [List.getElem?_append_left (by simpa using there),
      List.getElem?_set_self there, Option.getD_some]
  · rw [if_neg hi]
    by_cases hl : i < f.streams.length
    · rw [if_pos hl]
      simp only [stream, run, store]
      rw [List.getElem?_append_left (by simpa using hl),
        List.getElem?_set_ne (Ne.symm hi)]
    · rw [if_neg hl]
      simp only [stream, run, store]
      rw [List.getElem?_append_right (by simpa using hl), List.length_set]

/-- A stream that joins the family stands behind the others. -/
theorem stream_concat (s : RecordStream) (i : Nat) :
    ({ f with streams := f.streams ++ [s] } : StreamFamily).stream i
      = if i = f.streams.length then s else f.stream i := by
  simp only [stream]
  by_cases hi : i = f.streams.length
  · subst hi
    rw [if_pos rfl, List.getElem?_concat_length, Option.getD_some]
  · rw [if_neg hi]
    by_cases hl : i < f.streams.length
    · rw [List.getElem?_append_left hl]
    · rw [List.getElem?_eq_none (by simp; omega),
        List.getElem?_eq_none (by omega)]

/-- Behind the last place there is a stream that was closed before anyone
used it. -/
theorem stream_of_length_le {i : Nat} (h : f.streams.length ≤ i) :
    f.stream i = RecordStream.unbounded.close := by
  rw [stream, List.getElem?_eq_none h, Option.getD_none]

end StreamFamily

-- ===================================================== invariants of runs

namespace Traffic

/-- What one act preserves, a run preserves. `P` speaks of the history so
far and of what is left; an act adds at most one entry, that of a stream
made or that of a critical section. -/
theorem run_induction
    {P : List StreamEvent → StreamFamily → Prop}
    (made : ∀ h f capacity, P h f →
      P (h ++ [.made (.fresh capacity)])
        { f with streams := f.streams ++ [.fresh capacity] })
    (ran : ∀ h f place op now, P h f → place < f.streams.length →
      P (h ++ [.ran place (f.stream place) op (f.run now place op).1])
        (f.run now place op).2)
    (acts : List StreamAct) :
    ∀ (h : List StreamEvent) (t : Traffic), P h t.family →
      P (h ++ (t.run acts).1) (t.run acts).2.family := by
  have attempted : ∀ h (t : Traffic) place op now, P h t.family →
      P (h ++ (t.attempt place op now).1)
        (t.attempt place op now).2.family := by
    intro h t place op now hp
    unfold attempt
    split
    · next there => exact ran h t.family place op now hp there
    · rw [List.append_nil]
      exact hp
  have acted : ∀ h (t : Traffic) a, P h t.family →
      P (h ++ (t.act a).1) (t.act a).2.family := by
    intro h t a hp
    cases a with
    | make capacity => exact made h t.family capacity hp
    | call place op now => exact attempted h t place op now hp
    | look sleeper now =>
        simp only [act]
        split
        · rw [List.append_nil]
          exact hp
        · next place op _ => exact attempted h _ place op now hp
  induction acts with
  | nil =>
      intro h t hp
      rw [run, List.append_nil]
      exact hp
  | cons a rest ih =>
      intro h t hp
      rw [run, ← List.append_assoc]
      exact ih _ _ (acted h t a hp)

end Traffic

end PluginRpc
