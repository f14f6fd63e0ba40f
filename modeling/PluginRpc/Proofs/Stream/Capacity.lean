/-
How much a stream buffers.

A stream without bound is never full. A bounded one is made with room for
at least one record, buffers no more than it has room for, and keeps its
bound for life; a stream that another one is moved into inherits both. So
a full stream holds something, and one record taken from it is room for
one other.
-/
import PluginRpc.Proofs.Stream.Lifecycle
import PluginRpc.Proofs.Stream.Traffic

namespace PluginRpc.RecordStream

variable {s s' : RecordStream} {op : StreamOp} {answer : StreamReply}

-- ====================================================== reading the tests

theorem isFull_iff (s : RecordStream) :
    s.isFull = true ↔ s.state = .live ∧ s.atCapacity = true := by
  rw [isFull, Bool.and_eq_true, isLive_iff]

theorem isDry_iff (s : RecordStream) :
    s.isDry = true ↔ s.queue = [] ∧ s.state = .live := by
  rw [isDry, Bool.not_eq_true', not_isReadable_iff]

/-- A stream is at its bound if it has one and there is no room left. -/
theorem atCapacity_iff (s : RecordStream) :
    s.atCapacity = true
      ↔ ∃ n, s.capacity = some n ∧ n ≤ s.queue.length := by
  unfold atCapacity
  cases s.capacity <;> simp

-- ============================================================== the bound

/-- A stream has room for something, and buffers no more than it has room
for. -/
structure Fits (s : RecordStream) : Prop where
  roomy : s.capacity ≠ some 0
  within : ∀ n, s.capacity = some n → s.queue.length ≤ n

theorem fits_fresh (capacity : Option Nat) : Fits (fresh capacity) := by
  cases capacity with
  | none => exact ⟨nofun, nofun⟩
  | some n =>
      have one : max n 1 ≠ 0 := by omega
      exact ⟨fun none => one (Option.some.inj none),
        fun _ _ => Nat.zero_le _⟩

/-- How much a stream may buffer is settled when it is made. -/
theorem Effect.capacity_eq (e : Effect s op answer s') :
    s'.capacity = s.capacity := by
  cases e <;> rfl

theorem Effect.fits (e : Effect s op answer s') (h : Fits s) : Fits s' := by
  refine ⟨by rw [e.capacity_eq]; exact h.roomy, fun n bound => ?_⟩
  rw [e.capacity_eq] at bound
  have within := h.within n bound
  cases e with
  | accepted r live room =>
      -- where there was no room the push would have had to wait
      have below : ¬ n ≤ s.queue.length := fun full => by
        rw [s.atCapacity_iff.2 ⟨n, bound, full⟩] at room
        cases room
      rw [List.length_append, List.length_singleton]
      omega
  | took pull first =>
      rw [first, List.length_cons] at within
      exact Nat.le_of_succ_le within
  | closed => exact Nat.zero_le _
  | moved => exact Nat.zero_le _
  | _ => exact within

theorem Fits.after (h : Fits s) (turns : List StreamTurn) :
    Fits (s.after turns) :=
  after_induction (fun _ _ _ _ e => e.fits) turns s h

-- =========================================================== full streams

theorem bounded_of_atCapacity (full : s.atCapacity = true) :
    s.capacity.isSome = true := by
  obtain ⟨n, bound, -⟩ := s.atCapacity_iff.1 full
  rw [bound]
  rfl

/-- A full stream holds something, and behind its first record it has
room. -/
theorem Fits.room_behind_first (h : Fits s) (full : s.atCapacity = true) :
    ∃ first rest, s.queue = first :: rest
      ∧ ({ s with queue := rest } : RecordStream).atCapacity = false := by
  obtain ⟨n, bound, most⟩ := s.atCapacity_iff.1 full
  have within := h.within n bound
  cases hq : s.queue with
  | nil =>
      rw [hq, List.length_nil, Nat.le_zero] at most
      exact absurd (bound.trans (congrArg some most)) h.roomy
  | cons first rest =>
      refine ⟨first, rest, rfl, ?_⟩
      rw [← Bool.not_eq_true, atCapacity_iff]
      rintro ⟨m, bound', most'⟩
      have same : n = m := Option.some.inj (bound.symm.trans bound')
      rw [hq, List.length_cons] at within
      simp only at most'
      omega

end PluginRpc.RecordStream
