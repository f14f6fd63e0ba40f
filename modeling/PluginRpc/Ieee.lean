/-
Floating-point slots, as bit patterns.

A float slot is carried bit for bit, NaN payloads included, so it is kept
as the word that holds it. Only the comparison of two slots needs the
meaning of the word, and only two facts of it: whether it is a NaN, which
equals nothing, and whether it is a zero, of which there are two that
equal each other. Any two other words are equal only if they are the same
word.
-/

namespace PluginRpc.Ieee

/-- An interchange format: the mask that drops the sign, and the pattern
of infinity, which is the largest sign-free pattern that is no NaN. -/
structure Format where
  magnitudeMask : Nat
  infinity : Nat

/-- Four-byte floats. -/
def single : Format := ⟨0x7fffffff, 0x7f800000⟩

/-- Eight-byte floats. -/
def double : Format := ⟨0x7fffffffffffffff, 0x7ff0000000000000⟩

namespace Format

variable (f : Format)

/-- The pattern without its sign. -/
def magnitude (bits : Nat) : Nat := bits &&& f.magnitudeMask

/-- A pattern above infinity stands for no number. -/
def isNaN (bits : Nat) : Bool := f.infinity < f.magnitude bits

/-- Plus zero or minus zero. -/
def isZero (bits : Nat) : Bool := f.magnitude bits == 0

/-- The comparison of two floats by their patterns: no NaN equals
anything, the two zeros equal each other. -/
def equal (a b : Nat) : Bool :=
  !f.isNaN a && !f.isNaN b && (a == b || (f.isZero a && f.isZero b))

end Format

end PluginRpc.Ieee
