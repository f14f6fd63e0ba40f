/-
The monotonic clock.

Instants and spans are whole nanoseconds. The clock has a last instant,
as every clock with a finite counter has; a span that reaches past it has
no instant at its end, and whoever asked for a limit that far away has
asked for no limit. `after?` says so by returning nothing, so every user
of a timeout treats the case alike.
-/

namespace PluginRpc

/-- A span of time, in nanoseconds. -/
abbrev Span := Nat

/-- A reading of the monotonic clock, in nanoseconds. -/
abbrev Instant := Nat

namespace Instant

/-- The first number of nanoseconds that is no reading of the clock: its
seconds are counted in 63 bits. -/
def limit : Nat := Nat.pow 2 63 * 1000000000

/-- The instant a span after `now`, if the clock can ever show it. -/
def after? (now : Instant) (span : Span) : Option Instant :=
  if now + span < limit then some (now + span) else none

end Instant

namespace Span

def zero : Span := 0

def ofMilliseconds (n : Nat) : Span := n * 1000000

/-- One hour. -/
def hour : Span := 3600 * 1000000000

/-- The longest span that can be written: 64 bits of seconds and a
fraction just short of one more. -/
def longest : Span := Nat.pow 2 64 * 1000000000 - 1

/-- No reading of the clock lies the longest span ahead. -/
theorem after?_longest (now : Instant) : Instant.after? now longest = none := by
  have far : Instant.limit ≤ longest := by decide
  exact if_neg (Nat.not_lt.2 (Nat.le_trans far (Nat.le_add_left ..)))

end Span

end PluginRpc
