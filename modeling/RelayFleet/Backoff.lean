/-
The pauses between attempts at something that keeps failing. They grow by a ratio up to a longest
one. Chance spreads them, so a backoff gives what they are before that, and the bounds within which
they are then.
-/
namespace RelayFleet

/-- How the pauses between attempts grow: by a ratio after every pause, up to a longest one. Times
are nanoseconds. -/
structure Backoff where
  first : Nat
  longest : Nat
  growth : Nat × Nat := (2, 1)
deriving DecidableEq, Inhabited

namespace Backoff

/-- How it goes on after the first pause. -/
def grown (b : Backoff) : Backoff :=
  { b with first := min (b.first * b.growth.1 / b.growth.2) b.longest }

/-- The pauses before chance has spread them, in order. -/
def pauses (b : Backoff) : Nat → List Nat
  | 0 => []
  | n + 1 => b.first :: b.grown.pauses n

/-- The pause that comes after a number of others. -/
def pause (b : Backoff) : Nat → Nat
  | 0 => b.first
  | n + 1 => b.grown.pause n

/-- The shortest and the longest that a number of pauses may take together, in half nanoseconds:
chance leaves between half of a pause and one and a half. -/
def spread (b : Backoff) (n : Nat) : Nat × Nat :=
  let total := (b.pauses n).foldl Nat.add 0
  (total, 3 * total)

end Backoff

end RelayFleet
