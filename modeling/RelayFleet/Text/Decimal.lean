/-
Counters in texts: decimal numbers with a bound.
-/
import RelayFleet.Text.Ascii

namespace RelayFleet.Decimal

/-- The number below 2^64 that a text writes: digits, after a plus sign or not. -/
def word64? (s : String) : Option Nat :=
  let digits := match s.toList with
    | '+' :: rest => rest
    | cs => cs
  if digits ≠ [] ∧ digits.all Char.isDigit then
    let n := Ascii.natOfDigits digits
    if n < UInt64.size then some n else none
  else none

end RelayFleet.Decimal
