/-
The versions of a rehearsal: numbers that count up.
-/
import RelayFleet.Text.Decimal

namespace RelayFleet

/-- The version after a version; that of something new, or after what is no number, is the first. -/
def nextVersion (version : Option String) : String :=
  toString ((version.bind Decimal.word64?).getD 0 + 1)

end RelayFleet
