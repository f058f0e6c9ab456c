/-
Moments in UTC and their text, `2024-06-01T12:30:45.123Z`. Reading is generous: one or two digits
for a part, a space or a small `t` between date and time, blanks before a part, an offset with or
without a colon. Writing has one form. A leap second is kept apart from the second after it.
-/
import RelayFleet.Time.Calendar
import RelayFleet.Text.Ascii
import RelayFleet.Text.Blank

namespace RelayFleet

/-- A moment: seconds since the beginning of 1970 and nanoseconds after that. Within a leap second
the nanoseconds run on past a whole second. -/
structure Timestamp where
  seconds : Int
  nanos : Nat := 0
deriving DecidableEq, Inhabited

namespace Timestamp

/-- Nanoseconds of one second. -/
def second : Nat := 1000000000

/-! ## Reading -/

/-- Takes one to `width` digits off the front. -/
def number? (width : Nat) (cs : List Char) : Option (Nat × List Char) :=
  let digits := (cs.take width).takeWhile Char.isDigit
  if digits = [] then none else some (Ascii.natOfDigits digits, cs.drop digits.length)

/-- Takes a number after blanks. -/
def part? (width : Nat) (cs : List Char) : Option (Nat × List Char) :=
  number? width (Blank.skip cs)

/-- Takes one given character after blanks. -/
def mark? (c : Char) (cs : List Char) : Option (List Char) :=
  match Blank.skip cs with
  | d :: rest => if d = c then some rest else none
  | [] => none

/-- Takes a year: at most four digits, or any number of them after a sign. -/
def year? (cs : List Char) : Option (Int × List Char) :=
  match Blank.skip cs with
  | '-' :: rest => (number? rest.length rest).map fun (n, r) => (-(n : Int), r)
  | '+' :: rest => (number? rest.length rest).map fun (n, r) => ((n : Int), r)
  | cs => (number? 4 cs).map fun (n, r) => ((n : Int), r)

/-- Takes a fraction of a second, in nanoseconds; digits after the ninth are dropped. -/
def fraction? : List Char → Option (Nat × List Char)
  | '.' :: cs =>
    let digits := cs.takeWhile Char.isDigit
    if digits = [] then none
    else
      let kept := digits.take 9
      some (Ascii.natOfDigits kept * Nat.pow 10 (9 - kept.length), cs.drop digits.length)
  | cs => some (0, cs)

/-- Takes an offset from UTC, in seconds. -/
def offset? : List Char → Option (Int × List Char)
  | 'Z' :: rest => some (0, rest)
  | 'z' :: rest => some (0, rest)
  | u :: t :: c :: rest =>
    if Ascii.upper (String.ofList [u, t, c]) = "UTC" then some (0, rest)
    else do
      let sign : Int ←
        if u = '+' then some 1 else if u = '-' ∨ u = '\u2212' then some (-1) else none
      let hour ← if t.isDigit ∧ c.isDigit then some (Ascii.natOfDigits [t, c]) else none
      match rest.dropWhile fun d => d == ':' || Blank.isBlank d with
      | m :: n :: rest =>
        if m.isDigit ∧ n.isDigit ∧ m.toNat < '6'.toNat then
          some (sign * (hour * 3600 + Ascii.natOfDigits [m, n] * 60), rest)
        else none
      | _ => none
  | _ => none

/-- The first and the last year that a moment may fall into. -/
def yearBounds : Int × Int := (-262143, 262142)

/-- The moment of a day, an hour, a minute, a second up to 60, and nanoseconds, at an offset. -/
def of? (day : CivilDay) (hour minute sec nanos : Nat) (offset : Int) : Option Timestamp :=
  if hour < 24 ∧ minute < 60 ∧ sec ≤ 60 ∧ -86400 < offset ∧ offset < 86400 then
    let (sec, nanos) := if sec = 60 then (59, nanos + second) else (sec, nanos)
    let seconds := day.toDays * 86400 + hour * 3600 + minute * 60 + sec - offset
    let utc := (CivilDay.ofDays (seconds / 86400)).year
    if yearBounds.1 ≤ day.year ∧ day.year ≤ yearBounds.2 ∧ yearBounds.1 ≤ utc ∧
        utc ≤ yearBounds.2 then
      some ⟨seconds, nanos⟩
    else none
  else none

/-- The moment that a text writes. -/
def parse? (s : String) : Option Timestamp := do
  let (year, cs) ← year? s.toList
  let cs ← mark? '-' cs
  let (month, cs) ← part? 2 cs
  let cs ← mark? '-' cs
  let (day, cs) ← part? 2 cs
  let cs ← match cs with
    | 'T' :: rest => some rest
    | 't' :: rest => some rest
    | ' ' :: rest => some rest
    | _ => none
  let (hour, cs) ← part? 2 cs
  let cs ← mark? ':' cs
  let (minute, cs) ← part? 2 cs
  let cs ← mark? ':' cs
  let (sec, cs) ← part? 2 cs
  let (nanos, cs) ← fraction? cs
  let (offset, cs) ← offset? (Blank.skip cs)
  if Blank.skip cs = [] then
    of? (← CivilDay.of? year month day) hour minute sec nanos offset
  else none

/-! ## Writing -/

/-- A year: four digits, or a sign and at least four digits outside of the years 0 to 9999. -/
def yearText (year : Int) : String :=
  if 0 ≤ year ∧ year ≤ 9999 then Ascii.padded 4 year.toNat
  else (if year < 0 then "-" else "+") ++ Ascii.padded 4 year.natAbs

/-- Date and time of day, down to the second. -/
def wholeText (t : Timestamp) : String :=
  let day := CivilDay.ofDays (t.seconds / 86400)
  let clock := (t.seconds % 86400).toNat
  let sec := clock % 60 + (if second ≤ t.nanos then 1 else 0)
  yearText day.year ++ "-" ++ Ascii.padded 2 day.month ++ "-" ++ Ascii.padded 2 day.day ++ "T" ++
    Ascii.padded 2 (clock / 3600) ++ ":" ++ Ascii.padded 2 (clock / 60 % 60) ++ ":" ++
    Ascii.padded 2 sec

/-- A fraction of a second: no digit, three, six or nine, the fewest that are exact. -/
def fractionText (nanos : Nat) : String :=
  if nanos = 0 then ""
  else if nanos % 1000000 = 0 then "." ++ Ascii.padded 3 (nanos / 1000000)
  else if nanos % 1000 = 0 then "." ++ Ascii.padded 6 (nanos / 1000)
  else "." ++ Ascii.padded 9 nanos

/-- The text of a moment. -/
def toText (t : Timestamp) : String := t.wholeText ++ fractionText (t.nanos % second) ++ "Z"

/-- The text of a moment without its fraction. -/
def toSecondsText (t : Timestamp) : String := t.wholeText ++ "Z"

end Timestamp

end RelayFleet
