/-
The text forms of IP addresses. Of version 4, four numbers without zeros in front; of version 6,
eight groups of hexadecimal digits, where one `::` stands for at least one group of zeros and the
last two groups may be written as an address of version 4.
-/
import RelayFleet.Text.Ascii

namespace RelayFleet.IpAddress

/-- Takes a number up to 255 off the front, in at most three digits and without a zero in front. -/
def octet? (cs : List Char) : Option (List Char) :=
  let digits := cs.takeWhile Char.isDigit
  if digits = [] ∨ 3 < digits.length ∨ (digits.head? = some '0' ∧ 1 < digits.length) ∨
      255 < Ascii.natOfDigits digits then none
  else some (cs.drop digits.length)

/-- Takes one given character off the front. -/
def mark? (c : Char) : List Char → Option (List Char)
  | d :: rest => if d = c then some rest else none
  | [] => none

/-- Takes an address of version 4 off the front. -/
def version4? (cs : List Char) : Option (List Char) := do
  let cs ← mark? '.' (← octet? cs)
  let cs ← mark? '.' (← octet? cs)
  let cs ← mark? '.' (← octet? cs)
  octet? cs

/-- Takes a group of one to four hexadecimal digits off the front. -/
def group? (cs : List Char) : Option (List Char) :=
  let digits := cs.takeWhile fun c => (Ascii.hexValue? c).isSome
  if digits = [] ∨ 4 < digits.length then none else some (cs.drop digits.length)

/-- Takes what follows a separator, which the first of several goes without. -/
def separated? (first : Bool) (item? : List Char → Option (List Char)) (cs : List Char) :
    Option (List Char) :=
  if first then item? cs else (mark? ':' cs).bind item?

/-- Takes groups off the front, up to a number of them: how many there are, whether the last two
came from an address of version 4, and what is left. -/
def groups (first : Bool) : (room : Nat) → List Char → Nat × Bool × List Char
  | 0, cs => (0, false, cs)
  | room + 1, cs =>
    match if room = 0 then none else separated? first version4? cs with
    | some rest => (2, true, rest)
    | none =>
      match separated? first group? cs with
      | some rest =>
        let (n, tail, rest) := groups false room rest
        (n + 1, tail, rest)
      | none => (0, false, cs)

/-- Takes an address of version 6 off the front. -/
def version6? (cs : List Char) : Option (List Char) :=
  let (n, tail, rest) := groups true 8 cs
  if n = 8 then some rest
  else if tail then none
  else do
    let rest ← mark? ':' (← mark? ':' rest)
    return (groups true (7 - n) rest).2.2

/-- Whether a text is an IP address. -/
def isAddress (s : String) : Bool :=
  ((version4? s.toList).orElse fun _ => version6? s.toList) == some []

end RelayFleet.IpAddress
