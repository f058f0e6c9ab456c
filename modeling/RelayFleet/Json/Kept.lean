/-
What is kept of a value that is set aside before it is known what it is. Texts and nesting have to
be sound, and numbers have to be within bounds. An integer that does not fit into 64 bits is a
number of double precision, like all numbers that are not written as integers; of several members of
one name only the last is kept. Zero has a sign, which does not count when values are compared.
-/
import RelayFleet.Json.Basic
import RelayFleet.Text.Double

namespace RelayFleet.Json

/-! ## Values that can be kept -/

/-- How deep arrays and objects of a value may be nested that is kept. -/
def maxDepth : Nat := 127

/-- Whether an integer fits into 64 bits, with a sign or without. -/
def isWord (n : Int) : Bool := -0x8000000000000000 ≤ n && n < UInt64.size

mutual

/-- Whether a value can be kept, with so many levels of nesting left. -/
def isKept : Nat → Json → Bool
  | _, .null => true
  | _, .bool _ => true
  | _, .int n => isWord n || (Double.ofText? (toString n)).isSome
  | _, .real spelling => (Double.ofText? spelling).isSome
  | _, .str _ => true
  | _, .unreadable => false
  | 0, .arr _ => false
  | depth + 1, .arr items => areKept depth items
  | 0, .obj _ => false
  | depth + 1, .obj ms => membersKept depth ms

/-- Whether all items can be kept. -/
def areKept : Nat → List Json → Bool
  | _, [] => true
  | depth, j :: rest => isKept depth j && areKept depth rest

/-- Whether the values of all members can be kept. -/
def membersKept : Nat → List (String × Json) → Bool
  | _, [] => true
  | depth, (_, j) :: rest => isKept depth j && membersKept depth rest

end

/-! ## Keeping them -/

/-- The spelling of a number of double precision by the shortest decimal; a spelling that stands for
no number stays as it is. -/
def keptSpelling (spelling : String) : String :=
  match Double.ofText? spelling with
  | some x => if spelling.startsWith "-" then "-" ++ x.text else x.text
  | none => spelling

/-- Keeps the last of the members of one name, at the place of the last. -/
def dropRepeated : List (String × Json) → List (String × Json) → List (String × Json)
  | [], kept => kept
  | m :: rest, kept => dropRepeated rest (kept.filter (·.1 != m.1) ++ [m])

mutual

/-- What is kept of a value. -/
def kept : Json → Json
  | .int n => if isWord n then .int n else .real (keptSpelling (toString n))
  | .real spelling => .real (keptSpelling spelling)
  | .arr items => .arr (keptItems items)
  | .obj ms => .obj (dropRepeated (keptMembers ms) [])
  | j => j

/-- What is kept of the items of a list. -/
def keptItems : List Json → List Json
  | [] => []
  | j :: rest => kept j :: keptItems rest

/-- What is kept of the values of members. -/
def keptMembers : List (String × Json) → List (String × Json)
  | [] => []
  | (name, j) :: rest => (name, kept j) :: keptMembers rest

end

/-! ## Comparing them -/

/-- The spelling by which a number is compared that is not an integer: zero has no sign. -/
def comparableSpelling (spelling : String) : String :=
  if (Double.ofText? spelling).any (·.mantissa = 0) then "0.0" else spelling

mutual

/-- A kept value as it is compared. -/
def comparable : Json → Json
  | .real spelling => .real (comparableSpelling spelling)
  | .arr items => .arr (comparableItems items)
  | .obj ms => .obj (comparableMembers ms)
  | j => j

/-- The items of a list as they are compared. -/
def comparableItems : List Json → List Json
  | [] => []
  | j :: rest => comparable j :: comparableItems rest

/-- Members as they are compared. -/
def comparableMembers : List (String × Json) → List (String × Json)
  | [] => []
  | (name, j) :: rest => (name, comparable j) :: comparableMembers rest

end

end RelayFleet.Json
