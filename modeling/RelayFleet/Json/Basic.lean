/-
JSON values. A number is an integer, or it keeps the spelling it was read with: no rule of this
library computes with a fraction, and several of them tell `1` from `1.0`.
-/
namespace RelayFleet

/-- A JSON value. Members keep the order and the repetitions of their source. -/
inductive Json where
  | null
  | bool (value : Bool)
  | int (value : Int)
  /-- A number that is not written as an integer, by its spelling. -/
  | real (spelling : String)
  | str (value : String)
  | arr (items : List Json)
  | obj (members : List (String × Json))
  /-- Well-formed text that stands for no value: a string, or a member's name, with half of a
  surrogate pair in it. -/
  | unreadable
deriving Inhabited

namespace Json

/-- A string or nothing at all. -/
def ofText? (s : Option String) : Json := s.elim .null .str

/-- A natural number. -/
def nat (n : Nat) : Json := .int n

/-- A value, or null for none. -/
def orNull {α : Type} (encode : α → Json) (value : Option α) : Json := value.elim .null encode

/-- A list of values. -/
def list {α : Type} (encode : α → Json) (l : List α) : Json := .arr (l.map encode)

/-- The object of the members that are present. -/
def present (members : List (String × Option Json)) : Json :=
  .obj (members.filterMap fun m => m.2.map (m.1, ·))

/-- An object with further members; the other kinds of value as they are. -/
def extended (j : Json) (more : List (String × Json)) : Json :=
  match j with
  | .obj ms => .obj (ms ++ more)
  | j => j

/-- The members of an object that are present; nothing for the other kinds of value. -/
def members : Json → List (String × Json)
  | .obj ms => ms
  | _ => []

/-- The value of an object's last member of this name, if it has one and it is not null. -/
def get? (j : Json) (name : String) : Option Json :=
  match j.members.reverse.find? (·.1 == name) with
  | some (_, .null) => none
  | some (_, v) => some v
  | none => none

mutual

/-- Puts the members of every object into the order of their names. -/
def byName : Json → Json
  | .arr items => .arr (byNameList items)
  | .obj ms => .obj ((byNameEach ms).mergeSort fun a b => (compare a.1 b.1).isLE)
  | j => j

/-- The values of a list, each with its members in order. -/
def byNameList : List Json → List Json
  | [] => []
  | j :: rest => byName j :: byNameList rest

/-- The members of a list, the members of each value in order. -/
def byNameEach : List (String × Json) → List (String × Json)
  | [] => []
  | (name, j) :: rest => (name, byName j) :: byNameEach rest

end

end Json

end RelayFleet
