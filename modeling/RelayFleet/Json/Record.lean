/-
Reading records out of JSON values. Two families of records are read. A *strict* record is an
object whose known members occur at most once, or the list of its members' values in their declared
order; a member that has a default may be absent but not null. A *lenient* record is an object, and
a member of it that is null counts as absent.
-/
import RelayFleet.Json.Basic

namespace RelayFleet.Json

/-! ## Plain values -/

/-- A text. -/
def text? : Json → Option String
  | .str s => some s
  | _ => none

/-- A truth value. -/
def flag? : Json → Option Bool
  | .bool b => some b
  | _ => none

/-- An integer between two bounds, both included. -/
def intIn? (low high : Int) : Json → Option Int
  | .int n => if low ≤ n ∧ n ≤ high then some n else none
  | _ => none

/-- A natural number up to a bound, which is included. -/
def natUpTo? (high : Nat) (j : Json) : Option Nat := (j.intIn? 0 high).map Int.toNat

/-- A number of 32 bits without sign. -/
def word32? (j : Json) : Option Nat := j.natUpTo? 0xFFFFFFFF

/-- A number of 64 bits without sign. -/
def word64? (j : Json) : Option Nat := j.natUpTo? 0xFFFFFFFFFFFFFFFF

/-- A number of 16 bits without sign. -/
def word16? (j : Json) : Option UInt16 := (j.natUpTo? 0xFFFF).map UInt16.ofNat

/-- A number of 32 bits with a sign. -/
def int32? (j : Json) : Option Int32 := (j.intIn? (-0x80000000) 0x7FFFFFFF).map Int32.ofInt

/-- A number of 64 bits with a sign. -/
def int64? (j : Json) : Option Int64 :=
  (j.intIn? (-0x8000000000000000) 0x7FFFFFFFFFFFFFFF).map Int64.ofInt

/-- A list whose items all read. -/
def list? {α : Type} (item? : Json → Option α) : Json → Option (List α)
  | .arr items => items.mapM item?
  | _ => none

/-- An object as a list of names and values that all read; a repeated name is kept. -/
def pairs? {α : Type} (value? : Json → Option α) : Json → Option (List (String × α))
  | .obj ms => ms.mapM fun m => (value? m.2).map (m.1, ·)
  | _ => none

/-- How a value comes to be read: straight away, or after it has been set aside until it was known
what it is. -/
inductive Reading where
  | direct
  | deferred
deriving DecidableEq, Inhabited

/-- A choice of names: a text, or an object with one null member. In a value that was set aside the
member may also be an empty object. -/
def choice? {α : Type} (how : Reading) (named? : String → Option α) : Json → Option α
  | .str name => named? name
  | .obj [(name, .null)] => named? name
  | .obj [(name, .obj [])] => if how = .deferred then named? name else none
  | _ => none

/-! ## Members -/

/-- A member that has to be there. -/
def needed {α : Type} (value? : Json → Option α) (m : Option Json) : Option α := m.bind value?

/-- A member that may be absent or null. -/
def optional {α : Type} (value? : Json → Option α) : Option Json → Option (Option α)
  | none => some none
  | some .null => some none
  | some j => (value? j).map some

/-- A member that may be absent, but not null. -/
def defaulted {α : Type} (value? : Json → Option α) (default : α) : Option Json → Option α
  | none => some default
  | some j => value? j

/-- The value of an object's only member of this name, if it has one; no answer if it has two. -/
def onlyMember? (ms : List (String × Json)) (name : String) : Option (Option Json) :=
  match ms.filter (·.1 == name) with
  | [] => some none
  | [m] => some (some m.2)
  | _ => none

/-- The members of a strict record, in the order of their names. A list of them may end early, but
not before it has so many values. -/
def strict? (names : List String) (j : Json) (fewest : Nat := 0) : Option (List (Option Json)) :=
  match j with
  | .obj ms => names.mapM (onlyMember? ms)
  | .arr items =>
    if fewest ≤ items.length ∧ items.length ≤ names.length then
      some (items.map some ++ List.replicate (names.length - items.length) none)
    else none
  | _ => none

/-- The members of a lenient record, in the order of their names; null ones count as absent. -/
def lenient? (names : List String) : Json → Option (List (Option Json))
  | .obj ms => some (names.map (Json.obj ms).get?)
  | _ => none

end RelayFleet.Json
