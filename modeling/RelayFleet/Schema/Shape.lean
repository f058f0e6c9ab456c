/-
Shapes of JSON values. A shape says what a value has to look like to be read as an object of the
API, what is held of it, and what is written back of it, although most of its members are not looked
at in between. Members that a record does not name are ignored whatever they hold, and a member that
is null counts as absent.
-/
import RelayFleet.Json.Record
import RelayFleet.Json.Kept
import RelayFleet.Time.Timestamp
import RelayFleet.SortedMap

namespace RelayFleet

/-! ## Bytes in texts -/

namespace Base64

/-- The six bits of a letter. -/
def sextet? (c : Char) : Option Nat :=
  if 'A' ≤ c ∧ c ≤ 'Z' then some (c.toNat - 'A'.toNat)
  else if 'a' ≤ c ∧ c ≤ 'z' then some (c.toNat - 'a'.toNat + 26)
  else if '0' ≤ c ∧ c ≤ '9' then some (c.toNat - '0'.toNat + 52)
  else if c = '+' then some 62
  else if c = '/' then some 63
  else none

/-- Whether letters are bytes in groups of four, the last one filled up with `=`. Bits that belong
to no byte are zero. -/
def accepts : List Char → Bool
  | [] => true
  | [a, b, '=', '='] => (sextet? a).isSome && (sextet? b).any fun n => n % 16 = 0
  | [a, b, c, '='] =>
    (sextet? a).isSome && (sextet? b).isSome && (sextet? c).any fun n => n % 4 = 0
  | a :: b :: c :: d :: rest => [a, b, c, d].all (fun l => (sextet? l).isSome) && accepts rest
  | _ => false

end Base64

/-! ## Shapes -/

/-- What a value looks like. -/
inductive Shape where
  /-- Any value that can be kept. -/
  | anything
  | text
  /-- One given text, and not null. -/
  | exactly (expected : String)
  | flag
  | int32
  | int64
  /-- The text of a moment. -/
  | moment
  /-- A text that writes bytes. -/
  | bytes
  /-- A small integer or a text. -/
  | intOrText
  | list (item : Shape)
  /-- An object with any names. -/
  | table (value : Shape)
  /-- An object with some known members. -/
  | record (members : List (String × Shape))
  /-- A member without parts that is written even if it was absent, and then is empty. -/
  | always (shape : Shape)
  /-- A member that has to be there, and not null. -/
  | required (shape : Shape)
deriving Inhabited

namespace Shape

/-- The shape of a member, whether or not it is always written or has to be there. -/
def bare : Shape → Shape
  | always shape => shape
  | required shape => shape
  | shape => shape

/-- Whether a member of this shape has to be there. -/
def isRequired : Shape → Bool
  | required _ => true
  | _ => false

/-- Whether null stands for an absent member of this shape. -/
def isOptional : Shape → Bool
  | exactly _ => false
  | _ => true

/-- Whether null stands for an item of this shape: no bytes at all, unless the value was set aside
before. -/
def hasEmptyItem (how : Json.Reading) : Shape → Bool
  | bytes => how = .direct
  | anything => true
  | _ => false

/-- Whether a value without parts has a shape. -/
def admitsPlain (s : Shape) (j : Json) : Bool :=
  match s with
  | text => j.text?.isSome
  | exactly expected => j.text? == some expected
  | flag => j.flag?.isSome
  | int32 => j.int32?.isSome
  | int64 => j.int64?.isSome
  | moment => (j.text?.bind Timestamp.parse?).isSome
  | bytes => (j.text?.map fun t => Base64.accepts t.toList).getD false
  | intOrText => j.int32?.isSome || j.text?.isSome
  | _ => false

mutual

/-- Whether a value has a shape, with so many levels of nesting left. -/
def admitsWithin (how : Json.Reading) : Nat → Shape → Json → Bool
  | depth, .anything, j => j.isKept depth
  | 0, _, .arr _ => false
  | depth + 1, .list item, .arr items => admitsItems how depth item items
  | 0, _, .obj _ => false
  | depth + 1, .table value, .obj ms => admitsValues how depth value ms
  | depth + 1, .record members, .obj ms =>
    admitsMembers how depth members ms &&
      members.all fun m => ! m.2.isRequired || ((Json.obj ms).get? m.1).isSome
  | _, s, j => s.admitsPlain j

/-- Whether all items of a list have a shape. -/
def admitsItems (how : Json.Reading) : Nat → Shape → List Json → Bool
  | _, _, [] => true
  | depth, item, .null :: rest => item.hasEmptyItem how && admitsItems how depth item rest
  | depth, item, j :: rest => admitsWithin how depth item j && admitsItems how depth item rest

/-- Whether the values of all members have a shape. -/
def admitsValues (how : Json.Reading) : Nat → Shape → List (String × Json) → Bool
  | _, _, [] => true
  | depth, value, (_, .null) :: rest => value.hasEmptyItem how && admitsValues how depth value rest
  | depth, value, (_, j) :: rest =>
    admitsWithin how depth value j && admitsValues how depth value rest

/-- Whether all members that a record names have their shapes. -/
def admitsMembers (how : Json.Reading) :
    Nat → List (String × Shape) → List (String × Json) → Bool
  | _, _, [] => true
  | depth, members, (name, .null) :: rest =>
    (members.lookup name).all isOptional && admitsMembers how depth members rest
  | depth, members, (name, j) :: rest =>
    (match members.lookup name with
      | some shape => admitsWithin how depth shape.bare j
      | none => true) && admitsMembers how depth members rest

end

/-- Whether a value has a shape. -/
def admits (how : Json.Reading) (s : Shape) (j : Json) : Bool :=
  s.admitsWithin how Json.maxDepth j

/-! ### Holding and writing back -/

/-- The empty value of a shape without parts. -/
def empty : Shape → Json
  | flag => .bool false
  | int32 => .int 0
  | int64 => .int 0
  | _ => .str ""

/-- The members that there are of a record, in the order in which it names them; those that are
always written are there. -/
def complete (members : List (String × Shape)) (ms : List (String × Json)) :
    List (String × Json) :=
  members.filterMap fun (name, shape) =>
    match ms.reverse.lookup name, shape with
    | some j, _ => some (name, j)
    | none, always shape => some (name, shape.empty)
    | none, _ => none

mutual

/-- What there is of a value that has a shape, its moments spelled in some way. -/
def spelled (spell : Timestamp → String) : Shape → Json → Json
  | .anything, j => j.byName
  | .bytes, .null => .str ""
  | .moment, .str t => .str (((Timestamp.parse? t).map spell).getD t)
  | .list item, .arr items => .arr (spelledItems spell item items)
  | .table value, .obj ms => .obj (SortedMap.ofList (spelledValues spell value ms)).toList
  | .record members, .obj ms => .obj (complete members (spelledMembers spell members ms))
  | _, j => j

/-- What there is of the items of a list. -/
def spelledItems (spell : Timestamp → String) : Shape → List Json → List Json
  | _, [] => []
  | item, j :: rest => spelled spell item j :: spelledItems spell item rest

/-- What there is of the members of a table. -/
def spelledValues (spell : Timestamp → String) :
    Shape → List (String × Json) → List (String × Json)
  | _, [] => []
  | value, (name, j) :: rest => (name, spelled spell value j) :: spelledValues spell value rest

/-- What there is of the members of a record. -/
def spelledMembers (spell : Timestamp → String) :
    List (String × Shape) → List (String × Json) → List (String × Json)
  | _, [] => []
  | members, (_, .null) :: rest => spelledMembers spell members rest
  | members, (name, j) :: rest =>
    match members.lookup name with
    | some shape => (name, spelled spell shape.bare j) :: spelledMembers spell members rest
    | none => spelledMembers spell members rest

end

/-- What is held of the members of a record that are not among those of some names: moments keep
their fractions. -/
def others (s : Shape) (names : List String) (j : Json) : List (String × Json) :=
  (s.spelled Timestamp.toText j).members.filter fun m => ! names.contains m.1

/-- What is written back of members of a record that are held: moments in whole seconds. -/
def written (s : Shape) (held : List (String × Json)) : List (String × Json) :=
  (s.spelled Timestamp.toSecondsText (.obj held)).members

/-! ### Short forms -/

/-- Texts. -/
def texts : Shape := .list .text

/-- Names with texts. -/
def textTable : Shape := .table .text

/-- A record whose members are all texts. -/
def textsNamed (names : List String) : Shape := .record (names.map (·, .text))

/-- A list of records. -/
def records (members : List (String × Shape)) : Shape := .list (.record members)

/-- The members of these names, of one shape. -/
def each (shape : Shape) (names : List String) : List (String × Shape) := names.map (·, shape)

end Shape

end RelayFleet
