/-
The text of JSON values: `Json.render` writes a value without spaces, and `Json.parse?` reads one
value and refuses anything after it. Both go through the token sequence of a value, `Json.tokens`.
The reader keeps what it is inside of on a stack of its own, so the depth of nesting is free.
-/
import RelayFleet.Json.Token

namespace RelayFleet.Json

/-! ## Writing -/

mutual

/-- The tokens of a value, in front of what follows them. -/
def tokens : Json → List Token → List Token
  | .null, rest => .null :: rest
  | .bool b, rest => .bool b :: rest
  | .int n, rest => .int n :: rest
  | .real s, rest => .real s :: rest
  | .str s, rest => .text (some s) :: rest
  | .arr [], rest => .openArray :: .closeArray :: rest
  | .arr (j :: items), rest => .openArray :: tokens j (itemTokens items rest)
  | .obj [], rest => .openObject :: .closeObject :: rest
  | .obj ((name, j) :: ms), rest =>
    .openObject :: .text (some name) :: .colon :: tokens j (memberTokens ms rest)
  | .unreadable, rest => .text none :: rest

/-- The tokens of the items after an array's first. -/
def itemTokens : List Json → List Token → List Token
  | [], rest => .closeArray :: rest
  | j :: items, rest => .comma :: tokens j (itemTokens items rest)

/-- The tokens of the members after an object's first. -/
def memberTokens : List (String × Json) → List Token → List Token
  | [], rest => .closeObject :: rest
  | (name, j) :: ms, rest =>
    .comma :: .text (some name) :: .colon :: tokens j (memberTokens ms rest)

end

/-- The text of a value, without spaces. -/
def render (j : Json) : String :=
  String.ofList ((j.tokens []).foldr Token.spell [])

/-! ## Reading -/

/-- An array or object that has been opened: what it holds so far, last first. -/
inductive Opened where
  | array (items : List Json)
  | object (members : List (String × Json)) (sound : Bool)
  | member (members : List (String × Json)) (sound : Bool) (name : String)

/-- What may come next. -/
inductive Expected where
  | value
  | valueOrClose
  | name
  | nameOrClose
  | colon
  | end

/-- What the reader is inside of, innermost first, what may come next, and the value read last. -/
structure Parse where
  opened : List Opened := []
  expected : Expected := .value
  value : Json := .null

namespace Parse

/-- Puts a finished value where it belongs. -/
def deliver? (p : Parse) (j : Json) : Option Parse :=
  match p.opened with
  | [] => some { opened := [], expected := .end, value := j }
  | .array items :: outer => some { opened := .array (j :: items) :: outer, expected := .end }
  | .member ms sound name :: outer =>
    some { opened := .object ((name, j) :: ms) sound :: outer, expected := .end }
  | .object .. :: _ => none

/-- Ends the innermost array or object. -/
def close? (p : Parse) (t : Token) : Option Parse :=
  match t, p.opened with
  | .closeArray, .array items :: outer => { p with opened := outer }.deliver? (.arr items.reverse)
  | .closeObject, .object ms sound :: outer =>
    { p with opened := outer }.deliver? (if sound then .obj ms.reverse else .unreadable)
  | _, _ => none

/-- Reads a token where a value is due. -/
def value? (p : Parse) (t : Token) : Option Parse :=
  match t with
  | .null => p.deliver? .null
  | .bool b => p.deliver? (.bool b)
  | .int n => p.deliver? (.int n)
  | .real s => p.deliver? (.real s)
  | .text s => p.deliver? (s.elim .unreadable .str)
  | .openArray => some { p with opened := .array [] :: p.opened, expected := .valueOrClose }
  | .openObject => some { p with opened := .object [] true :: p.opened, expected := .nameOrClose }
  | _ => none

/-- Reads a token where a member's name is due. -/
def name? (p : Parse) (t : Token) : Option Parse :=
  match t, p.opened with
  | .text (some name), .object ms sound :: outer =>
    some { p with opened := .member ms sound name :: outer, expected := .colon }
  | .text none, .object ms _ :: outer =>
    some { p with opened := .member ms false "" :: outer, expected := .colon }
  | _, _ => none

/-- Reads one token. -/
def step? (p : Parse) (t : Token) : Option Parse :=
  match p.expected with
  | .value => p.value? t
  | .valueOrClose => if t = .closeArray then p.close? t else p.value? t
  | .name => p.name? t
  | .nameOrClose => if t = .closeObject then p.close? t else p.name? t
  | .colon => if t = .colon then some { p with expected := .value } else none
  | .end =>
    match t, p.opened with
    | .comma, .array _ :: _ => some { p with expected := .value }
    | .comma, .object .. :: _ => some { p with expected := .name }
    | t, _ => p.close? t

/-- The value, once everything opened is closed. -/
def finish? (p : Parse) : Option Json :=
  match p.opened, p.expected with
  | [], .end => some p.value
  | _, _ => none

end Parse

/-- The value of a sequence of tokens. -/
def ofTokens? (ts : List Token) : Option Json :=
  (ts.foldlM Parse.step? {}).bind Parse.finish?

/-- The value that a text writes. -/
def parse? (text : String) : Option Json :=
  (Token.scan text.toList).bind ofTokens?

end RelayFleet.Json
