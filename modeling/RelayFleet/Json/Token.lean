/-
The tokens of JSON text. `Token.scan` cuts text into tokens and refuses what no token can hold: a
stray letter, a malformed number, a raw control character or an unknown escape inside a string.
`Token.spell` writes one.
-/
import RelayFleet.Json.Basic
import RelayFleet.Text.Ascii

namespace RelayFleet.Json

/-- One token of JSON text. -/
inductive Token where
  | openObject
  | closeObject
  | openArray
  | closeArray
  | comma
  | colon
  | null
  | bool (value : Bool)
  | int (value : Int)
  | real (spelling : String)
  /-- A string; nothing when it holds half of a surrogate pair. -/
  | text (value : Option String)
deriving DecidableEq

namespace Token

/-! ## Numbers -/

/-- Takes the digits at the front. -/
def spanDigits (cs : List Char) : List Char × List Char := cs.span Char.isDigit

/-- Drops a fraction, if the text begins with one; nothing if it has no digit. -/
def dropFraction? : List Char → Option (List Char)
  | '.' :: rest =>
    match spanDigits rest with
    | ([], _) => none
    | (_, rest) => some rest
  | cs => some cs

/-- Drops an exponent, if the text begins with one; nothing if it has no digit. -/
def dropExponent? : List Char → Option (List Char)
  | c :: rest =>
    if c = 'e' ∨ c = 'E' then
      let unsigned := match rest with
        | '+' :: r => r
        | '-' :: r => r
        | r => r
      match spanDigits unsigned with
      | ([], _) => none
      | (_, rest) => some rest
    else some (c :: rest)
  | [] => some []

/-- The number that a spelling stands for. A zero does not begin a longer run of digits, and a
negative zero is no integer. -/
def number? (spelling : List Char) : Option Token := do
  let (negative, unsigned) := match spelling with
    | '-' :: rest => (true, rest)
    | cs => (false, cs)
  let (digits, rest) := spanDigits unsigned
  if digits = [] ∨ (digits.head? = some '0' ∧ digits ≠ ['0']) then none
  else if rest = [] then
    let n := Ascii.natOfDigits digits
    if negative then
      if n = 0 then some (.real "-0") else some (.int (-n))
    else some (.int n)
  else
    let rest ← dropFraction? rest
    let rest ← dropExponent? rest
    if rest = [] then some (.real (String.ofList spelling)) else none

/-- The literal that a run of letters stands for. -/
def literal? (letters : List Char) : Option Token :=
  if letters = ['n', 'u', 'l', 'l'] then some .null
  else if letters = ['t', 'r', 'u', 'e'] then some (.bool true)
  else if letters = ['f', 'a', 'l', 's', 'e'] then some (.bool false)
  else none

/-! ## Strings -/

/-- Where the reading of a string stands within an escape. -/
inductive Escape where
  | plain
  | backslash
  | hex (left : Nat) (value : Nat)

/-- A string being read: its characters so far, last first, whether all of them stand for text,
and a high surrogate that waits for its other half. -/
structure Quoted where
  chars : List Char := []
  sound : Bool := true
  high : Option Nat := none
  escape : Escape := .plain

namespace Quoted

/-- Adds a character. A high surrogate that waited has lost its other half. -/
def push (q : Quoted) (c : Char) : Quoted :=
  { chars := c :: q.chars, sound := q.sound && q.high.isNone }

/-- Adds the code unit of a `\u` escape. -/
def pushUnit (q : Quoted) (unit : Nat) : Quoted :=
  if 0xDC00 ≤ unit ∧ unit < 0xE000 then
    match q.high with
    | some high =>
      { chars := Char.ofNat (0x10000 + (high - 0xD800) * 0x400 + (unit - 0xDC00)) :: q.chars
        sound := q.sound }
    | none => { chars := q.chars, sound := false }
  else if 0xD800 ≤ unit ∧ unit < 0xDC00 then
    { chars := q.chars, sound := q.sound && q.high.isNone, high := some unit }
  else q.push (Char.ofNat unit)

/-- The text read, if all of it stands for text. -/
def finish (q : Quoted) : Token :=
  .text (if q.sound && q.high.isNone then some (String.ofList q.chars.reverse) else none)

end Quoted

/-- The character that a one-letter escape stands for. -/
def escaped? (c : Char) : Option Char :=
  if c = '"' ∨ c = '\\' ∨ c = '/' then some c
  else if c = 'b' then some '\x08'
  else if c = 'f' then some '\x0c'
  else if c = 'n' then some '\n'
  else if c = 'r' then some '\r'
  else if c = 't' then some '\t'
  else none

/-! ## Scanning -/

/-- The token in the middle of which the scan stands. -/
inductive Pending where
  | nothing
  | letters (read : List Char)
  | number (read : List Char)
  | text (read : Quoted)

/-- The tokens read so far, last first, and the one being read. -/
structure Scan where
  tokens : List Token := []
  pending : Pending := .nothing

namespace Scan

/-- Ends a run of letters or a number. -/
def settle? (s : Scan) : Option Scan :=
  match s.pending with
  | .nothing => some s
  | .letters read => (literal? read.reverse).map fun t => { tokens := t :: s.tokens }
  | .number read => (number? read.reverse).map fun t => { tokens := t :: s.tokens }
  | .text _ => none

/-- Reads a character where a token may begin. -/
def start? (s : Scan) (c : Char) : Option Scan :=
  let one (t : Token) : Option Scan := some { tokens := t :: s.tokens }
  if c = ' ' ∨ c = '\t' ∨ c = '\n' ∨ c = '\r' then some { s with pending := .nothing }
  else if c = '{' then one .openObject
  else if c = '}' then one .closeObject
  else if c = '[' then one .openArray
  else if c = ']' then one .closeArray
  else if c = ',' then one .comma
  else if c = ':' then one .colon
  else if c = '"' then some { s with pending := .text {} }
  else if c = '-' ∨ c.isDigit then some { s with pending := .number [c] }
  else if c.isLower then some { s with pending := .letters [c] }
  else none

/-- Reads a character inside a string. -/
def inText? (s : Scan) (q : Quoted) (c : Char) : Option Scan :=
  let go (q : Quoted) : Option Scan := some { s with pending := .text q }
  match q.escape with
  | .plain =>
    if c = '"' then some { tokens := q.finish :: s.tokens }
    else if c = '\\' then go { q with escape := .backslash }
    else if c.toNat < 0x20 then none
    else go (q.push c)
  | .backslash =>
    if c = 'u' then go { q with escape := .hex 4 0 }
    else (escaped? c).bind fun e => go (q.push e)
  | .hex left value =>
    (Ascii.hexValue? c).bind fun d =>
      if left ≤ 1 then go (q.pushUnit (value * 16 + d))
      else go { q with escape := .hex (left - 1) (value * 16 + d) }

/-- Whether a character goes on with a number. -/
def inNumber (c : Char) : Bool :=
  c.isDigit || c = '.' || c = 'e' || c = 'E' || c = '+' || c = '-'

/-- Reads one character. -/
def step? (s : Scan) (c : Char) : Option Scan :=
  match s.pending with
  | .nothing => s.start? c
  | .letters read =>
    if c.isAlphanum then some { s with pending := .letters (c :: read) }
    else s.settle?.bind (·.start? c)
  | .number read =>
    if inNumber c then some { s with pending := .number (c :: read) }
    else s.settle?.bind (·.start? c)
  | .text q => s.inText? q c

end Scan

/-- The tokens of a text. -/
def scan (text : List Char) : Option (List Token) :=
  ((text.foldlM Scan.step? {}).bind Scan.settle?).map fun s => s.tokens.reverse

/-! ## Spelling -/

/-- A hexadecimal digit, in lower case. -/
def hexDigit (n : Nat) : Char :=
  if n < 10 then Char.ofNat ('0'.toNat + n) else Char.ofNat ('a'.toNat + (n - 10))

/-- A character inside a string. Only the quote, the backslash and control characters are
escaped. -/
def escape (c : Char) : List Char :=
  if c = '"' then ['\\', '"']
  else if c = '\\' then ['\\', '\\']
  else if c = '\x08' then ['\\', 'b']
  else if c = '\x0c' then ['\\', 'f']
  else if c = '\n' then ['\\', 'n']
  else if c = '\r' then ['\\', 'r']
  else if c = '\t' then ['\\', 't']
  else if c.toNat < 0x20 then
    ['\\', 'u', '0', '0', hexDigit (c.toNat / 16), hexDigit (c.toNat % 16)]
  else [c]

/-- A string in quotes, in front of what follows it. -/
def quote (s : String) (rest : List Char) : List Char :=
  '"' :: s.toList.foldr (fun c r => escape c ++ r) ('"' :: rest)

/-- A token's text, in front of what follows it. -/
def spell (t : Token) (rest : List Char) : List Char :=
  match t with
  | .openObject => '{' :: rest
  | .closeObject => '}' :: rest
  | .openArray => '[' :: rest
  | .closeArray => ']' :: rest
  | .comma => ',' :: rest
  | .colon => ':' :: rest
  | .null => 'n' :: 'u' :: 'l' :: 'l' :: rest
  | .bool true => 't' :: 'r' :: 'u' :: 'e' :: rest
  | .bool false => 'f' :: 'a' :: 'l' :: 's' :: 'e' :: rest
  | .int n => (toString n).toList ++ rest
  | .real spelling => spelling.toList ++ rest
  | .text s => s.elim ('n' :: 'u' :: 'l' :: 'l' :: rest) (quote · rest)

end Token

end RelayFleet.Json
