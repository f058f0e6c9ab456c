/-
The head of a request as it comes over a connection: a line with the method, the target and the
version of the protocol, a line for every header, and an empty line. A line ends with a line feed,
in front of which a carriage return may stand. A head that is no request is answered by a status
that says what is wrong with it.
-/
import RelayFleet.Distribution.Http

namespace RelayFleet

/-- What keeps a head from being a request. -/
inductive HeadFlaw where
  | malformed
  | targetTooLong
  | tooLarge
deriving DecidableEq, Inhabited

/-- The status of the reply to a head with a flaw. -/
def HeadFlaw.status : HeadFlaw → Nat
  | malformed => 400
  | targetTooLong => 414
  | tooLarge => 431

/-- A request, and whether its connection can be taken over by another protocol. -/
structure RequestHead where
  request : HttpRequest
  upgradable : Bool
deriving DecidableEq, Inhabited

namespace RequestHead

/-! ## Lines -/

/-- How many headers a request may have. -/
def maxHeaders : Nat := 100

/-- The number of bytes in the longest head. -/
def maxBytes : Nat := 417791

/-- The lines of a text, each without its end. -/
def lines (text : String) : List String :=
  (text.splitOn "\n").map fun line => if line.endsWith "\r" then (line.dropEnd 1).toString else line

/-- Whether a character may stand in a target, before it is known what the target is. -/
def isTargetChar (c : Char) : Bool := '!' ≤ c && c ≠ '\x7f'

/-- The method and the target of a first line, and whether its version knows how to take over a
connection. -/
def firstLine? (line : String) : Option (String × String × Bool) :=
  match line.splitOn " " with
  | [method, target, version] =>
    if HttpRequest.isWord method ∧ target ≠ "" ∧ target.toList.all isTargetChar then
      match version with
      | "HTTP/1.1" => some (method, target, true)
      | "HTTP/1.0" => some (method, target, false)
      | _ => none
    else none
  | _ => none

/-- A value without the spaces and tabs at its ends. -/
def trimmed (value : String) : String :=
  let trimFront (cs : List Char) := cs.dropWhile fun c => c = ' ' || c = '\t'
  String.ofList (trimFront (trimFront value.toList).reverse).reverse

/-- The header of a line, however long its name is. -/
def header? (line : String) : Option (String × String) :=
  match Percent.cut ':' line with
  | (name, some value) =>
    if HttpRequest.isWord name ∧ HttpRequest.isValue value then some (name, trimmed value) else none
  | (_, none) => none

/-- The headers of the lines before the first empty one, so many at most. -/
def headers : Nat → List String → Except HeadFlaw (List (String × String))
  | _, [] => .error .malformed
  | _, "" :: _ => .ok []
  | left, line :: rest =>
    match header? line, left with
    | none, _ => .error .malformed
    | some _, 0 => .error .tooLarge
    | some header, left + 1 => (headers left rest).map (header :: ·)

/-! ## Bodies -/

/-- The greatest length that a body may be announced with. -/
def maxLength : Nat := 0xFFFFFFFFFFFFFFFD

/-- What the headers so far say about the length of the body: the length itself, and whether the
body comes in chunks, if it is encoded at all. -/
structure BodyLength where
  length : Option Nat := none
  chunked : Option Bool := none

namespace BodyLength

/-- Whether the last encoding of a list is the one in chunks. -/
def isChunked (value : String) : Bool :=
  let last := String.ofList <| (value.toList.reverse.takeWhile (· ≠ ',')).reverse
  HttpRequest.isPlain value && Ascii.lower (trimmed last) = "chunked"

/-- The length that digits write, if it fits into 64 bits. -/
def number? (value : String) : Option Nat :=
  let digits := value.toList
  if digits ≠ [] ∧ digits.all Char.isDigit then
    some (Ascii.natOfDigits digits) |>.filter (· < UInt64.size)
  else none

/-- Takes in a header of a request whose connection can be taken over or not. An encoded body has no
length, and two lengths have to be the same. -/
def take (upgradable : Bool) (b : BodyLength) (header : String × String) :
    Except HeadFlaw BodyLength :=
  if header.1 = "transfer-encoding" then
    if upgradable then .ok { b with chunked := some (isChunked header.2) } else .error .malformed
  else if header.1 = "content-length" ∧ b.chunked.isNone then
    match number? header.2 with
    | none => .error .malformed
    | some n =>
      if b.length.any (· ≠ n) then .error .malformed
      else if b.length.isNone ∧ maxLength < n then .error .tooLarge
      else .ok { b with length := some n }
  else .ok b

/-- Whether the end of the body can be told. -/
def isSound (b : BodyLength) : Bool := b.chunked ≠ some false

end BodyLength

/-! ## Reading and writing -/

/-- Reads a head. -/
def read (text : String) : Except HeadFlaw RequestHead := do
  if maxBytes < text.utf8ByteSize then throw .tooLarge
  let first :: rest := lines text | throw .malformed
  let some (method, target, upgradable) := firstLine? first | throw .malformed
  let headers ← headers maxHeaders rest
  if Target.maxBytes < target.utf8ByteSize then throw .targetTooLong
  if headers.any fun h => HttpRequest.maxName < h.1.utf8ByteSize then throw .tooLarge
  let some request := HttpRequest.of? method target headers | throw .malformed
  let length ← request.headers.foldlM (BodyLength.take upgradable) {}
  if length.isSound then return { request, upgradable } else throw .malformed

/-- Writes a head. What it is made of is not looked at: an odd target or header may spoil it. -/
def write (method target : String) (headers : List (String × String)) : String :=
  let lines := (method ++ " " ++ target ++ " HTTP/1.1") :: headers.map fun h => h.1 ++ ": " ++ h.2
  String.join ((lines ++ [""]).map (· ++ "\r\n"))

end RequestHead

end RelayFleet
