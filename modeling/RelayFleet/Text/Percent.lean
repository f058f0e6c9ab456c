/-
Percent encoding as it stands in the path and in the query of a request. A percent sign that no two
hexadecimal digits follow stands for itself. In a query, a plus sign is a space.
-/
import RelayFleet.Text.Ascii
import RelayFleet.Text.Utf8

namespace RelayFleet.Percent

/-- The byte that two hexadecimal digits write. -/
def byte? (high low : UInt8) : Option UInt8 := do
  let h ← Ascii.hexValue? (Char.ofNat high.toNat)
  let l ← Ascii.hexValue? (Char.ofNat low.toNat)
  return (h * 16 + l).toUInt8

/-- The byte at the front of bytes with percent signs, and how many bytes after the first it
takes. -/
def first (b : UInt8) (rest : List UInt8) : UInt8 × Nat :=
  match rest with
  | high :: low :: _ =>
    if b = '%'.toNat.toUInt8 then
      match byte? high low with
      | some byte => (byte, 2)
      | none => (b, 0)
    else (b, 0)
  | _ => (b, 0)

/-- The bytes that bytes with percent signs stand for. -/
def bytes (encoded : List UInt8) : List UInt8 :=
  match encoded with
  | [] => []
  | b :: rest => (first b rest).1 :: bytes (rest.drop (first b rest).2)
termination_by encoded.length
decreasing_by simp only [List.length_drop, List.length_cons]; omega

/-- The text of a part of a path; none if it is no UTF-8. -/
def decodePath? (s : String) : Option String := Utf8.decode? (bytes s.toUTF8.toList)

/-- The text of a name or value in a query. -/
def decodeForm (s : String) : String :=
  let spaced := s.map fun c => if c = '+' then ' ' else c
  Utf8.decodeLossy (bytes spaced.toUTF8.toList)

/-- A text up to a character, and after it if it is there. -/
def cut (mark : Char) (s : String) : String × Option String :=
  match s.toList.span (· ≠ mark) with
  | (before, _ :: after) => (String.ofList before, some (String.ofList after))
  | (before, []) => (String.ofList before, none)

/-- The names and values of a query. -/
def pairs (query : String) : List (String × String) :=
  ((query.splitOn "&").filter (· ≠ "")).map fun part =>
    let (name, value) := cut '=' part
    (decodeForm name, decodeForm (value.getD ""))

end RelayFleet.Percent
