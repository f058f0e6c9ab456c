/-
UTF-8 read from bytes. `decode?` refuses bytes that are no text; `decodeLossy` puts a replacement
character in their place, one for every longest beginning of a character.
-/
namespace RelayFleet.Utf8

/-- Whether a byte continues a character. -/
def continues (b : UInt8) : Bool := 0x80 ≤ b && b ≤ 0xBF

/-- The number of bytes of a character that begins with this byte, and what the next byte has to be
between; nothing if no character does. -/
def lead? (b : UInt8) : Option (Nat × UInt8 × UInt8) :=
  if b < 0x80 then some (1, 0, 0)
  else if 0xC2 ≤ b ∧ b ≤ 0xDF then some (2, 0x80, 0xBF)
  else if b = 0xE0 then some (3, 0xA0, 0xBF)
  else if b = 0xED then some (3, 0x80, 0x9F)
  else if 0xE1 ≤ b ∧ b ≤ 0xEF then some (3, 0x80, 0xBF)
  else if b = 0xF0 then some (4, 0x90, 0xBF)
  else if 0xF1 ≤ b ∧ b ≤ 0xF3 then some (4, 0x80, 0xBF)
  else if b = 0xF4 then some (4, 0x80, 0x8F)
  else none

/-- The bits of a first byte that count, in a character of this many bytes. -/
def leadBits (width : Nat) (b : UInt8) : Nat :=
  match width with
  | 1 => b.toNat
  | 2 => b.toNat % 0x20
  | 3 => b.toNat % 0x10
  | _ => b.toNat % 0x08

/-- The bytes after the first one that belong to a character, as far as they are there. -/
def tail (width : Nat) (low high : UInt8) (bytes : List UInt8) : List UInt8 :=
  match (bytes.take (width - 1)) with
  | [] => []
  | b :: rest => if low ≤ b ∧ b ≤ high then b :: rest.takeWhile continues else []

/-- The character at the front of bytes, or none if there is no whole one, and how many bytes after
the first belong to it. -/
def first (b : UInt8) (bytes : List UInt8) : Option Char × Nat :=
  match lead? b with
  | none => (none, 0)
  | some (width, low, high) =>
    let more := tail width low high bytes
    if more.length + 1 = width then
      let code := more.foldl (fun n c => n * 0x40 + c.toNat % 0x40) (leadBits width b)
      (some (Char.ofNat code), more.length)
    else (none, more.length)

/-- The characters of bytes, and none wherever there is no whole one. -/
def scan (bytes : List UInt8) : List (Option Char) :=
  match bytes with
  | [] => []
  | b :: rest => (first b rest).1 :: scan (rest.drop (first b rest).2)
termination_by bytes.length
decreasing_by simp only [List.length_drop, List.length_cons]; omega

/-- The text of bytes. -/
def decode? (bytes : List UInt8) : Option String :=
  ((scan bytes).mapM id).map String.ofList

/-- The text of bytes, with a replacement for what is none. -/
def decodeLossy (bytes : List UInt8) : String :=
  String.ofList ((scan bytes).map (·.getD '\uFFFD'))

end RelayFleet.Utf8
