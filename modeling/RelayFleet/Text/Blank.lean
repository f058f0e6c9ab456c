/-
The characters with the Unicode property White_Space, and the text between them.
-/
namespace RelayFleet.Blank

/-- Whether a character has the property White_Space. -/
def isBlank (c : Char) : Bool :=
  let n := c.toNat
  (9 ≤ n && n ≤ 13) || n == 0x20 || n == 0x85 || n == 0xA0 || n == 0x1680 ||
    (0x2000 ≤ n && n ≤ 0x200A) || n == 0x2028 || n == 0x2029 || n == 0x202F || n == 0x205F ||
    n == 0x3000

/-- The text after the blanks in front. -/
def skip (cs : List Char) : List Char := cs.dropWhile isBlank

/-- Whether a text holds nothing but blanks. -/
def onlyBlanks (s : String) : Bool := s.toList.all isBlank

end RelayFleet.Blank
