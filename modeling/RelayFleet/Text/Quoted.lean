/-
Texts in quotes, as messages show them. Quotes and backslashes are escaped, and so is every
character that leaves no mark of its own on a line.
-/
import RelayFleet.Text.Unmarked

namespace RelayFleet.Quoted

/-- A character between quotes. -/
def escape (c : Char) : String :=
  match c with
  | '"' => "\\\""
  | '\\' => "\\\\"
  | '\n' => "\\n"
  | '\r' => "\\r"
  | '\t' => "\\t"
  | '\x00' => "\\0"
  | c =>
    if Unmarked.isUnmarked c then "\\u\x7b" ++ String.ofList (Nat.toDigits 16 c.toNat) ++ "\x7d"
    else String.singleton c

/-- A text in quotes. -/
def quote (s : String) : String := "\"" ++ String.join (s.toList.map escape) ++ "\""

end RelayFleet.Quoted
