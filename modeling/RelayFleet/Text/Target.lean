/-
The target of a request: a path with a query, a star, an authority with a scheme and a path, or an
authority alone. What follows a `#` is dropped. An authority names a host, which may stand in square
brackets, with a port behind it or a user in front of it.
-/
import RelayFleet.Text.Percent

namespace RelayFleet

/-! ## Authorities -/

/-- What has been seen of an authority. Percent signs and colons are forgotten at the end of the
user and at the end of the brackets, where they are allowed. -/
structure AuthorityScan where
  colons : Nat := 0
  percent : Bool := false
  opened : Bool := false
  closed : Bool := false
  last : Option Char := none
deriving DecidableEq, Inhabited

namespace AuthorityScan

/-- How many colons may stand in a row of groups: those of an address and one for its port. -/
def maxColons : Nat := 8

/-- Whether a character may stand anywhere in an authority. -/
def isPlain (c : Char) : Bool := c.isAlphanum || "-._~!$&'()*+,;=".toList.contains c

/-- Whether a character ends an authority. -/
def isEnd (c : Char) : Bool := ['/', '?', '#'].contains c

/-- Takes in a character. -/
def step? (a : AuthorityScan) (c : Char) : Option AuthorityScan :=
  let a := { a with last := some c }
  if c = ':' then if a.colons < maxColons then some { a with colons := a.colons + 1 } else none
  else if c = '[' then if a.percent ∨ a.opened then none else some { a with opened := true }
  else if c = ']' then
    if a.opened ∧ ¬ a.closed then some { a with closed := true, colons := 0, percent := false }
    else none
  else if c = '@' then some { a with colons := 0, percent := false }
  else if c = '%' then some { a with percent := true }
  else if isPlain c then some a
  else none

/-- Whether an authority may end here. -/
def complete (a : AuthorityScan) : Bool :=
  a.opened == a.closed && a.colons ≤ 1 && a.last ≠ some '@' && ! a.percent

/-- Whether characters are an authority, or none at all. -/
def accepts (cs : List Char) : Bool :=
  (cs.foldlM step? ({} : AuthorityScan)).any complete

end AuthorityScan

/-! ## Targets -/

/-- A path and a query, both as they stand in the text. -/
structure Target where
  path : String
  query : String := ""
deriving DecidableEq, Inhabited

namespace Target

/-- Whether a character may stand in a path. -/
def isPathChar (c : Char) : Bool :=
  '!' ≤ c && ! ['#', '<', '>', '?', '\x60', '\x7f'].contains c

/-- Whether a character may stand in a query. -/
def isQueryChar (c : Char) : Bool := '!' ≤ c && ! ['"', '#', '<', '>', '\x7f'].contains c

/-- Whether a character may stand in a scheme. -/
def isSchemeChar (c : Char) : Bool := c.isAlphanum || ['+', '-', '.', '~'].contains c

/-- The length of the longest scheme. -/
def maxScheme : Nat := 64

/-- The number of bytes in the longest target. -/
def maxBytes : Nat := 65534

/-- The target of a path with what follows it. -/
def ofPath? (text : String) : Option Target :=
  let (path, query) := Percent.cut '?' (Percent.cut '#' text).1
  let query := query.getD ""
  if path.toList.all isPathChar ∧ query.toList.all isQueryChar then some { path, query } else none

/-- The target of what follows a scheme: an authority and a path. No path is the path `/`. -/
def ofAuthority? (cs : List Char) : Option Target :=
  match cs.span (! AuthorityScan.isEnd ·) with
  | ([], _) => none
  | (authority, rest) =>
    if AuthorityScan.accepts authority then
      (ofPath? (String.ofList rest)).map fun t => if t.path = "" then { t with path := "/" } else t
    else none

/-- The target of a text. A lone authority has neither path nor query. -/
def ofText? (text : String) : Option Target :=
  if maxBytes < text.utf8ByteSize then none
  else if text = "*" then some { path := text }
  else match text.toList with
    | [] => none
    | '/' :: _ => ofPath? text
    | cs =>
      match cs.span isSchemeChar with
      | (scheme, ':' :: '/' :: '/' :: rest) =>
        if scheme.length ≤ maxScheme then ofAuthority? rest else none
      | _ => if AuthorityScan.accepts cs then some { path := "" } else none

end Target

end RelayFleet
