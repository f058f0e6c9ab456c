/-
Numbers of double precision, without their signs. `Double.ofText?` reads a number: its first digits,
as many as fit into 64 bits, and then the power of ten behind them, every step rounded to the
closest number there is. `Double.text` writes one with as few digits as tell it from its neighbours,
and of the decimals with so few digits the closest.
-/
import RelayFleet.Text.Ascii

namespace RelayFleet

/-- A number that is not negative: a mantissa below 2^53, times a power of two. -/
structure Double where
  mantissa : Nat
  exponent : Int
deriving DecidableEq, Inhabited

namespace Double

/-! ## Rounding -/

/-- The least power of two that a number is a multiple of. -/
def leastExponent : Int := -1074

/-- The greatest power of two that the last bit of a number may stand for. -/
def greatestExponent : Int := 971

/-- The whole number closest to a quotient; of two that are equally close, the even one. -/
def nearest (num den : Nat) : Nat :=
  let rest := 2 * (num % den)
  if den < rest ∨ (rest = den ∧ num / den % 2 = 1) then num / den + 1 else num / den

/-- A quotient in units of a power of two. -/
def scaled (num den : Nat) (e : Int) : Nat × Nat :=
  (num * Nat.pow 2 (-e).toNat, den * Nat.pow 2 e.toNat)

/-- The number closest to a quotient, if there is no limit to exponents. -/
def ofRatio (num den : Nat) : Double :=
  if num = 0 then ⟨0, leastExponent⟩
  else
    let guess : Int := num.log2 - den.log2 - 53
    let (n, d) := scaled num den guess
    let exponent := max leastExponent (if n / d < Nat.pow 2 53 then guess else guess + 1)
    let (n, d) := scaled num den exponent
    if nearest n d = Nat.pow 2 53 then ⟨Nat.pow 2 52, exponent + 1⟩ else ⟨nearest n d, exponent⟩

/-- Whether the number is within the limit to exponents. -/
def isFinite (x : Double) : Bool := x.exponent ≤ greatestExponent

/-- The number as a quotient. -/
def ratio (x : Double) : Nat × Nat :=
  (x.mantissa * Nat.pow 2 x.exponent.toNat, Nat.pow 2 (-x.exponent).toNat)

/-- The product of two numbers. -/
def times (x y : Double) : Double :=
  ofRatio (x.ratio.1 * y.ratio.1) (x.ratio.2 * y.ratio.2)

/-- The quotient of two numbers. -/
def dividedBy (x y : Double) : Double :=
  ofRatio (x.ratio.1 * y.ratio.2) (x.ratio.2 * y.ratio.1)

/-! ## Reading -/

/-- The greatest power of ten that is at hand. -/
def greatestPower : Nat := 308

/-- A power of ten. -/
def powerOfTen (n : Nat) : Double := ofRatio (Nat.pow 10 n) 1

/-- A number times a power of ten, unless that is too large. -/
def raised? (x : Double) (n : Nat) : Option Double :=
  if n ≤ greatestPower then some (x.times (powerOfTen n)) |>.filter (·.isFinite)
  else if x.mantissa = 0 then some x
  else none

/-- A number divided by a power of ten. -/
def lowered (x : Double) (n : Nat) : Double :=
  if n ≤ greatestPower then x.dividedBy (powerOfTen n)
  else if x.mantissa = 0 then x
  else (x.dividedBy (powerOfTen greatestPower)).lowered (n - greatestPower)
termination_by n
decreasing_by simp only [greatestPower] at *; omega

/-- The first digits of a number and the power of ten behind them. -/
structure Leading where
  digits : Nat := 0
  power : Int := 0
  /-- Whether a digit was left out because it did not fit. -/
  full : Bool := false

namespace Leading

/-- The digits with one more, if it fits. -/
def more? (l : Leading) (c : Char) : Option Nat :=
  let n := l.digits * 10 + (c.toNat - '0'.toNat)
  if ¬ l.full ∧ n < UInt64.size then some n else none

/-- Takes in a digit in front of the point. -/
def whole (l : Leading) (c : Char) : Leading :=
  match l.more? c with
  | some digits => { l with digits }
  | none => { l with power := l.power + 1, full := true }

/-- Takes in a digit behind the point. -/
def part (l : Leading) (c : Char) : Leading :=
  match l.more? c with
  | some digits => { l with digits, power := l.power - 1 }
  | none => { l with full := true }

/-- The leading digits of a mantissa: digits, and further ones behind a point or none. -/
def ofMantissa (cs : List Char) : Leading :=
  let (before, after) := cs.span (· ≠ '.')
  (after.drop 1).foldl part { before.foldl whole {} with full := false }

end Leading

/-- The number that an exponent adds to a power of ten. -/
def exponentOf : List Char → Int
  | '-' :: cs => -(Ascii.natOfDigits cs)
  | '+' :: cs => Ascii.natOfDigits cs
  | cs => Ascii.natOfDigits cs

/-- The number that a spelling stands for, without its sign, unless that is too large. The spelling
is well formed. -/
def ofText? (spelling : String) : Option Double :=
  let unsigned := spelling.toList.dropWhile (· = '-')
  let (mantissa, exponent) := unsigned.span fun c => c ≠ 'e' && c ≠ 'E'
  let leading := Leading.ofMantissa mantissa
  let power := leading.power + exponentOf (exponent.drop 1)
  let x := ofRatio leading.digits 1
  if power < 0 then some (x.lowered (-power).toNat) else x.raised? power.toNat

/-! ## The shortest decimal -/

/-- Compares `c * 10 ^ p` with `b * 2 ^ q`. -/
def compareDecimal (c : Nat) (p : Int) (b : Nat) (q : Int) : Ordering :=
  compare (c * Nat.pow 10 p.toNat * Nat.pow 2 (-q).toNat)
    (b * Nat.pow 2 q.toNat * Nat.pow 10 (-p).toNat)

/-- Whether `c * 10 ^ p` is closer to the number than to its neighbours. Halfway between two numbers
belongs to the one with the even mantissa. Below a power of two the neighbour is half as far away as
above it. -/
def isClosestTo (x : Double) (c : Nat) (p : Int) : Bool :=
  let narrow := x.mantissa = Nat.pow 2 52 ∧ leastExponent < x.exponent
  let low := compareDecimal c p (4 * x.mantissa - if narrow then 1 else 2) (x.exponent - 2)
  let high := compareDecimal c p (4 * x.mantissa + 2) (x.exponent - 2)
  if x.mantissa % 2 = 0 then low.isGE && high.isLE else low.isGT && high.isLT

/-- The number in units of a power of ten. -/
def inUnits (x : Double) (p : Int) : Nat × Nat :=
  (x.ratio.1 * Nat.pow 10 (-p).toNat, x.ratio.2 * Nat.pow 10 p.toNat)

/-- The multiple of a power of ten that stands for the number, the closest one if there are two. -/
def multiple? (x : Double) (p : Int) : Option Nat :=
  let (n, d) := x.inUnits p
  let close := nearest n d
  [close, 2 * (n / d) + 1 - close].find? fun c => x.isClosestTo c p

/-- The least power of ten above the number. -/
def decade (x : Double) : Int :=
  let (n, d) := x.ratio
  if d ≤ n then (toString (n / d)).length else 1 - (toString (d / n)).length

/-- Digits without the zeros at their end, and the power of ten they stand for. -/
def trimmed (c : Nat) (p : Int) : Nat × Int :=
  if c ≠ 0 ∧ c % 10 = 0 then trimmed (c / 10) (p + 1) else (c, p)
termination_by c
decreasing_by omega

/-- How many digits tell any two numbers apart. -/
def mostDigits : Nat := 17

/-- The shortest digits that stand for the number, and the power of ten behind them. -/
def shortest (x : Double) : Nat × Int :=
  let decimal (p : Int) : Option (Nat × Int) := (x.multiple? p).map fun c => trimmed c p
  let finest := x.decade - mostDigits
  let (n, d) := x.inUnits finest
  ((List.range mostDigits).findSome? fun (i : Nat) => decimal (x.decade - (i + 1))).getD
    (nearest n d, finest)

/-! ## Writing -/

/-- The greatest power of ten below which numbers are written without an exponent. -/
def plainBelow : Int := 16

/-- The power of ten from which numbers are written without an exponent. -/
def plainFrom : Int := -5

/-- The text of a number. -/
def text (x : Double) : String :=
  if x.mantissa = 0 then "0.0"
  else
    let (c, power) := x.shortest
    let digits := (toString c).toList
    let point : Int := digits.length + power
    let zeros (n : Int) := List.replicate n.toNat '0'
    let scientific (exponent : Int) := ('e' :: (toString exponent).toList)
    String.ofList <|
      if 0 ≤ power ∧ point ≤ plainBelow then digits ++ zeros power ++ ['.', '0']
      else if 0 < point ∧ point ≤ plainBelow then
        digits.take point.toNat ++ '.' :: digits.drop point.toNat
      else if plainFrom < point ∧ point ≤ 0 then '0' :: '.' :: (zeros (-point) ++ digits)
      else match digits with
        | [digit] => digit :: scientific (point - 1)
        | digit :: rest => digit :: '.' :: (rest ++ scientific (point - 1))
        | [] => []

end Double

end RelayFleet
