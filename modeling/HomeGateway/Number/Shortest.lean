/-
  The shortest decimal of a floating-point number.

  The reals that round to a double form an interval around it: half way to
  each neighbour, the ends included if its significand is even.  For one, two,
  up to seventeen digits, `select` looks at the two decimals of that many
  digits next to the number; the first that lies in the interval is the
  shortest, the nearer one if both do.  `Layout` holds how the digits are set.
-/
import HomeGateway.Number.Double

namespace HomeGateway.Double

/-! ## Which digits -/

/-- The interval of the reals that round to a magnitude, in quarters of the
    unit of its last bit: lower end, the number, upper end. -/
def interval (m : Nat) (e : Int) : Nat × Nat × Nat :=
  (if m = leadingBit ∧ -1074 < e then 4 * m - 1 else 4 * m - 2, 4 * m, 4 * m + 2)

/-- The number of decimal digits. -/
def decimalLength (n : Nat) : Nat :=
  (Nat.toDigits 10 n).length

/-- The power of ten of the first digit of `num / den`. -/
def firstPower (num den : Nat) : Int :=
  if den ≤ num then (decimalLength (num / den) : Int) - 1
  else -(decimalLength ((den - 1) / num) : Int)

/-- `num / den * 10 ^ k` as a ratio. -/
def scaleDecimal (num den : Nat) (k : Int) : Nat × Nat :=
  if 0 ≤ k then (num * Nat.pow 10 k.toNat, den) else (num, den * Nat.pow 10 (-k).toNat)

/-- Whether `c` is between two bounds in units of `1 / den`, the bounds
    included if `closed`. -/
def within (closed : Bool) (lo hi den c : Nat) : Bool :=
  if closed then lo ≤ c * den && c * den ≤ hi else lo < c * den && c * den < hi

/-- The decimal `digits * 10 ^ power` nearest to a magnitude among those of
    `n` or more digits that read back as it, `fuel` digit counts tried. -/
def select (m : Nat) (e : Int) (first : Int) : Nat → Nat → Nat × Int
  | 0, n => (m, first - n + 1)
  | fuel + 1, n =>
    let power := first - n + 1
    let (lo, v, hi) := interval m e
    let ends := fun x =>
      let (a, b) := scaleRatio x 4 e
      scaleDecimal a b (-power)
    let (num, den) := ends v
    let c := num / den
    let closed := m % 2 = 0
    let fits := within closed (ends lo).1 (ends hi).1 den
    match fits c, fits (c + 1) with
    | true, false => (c, power)
    | false, true => (c + 1, power)
    | true, true => if 2 * (num % den) ≤ den then (c, power) else (c + 1, power)
    | false, false => select m e first fuel (n + 1)

/-- The digits of a positive whole number without its trailing zeros, and how
    many were dropped. -/
def stripZeros (digits : List Char) : List Char :=
  (digits.reverse.dropWhile (· = '0')).reverse

/-- The digits of a nonzero magnitude and the power of ten of the first. -/
def shortest (magnitude : Nat) : List Char × Int :=
  let m := significand magnitude
  let e := exponent magnitude
  let (num, den) := ratio magnitude
  let (c, power) := select m e (firstPower num den) 17 1
  let digits := Nat.toDigits 10 c
  (stripZeros digits, power + digits.length - 1)

/-! ## How they are set -/

/-- Where a number is written without an exponent: the least and the greatest
    power of ten of its first digit. -/
structure Layout where
  /-- least power of ten of a first digit written in place -/
  least : Int
  /-- greatest power of ten of a first digit written in place -/
  greatest : Int

/-- Digits with a point after the first `n`, at least one digit on each
    side. -/
def pointAfter (n : Nat) (digits : List Char) : List Char :=
  if digits.length ≤ n then digits ++ List.replicate (n - digits.length) '0' ++ ['.', '0']
  else digits.take n ++ '.' :: digits.drop n

/-- Digits of a number whose first digit has the weight `10 ^ first`. -/
def Layout.set (layout : Layout) (digits : List Char) (first : Int) : List Char :=
  if layout.least ≤ first ∧ first ≤ layout.greatest then
    if 0 ≤ first then pointAfter (first.toNat + 1) digits
    else '0' :: '.' :: List.replicate (-first - 1).toNat '0' ++ digits
  else
    let mantissa := if digits.length ≤ 1 then digits else pointAfter 1 digits
    let sign := if first < 0 then '-' else '+'
    mantissa ++ 'e' :: sign :: Nat.toDigits 10 first.natAbs

/-- The text of a finite double. -/
def Layout.render (layout : Layout) (d : Double) : String :=
  let sign := if d.isNegative then ['-'] else []
  if d.isZero then String.ofList (sign ++ ['0', '.', '0'])
  else
    let (digits, first) := shortest d.magnitude
    String.ofList (sign ++ layout.set digits first)

end HomeGateway.Double
