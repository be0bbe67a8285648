/-
  Floating-point numbers of 64 bits, in exact integer arithmetic.

  A double is a word: a sign bit, eleven exponent bits and 52 fraction bits.
  Its magnitude is `significand * 2 ^ exponent`, a ratio of two naturals.
  `roundRatio num den` is the magnitude word nearest to `num / den`, the even
  one of two equally near; a word from `infinityBits` on is too large for a
  finite number.  Products and quotients are rounded ratios.

  * `ofDecimal?`: the double that a decimal is read as, unless it is too large.
-/

namespace HomeGateway

/-- A floating-point number of 64 bits, by its bits. -/
structure Double where
  /-- sign, exponent and fraction bits, the sign bit highest -/
  bits : UInt64
deriving DecidableEq, Repr, Inhabited

namespace Double

/-- The weight of the leading bit of a significand, which the fraction bits leave
    out: `2 ^ 52`. -/
def leadingBit : Nat := 0x10000000000000

/-- The weight of the sign bit: `2 ^ 63`. -/
def signBit : Nat := 0x8000000000000000

/-- The magnitude word of infinity. -/
def infinityBits : Nat := 0x7ff0000000000000

/-- The double with a sign and a magnitude word. -/
def ofMagnitude (negative : Bool) (magnitude : Nat) : Double :=
  ⟨UInt64.ofNat (magnitude + if negative then signBit else 0)⟩

/-- Whether the sign bit is set. -/
def isNegative (d : Double) : Bool :=
  signBit ≤ d.bits.toNat

/-- The bits below the sign bit. -/
def magnitude (d : Double) : Nat :=
  d.bits.toNat % signBit

/-- Positive and negative zero. -/
def isZero (d : Double) : Bool :=
  d.magnitude = 0

/-- Equality of numbers: the two zeros are equal. -/
def same (a b : Double) : Bool :=
  a = b || (a.isZero && b.isZero)

/-- The whole number that multiplies a power of two. -/
def significand (magnitude : Nat) : Nat :=
  if magnitude < leadingBit then magnitude else leadingBit + magnitude % leadingBit

/-- The power of two, as an exponent between `-1074` and `971`. -/
def exponent (magnitude : Nat) : Int :=
  if magnitude < leadingBit then -1074 else (magnitude / leadingBit : Nat) - 1075

/-! ## Rounding -/

/-- `num / den` to the nearest whole number, the even one of two. -/
def roundDiv (num den : Nat) : Nat :=
  let q := num / den
  let r := num % den
  if 2 * r < den then q
  else if den < 2 * r then q + 1
  else if q % 2 = 0 then q else q + 1

/-- `num / den * 2 ^ e` as a ratio. -/
def scaleRatio (num den : Nat) (e : Int) : Nat × Nat :=
  if 0 ≤ e then (num * Nat.pow 2 e.toNat, den) else (num, den * Nat.pow 2 (-e).toNat)

/-- The magnitude word of `m * 2 ^ e`, where `m` has 53 bits unless `e` is the
    least exponent.  A carry out of `m` raises the exponent. -/
def pack (m : Nat) (e : Int) : Nat :=
  if m < leadingBit then m else (e + 1075).toNat * leadingBit + (m - leadingBit)

/-- The exponent of the last of 53 bits of `num / den`, never below the least
    one. -/
def unitExponent (num den : Nat) : Int :=
  let e : Int := (num.log2 : Int) - den.log2 - 53
  let (n, d) := scaleRatio num den (-e)
  max (-1074) (if 2 * leadingBit ≤ n / d then e + 1 else e)

/-- The magnitude word nearest to `num / den`. -/
def roundRatio (num den : Nat) : Nat :=
  if num = 0 then 0
  else
    let e := unitExponent num den
    let (n, d) := scaleRatio num den (-e)
    pack (roundDiv n d) e

/-- The value of a magnitude word. -/
def ratio (magnitude : Nat) : Nat × Nat :=
  scaleRatio (significand magnitude) 1 (exponent magnitude)

/-- The rounded product of two magnitudes. -/
def mul (a b : Nat) : Nat :=
  let (n, d) := ratio a
  let (n', d') := ratio b
  roundRatio (n * n') (d * d')

/-- The rounded quotient of two magnitudes. -/
def div (a b : Nat) : Nat :=
  let (n, d) := ratio a
  let (n', d') := ratio b
  roundRatio (n * d') (d * n')

/-- The magnitude nearest to a power of ten. -/
def powerOfTen (k : Nat) : Nat :=
  roundRatio (Nat.pow 10 k) 1

/-! ## Decimal notation

A decimal is read with two roundings: its digits as a whole number, then the
product with (or the quotient by) one power of ten.  A power below `10 ^ -308`
is divided off in several steps. -/

/-- The greatest power of ten that is a finite double. -/
def maxPower : Nat := 308

/-- The magnitude of `f * 10 ^ e`, unless it is too large. -/
def scaleTen (f : Nat) (e : Int) : Option Nat :=
  if 0 ≤ e then
    if f = 0 then some 0
    else if maxPower < e.toNat then none
    else
      let p := mul f (powerOfTen e.toNat)
      if p < infinityBits then some p else none
  else if (-e).toNat ≤ maxPower then some (div f (powerOfTen (-e).toNat))
  else if f = 0 then some 0
  else scaleTen (div f (powerOfTen maxPower)) (e + maxPower)
termination_by (-e).toNat
decreasing_by simp only [maxPower] at *; omega

/-- The double that `digits * 10 ^ e` is read as, unless it is too large. -/
def ofDecimal? (negative : Bool) (digits : Nat) (e : Int) : Option Double :=
  (scaleTen (roundRatio digits 1) e).map (ofMagnitude negative)

end Double

end HomeGateway
