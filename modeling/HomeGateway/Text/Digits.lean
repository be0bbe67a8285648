/-
  Digits, and numbers written in decimal digits.

  `digitsValue` is the value of a row of digits.  `readUnsigned max s` reads a
  number between `0` and `max`: an optional plus sign and at least one ASCII
  digit, nothing else; leading zeros are allowed.  A number above `max` is no
  number of that width.

  * `readUnsigned_le`: what is read is within the bound.
-/

namespace HomeGateway.Text

/-- Whether a character is one of the ten ASCII digits. -/
def isDigit (c : Char) : Bool :=
  '0' ≤ c && c ≤ '9'

/-- The value of an ASCII digit. -/
def digitValue (c : Char) : Nat :=
  c.toNat - '0'.toNat

/-- The value of a hexadecimal digit. -/
def hexValue? (c : Char) : Option Nat :=
  if '0' ≤ c && c ≤ '9' then some (c.toNat - '0'.toNat)
  else if 'a' ≤ c && c ≤ 'f' then some (c.toNat - 'a'.toNat + 10)
  else if 'A' ≤ c && c ≤ 'F' then some (c.toNat - 'A'.toNat + 10)
  else none

/-- The digit with a value below ten. -/
def digitChar (n : Nat) : Char :=
  Char.ofNat ('0'.toNat + n)

/-- The value of a row of digits, the most significant first. -/
def digitsValue (cs : List Char) : Nat :=
  cs.foldl (fun n c => n * 10 + digitValue c) 0

/-- The characters after an optional plus sign. -/
def dropPlus : List Char → List Char
  | '+' :: rest => rest
  | cs => cs

/-- A number of at most `max`, as an optional plus sign and decimal digits. -/
def readUnsigned (max : Nat) (s : String) : Option Nat :=
  let digits := dropPlus s.toList
  if digits ≠ [] ∧ digits.all isDigit ∧ digitsValue digits ≤ max then
    some (digitsValue digits)
  else
    none

/-- The digits of a number, the most significant first. -/
def showNat (n : Nat) : String :=
  String.ofList (Nat.toDigits 10 n)

/-- A number written with leading zeros in a field of `width` digits. -/
def padded (width n : Nat) : List Char :=
  let digits := Nat.toDigits 10 n
  List.replicate (width - digits.length) '0' ++ digits

theorem readUnsigned_le {max : Nat} {s : String} {n : Nat} (h : readUnsigned max s = some n) :
    n ≤ max := by
  simp only [readUnsigned] at h
  split at h
  · rename_i hc
    cases h
    exact hc.2.2
  · cases h

end HomeGateway.Text
