/-
  Manual pairing codes: eleven digits to type in.

  One digit holds the upper two bits of the short discriminator, five digits
  its lower two bits above the lower fourteen bits of the passcode, four
  digits the upper thirteen bits of the passcode; the last is a check digit.
  The short discriminator is the upper four bits of the long one.
-/
import HomeGateway.Pairing.CheckDigit
import HomeGateway.Text.Digits

namespace HomeGateway.Pairing

/-- The upper four of the twelve bits of a long discriminator. -/
def shortDiscriminator (discriminator : Nat) : Nat :=
  discriminator / 0x100 % 0x10

/-- The ten digits before the check digit. -/
def manualDigits (passcode discriminator : Nat) : List Nat :=
  let short := shortDiscriminator discriminator
  let first := short / 4
  let second := short % 4 * 0x4000 + passcode % 0x4000
  let third := passcode / 0x4000 % 0x2000
  (Text.padded 1 first ++ Text.padded 5 second ++ Text.padded 4 third).map Text.digitValue

/-- The manual pairing code of a passcode and a long discriminator. -/
def manualCode (passcode discriminator : Nat) : String :=
  let digits := manualDigits passcode discriminator
  String.ofList ((digits ++ [CheckDigit.checkDigit digits]).map Text.digitChar)

/-- What a manual pairing code says. -/
structure ManualPayload where
  /-- the short discriminator -/
  short : Nat
  /-- the passcode -/
  passcode : Nat
deriving DecidableEq, Repr

/-- The value of a row of digit values. -/
def valueOf (digits : List Nat) : Nat :=
  digits.foldl (fun n d => n * 10 + d) 0

/-- What the eleven digits of a code say. -/
def manualPayload (digits : List Nat) : ManualPayload :=
  let first := valueOf (digits.take 1)
  let second := valueOf ((digits.drop 1).take 5)
  let third := valueOf ((digits.drop 6).take 4)
  ⟨first % 4 * 4 ||| second / 0x4000, third * 0x4000 + second % 0x4000⟩

/-- Read a manual pairing code.  Characters other than digits are passed over;
    there must be eleven digits, the last of them the check digit. -/
def decodeManual? (code : String) : Option ManualPayload :=
  let digits := (code.toList.filter Text.isDigit).map Text.digitValue
  if digits.length = 11 ∧ digits.getLast? = some (CheckDigit.checkDigit (digits.take 10)) then
    some (manualPayload digits)
  else
    none

end HomeGateway.Pairing
