/-
  How a device to be paired is found.

  A caller gives a code, or a short discriminator, or neither; a code that
  starts with the mark of QR codes is one, any other is a manual code.  Without
  a code the device is found by its discriminator.
-/
import HomeGateway.Pairing.ManualCode
import HomeGateway.Pairing.QrCode
import HomeGateway.Text.Blank
import HomeGateway.Engine.Report

namespace HomeGateway.Pairing

/-- A discriminator to search for. -/
inductive Discriminator where
  /-- all twelve bits -/
  | long (d : Nat)
  /-- the upper four bits -/
  | short (d : Nat)
deriving DecidableEq, Repr

/-- Whether a discriminator selects a device with this long one. -/
def Discriminator.selects : Discriminator → Nat → Bool
  | .long d, device => d = device
  | .short d, device => d = device / 0x100

/-- How a device is found. -/
inductive Request where
  /-- by its QR code -/
  | qr (code : String)
  /-- by its manual code -/
  | manual (code : String)
  /-- by a discriminator, and proved by a passcode -/
  | discovery (d : Discriminator) (passcode : Option Nat)
deriving DecidableEq, Repr

/-- The long discriminator to search for if the caller gives none. -/
def defaultDiscriminator : Nat := 3840

/-- The request of a caller; a blank code is no code. -/
def Request.ofArguments (code : Option String) (short passcode : Option Nat) : Request :=
  match (code.map Text.trim).filter (· ≠ "") with
  | some c => if qrMark.toList.isPrefixOf c.toList then .qr c else .manual c
  | none =>
    .discovery
      (match short with
       | some d => .short d
       | none => .long defaultDiscriminator)
      passcode

/-- Both codes of a device. -/
def codes (vendorId productId discriminator passcode : Nat) : PairingCodes :=
  ⟨manualCode passcode discriminator, qrCode vendorId productId discriminator passcode⟩

end HomeGateway.Pairing
