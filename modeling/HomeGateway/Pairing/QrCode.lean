/-
  QR pairing codes.

  Eleven bytes hold, from the lowest bit on, a version, the vendor, the
  product, the commissioning flow, the ways to find the device, the long
  discriminator, the passcode and padding.  Each three bytes are five letters
  of an alphabet of 38, the last two bytes four, the lowest letter first.

  * `ungroup` undoes `group`, the step from bytes to letters.
-/

namespace HomeGateway.Pairing

/-- The alphabet of the code. -/
def alphabet : List Char :=
  "0123456789ABCDEFGHIJKLMNOPQRSTUVWXYZ-.".toList

/-- The bit that says the device is found on the network. -/
def onNetwork : Nat := 4

/-- Fields of some width each, from the lowest bit on, as one number. -/
def packFields : List (Nat × Nat) → Nat
  | [] => 0
  | (value, width) :: rest => value % Nat.pow 2 width + Nat.pow 2 width * packFields rest

/-- The contents of a code: 88 bits. -/
def qrPayload (vendorId productId discriminator passcode : Nat) : Nat :=
  packFields
    [(0, 3), (vendorId, 16), (productId, 16), (0, 2), (onNetwork, 8), (discriminator, 12),
     (passcode, 27), (0, 4)]

/-- The lowest `count` bytes of a number, the lowest first. -/
def bytesOf (count n : Nat) : List Nat :=
  (List.range count).map fun i => n / Nat.pow 256 i % 256

/-- The number of a row of bytes, the lowest first. -/
def ofBytes (bytes : List Nat) : Nat :=
  bytes.foldr (fun b n => b + 256 * n) 0

/-- A number as `count` letters, the lowest first. -/
def letters : Nat → Nat → List Char
  | 0, _ => []
  | count + 1, n => alphabet.getD (n % 38) '0' :: letters count (n / 38)

/-- The number of letters for some bytes. -/
def letterCount (bytes : Nat) : Nat :=
  if bytes = 3 then 5 else if bytes = 2 then 4 else 2

/-- Bytes as letters, three at a time. -/
def group : List Nat → List Char
  | a :: b :: c :: rest => letters (letterCount 3) (ofBytes [a, b, c]) ++ group rest
  | [a, b] => letters (letterCount 2) (ofBytes [a, b])
  | [a] => letters (letterCount 1) a
  | [] => []

/-- The number of a row of letters, the lowest first. -/
def letterValue (cs : List Char) : Nat :=
  cs.foldr (fun c n => alphabet.idxOf c + 38 * n) 0

/-- Letters as bytes, five at a time. -/
def ungroup : List Char → List Nat
  | a :: b :: c :: d :: e :: rest => bytesOf 3 (letterValue [a, b, c, d, e]) ++ ungroup rest
  | [a, b, c, d] => bytesOf 2 (letterValue [a, b, c, d])
  | [a, b] => bytesOf 1 (letterValue [a, b])
  | _ => []

/-- What a QR code starts with. -/
def qrMark : String := "MT:"

/-- The QR code of a device. -/
def qrCode (vendorId productId discriminator passcode : Nat) : String :=
  qrMark ++
    String.ofList (group (bytesOf 11 (qrPayload vendorId productId discriminator passcode)))

end HomeGateway.Pairing
