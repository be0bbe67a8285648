/-
  JSON values as text.

  Nothing is written between tokens.  In a text, a double quote, a backslash
  and the control characters are escaped, all else stands for itself; a
  floating-point number is its shortest decimal, always with a point or an
  exponent, so that it reads back as a floating-point number.
-/
import HomeGateway.Json.Basic
import HomeGateway.Text.Digits

namespace HomeGateway.Json

/-- Floating-point numbers are written in place from `0.00001` up to sixteen
    digits before the point, otherwise with a signed exponent. -/
def numberLayout : Double.Layout := ⟨-5, 15⟩

/-- A floating-point number as text. -/
def floatText (d : Double) : String :=
  numberLayout.render d

/-- A control character as four hexadecimal digits. -/
def escapeControl (c : Char) : List Char :=
  let digits := Nat.toDigits 16 c.toNat
  ['\\', 'u'] ++ List.replicate (4 - digits.length) '0' ++ digits

/-- One character of a text. -/
def escapeChar (c : Char) : List Char :=
  match c with
  | '"' => ['\\', '"']
  | '\\' => ['\\', '\\']
  | '\n' => ['\\', 'n']
  | '\r' => ['\\', 'r']
  | '\t' => ['\\', 't']
  | '\x08' => ['\\', 'b']
  | '\x0c' => ['\\', 'f']
  | c => if c.toNat < 0x20 then escapeControl c else [c]

/-- A text between double quotes. -/
def textChars (s : String) : List Char :=
  '"' :: s.toList.flatMap escapeChar ++ ['"']

/-- A whole number as text. -/
def intChars (i : Int) : List Char :=
  if i < 0 then '-' :: Nat.toDigits 10 i.natAbs else Nat.toDigits 10 i.natAbs

mutual

/-- The characters of a value. -/
def chars : Json → List Char
  | .null => ['n', 'u', 'l', 'l']
  | .bool true => ['t', 'r', 'u', 'e']
  | .bool false => ['f', 'a', 'l', 's', 'e']
  | .int i => intChars i
  | .float d => (floatText d).toList
  | .str s => textChars s
  | .arr [] => ['[', ']']
  | .arr (x :: xs) => '[' :: (chars x ++ itemsChars xs)
  | .obj [] => ['\x7b', '\x7d']
  | .obj ((k, v) :: fs) => '\x7b' :: (textChars k ++ ':' :: (chars v ++ fieldsChars fs))
termination_by structural v => v

/-- The characters of the items after the first, and the end of the array. -/
def itemsChars : List Json → List Char
  | [] => [']']
  | x :: xs => ',' :: (chars x ++ itemsChars xs)
termination_by structural v => v

/-- The characters of the fields after the first, and the end of the
    object. -/
def fieldsChars : List (String × Json) → List Char
  | [] => ['\x7d']
  | (k, v) :: fs => ',' :: (textChars k ++ ':' :: (chars v ++ fieldsChars fs))
termination_by structural v => v

end

/-- The text of a value. -/
def render (v : Json) : String :=
  String.ofList v.chars

end HomeGateway.Json
