/-
  Quoted text, as it appears inside messages.

  A text is shown between double quotes.  A double quote, a backslash, a line
  feed, a carriage return, a tab and a zero character have short escapes; any
  other character without a shape of its own is shown by its code point in
  hexadecimal digits between braces; all else stands for itself.
-/
import HomeGateway.Text.Shapeless

namespace HomeGateway.Text

/-- The code point of a character, escaped. -/
def escapeCodePoint (c : Char) : List Char :=
  ['\\', 'u', '\x7b'] ++ Nat.toDigits 16 c.toNat ++ ['\x7d']

/-- One character of a quoted text. -/
def quoteChar (c : Char) : List Char :=
  match c with
  | '\x00' => ['\\', '0']
  | '\t' => ['\\', 't']
  | '\r' => ['\\', 'r']
  | '\n' => ['\\', 'n']
  | '"' => ['\\', '"']
  | '\\' => ['\\', '\\']
  | c => if isShapeless c then escapeCodePoint c else [c]

/-- The text between double quotes, escaped. -/
def quote (s : String) : String :=
  String.ofList ('"' :: s.toList.flatMap quoteChar ++ ['"'])

end HomeGateway.Text
