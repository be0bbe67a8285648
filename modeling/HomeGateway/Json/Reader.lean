/-
  Reading JSON text.

  `State.feed` is an automaton that takes one character at a time.  Its mode
  says what may come next, its stack holds the containers still open.  Blanks
  between tokens are the space, the tab, the line feed and the carriage
  return.  A character that fits nowhere breaks the text; what was read before
  stays in the document.

  Numbers: one without a point and an exponent is a whole number if it fits in
  64 bits, with or without a sign; any other is a floating-point number, read
  from as many leading digits as 64 bits hold.
-/
import HomeGateway.Json.Document

namespace HomeGateway.Json

/-! ## Numbers -/

/-- The greatest whole number of 64 bits. -/
def maxWord : Nat := 0xffffffffffffffff

/-- The magnitude of the least whole number of 64 bits with a sign. -/
def lowestMagnitude : Nat := 0x8000000000000000

/-- The digits that still fit into 64 bits after `acc`: their value with
    `acc`, how many were taken, and the digits left over. -/
def takeDigits (acc taken : Nat) : List Char → Nat × Nat × List Char
  | [] => (acc, taken, [])
  | c :: cs =>
    let next := acc * 10 + Text.digitValue c
    if next ≤ maxWord then takeDigits next (taken + 1) cs else (acc, taken, c :: cs)

/-- The number of a sign, whole digits, digits after a point and an exponent;
    `none` if it is too large. -/
def floatOf? (negative : Bool) (whole fraction : List Char) (e : Int) : Option Json :=
  let (n, _, left) := takeDigits 0 0 whole
  let (n, places, _) := takeDigits n 0 fraction
  (Double.ofDecimal? negative n (left.length - places + e)).map .float

/-- The number of a sign and whole digits. -/
def wholeOf? (negative : Bool) (whole : List Char) : Option Json :=
  let n := Text.digitsValue whole
  if !negative && n ≤ maxWord then some (.int n)
  else if negative && 0 < n && n ≤ lowestMagnitude then some (.int (-n))
  else floatOf? negative whole [] 0

/-- Where a number stands. -/
inductive Phase where
  /-- after the minus sign -/
  | minus
  /-- after a leading zero -/
  | zero
  /-- in the whole digits -/
  | whole
  /-- after the point -/
  | point
  /-- in the digits after the point -/
  | fraction
  /-- after the letter of the exponent -/
  | exponent
  /-- after the sign of the exponent -/
  | exponentSign
  /-- in the digits of the exponent -/
  | exponentDigits
deriving DecidableEq, Repr

/-- A number being read; digits are kept last first. -/
structure Numeral where
  /-- where it stands -/
  phase : Phase
  /-- whether it has a minus sign -/
  negative : Bool
  /-- whole digits -/
  whole : List Char
  /-- digits after the point -/
  fraction : List Char
  /-- whether the exponent has a minus sign -/
  lowering : Bool
  /-- digits of the exponent -/
  power : List Char
  /-- whether there is a point or an exponent -/
  isFloat : Bool
deriving Repr

namespace Numeral

/-- The number that a first character begins. -/
def start? (c : Char) : Option Numeral :=
  if c = '-' then some ⟨.minus, true, [], [], false, [], false⟩
  else if c = '0' then some ⟨.zero, false, [c], [], false, [], false⟩
  else if Text.isDigit c then some ⟨.whole, false, [c], [], false, [], false⟩
  else none

/-- What a character does to a number. -/
inductive Next where
  /-- it belongs to the number -/
  | more (n : Numeral)
  /-- it comes after the number -/
  | ended
  /-- it makes it no number -/
  | wrong

/-- The point or the exponent that a character begins, else the end. -/
def tail (n : Numeral) (c : Char) : Next :=
  if c = '.' && n.phase ≠ .fraction then .more { n with phase := .point, isFloat := true }
  else if c = 'e' || c = 'E' then .more { n with phase := .exponent, isFloat := true }
  else .ended

/-- Take one character. -/
def feed (n : Numeral) (c : Char) : Next :=
  match n.phase with
  | .minus =>
    if c = '0' then .more { n with phase := .zero, whole := [c] }
    else if Text.isDigit c then .more { n with phase := .whole, whole := [c] }
    else .wrong
  | .zero => if Text.isDigit c then .wrong else n.tail c
  | .whole => if Text.isDigit c then .more { n with whole := c :: n.whole } else n.tail c
  | .point =>
    if Text.isDigit c then .more { n with phase := .fraction, fraction := [c] } else .wrong
  | .fraction =>
    if Text.isDigit c then .more { n with fraction := c :: n.fraction } else n.tail c
  | .exponent =>
    if c = '+' then .more { n with phase := .exponentSign }
    else if c = '-' then .more { n with phase := .exponentSign, lowering := true }
    else if Text.isDigit c then .more { n with phase := .exponentDigits, power := [c] }
    else .wrong
  | .exponentSign =>
    if Text.isDigit c then .more { n with phase := .exponentDigits, power := [c] } else .wrong
  | .exponentDigits => if Text.isDigit c then .more { n with power := c :: n.power } else .ended

/-- Whether the number may end here. -/
def complete (n : Numeral) : Bool :=
  match n.phase with
  | .zero | .whole | .fraction | .exponentDigits => true
  | .minus | .point | .exponent | .exponentSign => false

/-- The document of a number. -/
def document (n : Numeral) : Document :=
  if n.complete then
    let value? :=
      if n.isFloat then
        let power : Int := Text.digitsValue n.power.reverse
        floatOf? n.negative n.whole.reverse n.fraction.reverse
          (if n.lowering then -power else power)
      else wholeOf? n.negative n.whole.reverse
    match value? with
    | some v => .leaf v
    | none => .unreadable
  else .broken

end Numeral

/-! ## Texts -/

/-- A text being read between its quotes. -/
structure Span where
  /-- whether it is the name of a field -/
  isName : Bool
  /-- its characters, last first -/
  acc : List Char
  /-- whether it denotes a text so far -/
  readable : Bool
  /-- the first half of a surrogate pair, if its second half must come next -/
  high : Option Nat
deriving Repr

namespace Span

/-- Give up a pair whose second half does not come. -/
def unpaired (s : Span) : Span :=
  if s.high.isSome then { s with readable := false, high := none } else s

/-- Take one character of the text. -/
def push (s : Span) (c : Char) : Span :=
  { s.unpaired with acc := c :: s.unpaired.acc }

/-- Take a code unit of sixteen bits. -/
def pushUnit (s : Span) (n : Nat) : Span :=
  let low := 0xdc00 ≤ n && n ≤ 0xdfff
  match s.high, low with
  | some h, true =>
    { s with
      high := none
      acc := Char.ofNat ((h - 0xd800) * 0x400 + (n - 0xdc00) + 0x10000) :: s.acc }
  | _, true => { s.unpaired with readable := false }
  | _, false =>
    if 0xd800 ≤ n && n ≤ 0xdbff then { s.unpaired with high := some n }
    else s.push (Char.ofNat n)

/-- The text, unless it denotes none. -/
def text? (s : Span) : Option String :=
  if s.unpaired.readable then some (String.ofList s.acc.reverse) else none

end Span

/-- The character that a short escape stands for. -/
def shortEscape? (c : Char) : Option Char :=
  match c with
  | '"' => some '"'
  | '\\' => some '\\'
  | '/' => some '/'
  | 'b' => some '\x08'
  | 'f' => some '\x0c'
  | 'n' => some '\n'
  | 'r' => some '\r'
  | 't' => some '\t'
  | _ => none

/-! ## The automaton -/

/-- A container whose end is not yet read; its contents are kept last
    first. -/
inductive Open where
  /-- an array -/
  | arr (items : List Document)
  /-- an object, with the name of the member being read -/
  | obj (members : List (Option String × Document)) (name : Option String)
deriving Repr

/-- What may come next. -/
inductive Mode where
  /-- a value; after `[` also the end of the array -/
  | value (orEnd : Bool)
  /-- a field name; after an opening brace also the end of the object -/
  | name (orEnd : Bool)
  /-- the colon after a field name -/
  | colon
  /-- a comma or the end of the innermost container -/
  | next
  /-- more of a text -/
  | text (s : Span)
  /-- the character after a backslash -/
  | escape (s : Span)
  /-- `left` more hexadecimal digits of a code unit -/
  | hex (s : Span) (left : Nat) (unit : Nat)
  /-- more of a number -/
  | number (n : Numeral)
  /-- the rest of a word -/
  | word (left : List Char) (v : Json)
  /-- nothing: the text is broken -/
  | stopped
deriving Repr

/-- The state of the automaton; `result` is the outermost value once it is
    complete. -/
structure State where
  /-- what may come next -/
  mode : Mode
  /-- the open containers, innermost first -/
  stack : List Open
  /-- the outermost value -/
  result : Option Document
deriving Repr

/-- Whether a character may stand between tokens. -/
def isGap (c : Char) : Bool :=
  c = ' ' || c = '\t' || c = '\n' || c = '\r'

namespace State

/-- The start of a text. -/
def start : State := ⟨.value false, [], none⟩

/-- Put a complete value in its place. -/
def put (st : State) (doc : Document) : State :=
  match st.stack with
  | [] => ⟨.next, [], some doc⟩
  | .arr items :: rest => ⟨.next, .arr (doc :: items) :: rest, st.result⟩
  | .obj members name :: rest => ⟨.next, .obj ((name, doc) :: members) none :: rest, st.result⟩

/-- Close all open containers around a last piece. -/
def abandon : List Open → Document → Document
  | [], doc => doc
  | .arr items :: rest, doc => abandon rest (.arr (doc :: items).reverse false)
  | .obj members name :: rest, doc =>
    abandon rest (.obj ((name, doc) :: members).reverse false)

/-- Close all open containers where a name, a comma or an end is missing. -/
def abandonBetween : List Open → Document
  | [] => .broken
  | .arr items :: rest => abandon rest (.arr items.reverse false)
  | .obj members _ :: rest => abandon rest (.obj members.reverse false)

/-- The text breaks where a value is wanted. -/
def breakValue (st : State) : State :=
  ⟨.stopped, [], some (abandon st.stack .broken)⟩

/-- The text breaks between values; a complete outermost value stays. -/
def breakBetween (st : State) : State :=
  match st.stack with
  | [] => { st with mode := .stopped }
  | _ => ⟨.stopped, [], some (abandonBetween st.stack)⟩

/-- Break where the mode says. -/
def halt (st : State) : State :=
  match st.mode with
  | .name _ | .next => st.breakBetween
  | .text s | .escape s | .hex s _ _ => if s.isName then st.breakBetween else st.breakValue
  | .value _ | .colon | .number _ | .word _ _ => st.breakValue
  | .stopped => st

/-- End the innermost container. -/
def close (st : State) (c : Char) : State :=
  match st.stack with
  | .arr items :: rest =>
    if c = ']' then { st with stack := rest }.put (.arr items.reverse true) else st.halt
  | .obj members _ :: rest =>
    if c = '\x7d' then { st with stack := rest }.put (.obj members.reverse true) else st.halt
  | [] => st.halt

/-- A character after a complete value. -/
def feedNext (st : State) (c : Char) : State :=
  if isGap c then st
  else if c = ',' then
    match st.stack with
    | .arr _ :: _ => { st with mode := .value false }
    | .obj _ _ :: _ => { st with mode := .name false }
    | [] => st.halt
  else st.close c

/-- A character where a value is wanted. -/
def feedValue (st : State) (orEnd : Bool) (c : Char) : State :=
  if isGap c then st
  else if c = '[' then ⟨.value true, .arr [] :: st.stack, st.result⟩
  else if c = '\x7b' then ⟨.name true, .obj [] none :: st.stack, st.result⟩
  else if c = '"' then { st with mode := .text ⟨false, [], true, none⟩ }
  else if c = 't' then { st with mode := .word ['r', 'u', 'e'] (.bool true) }
  else if c = 'f' then { st with mode := .word ['a', 'l', 's', 'e'] (.bool false) }
  else if c = 'n' then { st with mode := .word ['u', 'l', 'l'] .null }
  else
    match Numeral.start? c with
    | some n => { st with mode := .number n }
    | none => if orEnd && c = ']' then st.close c else st.halt

/-- A character where a field name is wanted. -/
def feedName (st : State) (orEnd : Bool) (c : Char) : State :=
  if isGap c then st
  else if c = '"' then { st with mode := .text ⟨true, [], true, none⟩ }
  else if orEnd && c = '\x7d' then st.close c
  else st.halt

/-- The closing quote of a text. -/
def endText (st : State) (s : Span) : State :=
  if s.isName then
    match st.stack with
    | .obj members _ :: rest => ⟨.colon, .obj members s.text? :: rest, st.result⟩
    | _ => st.halt
  else
    match s.text? with
    | some t => st.put (.leaf (.str t))
    | none => st.put .unreadable

/-- A character of a text. -/
def feedText (st : State) (s : Span) (c : Char) : State :=
  if c = '"' then st.endText s
  else if c = '\\' then { st with mode := .escape s }
  else if c.toNat < 0x20 then st.halt
  else { st with mode := .text (s.push c) }

/-- The character after a backslash. -/
def feedEscape (st : State) (s : Span) (c : Char) : State :=
  if c = 'u' then { st with mode := .hex s 4 0 }
  else
    match shortEscape? c with
    | some d => { st with mode := .text (s.push d) }
    | none => st.halt

/-- A hexadecimal digit of a code unit. -/
def feedHex (st : State) (s : Span) (left unit : Nat) (c : Char) : State :=
  match Text.hexValue? c with
  | none => st.halt
  | some d =>
    let unit := unit * 16 + d
    if left ≤ 1 then { st with mode := .text (s.pushUnit unit) }
    else { st with mode := .hex s (left - 1) unit }

/-- Take one character. -/
def feed (st : State) (c : Char) : State :=
  match st.mode with
  | .value orEnd => st.feedValue orEnd c
  | .name orEnd => st.feedName orEnd c
  | .colon => if isGap c then st else if c = ':' then { st with mode := .value false } else st.halt
  | .next => st.feedNext c
  | .text s => st.feedText s c
  | .escape s => st.feedEscape s c
  | .hex s left unit => st.feedHex s left unit c
  | .number n =>
    match n.feed c with
    | .more n => { st with mode := .number n }
    | .ended => (st.put n.document).feedNext c
    | .wrong => st.halt
  | .word left v =>
    match left with
    | [] => st.halt
    | [d] => if c = d then st.put (.leaf v) else st.halt
    | d :: rest => if c = d then { st with mode := .word rest v } else st.halt
  | .stopped => st

/-- The end of the text. -/
def finish (st : State) : State :=
  match st.mode, st.stack with
  | .number n, _ => if n.complete then
      let st := st.put n.document
      match st.stack with
      | [] => st
      | _ => st.halt
    else st.halt
  | .next, [] => st
  | _, _ => st.halt

end State

/-- What a text holds: its outermost value, and whether nothing but blanks
    comes after it. -/
structure Outline where
  /-- the outermost value -/
  document : Document
  /-- whether nothing comes after it -/
  clean : Bool
deriving Repr

/-- Read a text. -/
def outline (s : String) : Outline :=
  let st := (s.toList.foldl State.feed State.start).finish
  ⟨st.result.getD .broken, match st.mode with | .stopped => false | _ => true⟩

/-- The number of containers that may be open at once. -/
def maxDepth : Nat := 127

/-- Read a text as a free-form value. -/
def parse (s : String) : Except Problem Json :=
  let o := outline s
  match o.document.value (some maxDepth) with
  | .error p => .error p
  | .ok v => if o.clean then .ok v else .error .malformed

end HomeGateway.Json
