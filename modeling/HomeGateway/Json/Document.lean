/-
  JSON texts as far as they can be read.

  A `Document` is the tree of a text from its start to the place where it
  stops being JSON.  It keeps what a value forgets: the order and repetition
  of fields, pieces that are well formed but denote nothing (half of a
  surrogate pair, a number too large), and where the text breaks off.  Whoever
  looks at a document from left to right meets its faults in their order.

  `Problem` lists what can be wrong with a document, `Problem.message` words
  it.  `Document.value` reads a free-form value, `Document.ofJson` is the
  document of a value.
-/
import HomeGateway.Json.Printer
import HomeGateway.Text.Quoted

namespace HomeGateway.Json

/-! ## Problems -/

/-- What is wrong with a document. -/
inductive Problem where
  /-- it is no JSON text -/
  | malformed
  /-- a value of another type -/
  | wrongType (found wanted : String)
  /-- a number beyond the range of its type -/
  | outOfRange (found wanted : String)
  /-- too few or too many items for a record -/
  | wrongLength (length : Nat) (wanted : String)
  /-- a record without a field it needs -/
  | missingField (name : String)
  /-- a record with a field given twice -/
  | duplicateField (name : String)
  /-- a name outside an enumeration -/
  | unknownName (name : String) (known : List String)
  /-- a value that its own rule refuses -/
  | refused (reason : String)
deriving DecidableEq, Repr

/-- A name in grave accents. -/
def accented (s : String) : String :=
  "\x60" ++ s ++ "\x60"

/-- The names of an enumeration, as a choice. -/
def choice (known : List String) : String :=
  match known with
  | [a] => accented a
  | [a, b] => accented a ++ " or " ++ accented b
  | names => "one of " ++ ", ".intercalate (names.map accented)

/-- The wording of a problem. -/
def Problem.message : Problem → String
  | .malformed => "<syntax>"
  | .wrongType found wanted => "invalid type: " ++ found ++ ", expected " ++ wanted
  | .outOfRange found wanted => "invalid value: " ++ found ++ ", expected " ++ wanted
  | .wrongLength n wanted => "invalid length " ++ Text.showNat n ++ ", expected " ++ wanted
  | .missingField name => "missing field " ++ accented name
  | .duplicateField name => "duplicate field " ++ accented name
  | .unknownName name known =>
    "unknown variant " ++ accented name ++ ", expected " ++ choice known
  | .refused reason => reason

/-! ## Documents -/

/-- A JSON text, as far as it can be read. -/
inductive Document where
  /-- a value that is neither an array nor an object -/
  | leaf (v : Json)
  /-- well-formed text that denotes no value -/
  | unreadable
  /-- the place where the text stops being JSON -/
  | broken
  /-- an array; `closed` says that its end was read -/
  | arr (items : List Document) (closed : Bool)
  /-- an object; a name that denotes no text is `none` -/
  | obj (members : List (Option String × Document)) (closed : Bool)
deriving Repr, Inhabited

namespace Document

/-- What a value is called in a message; a document without a value has no
    name. -/
def found? : Document → Option String
  | .leaf .null => some "null"
  | .leaf (.bool b) => some ("boolean " ++ accented (if b then "true" else "false"))
  | .leaf (.int i) => some ("integer " ++ accented (String.ofList (intChars i)))
  | .leaf (.float d) => some ("floating point " ++ accented (floatText d))
  | .leaf (.str s) => some ("string " ++ Text.quote s)
  | .leaf (.arr _) | .arr _ _ => some "sequence"
  | .leaf (.obj _) | .obj _ _ => some "map"
  | .unreadable | .broken => none

/-- The problem with a document where `wanted` is wanted. -/
def mismatch (doc : Document) (wanted : String) : Problem :=
  match doc.found? with
  | some found => .wrongType found wanted
  | none => .malformed

/-- How many containers may still be opened; `none` is any number. -/
abbrev Room := Option Nat

/-- The room inside a container. -/
def enter : Room → Except Problem Room
  | none => .ok none
  | some 0 => .error .malformed
  | some (n + 1) => .ok (some n)

mutual

/-- The free-form value of a document. -/
def value (room : Room) : Document → Except Problem Json
  | .leaf v => .ok v
  | .unreadable => .error .malformed
  | .broken => .error .malformed
  | .arr items closed =>
    match enter room with
    | .error p => .error p
    | .ok inner =>
      match values inner items with
      | .error p => .error p
      | .ok vs => if closed then .ok (.arr vs) else .error .malformed
  | .obj members closed =>
    match enter room with
    | .error p => .error p
    | .ok inner =>
      match fields inner members with
      | .error p => .error p
      | .ok fs => if closed then .ok (.obj (Fields.ofList fs)) else .error .malformed
termination_by structural doc => doc

/-- The values of the items of an array. -/
def values (room : Room) : List Document → Except Problem (List Json)
  | [] => .ok []
  | doc :: rest =>
    match value room doc with
    | .error p => .error p
    | .ok v =>
      match values room rest with
      | .error p => .error p
      | .ok vs => .ok (v :: vs)
termination_by structural docs => docs

/-- The fields of an object, in the order of the text. -/
def fields (room : Room) :
    List (Option String × Document) → Except Problem (List (String × Json))
  | [] => .ok []
  | (name, doc) :: rest =>
    match name with
    | none => .error .malformed
    | some k =>
      match value room doc with
      | .error p => .error p
      | .ok v =>
        match fields room rest with
        | .error p => .error p
        | .ok fs => .ok ((k, v) :: fs)
termination_by structural docs => docs

end

mutual

/-- The document of a value. -/
def ofJson : Json → Document
  | .arr items => .arr (ofItems items) true
  | .obj fs => .obj (ofFields fs) true
  | .null => .leaf .null
  | .bool b => .leaf (.bool b)
  | .int i => .leaf (.int i)
  | .float d => .leaf (.float d)
  | .str s => .leaf (.str s)
termination_by structural v => v

/-- The documents of the items of an array. -/
def ofItems : List Json → List Document
  | [] => []
  | v :: vs => ofJson v :: ofItems vs
termination_by structural v => v

/-- The members of an object. -/
def ofFields : List (String × Json) → List (Option String × Document)
  | [] => []
  | (k, v) :: fs => (some k, ofJson v) :: ofFields fs
termination_by structural v => v

end

end Document

end HomeGateway.Json
