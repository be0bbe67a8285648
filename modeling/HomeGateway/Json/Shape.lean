/-
  Shapes of typed documents.

  A `Shape` says what a document must be: a text, a flag, a whole number of a
  width, a row of free-form values, one of several names, a record of named
  fields.  `Shape.read` looks at a document from left to right and gives
  either its normal form, a value in which every field of every record is
  present, or the first problem it meets.

  A record is an object or an array of its fields in their order.  Fields of
  an object may come in any order; unknown ones are passed over; those that
  are missing at its end take their default or are a problem, in the order of
  the record.  A tagged record has a name and a content whose shape the name
  selects; the content may come first, and is then looked at once the name is
  known.
-/
import HomeGateway.Json.Reader

namespace HomeGateway.Json

/-! ## Shapes -/

/-- A width of unsigned whole numbers. -/
inductive Width where
  /-- eight bits -/
  | bits8
  /-- sixteen bits -/
  | bits16
  /-- thirty-two bits -/
  | bits32
  /-- sixty-four bits -/
  | bits64
  /-- sixty-four bits, for counts -/
  | counts
deriving DecidableEq, Repr

/-- The greatest number of a width. -/
def Width.max : Width → Nat
  | .bits8 => 0xff
  | .bits16 => 0xffff
  | .bits32 => 0xffffffff
  | .bits64 | .counts => 0xffffffffffffffff

/-- What a width is called in messages. -/
def Width.name : Width → String
  | .bits8 => "u8"
  | .bits16 => "u16"
  | .bits32 => "u32"
  | .bits64 => "u64"
  | .counts => "usize"

/-- What a document must be. -/
inductive Shape where
  /-- a text -/
  | text
  /-- `true` or `false` -/
  | flag
  /-- a whole number of a width -/
  | whole (w : Width)
  /-- any value -/
  | any
  /-- an array of any values -/
  | list
  /-- an object with any fields -/
  | map
  /-- one of these names -/
  | name (known : List String)
  /-- `null` or a shape; `null` stays `null` -/
  | optional (s : Shape)
  /-- `null` or a shape; `null` becomes the given value -/
  | withDefault (default : Json) (s : Shape)
  /-- named fields, each with its shape and the value it has if missing -/
  | record (title : String) (fields : List (String × Shape × Option Json))
  /-- a name and a content whose shape the name selects -/
  | tagged (title tag content : String) (cases : List (String × Shape))
deriving Inhabited

/-- Where a document comes from. -/
inductive Source where
  /-- a text that is being read -/
  | text
  /-- a value -/
  | value
  /-- a piece of a text kept until it was known what it must be -/
  | kept
deriving DecidableEq, Repr

/-- How a document is read: its source and the room for containers. -/
structure Reading where
  /-- where the document comes from -/
  source : Source
  /-- how many containers may still be opened -/
  room : Document.Room

namespace Reading

/-- Reading a text from its start. -/
def ofText : Reading := ⟨.text, some maxDepth⟩

/-- Reading a value. -/
def ofValue : Reading := ⟨.value, none⟩

/-- Reading a kept piece. -/
def ofKept : Reading := ⟨.kept, none⟩

/-- Reading inside a container. -/
def enter (r : Reading) : Except Problem Reading :=
  match Document.enter r.room with
  | .ok room => .ok { r with room := room }
  | .error p => .error p

end Reading

/-- What looks at a document. -/
abbrev Look := Reading → Document → Except Problem Json

/-! ## Leaves -/

/-- A text. -/
def lookText : Look := fun _ doc =>
  match doc with
  | .leaf (.str s) => .ok (.str s)
  | doc => .error (doc.mismatch "a string")

/-- A flag. -/
def lookFlag : Look := fun _ doc =>
  match doc with
  | .leaf (.bool b) => .ok (.bool b)
  | doc => .error (doc.mismatch "a boolean")

/-- A whole number of a width. -/
def lookWhole (w : Width) : Look := fun _ doc =>
  match doc with
  | .leaf (.int i) =>
    if 0 ≤ i ∧ i ≤ w.max then .ok (.int i)
    else .error (.outOfRange ("integer " ++ accented (String.ofList (intChars i))) w.name)
  | doc => .error (doc.mismatch w.name)

/-- An array of any values. -/
def lookList : Look := fun r doc =>
  match doc with
  | .arr _ _ => doc.value r.room
  | doc => .error (doc.mismatch "a sequence")

/-- An object with any fields. -/
def lookMap : Look := fun r doc =>
  match doc with
  | .obj _ _ => doc.value r.room
  | doc => .error (doc.mismatch "a map")

/-- A name among those known. -/
def nameAmong (known : List String) (s : String) : Except Problem Json :=
  if s ∈ known then .ok (.str s) else .error (.unknownName s known)

/-- A name among those known.  It may also be the only field of an object,
    with the value `null`. -/
def lookName (known : List String) : Look := fun r doc =>
  match doc with
  | .leaf (.str s) => nameAmong known s
  | .obj [] true =>
    if r.source = .text then .error .malformed
    else .error (.outOfRange "map" "map with a single key")
  | .obj ((some k, .leaf .null) :: rest) closed =>
    if r.source ≠ .text ∧ rest ≠ [] then .error (.outOfRange "map" "map with a single key")
    else
      match r.enter, nameAmong known k with
      | .error p, _ => .error p
      | _, .error p => .error p
      | _, .ok v => if rest = [] ∧ closed then .ok v else .error .malformed
  | .obj ((some k, doc) :: rest) _ =>
    if r.source ≠ .text ∧ rest ≠ [] then .error (.outOfRange "map" "map with a single key")
    else
      match r.enter, nameAmong known k with
      | .error p, _ => .error p
      | _, .error p => .error p
      | _, .ok _ => .error (doc.mismatch "unit")
  | doc =>
    if r.source = .text then .error .malformed else .error (doc.mismatch "string or map")

/-! ## Records -/

/-- A field as it is looked for. -/
structure Field where
  /-- its name -/
  name : String
  /-- what looks at its value -/
  look : Look
  /-- its value if it is missing -/
  default? : Option Json

/-- The wanted thing in messages about a record. -/
def recordTitle (title : String) : String :=
  "struct " ++ title

/-- The wanted thing in messages about the length of a record. -/
def recordLength (title : String) (n : Nat) : String :=
  recordTitle title ++ " with " ++ Text.showNat n ++ (if n = 1 then " element" else " elements")

/-- The problem of items after the last field of a record. -/
def surplus (source : Source) (fields extra : Nat) : Problem :=
  match source with
  | .text => .malformed
  | .value => .wrongLength (fields + extra) "fewer elements in array"
  | .kept =>
    .wrongLength (fields + extra)
      (Text.showNat fields ++ (if fields = 1 then " element" else " elements") ++ " in sequence")

/-- The fields of a record that is an array, `index` of them read. -/
def readItems (r : Reading) (title : String) (count : Nat) (closed : Bool) :
    Nat → List Field → List Document → Except Problem Fields
  | _, [], [] => if closed then .ok [] else .error .malformed
  | _, [], extra => .error (surplus r.source count extra.length)
  | index, f :: fields, [] =>
    if closed then
      match f.default? with
      | none => .error (.wrongLength index (recordLength title count))
      | some v =>
        match readItems r title count closed (index + 1) fields [] with
        | .ok rest => .ok (rest.insert f.name v)
        | .error p => .error p
    else .error .malformed
  | index, f :: fields, doc :: docs =>
    match f.look r doc with
    | .error p => .error p
    | .ok v =>
      match readItems r title count closed (index + 1) fields docs with
      | .ok rest => .ok (rest.insert f.name v)
      | .error p => .error p

/-- The members of a record that is an object, on top of those read. -/
def readMembers (r : Reading) (fields : List Field) :
    Fields → List (Option String × Document) → Except Problem Fields
  | done, [] => .ok done
  | _, (none, _) :: _ => .error .malformed
  | done, (some k, doc) :: rest =>
    match fields.find? (·.name = k) with
    | none => readMembers r fields done rest
    | some f =>
      if done.has k then .error (.duplicateField k)
      else
        match f.look r doc with
        | .error p => .error p
        | .ok v => readMembers r fields (done.insert k v) rest

/-- Give the missing fields their defaults. -/
def fillMissing : List Field → Fields → Except Problem Fields
  | [], done => .ok done
  | f :: fields, done =>
    if done.has f.name then fillMissing fields done
    else
      match f.default? with
      | some v => fillMissing fields (done.insert f.name v)
      | none => .error (.missingField f.name)

/-- A record of these fields. -/
def lookRecord (title : String) (fields : List Field) : Look := fun r doc =>
  match doc with
  | .arr items closed =>
    match r.enter with
    | .error p => .error p
    | .ok inner =>
      match readItems inner title fields.length closed 0 fields items with
      | .ok done => .ok (.obj done)
      | .error p => .error p
  | .obj members closed =>
    match r.enter with
    | .error p => .error p
    | .ok inner =>
      match readMembers inner fields [] members with
      | .error p => .error p
      | .ok done =>
        if closed then
          match fillMissing fields done with
          | .ok done => .ok (.obj done)
          | .error p => .error p
        else .error .malformed
  | doc => .error (doc.mismatch (recordTitle title))

/-! ## Tagged records -/

/-- The wanted thing in messages about a tagged record. -/
def taggedTitle (title : String) : String :=
  "adjacently tagged enum " ++ title

/-- The cases of a tagged record: a name and what looks at the content. -/
abbrev Cases := List (String × Look)

/-- What looks at the content that a name selects. -/
def caseLook (cases : Cases) (name : Json) : Look :=
  match cases.find? fun c => name.text? = some c.1 with
  | some c => c.2
  | none => fun _ _ => .error .malformed

/-- Members of a tagged record up to the next that is its tag or its content,
    with those after it. -/
def nextRelevant (tag content : String) :
    List (Option String × Document) →
      Option (Option String × Document × List (Option String × Document))
  | [] => none
  | (none, doc) :: rest => some (none, doc, rest)
  | (some k, doc) :: rest =>
    if k = tag ∨ k = content then some (some k, doc, rest) else nextRelevant tag content rest

/-- The end of a tagged record that is an object: neither field comes
    again. -/
def endTagged (tag content : String) (closed : Bool) (rest : List (Option String × Document))
    (name value : Json) : Except Problem Json :=
  match nextRelevant tag content rest with
  | some (some k, _, _) => .error (.duplicateField k)
  | some (none, _, _) => .error .malformed
  | none => if closed then .ok (ofPairs [(tag, name), (content, value)]) else .error .malformed

/-- A tagged record that is an object, its tag first. -/
def tagFirst (tag content : String) (cases : Cases) (r : Reading) (closed : Bool)
    (doc : Document) (rest : List (Option String × Document)) : Except Problem Json :=
  match lookName (cases.map (·.1)) r doc with
  | .error p => .error p
  | .ok name =>
    match nextRelevant tag content rest with
    | none => if closed then .error (.missingField content) else .error .malformed
    | some (none, _, _) => .error .malformed
    | some (some k, value, rest) =>
      if k = tag then .error (.duplicateField tag)
      else
        match caseLook cases name r value with
        | .error p => .error p
        | .ok v => endTagged tag content closed rest name v

/-- A tagged record that is an object, its content first. -/
def contentFirst (tag content : String) (cases : Cases) (r : Reading) (closed : Bool)
    (value : Document) (rest : List (Option String × Document)) : Except Problem Json :=
  match value.value r.room with
  | .error p => .error p
  | .ok _ =>
    match nextRelevant tag content rest with
    | none => if closed then .error (.missingField tag) else .error .malformed
    | some (none, _, _) => .error .malformed
    | some (some k, doc, rest) =>
      if k = content then .error (.duplicateField content)
      else
        match lookName (cases.map (·.1)) r doc with
        | .error p => .error p
        | .ok name =>
          match caseLook cases name .ofKept value with
          | .error p => .error p
          | .ok v => endTagged tag content closed rest name v

/-- A tagged record. -/
def lookTagged (title tag content : String) (cases : Cases) : Look := fun r doc =>
  match doc with
  | .arr items closed =>
    match r.enter with
    | .error p => .error p
    | .ok inner =>
      match items with
      | [] => .error (if closed then .wrongLength 0 (taggedTitle title) else .malformed)
      | doc :: rest =>
        match lookName (cases.map (·.1)) inner doc with
        | .error p => .error p
        | .ok name =>
          match rest with
          | [] => .error (if closed then .wrongLength 1 (taggedTitle title) else .malformed)
          | value :: extra =>
            match caseLook cases name inner value with
            | .error p => .error p
            | .ok v =>
              if extra ≠ [] then .error (surplus r.source 2 extra.length)
              else if closed then .ok (ofPairs [(tag, name), (content, v)])
              else .error .malformed
  | .obj members closed =>
    match r.enter with
    | .error p => .error p
    | .ok inner =>
      match nextRelevant tag content members with
      | none => .error (if closed then .missingField tag else .malformed)
      | some (none, _, _) => .error .malformed
      | some (some k, doc, rest) =>
        if k = tag then tagFirst tag content cases inner closed doc rest
        else contentFirst tag content cases inner closed doc rest
  | doc => .error (doc.mismatch (taggedTitle title))

/-! ## Reading a shape -/

mutual

/-- What looks at a document of a shape. -/
def Shape.look : Shape → Look
  | .text => lookText
  | .flag => lookFlag
  | .whole w => lookWhole w
  | .any => fun r doc => doc.value r.room
  | .list => lookList
  | .map => lookMap
  | .name known => lookName known
  | .optional s => fun r doc =>
    match doc with
    | .leaf .null => .ok .null
    | doc => s.look r doc
  | .withDefault v s => fun r doc =>
    match doc with
    | .leaf .null => .ok v
    | doc => s.look r doc
  | .record title fields => lookRecord title (lookFields fields)
  | .tagged title tag content cases => lookTagged title tag content (lookCases cases)
termination_by structural s => s

/-- The fields of a record as they are looked for. -/
def lookFields : List (String × Shape × Option Json) → List Field
  | [] => []
  | (name, s, default?) :: rest => ⟨name, s.look, default?⟩ :: lookFields rest
termination_by structural s => s

/-- The cases of a tagged record as they are looked at. -/
def lookCases : List (String × Shape) → Cases
  | [] => []
  | (name, s) :: rest => (name, s.look) :: lookCases rest
termination_by structural s => s

end

/-- The normal form of a text of a shape, or the first problem with it. -/
def Shape.readText (s : Shape) (t : String) : Except Problem Json :=
  let o := outline t
  match s.look .ofText o.document with
  | .error p => .error p
  | .ok v => if o.clean then .ok v else .error .malformed

/-- The normal form of a value of a shape, or the first problem with it. -/
def Shape.readValue (s : Shape) (v : Json) : Except Problem Json :=
  s.look .ofValue (.ofJson v)

/-- A field that has to be there. -/
def needed (name : String) (s : Shape) : String × Shape × Option Json :=
  (name, s, none)

/-- A field that may be missing. -/
def defaulted (name : String) (s : Shape) (v : Json) : String × Shape × Option Json :=
  (name, s, some v)

/-- A field that may be missing or `null`. -/
def absent (name : String) (s : Shape) : String × Shape × Option Json :=
  (name, .optional s, some .null)

end HomeGateway.Json
