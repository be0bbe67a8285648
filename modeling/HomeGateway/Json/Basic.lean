/-
  JSON values.

  Whole numbers and floating-point numbers are different values, as `1` and
  `1.0` are different texts.  An object is the list of its fields in ascending
  order of their names; `Fields.insert` keeps that order and replaces a field
  of the same name.

  * `get?_insert_self`, `get?_insert_of_ne`: what a field holds after `insert`;
  * `get?_erase_of_ne`: `erase` leaves the other fields alone;
  * `same` is equality of values, in which the two floating-point zeros are
    one number.
-/
import HomeGateway.Number.Shortest

namespace HomeGateway

/-- A JSON value. -/
inductive Json where
  /-- `null` -/
  | null
  /-- `true` or `false` -/
  | bool (b : Bool)
  /-- a whole number -/
  | int (i : Int)
  /-- a number with a point or an exponent -/
  | float (d : Double)
  /-- a text -/
  | str (s : String)
  /-- a row of values -/
  | arr (items : List Json)
  /-- named values, in ascending order of the names -/
  | obj (fields : List (String × Json))
deriving Repr, Inhabited

/-- The fields of an object. -/
abbrev Fields := List (String × Json)

namespace Fields

/-- The value of a field. -/
def get? (name : String) : Fields → Option Json
  | [] => none
  | (k, v) :: rest => if k = name then some v else get? name rest

/-- Whether there is a field of that name. -/
def has (name : String) (fs : Fields) : Bool :=
  (fs.get? name).isSome

/-- Set a field. -/
def insert (name : String) (value : Json) : Fields → Fields
  | [] => [(name, value)]
  | (k, v) :: rest =>
    if name < k then (name, value) :: (k, v) :: rest
    else if k = name then (name, value) :: rest
    else (k, v) :: insert name value rest

/-- Take a field away. -/
def erase (name : String) : Fields → Fields
  | [] => []
  | (k, v) :: rest => if k = name then erase name rest else (k, v) :: erase name rest

/-- The fields of a list of pairs; of two with one name the later counts. -/
def ofList (pairs : List (String × Json)) : Fields :=
  pairs.foldl (fun fs p => fs.insert p.1 p.2) []

/-- Names in strictly ascending order. -/
def Sorted (fs : Fields) : Prop :=
  fs.Pairwise fun a b => a.1 < b.1

theorem get?_insert_self (name : String) (v : Json) (fs : Fields) :
    (fs.insert name v).get? name = some v := by
  induction fs with
  | nil => simp [insert, get?]
  | cons p rest ih =>
    obtain ⟨k, w⟩ := p
    simp only [insert]
    split
    · simp [get?]
    · split
      · simp [get?]
      · rename_i h
        simp [get?, h, ih]

theorem get?_insert_of_ne {name other : String} (v : Json) (fs : Fields) (h : other ≠ name) :
    (fs.insert name v).get? other = fs.get? other := by
  induction fs with
  | nil => simp [insert, get?, Ne.symm h]
  | cons p rest ih =>
    obtain ⟨k, w⟩ := p
    simp only [insert]
    split
    · simp [get?, Ne.symm h]
    · split
      · rename_i hk
        subst hk
        simp [get?, Ne.symm h]
      · simp only [get?, ih]

theorem get?_erase_of_ne {name other : String} (fs : Fields) (h : other ≠ name) :
    (fs.erase name).get? other = fs.get? other := by
  induction fs with
  | nil => rfl
  | cons p rest ih =>
    obtain ⟨k, w⟩ := p
    by_cases hk : k = name
    · subst hk
      simp [erase, get?, Ne.symm h, ih]
    · simp only [erase, hk, if_false, get?, ih]

theorem get?_erase_self (name : String) (fs : Fields) : (fs.erase name).get? name = none := by
  induction fs with
  | nil => rfl
  | cons p rest ih =>
    obtain ⟨k, w⟩ := p
    by_cases hk : k = name <;> simp [erase, get?, hk, ih]

end Fields

namespace Json

/-- A field of an object; other values have none. -/
def get? (name : String) : Json → Option Json
  | .obj fs => Fields.get? name fs
  | _ => none

/-- Whether the value is `null`. -/
def isNull : Json → Bool
  | .null => true
  | _ => false

/-- The fields of an object. -/
def fields? : Json → Option Fields
  | .obj fs => some fs
  | _ => none

/-- The text of a text value. -/
def text? : Json → Option String
  | .str s => some s
  | _ => none

/-- The truth value of a boolean. -/
def bool? : Json → Option Bool
  | .bool b => some b
  | _ => none

/-- The number of a whole number that is not negative. -/
def nat? : Json → Option Nat
  | .int (.ofNat n) => some n
  | _ => none

/-- The items of an array. -/
def items? : Json → Option (List Json)
  | .arr xs => some xs
  | _ => none

/-- An object of fields in any order. -/
def ofPairs (pairs : List (String × Json)) : Json :=
  .obj (Fields.ofList pairs)

/-- A whole number. -/
def ofNat (n : Nat) : Json :=
  .int n

/-- The value, or `null` if there is none. -/
def ofOption : Option Json → Json
  | some v => v
  | none => .null

mutual

/-- Equality of values; the two floating-point zeros are equal. -/
def same : Json → Json → Bool
  | .null, .null => true
  | .bool a, .bool b => a = b
  | .int a, .int b => a = b
  | .float a, .float b => a.same b
  | .str a, .str b => a = b
  | .arr xs, .arr ys => sameItems xs ys
  | .obj xs, .obj ys => sameFields xs ys
  | _, _ => false
termination_by structural a => a

/-- Equality of rows of values. -/
def sameItems : List Json → List Json → Bool
  | [], [] => true
  | x :: xs, y :: ys => same x y && sameItems xs ys
  | _, _ => false
termination_by structural a => a

/-- Equality of fields. -/
def sameFields : List (String × Json) → List (String × Json) → Bool
  | [], [] => true
  | (k, x) :: xs, (l, y) :: ys => k = l && same x y && sameFields xs ys
  | _, _ => false
termination_by structural a => a

end

end Json

end HomeGateway
