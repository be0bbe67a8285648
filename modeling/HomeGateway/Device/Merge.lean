/-
  Attribute trees: what a device type offers, and what a caller asks for.

  `merge defaults overrides` keeps the shape of the defaults.  A key that only
  the caller has is dropped; where both hold an object the merge goes on
  inside; any other value of the caller replaces the default, `null` included.

  * `get?_merge`: the merge, key by key;
  * `keys_merge`: the merge has the keys of the defaults;
  * `merge_nil`: without overrides the defaults remain.
-/
import HomeGateway.Json.Basic

namespace HomeGateway.Device

open HomeGateway

mutual

/-- The value of a key whose default is `d`, given the caller's value. -/
def choose : Json → Option Json → Json
  | .obj ds, some (.obj os) => .obj (merge ds os)
  | _, some o => o
  | d, none => d
termination_by structural d => d

/-- Merge the caller's fields into the default fields. -/
def merge : List (String × Json) → Fields → List (String × Json)
  | [], _ => []
  | (k, d) :: rest, os => (k, choose d (os.get? k)) :: merge rest os
termination_by structural ds => ds

end

theorem keys_merge (ds : List (String × Json)) (os : Fields) :
    (merge ds os).map Prod.fst = ds.map Prod.fst := by
  induction ds with
  | nil => simp [merge]
  | cons p rest ih =>
    obtain ⟨k, d⟩ := p
    simp [merge, ih]

theorem get?_merge (key : String) (ds os : Fields) :
    Fields.get? key (merge ds os) = (ds.get? key).map fun d => choose d (os.get? key) := by
  induction ds with
  | nil => simp [merge, Fields.get?]
  | cons p rest ih =>
    obtain ⟨k, d⟩ := p
    by_cases h : k = key
    · subst h
      simp [merge, Fields.get?]
    · simp [merge, Fields.get?, h, ih]

theorem choose_none (d : Json) : choose d none = d := by
  cases d <;> simp [choose]

theorem merge_nil (ds : Fields) : merge ds [] = ds := by
  induction ds with
  | nil => simp [merge]
  | cons p rest ih =>
    obtain ⟨k, d⟩ := p
    simp [merge, Fields.get?, choose_none, ih]

/-- The value at a cluster and attribute of a tree. -/
def leaf? (tree : Fields) (cluster attr : String) : Option Json :=
  (tree.get? cluster).bind (·.get? attr)

end HomeGateway.Device
