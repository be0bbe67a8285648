/-
  Laws of the merge.

  A path of names leads from an object into the objects inside it.  Where both
  sides hold an object at a path, the merge holds the merge of these two there,
  so what is so at the top is so at every depth.

  * `inner?_merge`: the merge at a path;
  * `choose_self`, `choose_choose`: what is chosen once is chosen again;
  * `merge_laws`: keys and values at every path, and what repeated merging gives.
-/
import HomeGateway.Device.Merge
import HomeGateway.Proofs.FieldOrder

namespace HomeGateway.Device

open HomeGateway

/-- The object that a path of names leads to, through objects only. -/
def inner? : List String → Fields → Option Fields
  | [], fs => some fs
  | name :: path, fs => ((fs.get? name).bind Json.fields?).bind (inner? path)

variable {ds os : Fields} {v w : Json}

theorem merge_eq_map (ds os : Fields) :
    merge ds os = ds.map fun p => (p.1, choose p.2 (os.get? p.1)) := by
  induction ds with
  | nil => simp [merge]
  | cons p ds ih => simp [merge, ih]

/-! ## Choosing -/

theorem choose_obj (ds os : Fields) : choose (.obj ds) (some (.obj os)) = .obj (merge ds os) := by
  simp [choose]

/-- Unless both values are objects, the caller's replaces the default. -/
theorem choose_other (other : v.fields? = none ∨ w.fields? = none) : choose v (some w) = w := by
  rcases other with h | h
  · cases v <;> simp [choose, Json.fields?] at h ⊢
  · cases w <;> cases v <;> simp [choose, Json.fields?] at h ⊢

/-- A merge that chooses the default for every key changes nothing. -/
theorem merge_eq_self (own : ∀ p ∈ ds, choose p.2 (os.get? p.1) = p.2) : merge ds os = ds := by
  rw [merge_eq_map]
  refine (List.map_congr_left fun p hp => ?_).trans (List.map_id' ds)
  rw [own p hp]

theorem choose_self (h : v.Ordered) : choose v (some v) = v := by
  induction h with
  | null | bool | int | float | str | arr => simp [choose]
  | @obj fs sorted _ ih =>
    have own : ∀ p ∈ fs, choose p.2 (fs.get? p.1) = p.2 := by
      intro p hp
      rw [(Fields.get?_eq_some sorted).2 hp]
      exact ih p hp
    rw [choose_obj, merge_eq_self own]

/-- What was chosen once is chosen again. -/
theorem choose_choose (hv : v.Ordered) (hw : w.Ordered) :
    choose (choose v (some w)) (some w) = choose v (some w) := by
  induction hv generalizing w with
  | null | bool | int | float | str | arr => simpa [choose] using choose_self hw
  | @obj fs _ _ ih =>
    cases hw with
    | null | bool | int | float | str | arr => simp [choose]
    | @obj gs sorted each =>
      -- Each field of the merge was chosen once, from the same caller's value.
      have own : ∀ p ∈ merge fs gs, choose p.2 (gs.get? p.1) = p.2 := by
        intro p hp
        rw [merge_eq_map] at hp
        obtain ⟨q, hq, rfl⟩ := List.mem_map.1 hp
        dsimp only
        cases found : gs.get? q.1 with
        | none => rw [choose_none, choose_none]
        | some w => exact ih q hq (each _ (Fields.mem_of_get? found))
      rw [choose_obj, choose_obj, merge_eq_self own]

/-! ## Merging at a path -/

/-- Where both sides hold an object, the merge holds the merge of the two. -/
theorem inner?_merge {path : List String} {d o : Fields} (hd : inner? path d = some ds)
    (ho : inner? path o = some os) : inner? path (merge d o) = some (merge ds os) := by
  induction path generalizing d o with
  | nil =>
    cases hd
    cases ho
    rfl
  | cons name path ih =>
    simp only [inner?, Option.bind_eq_some_iff] at hd ho
    obtain ⟨ds', ⟨v, hv, isObject⟩, hd⟩ := hd
    obtain ⟨os', ⟨w, hw, isObject'⟩, ho⟩ := ho
    cases v <;> cases isObject
    cases w <;> cases isObject'
    simp only [inner?, get?_merge, hv, hw, Option.map_some, Option.bind_some, choose_obj,
      Json.fields?, ih hd ho]

/-- The merge has the keys of the defaults at every path on which both sides hold objects, with
    the caller's values where these replace a default; merged once more it stays, and so do
    the defaults merged with nothing or with themselves. -/
theorem merge_laws {d o : Fields} (hd : (Json.obj d).Ordered) (ho : (Json.obj o).Ordered) :
    (∀ path ds os, inner? path d = some ds → inner? path o = some os →
      ∃ ms, inner? path (merge d o) = some ms ∧ ms.map Prod.fst = ds.map Prod.fst ∧
        ∀ name v, ds.get? name = some v →
          (os.get? name = none → ms.get? name = some v) ∧
          ∀ w, os.get? name = some w → (v.fields? = none ∨ w.fields? = none) →
            ms.get? name = some w) ∧
      merge (merge d o) o = merge d o ∧ merge d [] = d ∧ merge d d = d := by
  refine ⟨?paths, ?twice, merge_nil d, ?self⟩
  case paths =>
    intro path ds os hds hos
    refine ⟨merge ds os, inner?_merge hds hos, keys_merge ds os, fun name v hv => ⟨?_, ?_⟩⟩
    · intro absent
      rw [get?_merge, hv, absent, Option.map_some, choose_none]
    · intro w hw other
      rw [get?_merge, hv, hw, Option.map_some, choose_other other]
  case twice => simpa [choose_obj] using choose_choose hd ho
  case self => simpa [choose_obj] using choose_self hd

/-- A tree with a leaf, and an object in which another one stands. -/
def plainTree : Fields :=
  [("a", .int 1), ("b", .obj [("c", .int 2), ("f", .obj [("g", .int 1), ("h", .null)])])]

/-- A tree with an object where `plainTree` has a leaf, and a leaf where it has an object. -/
def crossTree : Fields :=
  [("a", .obj [("x", .null), ("y", .int 0)]), ("b", .obj [("f", .bool true), ("x", .int 1)])]

theorem ordered_pair {k l : String} (before : k < l) (hv : v.Ordered) (hw : w.Ordered) :
    (Json.obj [(k, v), (l, w)]).Ordered := by
  refine .obj (by simpa [Fields.Sorted] using before) fun p hp => ?_
  simp only [List.mem_cons, List.not_mem_nil, or_false] at hp
  rcases hp with rfl | rfl
  · exact hv
  · exact hw

theorem merge_laws_crossed :
    (Json.obj plainTree).Ordered ∧ (Json.obj crossTree).Ordered ∧
      (∃ ms, inner? ["b"] (merge plainTree crossTree) = some ms ∧
        ms.map Prod.fst = ["c", "f"] ∧ ms.get? "c" = some (.int 2) ∧
        ms.get? "f" = some (.bool true)) ∧
      merge (merge plainTree crossTree) crossTree = merge plainTree crossTree ∧
      merge plainTree [] = plainTree ∧ merge plainTree plainTree = plainTree := by
  have plain : (Json.obj plainTree).Ordered :=
    ordered_pair (by decide) (.int 1) (ordered_pair (by decide) (.int 2)
      (ordered_pair (by decide) (.int 1) .null))
  have cross : (Json.obj crossTree).Ordered :=
    ordered_pair (by decide) (ordered_pair (by decide) .null (.int 0))
      (ordered_pair (by decide) (.bool true) (.int 1))
  obtain ⟨paths, again⟩ := merge_laws plain cross
  obtain ⟨ms, there, keys, values⟩ := paths ["b"] _ _ rfl rfl
  refine ⟨plain, cross, ⟨ms, there, keys, ?_, ?_⟩, again⟩
  · exact (values "c" _ rfl).1 rfl
  · exact (values "f" _ rfl).2 _ rfl (.inr rfl)

end HomeGateway.Device
