/-
  Values whose fields stand in any order.

  A text may give the fields of an object in any order, while a value has them in
  ascending order of their names.  `Json.sorted` brings the fields of every object
  into that order; `Arranges` is a value with its fields in some other order, none
  of them twice.  Neither the depth of a value nor its numbers depend on the order.

  * `Fields.ext`, `Fields.get?_ofList`: ordered fields are what stands under their names;
  * `Arranges.depth_le`, `Arranges.numbers`: what does not depend on the order;
  * `value_ofJson`: a value of any order is read as the ordered one.
-/
import Mathlib.Data.List.Sort
import HomeGateway.Proofs.FieldOrder

namespace HomeGateway

/-! ## Fields -/

namespace Fields

variable {fs gs pairs : Fields} {name : String} {v : Json}

theorem perm_insert (absent : name ∉ fs.map (·.1)) :
    (fs.insert name v).Perm ((name, v) :: fs) := by
  induction fs with
  | nil => exact .refl _
  | cons q rest ih =>
    obtain ⟨k, w⟩ := q
    rw [List.map_cons, List.mem_cons, not_or] at absent
    simp only [insert]
    split
    · exact .refl _
    · rw [if_neg (Ne.symm absent.1)]
      exact ((ih absent.2).cons _).trans (.swap _ _ _)

/-- Fields with names of their own are all kept. -/
theorem perm_ofList (distinct : (pairs.map (·.1)).Nodup) : (ofList pairs).Perm pairs := by
  have step (pairs : Fields) : ∀ {fs : Fields}, ((fs ++ pairs).map (·.1)).Nodup →
      (pairs.foldl (fun fs p => fs.insert p.1 p.2) fs).Perm (fs ++ pairs) := by
    induction pairs with
    | nil => exact fun _ => by simp
    | cons p rest ih =>
      intro fs distinct
      have moved : (fs ++ p :: rest).Perm ((p :: fs) ++ rest) := List.perm_middle
      have distinct' := (moved.map (·.1)).nodup_iff.1 distinct
      have absent : p.1 ∉ fs.map (·.1) := fun there => by
        rw [List.cons_append, List.map_cons, List.nodup_cons, List.map_append] at distinct'
        exact distinct'.1 (List.mem_append_left _ there)
      have inserted := (perm_insert (v := p.2) absent).append_right rest
      exact (ih ((inserted.map (·.1)).nodup_iff.2 distinct')).trans (inserted.trans moved.symm)
  exact step pairs (by simpa using distinct)

theorem Sorted.single (p : String × Json) : Sorted [p] :=
  List.pairwise_singleton _ _

theorem Sorted.cons {k l : String} {w : Json} (before : k < l) (h : Sorted ((l, w) :: fs)) :
    Sorted ((k, v) :: (l, w) :: fs) :=
  List.pairwise_cons.2 ⟨List.forall_mem_cons.2
    ⟨before, fun p hp => lt_trans before ((List.pairwise_cons.1 h).1 p hp)⟩, h⟩

theorem Sorted.names (h : fs.Sorted) : (fs.map (·.1)).Nodup :=
  List.Pairwise.map _ (fun _ _ before => ne_of_lt before) h

theorem Sorted.eq_of_perm (hf : fs.Sorted) (hg : gs.Sorted) (perm : fs.Perm gs) : fs = gs :=
  perm.eq_of_pairwise (fun _ _ _ _ before after => absurd (lt_trans before after) (lt_irrefl _))
    hf hg

theorem ofList_of_sorted (h : fs.Sorted) : ofList fs = fs :=
  (sorted_ofList fs).eq_of_perm h (perm_ofList h.names)

/-- Ordered fields are what stands under their names. -/
theorem ext (hf : fs.Sorted) (hg : gs.Sorted) (same : ∀ name, fs.get? name = gs.get? name) :
    fs = gs := by
  have nodup {hs : Fields} (h : hs.Sorted) : hs.Nodup := h.names.of_map _
  refine hf.eq_of_perm hg ((List.perm_ext_iff_of_nodup (nodup hf) (nodup hg)).2 ?_)
  rintro ⟨name, v⟩
  rw [← get?_eq_some hf, ← get?_eq_some hg, same]

/-- What stands under a name, if no name comes twice. -/
theorem get?_eq_some_of_nodup (distinct : (fs.map (·.1)).Nodup) :
    fs.get? name = some v ↔ (name, v) ∈ fs := by
  refine ⟨mem_of_get?, fun there => ?_⟩
  induction fs with
  | nil => cases there
  | cons q rest ih =>
    obtain ⟨k, w⟩ := q
    obtain ⟨first, later⟩ := List.nodup_cons.1 distinct
    rcases List.mem_cons.1 there with same | there
    · cases same
      exact if_pos rfl
    · refine (if_neg ?_).trans (ih later there)
      rintro rfl
      exact first (List.mem_map.2 ⟨_, there, rfl⟩)

theorem get?_ofList (distinct : (pairs.map (·.1)).Nodup) (name : String) :
    (ofList pairs).get? name = pairs.get? name := by
  ext v
  rw [get?_eq_some (sorted_ofList pairs), get?_eq_some_of_nodup distinct]
  exact (perm_ofList distinct).mem_iff

theorem get?_map (f : Json → Json) (fs : Fields) (name : String) :
    Fields.get? name (fs.map fun p => (p.1, f p.2)) = (fs.get? name).map f := by
  induction fs with
  | nil => rfl
  | cons p rest ih =>
    simp only [List.map_cons, get?, ih]
    split <;> rfl

end Fields

namespace Json

/-! ## Depth and numbers -/

mutual

/-- How many containers of a value stand inside one another. -/
def depth : Json → Nat
  | .arr items => itemsDepth items + 1
  | .obj fs => fieldsDepth fs + 1
  | .null => 0
  | .bool _ => 0
  | .int _ => 0
  | .float _ => 0
  | .str _ => 0
termination_by structural v => v

/-- The depth of the deepest item. -/
def itemsDepth : List Json → Nat
  | [] => 0
  | v :: vs => max (depth v) (itemsDepth vs)
termination_by structural vs => vs

/-- The depth of the deepest field. -/
def fieldsDepth : List (String × Json) → Nat
  | [] => 0
  | (_, v) :: fs => max (depth v) (fieldsDepth fs)
termination_by structural fs => fs

end

mutual

/-- The numbers that stand in a value. -/
def numbers : Json → List Json
  | .arr items => itemsNumbers items
  | .obj fs => fieldsNumbers fs
  | .int i => [.int i]
  | .float d => [.float d]
  | .null => []
  | .bool _ => []
  | .str _ => []
termination_by structural v => v

/-- The numbers that stand in the items of an array. -/
def itemsNumbers : List Json → List Json
  | [] => []
  | v :: vs => numbers v ++ itemsNumbers vs
termination_by structural vs => vs

/-- The numbers that stand in the fields of an object. -/
def fieldsNumbers : List (String × Json) → List Json
  | [] => []
  | (_, v) :: fs => numbers v ++ fieldsNumbers fs
termination_by structural fs => fs

end

theorem itemsDepth_le {vs : List Json} {n : Nat} :
    itemsDepth vs ≤ n ↔ ∀ v ∈ vs, v.depth ≤ n := by
  induction vs with
  | nil => simp [itemsDepth]
  | cons v vs ih => simp [itemsDepth, ih]

theorem fieldsDepth_le {fs : Fields} {n : Nat} :
    fieldsDepth fs ≤ n ↔ ∀ p ∈ fs, p.2.depth ≤ n := by
  induction fs with
  | nil => simp [fieldsDepth]
  | cons p fs ih => simp [fieldsDepth, ih]

theorem mem_itemsNumbers {vs : List Json} {a : Json} :
    a ∈ itemsNumbers vs ↔ ∃ v ∈ vs, a ∈ v.numbers := by
  induction vs with
  | nil => simp [itemsNumbers]
  | cons v vs ih => simp [itemsNumbers, ih]

theorem mem_fieldsNumbers {fs : Fields} {a : Json} :
    a ∈ fieldsNumbers fs ↔ ∃ p ∈ fs, a ∈ p.2.numbers := by
  induction fs with
  | nil => simp [fieldsNumbers]
  | cons p fs ih => simp [fieldsNumbers, ih]

/-! ## The order of fields -/

mutual

/-- A value with the fields of every object in ascending order. -/
def sorted : Json → Json
  | .arr items => .arr (sortedItems items)
  | .obj fs => .obj (Fields.ofList (sortedFields fs))
  | .null => .null
  | .bool b => .bool b
  | .int i => .int i
  | .float d => .float d
  | .str s => .str s
termination_by structural v => v

/-- Items with the fields of every object in ascending order. -/
def sortedItems : List Json → List Json
  | [] => []
  | v :: vs => sorted v :: sortedItems vs
termination_by structural vs => vs

/-- Fields whose values have the fields of every object in ascending order. -/
def sortedFields : List (String × Json) → List (String × Json)
  | [] => []
  | (k, v) :: fs => (k, sorted v) :: sortedFields fs
termination_by structural fs => fs

end

theorem sortedItems_eq (vs : List Json) : sortedItems vs = vs.map sorted := by
  induction vs with
  | nil => rfl
  | cons v vs ih => rw [sortedItems, ih, List.map_cons]

theorem sortedFields_eq (fs : Fields) : sortedFields fs = fs.map fun p => (p.1, p.2.sorted) := by
  induction fs with
  | nil => rfl
  | cons p fs ih => rw [sortedFields, ih, List.map_cons]

theorem sortedFields_names (fs : Fields) : (sortedFields fs).map (·.1) = fs.map (·.1) := by
  simp [sortedFields_eq]

/-- A value in which no object has two fields of one name. -/
inductive Distinct : Json → Prop where
  | null : Distinct .null
  | bool (b : Bool) : Distinct (.bool b)
  | int (i : Int) : Distinct (.int i)
  | float (d : Double) : Distinct (.float d)
  | str (s : String) : Distinct (.str s)
  | arr {items : List Json} (each : ∀ v ∈ items, v.Distinct) : Distinct (.arr items)
  | obj {fs : Fields} (names : (fs.map (·.1)).Nodup) (each : ∀ p ∈ fs, p.2.Distinct) :
    Distinct (.obj fs)

/-- A value with the fields of every object in some order. -/
structure Arranges (w v : Json) : Prop where
  /-- no object has two fields of one name -/
  distinct : w.Distinct
  /-- in ascending order it is the value -/
  sorted : w.sorted = v

variable {v w : Json} {fs ts ws : Fields} {name : String}

/-- A value in ascending order is an arrangement of itself. -/
theorem Ordered.arranges (h : v.Ordered) : v.Arranges v := by
  induction h with
  | null => exact ⟨.null, rfl⟩
  | bool b => exact ⟨.bool b, rfl⟩
  | int i => exact ⟨.int i, rfl⟩
  | float d => exact ⟨.float d, rfl⟩
  | str s => exact ⟨.str s, rfl⟩
  | @arr items _ ih =>
    refine ⟨.arr fun v hv => (ih v hv).distinct, ?_⟩
    rw [Json.sorted, sortedItems_eq, List.map_congr_left fun v hv => (ih v hv).sorted, List.map_id']
  | @obj fs sorted _ ih =>
    refine ⟨.obj sorted.names fun p hp => (ih p hp).distinct, ?_⟩
    have same : (fs.map fun p => (p.1, p.2.sorted)) = fs :=
      (List.map_congr_left fun p hp => by rw [(ih p hp).sorted]).trans (List.map_id' fs)
    rw [Json.sorted, sortedFields_eq, same, Fields.ofList_of_sorted sorted]

/-- The fields of an arrangement are arrangements of the fields. -/
structure Arrangement (ws ts : Fields) : Prop where
  /-- no name comes twice -/
  names : (ws.map (·.1)).Nodup
  /-- each field has an arrangement of what it has in ascending order -/
  get? : ∀ name, (ts.get? name = none ∧ ws.get? name = none) ∨
    ∃ c v, ws.get? name = some c ∧ ts.get? name = some v ∧ c.Arranges v

theorem Distinct.arranges (h : w.Distinct) : w.Arranges w.sorted :=
  ⟨h, rfl⟩

/-- What stands under a name in the fields of an object in ascending order. -/
theorem get?_sorted (names : (ws.map (·.1)).Nodup) (name : String) :
    (Fields.ofList (sortedFields ws)).get? name = (ws.get? name).map Json.sorted := by
  rw [Fields.get?_ofList (by rwa [sortedFields_names]), sortedFields_eq, Fields.get?_map]

theorem Arranges.obj (h : w.Arranges (.obj ts)) :
    ∃ ws : Fields, w = .obj ws ∧ Arrangement ws ts := by
  obtain ⟨distinct, sorted⟩ := h
  cases distinct with
  | null | bool | int | float | str | arr => cases sorted
  | @obj ws names each =>
    obtain rfl : Fields.ofList (sortedFields ws) = ts := Json.obj.inj sorted
    refine ⟨ws, rfl, names, fun name => ?_⟩
    rw [get?_sorted names]
    cases found : ws.get? name with
    | none => exact .inl ⟨rfl, rfl⟩
    | some c => exact .inr ⟨c, _, rfl, rfl, (each _ (Fields.mem_of_get? found)).arranges⟩

/-- The order of fields does not change how deep a value is. -/
theorem Arranges.depth_le (h : w.Arranges v) : w.depth ≤ v.depth := by
  obtain ⟨distinct, rfl⟩ := h
  induction distinct with
  | null | bool | int | float | str => exact Nat.le_refl _
  | arr _ ih =>
    rw [Json.sorted, sortedItems_eq, depth, depth, Nat.add_le_add_iff_right, itemsDepth_le]
    exact fun v hv => (ih v hv).trans (itemsDepth_le.1 (Nat.le_refl _) _ (List.mem_map_of_mem hv))
  | obj names _ ih =>
    rw [Json.sorted, depth, depth, Nat.add_le_add_iff_right, fieldsDepth_le]
    intro p hp
    have there := (Fields.perm_ofList (by rwa [sortedFields_names])).mem_iff.2
      (sortedFields_eq _ ▸ List.mem_map_of_mem hp)
    exact (ih p hp).trans (fieldsDepth_le.1 (Nat.le_refl _) _ there)

/-- The order of fields does not change which numbers stand in a value. -/
theorem Arranges.numbers (h : w.Arranges v) {a : Json} (there : a ∈ w.numbers) :
    a ∈ v.numbers := by
  obtain ⟨distinct, rfl⟩ := h
  induction distinct with
  | null | bool | int | float | str => exact there
  | arr _ ih =>
    rw [Json.numbers, mem_itemsNumbers] at there
    obtain ⟨v, hv, inside⟩ := there
    rw [Json.sorted, sortedItems_eq, Json.numbers, mem_itemsNumbers]
    exact ⟨_, List.mem_map_of_mem hv, ih v hv inside⟩
  | obj names _ ih =>
    rw [Json.numbers, mem_fieldsNumbers] at there
    obtain ⟨p, hp, inside⟩ := there
    rw [Json.sorted, Json.numbers, mem_fieldsNumbers]
    refine ⟨(p.1, p.2.sorted), ?_, ih p hp inside⟩
    exact (Fields.perm_ofList (by rwa [sortedFields_names])).mem_iff.2
      (sortedFields_eq _ ▸ List.mem_map_of_mem hp)

/-! ## Reading a value of any order -/

namespace Document

/-- There is room for so many containers. -/
def Room.Allows (room : Room) (n : Nat) : Prop :=
  ∀ m, room = some m → n ≤ m

theorem enter_of_allows {room : Room} {n : Nat} (h : Room.Allows room (n + 1)) :
    ∃ inner, enter room = .ok inner ∧ Room.Allows inner n := by
  cases room with
  | none => exact ⟨none, rfl, nofun⟩
  | some m =>
    obtain ⟨m, rfl⟩ := Nat.exists_eq_add_of_le' (h m rfl)
    refine ⟨some (m + n), rfl, ?_⟩
    rintro _ ⟨⟩
    exact Nat.le_add_left _ _

theorem Room.Allows.mono {room : Room} {m n : Nat} (h : Room.Allows room n) (le : m ≤ n) :
    Room.Allows room m :=
  fun k same => le.trans (h k same)

mutual

/-- A value is read with its fields in ascending order. -/
theorem value_ofJson {room : Room} : ∀ w : Json, Room.Allows room w.depth →
    (ofJson w).value room = .ok w.sorted
  | .null, _ => rfl
  | .bool _, _ => rfl
  | .int _, _ => rfl
  | .float _, _ => rfl
  | .str _, _ => rfl
  | .arr items, allows => by
    obtain ⟨inner, entered, allows⟩ := enter_of_allows allows
    simp only [ofJson, value, entered, values_ofItems items allows, if_true, Json.sorted]
  | .obj fs, allows => by
    obtain ⟨inner, entered, allows⟩ := enter_of_allows allows
    simp only [ofJson, value, entered, fields_ofFields fs allows, if_true, Json.sorted]
termination_by structural w => w

theorem values_ofItems {room : Room} : ∀ vs : List Json, Room.Allows room (itemsDepth vs) →
    values room (ofItems vs) = .ok (sortedItems vs)
  | [], _ => rfl
  | v :: vs, allows => by
    simp only [ofItems, values, value_ofJson v (allows.mono (le_max_left _ _)),
      values_ofItems vs (allows.mono (le_max_right _ _)), sortedItems]
termination_by structural vs => vs

theorem fields_ofFields {room : Room} : ∀ fs : List (String × Json),
    Room.Allows room (fieldsDepth fs) → fields room (ofFields fs) = .ok (sortedFields fs)
  | [], _ => rfl
  | (k, v) :: fs, allows => by
    simp only [ofFields, fields, value_ofJson v (allows.mono (le_max_left _ _)),
      fields_ofFields fs (allows.mono (le_max_right _ _)), sortedFields]
termination_by structural fs => fs

end

end Document

end Json

end HomeGateway
