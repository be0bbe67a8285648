/-
  What a shape makes of a value.

  The order in which the fields of a record are written does not matter, and a
  field that is left out has its default.  `Reads` says what a shape makes of
  every arrangement of a value; there is one lemma for each kind of shape.

  * `lookRecord_ofFields`: a record of fields in any order;
  * `reads_record`, `gets_absent`: what is made of a record, and of an optional field;
  * `reads_tagged`: what is made of a tagged record.
-/
import Mathlib.Data.List.Permutation
import HomeGateway.Proofs.Arrangements

namespace HomeGateway.Json

open Document

/-! ## Members -/

section

variable {r : Reading} {fields : List Field} {norm : String → Json}

/-- The members of a record are read under their names; those with other names are passed over. -/
theorem readMembers_ofFields {fs : Fields} (names : (fs.map (·.1)).Nodup) {done : Fields}
    (fresh : ∀ p ∈ fs, done.has p.1 = false) (reads : ∀ p ∈ fs, ∀ f ∈ fields, f.name = p.1 →
      f.look r (.ofJson p.2) = .ok (norm p.1)) :
    ∃ done', readMembers r fields done (ofFields fs) = .ok done' ∧
      (done.Sorted → done'.Sorted) ∧ ∀ name, done'.get? name =
        if fs.has name ∧ ∃ f ∈ fields, f.name = name then some (norm name)
        else done.get? name := by
  induction fs generalizing done with
  | nil => exact ⟨done, rfl, id, fun name => (if_neg fun both => nomatch both.1).symm⟩
  | cons p rest ih =>
    obtain ⟨k, v⟩ := p
    obtain ⟨first, later⟩ := List.nodup_cons.1 names
    obtain ⟨own, others⟩ := List.forall_mem_cons.1 reads
    have other {name : String} (h : name ≠ k) :
        Fields.has name ((k, v) :: rest) = Fields.has name rest :=
      congrArg Option.isSome (if_neg (Ne.symm h))
    have alone : Fields.has k rest = false := by
      rw [Fields.has, Fields.get?_eq_none, Option.isSome_none]
      exact fun q hq same => first (List.mem_map.2 ⟨q, hq, same⟩)
    rw [ofFields, readMembers]
    cases found : fields.find? (·.name = k) with
    | none =>
      have unknown : ¬∃ f ∈ fields, f.name = k := by
        rintro ⟨f, hf, same⟩
        exact List.find?_eq_none.1 found f hf (by simpa using same)
      obtain ⟨done', read, sorted, holds⟩ := ih later (List.forall_mem_cons.1 fresh).2 others
      refine ⟨done', read, sorted, fun name => (holds name).trans ?_⟩
      by_cases here : name = k
      · subst here
        rw [if_neg fun both => unknown both.2, if_neg fun both => unknown both.2]
      · rw [other here]
    | some f =>
      have known : f ∈ fields ∧ f.name = k :=
        ⟨List.mem_of_find?_eq_some found, by simpa using List.find?_some found⟩
      have unread : done.has k = false := (List.forall_mem_cons.1 fresh).1
      have fresh' : ∀ p ∈ rest, (done.insert k (norm k)).has p.1 = false := by
        intro p hp
        have apart : p.1 ≠ k := fun same => first (List.mem_map.2 ⟨p, hp, same⟩)
        rw [Fields.has, Fields.get?_insert_of_ne _ _ apart]
        exact fresh p (List.mem_cons_of_mem _ hp)
      obtain ⟨done', read, sorted, holds⟩ := ih later fresh' others
      refine ⟨done', ?_, fun h => sorted (Fields.sorted_insert h _ _),
        fun name => (holds name).trans ?_⟩
      · simp only [unread, Bool.false_eq_true, if_false, own f known.1 known.2]
        exact read
      · by_cases here : name = k
        · subst here
          have there : Fields.has name ((name, v) :: rest) = true :=
            congrArg Option.isSome (if_pos rfl)
          rw [if_neg (by simp [alone]), if_pos ⟨there, f, known⟩]
          exact Fields.get?_insert_self name _ done
        · rw [other here, Fields.get?_insert_of_ne _ _ here]

/-- Missing fields have their defaults. -/
theorem fillMissing_ok {done : Fields}
    (each : ∀ f ∈ fields, done.get? f.name = some (norm f.name) ∨
      done.get? f.name = none ∧ f.default? = some (norm f.name)) :
    ∃ done', fillMissing fields done = .ok done' ∧ (done.Sorted → done'.Sorted) ∧
      ∀ name, done'.get? name =
        if ∃ f ∈ fields, f.name = name then some (norm name) else done.get? name := by
  induction fields generalizing done with
  | nil => exact ⟨done, rfl, id, fun name => by simp⟩
  | cons f fields ih =>
    obtain ⟨first, later⟩ := List.forall_mem_cons.1 each
    rw [fillMissing]
    rcases first with there | ⟨missing, default⟩
    · obtain ⟨done', filled, sorted, holds⟩ := ih later
      refine ⟨done', ?_, sorted, fun name => (holds name).trans ?_⟩
      · rw [if_pos (by simp [Fields.has, there]), filled]
      · by_cases here : f.name = name
        · subst here
          simp [there]
        · simp [here]
    · have later' : ∀ g ∈ fields,
          (done.insert f.name (norm f.name)).get? g.name = some (norm g.name) ∨
          (done.insert f.name (norm f.name)).get? g.name = none ∧
            g.default? = some (norm g.name) := by
        intro g hg
        by_cases same : g.name = f.name
        · rw [same]
          exact .inl (Fields.get?_insert_self _ _ _)
        · rw [Fields.get?_insert_of_ne _ _ same]
          exact later g hg
      obtain ⟨done', filled, sorted, holds⟩ := ih later'
      refine ⟨done', ?_, fun h => sorted (Fields.sorted_insert h _ _),
        fun name => (holds name).trans ?_⟩
      · simp only [Fields.has, missing, Option.isSome_none, Bool.false_eq_true, if_false, default,
          filled]
      · by_cases here : f.name = name
        · subst here
          simp [Fields.get?_insert_self]
        · simp [here, Fields.get?_insert_of_ne _ _ (Ne.symm here)]

/-- A record whose fields stand in any order is read field by field. -/
theorem lookRecord_ofFields {inner : Reading} (title : String) (entered : r.enter = .ok inner)
    {fs : Fields} (names : (fs.map (·.1)).Nodup)
    (reads : ∀ f ∈ fields,
      (∃ v, fs.get? f.name = some v ∧ f.look inner (.ofJson v) = .ok (norm f.name)) ∨
      fs.get? f.name = none ∧ f.default? = some (norm f.name)) :
    ∃ done : Fields, lookRecord title fields r (.ofJson (.obj fs)) = .ok (.obj done) ∧
      done.Sorted ∧ ∀ name, done.get? name =
        if ∃ f ∈ fields, f.name = name then some (norm name) else none := by
  have members : ∀ p ∈ fs, ∀ f ∈ fields, f.name = p.1 →
      f.look inner (.ofJson p.2) = .ok (norm p.1) := by
    rintro ⟨name, w⟩ hp f hf rfl
    have there := (Fields.get?_eq_some_of_nodup names).2 hp
    rcases reads f hf with ⟨v, found, read⟩ | ⟨missing, -⟩
    · cases there.symm.trans found
      exact read
    · cases there.symm.trans missing
  have fresh : ∀ p ∈ fs, Fields.has p.1 [] = false := fun _ _ => rfl
  obtain ⟨done, read, sorted, holds⟩ := readMembers_ofFields names fresh members
  have each : ∀ f ∈ fields, Fields.get? f.name done = some (norm f.name) ∨
      Fields.get? f.name done = none ∧ f.default? = some (norm f.name) := by
    intro f hf
    rcases reads f hf with ⟨v, found, -⟩ | ⟨missing, default⟩
    · exact .inl (by rw [holds, if_pos ⟨by simp [Fields.has, found], f, hf, rfl⟩])
    · refine .inr ⟨?_, default⟩
      rw [holds, if_neg fun both => by simp [Fields.has, missing] at both]
      rfl
  obtain ⟨done', filled, sorted', holds'⟩ := fillMissing_ok each
  refine ⟨done', ?_, sorted' (sorted List.Pairwise.nil), fun name => (holds' name).trans ?_⟩
  · simp only [Document.ofJson, lookRecord, entered, read, if_true, filled]
  · split
    · rfl
    · rename_i unknown
      rw [holds, if_neg fun both => unknown both.2]
      rfl

end

/-- The fields of a record. -/
def Shape.specs : Shape → List (String × Shape × Option Json)
  | .record _ specs => specs
  | _ => []

theorem mem_lookFields {specs : List (String × Shape × Option Json)} {f : Field}
    (h : f ∈ lookFields specs) : ∃ spec ∈ specs, f = ⟨spec.1, spec.2.1.look, spec.2.2⟩ := by
  induction specs with
  | nil => cases h
  | cons spec specs ih =>
    rcases List.mem_cons.1 h with rfl | later
    · exact ⟨spec, List.mem_cons_self, rfl⟩
    · obtain ⟨spec', hspec, same⟩ := ih later
      exact ⟨spec', List.mem_cons_of_mem _ hspec, same⟩

theorem lookFields_mem {specs : List (String × Shape × Option Json)}
    {spec : String × Shape × Option Json} (h : spec ∈ specs) :
    ⟨spec.1, spec.2.1.look, spec.2.2⟩ ∈ lookFields specs := by
  induction specs with
  | nil => cases h
  | cons first specs ih =>
    rcases List.mem_cons.1 h with rfl | later
    · exact List.mem_cons_self
    · exact List.mem_cons_of_mem _ (ih later)

/-! ## What is made of a value -/

/-- There is room for so many containers. -/
def Reading.Allows (r : Reading) (n : Nat) : Prop :=
  Room.Allows r.room n

theorem Reading.enter_of_allows {r : Reading} {n : Nat} (h : r.Allows (n + 1)) :
    ∃ inner, r.enter = .ok inner ∧ inner.Allows n := by
  obtain ⟨room, entered, allows⟩ := Document.enter_of_allows h
  exact ⟨{ r with room := room }, by rw [Reading.enter, entered], allows⟩

/-- What is kept has been counted before. -/
theorem Reading.ofKept_allows (n : Nat) : Reading.ofKept.Allows n :=
  nofun

/-- Every arrangement of a value is read as `u`, wherever it stands, if there is room for it. -/
def Reads (look : Look) (v u : Json) : Prop :=
  ∀ (r : Reading) (w : Json), w.Arranges v → r.Allows w.depth → look r (.ofJson w) = .ok u

section

variable {v u w : Json}

/-- A value without contents has one arrangement. -/
theorem Arranges.eq (h : w.Arranges v) (empty : v.depth = 0) : w = v := by
  have shallow : w.depth = 0 := Nat.le_zero.1 (empty ▸ h.depth_le)
  obtain ⟨-, rfl⟩ := h
  cases w with
  | arr items => cases shallow
  | obj fs => cases shallow
  | null | bool | int | float | str => rfl

theorem reads_of_empty {look : Look} (empty : v.depth = 0)
    (read : ∀ r, look r (.ofJson v) = .ok u) : Reads look v u :=
  fun r _ arranges _ => arranges.eq empty ▸ read r

theorem reads_text (s : String) : Reads lookText (.str s) (.str s) :=
  reads_of_empty rfl fun _ => rfl

theorem reads_flag (b : Bool) : Reads lookFlag (.bool b) (.bool b) :=
  reads_of_empty rfl fun _ => rfl

theorem reads_whole {k : Width} {n : Nat} (fits : n ≤ k.max) :
    Reads (lookWhole k) (.ofNat n) (.ofNat n) :=
  reads_of_empty rfl fun _ => if_pos ⟨Int.natCast_nonneg n, Int.ofNat_le.2 fits⟩

theorem reads_name {known : List String} {s : String} (h : s ∈ known) :
    Reads (lookName known) (.str s) (.str s) :=
  reads_of_empty rfl fun _ => if_pos h

theorem reads_any (v : Json) : Reads (Shape.look .any) v v :=
  fun _ w arranges allows => (value_ofJson w allows).trans (congrArg _ arranges.sorted)

theorem reads_list (vs : List Json) : Reads lookList (.arr vs) (.arr vs) := by
  intro r w arranges allows
  have read := reads_any (.arr vs) r w arranges allows
  obtain ⟨-, same⟩ := arranges
  cases w <;> cases same
  exact read

/-- A value that is not null passes for the optional shape as for the shape. -/
theorem reads_optional {s : Shape} (given : v.isNull = false) (h : Reads s.look v u) :
    Reads (Shape.optional s).look v u := by
  intro r w arranges allows
  have read := h r w arranges allows
  obtain ⟨-, rfl⟩ := arranges
  cases w with
  | null => cases given
  | bool | int | float | str | arr | obj => exact read

theorem reads_withDefault {s : Shape} {d : Json} (given : v.isNull = false)
    (h : Reads s.look v u) : Reads (Shape.withDefault d s).look v u := by
  intro r w arranges allows
  have read := h r w arranges allows
  obtain ⟨-, rfl⟩ := arranges
  cases w with
  | null => cases given
  | bool | int | float | str | arr | obj => exact read

/-- What a field has if this much of it was given. -/
def Field.Gets (f : Field) (given : Option Json) (u : Json) : Prop :=
  match given with
  | some v => Reads f.look v u
  | none => f.default? = some u

theorem gets_of_eq {f : Field} {given : Option Json} (same : given = some v)
    (h : Reads f.look v u) : f.Gets given u :=
  same ▸ h

/-- An optional field has what was given, or null. -/
theorem gets_absent {name : String} {s : Shape} {given o : Option Json} (same : given = o)
    (h : ∀ v, o = some v → v.isNull = false → Reads s.look v v) :
    Field.Gets ⟨name, (Shape.optional s).look, some .null⟩ given (ofOption o) := by
  subst same
  cases given with
  | none => rfl
  | some v =>
    cases null : v.isNull with
    | true =>
      cases v <;> cases null
      exact reads_of_empty rfl fun _ => rfl
    | false => exact reads_optional null (h v rfl null)

/-- A record has what its fields have. -/
theorem reads_record {title : String} {fields : List Field} {ts us : Fields} (sorted : us.Sorted)
    (known : ∀ p ∈ us, ∃ f ∈ fields, f.name = p.1)
    (gets : ∀ f ∈ fields, ∃ u, us.get? f.name = some u ∧ f.Gets (ts.get? f.name) u) :
    Reads (lookRecord title fields) (.obj ts) (.obj us) := by
  intro r w arranges allows
  obtain ⟨ws, rfl, names, arrangement⟩ := arranges.obj
  obtain ⟨inner, entered, allows⟩ := Reading.enter_of_allows allows
  let norm (name : String) : Json := (us.get? name).getD .null
  have reads : ∀ f ∈ fields,
      (∃ c, ws.get? f.name = some c ∧ f.look inner (.ofJson c) = .ok (norm f.name)) ∨
      ws.get? f.name = none ∧ f.default? = some (norm f.name) := by
    intro f hf
    obtain ⟨u, present, gets⟩ := gets f hf
    have value : norm f.name = u := by simp only [norm, present, Option.getD_some]
    rw [value]
    rcases arrangement f.name with ⟨left, missing⟩ | ⟨c, v, found, given, arranges⟩
    · rw [left] at gets
      exact .inr ⟨missing, gets⟩
    · rw [given] at gets
      have deep := fieldsDepth_le.1 (Nat.le_refl _) _ (Fields.mem_of_get? found)
      exact .inl ⟨c, found, gets inner c arranges (allows.mono deep)⟩
  obtain ⟨done, look, sorted', holds⟩ := lookRecord_ofFields title entered names reads
  rw [look, Fields.ext sorted' sorted fun name => (holds name).trans ?_]
  by_cases named : ∃ f ∈ fields, f.name = name
  · obtain ⟨f, hf, rfl⟩ := named
    obtain ⟨u, present, -⟩ := gets f hf
    rw [if_pos ⟨f, hf, rfl⟩, present]
    simp only [norm, present, Option.getD_some]
  · rw [if_neg named, Fields.get?_eq_none]
    rintro p hp rfl
    exact named (known p hp)

/-- An arrangement of two fields has two fields. -/
theorem eq_pair_of_sortedFields {ws : Fields} {a b : String} {x y : Json}
    (each : ∀ p ∈ ws, p.2.Distinct) (h : sortedFields ws = [(a, x), (b, y)]) :
    ∃ x' y', ws = [(a, x'), (b, y')] ∧ x'.Arranges x ∧ y'.Arranges y := by
  match ws, h with
  | [(_, x'), (_, y')], h =>
    simp only [sortedFields, List.cons.injEq, Prod.mk.injEq, and_true] at h
    obtain ⟨⟨rfl, rfl⟩, rfl, rfl⟩ := h
    exact ⟨x', y', rfl, (each _ (.head _)).arranges, (each _ (.tail _ (.head _))).arranges⟩

/-- A record of two fields has two arrangements, but for those of the fields. -/
theorem Arranges.pair {a b : String} (apart : a ≠ b) {x y : Json}
    (h : w.Arranges (ofPairs [(a, x), (b, y)])) : ∃ x' y', x'.Arranges x ∧ y'.Arranges y ∧
      (w = .obj [(a, x'), (b, y')] ∨ w = .obj [(b, y'), (a, x')]) := by
  obtain ⟨distinct, same⟩ := h
  cases distinct with
  | null | bool | int | float | str | arr => cases same
  | @obj ws names each =>
    have perm : (sortedFields ws).Perm [(a, x), (b, y)] :=
      (Fields.perm_ofList (by rwa [sortedFields_names])).symm.trans
        (Json.obj.inj same ▸ Fields.perm_ofList (by simpa using apart))
    rcases List.perm_pair.1 perm with order | order
    · obtain ⟨x', y', rfl, hx, hy⟩ := eq_pair_of_sortedFields each order
      exact ⟨x', y', hx, hy, .inl rfl⟩
    · obtain ⟨y', x', rfl, hy, hx⟩ := eq_pair_of_sortedFields each order
      exact ⟨x', y', hx, hy, .inr rfl⟩

/-- A tagged record has its name and what the name makes of the content, whichever comes first. -/
theorem reads_tagged (title : String) {tag content name : String} {cases : Cases}
    (apart : tag ≠ content) (known : name ∈ cases.map (·.1))
    (h : Reads (caseLook cases (.str name)) v u) :
    Reads (lookTagged title tag content cases) (ofPairs [(tag, .str name), (content, v)])
      (ofPairs [(tag, .str name), (content, u)]) := by
  intro r w arranges allows
  obtain ⟨n, c, named, given, order⟩ := arranges.pair apart
  obtain rfl := named.eq rfl
  have name? (r : Reading) : lookName (cases.map (·.1)) r (.leaf (.str name)) = .ok (.str name) :=
    if_pos known
  rcases order with rfl | rfl
  · obtain ⟨inner, entered, allows⟩ := Reading.enter_of_allows allows
    have read := h inner c given (allows.mono (by simp [fieldsDepth]))
    simp [Document.ofJson, ofFields, lookTagged, entered, nextRelevant, tagFirst, name?, apart.symm,
      endTagged, read]
  · obtain ⟨inner, entered, allows⟩ := Reading.enter_of_allows allows
    have value := value_ofJson c (allows.mono (by simp [fieldsDepth]))
    have read := h .ofKept c given (Reading.ofKept_allows _)
    simp [Document.ofJson, ofFields, lookTagged, entered, nextRelevant, contentFirst, name?, apart,
      apart.symm, endTagged, value, read]

end

end HomeGateway.Json
