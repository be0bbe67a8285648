/-
  What a shape reads.

  `Yields` says what is so of whatever a shape reads, of a text that nobody meant
  as a value of the shape too.  There is one lemma for each kind of shape.  A
  record is made of pieces of its document: an object has them under their names,
  an array in the order of the fields.

  * `Sound`: a value as a text can hold it; `Plain.sound`: what is read is one;
  * `lookRecord_ok`: which piece each field of a record comes from;
  * `yields_field`, `yields_tagged`, `yields_any`: what can be said of what is read.
-/
import Mathlib.Data.List.Forall2
import HomeGateway.Proofs.Arrangements

namespace HomeGateway.Json

open Document

/-! ## What can be said of what is read -/

/-- A value as a text can hold it, within so many containers. -/
structure Sound (n : Nat) (v : Json) : Prop where
  /-- its fields are in ascending order -/
  ordered : v.Ordered
  /-- its whole numbers have 64 bits -/
  scalars : ∀ a ∈ v.numbers, a.Scalar
  /-- it is no deeper -/
  depth : v.depth ≤ n

namespace Sound

variable {n : Nat} {v : Json} {vs : List Json} {fs : Fields}

theorem scalar (h : v.Scalar) : v.Sound n := by
  refine ⟨h.ordered, fun a ha => ?_, ?_⟩
  · cases h with
    | null | bool | str => cases ha
    | int least greatest => exact List.mem_singleton.1 ha ▸ .int least greatest
    | float d => exact List.mem_singleton.1 ha ▸ .float d
  · cases h <;> exact Nat.zero_le n

theorem text (s : String) : Sound n (.str s) :=
  scalar (.str s)

theorem ofNat {w : Width} {k : Nat} (fits : k ≤ w.max) : Sound n (.ofNat k) := by
  have widest : w.max ≤ maxWord := by cases w <;> decide
  exact scalar (.int (by omega) (Int.ofNat_le.2 (fits.trans widest)))

theorem arr (each : ∀ v ∈ vs, v.Sound n) : Sound (n + 1) (.arr vs) where
  ordered := .arr fun v hv => (each v hv).ordered
  scalars a ha := by
    obtain ⟨v, hv, inside⟩ := mem_itemsNumbers.1 ha
    exact (each v hv).scalars a inside
  depth := Nat.succ_le_succ (itemsDepth_le.2 fun v hv => (each v hv).depth)

theorem obj (sorted : fs.Sorted) (each : ∀ p ∈ fs, p.2.Sound n) : Sound (n + 1) (.obj fs) where
  ordered := .obj sorted fun p hp => (each p hp).ordered
  scalars a ha := by
    obtain ⟨p, hp, inside⟩ := mem_fieldsNumbers.1 ha
    exact (each p hp).scalars a inside
  depth := Nat.succ_le_succ (fieldsDepth_le.2 fun p hp => (each p hp).depth)

end Sound

namespace Document

variable {doc : Document} {n : Nat} {v : Json}

/-- The values of an array are those of its items. -/
theorem values_eq_ok {room : Room} {ds : List Document} {vs : List Json} :
    values room ds = .ok vs ↔ List.Forall₂ (fun d v => d.value room = .ok v) ds vs := by
  induction ds generalizing vs with
  | nil => cases vs <;> simp [values]
  | cons d ds ih =>
    rw [List.forall₂_cons_left_iff, values]
    constructor
    · intro read
      split at read
      · cases read
      · rename_i v own
        split at read <;> cases read
        exact ⟨v, _, own, ih.1 ‹_›, rfl⟩
    · rintro ⟨v, vs', own, rest, rfl⟩
      simp only [own, ih.2 rest]

/-- The fields of an object are those of its members. -/
theorem fields_eq_ok {room : Room} {ms : List (Option String × Document)} {fs : Fields} :
    fields room ms = .ok fs ↔
      List.Forall₂ (fun m p => m.1 = some p.1 ∧ m.2.value room = .ok p.2) ms fs := by
  induction ms generalizing fs with
  | nil => cases fs <;> simp [fields]
  | cons m ms ih =>
    obtain ⟨name, d⟩ := m
    rw [List.forall₂_cons_left_iff]
    constructor
    · intro read
      cases name with
      | none => cases read
      | some k =>
        rw [fields] at read
        split at read
        · cases read
        · rename_i v own
          split at read <;> cases read
          exact ⟨(k, v), _, ⟨rfl, own⟩, ih.1 ‹_›, rfl⟩
    · rintro ⟨⟨k, v⟩, fs', ⟨rfl, own⟩, rest, rfl⟩
      simp only [fields, own, ih.2 rest]

theorem exists_of_mem_left {α β : Type} {R : α → β → Prop} {as : List α} {bs : List β}
    (h : List.Forall₂ R as bs) : ∀ a ∈ as, ∃ b, R a b := by
  induction h with
  | nil => exact List.forall_mem_nil _
  | cons own _ ih => exact List.forall_mem_cons.2 ⟨⟨_, own⟩, ih⟩

theorem exists_of_mem_right {α β : Type} {R : α → β → Prop} {as : List α} {bs : List β}
    (h : List.Forall₂ R as bs) : ∀ b ∈ bs, ∃ a ∈ as, R a b := by
  induction h with
  | nil => exact List.forall_mem_nil _
  | cons own _ ih =>
    refine List.forall_mem_cons.2 ⟨⟨_, List.mem_cons_self, own⟩, fun b hb => ?_⟩
    obtain ⟨a, ha, related⟩ := ih b hb
    exact ⟨a, List.mem_cons_of_mem _ ha, related⟩

/-- Wherever there is room for a value, there is room for it without a limit. -/
theorem Plain.value_unbounded (plain : doc.Plain) (read : doc.value (some n) = .ok v) :
    doc.value none = .ok v := by
  induction plain generalizing n v with
  | leaf => exact read
  | unreadable | broken => cases read
  | arr _ ih =>
    cases n with
    | zero => cases read
    | succ m =>
      simp only [Document.value, enter] at read ⊢
      split at read
      · cases read
      · rename_i vs inner
        have each := (List.forall₂_and_left _ _).2 ⟨fun d hd => @ih d hd m, values_eq_ok.1 inner⟩
        rw [values_eq_ok.2 (each.imp fun _ _ own => own.1 own.2)]
        exact read
  | obj _ ih =>
    cases n with
    | zero => cases read
    | succ m =>
      simp only [Document.value, enter] at read ⊢
      split at read
      · cases read
      · rename_i fs inner
        have each := (List.forall₂_and_left _ _).2 ⟨fun p hp => @ih p hp m, fields_eq_ok.1 inner⟩
        rw [fields_eq_ok.2 (each.imp fun _ _ own => ⟨own.2.1, own.1 own.2.2⟩)]
        exact read

/-- What is read of a plain document can be held by a text. -/
theorem Plain.sound (plain : doc.Plain) (read : doc.value (some n) = .ok v) : v.Sound n := by
  induction plain generalizing n v with
  | leaf scalar =>
    cases read
    exact .scalar scalar
  | unreadable | broken => cases read
  | arr _ ih =>
    cases n with
    | zero => cases read
    | succ m =>
      simp only [Document.value, enter] at read
      split at read
      · cases read
      · rename_i vs items
        split at read <;> cases read
        refine .arr fun v hv => ?_
        obtain ⟨d, hd, inner⟩ := exists_of_mem_right (values_eq_ok.1 items) v hv
        exact ih d hd inner
  | obj _ ih =>
    cases n with
    | zero => cases read
    | succ m =>
      simp only [Document.value, enter] at read
      split at read
      · cases read
      · rename_i fs members
        split at read <;> cases read
        refine .obj (Fields.sorted_ofList fs) fun p hp => ?_
        obtain ⟨d, hd, -, inner⟩ :=
          exists_of_mem_right (fields_eq_ok.1 members) p (Fields.mem_ofList hp)
        exact ih d hd inner

end Document

/-- What is read from a text can be held by a text. -/
theorem sound_parse {t : String} {v : Json} (parsed : parse t = .ok v) : v.Sound maxDepth := by
  simp only [parse] at parsed
  split at parsed
  · cases parsed
  · rename_i w read
    split at parsed <;> cases parsed
    exact (plain_outline t).sound read

/-- What stands in a document is within so many containers: there is no more room, or it was read
    before as a value. -/
def Reading.Bounds (r : Reading) (n : Nat) (doc : Document) : Prop :=
  r.room = some n ∨ r.room = none ∧ ∃ v, doc.value (some n) = .ok v

/-- Whatever is read within so many containers has a property. -/
def Yields (look : Look) (n : Nat) (P : Json → Prop) : Prop :=
  ∀ (r : Reading) (doc : Document) (u : Json), r.Bounds n doc → doc.Plain →
    look r doc = .ok u → P u

section

variable {r inner : Reading} {n : Nat} {P Q : Json → Prop} {v u : Json}

theorem Yields.imp {look : Look} (h : Yields look n P) (weaker : ∀ u, P u → Q u) :
    Yields look n Q :=
  fun r doc u bounds plain read => weaker u (h r doc u bounds plain read)

/-- The items of an array are within one container less. -/
theorem Reading.Bounds.items {items : List Document} {closed : Bool}
    (h : r.Bounds (n + 1) (.arr items closed)) (entered : r.enter = .ok inner) :
    ∀ d ∈ items, inner.Bounds n d := by
  intro d hd
  simp only [Reading.enter] at entered
  rcases h with room | ⟨room, v, read⟩
  · rw [room] at entered
    cases entered
    exact .inl rfl
  · rw [room] at entered
    cases entered
    simp only [Document.value, Document.enter] at read
    split at read
    · cases read
    · rename_i vs values
      exact .inr ⟨rfl, exists_of_mem_left (values_eq_ok.1 values) d hd⟩

/-- The members of an object are within one container less. -/
theorem Reading.Bounds.members {members : List (Option String × Document)} {closed : Bool}
    (h : r.Bounds (n + 1) (.obj members closed)) (entered : r.enter = .ok inner) :
    ∀ m ∈ members, inner.Bounds n m.2 := by
  intro m hm
  simp only [Reading.enter] at entered
  rcases h with room | ⟨room, v, read⟩
  · rw [room] at entered
    cases entered
    exact .inl rfl
  · rw [room] at entered
    cases entered
    simp only [Document.value, Document.enter] at read
    split at read
    · cases read
    · rename_i fs fields
      obtain ⟨p, -, own⟩ := exists_of_mem_left (fields_eq_ok.1 fields) m hm
      exact .inr ⟨rfl, p.2, own⟩

/-- A document that was read as a value can be read once more. -/
theorem Reading.Bounds.kept {doc : Document} (h : r.Bounds n doc)
    (read : doc.value r.room = .ok v) : Reading.ofKept.Bounds n doc := by
  rcases h with room | ⟨-, bound⟩
  · exact .inr ⟨rfl, v, room ▸ read⟩
  · exact .inr ⟨rfl, bound⟩

/-! ### Leaves -/

theorem yields_any : Yields (Shape.look .any) n (Sound n) := by
  intro r doc u bounds plain read
  have read : doc.value r.room = .ok u := read
  rcases bounds with room | ⟨room, v, bound⟩ <;> rw [room] at read
  · exact plain.sound read
  · cases (plain.value_unbounded bound).symm.trans read
    exact plain.sound bound

theorem yields_list : Yields lookList n fun u => u.Sound n ∧ ∃ vs, u = .arr vs := by
  intro r doc u bounds plain read
  cases doc with
  | arr items closed =>
    refine ⟨yields_any r _ u bounds plain read, ?_⟩
    simp only [lookList, Document.value] at read
    split at read
    · cases read
    · split at read
      · cases read
      · split at read <;> cases read
        exact ⟨_, rfl⟩
  | leaf | unreadable | broken | obj => cases read

theorem yields_text : Yields lookText n fun u => ∃ s, u = .str s := by
  intro r doc u _ _ read
  simp only [lookText] at read
  split at read <;> cases read
  exact ⟨_, rfl⟩

theorem yields_whole {k : Width} : Yields (lookWhole k) n fun u => ∃ i ≤ k.max, u = .ofNat i := by
  intro r doc u bounds plain read
  clear bounds plain
  simp only [lookWhole] at read
  split at read
  · rename_i i
    split at read <;> cases read
    rename_i fits
    exact ⟨i.toNat, by omega, by rw [ofNat, Int.toNat_of_nonneg fits.1]⟩
  · cases read

/-- A default of a width. -/
theorem whole_default {k : Width} {i : Nat} (fits : i ≤ k.max) :
    ∀ v, some (ofNat i) = some v → ∃ i ≤ k.max, v = .ofNat i :=
  fun _ same => ⟨i, fits, (Option.some.inj same).symm⟩

theorem nameAmong_ok {known : List String} {s : String} (h : nameAmong known s = .ok u) :
    ∃ s ∈ known, u = .str s := by
  simp only [nameAmong] at h
  split at h <;> cases h
  exact ⟨s, ‹_›, rfl⟩

theorem lookName_ok {known : List String} {doc : Document} (read : lookName known r doc = .ok u) :
    ∃ s ∈ known, u = .str s := by
  simp only [lookName] at read
  split at read
  · exact nameAmong_ok read
  · split at read <;> cases read
  · split at read
    · cases read
    · split at read
      · cases read
      · cases read
      · split at read <;> cases read
        exact nameAmong_ok ‹nameAmong _ _ = .ok _›
  · split at read
    · cases read
    · split at read <;> cases read
  · split at read <;> cases read

theorem yields_name {known : List String} :
    Yields (lookName known) n fun u => ∃ s ∈ known, u = .str s :=
  fun _ _ _ _ _ => lookName_ok

theorem yields_optional {s : Shape} (h : Yields s.look n P) :
    Yields (Shape.optional s).look n fun u => u = .null ∨ P u := by
  intro r doc u bounds plain read
  simp only [Shape.look] at read
  split at read
  · cases read
    exact .inl rfl
  · exact .inr (h r _ u bounds plain read)

/-- A field that may be left out is null by default. -/
theorem null_default : ∀ v, some Json.null = some v → v = .null ∨ P v :=
  fun _ same => .inl (Option.some.inj same).symm

theorem yields_withDefault {s : Shape} {d : Json} (default : P d) (h : Yields s.look n P) :
    Yields (Shape.withDefault d s).look n P := by
  intro r doc u bounds plain read
  simp only [Shape.look] at read
  split at read
  · cases read
    exact default
  · exact h r _ u bounds plain read

/-! ### Records -/

variable {fields : List Field}

/-- A field has what was read of its piece of the document, or its default if there is none. -/
def Field.Comes (f : Field) (r : Reading) (piece : Option Document) (v : Json) : Prop :=
  match piece with
  | some d => f.look r d = .ok v
  | none => f.default? = some v

/-- In an array the pieces stand in the order of the fields. -/
theorem readItems_ok {title : String} {count index : Nat} {closed : Bool} {docs : List Document}
    {done : Fields} (names : (fields.map (·.name)).Nodup)
    (read : readItems r title count closed index fields docs = .ok done) :
    ∀ (i : Nat) (f : Field), fields[i]? = some f →
      ∃ v, done.get? f.name = some v ∧ f.Comes r docs[i]? v := by
  induction fields generalizing index docs done with
  | nil => exact fun i f place => nomatch place
  | cons g fields ih =>
    obtain ⟨first, names⟩ := List.nodup_cons.1 names
    -- The first field is put on top of the others, whose names are not its own.
    have step {rest : Fields} {w : Json} {docs' : List Document}
        (others : ∀ (i : Nat) (f : Field), fields[i]? = some f →
          ∃ v, rest.get? f.name = some v ∧ f.Comes r docs'[i]? v)
        (same : ∀ i, docs[i + 1]? = docs'[i]?) (own : g.Comes r docs[0]? w) :
        ∀ (i : Nat) (f : Field), (g :: fields)[i]? = some f →
          ∃ v, (rest.insert g.name w).get? f.name = some v ∧ f.Comes r docs[i]? v := by
      intro i f place
      cases i with
      | zero =>
        cases place
        exact ⟨w, Fields.get?_insert_self _ _ _, own⟩
      | succ i =>
        rw [List.getElem?_cons_succ] at place
        have apart : f.name ≠ g.name := fun same =>
          first (List.mem_map.2 ⟨f, List.mem_of_getElem? place, same⟩)
        rw [Fields.get?_insert_of_ne _ _ apart, same]
        exact others i f place
    cases docs with
    | nil =>
      simp only [readItems] at read
      split at read
      · split at read
        · cases read
        · rename_i w default
          split at read <;> cases read
          exact step (ih names ‹_›) (fun _ => rfl) default
      · cases read
    | cons d docs =>
      simp only [readItems] at read
      split at read
      · cases read
      · rename_i w own
        split at read <;> cases read
        exact step (ih names ‹_›) (fun _ => rfl) own

/-- A field of an object is what was read of a member of its name, unless there is none. -/
theorem readMembers_ok {done done' : Fields} {ms : List (Option String × Document)} {f : Field}
    (found : fields.find? (·.name = f.name) = some f)
    (read : readMembers r fields done ms = .ok done') :
    (∃ d v, (some f.name, d) ∈ ms ∧ done'.get? f.name = some v ∧ f.look r d = .ok v) ∨
      (∀ d, (some f.name, d) ∉ ms) ∧ done'.get? f.name = done.get? f.name := by
  induction ms generalizing done with
  | nil =>
    cases read
    exact .inr ⟨fun _ => List.not_mem_nil, rfl⟩
  | cons m ms ih =>
    obtain ⟨name, d⟩ := m
    cases name with
    | none => cases read
    | some k =>
      -- What is known of the other members holds of all, if this one has another name.
      have pass {done₁ : Fields} (read : readMembers r fields done₁ ms = .ok done')
          (other : k ≠ f.name) (same : done₁.get? f.name = done.get? f.name) :
          (∃ d' v, (some f.name, d') ∈ (some k, d) :: ms ∧ done'.get? f.name = some v ∧
              f.look r d' = .ok v) ∨
            (∀ d', (some f.name, d') ∉ (some k, d) :: ms) ∧
              done'.get? f.name = done.get? f.name := by
        rcases ih read with ⟨d', v, there, rest⟩ | ⟨missing, rest⟩
        · exact .inl ⟨d', v, List.mem_cons_of_mem _ there, rest⟩
        · refine .inr ⟨fun d' there => ?_, rest.trans same⟩
          rcases List.mem_cons.1 there with here | later
          · cases here
            exact other rfl
          · exact missing d' later
      simp only [readMembers] at read
      split at read
      · rename_i unknown
        refine pass read ?_ rfl
        rintro rfl
        cases unknown.symm.trans found
      · rename_i g known
        split at read
        · cases read
        · split at read
          · cases read
          · rename_i w own
            by_cases here : k = f.name
            · subst here
              cases known.symm.trans found
              rcases ih read with ⟨d', v, there, rest⟩ | ⟨-, rest⟩
              · exact .inl ⟨d', v, List.mem_cons_of_mem _ there, rest⟩
              · rw [Fields.get?_insert_self] at rest
                exact .inl ⟨d, w, List.mem_cons_self, rest, own⟩
            · exact pass read here (Fields.get?_insert_of_ne _ _ (Ne.symm here))

/-- What is there is not filled in. -/
theorem fillMissing_keeps {done done' : Fields} (filled : fillMissing fields done = .ok done')
    {name : String} (there : done.get? name = some v) : done'.get? name = some v := by
  induction fields generalizing done with
  | nil =>
    cases filled
    exact there
  | cons f fields ih =>
    simp only [fillMissing] at filled
    split at filled
    · exact ih filled there
    · rename_i missing
      split at filled
      · refine ih filled ?_
        rwa [Fields.get?_insert_of_ne]
        rintro rfl
        exact missing (by simp [Fields.has, there])
      · cases filled

/-- What is missing is filled in with its default. -/
theorem fillMissing_default {done done' : Fields} (names : (fields.map (·.name)).Nodup)
    (filled : fillMissing fields done = .ok done') : ∀ f ∈ fields, done.get? f.name = none →
      ∃ v, done'.get? f.name = some v ∧ f.default? = some v := by
  induction fields generalizing done with
  | nil => exact List.forall_mem_nil _
  | cons f fields ih =>
    obtain ⟨first, names⟩ := List.nodup_cons.1 names
    simp only [fillMissing] at filled
    split at filled
    · rename_i there
      refine List.forall_mem_cons.2 ⟨fun missing => ?_, ih names filled⟩
      simp [Fields.has, missing] at there
    · split at filled
      · rename_i w default
        refine List.forall_mem_cons.2 ⟨fun _ => ?_, fun g hg missing => ih names filled g hg ?_⟩
        · exact ⟨w, fillMissing_keeps filled (Fields.get?_insert_self _ _ _), default⟩
        · have apart : g.name ≠ f.name := fun same => first (List.mem_map.2 ⟨g, hg, same⟩)
          rwa [Fields.get?_insert_of_ne _ _ apart]
      · cases filled

/-- The piece of a document that is for a field: in an array the one in its place, in an object one
    of its name. -/
inductive Document.Piece (i : Nat) (name : String) : Document → Option Document → Prop where
  | item (items : List Document) (closed : Bool) : Piece i name (.arr items closed) items[i]?
  | member {members : List (Option String × Document)} {closed : Bool} {d : Document}
    (there : (some name, d) ∈ members) : Piece i name (.obj members closed) (some d)
  | missing {members : List (Option String × Document)} {closed : Bool}
    (none_ : ∀ d, (some name, d) ∉ members) : Piece i name (.obj members closed) none

theorem find?_name {f : Field} {i : Nat} (names : (fields.map (·.name)).Nodup)
    (place : fields[i]? = some f) : fields.find? (·.name = f.name) = some f := by
  have there := List.mem_of_getElem? place
  cases found : fields.find? (·.name = f.name) with
  | none => simpa using List.find?_eq_none.1 found f there
  | some g =>
    have same : g.name = f.name := by simpa using List.find?_some found
    exact congrArg _ (List.inj_on_of_nodup_map names (List.mem_of_find?_eq_some found) there same)

/-- A record has its fields, each read of its piece of the document. -/
theorem lookRecord_ok {title : String} {doc : Document} (names : (fields.map (·.name)).Nodup)
    (read : lookRecord title fields r doc = .ok u) :
    ∃ inner, r.enter = .ok inner ∧ ∃ done : Fields, u = .obj done ∧
      ∀ (i : Nat) (f : Field), fields[i]? = some f → ∃ v piece, done.get? f.name = some v ∧
        doc.Piece i f.name piece ∧ f.Comes inner piece v := by
  unfold lookRecord at read
  split at read
  · split at read
    · cases read
    · rename_i inner entered
      split at read <;> cases read
      rename_i items done
      refine ⟨inner, entered, _, rfl, fun i f place => ?_⟩
      obtain ⟨v, present, comes⟩ := readItems_ok names done i f place
      exact ⟨v, _, present, .item _ _, comes⟩
  · split at read
    · cases read
    · rename_i inner entered
      split at read
      · cases read
      · rename_i done members
        split at read
        · split at read <;> cases read
          rename_i filled
          refine ⟨inner, entered, _, rfl, fun i f place => ?_⟩
          rcases readMembers_ok (find?_name names place) members with
            ⟨d, v, there, present, look⟩ | ⟨missing, absent⟩
          · exact ⟨v, some d, fillMissing_keeps filled present, .member there, look⟩
          · obtain ⟨v, present, default⟩ :=
              fillMissing_default names filled f (List.mem_of_getElem? place) absent
            exact ⟨v, none, present, .missing missing, default⟩
        · cases read
  · cases read

/-- A field that has to be there has no default. -/
theorem no_default : ∀ v, (none : Option Json) = some v → P v :=
  nofun

/-- What can be said of a field of a record: what is read of its piece has a property, and so has
    its default. -/
theorem yields_field {title : String} (names : (fields.map (·.name)).Nodup) {i : Nat} {f : Field}
    (place : fields[i]? = some f) (h : Yields f.look n P)
    (default : ∀ v, f.default? = some v → P v) :
    Yields (lookRecord title fields) (n + 1) fun u => ∃ v, u.get? f.name = some v ∧ P v := by
  intro r doc u bounds plain read
  obtain ⟨inner, entered, done, rfl, each⟩ := lookRecord_ok names read
  obtain ⟨v, piece, present, stands, comes⟩ := each i f place
  refine ⟨v, present, ?_⟩
  cases stands with
  | item items closed =>
    cases at_ : items[i]? with
    | none =>
      rw [at_] at comes
      exact default v comes
    | some d =>
      rw [at_] at comes
      have there := List.mem_of_getElem? at_
      cases plain with
      | arr each => exact h inner d v (bounds.items entered d there) (each d there) comes
  | member there =>
    cases plain with
    | obj each => exact h inner _ v (bounds.members entered _ there) (each _ there) comes
  | missing => exact default v comes

/-! ### Tagged records -/

variable {tag content : String} {cases : Cases} {PC : String → Json → Prop}

theorem yields_caseLook (each : ∀ c ∈ cases, Yields c.2 n (PC c.1)) (name : String) :
    Yields (caseLook cases (.str name)) n (PC name) := by
  intro r doc u bounds plain read
  cases found : cases.find? fun c => (Json.str name).text? = some c.1 with
  | none =>
    simp only [caseLook, found] at read
    cases read
  | some c =>
    simp only [caseLook, found] at read
    have same : name = c.1 := by simpa [text?] using List.find?_some found
    exact same ▸ each c (List.mem_of_find?_eq_some found) r doc u bounds plain read

theorem mem_of_nextRelevant {ms rest : List (Option String × Document)} {k : Option String}
    {d : Document} (h : nextRelevant tag content ms = some (k, d, rest)) :
    (k, d) ∈ ms ∧ ∀ m ∈ rest, m ∈ ms := by
  induction ms with
  | nil => cases h
  | cons m ms ih =>
    obtain ⟨name, d'⟩ := m
    have first {name : Option String} (same : some (name, d', ms) = some (k, d, rest)) :
        (k, d) ∈ (name, d') :: ms ∧ ∀ m ∈ rest, m ∈ (name, d') :: ms := by
      cases same
      exact ⟨List.mem_cons_self, fun _ => List.mem_cons_of_mem _⟩
    cases name with
    | none => exact first h
    | some l =>
      simp only [nextRelevant] at h
      split at h
      · exact first h
      · exact ⟨List.mem_cons_of_mem _ (ih h).1, fun m hm => List.mem_cons_of_mem _ ((ih h).2 m hm)⟩

theorem endTagged_ok {closed : Bool} {rest : List (Option String × Document)} {name : Json}
    (h : endTagged tag content closed rest name v = .ok u) :
    u = ofPairs [(tag, name), (content, v)] := by
  unfold endTagged at h
  split at h
  · cases h
  · cases h
  · split at h <;> cases h
    rfl

/-- A tagged record that is an object has a name, and what the content has under that name. -/
theorem tagFirst_ok {closed : Bool} {doc : Document} {rest : List (Option String × Document)}
    (read : tagFirst tag content cases r closed doc rest = .ok u) :
    ∃ name ∈ cases.map (·.1), ∃ m ∈ rest, ∃ v, caseLook cases (.str name) r m.2 = .ok v ∧
      u = ofPairs [(tag, .str name), (content, v)] := by
  unfold tagFirst at read
  split at read
  · cases read
  · rename_i name named
    obtain ⟨name, known, rfl⟩ := lookName_ok named
    split at read
    · split at read <;> cases read
    · cases read
    · rename_i next
      split at read
      · cases read
      · split at read
        · cases read
        · rename_i v value
          exact ⟨name, known, _, (mem_of_nextRelevant next).1, v, value, endTagged_ok read⟩

/-- If the content comes first, it is read as a value before it is read under the name. -/
theorem contentFirst_ok {closed : Bool} {doc : Document}
    {rest : List (Option String × Document)}
    (read : contentFirst tag content cases r closed doc rest = .ok u) :
    ∃ name ∈ cases.map (·.1), ∃ w v, doc.value r.room = .ok w ∧
      caseLook cases (.str name) .ofKept doc = .ok v ∧
      u = ofPairs [(tag, .str name), (content, v)] := by
  unfold contentFirst at read
  split at read
  · cases read
  · rename_i w kept
    split at read
    · split at read <;> cases read
    · cases read
    · split at read
      · cases read
      · split at read
        · cases read
        · rename_i name named
          obtain ⟨name, known, rfl⟩ := lookName_ok named
          split at read
          · cases read
          · rename_i v value
            exact ⟨name, known, w, v, kept, value, endTagged_ok read⟩

/-- Where the content of a tagged record stands, and what it is read as under a name.  Content that
    comes before the name is kept, and read again when the name is known. -/
inductive Document.Content (cases : Cases) (r : Reading) (name : String) (v : Json) :
    Document → Prop where
  | item {items : List Document} {closed : Bool} {d : Document} (there : d ∈ items)
    (value : caseLook cases (.str name) r d = .ok v) : Content cases r name v (.arr items closed)
  | member {members : List (Option String × Document)} {closed : Bool}
    {m : Option String × Document} (there : m ∈ members)
    (value : caseLook cases (.str name) r m.2 = .ok v) :
    Content cases r name v (.obj members closed)
  | kept {members : List (Option String × Document)} {closed : Bool}
    {m : Option String × Document} {w : Json} (there : m ∈ members)
    (kept : m.2.value r.room = .ok w) (value : caseLook cases (.str name) .ofKept m.2 = .ok v) :
    Content cases r name v (.obj members closed)

/-- A tagged record has one of the names, and its content under that name. -/
theorem lookTagged_ok {title : String} {doc : Document}
    (read : lookTagged title tag content cases r doc = .ok u) :
    ∃ inner, r.enter = .ok inner ∧ ∃ name ∈ cases.map (·.1), ∃ v,
      doc.Content cases inner name v ∧ u = ofPairs [(tag, .str name), (content, v)] := by
  unfold lookTagged at read
  split at read
  · split at read
    · cases read
    · rename_i inner entered
      split at read
      · cases read
      · split at read
        · cases read
        · rename_i name named
          obtain ⟨name, known, rfl⟩ := lookName_ok named
          split at read
          · cases read
          · split at read
            · cases read
            · rename_i v value
              refine ⟨inner, entered, name, known, v, .item (.tail _ (.head _)) value, ?_⟩
              split at read
              · cases read
              · split at read <;> cases read
                rfl
  · split at read
    · cases read
    · rename_i inner entered
      split at read
      · cases read
      · cases read
      · rename_i next
        obtain ⟨there, later⟩ := mem_of_nextRelevant next
        split at read
        · obtain ⟨name, known, m, hm, v, value, same⟩ := tagFirst_ok read
          exact ⟨inner, entered, name, known, v, .member (later m hm) value, same⟩
        · obtain ⟨name, known, w, v, kept, value, same⟩ := contentFirst_ok read
          exact ⟨inner, entered, name, known, v, .kept there kept value, same⟩
  · cases read

/-- A tagged record has one of the names, and what can be said of content under that name. -/
theorem yields_tagged {title : String} (each : ∀ c ∈ cases, Yields c.2 n (PC c.1)) :
    Yields (lookTagged title tag content cases) (n + 1) fun u => ∃ name ∈ cases.map (·.1), ∃ v,
      u = ofPairs [(tag, .str name), (content, v)] ∧ PC name v := by
  intro r doc u bounds plain read
  obtain ⟨inner, entered, name, known, v, stands, same⟩ := lookTagged_ok read
  refine ⟨name, known, v, same, ?_⟩
  cases stands with
  | item there value =>
    cases plain with
    | arr plain =>
      exact yields_caseLook each name _ _ v (bounds.items entered _ there) (plain _ there) value
  | member there value =>
    cases plain with
    | obj plain =>
      exact yields_caseLook each name _ _ v (bounds.members entered _ there) (plain _ there) value
  | kept there kept value =>
    cases plain with
    | obj plain =>
      exact yields_caseLook each name _ _ v ((bounds.members entered _ there).kept kept)
        (plain _ there) value

end

end HomeGateway.Json
