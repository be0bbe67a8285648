/-
  The order of fields, and the leaves of a text.

  Fields in ascending order of their names are kept in that order, so no name
  comes twice, and a field is whatever stands under its name.  The leaves of a
  document that is read from a text are scalars, and its whole numbers have 64
  bits.

  * `Fields.sorted_insert`, `Fields.get?_eq_some`: ordered fields;
  * `Json.Ordered`: a value all of whose objects are ordered;
  * `plain_outline`: the leaves of a text.
-/
import Mathlib.Order.Basic
import Mathlib.Data.String.Basic
import HomeGateway.Json.Shape

namespace HomeGateway

namespace Fields

variable {fs : Fields} {name k : String} {v w : Json}

theorem mem_insert {p : String × Json} (h : p ∈ fs.insert name v) : p = (name, v) ∨ p ∈ fs := by
  induction fs with
  | nil => exact .inl (List.mem_singleton.1 h)
  | cons q rest ih =>
    obtain ⟨l, x⟩ := q
    simp only [insert] at h
    split at h
    · exact List.mem_cons.1 h
    · split at h
      · exact (List.mem_cons.1 h).imp_right (List.mem_cons_of_mem _)
      · rcases List.mem_cons.1 h with rfl | later
        · exact .inr List.mem_cons_self
        · exact (ih later).imp_right (List.mem_cons_of_mem _)

theorem sorted_insert (h : fs.Sorted) (name : String) (v : Json) : (fs.insert name v).Sorted := by
  induction fs with
  | nil => exact List.pairwise_singleton _ _
  | cons q rest ih =>
    obtain ⟨l, x⟩ := q
    obtain ⟨first, sorted⟩ := List.pairwise_cons.1 h
    simp only [insert]
    split
    · rename_i before
      exact List.pairwise_cons.2 ⟨List.forall_mem_cons.2
        ⟨before, fun p hp => lt_trans before (first p hp)⟩, h⟩
    · split
      · rename_i same
        subst same
        exact List.pairwise_cons.2 ⟨first, sorted⟩
      · rename_i notBefore other
        refine List.pairwise_cons.2 ⟨fun p hp => ?_, ih sorted⟩
        rcases mem_insert hp with rfl | old
        · exact lt_of_le_of_ne (not_lt.1 notBefore) other
        · exact first p old

theorem sorted_ofList (pairs : List (String × Json)) : (ofList pairs).Sorted := by
  have step (pairs : List (String × Json)) : ∀ {fs : Fields}, fs.Sorted →
      (pairs.foldl (fun fs p => fs.insert p.1 p.2) fs).Sorted := by
    induction pairs with
    | nil => exact id
    | cons p rest ih => exact fun h => ih (sorted_insert h _ _)
  exact step pairs List.Pairwise.nil

theorem mem_ofList {pairs : List (String × Json)} {p : String × Json} (h : p ∈ ofList pairs) :
    p ∈ pairs := by
  have step (pairs : List (String × Json)) : ∀ {fs : Fields},
      p ∈ pairs.foldl (fun fs p => fs.insert p.1 p.2) fs → p ∈ fs ∨ p ∈ pairs := by
    induction pairs with
    | nil => exact .inl
    | cons q rest ih =>
      intro fs h
      rcases ih h with mid | later
      · exact (mem_insert mid).elim (fun same => .inr (same ▸ List.mem_cons_self)) .inl
      · exact .inr (List.mem_cons_of_mem _ later)
  exact (step pairs h).resolve_left List.not_mem_nil

theorem mem_of_get? (h : fs.get? name = some v) : (name, v) ∈ fs := by
  induction fs with
  | nil => cases h
  | cons q rest ih =>
    obtain ⟨l, x⟩ := q
    simp only [get?] at h
    split at h
    · rename_i same
      cases h
      exact same ▸ List.mem_cons_self
    · exact List.mem_cons_of_mem _ (ih h)

theorem get?_eq_none (h : ∀ p ∈ fs, p.1 ≠ name) : fs.get? name = none := by
  induction fs with
  | nil => rfl
  | cons q rest ih =>
    obtain ⟨first, later⟩ := List.forall_mem_cons.1 h
    exact (if_neg first).trans (ih later)

/-- What stands under a name is its only field. -/
theorem get?_eq_some (h : fs.Sorted) : fs.get? name = some v ↔ (name, v) ∈ fs := by
  refine ⟨mem_of_get?, fun there => ?_⟩
  induction fs with
  | nil => cases there
  | cons q rest ih =>
    obtain ⟨l, x⟩ := q
    obtain ⟨first, sorted⟩ := List.pairwise_cons.1 h
    rcases List.mem_cons.1 there with same | later
    · cases same
      exact if_pos rfl
    · exact (if_neg (ne_of_lt (first _ later))).trans (ih sorted later)

/-- The first field has a name of its own. -/
theorem Sorted.head (h : Fields.Sorted ((name, v) :: fs)) : fs.Sorted ∧ fs.get? name = none := by
  obtain ⟨first, sorted⟩ := List.pairwise_cons.1 h
  exact ⟨sorted, get?_eq_none fun p hp => (ne_of_lt (first p hp)).symm⟩

end Fields

namespace Json

/-- A value all of whose objects have their fields in ascending order. -/
inductive Ordered : Json → Prop where
  | null : Ordered .null
  | bool (b : Bool) : Ordered (.bool b)
  | int (i : Int) : Ordered (.int i)
  | float (d : Double) : Ordered (.float d)
  | str (s : String) : Ordered (.str s)
  | arr {items : List Json} (each : ∀ v ∈ items, v.Ordered) : Ordered (.arr items)
  | obj {fs : Fields} (sorted : fs.Sorted) (each : ∀ p ∈ fs, p.2.Ordered) : Ordered (.obj fs)

theorem Ordered.sorted {fs : Fields} (h : Ordered (.obj fs)) : fs.Sorted := by
  cases h with
  | obj sorted each => exact sorted

theorem Ordered.get? {v w : Json} {name : String} (h : v.Ordered) (found : v.get? name = some w) :
    w.Ordered := by
  cases h with
  | obj sorted each => exact each _ (Fields.mem_of_get? found)
  | null | bool | int | float | str | arr => cases found

/-- A value without contents.  A whole number has 64 bits, with or without a sign. -/
inductive Scalar : Json → Prop where
  | null : Scalar .null
  | bool (b : Bool) : Scalar (.bool b)
  | int {i : Int} (least : -lowestMagnitude ≤ i) (greatest : i ≤ maxWord) : Scalar (.int i)
  | float (d : Double) : Scalar (.float d)
  | str (s : String) : Scalar (.str s)

theorem Scalar.ordered {v : Json} (h : v.Scalar) : v.Ordered := by
  cases h with
  | null => exact .null
  | bool b => exact .bool b
  | int => exact .int _
  | float d => exact .float d
  | str s => exact .str s

/-! ## Documents -/

/-- A document whose leaves are scalars. -/
inductive Document.Plain : Document → Prop where
  | leaf {v : Json} (scalar : v.Scalar) : Plain (.leaf v)
  | unreadable : Plain .unreadable
  | broken : Plain .broken
  | arr {items : List Document} {closed : Bool} (each : ∀ d ∈ items, d.Plain) :
    Plain (.arr items closed)
  | obj {members : List (Option String × Document)} {closed : Bool}
    (each : ∀ m ∈ members, m.2.Plain) : Plain (.obj members closed)

/-! ## The automaton -/

open Document

theorem floatOf?_scalar {negative : Bool} {whole fraction : List Char} {e : Int} {v : Json}
    (h : floatOf? negative whole fraction e = some v) : v.Scalar := by
  obtain ⟨d, -, rfl⟩ := Option.map_eq_some_iff.1 h
  exact .float d

theorem wholeOf?_scalar {negative : Bool} {whole : List Char} {v : Json}
    (h : wholeOf? negative whole = some v) : v.Scalar := by
  simp only [wholeOf?, Bool.and_eq_true, decide_eq_true_eq] at h
  split at h
  · rename_i fits
    cases h
    exact .int (by omega) (by omega)
  · split at h
    · rename_i fits
      cases h
      exact .int (by omega) (by omega)
    · exact floatOf?_scalar h

theorem Numeral.plain (n : Numeral) : n.document.Plain := by
  simp only [Numeral.document]
  split
  · split
    · rename_i v read
      split at read
      · exact .leaf (floatOf?_scalar read)
      · exact .leaf (wholeOf?_scalar read)
    · exact .unreadable
  · exact .broken

/-- An open container with plain contents. -/
def Open.Plain : Open → Prop
  | .arr items => ∀ d ∈ items, d.Plain
  | .obj members _ => ∀ m ∈ members, m.2.Plain

/-- The automaton while everything that was read is plain. -/
structure State.Plain (st : State) : Prop where
  stack : ∀ o ∈ st.stack, o.Plain
  result : ∀ d, st.result = some d → d.Plain
  word : ∀ left v, st.mode = .word left v → v.Scalar

namespace State

variable {st : State}

/-- In any mode but that of a word, only the containers and the result matter. -/
theorem Plain.mode (h : st.Plain) {m : Mode} (word : ∀ left v, m ≠ .word left v) :
    ({ st with mode := m }).Plain :=
  ⟨h.stack, h.result, fun left v same => absurd same (word left v)⟩

theorem Plain.put (h : st.Plain) {doc : Document} (plain : doc.Plain) : (st.put doc).Plain := by
  have stack := h.stack
  unfold State.put
  split
  · exact ⟨List.forall_mem_nil _, fun d same => Option.some.inj same ▸ plain, nofun⟩
  · rename_i items rest open_
    rw [open_, List.forall_mem_cons] at stack
    exact ⟨List.forall_mem_cons.2 ⟨List.forall_mem_cons.2 ⟨plain, stack.1⟩, stack.2⟩, h.result,
      nofun⟩
  · rename_i members name rest open_
    rw [open_, List.forall_mem_cons] at stack
    exact ⟨List.forall_mem_cons.2 ⟨List.forall_mem_cons.2 ⟨plain, stack.1⟩, stack.2⟩, h.result,
      nofun⟩

theorem plain_abandon {stack : List Open} (h : ∀ o ∈ stack, o.Plain) {doc : Document}
    (plain : doc.Plain) : (abandon stack doc).Plain := by
  induction stack generalizing doc with
  | nil => exact plain
  | cons o rest ih =>
    obtain ⟨first, later⟩ := List.forall_mem_cons.1 h
    cases o with
    | arr items =>
      have all : ∀ d ∈ doc :: items, d.Plain := List.forall_mem_cons.2 ⟨plain, first⟩
      exact ih later (.arr fun d hd => all d (List.mem_reverse.1 hd))
    | obj members name =>
      have all : ∀ m ∈ (name, doc) :: members, m.2.Plain := List.forall_mem_cons.2 ⟨plain, first⟩
      exact ih later (.obj fun m hm => all m (List.mem_reverse.1 hm))

theorem plain_abandonBetween {stack : List Open} (h : ∀ o ∈ stack, o.Plain) :
    (abandonBetween stack).Plain := by
  cases stack with
  | nil => exact .broken
  | cons o rest =>
    obtain ⟨first, later⟩ := List.forall_mem_cons.1 h
    cases o with
    | arr items => exact plain_abandon later (.arr fun d hd => first d (List.mem_reverse.1 hd))
    | obj members name =>
      exact plain_abandon later (.obj fun m hm => first m (List.mem_reverse.1 hm))

theorem plain_stopped {doc : Document} (plain : doc.Plain) :
    State.Plain ⟨.stopped, [], some doc⟩ :=
  ⟨List.forall_mem_nil _, fun _ same => Option.some.inj same ▸ plain, nofun⟩

theorem Plain.halt (h : st.Plain) : st.halt.Plain := by
  have value : st.breakValue.Plain := plain_stopped (plain_abandon h.stack .broken)
  have between : st.breakBetween.Plain := by
    unfold breakBetween
    split
    · exact h.mode nofun
    · exact plain_stopped (plain_abandonBetween h.stack)
  unfold State.halt
  split
  all_goals first | exact between | exact value | exact h | (split <;> assumption)

theorem Plain.close (h : st.Plain) (c : Char) : (st.close c).Plain := by
  have stack := h.stack
  unfold State.close
  split
  · rename_i items rest open_
    rw [open_, List.forall_mem_cons] at stack
    split
    · have rest : ({ st with stack := rest }).Plain := ⟨stack.2, h.result, h.word⟩
      exact rest.put (.arr fun d hd => stack.1 d (List.mem_reverse.1 hd))
    · exact h.halt
  · rename_i members name rest open_
    rw [open_, List.forall_mem_cons] at stack
    split
    · have rest : ({ st with stack := rest }).Plain := ⟨stack.2, h.result, h.word⟩
      exact rest.put (.obj fun m hm => stack.1 m (List.mem_reverse.1 hm))
    · exact h.halt
  · exact h.halt

theorem Plain.feedNext (h : st.Plain) (c : Char) : (st.feedNext c).Plain := by
  unfold State.feedNext
  split
  · exact h
  · split
    · split
      · exact h.mode nofun
      · exact h.mode nofun
      · exact h.halt
    · exact h.close c

theorem Plain.feedValue (h : st.Plain) (orEnd : Bool) (c : Char) :
    (st.feedValue orEnd c).Plain := by
  have word (left : List Char) {v : Json} (scalar : v.Scalar) :
      ({ st with mode := .word left v }).Plain :=
    ⟨h.stack, h.result, fun _ _ same => by cases same; exact scalar⟩
  unfold State.feedValue
  split
  · exact h
  split
  · exact ⟨List.forall_mem_cons.2 ⟨List.forall_mem_nil _, h.stack⟩, h.result, nofun⟩
  split
  · exact ⟨List.forall_mem_cons.2 ⟨List.forall_mem_nil _, h.stack⟩, h.result, nofun⟩
  split
  · exact h.mode nofun
  split
  · exact word _ (.bool true)
  split
  · exact word _ (.bool false)
  split
  · exact word _ .null
  split
  · exact h.mode nofun
  · split
    · exact h.close c
    · exact h.halt

theorem Plain.feedName (h : st.Plain) (orEnd : Bool) (c : Char) : (st.feedName orEnd c).Plain := by
  unfold State.feedName
  split
  · exact h
  split
  · exact h.mode nofun
  split
  · exact h.close c
  · exact h.halt

theorem Plain.feedText (h : st.Plain) (s : Span) (c : Char) : (st.feedText s c).Plain := by
  have stack := h.stack
  have ended : (st.endText s).Plain := by
    unfold endText
    split
    · split
      · rename_i members name rest open_
        rw [open_, List.forall_mem_cons] at stack
        exact ⟨List.forall_mem_cons.2 stack, h.result, nofun⟩
      · exact h.halt
    · split
      · exact h.put (.leaf (.str _))
      · exact h.put .unreadable
  unfold State.feedText
  split
  · exact ended
  split
  · exact h.mode nofun
  split
  · exact h.halt
  · exact h.mode nofun

theorem Plain.feedEscape (h : st.Plain) (s : Span) (c : Char) : (st.feedEscape s c).Plain := by
  unfold State.feedEscape
  split
  · exact h.mode nofun
  · split
    · exact h.mode nofun
    · exact h.halt

theorem Plain.feedHex (h : st.Plain) (s : Span) (left unit : Nat) (c : Char) :
    (st.feedHex s left unit c).Plain := by
  unfold State.feedHex
  split
  · exact h.halt
  · dsimp only
    split
    · exact h.mode nofun
    · exact h.mode nofun

theorem Plain.feed (h : st.Plain) (c : Char) : (st.feed c).Plain := by
  unfold State.feed
  split
  · exact h.feedValue _ c
  · exact h.feedName _ c
  · split
    · exact h
    · split
      · exact h.mode nofun
      · exact h.halt
  · exact h.feedNext c
  · exact h.feedText _ c
  · exact h.feedEscape _ c
  · exact h.feedHex _ _ _ c
  · rename_i n _
    split
    · exact h.mode nofun
    · exact (h.put n.plain).feedNext c
    · exact h.halt
  · rename_i left v word
    have scalar := h.word left v word
    split
    · exact h.halt
    · split
      · exact h.put (.leaf scalar)
      · exact h.halt
    · split
      · exact ⟨h.stack, h.result, fun _ _ same => by cases same; exact scalar⟩
      · exact h.halt
  · exact h

theorem Plain.finish (h : st.Plain) : st.finish.Plain := by
  unfold State.finish
  split
  · rename_i n _
    split
    · have put := h.put n.plain
      dsimp only
      split
      · exact put
      · exact put.halt
    · exact h.halt
  · exact h
  · exact h.halt

end State

theorem plain_outline (t : String) : (outline t).document.Plain := by
  have fold (cs : List Char) : ∀ {st : State}, st.Plain → (cs.foldl State.feed st).Plain := by
    induction cs with
    | nil => exact id
    | cons c cs ih => exact fun h => ih (h.feed c)
  have start : State.start.Plain := ⟨List.forall_mem_nil _, nofun, nofun⟩
  have last := (fold t.toList start).finish
  unfold outline
  dsimp only
  cases result : (t.toList.foldl State.feed State.start).finish.result with
  | none => exact .broken
  | some d => exact last.result d result

end Json

end HomeGateway
