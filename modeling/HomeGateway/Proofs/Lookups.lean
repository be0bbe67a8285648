/-
  Looking for an endpoint by its number.

  Numbers may come more than once in a tree, at any depth.  A device searches
  its own tree (`find?`), a session goes through the row of all endpoints
  (`lookup?`), and whoever sees no more of an endpoint than its number and its
  children asks one endpoint after the other (`seek?`).

  Positions are ordered like the words of a dictionary: an endpoint comes before
  those below it, and these come before its siblings to the right.  This is the
  order of a walk that goes down before it goes on.

  * `ComesFirst`: the first position of a number;
  * `find?_eq_none_iff`, `find?_eq_some_iff`: what a search comes to;
  * `sought_first`: it makes no difference how the endpoint is looked for.
-/
import HomeGateway.Proofs.Snapshots

namespace HomeGateway.Engine.RemoteEndpoint

variable {e x : RemoteEndpoint} {k : Nat} {path : List Nat}

/-! ## One level -/

theorem sizeOf_child {c : RemoteEndpoint} (h : c ∈ e.children) : sizeOf c < sizeOf e := by
  obtain ⟨number, cs, es⟩ := e
  have smaller : sizeOf c < sizeOf es := List.sizeOf_lt_of_mem h
  rw [mk.sizeOf_spec]
  omega

/-- The first endpoint of a number, for those who can ask an endpoint for its number and its
    children only. -/
def seek? (k : Nat) (e : RemoteEndpoint) : Option RemoteEndpoint :=
  if e.number = k then some e
  else e.children.attach.findSome? fun c => seek? k c.1
termination_by e
decreasing_by exact sizeOf_child c.2

theorem seek?_own (own : e.number = k) : e.seek? k = some e := by
  rw [seek?, if_pos own]

theorem findIn?_eq_findSome? (k : Nat) (es : List RemoteEndpoint) :
    findIn? k es = es.findSome? (find? k) := by
  induction es with
  | nil => rfl
  | cons e es ih =>
    rw [findIn?, List.findSome?_cons, ih]
    cases find? k e <;> rfl

theorem find?_own (own : e.number = k) : e.find? k = some e := by
  obtain ⟨number, cs, es⟩ := e
  exact if_pos own

theorem find?_other (other : e.number ≠ k) : e.find? k = e.children.findSome? (find? k) := by
  obtain ⟨number, cs, es⟩ := e
  rw [← findIn?_eq_findSome?]
  exact if_neg other

/-! ## The first position -/

/-- The number of the endpoint at a position. -/
def numberAt? (path : List Nat) (e : RemoteEndpoint) : Option Nat :=
  (e.at? path).map number

theorem numberAt?_nil (e : RemoteEndpoint) : e.numberAt? [] = some e.number := rfl

theorem numberAt?_cons (i : Nat) (path : List Nat) (e : RemoteEndpoint) :
    e.numberAt? (i :: path) = (e.children[i]?).bind (numberAt? path) :=
  Option.map_bind

/-- A number is at a position and at none before it. -/
structure ComesFirst (k : Nat) (e : RemoteEndpoint) (path : List Nat) : Prop where
  there : e.numberAt? path = some k
  before : ∀ q < path, e.numberAt? q ≠ some k

theorem ComesFirst.own (own : e.number = k) : ComesFirst k e [] where
  there := by rw [numberAt?_nil, own]
  before q early := absurd early (List.not_lt_nil q)

/-- What comes first below a child comes first, if the number is neither at the root nor below an
    earlier child. -/
theorem ComesFirst.below {front back : List RemoteEndpoint} {c : RemoteEndpoint}
    (h : ComesFirst k c path) (other : e.number ≠ k) (split : e.children = front ++ c :: back)
    (earlier : ∀ z ∈ front, ∀ q, z.numberAt? q ≠ some k) :
    ComesFirst k e (front.length :: path) where
  there := by
    simp [numberAt?_cons, split, h.there]
  before q early at_q := by
    cases q with
    | nil =>
      rw [numberAt?_nil] at at_q
      exact other (Option.some.inj at_q)
    | cons i q =>
      rw [numberAt?_cons, split] at at_q
      obtain ⟨z, hz, at_q⟩ := Option.bind_eq_some_iff.1 at_q
      rcases List.cons_lt_cons_iff.1 early with left | ⟨rfl, sooner⟩
      · rw [List.getElem?_append_left left] at hz
        exact earlier z (List.mem_of_getElem? hz) q at_q
      · obtain rfl : c = z := by simpa using hz
        exact h.before q sooner at_q

theorem ComesFirst.unique {path' : List Nat} (h : ComesFirst k e path)
    (h' : ComesFirst k e path') : path = path' := by
  rcases lt_trichotomy path path' with early | same | late
  · exact absurd h.there (h'.before path early)
  · exact same
  · exact absurd h'.there (h.before path' late)

/-! ## What a search comes to -/

theorem number_ne_of_find?_eq_none (h : e.find? k = none) : e.number ≠ k := by
  intro own
  rw [find?_own own] at h
  exact Option.some_ne_none e h

theorem numberAt?_ne_of_find?_eq_none (h : e.find? k = none) (path : List Nat) :
    e.numberAt? path ≠ some k := by
  induction path generalizing e with
  | nil =>
    rw [numberAt?_nil]
    exact fun own => number_ne_of_find?_eq_none h (Option.some.inj own)
  | cons i path ih =>
    rw [find?_other (number_ne_of_find?_eq_none h), List.findSome?_eq_none_iff] at h
    rw [numberAt?_cons]
    intro below
    obtain ⟨c, hc, there⟩ := Option.bind_eq_some_iff.1 below
    exact ih (h c (List.mem_of_getElem? hc)) there

theorem exists_comesFirst (h : e.find? k = some x) :
    ∃ path, ComesFirst k e path ∧ e.at? path = some x := by
  induction e using seek?.induct k with
  | case1 e own =>
    obtain rfl : e = x := Option.some.inj ((find?_own own).symm.trans h)
    exact ⟨[], .own own, rfl⟩
  | case2 e other ih =>
    rw [find?_other other, List.findSome?_eq_some_iff] at h
    obtain ⟨front, c, back, split, found, missed⟩ := h
    have child : c ∈ e.children := by simp [split]
    obtain ⟨path, first, there⟩ := ih ⟨c, child⟩ found
    refine ⟨front.length :: path, first.below other split fun z hz => ?_, ?_⟩
    · exact numberAt?_ne_of_find?_eq_none (missed z hz)
    · simp [at?, split, there]

theorem find?_eq_none_iff : e.find? k = none ↔ ∀ path, e.numberAt? path ≠ some k := by
  refine ⟨numberAt?_ne_of_find?_eq_none, fun absent => ?_⟩
  cases found : e.find? k with
  | none => rfl
  | some x =>
    obtain ⟨path, first, -⟩ := exists_comesFirst found
    exact absurd first.there (absent path)

theorem find?_eq_some_iff :
    e.find? k = some x ↔ ∃ path, ComesFirst k e path ∧ e.at? path = some x := by
  refine ⟨exists_comesFirst, fun ⟨path, first, there⟩ => ?_⟩
  cases found : e.find? k with
  | none => exact absurd first.there (find?_eq_none_iff.1 found path)
  | some y =>
    obtain ⟨path', first', there'⟩ := exists_comesFirst found
    rw [← there', ← there, first'.unique first]

/-! ## All searches agree -/

theorem seek?_eq_find? (k : Nat) (e : RemoteEndpoint) : e.seek? k = e.find? k := by
  induction e using seek?.induct k with
  | case1 e own => rw [seek?_own own, find?_own own]
  | case2 e other ih =>
    rw [seek?, if_neg other, find?_other other,
      List.findSome?_subtype fun c hc => ih ⟨c, hc⟩, List.unattach_attach]

/-- **The first endpoint of a number.**  However an endpoint is looked for, the one at the first
    position of the number is found, and none if no position has the number. -/
theorem sought_first (e : RemoteEndpoint) (k : Nat) :
    e.seek? k = e.find? k ∧ e.lookup? k = e.find? k ∧
      (∀ x, e.find? k = some x ↔ ∃ path, ComesFirst k e path ∧ e.at? path = some x) ∧
      (e.find? k = none ↔ ∀ path, e.numberAt? path ≠ some k) :=
  ⟨seek?_eq_find? k e, (find?_eq_find_all k e).symm, fun _ => find?_eq_some_iff,
    find?_eq_none_iff⟩

/-- A lamp in a loft, below a hatch that has no cluster. -/
def loft : RemoteEndpoint :=
  .mk 0 []
    [.mk 1 [] [.mk 2 [⟨6, "onOff", [("onOff", some (.bool true))], []⟩] []],
      .mk 2 [⟨0x101, "doorLock", [("lockState", none)], []⟩] []]

/-- The lamp and the door next to the hatch have one number; the lamp lies deeper, but to the
    left. -/
theorem sought_first_loft :
    loft.seek? 2 = loft.at? [0, 0] ∧ loft.lookup? 2 = loft.at? [0, 0] ∧ loft.seek? 3 = none ∧
      ∀ path, loft.numberAt? path ≠ some 3 := by
  obtain ⟨sought, looked, -, -⟩ := sought_first loft 2
  obtain ⟨missed, -, -, absent⟩ := sought_first loft 3
  exact ⟨sought, looked, missed, absent.1 rfl⟩

end HomeGateway.Engine.RemoteEndpoint
