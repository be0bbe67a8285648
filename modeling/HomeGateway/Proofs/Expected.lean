/-
  How many echoes are expected.

  Locks are told apart by attribute and value only, so what matters is how many
  of them expect a value of an attribute, and for how long.  `outliving` counts
  those that are alive at a time.

  * `Json.same_congr`: equal values are equal to the same values;
  * `outliving_lock`, `outliving_consume_now`, `outliving_consume_of_ne`: what making
    and using up a lock does to the count;
  * `outliving_consume_later`: a notice uses up the lock that would die first, so
    those that are left live as long as any choice of them would.
-/
import HomeGateway.Proofs.Echo

namespace HomeGateway

/-! ## Equal values -/

theorem Double.same_congr {a b : Double} (h : a.same b = true) (c : Double) :
    a.same c = b.same c := by
  simp only [Double.same, Bool.or_eq_true, decide_eq_true_eq, Bool.and_eq_true] at h
  rcases h with rfl | ⟨ha, hb⟩
  · rfl
  · rw [Bool.eq_iff_iff]
    simp only [Double.same, ha, hb, Bool.true_and, Bool.or_eq_true, decide_eq_true_eq]
    constructor
    · rintro (rfl | hc)
      · exact .inr ha
      · exact .inr hc
    · rintro (rfl | hc)
      · exact .inr hb
      · exact .inr hc

mutual

theorem Json.same_congr : ∀ {a b : Json}, a.same b = true → ∀ c, a.same c = b.same c
  | .null, .null, _, _ => rfl
  | .bool _, .bool _, h, _ | .int _, .int _, h, _ | .str _, .str _, h, _ => by
    simp only [Json.same, decide_eq_true_eq] at h
    rw [h]
  | .float x, .float y, h, c => by
    rw [Json.same] at h
    cases c <;> simp only [Json.same]
    exact Double.same_congr h _
  | .arr xs, .arr ys, h, c => by
    rw [Json.same] at h
    cases c <;> simp only [Json.same]
    exact Json.sameItems_congr h _
  | .obj xs, .obj ys, h, c => by
    rw [Json.same] at h
    cases c <;> simp only [Json.same]
    exact Json.sameFields_congr h _

theorem Json.sameItems_congr : ∀ {xs ys : List Json}, Json.sameItems xs ys = true →
    ∀ zs, Json.sameItems xs zs = Json.sameItems ys zs
  | [], [], _, _ => rfl
  | x :: xs, y :: ys, h, zs => by
    rw [Json.sameItems, Bool.and_eq_true] at h
    cases zs with
    | nil => rfl
    | cons z zs =>
      rw [Json.sameItems, Json.sameItems, Json.same_congr h.1, Json.sameItems_congr h.2]

theorem Json.sameFields_congr : ∀ {xs ys : List (String × Json)}, Json.sameFields xs ys = true →
    ∀ zs, Json.sameFields xs zs = Json.sameFields ys zs
  | [], [], _, _ => rfl
  | (k, x) :: xs, (l, y) :: ys, h, zs => by
    simp only [Json.sameFields, Bool.and_eq_true, decide_eq_true_eq] at h
    obtain ⟨⟨rfl, hv⟩, hrest⟩ := h
    match zs with
    | [] => rfl
    | (m, z) :: zs =>
      rw [Json.sameFields, Json.sameFields, Json.same_congr hv, Json.sameFields_congr hrest]

end

theorem Json.same_comm (a b : Json) : a.same b = b.same a := by
  rw [Bool.eq_iff_iff]
  exact ⟨fun h => (Json.same_congr h a).symm.trans (Json.same_self a),
    fun h => (Json.same_congr h b).symm.trans (Json.same_self b)⟩

namespace Bridge

/-! ## Locks by attribute and value -/

section

variable {α : Type} {p q : α → Bool} {xs : List α}

theorem filter_eraseP_of_forall (h : ∀ x, q x = true → p x = false) :
    (xs.eraseP q).filter p = xs.filter p := by
  induction xs with
  | nil => rfl
  | cons x xs ih =>
    by_cases hx : q x = true
    · simp [hx, h x hx]
    · simp [hx, List.filter_cons, ih]

theorem countP_eraseP_of_forall (h : ∀ x, q x = true → p x = false) :
    (xs.eraseP q).countP p = xs.countP p := by
  rw [List.countP_eq_length_filter, List.countP_eq_length_filter, filter_eraseP_of_forall h]

theorem countP_eraseP_of_eq (h : ∀ x ∈ xs, p x = q x) :
    (xs.eraseP q).countP p = xs.countP p - 1 := by
  induction xs with
  | nil => rfl
  | cons x xs ih =>
    obtain ⟨first, rest⟩ := List.forall_mem_cons.1 h
    by_cases hx : q x = true
    · simp [hx, first]
    · simp [hx, first, ih rest]

end

theorem Lock.expects_congr {key : String} {value : Json} {l : Lock}
    (h : l.expects key value = true) (k : String) (v : Json) :
    l.expects k v = (decide (key = k) && value.same v) := by
  simp only [Lock.expects, Bool.and_eq_true, decide_eq_true_eq] at h ⊢
  rw [h.1, Json.same_congr h.2]

theorem Lock.expects_same {value v : Json} (h : value.same v = true) (key : String) (l : Lock) :
    l.expects key value = l.expects key v := by
  simp only [Lock.expects]
  rw [Json.same_comm, Json.same_congr h, Json.same_comm]

namespace UpdateLocks

/-- How many locks expect a value of an attribute and are alive at a time. -/
def outliving (t : Nat) (key : String) (value : Json) (u : UpdateLocks) : Nat :=
  u.locks.countP fun l => l.live t && l.expects key value

variable {now t : Nat} {key k : String} {value v : Json} {u : UpdateLocks}

theorem isLocked_eq_false (h : ∀ v, u.outliving now key v = 0) : u.isLocked now key = false := by
  rw [isLocked, List.any_eq_false]
  intro l hl hlock
  have counted := List.countP_eq_zero.1 (h l.value) l hl
  simp only [Bool.and_eq_true, decide_eq_true_eq] at hlock
  exact counted (by simp [Lock.expects, hlock.1, hlock.2, Json.same_self])

theorem consume_fst (now : Nat) (key : String) (value : Json) (u : UpdateLocks) :
    (u.consume now key value).1 = decide (0 < u.outliving now key value) := by
  rw [consume_eq_find, Bool.eq_iff_iff, decide_eq_true_eq, List.find?_isSome, outliving,
    List.countP_pos_iff]

theorem outliving_mono {t' : Nat} (h : t ≤ t') :
    u.outliving t' key value ≤ u.outliving t key value := by
  refine List.countP_mono_left fun l _ hl => ?_
  simp only [Lock.live, Bool.and_eq_true, decide_eq_true_eq] at hl ⊢
  exact ⟨by omega, hl.2⟩

/-- Only dead locks are forgotten. -/
theorem countP_purge (h : now ≤ t) :
    (u.purge now).locks.countP (fun l => l.live t && l.expects key value) =
      u.outliving t key value := by
  rw [purge, List.countP_filter, outliving]
  refine List.countP_congr fun l _ => ?_
  simp only [Lock.live, Bool.and_eq_true, decide_eq_true_eq]
  constructor
  · exact fun hl => hl.1
  · exact fun hl => ⟨hl, by omega⟩

/-- What is left after a notice, as a row of locks that are alive. -/
theorem outliving_consume (now t : Nat) (key k : String) (value v : Json) (u : UpdateLocks) :
    (u.consume now key value).2.outliving t k v =
      ((u.purge now).locks.eraseP (·.expects key value)).countP
        fun l => l.live t && l.expects k v := rfl

theorem outliving_lock (h : now ≤ t) :
    (u.lock now key value).outliving t k v = u.outliving t k v +
      if (decide (t < now + u.window) && (decide (key = k) && value.same v)) then 1 else 0 := by
  rw [outliving, lock, List.countP_append, countP_purge h, List.countP_singleton]
  rfl

theorem outliving_consume_of_ne (h : now ≤ t) (apart : (decide (key = k) && value.same v) = false) :
    (u.consume now key value).2.outliving t k v = u.outliving t k v := by
  rw [outliving_consume, ← countP_purge h]
  refine countP_eraseP_of_forall fun l used => ?_
  rw [Lock.expects_congr used, apart, Bool.and_false]

/-- A notice uses up one lock, if there is one. -/
theorem outliving_consume_now (hv : value.same v = true) :
    (u.consume now key value).2.outliving now key v = u.outliving now key v - 1 := by
  rw [outliving_consume, ← countP_purge (Nat.le_refl now)]
  refine countP_eraseP_of_eq fun l hl => ?_
  have live : l.live now = true := (List.mem_filter.1 hl).2
  rw [live, Bool.true_and, Lock.expects_same hv]

/-! ## Locks in order -/

/-- The locks die in the order in which they were made, and none was made later than now. -/
structure InOrder (now : Nat) (u : UpdateLocks) : Prop where
  sorted : u.locks.Pairwise fun l l' => l.expires ≤ l'.expires
  past : ∀ l ∈ u.locks, l.expires ≤ now + u.window

theorem inOrder_empty (now window : Nat) : InOrder now (.empty window) :=
  ⟨.nil, fun _ hl => nomatch hl⟩

theorem InOrder.later (h : u.InOrder now) (ht : now ≤ t) : u.InOrder t :=
  ⟨h.sorted, fun l hl => Nat.le_trans (h.past l hl) (by omega)⟩

theorem InOrder.lock (h : u.InOrder now) (key : String) (value : Json) :
    (u.lock now key value).InOrder now := by
  constructor
  · refine List.pairwise_append.2 ⟨h.sorted.filter _, List.pairwise_singleton .., ?_⟩
    intro l hl l' hl'
    rw [List.mem_singleton.1 hl']
    exact h.past l (List.mem_of_mem_filter hl)
  · intro l hl
    rcases List.mem_append.1 hl with old | new
    · exact h.past l (List.mem_of_mem_filter old)
    · rw [List.mem_singleton.1 new]
      exact Nat.le_refl _

theorem InOrder.consume (h : u.InOrder now) (key : String) (value : Json) :
    (u.consume now key value).2.InOrder now := by
  have fewer : (u.consume now key value).2.locks.Sublist u.locks :=
    List.eraseP_sublist.trans List.filter_sublist
  exact ⟨h.sorted.sublist fewer, fun l hl => h.past l (fewer.subset hl)⟩

/-- Of the locks that could be used up, the one that dies first is. -/
theorem outliving_consume_later (sorted : u.locks.Pairwise fun l l' => l.expires ≤ l'.expires)
    (h : now ≤ t) (hv : value.same v = true) :
    min (u.outliving t key v) (u.outliving now key v - 1) ≤
      (u.consume now key value).2.outliving t key v := by
  rw [outliving_consume, ← countP_purge h, ← countP_purge (Nat.le_refl now)]
  have alive : ∀ l ∈ (u.purge now).locks, l.live now = true := fun l hl => (List.mem_filter.1 hl).2
  replace sorted : (u.purge now).locks.Pairwise fun l l' => l.expires ≤ l'.expires :=
    sorted.filter _
  generalize (u.purge now).locks = locks at alive sorted
  induction locks with
  | nil => exact Nat.min_le_left _ _
  | cons l rest ih =>
    obtain ⟨live, others⟩ := List.forall_mem_cons.1 alive
    obtain ⟨first, later⟩ := List.pairwise_cons.1 sorted
    by_cases used : l.expects key value = true
    · rw [List.eraseP_cons_of_pos used]
      by_cases survives : l.live t = true
      · -- whatever else is alive now survives as well
        have all : rest.countP (fun l => l.live now && l.expects key v) ≤
            rest.countP fun l => l.live t && l.expects key v := by
          refine List.countP_mono_left fun l' hl' hx => ?_
          have := first l' hl'
          simp only [Lock.live, Bool.and_eq_true, decide_eq_true_eq] at survives hx ⊢
          exact ⟨by omega, hx.2⟩
        refine Nat.le_trans (Nat.min_le_right _ _) (Nat.le_trans ?_ all)
        rw [List.countP_cons]
        split <;> omega
      · rw [List.countP_cons_of_neg (by simp [survives])]
        exact Nat.min_le_left _ _
    · have unused : ¬ l.expects key v = true := by rwa [← Lock.expects_same hv]
      rw [List.eraseP_cons_of_neg used, List.countP_cons_of_neg (by simp [unused]),
        List.countP_cons_of_neg (by simp [unused]), List.countP_cons_of_neg (by simp [unused])]
      exact ih others later

end UpdateLocks

end Bridge

end HomeGateway
