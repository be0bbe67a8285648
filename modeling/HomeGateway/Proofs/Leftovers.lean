/-
  Locks that are left when no write is under way.

  A lock is made for a value that the attribute does not hold, and is gone once
  it does, however it came to.  So there are never more locks for a value than
  writes under way that still have to bring it about, as long as no two of them
  bring about the same.

  * `Accounted`: every lock belongs to a write that is not brought about yet;
  * `accounted_happen`, `unlocked_run`: then no lock is left in the end;
  * `swallowed_doubled`: two equal writes leave a lock, which hides a change.
-/
import HomeGateway.Proofs.InFlight

namespace HomeGateway.Bridge

open HomeGateway Device Engine

/-! ## Values that are brought about -/

namespace VirtualEndpoint

variable {now : Nat} {cluster attr : String} {value : Json} {v : VirtualEndpoint}

theorem endpoint_written (now : Nat) (cluster attr : String) (value : Json) (v : VirtualEndpoint) :
    (v.written now cluster attr value).endpoint = (v.endpoint.write cluster attr value).1 := rfl

theorem holds_written_self (h : v.endpoint.changes cluster attr value = true) (x : Json) :
    (v.written now cluster attr value).endpoint.holds cluster attr x = value.same x := by
  simp only [Endpoint.changes, Bool.and_eq_true, Bool.not_eq_true'] at h
  obtain ⟨attrs, hc⟩ := Endpoint.hasCluster_iff.1 h.1
  rw [endpoint_written, Endpoint.holds, Endpoint.get?_write hc h.2]

theorem holds_written_of_ne {other target : String} (h : other = cluster → target ≠ attr)
    (x : Json) : (v.written now cluster attr value).endpoint.holds other target x =
      v.endpoint.holds other target x := by
  rw [endpoint_written, Endpoint.holds, Endpoint.holds, Endpoint.get?_write_of_ne value h]

theorem holds_written_there (h : v.endpoint.hasCluster cluster = true) :
    (v.written now cluster attr value).endpoint.holds cluster attr value = true := by
  rw [endpoint_written, Endpoint.holds_write_self, h]

end VirtualEndpoint

/-! ## Counting -/

section

variable {α : Type} {p q r : α → Bool} {xs : List α}

theorem countP_le_add (h : ∀ x ∈ xs, p x = true → q x = true ∨ r x = true) :
    xs.countP p ≤ xs.countP q + xs.countP r := by
  induction xs with
  | nil => exact Nat.le_refl _
  | cons x xs ih =>
    obtain ⟨first, rest⟩ := List.forall_mem_cons.1 h
    have sum := ih rest
    have moreq : xs.countP q ≤ (x :: xs).countP q := (List.sublist_cons_self x xs).countP_le
    have morer : xs.countP r ≤ (x :: xs).countP r := (List.sublist_cons_self x xs).countP_le
    by_cases hp : p x = true
    · rw [List.countP_cons_of_pos hp]
      rcases first hp with hq | hr
      · rw [List.countP_cons_of_pos hq] at moreq ⊢
        omega
      · rw [List.countP_cons_of_pos hr] at morer ⊢
        omega
    · rw [List.countP_cons_of_neg hp]
      omega

theorem countP_le_one (h : xs.Pairwise fun x y => ¬ (p x = true ∧ p y = true)) :
    xs.countP p ≤ 1 := by
  induction xs with
  | nil => exact Nat.zero_le _
  | cons x xs ih =>
    obtain ⟨first, rest⟩ := List.pairwise_cons.1 h
    by_cases hx : p x = true
    · have none : xs.countP p = 0 := List.countP_eq_zero.2 fun y hy hpy => first y hy ⟨hx, hpy⟩
      exact Nat.le_of_eq (by rw [List.countP_cons_of_pos hx, none])
    · rw [List.countP_cons_of_neg hx]
      exact ih rest

end

/-! ## Writes that are still to be brought about -/

namespace Call

/-- Whether a write of a value to an attribute is locked. -/
def doubles (cluster attr : String) (value : Json) (c : Call) : Bool :=
  c.locked && decide (c.cluster = cluster) && decide (c.attr = attr) && c.value.same value

/-- Whether a locked write of a value is still to be brought about. -/
def awaits (key : String) (value : Json) (v : VirtualEndpoint) (c : Call) : Bool :=
  c.locked && (decide (lockKey c.cluster c.attr = key) && c.value.same value) &&
    !v.endpoint.holds c.cluster c.attr c.value

end Call

namespace Busy

/-- Whether a write that begins is not locked while an equal one is under way. -/
def single (key : String) (b : Busy) : Happening → Bool
  | .begun cluster attr value =>
    lockKey cluster attr ≠ key || b.endpoint.endpoint.holds cluster attr value ||
      !b.calls.any (·.doubles cluster attr value)
  | _ => true

/-- No two locked writes to an attribute of this name bring about the same. -/
def Apart (key : String) (calls : List Call) : Prop :=
  calls.Pairwise fun c c' =>
    lockKey c'.cluster c'.attr = key → c'.locked = true →
      c.doubles c'.cluster c'.attr c'.value = false

/-- Every lock belongs to a write that is still to be brought about. -/
def Owed (key : String) (now : Nat) (calls : List Call) (v : VirtualEndpoint) : Prop :=
  ∀ value, v.follower.locks.outliving now key value ≤ calls.countP (·.awaits key value v)

/-- The locks of an attribute and the writes under way agree. -/
structure Accounted (key : String) (b : Busy) : Prop where
  apart : Apart key b.calls
  owed : Owed key b.now b.calls b.endpoint

variable {key : String} {now : Nat} {calls : List Call} {v : VirtualEndpoint} {b : Busy}

/-- Of writes that are apart, one at most brings about a value of an attribute. -/
theorem Apart.countP_doubles (h : Apart key calls) {cluster attr : String}
    (hkey : lockKey cluster attr = key) (value : Json) :
    calls.countP (·.doubles cluster attr value) ≤ 1 := by
  refine countP_le_one (h.imp fun apart both => ?_)
  simp only [Call.doubles, Bool.and_eq_true, decide_eq_true_eq] at both
  obtain ⟨⟨⟨⟨l, rfl⟩, rfl⟩, hv⟩, ⟨⟨l', hcluster⟩, hattr⟩, hv'⟩ := both
  have twice := apart (by rw [hcluster, hattr]; exact hkey) l'
  simp only [Call.doubles, l, hcluster, hattr, decide_true, Bool.true_and] at twice
  rw [Json.same_congr hv, Json.same_comm, hv'] at twice
  cases twice

/-- A write uses up as many locks as it brings about what was still to be. -/
theorem Owed.written (apart : Apart key calls) (h : Owed key now calls v) (cluster attr : String)
    (x : Json) : Owed key now calls (v.written now cluster attr x) := by
  intro value
  cases changed : v.endpoint.changes cluster attr x with
  | false =>
    rw [VirtualEndpoint.written_of_held changed]
    exact h value
  | true =>
    have locks : (v.written now cluster attr x).follower.locks =
        (v.follower.locks.consume now (lockKey cluster attr) x).2 := by
      rw [VirtualEndpoint.written_of_changes changed]
    rw [locks]
    cases same : decide (lockKey cluster attr = key) && x.same value with
    | false =>
      rw [UpdateLocks.outliving_consume_of_ne (Nat.le_refl _) same]
      -- a write that waits for this value waits on: the attribute holds another one now
      refine Nat.le_trans (h value) (List.countP_mono_left fun c _ hc => ?_)
      simp only [Call.awaits, Bool.and_eq_true, Bool.not_eq_true', decide_eq_true_eq] at hc ⊢
      refine ⟨hc.1, ?_⟩
      by_cases here : c.cluster = cluster ∧ c.attr = attr
      · obtain ⟨⟨-, hkey, hv⟩, -⟩ := hc
        obtain ⟨rfl, rfl⟩ := here
        rw [VirtualEndpoint.holds_written_self changed]
        cases hx : x.same c.value with
        | false => rfl
        | true =>
          rw [Json.same_congr hx, hv, hkey] at same
          simp at same
      · rw [VirtualEndpoint.holds_written_of_ne fun hcl hat => here ⟨hcl, hat⟩]
        exact hc.2
    | true =>
      simp only [Bool.and_eq_true, decide_eq_true_eq] at same
      obtain ⟨rfl, hx⟩ := same
      rw [UpdateLocks.outliving_consume_now hx]
      have one := apart.countP_doubles rfl value
      -- what no longer waits is the write of this value to this attribute
      have split : calls.countP (·.awaits (lockKey cluster attr) value v) ≤
          calls.countP (·.awaits (lockKey cluster attr) value (v.written now cluster attr x)) +
            calls.countP (·.doubles cluster attr value) := by
        refine countP_le_add fun c _ hc => ?_
        simp only [Call.awaits, Call.doubles, Bool.and_eq_true, Bool.not_eq_true',
          decide_eq_true_eq] at hc ⊢
        by_cases here : c.cluster = cluster ∧ c.attr = attr
        · exact .inr ⟨⟨⟨hc.1.1, here.1⟩, here.2⟩, hc.1.2.2⟩
        · refine .inl ⟨hc.1, ?_⟩
          rw [VirtualEndpoint.holds_written_of_ne fun hcl hat => here ⟨hcl, hat⟩]
          exact hc.2
      have := h value
      omega

/-- A write whose cluster is missing gives its lock back. -/
theorem Owed.unlock (h : Owed key now calls v) {i : Nat} {c : Call} (hc : calls[i]? = some c)
    (locked : c.locked = true) (missing : v.endpoint.hasCluster c.cluster = false) :
    Owed key now (calls.eraseIdx i) (v.unlock now c.cluster c.attr c.value) := by
  intro value
  have rest := countP_eraseIdx hc (·.awaits key value v)
  have awaits : c.awaits key value v =
      (decide (lockKey c.cluster c.attr = key) && c.value.same value) := by
    simp [Call.awaits, locked, Endpoint.not_holds_of_missing missing]
  rw [awaits] at rest
  have owed := h value
  show (v.follower.locks.consume now (lockKey c.cluster c.attr) c.value).2.outliving now key value ≤
    (calls.eraseIdx i).countP (·.awaits key value v)
  cases same : decide (lockKey c.cluster c.attr = key) && c.value.same value with
  | false =>
    rw [UpdateLocks.outliving_consume_of_ne (Nat.le_refl _) same]
    simp only [same, Bool.false_eq_true, if_false] at rest
    omega
  | true =>
    simp only [same, if_true] at rest
    simp only [Bool.and_eq_true, decide_eq_true_eq] at same
    obtain ⟨rfl, hv⟩ := same
    rw [UpdateLocks.outliving_consume_now hv]
    omega

/-- A write that waits for nothing can go. -/
theorem Owed.erase (h : Owed key now calls v) {i : Nat} {c : Call} (hc : calls[i]? = some c)
    (done : ∀ value, c.awaits key value v = false) : Owed key now (calls.eraseIdx i) v := by
  intro value
  have rest := countP_eraseIdx hc (·.awaits key value v)
  simp only [done, Bool.false_eq_true, if_false] at rest
  rw [Nat.add_zero] at rest
  rw [rest]
  exact h value

theorem Accounted.begun (h : Accounted key b) {cluster attr : String} {value : Json}
    (hsingle : single key b (.begun cluster attr value) = true) :
    Accounted key (b.happen (.begun cluster attr value)).1 := by
  simp only [happen, VirtualEndpoint.startWrite_eq]
  split
  · refine ⟨List.pairwise_append.2 ⟨h.apart, List.pairwise_singleton .., ?_⟩, fun x => ?_⟩
    · intro c _ c' hc' _ locked
      rw [List.mem_singleton.1 hc'] at locked
      cases locked
    · exact Nat.le_trans (h.owed x) (List.sublist_append_left _ _).countP_le
  · rename_i fresh
    refine ⟨List.pairwise_append.2 ⟨h.apart, List.pairwise_singleton .., ?_⟩, fun x => ?_⟩
    · intro c hc c' hc' hkey _
      rw [List.mem_singleton.1 hc'] at hkey ⊢
      simp only [single, hkey, fresh, ne_eq, not_true, decide_false, Bool.false_or,
        Bool.not_eq_true', List.any_eq_false] at hsingle
      simpa using hsingle c hc
    · have more :
          (b.endpoint.expecting b.now cluster attr value).follower.locks.outliving b.now key x = _ :=
        UpdateLocks.outliving_lock (Nat.le_refl _)
      rw [more, List.countP_append, List.countP_singleton]
      refine Nat.add_le_add (h.owed x) ?_
      have awaits : Call.awaits key x (b.endpoint.expecting b.now cluster attr value)
          ⟨cluster, attr, value, true, b.now⟩ =
            (decide (lockKey cluster attr = key) && value.same x) := by
        have fresh : b.endpoint.endpoint.holds cluster attr value = false := by simpa using fresh
        simp [Call.awaits, VirtualEndpoint.expecting, fresh]
      rw [awaits]
      split <;> rename_i counted <;> simp_all

theorem Accounted.finished (h : Accounted key b) (i : Nat) :
    Accounted key (b.happen (.finished i)).1 := by
  simp only [happen]
  cases through : b.through? (.finished i) with
  | none => exact h
  | some c =>
    have hc := getElem?_of_through? through
    refine ⟨h.apart.sublist (List.eraseIdx_sublist _ _), ?_⟩
    cases there : b.endpoint.endpoint.hasCluster c.cluster with
    | false =>
      simp only [VirtualEndpoint.finishWrite_missing there]
      cases locked : c.locked with
      | false => exact h.owed.erase hc fun value => by simp [Call.awaits, locked]
      | true => exact h.owed.unlock hc locked there
    | true =>
      simp only [VirtualEndpoint.finishWrite_there there]
      refine (h.owed.written h.apart c.cluster c.attr c.value).erase hc fun value => ?_
      simp [Call.awaits, VirtualEndpoint.holds_written_there there]

theorem accounted_happen (h : Accounted key b) {x : Happening} (hsingle : single key b x = true) :
    Accounted key (b.happen x).1 := by
  cases x with
  | begun cluster attr value => exact h.begun hsingle
  | finished i => exact h.finished i
  | written cluster attr value =>
    simp only [happen]
    split
    · exact h
    · refine ⟨h.apart, ?_⟩
      simp only [VirtualEndpoint.writeByOther]
      cases there : b.endpoint.endpoint.hasCluster cluster with
      | false =>
        rw [VirtualEndpoint.finishWrite_missing there]
        exact h.owed
      | true =>
        rw [VirtualEndpoint.finishWrite_there there]
        exact h.owed.written h.apart cluster attr value
  | commanded cluster command args =>
    exact ⟨h.apart, VirtualEndpoint.kept_command
      (fun v cluster attr value (hv : Owed key b.now b.calls v) =>
        hv.written h.apart cluster attr value) h.owed cluster command args⟩
  | held | released => exact ⟨h.apart, h.owed⟩
  | passed ms =>
    exact ⟨h.apart, fun value =>
      Nat.le_trans (UpdateLocks.outliving_mono (Nat.le_add_right _ _)) (h.owed value)⟩

theorem accounted_run (h : Accounted key b) {hs : List Happening}
    (hsingle : always (single key) b hs = true) : Accounted key (b.run hs).1 := by
  induction hs generalizing b with
  | nil => exact h
  | cons x hs ih =>
    simp only [always, Bool.and_eq_true] at hsingle
    exact ih (accounted_happen h hsingle.1) hsingle.2

/-- **No lock is left.**  Whatever happens to an endpoint, if no write to an
    attribute is locked while an equal one is under way, then once none is under
    way the attribute is not locked, and the next write by someone else is told if
    it changes the attribute and the attribute is observed. -/
theorem unlocked_run (now window sink : Nat) (d : Definition) (hs : List Happening)
    (cluster attr : String)
    (apart : always (single (lockKey cluster attr)) (opened now window sink d) hs = true)
    (idle : ((opened now window sink d).run hs).1.calls = []) :
    ((opened now window sink d).run hs).1.endpoint.isLocked
        ((opened now window sink d).run hs).1.now cluster attr = false ∧
      ∀ value, (((opened now window sink d).run hs).1.endpoint.writeByOther
          ((opened now window sink d).run hs).1.now cluster attr value).2.events =
        if ((opened now window sink d).run hs).1.endpoint.endpoint.changes cluster attr value &&
            d.type.observes cluster attr then
          [⟨d.id, cluster, attr, value⟩]
        else [] := by
  have fresh : Accounted (lockKey cluster attr) (opened now window sink d) :=
    ⟨.nil, fun _ => Nat.le_refl _⟩
  have owed := (accounted_run fresh apart).owed
  have stems := stems_run now window sink d hs
  generalize ((opened now window sink d).run hs).1 = b at idle owed stems ⊢
  rw [idle] at owed
  have none : ∀ value, b.endpoint.follower.locks.outliving b.now (lockKey cluster attr) value = 0 :=
    fun value => Nat.le_zero.1 (owed value)
  refine ⟨UpdateLocks.isLocked_eq_false none, fun value => ?_⟩
  rw [VirtualEndpoint.writeByOther]
  cases there : b.endpoint.endpoint.hasCluster cluster with
  | false =>
    rw [VirtualEndpoint.finishWrite_missing there]
    simp [Endpoint.changes, there]
  | true =>
    rw [VirtualEndpoint.finishWrite_there there]
    simp [VirtualEndpoint.hides, none, stems.type, Follower.event, stems.id]

/-- Two writes of a held-up door; someone else brings about the first, and the
    caller begins the second again. -/
def crossed : List Happening :=
  [ .held, .begun "doorLock" "lockState" (.int 1), .begun "doorLock" "lockState" (.int 2),
    .passed 20, .released, .written "doorLock" "lockState" (.int 1), .finished 1,
    .begun "onOff" "onOff" (.bool true), .finished 0,
    .begun "doorLock" "lockState" (.int 2), .finished 1, .finished 0 ]

theorem unlocked_run_crossed :
    always (single (lockKey "doorLock" "lockState")) (opened 0 100 0 door) crossed = true ∧
      ((opened 0 100 0 door).run crossed).1.calls = [] ∧
      ((opened 0 100 0 door).run crossed).1.endpoint.isLocked
        ((opened 0 100 0 door).run crossed).1.now "doorLock" "lockState" = false ∧
      (((opened 0 100 0 door).run crossed).1.endpoint.writeByOther
        ((opened 0 100 0 door).run crossed).1.now "doorLock" "lockState"
          (.int 1)).2.events.length = 1 := by
  have apart : always (single (lockKey "doorLock" "lockState")) (opened 0 100 0 door)
      crossed = true := by decide +kernel
  have idle : ((opened 0 100 0 door).run crossed).1.calls = [] :=
    List.isEmpty_iff.1 (by decide +kernel)
  obtain ⟨free, told⟩ := unlocked_run 0 100 0 door crossed "doorLock" "lockState" apart idle
  refine ⟨apart, idle, free, ?_⟩
  rw [told]
  decide +kernel

/-- Two equal writes of a held-up door. -/
def doubled : List Happening :=
  [ .held, .begun "doorLock" "lockState" (.int 1), .begun "doorLock" "lockState" (.int 1),
    .released, .finished 0, .finished 0 ]

/-- The second of them leaves its lock, and someone else's change is not told. -/
theorem swallowed_doubled :
    ((opened 0 100 0 door).run doubled).1.calls.length = 0 ∧
      ((opened 0 100 0 door).run doubled).1.endpoint.isLocked
        ((opened 0 100 0 door).run doubled).1.now "doorLock" "lockState" = true ∧
      ((opened 0 100 0 door).run
        (doubled ++ [.written "doorLock" "lockState" (.int 0)])).2.length = 1 ∧
      ((opened 0 100 0 door).run
        (doubled ++ [.written "doorLock" "lockState" (.int 0)])).1.endpoint.endpoint.changes
          "doorLock" "lockState" (.int 1) = true ∧
      ((opened 0 100 0 door).run (doubled ++ [.written "doorLock" "lockState" (.int 0),
        .written "doorLock" "lockState" (.int 1)])).2.length = 1 := by
  decide +kernel

end Busy

end HomeGateway.Bridge
