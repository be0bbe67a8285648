/-
  What a caller is told of its own writes.

  A write that is locked when it begins has a lock for as long as a lock lives:
  overlapping writes of equal values may use up each other's locks, but each of
  them uses up the one that dies first.  So a prompt write is never echoed,
  unless it changes an attribute that held its value when it began.

  * `Covered`: the writes under way have their locks;
  * `covered_happen`, `silent_run`: no write is echoed whose change was foreseen;
  * `echoed_overtaken`: one that was not foreseen is.
-/
import HomeGateway.Proofs.InFlight

namespace HomeGateway.Bridge

open HomeGateway Device Engine

/-- The name under which a write is locked. -/
def Call.key (c : Call) : String :=
  lockKey c.cluster c.attr

/-- Whether the lock of a write expects a value of an attribute and is alive at a time. -/
def Call.outlives (window t : Nat) (key : String) (value : Json) (c : Call) : Bool :=
  c.locked && decide (t < c.since + window) && (decide (c.key = key) && c.value.same value)

namespace Busy

/-- Whether a write that gets through does so within the life of a lock. -/
def prompt (window : Nat) (b : Busy) (x : Happening) : Bool :=
  match b.through? x with
  | some c => b.now < c.since + window
  | none => true

/-- Whether a write that gets through and changes its attribute was locked for it. -/
def foreseen (b : Busy) (x : Happening) : Bool :=
  match b.through? x with
  | some c => c.locked || !b.endpoint.endpoint.changes c.cluster c.attr c.value
  | none => true

/-- The writes under way have their locks. -/
def Covered (window : Nat) (b : Busy) : Prop :=
  ∀ t, b.now ≤ t → ∀ key value,
    b.calls.countP (·.outlives window t key value) ≤
      b.endpoint.follower.locks.outliving t key value

variable {window : Nat} {d : Definition} {b : Busy}

/-- Fewer writes need no more locks. -/
theorem Covered.fewer (h : Covered window b) (i : Nat) :
    Covered window { b with calls := b.calls.eraseIdx i } := fun t ht key value =>
  Nat.le_trans (List.eraseIdx_sublist _ _).countP_le (h t ht key value)

/-- A prompt write that was locked has a lock. -/
theorem Covered.hides (h : Covered window b) {i : Nat} {c : Call} (hc : b.calls[i]? = some c)
    (locked : c.locked = true) (soon : b.now < c.since + window) :
    b.endpoint.hides b.now c.cluster c.attr c.value = true := by
  have counted : c.outlives window b.now c.key c.value = true := by
    simp [Call.outlives, locked, soon, Json.same_self]
  have some := List.countP_pos_iff.2 ⟨c, List.mem_of_getElem? hc, counted⟩
  exact decide_eq_true (Nat.lt_of_lt_of_le some (h b.now (Nat.le_refl _) c.key c.value))

/-- The lock that a prompt write uses up leaves enough of them for the others. -/
theorem Covered.consume (h : Covered window b) (order : b.endpoint.follower.locks.InOrder b.now)
    {i : Nat} {c : Call} (hc : b.calls[i]? = some c) (locked : c.locked = true)
    (soon : b.now < c.since + window) (t : Nat) (ht : b.now ≤ t) (key : String) (value : Json) :
    (b.calls.eraseIdx i).countP (·.outlives window t key value) ≤
      (b.endpoint.follower.locks.consume b.now c.key c.value).2.outliving t key value := by
  have rest := fun p => countP_eraseIdx hc p
  cases same : decide (c.key = key) && c.value.same value with
  | false =>
    rw [UpdateLocks.outliving_consume_of_ne ht same]
    exact h.fewer i t ht key value
  | true =>
    simp only [Bool.and_eq_true, decide_eq_true_eq] at same
    obtain ⟨rfl, hv⟩ := same
    have fewer : (b.calls.eraseIdx i).countP (·.outlives window t c.key value) ≤
        b.endpoint.follower.locks.outliving t c.key value := h.fewer i t ht c.key value
    have left : min (b.endpoint.follower.locks.outliving t c.key value)
        (b.endpoint.follower.locks.outliving b.now c.key value - 1) ≤
          (b.endpoint.follower.locks.consume b.now c.key c.value).2.outliving t c.key value :=
      UpdateLocks.outliving_consume_later order.sorted ht hv
    -- the write itself had a lock now, so the others have one less
    have counted : c.outlives window b.now c.key value = true := by
      simp [Call.outlives, locked, soon, hv]
    have now := rest (·.outlives window b.now c.key value)
    have later : (b.calls.eraseIdx i).countP (·.outlives window t c.key value) ≤
        (b.calls.eraseIdx i).countP (·.outlives window b.now c.key value) := by
      refine List.countP_mono_left fun c' _ hx => ?_
      simp only [Call.outlives, Bool.and_eq_true, decide_eq_true_eq] at hx ⊢
      exact ⟨⟨hx.1.1, by omega⟩, hx.2⟩
    have covered := h b.now (Nat.le_refl _) c.key value
    simp only [counted, if_true] at now
    omega

theorem Covered.begun (h : Covered window b)
    (hw : b.endpoint.follower.locks.window = window) (cluster attr : String) (value : Json) :
    Covered window (b.happen (.begun cluster attr value)).1 := by
  intro t ht k v
  simp only [happen, VirtualEndpoint.startWrite_eq]
  split
  · rw [List.countP_append, List.countP_singleton]
    simpa [Call.outlives] using h t ht k v
  · have more :
        (b.endpoint.expecting b.now cluster attr value).follower.locks.outliving t k v = _ :=
      UpdateLocks.outliving_lock ht
    rw [hw] at more
    rw [more, List.countP_append, List.countP_singleton]
    exact Nat.add_le_add_right (h t ht k v) _

/-- A write whose change was foreseen is not told, and leaves the others their locks. -/
theorem Covered.finished (h : Covered window b) (stems : Stems window d b.now b.endpoint) {i : Nat}
    (soon : prompt window b (.finished i) = true) (sure : foreseen b (.finished i) = true) :
    Covered window (b.happen (.finished i)).1 ∧ (b.happen (.finished i)).2 = [] := by
  simp only [prompt, foreseen, happen] at soon sure ⊢
  cases through : b.through? (.finished i) with
  | none => exact ⟨h, rfl⟩
  | some c =>
    simp only [through, decide_eq_true_eq, Bool.or_eq_true, Bool.not_eq_true'] at soon sure ⊢
    have hc := getElem?_of_through? through
    have consumed := h.consume stems.order hc
    cases there : b.endpoint.endpoint.hasCluster c.cluster with
    | false =>
      rw [VirtualEndpoint.finishWrite_missing there]
      refine ⟨?_, rfl⟩
      cases locked : c.locked with
      | false => exact h.fewer i
      | true => exact consumed locked soon
    | true =>
      rw [VirtualEndpoint.finishWrite_there there]
      cases changed : b.endpoint.endpoint.changes c.cluster c.attr c.value with
      | false =>
        rw [VirtualEndpoint.written_of_held changed]
        exact ⟨h.fewer i, rfl⟩
      | true =>
        have locked : c.locked = true := by simpa [changed] using sure
        rw [VirtualEndpoint.written_of_changes changed, h.hides hc locked soon]
        exact ⟨consumed locked soon, rfl⟩

theorem covered_happen (h : Covered window b) (stems : Stems window d b.now b.endpoint)
    {x : Happening} (own : x.own = true) (soon : prompt window b x = true)
    (sure : foreseen b x = true) : Covered window (b.happen x).1 ∧ (b.happen x).2 = [] := by
  cases x with
  | begun cluster attr value => exact ⟨h.begun stems.window cluster attr value, rfl⟩
  | finished i => exact h.finished stems soon sure
  | written | commanded => cases own
  | held | released => exact ⟨h, rfl⟩
  | passed ms => exact ⟨fun t ht => h t (Nat.le_trans (Nat.le_add_right _ _) ht), rfl⟩

theorem covered_run (h : Covered window b) (stems : Stems window d b.now b.endpoint)
    {hs : List Happening} (own : ∀ x ∈ hs, x.own = true) (soon : always (prompt window) b hs = true)
    (sure : always foreseen b hs = true) : (b.run hs).2 = [] := by
  induction hs generalizing b with
  | nil => rfl
  | cons x hs ih =>
    obtain ⟨ownx, ownhs⟩ := List.forall_mem_cons.1 own
    simp only [always, Bool.and_eq_true] at soon sure
    obtain ⟨covered, quiet⟩ := covered_happen h stems ownx soon.1 sure.1
    simp only [run, quiet, List.nil_append]
    exact ih covered (keeps_happen (lasting_stems window d) stems x) ownhs soon.2 sure.2

/-- **A caller's own writes are not told.**  Whatever happened to an endpoint
    before: once no write is under way, any number of writes of its caller, begun
    and let through in any order, cause no event, if each gets through within the
    life of a lock and none changes an attribute that held its value when the
    write began. -/
theorem silent_run (now window sink : Nat) (d : Definition) (past hs : List Happening)
    (idle : ((opened now window sink d).run past).1.calls = [])
    (own : ∀ x ∈ hs, x.own = true)
    (soon : always (prompt window) ((opened now window sink d).run past).1 hs = true)
    (sure : always foreseen ((opened now window sink d).run past).1 hs = true) :
    (((opened now window sink d).run past).1.run hs).2 = [] := by
  refine covered_run (fun t _ key value => ?_) (stems_run now window sink d past) own soon sure
  rw [idle]
  exact Nat.zero_le _

/-- Three writes of a held-up door, of which two have one value and one has no cluster. -/
def overlapping : List Happening :=
  [ .held, .begun "doorLock" "lockState" (.int 1), .passed 40,
    .begun "doorLock" "lockState" (.int 1), .begun "onOff" "onOff" (.bool true),
    .released, .finished 1, .passed 30, .finished 1, .finished 0 ]

theorem silent_run_overlapping :
    ((opened 0 100 0 door).run [.written "doorLock" "lockState" (.int 2)]).1.calls = [] ∧
      (((opened 0 100 0 door).run [.written "doorLock" "lockState" (.int 2)]).1.run
        overlapping).2 = [] ∧
      (((opened 0 100 0 door).run [.written "doorLock" "lockState" (.int 2)]).1.run
        overlapping).1.endpoint.endpoint.holds "doorLock" "lockState" (.int 1) = true := by
  have idle : ((opened 0 100 0 door).run [.written "doorLock" "lockState" (.int 2)]).1.calls = [] :=
    List.isEmpty_iff.1 (by decide +kernel)
  refine ⟨idle, silent_run 0 100 0 door _ overlapping idle ?_ ?_ ?_, ?_⟩
  all_goals decide +kernel

/-- The second write begins while the attribute holds its value, and gets through
    after the first has changed it. -/
def overtaken : List Happening :=
  [ .held, .begun "doorLock" "lockState" (.int 1), .begun "doorLock" "lockState" (.int 0),
    .released, .finished 0, .finished 0 ]

/-- Such a write is told to the caller who made it. -/
theorem echoed_overtaken :
    (∀ x ∈ overtaken, x.own = true) ∧ always (prompt 100) (opened 0 100 0 door) overtaken = true ∧
      ((opened 0 100 0 door).run overtaken).1.calls.length = 0 ∧
      ((opened 0 100 0 door).run overtaken).2.map
        (fun e => (e.endpointId, e.clusterName, e.attributeName)) =
          [("door", "doorLock", "lockState")] := by
  decide +kernel

end Busy

end HomeGateway.Bridge
