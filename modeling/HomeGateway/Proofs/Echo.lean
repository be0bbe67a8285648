/-
  What the caller of a virtual endpoint is told.

  An endpoint is calm if its follower expects no echo.  A calm endpoint stays
  calm whatever happens to it at one time: the lock of a caller's write is used
  up by the notice of that very write, or given back, before anything else can
  happen.

  * `write_calm`: the caller's own write is told to nobody;
  * `writeByOther_calm`: a write by someone else is told if it changes an
    observed attribute;
  * `command_calm`: a command of a peer is told hook by hook.
-/
import HomeGateway.Bridge.VirtualEndpoint
import Mathlib.Data.List.Basic

namespace HomeGateway

open Device Engine

/-! ## Equality of values -/

mutual

theorem Json.same_self : ∀ v : Json, v.same v = true
  | .null | .bool _ | .int _ | .str _ => by simp [Json.same]
  | .float d => by simp [Json.same, Double.same]
  | .arr xs => by rw [Json.same]; exact Json.sameItems_self xs
  | .obj fs => by rw [Json.same]; exact Json.sameFields_self fs

theorem Json.sameItems_self : ∀ xs : List Json, Json.sameItems xs xs = true
  | [] => by simp [Json.sameItems]
  | x :: xs => by simp [Json.sameItems, Json.same_self x, Json.sameItems_self xs]

theorem Json.sameFields_self : ∀ fs : List (String × Json), Json.sameFields fs fs = true
  | [] => by simp [Json.sameFields]
  | (_, x) :: fs => by simp [Json.sameFields, Json.same_self x, Json.sameFields_self fs]

end

/-! ## Writes to an endpoint -/

namespace Engine.Endpoint

/-- Whether a cluster can hold attributes. -/
def hasCluster (e : Endpoint) (cluster : String) : Bool :=
  match e.state.get? cluster with
  | some (.obj _) => true
  | _ => false

theorem hasCluster_iff {e : Endpoint} {cluster : String} :
    e.hasCluster cluster = true ↔ ∃ attrs, e.state.get? cluster = some (.obj attrs) := by
  unfold hasCluster
  split
  · rename_i attrs h
    exact ⟨fun _ => ⟨attrs, h⟩, fun _ => rfl⟩
  · rename_i other
    refine ⟨fun h => (by cases h), ?_⟩
    rintro ⟨attrs, h⟩
    exact absurd h (other attrs)

/-- Whether a write would change an attribute. -/
def changes (e : Endpoint) (cluster attr : String) (value : Json) : Bool :=
  e.hasCluster cluster && !e.holds cluster attr value

theorem write_of_hasCluster {e : Endpoint} {cluster : String} {attrs : Fields}
    (h : e.state.get? cluster = some (.obj attrs)) (attr : String) (value : Json) :
    e.write cluster attr value =
      if e.holds cluster attr value then (e, [])
      else ({ e with state := e.state.insert cluster (.obj (Fields.insert attr value attrs)) },
        [.changed cluster attr value]) := by
  unfold write
  rw [h]

theorem write_of_not_hasCluster {e : Endpoint} {cluster : String}
    (h : ¬ e.hasCluster cluster = true) (attr : String) (value : Json) :
    e.write cluster attr value = (e, []) := by
  unfold write
  split
  · rename_i attrs hc
    exact absurd (hasCluster_iff.2 ⟨attrs, hc⟩) h
  · rfl

theorem notices_write (e : Endpoint) (cluster attr : String) (value : Json) :
    (e.write cluster attr value).2 =
      if e.changes cluster attr value then [.changed cluster attr value] else [] := by
  unfold changes
  by_cases hc : e.hasCluster cluster = true
  · obtain ⟨attrs, hattrs⟩ := hasCluster_iff.1 hc
    rw [write_of_hasCluster hattrs, hc]
    cases e.holds cluster attr value <;> rfl
  · rw [write_of_not_hasCluster hc]
    simp [hc]

theorem set_eq (e : Endpoint) (cluster attr : String) (value : Json) :
    e.set cluster attr value =
      if e.hasCluster cluster then .ok (e.write cluster attr value)
      else .error (.clusterNotFound cluster) := by
  rcases hc : e.state.get? cluster with _ | v
  · simp [set, hasCluster, hc]
  · cases v <;> simp [set, hasCluster, hc]

/-- A write leaves the other attributes alone. -/
theorem get?_write_of_ne {e : Endpoint} {cluster attr other target : String} (value : Json)
    (h : other = cluster → target ≠ attr) :
    (e.write cluster attr value).1.get? other target = e.get? other target := by
  simp only [write]
  split
  · rename_i attrs hc
    split
    · rfl
    · simp only [get?, leaf?]
      by_cases ho : other = cluster
      · subst ho
        simp [Fields.get?_insert_self, hc, Json.get?, Fields.get?_insert_of_ne _ _ (h rfl)]
      · rw [Fields.get?_insert_of_ne _ _ ho]
  · rfl

theorem hasCluster_write (e : Endpoint) (cluster attr : String) (value : Json) (other : String) :
    (e.write cluster attr value).1.hasCluster other = e.hasCluster other := by
  by_cases hc : e.hasCluster cluster = true
  · obtain ⟨attrs, there⟩ := hasCluster_iff.1 hc
    rw [write_of_hasCluster there]
    split
    · rfl
    · by_cases same : other = cluster
      · subst same
        rw [hc, hasCluster, Fields.get?_insert_self]
      · rw [hasCluster, Fields.get?_insert_of_ne _ _ same, hasCluster]
  · rw [write_of_not_hasCluster hc]

theorem not_holds_of_missing {e : Endpoint} {cluster : String} (h : e.hasCluster cluster = false)
    (attr : String) (value : Json) : e.holds cluster attr value = false := by
  have none : e.get? cluster attr = none := by
    rw [get?, leaf?]
    cases hc : e.state.get? cluster with
    | none => rfl
    | some w =>
      cases w with
      | obj attrs =>
        rw [hasCluster_iff.2 ⟨attrs, hc⟩] at h
        cases h
      | _ => rfl
  rw [holds, none]

/-- What is written is held, if the cluster can hold it. -/
theorem holds_write_self (e : Endpoint) (cluster attr : String) (value : Json) :
    (e.write cluster attr value).1.holds cluster attr value = e.hasCluster cluster := by
  cases there : e.hasCluster cluster with
  | false =>
    rw [write_of_not_hasCluster (by simp [there])]
    exact not_holds_of_missing there attr value
  | true =>
    cases held : e.holds cluster attr value with
    | true => rw [write_same held, held]
    | false =>
      obtain ⟨attrs, hc⟩ := hasCluster_iff.1 there
      rw [holds, get?_write hc held]
      exact Json.same_self value

end Engine.Endpoint

/-! ## The tables of the device types -/

namespace Device.DeviceType

/-- What a peer's command writes is never observed: it is told only once. -/
theorem observes_of_mem_hooks {t : DeviceType} {h : Hook} (hh : h ∈ t.hooks) :
    t.observes h.cluster h.attr = false := by
  have table : ∀ h ∈ t.hooks, t.observes h.cluster h.attr = false := by
    cases t <;> decide
  exact table h hh

/-- The hooks of one command write different attributes. -/
theorem pairwise_hooks (t : DeviceType) (cluster command : String) :
    (t.hooks.filter (·.matches? cluster command)).Pairwise
      fun h h' => h'.cluster = h.cluster → h'.attr ≠ h.attr := by
  have table : t.hooks.Pairwise fun h h' =>
      h.cluster = h'.cluster → h.command = h'.command → h'.attr ≠ h.attr := by
    cases t <;> decide
  rw [List.pairwise_filter]
  refine table.imp fun apart hm hm' _ => ?_
  simp only [Hook.matches?, Bool.and_eq_true, decide_eq_true_eq] at hm hm'
  exact apart (hm.1.trans hm'.1.symm) (hm.2.trans hm'.2.symm)

end Device.DeviceType

namespace Bridge

/-! ## Followers without locks -/

/-- The event of a notice that no lock hides, if it is told. -/
def tells (id : String) (t : DeviceType) : Notice → Option BridgeEvent
  | .invoked cluster attr value => some ⟨id, cluster, attr, value⟩
  | .changed cluster attr value =>
    if t.observes cluster attr then some ⟨id, cluster, attr, value⟩ else none

theorem consume_empty (now window : Nat) (key : String) (value : Json) :
    (UpdateLocks.empty window).consume now key value = (false, .empty window) := rfl

theorem hearAll_calm (now window sink : Nat) (id : String) (t : DeviceType) (notices : List Notice) :
    Follower.hearAll now ⟨id, t, .empty window, sink⟩ notices =
      (⟨id, t, .empty window, sink⟩, notices.filterMap (tells id t)) := by
  induction notices with
  | nil => rfl
  | cons n rest ih =>
    cases n with
    | invoked cluster attr value => simp [Follower.hearAll, Follower.hear, ih, tells, Follower.event]
    | changed cluster attr value =>
      simp only [Follower.hearAll, Follower.hear, consume_empty, ih, Bool.false_eq_true, if_false]
      by_cases ho : t.observes cluster attr <;> simp [tells, ho, Follower.event]

/-- The lock of a write is used up by its own notice. -/
theorem consume_lock_empty {now window : Nat} (key : String) (value : Json) (h : 0 < window) :
    ((UpdateLocks.empty window).lock now key value).consume now key value =
      (true, .empty window) := by
  simp [UpdateLocks.lock, UpdateLocks.consume, UpdateLocks.purge, UpdateLocks.empty, Lock.live,
    Lock.expects, h, Json.same_self]

/-! ## Calm endpoints -/

namespace VirtualEndpoint

/-- An endpoint whose follower expects no echo. -/
def calm (window sink : Nat) (e : Endpoint) : VirtualEndpoint :=
  ⟨e, ⟨e.id, e.type, .empty window, sink⟩⟩

/-- The follower of an endpoint expects no echo. -/
def Calm (window sink : Nat) (v : VirtualEndpoint) : Prop :=
  v = calm window sink v.endpoint

variable {now window sink : Nat} {e : Endpoint} {cluster attr : String} {value : Json}

theorem calm_calm (window sink : Nat) (e : Endpoint) : Calm window sink (calm window sink e) := rfl

theorem calm_make (window sink : Nat) (d : Definition) : Calm window sink (make window sink d) := rfl

theorem startWrite_calm (now : Nat) (cluster attr : String) (value : Json) :
    (calm window sink e).startWrite now cluster attr value =
      if e.holds cluster attr value then (calm window sink e, false)
      else
        (⟨e, ⟨e.id, e.type, (UpdateLocks.empty window).lock now (lockKey cluster attr) value, sink⟩⟩,
          true) := rfl

/-- The caller's own write is told to nobody and leaves no lock behind. -/
theorem write_calm (now : Nat) (cluster attr : String) (value : Json) (h : 0 < window) :
    (calm window sink e).write now cluster attr value =
      if e.hasCluster cluster then
        (.ok (), ⟨calm window sink (e.write cluster attr value).1, []⟩)
      else (.error (.clusterNotFound cluster), ⟨calm window sink e, []⟩) := by
  simp only [write, startWrite_calm]
  by_cases held : e.holds cluster attr value
  · have same := Endpoint.write_same held
    by_cases hc : e.hasCluster cluster <;>
      simp [held, finishWrite, calm, Endpoint.set_eq, hc, same, hear, Follower.hearAll]
  · by_cases hc : e.hasCluster cluster
    · have changed : e.changes cluster attr value = true := by simp [Endpoint.changes, hc, held]
      have notices := Endpoint.notices_write e cluster attr value
      rw [changed, if_pos rfl] at notices
      simp [held, finishWrite, calm, Endpoint.set_eq, hc, notices, hear, Follower.hearAll,
        Follower.hear, consume_lock_empty _ _ h, Endpoint.id_write, Endpoint.type_write]
    · simp [held, finishWrite, Endpoint.set_eq, hc, unlock, UpdateLocks.release,
        consume_lock_empty _ _ h, calm]

/-- A write by someone else is told if it changes an observed attribute. -/
theorem writeByOther_calm (window sink : Nat) (e : Endpoint) (now : Nat) (cluster attr : String)
    (value : Json) :
    (calm window sink e).writeByOther now cluster attr value =
      if e.hasCluster cluster then
        (.ok (), ⟨calm window sink (e.write cluster attr value).1,
          if e.changes cluster attr value && e.type.observes cluster attr then
            [⟨e.id, cluster, attr, value⟩]
          else []⟩)
      else (.error (.clusterNotFound cluster), ⟨calm window sink e, []⟩) := by
  by_cases hc : e.hasCluster cluster
  · simp only [writeByOther, finishWrite, calm, Endpoint.set_eq, hc, if_true, hear, hearAll_calm,
      Endpoint.id_write, Endpoint.type_write, Endpoint.notices_write]
    by_cases changed : e.changes cluster attr value <;>
      by_cases ho : e.type.observes cluster attr <;> simp [changed, ho, tells]
  · simp [writeByOther, finishWrite, calm, Endpoint.set_eq, hc]

/-! ## Commands of a peer -/

/-- The events of some hooks on an endpoint. -/
def announced (args : Json) (e : Endpoint) (hooks : List Hook) : List BridgeEvent :=
  hooks.filterMap fun h =>
    (h.value.resolve args (e.get? h.cluster h.attr)).map (⟨e.id, h.cluster, h.attr, ·⟩)

theorem id_run (args : Json) (e : Endpoint) (h : Hook) : (e.run args h).1.id = e.id := by
  simp only [Endpoint.run]
  split
  · rfl
  · exact Endpoint.id_write _ _ _ _

theorem type_run (args : Json) (e : Endpoint) (h : Hook) : (e.run args h).1.type = e.type := by
  simp only [Endpoint.run]
  split
  · rfl
  · exact Endpoint.type_write _ _ _ _

/-- One hook is told once: the change that it makes is not observed. -/
theorem tells_run (args : Json) (e : Endpoint) {h : Hook} (hh : h ∈ e.type.hooks) :
    (e.run args h).2.filterMap (tells e.id e.type) = announced args e [h] := by
  have unseen := DeviceType.observes_of_mem_hooks hh
  simp only [Endpoint.run, announced]
  rcases hv : h.value.resolve args (e.get? h.cluster h.attr) with _ | v
  · simp [hv]
  · by_cases changed : e.changes h.cluster h.attr v <;>
      simp [hv, Endpoint.notices_write, changed, tells, unseen]

/-- A hook does not disturb what the hooks of other attributes yield. -/
theorem announced_run (args : Json) (e : Endpoint) (h : Hook) {rest : List Hook}
    (apart : ∀ h' ∈ rest, h'.cluster = h.cluster → h'.attr ≠ h.attr) :
    announced args (e.run args h).1 rest = announced args e rest := by
  simp only [announced, id_run]
  refine List.filterMap_congr fun h' hh' => ?_
  have untouched : (e.run args h).1.get? h'.cluster h'.attr = e.get? h'.cluster h'.attr := by
    simp only [Endpoint.run]
    split
    · rfl
    · exact Endpoint.get?_write_of_ne _ (apart h' hh')
  rw [untouched]

theorem endpoint_runAll (args : Json) (hooks : List Hook) (e : Endpoint) :
    (e.runAll args hooks).1.id = e.id ∧ (e.runAll args hooks).1.type = e.type := by
  induction hooks generalizing e with
  | nil => exact ⟨rfl, rfl⟩
  | cons h rest ih =>
    obtain ⟨hid, htype⟩ := ih (e.run args h).1
    exact ⟨hid.trans (id_run args e h), htype.trans (type_run args e h)⟩

theorem tells_runAll (args : Json) (e : Endpoint) {hooks : List Hook}
    (known : ∀ h ∈ hooks, h ∈ e.type.hooks)
    (apart : hooks.Pairwise fun h h' => h'.cluster = h.cluster → h'.attr ≠ h.attr) :
    (e.runAll args hooks).2.filterMap (tells e.id e.type) = announced args e hooks := by
  induction hooks generalizing e with
  | nil => rfl
  | cons h rest ih =>
    obtain ⟨first, later⟩ := List.pairwise_cons.1 apart
    have ihrest := ih (e.run args h).1
      (fun h' hh' => by rw [type_run]; exact known h' (List.mem_cons_of_mem _ hh')) later
    rw [id_run, type_run, announced_run args e h first] at ihrest
    simp only [Endpoint.runAll, List.filterMap_append, ihrest,
      tells_run args e (known h List.mem_cons_self), announced]
    rw [← List.filterMap_append, List.singleton_append]

/-- A command of a peer is told once for each of its hooks that yields a value. -/
theorem command_calm (window sink : Nat) (e : Endpoint) (now : Nat) (cluster command : String)
    (args : Json) :
    (calm window sink e).command now cluster command args =
      match e.type.hooks.filter (·.matches? cluster command) with
      | [] => (.error (.commandNotFound (cluster ++ "." ++ command)), ⟨calm window sink e, []⟩)
      | hooks => (.ok (), ⟨calm window sink (e.runAll args hooks).1, announced args e hooks⟩) := by
  have apart := DeviceType.pairwise_hooks e.type cluster command
  have known : ∀ h ∈ e.type.hooks.filter (·.matches? cluster command), h ∈ e.type.hooks :=
    fun h hh => (List.mem_filter.1 hh).1
  simp only [VirtualEndpoint.command, Endpoint.invoke, calm]
  generalize e.type.hooks.filter (·.matches? cluster command) = hooks at apart known ⊢
  cases hooks with
  | nil => rfl
  | cons h rest =>
    obtain ⟨hid, htype⟩ := endpoint_runAll args (h :: rest) e
    simp only [hear, hearAll_calm, hid, htype, tells_runAll args e known apart]

end VirtualEndpoint

end Bridge

end HomeGateway
