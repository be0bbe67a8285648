/-
  A virtual endpoint whose caller has several writes under way.

  A write of the caller begins when it is asked for and gets through when the
  engine lets it; writes may overlap and overtake each other.  Meanwhile others
  write, peers give commands, writes are held up and let go, and time passes.
  `Busy` is the endpoint with the writes under way, `Happening` lists what can
  happen to it.

  * `finishWrite_missing`, `finishWrite_there`: what comes of a write;
  * `written_of_changes`, `written_of_held`: what a write leaves;
  * `keeps_happen`: what locking, writing and waiting keep, everything keeps.
-/
import HomeGateway.Proofs.Expected
import Mathlib.Data.List.Perm.Basic

namespace HomeGateway.Bridge

open HomeGateway Device Engine

/-! ## One write -/

namespace VirtualEndpoint

/-- The endpoint after an attribute was written and its follower heard of it. -/
def written (now : Nat) (cluster attr : String) (value : Json) (v : VirtualEndpoint) :
    VirtualEndpoint :=
  (v.hear now (v.endpoint.write cluster attr value).1 (v.endpoint.write cluster attr value).2).after

/-- The endpoint with a lock for a write. -/
def expecting (now : Nat) (cluster attr : String) (value : Json) (v : VirtualEndpoint) :
    VirtualEndpoint :=
  { v with follower := { v.follower with
      locks := v.follower.locks.lock now (lockKey cluster attr) value } }

/-- Whether a live lock hides a change. -/
def hides (now : Nat) (cluster attr : String) (value : Json) (v : VirtualEndpoint) : Bool :=
  0 < v.follower.locks.outliving now (lockKey cluster attr) value

variable {now : Nat} {cluster attr : String} {value : Json} {v : VirtualEndpoint}

theorem startWrite_eq (now : Nat) (cluster attr : String) (value : Json) (v : VirtualEndpoint) :
    v.startWrite now cluster attr value =
      if v.endpoint.holds cluster attr value then (v, false)
      else (v.expecting now cluster attr value, true) := rfl

theorem write_of_not_changes {e : Endpoint} (h : e.changes cluster attr value = false) :
    e.write cluster attr value = (e, []) := by
  by_cases hc : e.hasCluster cluster = true
  · simp only [Endpoint.changes, hc, Bool.true_and, Bool.not_eq_false'] at h
    exact Endpoint.write_same h
  · exact Endpoint.write_of_not_hasCluster hc attr value

theorem written_of_held (h : v.endpoint.changes cluster attr value = false) :
    v.written now cluster attr value = v := by
  rw [written, write_of_not_changes h]
  rfl

theorem written_of_changes (h : v.endpoint.changes cluster attr value = true) :
    v.written now cluster attr value =
      ⟨(v.endpoint.write cluster attr value).1, { v.follower with
        locks := (v.follower.locks.consume now (lockKey cluster attr) value).2 }⟩ := by
  rw [written, Endpoint.notices_write, h]
  rfl

theorem finishWrite_missing (hc : v.endpoint.hasCluster cluster = false) (locked : Bool) :
    v.finishWrite now cluster attr value locked =
      (.error (.clusterNotFound cluster),
        ⟨if locked then v.unlock now cluster attr value else v, []⟩) := by
  simp [finishWrite, Endpoint.set_eq, hc]

/-- A write is told if it changes an observed attribute and no lock hides it. -/
theorem finishWrite_there (hc : v.endpoint.hasCluster cluster = true) (locked : Bool) :
    v.finishWrite now cluster attr value locked =
      (.ok (), ⟨v.written now cluster attr value,
        if v.endpoint.changes cluster attr value && !v.hides now cluster attr value &&
            v.follower.type.observes cluster attr then
          [v.follower.event cluster attr value]
        else []⟩) := by
  have told : (v.hear now (v.endpoint.write cluster attr value).1
      (v.endpoint.write cluster attr value).2).events =
        if v.endpoint.changes cluster attr value && !v.hides now cluster attr value &&
            v.follower.type.observes cluster attr then
          [v.follower.event cluster attr value]
        else [] := by
    rw [Endpoint.notices_write]
    by_cases changed : v.endpoint.changes cluster attr value = true
    · simp only [changed, if_true, hear, Follower.hearAll, Follower.hear,
        UpdateLocks.consume_fst, hides, List.append_nil, Bool.true_and]
      by_cases hidden : 0 < v.follower.locks.outliving now (lockKey cluster attr) value
      · simp [hidden]
      · by_cases ho : v.follower.type.observes cluster attr = true <;> simp [hidden, ho]
    · simp [changed, hear, Follower.hearAll]
  rw [finishWrite, Endpoint.set_eq, if_pos hc, ← told]
  rfl

/-! ## Commands, hook by hook -/

theorem hearAll_append (now : Nat) (f : Follower) (xs ys : List Notice) :
    (f.hearAll now (xs ++ ys)).1 = ((f.hearAll now xs).1.hearAll now ys).1 := by
  induction xs generalizing f with
  | nil => rfl
  | cons x xs ih => exact ih _

variable {P : VirtualEndpoint → Prop}
  (hwritten : ∀ v cluster attr value, P v → P (v.written now cluster attr value))
include hwritten

theorem kept_run (args : Json) (hook : Hook) (h : P v) :
    P ⟨(v.endpoint.run args hook).1, (v.follower.hearAll now (v.endpoint.run args hook).2).1⟩ := by
  simp only [Endpoint.run]
  cases hook.value.resolve args (v.endpoint.get? hook.cluster hook.attr) with
  | none => exact h
  | some value => exact hwritten v hook.cluster hook.attr value h

theorem kept_runAll (args : Json) (hooks : List Hook) (h : P v) :
    P ⟨(v.endpoint.runAll args hooks).1,
      (v.follower.hearAll now (v.endpoint.runAll args hooks).2).1⟩ := by
  induction hooks generalizing v with
  | nil => exact h
  | cons hook rest ih =>
    have first := kept_run hwritten args hook h
    simp only [Endpoint.runAll, hearAll_append]
    exact ih first

/-- What every write keeps, a command of a peer keeps. -/
theorem kept_command (h : P v) (cluster command : String) (args : Json) :
    P (v.command now cluster command args).2.after := by
  simp only [VirtualEndpoint.command, Endpoint.invoke]
  cases v.endpoint.type.hooks.filter (·.matches? cluster command) with
  | nil => exact h
  | cons hook rest => exact kept_runAll hwritten args (hook :: rest) h

end VirtualEndpoint

/-! ## Writes under way -/

/-- A write of the caller that is under way. -/
structure Call where
  cluster : String
  attr : String
  value : Json
  /-- whether its echo is locked -/
  locked : Bool
  /-- when it began -/
  since : Nat

/-- A virtual endpoint and the writes of its caller that are under way. -/
structure Busy where
  now : Nat
  /-- whether writes are held up -/
  held : Bool
  endpoint : VirtualEndpoint
  /-- the writes under way, in the order in which they began -/
  calls : List Call

/-- Something that happens to a virtual endpoint. -/
inductive Happening where
  /-- a write of the caller begins -/
  | begun (cluster attr : String) (value : Json)
  /-- the `i`-th of the writes under way gets through -/
  | finished (i : Nat)
  /-- a write of someone else gets through -/
  | written (cluster attr : String) (value : Json)
  /-- a peer gives a command -/
  | commanded (cluster command : String) (args : Json)
  /-- writes are held up from now on -/
  | held
  /-- writes are let go from now on -/
  | released
  /-- time passes -/
  | passed (ms : Nat)

/-- Whether a happening is no doing of others. -/
def Happening.own : Happening → Bool
  | .written .. | .commanded .. => false
  | .begun .. | .finished _ | .held | .released | .passed _ => true

namespace Busy

/-- An endpoint that was just made. -/
def opened (now window sink : Nat) (d : Definition) : Busy :=
  ⟨now, false, .make window sink d, []⟩

/-- A door lock. -/
def door : Definition :=
  ⟨"door", .doorLock, ⟨"Door", "", "", ""⟩, DeviceType.doorLock.defaults, []⟩

/-- The write of the caller that gets through, if one does. -/
def through? (b : Busy) : Happening → Option Call
  | .finished i => if b.held then none else b.calls[i]?
  | _ => none

/-- What comes of a happening, and the events that it causes. -/
def happen (b : Busy) : Happening → Busy × List BridgeEvent
  | .begun cluster attr value =>
    let (v, locked) := b.endpoint.startWrite b.now cluster attr value
    ({ b with endpoint := v, calls := b.calls ++ [⟨cluster, attr, value, locked, b.now⟩] }, [])
  | .finished i =>
    match b.through? (.finished i) with
    | none => (b, [])
    | some c =>
      let r := (b.endpoint.finishWrite b.now c.cluster c.attr c.value c.locked).2
      ({ b with endpoint := r.after, calls := b.calls.eraseIdx i }, r.events)
  | .written cluster attr value =>
    if b.held then (b, [])
    else
      let r := (b.endpoint.writeByOther b.now cluster attr value).2
      ({ b with endpoint := r.after }, r.events)
  | .commanded cluster command args =>
    let r := (b.endpoint.command b.now cluster command args).2
    ({ b with endpoint := r.after }, r.events)
  | .held => ({ b with held := true }, [])
  | .released => ({ b with held := false }, [])
  | .passed ms => ({ b with now := b.now + ms }, [])

/-- What comes of several happenings, and all the events. -/
def run (b : Busy) : List Happening → Busy × List BridgeEvent
  | [] => (b, [])
  | h :: hs =>
    let (b, events) := b.happen h
    let (b, more) := run b hs
    (b, events ++ more)

/-- Whether each of several happenings is of a kind, by what there is before it. -/
def always (p : Busy → Happening → Bool) : Busy → List Happening → Bool
  | _, [] => true
  | b, h :: hs => p b h && always p (b.happen h).1 hs

theorem countP_eraseIdx {α : Type} {xs : List α} {i : Nat} {x : α} (h : xs[i]? = some x)
    (p : α → Bool) : (xs.eraseIdx i).countP p + (if p x then 1 else 0) = xs.countP p := by
  obtain ⟨hi, rfl⟩ := List.getElem?_eq_some_iff.1 h
  have perm := (List.getElem_cons_eraseIdx_perm hi).countP_eq p
  rwa [List.countP_cons] at perm

/-- A fact of the endpoint that locking, writing and the passing of time keep. -/
structure Lasting (P : Nat → VirtualEndpoint → Prop) : Prop where
  locked : ∀ {now v} cluster attr value, P now v → P now (v.expecting now cluster attr value)
  written : ∀ {now v} cluster attr value, P now v → P now (v.written now cluster attr value)
  unlocked : ∀ {now v} cluster attr value, P now v → P now (v.unlock now cluster attr value)
  passed : ∀ {now v} ms, P now v → P (now + ms) v

variable {P : Nat → VirtualEndpoint → Prop} {b : Busy}

theorem Lasting.finish (lasts : Lasting P) {now : Nat} {v : VirtualEndpoint} (h : P now v)
    (cluster attr : String) (value : Json) (locked : Bool) :
    P now (v.finishWrite now cluster attr value locked).2.after := by
  cases hc : v.endpoint.hasCluster cluster with
  | false =>
    rw [VirtualEndpoint.finishWrite_missing hc]
    cases locked with
    | false => exact h
    | true => exact lasts.unlocked _ _ _ h
  | true =>
    rw [VirtualEndpoint.finishWrite_there hc]
    exact lasts.written _ _ _ h

theorem getElem?_of_through? {i : Nat} {c : Call} (h : b.through? (.finished i) = some c) :
    b.calls[i]? = some c := by
  simp only [through?] at h
  split at h
  · cases h
  · exact h

theorem keeps_happen (lasts : Lasting P) (h : P b.now b.endpoint) (x : Happening) :
    P (b.happen x).1.now (b.happen x).1.endpoint := by
  cases x with
  | begun cluster attr value =>
    simp only [happen, VirtualEndpoint.startWrite_eq]
    split
    · exact h
    · exact lasts.locked _ _ _ h
  | finished i =>
    simp only [happen]
    cases b.through? (.finished i) with
    | none => exact h
    | some c => exact lasts.finish h _ _ _ _
  | written cluster attr value =>
    simp only [happen]
    split
    · exact h
    · exact lasts.finish h _ _ _ _
  | commanded cluster command args =>
    exact VirtualEndpoint.kept_command (P := P b.now)
      (fun _ cluster attr value hv => lasts.written cluster attr value hv) h cluster command args
  | held | released => exact h
  | passed ms => exact lasts.passed ms h

theorem keeps_run (lasts : Lasting P) (h : P b.now b.endpoint) (hs : List Happening) :
    P (b.run hs).1.now (b.run hs).1.endpoint := by
  induction hs generalizing b with
  | nil => exact h
  | cons x hs ih => exact ih (keeps_happen lasts h x)

/-! ## What an endpoint stems from -/

/-- The follower is that of a definition, and its locks die in order. -/
structure Stems (window : Nat) (d : Definition) (now : Nat) (v : VirtualEndpoint) : Prop where
  id : v.follower.endpointId = d.id
  type : v.follower.type = d.type
  window : v.follower.locks.window = window
  order : v.follower.locks.InOrder now

theorem stems_opened (now window sink : Nat) (d : Definition) :
    Stems window d now (opened now window sink d).endpoint :=
  ⟨rfl, rfl, rfl, UpdateLocks.inOrder_empty now window⟩

theorem lasting_stems (window : Nat) (d : Definition) : Lasting (Stems window d) where
  locked _ _ _ h := ⟨h.id, h.type, h.window, h.order.lock _ _⟩
  written {now v} cluster attr value h := by
    cases changed : v.endpoint.changes cluster attr value with
    | false => rwa [VirtualEndpoint.written_of_held changed]
    | true =>
      rw [VirtualEndpoint.written_of_changes changed]
      exact ⟨h.id, h.type, h.window, h.order.consume _ _⟩
  unlocked _ _ _ h := ⟨h.id, h.type, h.window, h.order.consume _ _⟩
  passed _ h := ⟨h.id, h.type, h.window, h.order.later (Nat.le_add_right _ _)⟩

theorem stems_run (now window sink : Nat) (d : Definition) (hs : List Happening) :
    Stems window d ((opened now window sink d).run hs).1.now
      ((opened now window sink d).run hs).1.endpoint :=
  keeps_run (lasting_stems window d) (stems_opened now window sink d) hs

end Busy

end HomeGateway.Bridge
