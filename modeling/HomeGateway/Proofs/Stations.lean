/-
  Server nodes and controllers in the engine.

  Both are called stations here: each has a role, a number and a name, and is
  closed at some time for good.  What belongs to a station is kept apart from
  what belongs to stations of other names.

  * `State.InOrder`: stations use stores of their own name and aggregators of their own;
  * `State.Spares`: only what belongs to one identity may have changed;
  * `sets_withoutServer`, `sets_opened`: the life of a server node;
  * `sets_withController`, `sets_withoutController`: the life of a controller.
-/
import HomeGateway.Proofs.Upkeep

namespace HomeGateway.Engine

open HomeGateway Bridge

/-- The name of a station, and whether it was closed. -/
def State.station? (role : Role) (k : Nat) (e : State) : Option (String × Bool) :=
  match role with
  | .bridge => (e.servers[k]?).map fun sv => (sv.config.id, sv.closed)
  | .client => (e.controllers[k]?).map fun c => (c.id, c.closed)

/-- The station is open and has this name. -/
def State.Open (role : Role) (k : Nat) (name : String) (e : State) : Prop :=
  e.station? role k = some (name, false)

/-- Stores belong to the name of who uses them, and no two server nodes share an aggregator. -/
structure State.InOrder (e : State) : Prop where
  /-- the stores of server nodes -/
  stored : ∀ (k : Nat) (sv : Server), e.servers[k]? = some sv →
    (e.serverStores[sv.store]?).map (·.key.id) = some sv.config.id
  /-- aggregators exist -/
  joined : ∀ (k : Nat) (sv : Server) (a : Nat), e.servers[k]? = some sv →
    sv.aggregator = some a → a < e.aggregators.length
  /-- aggregators are not shared -/
  apart : ∀ (k k' : Nat) (sv sv' : Server) (a : Nat), e.servers[k]? = some sv →
    e.servers[k']? = some sv' → sv.aggregator = some a → sv'.aggregator = some a → k = k'
  /-- the stores of controllers -/
  filed : ∀ (k : Nat) (c : Controller), e.controllers[k]? = some c →
    (e.controllerStores[c.store]?).map (·.key.id) = some c.id

theorem State.inOrder_initial : State.initial.InOrder where
  stored := nofun
  joined := nofun
  apart := fun _ _ _ _ _ hk => nomatch hk
  filed := nofun

/-- Nothing changed but what belongs to an identity. -/
structure State.Spares (i : Identity) (e e' : State) : Prop where
  /-- the bridged endpoints -/
  endpoints : e'.endpoints = e.endpoints
  /-- the devices that can be paired -/
  devices : e'.devices = e.devices
  /-- what was told -/
  journal : e'.journal = e.journal
  /-- what is held up -/
  held : e'.writesHeld = e.writesHeld ∧ e'.addsHeld = e.addsHeld
  /-- the armed faults -/
  faults : e'.faults = e.faults
  /-- the other server nodes, their stores and their aggregators -/
  servers : ∀ (k : Nat) (sv : Server), e.servers[k]? = some sv →
    (⟨.bridge, sv.config.id⟩ : Identity) ≠ i →
    e'.servers[k]? = some sv ∧ e'.serverStores[sv.store]? = e.serverStores[sv.store]? ∧
      ∀ a, sv.aggregator = some a → e'.aggregators[a]? = e.aggregators[a]?
  /-- the other controllers and their stores -/
  controllers : ∀ (k : Nat) (c : Controller), e.controllers[k]? = some c →
    (⟨.client, c.id⟩ : Identity) ≠ i →
    e'.controllers[k]? = some c ∧ e'.controllerStores[c.store]? = e.controllerStores[c.store]?

variable {e e' e'' : State} {i : Identity}

theorem State.Spares.refl (i : Identity) (e : State) : e.Spares i e :=
  ⟨rfl, rfl, rfl, ⟨rfl, rfl⟩, rfl, fun _ _ h _ => ⟨h, rfl, fun _ _ => rfl⟩, fun _ _ h _ => ⟨h, rfl⟩⟩

theorem State.Spares.trans (h : e.Spares i e') (h' : e'.Spares i e'') : e.Spares i e'' where
  endpoints := h'.endpoints.trans h.endpoints
  devices := h'.devices.trans h.devices
  journal := h'.journal.trans h.journal
  held := ⟨h'.held.1.trans h.held.1, h'.held.2.trans h.held.2⟩
  faults := h'.faults.trans h.faults
  servers := by
    intro k sv hk other
    obtain ⟨same, store, members⟩ := h.servers k sv hk other
    obtain ⟨same', store', members'⟩ := h'.servers k sv same other
    exact ⟨same', store'.trans store, fun a ha => (members' a ha).trans (members a ha)⟩
  controllers := by
    intro k c hk other
    obtain ⟨same, store⟩ := h.controllers k c hk other
    obtain ⟨same', store'⟩ := h'.controllers k c same other
    exact ⟨same', store'.trans store⟩

/-! ## Frames -/

theorem getElem?_of_map_eq {α β : Type} {f : α → β} {xs ys : List α} (h : ys.map f = xs.map f)
    {k : Nat} {y : α} (hk : ys[k]? = some y) : ∃ x, xs[k]? = some x ∧ f y = f x := by
  have same : (ys.map f)[k]? = (xs.map f)[k]? := by rw [h]
  rw [List.getElem?_map, List.getElem?_map, hk] at same
  cases hx : xs[k]? with
  | none =>
    rw [hx] at same
    cases same
  | some x =>
    rw [hx] at same
    exact ⟨x, rfl, Option.some.inj same⟩

theorem State.Keeps.station? (h : e.Keeps e') (role : Role) (k : Nat) :
    e'.station? role k = e.station? role k := by
  cases role with
  | bridge =>
    have frames : (e'.servers.map Server.frame)[k]? = (e.servers.map Server.frame)[k]? := by
      rw [h.servers]
    rw [List.getElem?_map, List.getElem?_map] at frames
    have names := congrArg (Option.map fun sv => (sv.config.id, sv.closed)) frames
    rw [Option.map_map, Option.map_map] at names
    exact names
  | client =>
    show (e'.controllers[k]?).map _ = _
    rw [h.controllers]
    rfl

theorem Server.of_frame {sv sv' : Server} (h : sv.frame = sv'.frame) :
    sv.config = sv'.config ∧ sv.store = sv'.store ∧ sv.aggregator = sv'.aggregator := by
  unfold Server.frame at h
  rw [Server.mk.injEq] at h
  obtain ⟨config, store, -, -, -, aggregator⟩ := h
  exact ⟨config, store, aggregator⟩

theorem key_of_map_eq {α β : Type} {f : α → β} {xs ys : List α} (h : ys.map f = xs.map f) (n : Nat) :
    (ys[n]?).map f = (xs[n]?).map f := by
  rw [← List.getElem?_map, ← List.getElem?_map, h]

theorem State.InOrder.keeps (h : e.InOrder) (keeps : e.Keeps e') : e'.InOrder where
  stored := by
    intro k sv hk
    obtain ⟨sv₀, hk₀, frame⟩ := getElem?_of_map_eq keeps.servers hk
    obtain ⟨config, store, -⟩ := Server.of_frame frame
    have keys := congrArg (Option.map StoreKey.id) (key_of_map_eq keeps.serverStores sv.store)
    rw [Option.map_map, Option.map_map] at keys
    rw [config, ← h.stored k sv₀ hk₀, ← store]
    exact keys
  joined := by
    intro k sv a hk ha
    obtain ⟨sv₀, hk₀, frame⟩ := getElem?_of_map_eq keeps.servers hk
    obtain ⟨-, -, aggregator⟩ := Server.of_frame frame
    rw [keeps.aggregators]
    exact h.joined k sv₀ a hk₀ (aggregator ▸ ha)
  apart := by
    intro k k' sv sv' a hk hk' ha ha'
    obtain ⟨sv₀, hk₀, frame⟩ := getElem?_of_map_eq keeps.servers hk
    obtain ⟨sv₁, hk₁, frame'⟩ := getElem?_of_map_eq keeps.servers hk'
    obtain ⟨-, -, aggregator⟩ := Server.of_frame frame
    obtain ⟨-, -, aggregator'⟩ := Server.of_frame frame'
    exact h.apart k k' sv₀ sv₁ a hk₀ hk₁ (aggregator ▸ ha) (aggregator' ▸ ha')
  filed := by
    intro k c hk
    rw [keeps.controllers] at hk
    have keys := congrArg (Option.map StoreKey.id) (key_of_map_eq keeps.controllerStores c.store)
    rw [Option.map_map, Option.map_map] at keys
    rw [← h.filed k c hk]
    exact keys

/-- A station of an identity is open or closed from now on. -/
structure State.Sets (i : Identity) (k : Nat) (closed : Bool) (e e' : State) : Prop where
  /-- no other station changed -/
  station : ∀ role k', e'.station? role k' =
    if role = i.role ∧ k' = k then some (i.name, closed) else e.station? role k'
  /-- everything is in order -/
  order : e'.InOrder
  /-- nothing of others changed -/
  spares : e.Spares i e'

/-! ## The end of a server node -/

/-- The engine after a server node was closed. -/
def State.withoutServer (k : Nat) (e : State) : State :=
  { e with
    servers := e.servers.modify k .shut
    aggregators := match (e.servers[k]?).bind (·.aggregator) with
      | some a => e.aggregators.set a []
      | none => e.aggregators }

theorem run_closeServer_withoutServer {k : Nat} {sv : Server} (h : e.faults = [])
    (hk : e.servers[k]? = some sv) : closeServer k e = (.ok (), e.withoutServer k) := by
  rw [run_closeServer h hk]
  unfold State.withoutServer
  rw [hk]
  rfl

theorem servers_withoutServer (k k' : Nat) : (e.withoutServer k).servers[k']? =
    if k = k' then (e.servers[k']?).map .shut else e.servers[k']? := by
  show (e.servers.modify k .shut)[k']? = _
  rw [List.getElem?_modify]
  split
  · rfl
  · exact Option.map_id'

theorem length_aggregators_withoutServer (k : Nat) :
    (e.withoutServer k).aggregators.length = e.aggregators.length := by
  unfold State.withoutServer
  cases (e.servers[k]?).bind (·.aggregator) with
  | none => rfl
  | some a => exact List.length_set

theorem aggregators_withoutServer {k a : Nat} (h : (e.servers[k]?).bind (·.aggregator) ≠ some a) :
    (e.withoutServer k).aggregators[a]? = e.aggregators[a]? := by
  unfold State.withoutServer
  cases ha : (e.servers[k]?).bind (·.aggregator) with
  | none => rfl
  | some a' =>
    rw [ha] at h
    exact List.getElem?_set_ne fun eq => h (congrArg some eq)

theorem getElem?_withoutServer {k k' : Nat} {sv : Server}
    (h : (e.withoutServer k).servers[k']? = some sv) :
    ∃ sv₀, e.servers[k']? = some sv₀ ∧ sv.config = sv₀.config ∧ sv.store = sv₀.store ∧
      (sv.aggregator = none ∨ sv.aggregator = sv₀.aggregator) := by
  rw [servers_withoutServer] at h
  split at h
  · cases hk : e.servers[k']? with
    | none =>
      rw [hk] at h
      cases h
    | some sv₀ =>
      rw [hk] at h
      cases h
      exact ⟨sv₀, rfl, rfl, rfl, .inl rfl⟩
  · exact ⟨sv, h, rfl, rfl, .inr rfl⟩

theorem State.InOrder.withoutServer (h : e.InOrder) (k : Nat) : (e.withoutServer k).InOrder where
  stored := by
    intro k' sv hk
    obtain ⟨sv₀, hk₀, config, store, -⟩ := getElem?_withoutServer hk
    rw [config, store]
    exact h.stored k' sv₀ hk₀
  joined := by
    intro k' sv a hk ha
    obtain ⟨sv₀, hk₀, -, -, gone | same⟩ := getElem?_withoutServer hk
    · rw [gone] at ha
      cases ha
    · rw [length_aggregators_withoutServer]
      exact h.joined k' sv₀ a hk₀ (same ▸ ha)
  apart := by
    intro k' k'' sv sv' a hk hk' ha ha'
    obtain ⟨sv₀, hk₀, -, -, gone | same⟩ := getElem?_withoutServer hk
    · rw [gone] at ha
      cases ha
    · obtain ⟨sv₁, hk₁, -, -, gone' | same'⟩ := getElem?_withoutServer hk'
      · rw [gone'] at ha'
        cases ha'
      · exact h.apart k' k'' sv₀ sv₁ a hk₀ hk₁ (same ▸ ha) (same' ▸ ha')
  filed := h.filed

theorem sets_withoutServer (h : e.InOrder) {k : Nat} {sv : Server} (hk : e.servers[k]? = some sv) :
    e.Sets ⟨.bridge, sv.config.id⟩ k true (e.withoutServer k) where
  station := by
    intro role k'
    cases role with
    | client =>
      rw [if_neg (by rintro ⟨⟨⟩, -⟩)]
      rfl
    | bridge =>
      show ((e.withoutServer k).servers[k']?).map _ = _
      rw [servers_withoutServer]
      by_cases same : k = k'
      · subst same
        rw [if_pos rfl, if_pos ⟨rfl, rfl⟩, hk]
        rfl
      · rw [if_neg same, if_neg fun both => same both.2.symm]
        rfl
  order := h.withoutServer k
  spares := by
    refine ⟨rfl, rfl, rfl, ⟨rfl, rfl⟩, rfl, ?_, fun _ _ hc _ => ⟨hc, rfl⟩⟩
    intro k' sv' hk' other
    have apart : k ≠ k' := by
      rintro rfl
      rw [hk] at hk'
      cases hk'
      exact other rfl
    refine ⟨?_, rfl, ?_⟩
    · rw [servers_withoutServer, if_neg apart]
      exact hk'
    · intro a ha
      refine aggregators_withoutServer ?_
      rw [hk]
      intro shared
      exact apart (h.apart k k' sv sv' a hk hk' shared ha)

/-! ## A new server node -/

theorem serverStore?_eq_some {key : StoreKey} {n : Nat} (h : e.serverStore? key = some n) :
    ∃ st, e.serverStores[n]? = some st ∧ st.key = key := by
  unfold State.serverStore? at h
  obtain ⟨lt, holds, -⟩ := List.findIdx?_eq_some_iff_getElem.1 h
  refine ⟨e.serverStores[n], List.getElem?_eq_getElem lt, ?_⟩
  simp only [Bool.and_eq_true, decide_eq_true_eq] at holds
  exact holds.1

theorem clearServerStore_of_ne {key : StoreKey} {n : Nat} {st : ServerStore}
    (h : e.serverStores[n]? = some st) (other : st.key ≠ key) :
    (e.clearServerStore key).serverStores[n]? = some st := by
  unfold State.clearServerStore
  rw [List.getElem?_map, h, Option.map_some, if_neg other]

theorem key_clearServerStore (key : StoreKey) (n : Nat) :
    ((e.clearServerStore key).serverStores[n]?).map (·.key) = (e.serverStores[n]?).map (·.key) := by
  unfold State.clearServerStore
  rw [List.getElem?_map, Option.map_map]
  congr 1
  ext st
  show (if st.key = key then _ else st).key = _
  split <;> rfl

/-- A ready store has its key, and the other stores stay. -/
theorem readyStore_spec (config : ServerNodeConfig) (e : State) :
    (((e.readyStore config).1[(e.readyStore config).2]?).map (·.key) = some config.key) ∧
    (∀ (n : Nat) (st : ServerStore), e.serverStores[n]? = some st → st.key ≠ config.key →
      (e.readyStore config).1[n]? = some st) ∧
    ∀ (n : Nat) (st : ServerStore), e.serverStores[n]? = some st →
      ((e.readyStore config).1[n]?).map (·.key) = some st.key := by
  unfold State.readyStore
  generalize hc : (if config.clearStorage then e.clearServerStore config.key else e) = c
  have others : ∀ (n : Nat) (st : ServerStore), e.serverStores[n]? = some st →
      st.key ≠ config.key → c.serverStores[n]? = some st := by
    intro n st hn other
    rw [← hc]
    split
    · exact clearServerStore_of_ne hn other
    · exact hn
  have keys : ∀ (n : Nat) (st : ServerStore), e.serverStores[n]? = some st →
      (c.serverStores[n]?).map (·.key) = some st.key := by
    intro n st hn
    rw [← hc]
    split
    · rw [key_clearServerStore, hn]
      rfl
    · rw [hn]
      rfl
  dsimp only
  cases found : c.serverStore? config.key with
  | some k =>
    obtain ⟨st, hk, key⟩ := serverStore?_eq_some found
    refine ⟨?_, others, keys⟩
    rw [hk, Option.map_some, key]
  | none =>
    refine ⟨?_, ?_, ?_⟩
    · rw [List.getElem?_concat_length]
      rfl
    · intro n st hn other
      have old := others n st hn other
      rw [List.getElem?_append_left (List.getElem?_eq_some_iff.1 old).1]
      exact old
    · intro n st hn
      have old := keys n st hn
      obtain ⟨st', hst', -⟩ := Option.map_eq_some_iff.1 old
      rw [List.getElem?_append_left (List.getElem?_eq_some_iff.1 hst').1]
      exact old

/-! ## The life of a controller -/

/-- The stores of controllers, the one of a new controller being ready, and its number. -/
def State.readyFile (key : StoreKey) (e : State) : List ControllerStore × Nat :=
  match e.controllerStores.findIdx? (·.key = key) with
  | some n => (e.controllerStores, n)
  | none => (e.controllerStores ++ [⟨key, [], 1⟩], e.controllerStores.length)

/-- The engine after a controller was made. -/
def State.withController (config : ControllerConfig) (listener : Listener) (e : State) : State :=
  { e with
    controllerStores := (e.readyFile config.key).1.modify (e.readyFile config.key).2
      (·.changeKept fun n => { n with listener := listener })
    controllers := e.controllers ++
      [⟨config.id, config.nodeId, (e.readyFile config.key).2, false, listener⟩] }

theorem run_createController (h : e.faults = []) (config : ControllerConfig) (listener : Listener) :
    createController config listener e =
      (.ok e.controllers.length, e.withController config listener) := by
  unfold createController State.withController State.readyFile
  simp only [Act.run_bind, run_trip h, openControllerStore, Act.run_get]
  cases e.controllerStores.findIdx? (·.key = config.key)
  all_goals rfl

/-- A ready store has its key, and all stores stay. -/
theorem readyFile_spec (key : StoreKey) (e : State) :
    (((e.readyFile key).1[(e.readyFile key).2]?).map (·.key) = some key) ∧
    ∀ (n : Nat) (st : ControllerStore), e.controllerStores[n]? = some st →
      (e.readyFile key).1[n]? = some st := by
  unfold State.readyFile
  cases found : e.controllerStores.findIdx? (·.key = key) with
  | some n =>
    obtain ⟨lt, holds, -⟩ := List.findIdx?_eq_some_iff_getElem.1 found
    refine ⟨?_, fun _ _ hst => hst⟩
    rw [List.getElem?_eq_getElem lt, Option.map_some]
    exact congrArg some (of_decide_eq_true holds)
  | none =>
    refine ⟨?_, ?_⟩
    · rw [List.getElem?_concat_length]
      rfl
    · intro n st hst
      rw [List.getElem?_append_left (List.getElem?_eq_some_iff.1 hst).1]
      exact hst

/-- Changing the nodes of a store leaves its key alone. -/
theorem key_modify_changeKept (stores : List ControllerStore) (k n : Nat) (f : Node → Node) :
    ((stores.modify k (·.changeKept f))[n]?).map (·.key) = (stores[n]?).map (·.key) := by
  have keys : (stores.modify k (·.changeKept f)).map (·.key) = stores.map (·.key) :=
    map_modify_of stores k fun _ => rfl
  exact key_of_map_eq keys n

theorem controllers_withController {config : ControllerConfig} {listener : Listener} {k : Nat}
    {c : Controller} (h : (e.withController config listener).controllers[k]? = some c) :
    e.controllers[k]? = some c ∨ (k = e.controllers.length ∧
      c = ⟨config.id, config.nodeId, (e.readyFile config.key).2, false, listener⟩) := by
  rcases Nat.lt_trichotomy k e.controllers.length with lt | rfl | gt
  · unfold State.withController at h
    rw [List.getElem?_append_left lt] at h
    exact .inl h
  · unfold State.withController at h
    rw [List.getElem?_concat_length] at h
    exact .inr ⟨rfl, (Option.some.inj h).symm⟩
  · have lt := (List.getElem?_eq_some_iff.1 h).1
    have : (e.withController config listener).controllers.length = e.controllers.length + 1 :=
      List.length_append
    omega

theorem State.InOrder.withController (h : e.InOrder) (config : ControllerConfig)
    (listener : Listener) : (e.withController config listener).InOrder where
  stored := h.stored
  joined := h.joined
  apart := h.apart
  filed := by
    obtain ⟨ready, keys⟩ := readyFile_spec config.key e
    have same (n : Nat) : (((e.withController config listener).controllerStores[n]?).map (·.key)) =
        ((e.readyFile config.key).1[n]?).map (·.key) :=
      key_modify_changeKept _ _ n _
    intro k c hk
    have name (n : Nat) := congrArg (Option.map StoreKey.id) (same n)
    simp only [Option.map_map] at name
    rcases controllers_withController hk with old | ⟨-, rfl⟩
    · obtain ⟨st, hst, id⟩ := Option.map_eq_some_iff.1 (h.filed k c old)
      refine (name c.store).trans ?_
      rw [keys _ st hst, ← id]
      rfl
    · refine (name _).trans ?_
      have key := congrArg (Option.map StoreKey.id) ready
      rw [Option.map_map] at key
      exact key

theorem sets_withController (h : e.InOrder) (config : ControllerConfig) (listener : Listener) :
    e.Sets ⟨.client, config.id⟩ e.controllers.length false (e.withController config listener) where
  station := by
    intro role k
    cases role with
    | bridge =>
      rw [if_neg (by rintro ⟨⟨⟩, -⟩)]
      rfl
    | client =>
      show (((e.controllers ++ [_] : List Controller))[k]?).map _ = _
      by_cases new : k = e.controllers.length
      · subst new
        rw [if_pos ⟨rfl, rfl⟩, List.getElem?_concat_length]
        rfl
      · rw [if_neg fun both => new both.2]
        rcases Nat.lt_or_gt_of_ne new with lt | gt
        · rw [List.getElem?_append_left lt]
          rfl
        · show _ = (e.controllers[k]?).map _
          rw [List.getElem?_eq_none (by rw [List.length_append, List.length_singleton]; omega),
            List.getElem?_eq_none (by omega)]
  order := h.withController config listener
  spares := by
    obtain ⟨ready, keys⟩ := readyFile_spec config.key e
    refine ⟨rfl, rfl, rfl, ⟨rfl, rfl⟩, rfl, fun _ _ hsv _ => ⟨hsv, rfl, fun _ _ => rfl⟩, ?_⟩
    intro k c hk other
    obtain ⟨st, hst, id⟩ := Option.map_eq_some_iff.1 (h.filed k c hk)
    refine ⟨?_, ?_⟩
    · show (e.controllers ++ [_])[k]? = _
      rw [List.getElem?_append_left (List.getElem?_eq_some_iff.1 hk).1]
      exact hk
    · show (List.modify _ _ _)[c.store]? = _
      have apart : (e.readyFile config.key).2 ≠ c.store := by
        intro same
        rw [same, keys _ st hst] at ready
        refine other ?_
        rw [← id]
        exact congrArg (Identity.mk .client) (congrArg StoreKey.id (Option.some.inj ready))
      rw [List.getElem?_modify_ne _ _ apart, keys _ st hst, hst]

/-- The engine after a controller was closed. -/
def State.withoutController (k : Nat) (c : Controller) (e : State) : State :=
  { e with
    controllers := e.controllers.modify k fun c => { c with closed := true }
    controllerStores := e.controllerStores.modify c.store
      (·.changeKept fun n => { n with connected := false }) }

theorem run_closeController (h : e.faults = []) {k : Nat} {c : Controller}
    (hk : e.controllers[k]? = some c) :
    closeController k e = (.ok (), e.withoutController k c) := by
  unfold closeController
  simp only [Act.run_bind, run_trip h, theController, Act.run_get, hk]
  rfl

theorem controllers_withoutController {k k' : Nat} {c c' : Controller}
    (h : (e.withoutController k c).controllers[k']? = some c') :
    ∃ c₀, e.controllers[k']? = some c₀ ∧ c'.id = c₀.id ∧ c'.store = c₀.store := by
  have same : (e.withoutController k c).controllers.map (fun c => (c.id, c.store)) =
      e.controllers.map fun c => (c.id, c.store) :=
    map_modify_of e.controllers k fun _ => rfl
  obtain ⟨c₀, hk, eq⟩ := getElem?_of_map_eq same h
  exact ⟨c₀, hk, congrArg Prod.fst eq, congrArg Prod.snd eq⟩

theorem State.InOrder.withoutController (h : e.InOrder) (k : Nat) (c : Controller) :
    (e.withoutController k c).InOrder where
  stored := h.stored
  joined := h.joined
  apart := h.apart
  filed := by
    intro k' c' hk
    obtain ⟨c₀, hk₀, id, store⟩ := controllers_withoutController hk
    have key := key_modify_changeKept e.controllerStores c.store c'.store
      fun n => { n with connected := false }
    have name := congrArg (Option.map StoreKey.id) key
    rw [Option.map_map, Option.map_map] at name
    refine Eq.trans name ?_
    rw [id, store]
    exact h.filed k' c₀ hk₀

theorem sets_withoutController (h : e.InOrder) {k : Nat} {c : Controller}
    (hk : e.controllers[k]? = some c) :
    e.Sets ⟨.client, c.id⟩ k true (e.withoutController k c) where
  station := by
    intro role k'
    cases role with
    | bridge =>
      rw [if_neg (by rintro ⟨⟨⟩, -⟩)]
      rfl
    | client =>
      show ((e.controllers.modify k _)[k']?).map _ = _
      by_cases same : k = k'
      · subst same
        rw [if_pos ⟨rfl, rfl⟩, List.getElem?_modify_eq, hk]
        rfl
      · rw [if_neg fun both => same both.2.symm, List.getElem?_modify_ne _ _ same]
        rfl
  order := h.withoutController k c
  spares := by
    refine ⟨rfl, rfl, rfl, ⟨rfl, rfl⟩, rfl, fun _ _ hsv _ => ⟨hsv, rfl, fun _ _ => rfl⟩, ?_⟩
    intro k' c' hk' other
    have apart : k ≠ k' := by
      rintro rfl
      rw [hk] at hk'
      cases hk'
      exact other rfl
    have files : c.store ≠ c'.store := by
      intro same
      have name := h.filed k c hk
      rw [same, h.filed k' c' hk'] at name
      exact other (congrArg (Identity.mk .client) (Option.some.inj name))
    refine ⟨?_, ?_⟩
    · show (List.modify _ _ _)[k']? = _
      rw [List.getElem?_modify_ne _ _ apart]
      exact hk'
    · exact List.getElem?_modify_ne _ _ files

theorem fresh_withController (e : State) : e.station? .client e.controllers.length = none := by
  unfold State.station?
  rw [List.getElem?_eq_none (Nat.le_refl _)]
  rfl

end HomeGateway.Engine

namespace HomeGateway.Bridge

open HomeGateway Engine

variable {s : Session} {e : State}

theorem servers_opened {k : Nat} {sv : Server} (h : (s.opened e).servers[k]? = some sv) :
    e.servers[k]? = some sv ∨ (k = e.servers.length ∧
      sv = .fresh (s.params.serverConfig s.clearNext)
        (e.readyStore (s.params.serverConfig s.clearNext)).2 (some e.aggregators.length)) := by
  rcases Nat.lt_trichotomy k e.servers.length with lt | rfl | gt
  · unfold Session.opened at h
    rw [List.getElem?_append_left lt] at h
    exact .inl h
  · unfold Session.opened at h
    rw [List.getElem?_concat_length] at h
    exact .inr ⟨rfl, (Option.some.inj h).symm⟩
  · have lt := (List.getElem?_eq_some_iff.1 h).1
    have : (s.opened e).servers.length = e.servers.length + 1 := List.length_append
    omega

theorem inOrder_opened (h : e.InOrder) (s : Session) : (s.opened e).InOrder where
  stored := by
    obtain ⟨ready, -, keys⟩ := readyStore_spec (s.params.serverConfig s.clearNext) e
    intro k sv hk
    rcases servers_opened hk with old | ⟨-, rfl⟩
    · obtain ⟨st, hst, name⟩ := Option.map_eq_some_iff.1 (h.stored k sv old)
      have key := congrArg (Option.map StoreKey.id) (keys _ st hst)
      rw [Option.map_map] at key
      rw [← name]
      exact key
    · have key := congrArg (Option.map StoreKey.id) ready
      rw [Option.map_map] at key
      exact key
  joined := by
    intro k sv a hk ha
    have length : (s.opened e).aggregators.length = e.aggregators.length + 1 := List.length_append
    rcases servers_opened hk with old | ⟨-, rfl⟩
    · have := h.joined k sv a old ha
      omega
    · have : e.aggregators.length = a := Option.some.inj ha
      omega
  apart := by
    intro k k' sv sv' a hk hk' ha ha'
    rcases servers_opened hk with old | ⟨rfl, rfl⟩
    · rcases servers_opened hk' with old' | ⟨rfl, rfl⟩
      · exact h.apart k k' sv sv' a old old' ha ha'
      · have lt := h.joined k sv a old ha
        have : e.aggregators.length = a := Option.some.inj ha'
        omega
    · rcases servers_opened hk' with old' | ⟨rfl, rfl⟩
      · have lt := h.joined k' sv' a old' ha'
        have : e.aggregators.length = a := Option.some.inj ha
        omega
      · rfl
  filed := h.filed

/-- A session opens a server node of its own. -/
theorem sets_opened (h : e.InOrder) (s : Session) :
    e.Sets s.params.identity e.servers.length false (s.opened e) where
  station := by
    intro role k
    cases role with
    | client =>
      rw [if_neg (by rintro ⟨⟨⟩, -⟩)]
      rfl
    | bridge =>
      show (((e.servers ++ [_] : List Server))[k]?).map _ = _
      by_cases new : k = e.servers.length
      · subst new
        rw [if_pos ⟨rfl, rfl⟩, List.getElem?_concat_length]
        rfl
      · rw [if_neg fun both => new both.2]
        rcases Nat.lt_or_gt_of_ne new with lt | gt
        · rw [List.getElem?_append_left lt]
          rfl
        · show _ = (e.servers[k]?).map _
          rw [List.getElem?_eq_none (by rw [List.length_append, List.length_singleton]; omega),
            List.getElem?_eq_none (by omega)]
  order := inOrder_opened h s
  spares := by
    obtain ⟨-, others, -⟩ := readyStore_spec (s.params.serverConfig s.clearNext) e
    refine ⟨rfl, rfl, rfl, ⟨rfl, rfl⟩, rfl, ?_, fun _ _ hc _ => ⟨hc, rfl⟩⟩
    intro k sv hk other
    obtain ⟨st, hst, name⟩ := Option.map_eq_some_iff.1 (h.stored k sv hk)
    refine ⟨?_, ?_, ?_⟩
    · show (e.servers ++ [_])[k]? = _
      rw [List.getElem?_append_left (List.getElem?_eq_some_iff.1 hk).1]
      exact hk
    · rw [hst]
      refine others _ st hst fun same => other ?_
      rw [← name, same]
      rfl
    · intro a ha
      show (e.aggregators ++ [_])[a]? = _
      rw [List.getElem?_append_left (h.joined k sv a hk ha)]

theorem fresh_opened (e : State) : e.station? .bridge e.servers.length = none := by
  unfold State.station?
  rw [List.getElem?_eq_none (Nat.le_refl _)]
  rfl

end HomeGateway.Bridge
