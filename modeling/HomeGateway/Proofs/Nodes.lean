/-
  Devices and nodes: what requests do to them.

  A device becomes a node when it is paired, and a node goes when it is removed.
  Nothing else moves a device or a node; whatever else a client asks for leaves
  every node the one it was, in its place.

  * `idle_perform`: what a client asks for, apart from pairing and removing;
  * `run_listNodes`, `run_pairNode`, `run_removeNode`: what a session with a controller does.
-/
import HomeGateway.Proofs.Errands

namespace HomeGateway.Engine

open HomeGateway

variable {α σ : Type}

/-! ## What stays of a node -/

/-- A node without what can change while it stays. -/
def Node.frame (n : Node) : Node :=
  { n with root := .mk 0 [] [], fabrics := [], window := none, connected := false,
           listener := .recorder }

/-- A store with the frames of its nodes. -/
def ControllerStore.frame (st : ControllerStore) : ControllerStore :=
  { st with nodes := st.nodes.map Node.frame }

/-- The nodes of each store have different ids. -/
def State.Apart (e : State) : Prop :=
  ∀ st ∈ e.controllerStores, (st.nodes.map (·.id)).Nodup

/-- No device and no node comes or goes. -/
structure State.Unmoved (e e' : State) : Prop where
  /-- the devices that can be paired -/
  devices : e'.devices = e.devices
  /-- the controllers -/
  controllers : e'.controllers = e.controllers
  /-- the nodes in their stores -/
  stores : e'.controllerStores.map ControllerStore.frame = e.controllerStores.map .frame
  /-- no fault is armed -/
  faults : e.faults = [] → e'.faults = []

namespace State.Unmoved

variable {e e' e'' : State}

theorem refl (e : State) : e.Unmoved e :=
  ⟨rfl, rfl, rfl, id⟩

theorem trans (h : e.Unmoved e') (h' : e'.Unmoved e'') : e.Unmoved e'' :=
  ⟨h'.devices.trans h.devices, h'.controllers.trans h.controllers, h'.stores.trans h.stores,
    fun none => h'.faults (h.faults none)⟩

end State.Unmoved

theorem key_of_frame {st st' : ControllerStore} (h : st'.frame = st.frame) : st'.key = st.key :=
  show st'.frame.key = st.frame.key from congrArg ControllerStore.key h

theorem ids_of_frame {st st' : ControllerStore} (h : st'.frame = st.frame) :
    st'.nodes.map (·.id) = st.nodes.map (·.id) := by
  have nodes : st'.nodes.map Node.frame = st.nodes.map Node.frame :=
    congrArg ControllerStore.nodes h
  have ids := congrArg (List.map Node.id) nodes
  rwa [List.map_map, List.map_map] at ids

theorem State.Apart.unmoved {e e' : State} (apart : e.Apart) (h : e.Unmoved e') : e'.Apart := by
  intro st' hst'
  obtain ⟨k, hk⟩ := List.mem_iff_getElem?.1 hst'
  obtain ⟨st, hst, same⟩ := getElem?_of_map_eq h.stores hk
  rw [ids_of_frame same]
  exact apart st (List.mem_of_getElem? hst)

/-- The same, in an engine that tells its nodes apart. -/
def State.Idle (e e' : State) : Prop :=
  e.Apart → e.Unmoved e'

instance : IsPreorder State State.Idle where
  refl e _ := .refl e
  trans _ _ _ h h' apart := (h apart).trans (h' (apart.unmoved (h apart)))

/-- A user that keeps its own state, and an engine in which nothing moves. -/
def Idle (p q : σ × State) : Prop :=
  q.1 = p.1 ∧ p.2.Idle q.2

instance : IsPreorder (σ × State) Idle where
  refl p := ⟨rfl, refl_of State.Idle p.2⟩
  trans _ _ _ h h' := ⟨h'.1.trans h.1, trans_of State.Idle h.2 h'.2⟩

theorem idle_engine {a : Act α} (h : a.Within State.Idle) : (Use.engine a : Use σ α).Within Idle :=
  fun p => ⟨rfl, h p.2⟩

/-! ## Actions that move nothing -/

theorem idle_trip (spot : Spot) : (trip spot).Within State.Idle := by
  intro e _
  simp only [trip, Act.run_bind, Act.run_get]
  cases e.faults.find? (·.1 = spot) with
  | none => exact .refl e
  | some armed => exact ⟨rfl, rfl, rfl, fun none => congrArg (List.filter _) none⟩

theorem frame_put {st : ControllerStore} (apart : (st.nodes.map (·.id)).Nodup) {n n' : Node}
    (hn : n ∈ st.nodes) (same : n'.frame = n.frame) : (st.put n').frame = st.frame := by
  have id : n'.frame.id = n.frame.id := congrArg Node.id same
  unfold ControllerStore.frame ControllerStore.put
  congr 1
  rw [List.map_map]
  refine List.map_congr_left fun x hx => ?_
  show (if x.id = n'.id then n' else x).frame = _
  split
  · rename_i own
    rw [List.inj_on_of_nodup_map apart hx hn (own.trans id), same]
  · rfl

theorem unmoved_settle {e : State} (apart : e.Apart) {r : NodeRef} {n : Node} {step : Node.Step}
    (there : ∃ st, e.controllerStores[r.store]? = some st ∧ n ∈ st.nodes)
    (same : step.1.frame = n.frame) : e.Unmoved (settle r step e).2 := by
  obtain ⟨st, hst, hn⟩ := there
  refine ⟨rfl, rfl, ?_, id⟩
  show (e.controllerStores.modify r.store _).map _ = _
  ext k st' : 2
  rw [List.getElem?_map, List.getElem?_map, List.getElem?_modify]
  split
  · rename_i own
    subst own
    rw [hst]
    show some _ = some st' ↔ some _ = some st'
    rw [frame_put (apart st (List.mem_of_getElem? hst)) hn same]
  · simp only [Option.map_eq_map, Option.map_id']

theorem mem_of_held? {e : State} {r : NodeRef} {n : Node} (h : e.held? r = some n) :
    ∃ st, e.controllerStores[r.store]? = some st ∧ n ∈ st.nodes := by
  obtain ⟨st, hst, found⟩ := Option.bind_eq_some_iff.1 h
  exact ⟨st, hst, List.mem_of_find?_eq_some found⟩

/-- A node that was not removed, in its store. -/
theorem mem_of_node? {e : State} {r : NodeRef} {n : Node} (h : e.node? r = some n) :
    ∃ st, e.controllerStores[r.store]? = some st ∧ n ∈ st.nodes ∧ n.removed = false ∧
      n.id = r.id := by
  obtain ⟨st, hst, found⟩ := Option.bind_eq_some_iff.1 h
  obtain ⟨there, kept⟩ := List.mem_filter.1 (List.mem_of_find?_eq_some found)
  exact ⟨st, hst, there, by simpa using kept, by simpa using List.find?_some found⟩

/-- Whatever comes of a node is the same node. -/
def Node.Keeps (n : Node) (outcome : Except EngineError Node.Step) : Prop :=
  ∀ step, outcome = .ok step → step.1.frame = n.frame

namespace Node.Keeps

variable {n : Node}

theorem ok {step : Node.Step} (h : step.1.frame = n.frame) : n.Keeps (.ok step) := by
  intro step' run
  cases run
  exact h

theorem error (e : EngineError) : n.Keeps (.error e) :=
  fun _ run => nomatch run

theorem bind {x : Except EngineError α} {f : α → Except EngineError Node.Step}
    (h : ∀ a, n.Keeps (f a)) : n.Keeps (x >>= f) := by
  cases x with
  | error e => exact error e
  | ok a => exact h a

end Node.Keeps

theorem idle_onNode (r : NodeRef) {f : Node → Except EngineError Node.Step}
    (keeps : ∀ n, Node.Keeps n (f n)) : (onNode r f).Within State.Idle := by
  intro e apart
  simp only [onNode, theNode, Act.run_bind, Act.run_get]
  cases held : e.held? r with
  | none => exact .refl e
  | some n =>
    simp only [Act.run_pure]
    cases run : f n with
    | error failure => exact .refl e
    | ok step => exact unmoved_settle apart (mem_of_held? held) (keeps n step run)

theorem idle_askNode (r : NodeRef) (f : Node → Except EngineError α) :
    (askNode r f).Within State.Idle := by
  refine .bind (.get_bind fun e => ?_) fun n => .ofExcept _
  cases e.held? r with
  | none => exact refl_of State.Idle e
  | some n => exact refl_of State.Idle e

theorem idle_theController (c : Nat) : (theController c).Within State.Idle := by
  refine .get_bind fun e => ?_
  cases e.controllers[c]? with
  | none => exact refl_of State.Idle e
  | some controller => exact refl_of State.Idle e

theorem idle_openController (c : Nat) : (openController c).Within State.Idle := by
  refine .bind (idle_theController c) fun controller => ?_
  cases controller.closed with
  | true => exact .bind (.fail _) fun _ => .pure _
  | false => exact .pure _

theorem frame_connect (n : Node) : n.connect.1.frame = n.frame := by
  unfold Node.connect
  split <;> rfl

theorem idle_connectNode (c id : Nat) : (connectNode c id).Within State.Idle := by
  refine .bind (idle_trip _) fun _ => .bind (idle_openController c) fun controller =>
    .get_bind fun e apart => ?_
  cases found : e.node? ⟨controller.store, id⟩ with
  | none => exact .refl e
  | some n =>
    obtain ⟨st, hst, there, -⟩ := mem_of_node? found
    exact unmoved_settle apart ⟨st, hst, there⟩ (frame_connect n)

theorem idle_commissionedNodes (c : Nat) : (commissionedNodes c).Within State.Idle :=
  .bind (idle_openController c) fun _ => .get_bind fun e => refl_of State.Idle e

theorem idle_sessions (c : Nat) : (sessions c).Within State.Idle :=
  .bind (idle_theController c) fun _ => .get_bind fun e => refl_of State.Idle e

/-! ## Desks -/

/-- An open controller and its store. -/
structure State.Desk (k : Nat) (c : Controller) (st : ControllerStore) (e : State) : Prop where
  /-- the controller -/
  controller : e.controllers[k]? = some c
  /-- it is open -/
  opened : c.closed = false
  /-- its store -/
  store : e.controllerStores[c.store]? = some st

/-- The engine with another store in the place of a controller's, after something was told. -/
def State.putStore (c : Controller) (st : ControllerStore) (entries : Journal) (e : State) :
    State :=
  { e with
    controllerStores := e.controllerStores.set c.store st
    journal := e.journal ++ entries }

/-- The node that a device becomes. -/
def Device.node (c : Controller) (st : ControllerStore) (d : Device) : Node :=
  ((Node.ofDevice st.nextId c.listener d).link true).1

/-- A store with a node more. -/
def ControllerStore.joined (n : Node) (st : ControllerStore) : ControllerStore :=
  { st with nodes := st.nodes ++ [n], nextId := st.nextId + 1 }

section

variable {k : Nat} {c : Controller} {st : ControllerStore} {e : State}

theorem run_openController (h : e.Desk k c st) : openController k e = (.ok c, e) := by
  simp [openController, theController, h.controller, h.opened]

theorem run_commissionedNodes (h : e.Desk k c st) :
    commissionedNodes k e = (.ok (st.kept.map (·.id)), e) := by
  simp [commissionedNodes, run_openController h, h.store]

theorem modify_store (h : e.Desk k c st) (f : ControllerStore → ControllerStore) :
    e.controllerStores.modify c.store f = e.controllerStores.set c.store (f st) := by
  rw [List.modify_eq_set_getElem?, h.store]
  rfl

theorem run_settle (h : e.Desk k c st) (id : Nat) (step : Node.Step) :
    settle ⟨c.store, id⟩ step e =
      (.ok (), e.putStore c (st.put step.1) (step.2.map step.1.listener.entry)) := by
  simp only [settle, Act.run_bind, Act.run_modify, run_tell, State.changeStore, modify_store h]
  rfl

/-- The node of an id at a desk. -/
theorem node?_desk (h : e.Desk k c st) (id : Nat) :
    e.node? ⟨c.store, id⟩ = st.kept.find? (·.id = id) := by
  simp [State.node?, h.store]

theorem run_removeNode (h : e.Desk k c st) (id : Nat) :
    removeNode k id e = match st.kept.find? (·.id = id) with
      | none => (.error (.failed (.engine (.nodeNotFound id))), e)
      | some n =>
        (.ok (), e.putStore c (st.put n.remove.1) (n.remove.2.map n.listener.entry)) := by
  simp only [removeNode, Act.run_bind, run_openController h, Act.run_get, node?_desk h]
  cases st.kept.find? (·.id = id) with
  | none => rfl
  | some n => exact run_settle h id n.remove

theorem run_commissionNode_refused (h : e.Desk k c st) (faults : e.faults = [])
    {r : Pairing.Request} {f : EngineError} (none : Device.find? r e.devices = .error f) :
    commissionNode k r e = (.error (.failed (.engine f)), e) := by
  simp only [commissionNode, Act.run_bind, run_trip faults, run_openController h, Act.run_get, none]
  rfl

/-- A node that comes last takes the place of no other. -/
theorem put_joined {n n' : Node} (id : n'.id = n.id) (fresh : ∀ x ∈ st.nodes, x.id ≠ n.id) :
    (st.joined n).put n' = st.joined n' := by
  have kept : st.nodes.map (fun x => if x.id = n'.id then n' else x) = st.nodes :=
    (List.map_congr_left fun x hx => if_neg (id ▸ fresh x hx)).trans (List.map_id' _)
  unfold ControllerStore.put ControllerStore.joined
  congr 1
  rw [List.map_append, kept]
  congr 1
  rw [List.map_singleton, if_pos id.symm]

theorem run_commissionNode (h : e.Desk k c st) (faults : e.faults = [])
    (fresh : ∀ x ∈ st.nodes, x.id ≠ st.nextId) {r : Pairing.Request} {d : Device}
    {others : List Device} (found : Device.find? r e.devices = .ok (d, others)) :
    commissionNode k r e =
      (.ok st.nextId, { e with devices := others }.putStore c (st.joined (d.node c st))
        [c.listener.entry (.stateChanged st.nextId .connected)]) := by
  have joined : { e with
      devices := others
      controllerStores := e.controllerStores.set c.store
        (st.joined (Node.ofDevice st.nextId c.listener d)) }.Desk k c
        (st.joined (Node.ofDevice st.nextId c.listener d)) :=
    ⟨h.controller, h.opened,
      List.getElem?_set_self (List.getElem?_eq_some_iff.1 h.store).1⟩
  simp only [commissionNode, Act.run_bind, run_trip faults, run_openController h, Act.run_get,
    found, Act.ofExcept, Act.run_pure, Act.run_modify, h.store, Option.map_some, Option.getD_some,
    State.changeStore, modify_store h]
  have settled := run_settle joined st.nextId ((Node.ofDevice st.nextId c.listener d).link true)
  have last : (st.joined (Node.ofDevice st.nextId c.listener d)).put (d.node c st) =
      st.joined (d.node c st) := put_joined rfl fresh
  rw [show ((Node.ofDevice st.nextId c.listener d).link true).1 = d.node c st from rfl, last]
    at settled
  unfold ControllerStore.joined at settled ⊢
  rw [settled]
  simp only [State.putStore, List.set_set]
  rfl

end

end HomeGateway.Engine

namespace HomeGateway.Client

open HomeGateway Engine

/-! ## Requests that move nothing -/

theorem idle_theController : theController.Within Idle := by
  refine .bind .own fun s => ?_
  cases s.controller with
  | none => exact .fail _
  | some c => exact .pure c

theorem idle_connected (id : Nat) : (connected id).Within Idle :=
  .bind idle_theController fun _ => idle_engine (idle_connectNode _ _)

theorem idle_atNode (id : Nat) {f : Node → Except EngineError Node.Step}
    (keeps : ∀ n, Node.Keeps n (f n)) : (atNode id f).Within Idle :=
  .bind (idle_connected id) fun _ => idle_engine (idle_onNode _ keeps)

theorem idle_ofNode {α : Type} (id : Nat) (f : Node → Except EngineError α) :
    (ofNode id f).Within Idle :=
  .bind (idle_connected id) fun _ => idle_engine (idle_askNode _ _)

theorem idle_silent {act : Doing Unit} (h : act.Within Idle) : (silent act).Within Idle :=
  .bind h fun _ => .pure _

theorem keeps_removeFabric (index : Nat) (n : Node) : n.Keeps (n.removeFabric index) := by
  refine .bind fun _ => ?_
  dsimp only
  split
  · exact .error _
  · exact .ok rfl

theorem keeps_writeAttribute (endpoint : Nat) (c : Cluster) (attr : String) (value : Json)
    (n : Node) : n.Keeps (n.writeAttribute endpoint c attr value) := by
  refine .bind fun _ => ?_
  cases c.read? attr with
  | none => exact .error _
  | some v => exact .ok rfl

theorem idle_reconnectNode (id : Nat) : (reconnectNode id).Within Idle := by
  have rest (c : Nat) : (do
      let r ← Use.engine (connectNode c id)
      Use.engine (onNode r fun n => .ok n.reconnect) : Doing Unit).Within Idle :=
    .bind (idle_engine (idle_connectNode c id)) fun r =>
      idle_engine (idle_onNode r fun _ => .ok rfl)
  unfold reconnectNode
  refine .bind idle_theController fun c =>
    .bind (idle_engine (idle_commissionedNodes c)) fun ids => ?_
  cases ids.contains id with
  | true => exact rest c
  | false => exact .bind (.fail _) fun _ => rest c

theorem idle_removeFabric (id index : Nat) : (removeFabric id index).Within Idle := by
  unfold removeFabric
  refine .bind (idle_connected id) fun r => .bind (idle_engine (idle_askNode _ _)) fun current => ?_
  have rest : (Use.engine (onNode r (·.removeFabric index)) : Doing Unit).Within Idle :=
    idle_engine (idle_onNode r (keeps_removeFabric index))
  by_cases own : current = index
  · rw [if_pos own]
    exact .bind (.fail _) fun _ => rest
  · rw [if_neg own]
    exact rest

/-- Whether something is paired or removed on request. -/
def Errand.Moves : Errand → Prop
  | .pair _ | .remove _ => True
  | _ => False

/-- Only pairing and removing move devices and nodes. -/
theorem idle_perform {a : Errand} (h : ¬a.Moves) : a.perform.Within Idle := by
  cases a with
  | pair | remove => exact absurd trivial h
  | list =>
    exact .bind idle_theController fun _ =>
      .bind (idle_engine (idle_commissionedNodes _)) fun _ => .pure _
  | view id => exact idle_ofNode id _
  | disconnect id => exact idle_silent (idle_atNode id fun _ => .bind fun _ => .ok rfl)
  | reconnect id => exact idle_silent (idle_reconnectNode id)
  | fabrics id => exact .bind (idle_ofNode id _) fun _ => .pure _
  | removeFabric id index => exact idle_silent (idle_removeFabric id index)
  | sessions =>
    exact .bind idle_theController fun _ => .bind (idle_engine (idle_sessions _)) fun _ => .pure _
  | basicWindow id timeout => exact idle_silent (idle_atNode id fun _ => .bind fun _ => .ok rfl)
  | enhancedWindow id timeout => exact .bind (idle_ofNode id _) fun _ => .pure _
  | command id endpoint cluster name args =>
    exact .bind (idle_atNode id fun _ => .bind fun _ => .bind fun _ => .ok rfl) fun _ => .pure _
  | write id endpoint cluster attr value =>
    exact idle_silent (idle_atNode id fun n =>
      .bind fun c => keeps_writeAttribute endpoint c attr value n)
  | read id endpoint cluster attr => exact .bind (idle_ofNode id _) fun _ => .pure _

end HomeGateway.Client
