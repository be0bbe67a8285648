/-
  What is told of a node.

  An event says which node it is about; some say how the connection to the node
  is from now on, others which value an attribute has from now on.  A step of a
  node tells all of this: whoever followed the connection and the attributes of
  the node by its events can go on doing so.

  * `lastState?`, `Mirror.replay`: what can be known from events;
  * `Node.Tells`: a step and what is told of it agree;
  * `tells_link`, `tells_report` and so on: the steps of a node.
-/
import HomeGateway.Proofs.Nodes
import HomeGateway.Proofs.Readings

namespace HomeGateway

open Engine Json

/-! ## Events about nodes -/

namespace Event

/-- The node that an event is about. -/
def node? (e : Event) : Option Nat := do
  let v ← e.data
  natField "nodeId" ((v.get? "path").getD v)

/-- The node whose connection an event tells of, and how it is. -/
def state? (e : Event) : Option (Nat × NodeState) :=
  if e.kind = EventKind.nodeStateInformation.name then do
    let v ← e.data
    return (← natField "nodeId" v, ← v.get? "state" >>= NodeState.ofJson?)
  else none

/-- The change of an attribute that an event reports. -/
def change? (e : Event) : Option AttributeReport :=
  if e.kind = EventKind.attributeChanged.name then e.data >>= AttributeReport.ofJson? else none

end Event

/-- The last state of the connection to a node that events tell of. -/
def lastState? (id : Nat) (es : List Event) : Option NodeState :=
  es.reverse.findSome? fun e =>
    e.state?.bind fun told => if told.1 = id then some told.2 else none

/-- The attributes of a node, by the number of the endpoint, the id of the cluster and the name. -/
abbrev Mirror := Nat → Nat → String → Option (Option Json)

namespace Mirror

/-- An attribute has another value. -/
def set (m : Mirror) (p : Place) (v : Json) : Mirror := fun number cluster attr =>
  if number = p.endpointId ∧ cluster = p.clusterId ∧ attr = p.name then some (some v)
  else m number cluster attr

/-- The attributes of a node after an event. -/
def hear (id : Nat) (m : Mirror) (e : Event) : Mirror :=
  match e.change? with
  | some r => if r.path.nodeId = some id then m.set r.path r.value else m
  | none => m

/-- The attributes of a node after several events. -/
def replay (id : Nat) (m : Mirror) (es : List Event) : Mirror :=
  es.foldl (hear id) m

end Mirror

theorem lastState?_append (id : Nat) (es es' : List Event) :
    lastState? id (es ++ es') = (lastState? id es').or (lastState? id es) := by
  simp [lastState?, List.reverse_append, List.findSome?_append]

namespace Engine.News

/-- The node that news are about. -/
def node : News → Nat
  | .attributeChanged n _ | .eventTriggered n _ | .stateChanged n _ => n

@[simp] theorem nat?_ofNat (n : Nat) : nat? (ofNat n) = some n := rfl

theorem get?_nodeId (nameField : String) (n : Nat) (p : Place) :
    natField "nodeId" ((named n p).toJson nameField) = some n := by
  simp [natField, Place.toJson, named, ofPairs, Fields.ofList, Json.get?,
    Fields.get?_insert_self]

@[simp] theorem node?_event (w : News) : w.event.node? = some w.node := by
  cases w with
  | attributeChanged n r => exact get?_nodeId _ n r.path
  | eventTriggered n r => exact get?_nodeId _ n r.path
  | stateChanged n s => rfl

@[simp] theorem state?_attributeChanged (n : Nat) (r : AttributeReport) :
    (News.attributeChanged n r).event.state? = none := rfl

@[simp] theorem state?_eventTriggered (n : Nat) (r : EventReport) :
    (News.eventTriggered n r).event.state? = none := rfl

@[simp] theorem state?_stateChanged (n : Nat) (s : NodeState) :
    (News.stateChanged n s).event.state? = some (n, s) := by
  cases s <;> rfl

@[simp] theorem change?_attributeChanged (n : Nat) (r : AttributeReport) :
    (News.attributeChanged n r).event.change? = some { r with path := named n r.path } := by
  show AttributeReport.ofJson? (AttributeReport.toJson _) = _
  simp [AttributeReport.ofJson?, AttributeReport.toJson, Place.ofJson?, Place.toJson, named,
    ofPairs, Fields.ofList, Json.get?, natField, textField, Fields.get?, Fields.get?_insert_self,
    Fields.get?_insert_of_ne, AttributeReport.nameField, text?]

@[simp] theorem change?_eventTriggered (n : Nat) (r : EventReport) :
    (News.eventTriggered n r).event.change? = none := rfl

@[simp] theorem change?_stateChanged (n : Nat) (s : NodeState) :
    (News.stateChanged n s).event.change? = none := rfl

theorem node_of_state? {w : News} {id : Nat} {s : NodeState}
    (h : w.event.state? = some (id, s)) : w.node = id := by
  cases w with
  | stateChanged n s' =>
    rw [state?_stateChanged] at h
    cases h
    rfl
  | attributeChanged | eventTriggered => cases h

end Engine.News

namespace Engine

theorem lastState?_other {id : Nat} {ws : List News} (h : ∀ w ∈ ws, w.node ≠ id) :
    lastState? id (ws.map News.event) = none := by
  rw [lastState?, List.findSome?_eq_none_iff]
  intro e he
  obtain ⟨w, hw, rfl⟩ := List.mem_map.1 (List.mem_reverse.1 he)
  have other := h w hw
  cases w with
  | attributeChanged | eventTriggered => rfl
  | stateChanged n s =>
    rw [News.state?_stateChanged]
    exact if_neg other

theorem replay_other {id : Nat} {ws : List News} (h : ∀ w ∈ ws, w.node ≠ id) (m : Mirror) :
    m.replay id (ws.map News.event) = m := by
  induction ws with
  | nil => rfl
  | cons w ws ih =>
    have same : m.hear id w.event = m := by
      have other := h w List.mem_cons_self
      cases w with
      | eventTriggered | stateChanged => simp [Mirror.hear]
      | attributeChanged n r => simp [Mirror.hear, named, show n ≠ id from other]
    rw [List.map_cons, Mirror.replay, List.foldl_cons, same]
    exact ih fun w hw => h w (List.mem_cons_of_mem _ hw)

/-! ## Steps of nodes -/

/-- Whether there is a session, after the last state that was told, if there was one. -/
def linkedAfter (before : Bool) : Option NodeState → Bool
  | some s => s = .connected
  | none => before

/-- A step of a node that stays, and what is told of it. -/
structure Node.Tells (n : Node) (step : Node.Step) : Prop where
  frame : step.1.frame = n.frame
  listener : step.1.listener = n.listener
  about : ∀ w ∈ step.2, w.node = n.id
  stays : ∀ w ∈ step.2, w.event.state? ≠ some (n.id, .decommissioned)
  connected : step.1.connected =
    linkedAfter n.connected (lastState? n.id (step.2.map News.event))
  plan : step.1.root.plan = n.root.plan
  values : n.root.Distinct →
    step.1.root.reading = Mirror.replay n.id n.root.reading (step.2.map News.event)

namespace Node

variable {n n' : Node}

theorem Tells.id (h : n.Tells (n', ws)) : n'.id = n.id :=
  show n'.frame.id = n.frame.id from congrArg Node.id h.frame

/-- One step after the other. -/
theorem Tells.trans {ws : List News} {step : Node.Step} (h : n.Tells (n', ws))
    (h' : n'.Tells step) : n.Tells (step.1, ws ++ step.2) where
  frame := h'.frame.trans h.frame
  listener := h'.listener.trans h.listener
  about := List.forall_mem_append.2 ⟨h.about, h.id ▸ h'.about⟩
  stays := List.forall_mem_append.2 ⟨h.stays, h.id ▸ h'.stays⟩
  connected := by
    have last := h'.connected
    rw [h.connected, h.id] at last
    rw [last, List.map_append, lastState?_append]
    cases lastState? n.id (step.2.map News.event) <;> rfl
  plan := h'.plan.trans h.plan
  values := by
    intro distinct
    rw [h'.values (distinct.of_plan h.plan), h.values distinct, h.id, List.map_append,
      Mirror.replay, Mirror.replay, Mirror.replay, List.foldl_append]

/-- A step that nothing is told of. -/
theorem tells_nothing (frame : n'.frame = n.frame) (listener : n'.listener = n.listener)
    (connected : n'.connected = n.connected) (plan : n'.root.plan = n.root.plan)
    (values : n.root.Distinct → n'.root.reading = n.root.reading) : n.Tells (n', []) where
  frame := frame
  listener := listener
  about := List.forall_mem_nil _
  stays := List.forall_mem_nil _
  connected := connected
  plan := plan
  values := values

theorem tells_quiet (n : Node) : n.Tells n.quiet :=
  tells_nothing rfl rfl rfl rfl fun _ => rfl

/-- A step that makes nothing known but the state of the connection. -/
theorem tells_state {s : NodeState} (frame : n'.frame = n.frame)
    (listener : n'.listener = n.listener) (root : n'.root = n.root)
    (connected : n'.connected = decide (s = .connected))
    (stays : s ≠ .decommissioned) : n.Tells (n', [.stateChanged n.id s]) where
  frame := frame
  listener := listener
  about := by simp [News.node]
  stays := by simp [stays]
  connected := by simp [lastState?, linkedAfter, connected]
  plan := by rw [root]
  values := by
    intro
    simp [root, Mirror.replay, Mirror.hear]

theorem tells_link (b : Bool) (n : Node) : n.Tells (n.link b) := by
  cases b <;> exact tells_state rfl rfl rfl rfl (by decide)

theorem tells_connect (n : Node) : n.Tells n.connect := by
  unfold connect
  split
  · exact tells_quiet n
  · exact tells_link true n

theorem tells_reconnect (n : Node) : n.Tells n.reconnect := by
  have announced : n.Tells ({ n with connected := false }, [.stateChanged n.id .reconnecting]) :=
    tells_state rfl rfl rfl rfl (by decide)
  exact announced.trans (tells_link true _)

/-- What needs a session is done in one. -/
theorem of_ensured {α : Type} {f : Unit → Except EngineError α} {a : α}
    (h : n.ensureConnected >>= f = .ok a) : n.connected = true ∧ f () = .ok a := by
  unfold ensureConnected at h
  split at h
  · rename_i connected
    exact ⟨connected, h⟩
  · cases h

theorem tells_disconnect {step : Node.Step} (h : n.disconnect = .ok step) : n.Tells step := by
  obtain ⟨-, run⟩ := of_ensured h
  cases run
  exact tells_link false n

theorem tells_openBasicWindow {timeout : Nat} {step : Node.Step}
    (h : n.openBasicWindow timeout = .ok step) : n.Tells step := by
  obtain ⟨-, run⟩ := of_ensured h
  cases run
  exact tells_nothing rfl rfl rfl rfl fun _ => rfl

theorem tells_removeFabric {index : Nat} {step : Node.Step}
    (h : n.removeFabric index = .ok step) : n.Tells step := by
  obtain ⟨-, run⟩ := of_ensured h
  dsimp only at run
  split at run
  · cases run
  · cases run
    exact tells_nothing rfl rfl rfl rfl fun _ => rfl

/-! ### Clusters -/

/-- A cluster of a node, as it is found. -/
structure Has (n : Node) (endpoint : Nat) (c : Cluster) : Prop where
  found : ∃ x, n.root.lookup? endpoint = some x ∧ x.cluster? c.name = some c

variable {endpoint : Nat} {c : Cluster}

/-- A cluster that is found by its name is found by its id. -/
theorem Has.reading (h : n.Has endpoint c) (distinct : n.root.Distinct) (attr : String) :
    n.root.reading endpoint c.id attr = c.read? attr := by
  obtain ⟨x, hx, hc⟩ := h.found
  have there := (RemoteEndpoint.lookup?_mem hx).1
  have own := find?_apart (distinct.ids x there) (List.mem_of_find?_eq_some hc)
  simp [RemoteEndpoint.reading, hx, own]

/-- The change of a cluster changes what is read of it. -/
theorem Has.change (h : n.Has endpoint c) (distinct : n.root.Distinct) {f : Cluster → Cluster}
    (same : (f c).id = c.id) (number id : Nat) (attr : String) :
    (n.root.change endpoint c.name f).reading number id attr =
      if number = endpoint ∧ id = c.id then (f c).read? attr
      else n.root.reading number id attr := by
  obtain ⟨x, hx, hc⟩ := h.found
  exact RemoteEndpoint.reading_change hx hc (distinct.ids x (RemoteEndpoint.lookup?_mem hx).1) same
    number id attr

theorem tells_report (h : n.Has endpoint c) (attr : String) (value : Json) :
    n.Tells (n.report endpoint c attr value) where
  frame := rfl
  listener := rfl
  about := by simp [report, News.node]
  stays := by simp [report]
  connected := by simp [report, lastState?, linkedAfter]
  plan := RemoteEndpoint.plan_change (f := (·.store attr value)) (fun _ => ⟨rfl, rfl⟩) n.root
  values := by
    intro distinct
    funext number id name
    have changed := h.change distinct (f := (·.store attr value)) rfl number id name
    simp only [report, changed, Mirror.replay, List.map_cons, List.map_nil,
      List.foldl_cons, List.foldl_nil, Mirror.hear, News.change?_attributeChanged, named, if_true,
      Mirror.set, reported]
    by_cases here : number = endpoint ∧ id = c.id
    · obtain ⟨rfl, rfl⟩ := here
      by_cases own : name = attr
      · simp [own, Cluster.read?_store_self]
      · simp [own, Cluster.read?_store_of_ne c value own, h.reading distinct]
    · rw [if_neg here, if_neg fun all => here ⟨all.1, all.2.1⟩]

theorem tells_emit (event : String) (payload : Json) :
    n.Tells (n.emit endpoint c event payload) where
  frame := rfl
  listener := rfl
  about := by simp [emit, News.node]
  stays := by simp [emit]
  connected := by simp [emit, lastState?, linkedAfter]
  plan := rfl
  values := by
    intro
    simp [emit, Mirror.replay, Mirror.hear]

theorem tells_writeAttribute (h : n.Has endpoint c) {attr : String} {value : Json}
    {step : Node.Step} (run : n.writeAttribute endpoint c attr value = .ok step) :
    n.Tells step := by
  obtain ⟨-, run⟩ := of_ensured run
  cases known : c.read? attr with
  | none =>
    rw [known] at run
    cases run
  | some v =>
    rw [known] at run
    cases run
    exact tells_report h attr value

theorem tells_invoke (h : n.Has endpoint c) {command : String} {args : Json} {step : Node.Step}
    (run : n.invoke endpoint c command args = .ok step) : n.Tells step := by
  obtain ⟨-, run⟩ := of_ensured run
  cases run
  refine tells_nothing rfl rfl rfl
    (RemoteEndpoint.plan_change (f := (·.note command args)) (fun _ => ⟨rfl, rfl⟩) n.root) ?_
  intro distinct
  funext number id attr
  refine (h.change distinct (f := (·.note command args)) rfl number id attr).trans ?_
  split
  · rename_i here
    rw [here.1, here.2, h.reading distinct]
    rfl
  · rfl

end Node

end Engine

end HomeGateway
