/-
  What a request comes to.

  Most of what a client asks for is done with one node, which is first connected
  if it is not.  `Errand.task` says what is done with it, and `Task.outcome` what
  comes of that: a pure function of the devices that can be paired and of the
  store of the client's controller.

  * `tells_task`: whatever is done with a node, it tells;
  * `comes_outcome`: what a task can come to, case by case;
  * `run_perform`: a session with a controller does what its task comes to;
  * `moves_outcome`: the store then makes a move, and it is told of.
-/
import HomeGateway.Proofs.Custody
import HomeGateway.Proofs.Tidings

namespace HomeGateway

open Engine

namespace Engine

/-! ## Nodes in their place -/

section

variable {st : ControllerStore} {n n' : Node}

theorem put_put (st : ControllerStore) (same : n'.id = n.id) : (st.put n).put n' = st.put n' := by
  simp only [ControllerStore.put, List.map_map]
  congr 1
  refine List.map_congr_left fun x _ => ?_
  by_cases own : x.id = n.id <;> simp [own, same]

theorem find?_put (apart : (st.nodes.map (·.id)).Nodup) (hn : n ∈ st.nodes) (same : n'.id = n.id) :
    (st.put n').nodes.find? (·.id = n.id) = some n' := by
  have own : st.nodes.find? (fun x => decide ((if x.id = n.id then n' else x).id = n.id)) =
      some n := by
    refine (congrArg (st.nodes.find? ·) (funext fun x => ?_)).trans
      (find?_apart (f := Node.id) apart hn)
    by_cases here : x.id = n.id <;> simp [here, same]
  have moved : (some n).map (fun x => if x.id = n.id then n' else x) = some n' := by simp
  unfold ControllerStore.put
  rw [same, List.find?_map]
  exact (congrArg (Option.map _) own).trans moved

theorem put_own (apart : (st.nodes.map (·.id)).Nodup) (hn : n ∈ st.nodes) : st.put n = st := by
  have same : st.nodes.map (fun x => if x.id = n.id then n else x) = st.nodes := by
    refine (List.map_congr_left fun x hx => ?_).trans (List.map_id' _)
    split
    · rename_i own
      exact (List.inj_on_of_nodup_map apart hx hn own).symm
    · rfl
  unfold ControllerStore.put
  rw [same]

/-- A node that was not removed, found by its id. -/
theorem found_kept {id : Nat} (h : st.kept.find? (·.id = id) = some n) :
    n ∈ st.kept ∧ n ∈ st.nodes ∧ n.removed = false ∧ n.id = id := by
  have there := List.mem_of_find?_eq_some h
  obtain ⟨hn, kept⟩ := List.mem_filter.1 there
  exact ⟨there, hn, by simpa using kept, by simpa using List.find?_some h⟩

theorem find?_kept (apart : (st.nodes.map (·.id)).Nodup) (hn : n ∈ st.kept) :
    st.kept.find? (·.id = n.id) = some n :=
  find?_apart (f := Node.id) (apart.sublist (List.filter_sublist.map _)) hn

end

theorem connected_connect (n : Node) : n.connect.1.connected = true := by
  unfold Node.connect
  split
  · assumption
  · rfl

/-! ## Stirs -/

/-- What is made of the devices that can be paired and of one store, and what is told of it. -/
structure Stir where
  devices : List Device
  store : ControllerStore
  listener : Listener
  news : List News

/-- The engine after that. -/
def State.stirred (i : Nat) (w : Stir) (e : State) : State :=
  { e with
    devices := w.devices
    controllerStores := e.controllerStores.set i w.store
    journal := e.journal ++ w.news.map w.listener.entry }

section

variable {i : Nat} {st : ControllerStore} {e : State}

theorem stirred_still (hst : e.controllerStores[i]? = some st) (l : Listener) :
    e.stirred i ⟨e.devices, st, l, []⟩ = e := by
  obtain ⟨lt, rfl⟩ := List.getElem?_eq_some_iff.1 hst
  simp [State.stirred]

theorem stirred_stirred (i : Nat) (w w' : Stir) (e : State) (same : w'.listener = w.listener) :
    (e.stirred i w).stirred i w' = e.stirred i { w' with news := w.news ++ w'.news } := by
  simp [State.stirred, same]

theorem desk_stirred {k : Nat} {c : Controller} (h : e.Desk k c st) (w : Stir) :
    (e.stirred c.store w).Desk k c w.store :=
  ⟨h.controller, h.opened, List.getElem?_set_self (List.getElem?_eq_some_iff.1 h.store).1⟩

theorem settle_stirred (hst : e.controllerStores[i]? = some st) (id : Nat) (step : Node.Step) :
    settle ⟨i, id⟩ step e =
      (.ok (), e.stirred i ⟨e.devices, st.put step.1, step.1.listener, step.2⟩) := by
  simp only [settle, Act.run_bind, Act.run_modify, run_tell, State.changeStore,
    List.modify_eq_set_getElem?, hst]
  rfl

end

/-- The live sessions of a controller with the nodes of its store. -/
def ControllerStore.live (c : Controller) (st : ControllerStore) : List Json :=
  (st.kept.filter (·.connected)).map fun n => Json.ofPairs
    [ ("name", .str (c.id ++ "-" ++ Text.showNat n.id)),
      ("nodeId", .ofNat c.ownNode),
      ("peerNodeId", .ofNat n.id),
      ("isPeerActive", .bool true) ]

end Engine

/-! ## Tasks -/

namespace Client

/-- What a request asks a controller for. -/
inductive Task where
  /-- the ids of the nodes -/
  | list
  /-- the live sessions -/
  | sessions
  /-- a device is paired -/
  | pair (q : Pairing.Request)
  /-- a node is removed -/
  | remove (id : Nat)
  /-- a node is connected, and something is done with it -/
  | visit (id : Nat) (f : Node → Except Failure (Node.Step × Json))

/-- Do something with a node. -/
def doing (f : Node → Except EngineError Node.Step) (n : Node) :
    Except Failure (Node.Step × Json) :=
  match f n with
  | .ok step => .ok (step, .null)
  | .error e => .error (.engine e)

/-- Ask a node something. -/
def asking {α : Type} (f : Node → Except EngineError α) (answer : α → Json) (n : Node) :
    Except Failure (Node.Step × Json) :=
  match f n with
  | .ok v => .ok (n.quiet, answer v)
  | .error e => .error (.engine e)

/-- What is asked for, in terms of nodes. -/
def Errand.task : Errand → Task
  | .list => .list
  | .sessions => .sessions
  | .pair q => .pair q
  | .remove id => .remove id
  | .view id => .visit id (asking snapshot fun v => v)
  | .disconnect id => .visit id (doing (·.disconnect))
  | .reconnect id => .visit id (doing fun n => .ok n.reconnect)
  | .fabrics id => .visit id (asking (·.fabricTable) fun fabrics => .arr (fabrics.map (·.toJson)))
  | .removeFabric id index => .visit id fun n =>
    if n.ownIndex = index then .error .cannotRemoveOwnFabric else doing (·.removeFabric index) n
  | .basicWindow id timeout => .visit id (doing (·.openBasicWindow timeout))
  | .enhancedWindow id timeout => .visit id (asking (·.enhancedCodes timeout) (·.toJson))
  | .command id endpoint cluster name args => .visit id <| doing fun n => do
    n.invoke endpoint (← locate endpoint cluster n) name args
  | .write id endpoint cluster attr value => .visit id <| doing fun n => do
    n.writeAttribute endpoint (← locate endpoint cluster n) attr value
  | .read id endpoint cluster attr => .visit id <| asking (fun n => do
    n.readAttribute (← locate endpoint cluster n) attr) .ofOption

/-- What a task comes to: the answer, and what is made of devices and nodes. -/
def Task.outcome (c : Controller) (devices : List Device) (st : ControllerStore) :
    Task → Except Mishap Json × Stir
  | .list => (.ok (.arr ((st.kept.map (·.id)).map .ofNat)), ⟨devices, st, c.listener, []⟩)
  | .sessions => (.ok (.arr (st.live c)), ⟨devices, st, c.listener, []⟩)
  | .pair q =>
    match Device.find? q devices with
    | .error f => (.error (.failed (.engine f)), ⟨devices, st, c.listener, []⟩)
    | .ok (d, others) => (.ok (.ofNat st.nextId),
        ⟨others, st.joined (d.node c st), c.listener, [.stateChanged st.nextId .connected]⟩)
  | .remove id =>
    match st.kept.find? (·.id = id) with
    | none => (.error (.failed (.engine (.nodeNotFound id))), ⟨devices, st, c.listener, []⟩)
    | some n => (.ok .null, ⟨devices, st.put n.remove.1, n.listener, n.remove.2⟩)
  | .visit id f =>
    match st.kept.find? (·.id = id) with
    | none => (.error (.failed (.engine (.nodeNotFound id))), ⟨devices, st, c.listener, []⟩)
    | some n =>
      match f n.connect.1 with
      | .error m => (.error (.failed m), ⟨devices, st.put n.connect.1, n.listener, n.connect.2⟩)
      | .ok (step, v) =>
        (.ok v, ⟨devices, st.put step.1, n.listener, n.connect.2 ++ step.2⟩)

/-- What a task can come to. -/
inductive Task.Comes (c : Controller) (devices : List Device) (st : ControllerStore) :
    Task → Except Mishap Json × Stir → Prop where
  /-- nothing changes -/
  | still (t : Task) (answer : Except Mishap Json) :
    Comes c devices st t (answer, ⟨devices, st, c.listener, []⟩)
  /-- a device becomes a node -/
  | paired {q : Pairing.Request} {d : Device} {others : List Device}
    (found : Device.find? q devices = .ok (d, others)) :
    Comes c devices st (.pair q) (.ok (.ofNat st.nextId),
      ⟨others, st.joined (d.node c st), c.listener, [.stateChanged st.nextId .connected]⟩)
  /-- a node is removed -/
  | removed {id : Nat} {n : Node} (found : st.kept.find? (·.id = id) = some n) :
    Comes c devices st (.remove id)
      (.ok .null, ⟨devices, st.put n.remove.1, n.listener, n.remove.2⟩)
  /-- a node is connected, and what was to be done with it is refused -/
  | refused {id : Nat} {f : Node → Except Failure (Node.Step × Json)} {n : Node} {m : Failure}
    (found : st.kept.find? (·.id = id) = some n) (run : f n.connect.1 = .error m) :
    Comes c devices st (.visit id f)
      (.error (.failed m), ⟨devices, st.put n.connect.1, n.listener, n.connect.2⟩)
  /-- a node is connected, and something is done with it -/
  | done {id : Nat} {f : Node → Except Failure (Node.Step × Json)} {n : Node} {step : Node.Step}
    {v : Json} (found : st.kept.find? (·.id = id) = some n)
    (run : f n.connect.1 = .ok (step, v)) :
    Comes c devices st (.visit id f)
      (.ok v, ⟨devices, st.put step.1, n.listener, n.connect.2 ++ step.2⟩)

theorem comes_outcome (t : Task) (c : Controller) (devices : List Device) (st : ControllerStore) :
    t.Comes c devices st (t.outcome c devices st) := by
  cases t with
  | list | sessions => exact .still _ _
  | pair q =>
    rw [Task.outcome]
    cases found : Device.find? q devices with
    | error f => exact .still _ _
    | ok picked => exact .paired found
  | remove id =>
    rw [Task.outcome]
    cases found : st.kept.find? (·.id = id) with
    | none => exact .still _ _
    | some n => exact .removed found
  | visit id f =>
    rw [Task.outcome]
    cases found : st.kept.find? (·.id = id) with
    | none => exact .still _ _
    | some n =>
      dsimp only
      cases run : f n.connect.1 with
      | error m => exact .refused found run
      | ok done => exact .done found run

/-! ### What is done with a node -/

theorem has_of_locate {endpoint : Nat} {cluster : String} {n : Node} {c : Cluster}
    (h : locate endpoint cluster n = .ok c) : n.Has endpoint c ∧ c.name = cluster := by
  unfold locate at h
  cases hx : n.root.lookup? endpoint with
  | none =>
    rw [hx] at h
    cases h
  | some x =>
    cases hc : x.cluster? cluster with
    | none =>
      simp only [hx, hc] at h
      cases h
    | some c' =>
      simp only [hx, hc] at h
      cases h
      have name : c.name = cluster := by simpa using List.find?_some hc
      exact ⟨⟨x, hx, name ▸ hc⟩, name⟩

/-- Whatever is done with a node, it tells. -/
def Telling (f : Node → Except Failure (Node.Step × Json)) : Prop :=
  ∀ n step v, f n = .ok (step, v) → n.Tells step

theorem telling_doing {f : Node → Except EngineError Node.Step}
    (h : ∀ n step, f n = .ok step → n.Tells step) : Telling (doing f) := by
  intro n step v run
  unfold doing at run
  cases done : f n with
  | error e =>
    rw [done] at run
    cases run
  | ok step' =>
    rw [done] at run
    cases run
    exact h n step done

theorem telling_asking {α : Type} (f : Node → Except EngineError α) (answer : α → Json) :
    Telling (asking f answer) := by
  intro n step v run
  unfold asking at run
  cases told : f n with
  | error e =>
    rw [told] at run
    cases run
  | ok a =>
    rw [told] at run
    cases run
    exact n.tells_quiet

theorem telling_located {endpoint : Nat} {cluster : String}
    {f : Cluster → Node → Except EngineError Node.Step}
    (h : ∀ c n step, n.Has endpoint c → f c n = .ok step → n.Tells step) :
    Telling (doing fun n => do f (← locate endpoint cluster n) n) := by
  refine telling_doing fun n step run => ?_
  cases found : locate endpoint cluster n with
  | error e =>
    rw [found] at run
    cases run
  | ok c =>
    rw [found] at run
    exact h c n step (has_of_locate found).1 run

theorem tells_task {a : Errand} {id : Nat} {f : Node → Except Failure (Node.Step × Json)}
    (h : a.task = .visit id f) : Telling f := by
  cases a with
  | list | sessions | pair | remove => cases h
  | view | fabrics | enhancedWindow | read =>
    cases h
    exact telling_asking _ _
  | disconnect =>
    cases h
    exact telling_doing fun n step => Node.tells_disconnect
  | reconnect =>
    cases h
    refine telling_doing fun n step run => ?_
    cases run
    exact n.tells_reconnect
  | removeFabric id' index =>
    cases h
    intro n step v run
    dsimp only at run
    split at run
    · cases run
    · exact telling_doing (fun n step => Node.tells_removeFabric) n step v run
  | basicWindow id' timeout =>
    cases h
    exact telling_doing fun n step => Node.tells_openBasicWindow
  | command =>
    cases h
    exact telling_located fun c n step has => Node.tells_invoke has
  | write =>
    cases h
    exact telling_located fun c n step has => Node.tells_writeAttribute has

/-! ### Running a task -/

section

variable {s : Session} {k : Nat} {c : Controller} {st : ControllerStore} {e : State} {id : Nat}

theorem run_sessions (hs : s.controller = some k) (desk : e.Desk k c st) :
    sessionInformation (s, e) = (.ok (.arr (st.live c)), s, e) := by
  simp [sessionInformation, run_theController hs, sessions, Engine.theController, desk.controller,
    desk.store, ControllerStore.live]

theorem run_connected (hs : s.controller = some k) (desk : e.Desk k c st) (free : e.faults = [])
    (id : Nat) : connected id (s, e) = match st.kept.find? (·.id = id) with
      | none => (.error (.failed (.engine (.nodeNotFound id))), s, e)
      | some n => (.ok ⟨c.store, id⟩, s, e.stirred c.store
          ⟨e.devices, st.put n.connect.1, n.listener, n.connect.2⟩) := by
  simp only [connected, Use.run_bind, run_theController hs, Use.run_act, connectNode, Act.run_bind,
    run_trip free, run_openController desk, Act.run_get, node?_desk desk]
  cases st.kept.find? (·.id = id) with
  | none => rfl
  | some n =>
    simp only [Act.run_bind, settle_stirred desk.store, Act.run_pure, n.tells_connect.listener]

/-- A node after it was connected. -/
theorem held_connected (desk : e.Desk k c st) (apart : (st.nodes.map (·.id)).Nodup) {n : Node}
    (found : st.kept.find? (·.id = id) = some n) :
    (e.stirred c.store ⟨e.devices, st.put n.connect.1, n.listener, n.connect.2⟩).held?
      ⟨c.store, id⟩ = some n.connect.1 := by
  obtain ⟨-, hn, -, rfl⟩ := found_kept found
  simp only [State.held?, (desk_stirred desk _).store, Option.bind_some]
  exact find?_put apart hn n.tells_connect.id

/-- A visit that asks a node something. -/
theorem run_ofNode (hs : s.controller = some k) (desk : e.Desk k c st) (free : e.faults = [])
    (apart : (st.nodes.map (·.id)).Nodup) {α : Type} (f : Node → Except EngineError α)
    (answer : α → Json) : (do return answer (← ofNode id f) : Doing Json) (s, e) =
      (((Task.visit id (asking f answer)).outcome c e.devices st).1, s,
        e.stirred c.store ((Task.visit id (asking f answer)).outcome c e.devices st).2) := by
  simp only [ofNode, Use.run_bind, run_connected hs desk free]
  cases found : st.kept.find? (·.id = id) with
  | none => simp [Task.outcome, found, stirred_still desk.store]
  | some n =>
    simp only [Task.outcome, found, Use.run_act, askNode, theNode, Act.run_bind, Act.run_get,
      held_connected desk apart found, Act.run_pure]
    cases told : f n.connect.1 with
    | error m =>
      simp only [asking, told]
      rfl
    | ok v =>
      simp only [asking, told, Node.quiet, List.append_nil]
      rfl

/-- A node is connected, and something is done with it in its store. -/
theorem settle_connected (desk : e.Desk k c st) {n : Node} {step : Node.Step}
    (tells : n.connect.1.Tells step) :
    settle ⟨c.store, id⟩ step (e.stirred c.store
        ⟨e.devices, st.put n.connect.1, n.listener, n.connect.2⟩) =
      (.ok (), e.stirred c.store
        ⟨e.devices, st.put step.1, n.listener, n.connect.2 ++ step.2⟩) := by
  have listener := tells.listener.trans n.tells_connect.listener
  rw [settle_stirred (desk_stirred desk _).store, stirred_stirred _ _ _ _ listener]
  simp only [put_put st tells.id, listener, State.stirred]

/-- Something is done with a node after it was connected. -/
theorem run_done (desk : e.Desk k c st) (apart : (st.nodes.map (·.id)).Nodup) {n : Node}
    (found : st.kept.find? (·.id = id) = some n) {f : Node → Except EngineError Node.Step}
    (telling : Telling (doing f)) (s : Session) :
    silent (Use.engine (onNode ⟨c.store, id⟩ f)) (s, e.stirred c.store
        ⟨e.devices, st.put n.connect.1, n.listener, n.connect.2⟩) =
      (((Task.visit id (doing f)).outcome c e.devices st).1, s,
        e.stirred c.store ((Task.visit id (doing f)).outcome c e.devices st).2) := by
  simp only [silent, Task.outcome, found, Use.run_bind, Use.run_act, onNode, theNode, Act.run_bind,
    Act.run_get, held_connected desk apart found, Act.run_pure]
  cases done : f n.connect.1 with
  | error m =>
    simp only [doing, done]
    rfl
  | ok step =>
    have tells : n.connect.1.Tells step := telling _ _ .null (by simp only [doing, done])
    simp only [doing, done, Act.ofExcept, Act.run_pure, settle_connected desk tells]
    rfl

/-- A visit that does something with a node. -/
theorem run_atNode (hs : s.controller = some k) (desk : e.Desk k c st) (free : e.faults = [])
    (apart : (st.nodes.map (·.id)).Nodup) {f : Node → Except EngineError Node.Step}
    (telling : Telling (doing f)) : silent (atNode id f) (s, e) =
      (((Task.visit id (doing f)).outcome c e.devices st).1, s,
        e.stirred c.store ((Task.visit id (doing f)).outcome c e.devices st).2) := by
  cases found : st.kept.find? (·.id = id) with
  | none =>
    simp [silent, atNode, run_connected hs desk free, Task.outcome, found,
      stirred_still desk.store]
  | some n =>
    rw [← run_done desk apart found telling s]
    simp only [silent, atNode, Use.run_bind, run_connected hs desk free, found]

/-- Whether there is a node is looked up twice before it is connected again. -/
theorem run_reconnectNode (hs : s.controller = some k) (desk : e.Desk k c st)
    (free : e.faults = []) :
    silent (reconnectNode id) (s, e) = silent (atNode id fun n => .ok n.reconnect) (s, e) := by
  have again := run_connected hs desk free id
  simp only [silent, reconnectNode, atNode, Use.run_bind, again, run_theController hs, Use.run_act,
    run_commissionedNodes desk]
  cases found : st.kept.find? (·.id = id) with
  | none =>
    have absent : id ∉ st.kept.map (·.id) := by simpa using found
    simp [absent]
  | some n =>
    obtain ⟨kept, -, -, rfl⟩ := found_kept found
    have there : n.id ∈ st.kept.map (·.id) := List.mem_map_of_mem kept
    simp only [connected, Use.run_bind, run_theController hs, Use.run_act, found] at again
    simp [there, again]

theorem currentIndex_connect (n : Node) : n.connect.1.currentIndex = .ok n.connect.1.ownIndex := by
  simp only [Node.currentIndex, Node.ensureConnected, connected_connect, if_true]
  rfl

/-- The index of the controller's fabric is asked for before the fabric goes. -/
theorem run_removeFabric (hs : s.controller = some k) (desk : e.Desk k c st) (free : e.faults = [])
    (apart : (st.nodes.map (·.id)).Nodup) (index : Nat) :
    silent (removeFabric id index) (s, e) =
      (((Errand.removeFabric id index).task.outcome c e.devices st).1, s,
        e.stirred c.store ((Errand.removeFabric id index).task.outcome c e.devices st).2) := by
  cases found : st.kept.find? (·.id = id) with
  | none =>
    simp [silent, removeFabric, run_connected hs desk free, Errand.task, Task.outcome, found,
      stirred_still desk.store]
  | some n =>
    have rest := run_done desk apart found (f := (·.removeFabric index))
      (telling_doing fun n step => Node.tells_removeFabric) s
    simp only [silent, Use.run_bind, Use.run_act, Task.outcome, found] at rest
    simp only [silent, removeFabric, Use.run_bind, run_connected hs desk free, found, Use.run_act,
      askNode, theNode, Act.run_bind, Act.run_get, held_connected desk apart found, Act.run_pure,
      currentIndex_connect, Act.ofExcept, Errand.task, Task.outcome, Use.run_ite]
    by_cases own : n.connect.1.ownIndex = index
    · simp only [own, if_true, Use.run_fail]
    · simp only [own, if_false, rest]

/-- A session with a controller does what its task comes to. -/
theorem run_perform (hs : s.controller = some k) (desk : e.Desk k c st) (free : e.faults = [])
    (apart : (st.nodes.map (·.id)).Nodup) (fresh : ∀ n ∈ st.nodes, n.id ≠ st.nextId) (a : Errand) :
    a.perform (s, e) = ((a.task.outcome c e.devices st).1, s,
      e.stirred c.store (a.task.outcome c e.devices st).2) := by
  cases a with
  | list =>
    refine (run_listNodes hs desk).trans ?_
    simp [Errand.task, Task.outcome, stirred_still desk.store]
  | sessions =>
    refine (run_sessions hs desk).trans ?_
    simp [Errand.task, Task.outcome, stirred_still desk.store]
  | pair q =>
    show pairNode q (s, e) = _
    cases found : Device.find? q e.devices with
    | error f =>
      rw [run_pairNode_refused hs desk free found]
      simp [Errand.task, Task.outcome, found, stirred_still desk.store]
    | ok picked =>
      obtain ⟨d, others⟩ := picked
      rw [run_pairNode hs desk free fresh found]
      simp [Errand.task, Task.outcome, found, State.stirred, State.putStore]
  | remove id =>
    refine (run_removeNode hs desk id).trans ?_
    cases found : st.kept.find? (·.id = id) with
    | none => simp [Errand.task, Task.outcome, found, stirred_still desk.store]
    | some n => simp [Errand.task, Task.outcome, found, State.stirred, State.putStore]
  | view id =>
    refine Eq.trans ?_ (run_ofNode hs desk free apart snapshot fun v => v)
    rw [bind_pure]
    rfl
  | disconnect id => exact run_atNode hs desk free apart (tells_task (a := .disconnect id) rfl)
  | reconnect id =>
    exact (run_reconnectNode hs desk free).trans
      (run_atNode hs desk free apart (tells_task (a := .reconnect id) rfl))
  | fabrics id => exact run_ofNode hs desk free apart _ _
  | removeFabric id index => exact run_removeFabric hs desk free apart index
  | basicWindow id timeout =>
    exact run_atNode hs desk free apart (tells_task (a := .basicWindow id timeout) rfl)
  | enhancedWindow id timeout => exact run_ofNode hs desk free apart _ _
  | command id endpoint cluster name args =>
    exact run_atNode hs desk free apart
      (tells_task (a := .command id endpoint cluster name args) rfl)
  | write id endpoint cluster attr value =>
    exact run_atNode hs desk free apart
      (tells_task (a := .write id endpoint cluster attr value) rfl)
  | read id endpoint cluster attr => exact run_ofNode hs desk free apart _ _

theorem run_perform_vacant (vacant : s.controller = none) (a : Errand) (e : State) :
    a.perform (s, e) = (.error (.failed (.notInitialized "Controller")), s, e) := by
  have refused := run_theController_vacant (e := e) vacant
  cases a <;>
    simp [Errand.perform, listNodes, getNode, pairNode, disconnectNode, reconnectNode, removeNode,
      getFabrics, removeFabric, sessionInformation, basicWindow, enhancedWindow, invokeCommand,
      writeAttribute, readAttribute, silent, atNode, ofNode, connected, refused]

end

end Client

/-! ## Moves of stores -/

namespace Engine

/-- One thing that happens in a store, who is told of it and what. -/
inductive ControllerStore.Moves (st : ControllerStore) :
    Listener → List News → ControllerStore → Prop where
  | still (l : Listener) : st.Moves l [] st
  | told {n : Node} {step : Node.Step} (hn : n ∈ st.kept) (tells : n.Tells step) :
    st.Moves n.listener step.2 (st.put step.1)
  | removed {n : Node} (hn : n ∈ st.kept) : st.Moves n.listener n.remove.2 (st.put n.remove.1)
  | joined (c : Controller) (d : Device) :
    st.Moves c.listener [.stateChanged st.nextId .connected] (st.joined (d.node c st))

namespace ControllerStore

variable {st st' : ControllerStore} {l : Listener} {ws : List News} {n n' v : Node}

theorem mem_kept : v ∈ st.kept ↔ v ∈ st.nodes ∧ v.removed = false := by
  simp [kept, List.mem_filter]

/-- The nodes after one was put in the place of another. -/
theorem mem_kept_put (hn : n ∈ st.nodes) (same : n'.id = n.id) : v ∈ (st.put n').kept ↔
      (v = n' ∧ n'.removed = false) ∨ (v ∈ st.kept ∧ v.id ≠ n.id) := by
  simp only [mem_kept, put, List.mem_map]
  constructor
  · rintro ⟨⟨x, hx, rfl⟩, left⟩
    by_cases own : x.id = n.id
    · rw [same, if_pos own] at left ⊢
      exact .inl ⟨rfl, left⟩
    · rw [same, if_neg own] at left ⊢
      exact .inr ⟨⟨hx, left⟩, own⟩
  · rintro (⟨rfl, left⟩ | ⟨⟨hv, left⟩, other⟩)
    · exact ⟨⟨n, hn, if_pos same.symm⟩, left⟩
    · exact ⟨⟨v, hv, if_neg (same ▸ other)⟩, left⟩

/-- A node that tells stays. -/
theorem mem_kept_told (hn : n ∈ st.kept) {step : Node.Step} (tells : n.Tells step) :
    v ∈ (st.put step.1).kept ↔ v = step.1 ∨ (v ∈ st.kept ∧ v.id ≠ n.id) := by
  obtain ⟨there, left⟩ := mem_kept.1 hn
  have stays : step.1.removed = false :=
    (show step.1.frame.removed = n.frame.removed by rw [tells.frame]).trans left
  rw [mem_kept_put there tells.id]
  simp [stays]

theorem mem_kept_removed (hn : n ∈ st.kept) :
    v ∈ (st.put n.remove.1).kept ↔ v ∈ st.kept ∧ v.id ≠ n.id := by
  rw [mem_kept_put (mem_kept.1 hn).1 (show n.remove.1.id = n.id from rfl)]
  simp [Node.remove]

theorem mem_kept_joined : v ∈ (st.joined n).kept ↔ v ∈ st.kept ∨ (v = n ∧ n.removed = false) := by
  simp only [mem_kept, joined, List.mem_append, List.mem_singleton]
  constructor
  · rintro ⟨hv | rfl, left⟩
    · exact .inl ⟨hv, left⟩
    · exact .inr ⟨rfl, left⟩
  · rintro (⟨hv, left⟩ | ⟨rfl, left⟩)
    · exact ⟨.inl hv, left⟩
    · exact ⟨.inr rfl, left⟩

theorem Moves.key (h : st.Moves l ws st') : st'.key = st.key := by
  cases h <;> rfl

/-- Who is told of a node was told of it before, unless it is new. -/
theorem Moves.listener (h : st.Moves l ws st') (hv : v ∈ st'.kept) :
    (v.listener = l ∧ ws ≠ []) ∨ ∃ x ∈ st.kept, x.listener = v.listener := by
  cases h with
  | still => exact .inr ⟨v, hv, rfl⟩
  | @told n step hn tells =>
    rcases (mem_kept_told hn tells).1 hv with rfl | ⟨old, -⟩
    · exact .inr ⟨n, hn, tells.listener.symm⟩
    · exact .inr ⟨v, old, rfl⟩
  | removed hn => exact .inr ⟨v, ((mem_kept_removed hn).1 hv).1, rfl⟩
  | joined c d =>
    rcases mem_kept_joined.1 hv with old | ⟨rfl, -⟩
    · exact .inr ⟨v, old, rfl⟩
    · exact .inl ⟨rfl, List.cons_ne_nil _ _⟩

end ControllerStore

/-- What a task comes to is a move of the store; who is told listens to the controller or to a
    node. -/
theorem moves_outcome {t : Client.Task} (telling : ∀ id f, t = .visit id f → Client.Telling f)
    (c : Controller) (devices : List Device) (st : ControllerStore) :
    let w := (t.outcome c devices st).2
    st.Moves w.listener w.news w.store ∧
      (w.listener = c.listener ∨ ∃ v ∈ st.kept, w.listener = v.listener) := by
  have comes := Client.comes_outcome t c devices st
  generalize t.outcome c devices st = o at comes
  cases comes with
  | still => exact ⟨.still _, .inl rfl⟩
  | @paired q d others found => exact ⟨.joined c d, .inl rfl⟩
  | removed found =>
    have hn := (found_kept found).1
    exact ⟨.removed hn, .inr ⟨_, hn, rfl⟩⟩
  | @refused id f n m found run =>
    have hn := (found_kept found).1
    exact ⟨.told hn n.tells_connect, .inr ⟨n, hn, rfl⟩⟩
  | @done id f n step v found run =>
    have hn := (found_kept found).1
    exact ⟨.told hn (n.tells_connect.trans (telling id f rfl _ _ _ run)), .inr ⟨n, hn, rfl⟩⟩

end Engine

end HomeGateway
