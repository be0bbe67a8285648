/-
  What requests leave alone.

  Server nodes and controllers are made and closed at few places.  Everything
  else that a session does keeps the frame of the engine: which server nodes
  and controllers there are, who they are for, and whether they were closed.
  An action that does so whenever no fault is armed is called steady.

  * `Act.Steady.bind`, `Use.Steady.bind`: one steady action after the other;
  * `steady_perform`: what a caller asks of its bridge, apart from a reset;
  * `steady_function`: everything that a client can ask for.
-/
import HomeGateway.Client.Functions
import HomeGateway.Proofs.Asking

namespace HomeGateway.Engine

open HomeGateway

variable {α β σ τ : Type}

/-- A server node without what a caller switches. -/
def Server.frame (sv : Server) : Server :=
  { sv with online := false, windowOpen := false }

/-- The frames of two states are the same. -/
structure State.Keeps (e e' : State) : Prop where
  /-- the server nodes, as far as they last -/
  servers : e'.servers.map Server.frame = e.servers.map Server.frame
  /-- whose the stores of server nodes are -/
  serverStores : e'.serverStores.map (·.key) = e.serverStores.map (·.key)
  /-- the controllers -/
  controllers : e'.controllers = e.controllers
  /-- whose the stores of controllers are -/
  controllerStores : e'.controllerStores.map (·.key) = e.controllerStores.map (·.key)
  /-- the number of aggregators -/
  aggregators : e'.aggregators.length = e.aggregators.length
  /-- the armed faults -/
  faults : e'.faults = e.faults

namespace State.Keeps

variable {e e' e'' : State}

theorem refl (e : State) : e.Keeps e :=
  ⟨rfl, rfl, rfl, rfl, rfl, rfl⟩

theorem trans (h : e.Keeps e') (h' : e'.Keeps e'') : e.Keeps e'' :=
  ⟨h'.servers.trans h.servers, h'.serverStores.trans h.serverStores,
    h'.controllers.trans h.controllers, h'.controllerStores.trans h.controllerStores,
    h'.aggregators.trans h.aggregators, h'.faults.trans h.faults⟩

end State.Keeps

/-! ## Steady actions of the engine -/

/-- The action keeps the frame of an engine in which no fault is armed. -/
def Act.Steady (a : Act α) : Prop :=
  ∀ e : State, e.faults = [] → e.Keeps (a e).2

theorem Act.Steady.bind {x : Act α} {f : α → Act β} (hx : x.Steady) (hf : ∀ a, (f a).Steady) :
    (x >>= f).Steady := by
  intro e he
  have first := hx e he
  rw [Act.run_bind]
  generalize x e = run at first
  rcases run with ⟨_ | a, e'⟩
  · exact first
  · exact first.trans (hf a e' (first.faults.trans he))

/-- An action that looks at the state first. -/
theorem Act.Steady.get_bind {f : State → Act β}
    (hf : ∀ e : State, e.faults = [] → e.Keeps (f e e).2) : (get >>= f : Act β).Steady :=
  hf

theorem steady_pure (a : α) : (pure a : Act α).Steady :=
  fun e _ => .refl e

theorem steady_get : (get : Act State).Steady :=
  fun e _ => .refl e

theorem steady_modify {f : State → State} (hf : ∀ e : State, e.Keeps (f e)) :
    (modify f : Act Unit).Steady :=
  fun e _ => hf e

theorem steady_fail (failure : EngineError) : (Act.fail failure : Act α).Steady :=
  fun e _ => .refl e

theorem steady_ofExcept (r : Except EngineError α) : (Act.ofExcept r).Steady := by
  cases r with
  | ok a => exact steady_pure a
  | error failure => exact steady_fail failure

theorem steady_tell (entries : Journal) : (tell entries).Steady :=
  fun e _ => { State.Keeps.refl e with }

theorem steady_trip (spot : Spot) : (trip spot).Steady := by
  intro e he
  rw [run_trip he]
  exact .refl e

theorem Act.Steady.attempt {a : Act α} (ha : a.Steady) : (Act.attempt a).Steady :=
  ha

/-! ## Server nodes -/

theorem map_modify_of {γ δ : Type} (xs : List γ) (n : Nat) {g : γ → δ} {f : γ → γ}
    (h : ∀ x, g (f x) = g x) : (xs.modify n f).map g = xs.map g := by
  ext i y
  simp only [List.getElem?_map, List.getElem?_modify]
  cases xs[i]? with
  | none => rfl
  | some x =>
    simp only [Option.map_eq_map, Option.map_some]
    split
    · rw [h]
    · rfl

/-- The one element with a key is found by it. -/
theorem find?_apart {γ δ : Type} [DecidableEq δ] {f : γ → δ} {xs : List γ} {x : γ}
    (apart : (xs.map f).Nodup) (hx : x ∈ xs) : xs.find? (f · = f x) = some x := by
  cases found : xs.find? (f · = f x) with
  | none => exact absurd (decide_eq_true rfl) (List.find?_eq_none.1 found x hx)
  | some y =>
    have same : f y = f x := by simpa using List.find?_some found
    rw [List.inj_on_of_nodup_map apart (List.mem_of_find?_eq_some found) hx same]

theorem keeps_changeServer (n : Nat) (e : State) {f : Server → Server}
    (hf : ∀ sv, (f sv).frame = sv.frame) : e.Keeps (e.changeServer n f) :=
  { State.Keeps.refl e with servers := map_modify_of e.servers n hf }

theorem steady_theServer (n : Nat) : (theServer n).Steady := by
  refine .bind steady_get fun e => ?_
  split
  · exact steady_pure _
  · exact steady_fail _

theorem steady_startServer (n : Nat) : (startServer n).Steady := by
  unfold startServer
  refine .bind (steady_trip _) fun _ => .bind (steady_theServer n) fun server => ?_
  intro e _
  simp only [Act.run_bind, Act.run_ite, Act.run_fail]
  split
  · exact .refl e
  · exact keeps_changeServer n e fun _ => rfl

theorem steady_openWindow (n : Nat) : (openWindow n).Steady := by
  unfold openWindow
  refine .bind (steady_theServer n) fun server => ?_
  intro e _
  simp only [Act.run_bind, Act.run_ite, Act.run_fail]
  split
  · exact .refl e
  · exact keeps_changeServer n e fun _ => rfl

theorem steady_closeWindow (n : Nat) : (closeWindow n).Steady :=
  steady_modify fun e => keeps_changeServer n e fun _ => rfl

/-! ## Bridged endpoints -/

theorem steady_addEndpoint (a : Nat) (b : Bridge.Bridged) : (Engine.addEndpoint a b).Steady := by
  refine .bind (steady_trip _) fun _ => .get_bind fun e _ => ?_
  rw [Act.run_ite]
  split
  · exact .refl e
  · exact { State.Keeps.refl e with aggregators := List.length_set }

theorem steady_startWrite (own : Bool) (handle : Nat) (cluster attr : String) (value : Json) :
    (startWrite own handle cluster attr value).Steady := by
  refine .get_bind fun e _ => ?_
  cases e.endpoints[handle]? with
  | none => exact .refl e
  | some b => exact { State.Keeps.refl e with }

theorem steady_finishWrite (w : Write) : (finishWrite w).Steady := by
  refine .get_bind fun e _ => ?_
  cases e.endpoints[w.endpoint]? with
  | none => exact .refl e
  | some b =>
    simp only [Act.run_set, Act.run_bind, run_tell, run_ofExcept]
    exact { State.Keeps.refl e with }

theorem steady_peerCommand (handle : Nat) (cluster command : String) (args : Json) :
    (peerCommand handle cluster command args).Steady := by
  refine .get_bind fun e _ => ?_
  cases e.endpoints[handle]? with
  | none => exact .refl e
  | some b =>
    simp only [Act.run_set, Act.run_bind, run_tell, run_ofExcept]
    exact { State.Keeps.refl e with }

/-! ## Nodes -/

theorem keeps_changeStore (n : Nat) (e : State) {f : ControllerStore → ControllerStore}
    (hf : ∀ st, (f st).key = st.key) : e.Keeps (e.changeStore n f) :=
  { State.Keeps.refl e with controllerStores := map_modify_of e.controllerStores n hf }

theorem steady_settle (r : NodeRef) (step : Node.Step) : (settle r step).Steady :=
  .bind (steady_modify fun e => keeps_changeStore r.store e fun _ => rfl) fun _ => steady_tell _

theorem steady_theNode (r : NodeRef) : (theNode r).Steady := by
  refine .bind steady_get fun e => ?_
  split
  · exact steady_pure _
  · exact steady_fail _

theorem steady_onNode (r : NodeRef) (f : Node → Except EngineError Node.Step) :
    (onNode r f).Steady :=
  .bind (steady_theNode r) fun _ => .bind (steady_ofExcept _) fun _ => steady_settle r _

theorem steady_askNode (r : NodeRef) (f : Node → Except EngineError α) : (askNode r f).Steady :=
  .bind (steady_theNode r) fun _ => steady_ofExcept _

theorem steady_theController (c : Nat) : (theController c).Steady := by
  refine .bind steady_get fun e => ?_
  split
  · exact steady_pure _
  · exact steady_fail _

theorem steady_openController (c : Nat) : (openController c).Steady := by
  refine .bind (steady_theController c) fun controller => fun e _ => ?_
  simp only [Act.run_bind, Act.run_ite, Act.run_fail, Act.run_pure]
  split
  all_goals exact .refl e

theorem steady_commissionNode (c : Nat) (r : Pairing.Request) : (commissionNode c r).Steady := by
  refine .bind (steady_trip _) fun _ => .bind (steady_openController c) fun controller =>
    .bind steady_get fun e => .bind (steady_ofExcept _) fun found => ?_
  refine .bind (steady_modify fun e => { State.Keeps.refl e with }) fun _ =>
    .bind steady_get fun e =>
      .bind (steady_modify fun e => keeps_changeStore _ e fun _ => rfl) fun _ => ?_
  exact .bind (steady_settle _ _) fun _ => steady_pure _

theorem steady_commissionedNodes (c : Nat) : (commissionedNodes c).Steady :=
  .bind (steady_openController c) fun _ => .bind steady_get fun _ => steady_pure _

theorem steady_connectNode (c id : Nat) : (connectNode c id).Steady := by
  refine .bind (steady_trip _) fun _ => .bind (steady_openController c) fun controller =>
    .bind steady_get fun e => ?_
  split
  · exact steady_fail _
  · exact .bind (steady_settle _ _) fun _ => steady_pure _

theorem steady_removeNode (c id : Nat) : (removeNode c id).Steady := by
  refine .bind (steady_openController c) fun controller => .bind steady_get fun e => ?_
  split
  · exact steady_fail _
  · exact steady_settle _ _

theorem steady_sessions (c : Nat) : (sessions c).Steady :=
  .bind (steady_theController c) fun _ => .bind steady_get fun _ => steady_pure _

/-! ## Steady users -/

/-- Beside the frame of the engine, the user keeps what `view` shows of its own state. -/
def Use.Steady (view : σ → τ) (a : Use σ α) : Prop :=
  ∀ p : σ × State, p.2.faults = [] → view (a p).2.1 = view p.1 ∧ p.2.Keeps (a p).2.2

namespace Use.Steady

variable {view : σ → τ}

theorem bind {x : Use σ α} {f : α → Use σ β} (hx : x.Steady view) (hf : ∀ a, (f a).Steady view) :
    (x >>= f).Steady view := by
  intro p hp
  obtain ⟨same, keeps⟩ := hx p hp
  rw [run_bind]
  generalize x p = run at same keeps
  rcases run with ⟨_ | a, p'⟩
  · exact ⟨same, keeps⟩
  · obtain ⟨same', keeps'⟩ := hf a p' (keeps.faults.trans hp)
    exact ⟨same'.trans same, keeps.trans keeps'⟩

theorem pure (a : α) : (Pure.pure a : Use σ α).Steady view :=
  fun p _ => ⟨rfl, .refl p.2⟩

theorem throw (m : Mishap) : (throw m : Use σ α).Steady view :=
  fun p _ => ⟨rfl, .refl p.2⟩

theorem fail (f : Failure) : (Use.fail f : Use σ α).Steady view :=
  throw _

theorem ofExcept (r : Except Failure α) : (Use.ofExcept r : Use σ α).Steady view := by
  cases r with
  | ok a => exact pure a
  | error f => exact fail f

theorem own : (Use.own : Use σ σ).Steady view :=
  fun p _ => ⟨rfl, .refl p.2⟩

theorem engine {a : Act α} (ha : a.Steady) : (Use.engine a : Use σ α).Steady view :=
  fun p hp => ⟨rfl, ha p.2 hp⟩

end Use.Steady

end HomeGateway.Engine

namespace HomeGateway.Bridge

open HomeGateway Engine

/-! ## The requests of a bridge -/

/-- Who a session is for and its server node. -/
def Session.seat (s : Session) : Params × Option Nat :=
  (s.params, s.live.map (·.server))

theorem steady_theLive : theLive.Steady Session.seat := by
  intro ⟨s, e⟩ _
  simp only [theLive, Use.run_bind, Use.run_own]
  cases s.live <;> exact ⟨rfl, .refl e⟩

theorem steady_reserve (id : String) : (reserve id).Steady Session.seat := by
  intro ⟨s, e⟩ _
  cases hl : s.live with
  | none =>
    simp only [reserve, theLive, Use.run_bind, Use.run_own, hl]
    exact ⟨rfl, .refl e⟩
  | some l =>
    simp only [reserve, Use.run_bind, run_theLive hl, Use.run_ite, Use.run_fail, Use.run_change]
    split
    · exact ⟨rfl, .refl e⟩
    · refine ⟨?_, .refl e⟩
      simp [Session.seat, hl]

/-- The end of a taking in. -/
theorem settled_seat (made : Except Mishap Member) {s s' : Session} (h : s'.seat = s.seat) (e : State) :
    let p := (match made with
      | .ok _ => return ()
      | .error m => throw m : Doing Unit) (s', e)
    p.2.1.seat = s.seat ∧ e.Keeps p.2.2 := by
  cases made <;> exact ⟨h, .refl e⟩

theorem steady_settleAddition (generation : Nat) (d : String) (made : Except Mishap Member) :
    (settleAddition generation d made).Steady Session.seat := by
  intro ⟨s, e⟩ _
  unfold settleAddition
  rw [Use.run_bind]
  simp only [Use.run_own]
  cases hl : s.live with
  | none => exact settled_seat made rfl e
  | some l =>
    by_cases same : l.generation = generation
    · simp only [same, if_true, Use.run_bind, Use.run_change]
      refine settled_seat made ?_ e
      cases made <;> simp [Session.seat, hl]
    · simp only [same, if_false]
      exact settled_seat made rfl e

theorem steady_finishAddition (generation aggregator : Nat) (d : Definition) :
    (finishAddition generation aggregator d).Steady Session.seat := by
  unfold finishAddition
  refine .bind .own fun s => .bind (.engine (steady_addEndpoint _ _).attempt) fun outcome => ?_
  rcases outcome with (_ | _) | _
  · exact steady_settleAddition _ _ _
  · exact .throw _
  · exact steady_settleAddition _ _ _

theorem steady_addEndpoint (spec : Spec) : (addEndpoint spec).Steady Session.seat := by
  unfold addEndpoint
  refine .bind (steady_reserve _) fun l => .bind .own fun s => ?_
  cases spec.definition s.options.maxLabel with
  | error f => exact .bind (steady_settleAddition _ _ _) fun _ => .pure _
  | ok d =>
    refine .bind (.engine steady_get) fun e => ?_
    intro p hp
    simp only [Use.run_ite]
    split
    · exact Use.Steady.pure _ p hp
    · exact Use.Steady.bind (steady_finishAddition _ _ _) (fun _ => .pure _) p hp

theorem steady_setState (id cluster attr : String) (value : Json) :
    (setState id cluster attr value).Steady Session.seat := by
  unfold setState
  refine .bind steady_theLive fun l => ?_
  cases l.member? id with
  | none => exact .pure _
  | some m =>
    refine .bind (.engine (steady_startWrite _ _ _ _ _)) fun w => .bind (.engine steady_get) fun e => ?_
    intro p hp
    simp only [Use.run_ite]
    split
    · exact Use.Steady.pure _ p hp
    · exact Use.Steady.bind (.engine (steady_finishWrite _)) (fun _ => .pure _) p hp

theorem steady_listEndpoints : listEndpoints.Steady Session.seat :=
  .bind steady_theLive fun _ => .bind (.engine steady_get) fun _ => .pure _

theorem steady_commissioningState : commissioningState.Steady Session.seat :=
  .bind steady_theLive fun _ => .bind (.engine (steady_theServer _)) fun _ =>
    .bind (.engine steady_get) fun _ => .pure _

/-- Only a reset makes and closes server nodes. -/
theorem steady_perform {a : Ask} (h : a ≠ .reset) : a.perform.Steady Session.seat := by
  cases a with
  | make spec => exact steady_addEndpoint spec
  | write id cluster attr value => exact steady_setState id cluster attr value
  | reset => exact absurd rfl h
  | list => exact .bind steady_listEndpoints fun _ => .pure _
  | start =>
    exact .bind (.bind steady_theLive fun _ => .engine (steady_startServer _)) fun _ => .pure _
  | pairing => exact .bind steady_commissioningState fun _ => .pure _
  | openWindow =>
    exact .bind (.bind steady_theLive fun _ => .engine (steady_openWindow _)) fun _ => .pure _
  | closeWindow =>
    exact .bind (.bind steady_theLive fun _ => .engine (steady_closeWindow _)) fun _ => .pure _

end HomeGateway.Bridge

namespace HomeGateway.Client

open HomeGateway Engine Call

/-! ## The requests of a client -/

/-- Who a session is for and its controller. -/
def Session.seat (s : Session) : Params × Option Nat :=
  (s.params, s.controller)

theorem steady_theController : theController.Steady Session.seat := by
  intro ⟨s, e⟩ _
  simp only [theController, Use.run_bind, Use.run_own]
  cases s.controller <;> exact ⟨rfl, .refl e⟩

theorem steady_connected (id : Nat) : (connected id).Steady Session.seat :=
  .bind steady_theController fun _ => .engine (steady_connectNode _ _)

theorem steady_atNode (id : Nat) (f : Node → Except EngineError Node.Step) :
    (atNode id f).Steady Session.seat :=
  .bind (steady_connected id) fun _ => .engine (steady_onNode _ _)

theorem steady_ofNode {α : Type} (id : Nat) (f : Node → Except EngineError α) :
    (ofNode id f).Steady Session.seat :=
  .bind (steady_connected id) fun _ => .engine (steady_askNode _ _)

theorem steady_listNodes : listNodes.Steady Session.seat :=
  .bind steady_theController fun _ => .bind (.engine (steady_commissionedNodes _)) fun _ => .pure _

theorem steady_pairNode (r : Pairing.Request) : (pairNode r).Steady Session.seat :=
  .bind steady_theController fun _ => .bind (.engine (steady_commissionNode _ _)) fun _ => .pure _

theorem steady_reconnectNode (id : Nat) : (reconnectNode id).Steady Session.seat := by
  unfold reconnectNode
  refine .bind steady_theController fun c => .bind (.engine (steady_commissionedNodes c)) fun ids => ?_
  have rest : (do
      let r ← Use.engine (connectNode c id)
      Use.engine (onNode r fun n => .ok n.reconnect) : Doing Unit).Steady Session.seat :=
    .bind (.engine (steady_connectNode c id)) fun _ => .engine (steady_onNode _ _)
  intro p hp
  simp only [Use.run_ite]
  split
  · exact Use.Steady.bind (.fail _) (fun _ => rest) p hp
  · exact rest p hp

theorem steady_removeNode (id : Nat) : (removeNode id).Steady Session.seat :=
  .bind steady_theController fun _ => .engine (Engine.steady_removeNode _ _)

theorem steady_removeFabric (id index : Nat) : (removeFabric id index).Steady Session.seat := by
  unfold removeFabric
  refine .bind (steady_connected id) fun r => .bind (.engine (steady_askNode _ _)) fun current => ?_
  intro p hp
  simp only [Use.run_ite]
  split
  · exact Use.Steady.bind (.fail _) (fun _ => .engine (steady_onNode _ _)) p hp
  · exact Use.Steady.engine (steady_onNode _ _) p hp

theorem steady_sessionInformation : sessionInformation.Steady Session.seat :=
  .bind steady_theController fun _ => .bind (.engine (steady_sessions _)) fun _ => .pure _

theorem steady_taking {α : Type} {name : String} {required arity : Nat} {r : Reading α}
    {act : α → Doing Json} (h : ∀ a, (act a).Steady Session.seat) (args : List Json) :
    (taking name required arity r act args).Steady Session.seat :=
  .bind (.ofExcept _) h

theorem steady_bare {name : String} {act : Doing Json} (h : act.Steady Session.seat)
    (args : List Json) : (bare name act args).Steady Session.seat :=
  .bind (.ofExcept _) fun _ => h

theorem steady_silent {act : Doing Unit} (h : act.Steady Session.seat) :
    (silent act).Steady Session.seat :=
  .bind h fun _ => .pure _

theorem steady_nodeFunctions : ∀ f ∈ nodeFunctions, ∀ args, (f.2 args).Steady Session.seat := by
  unfold nodeFunctions
  simp only [List.forall_mem_cons, List.not_mem_nil, false_implies, implies_true, and_true]
  refine ⟨steady_bare steady_listNodes, steady_taking fun _ => steady_ofNode _ _,
    steady_taking steady_pairNode, steady_taking fun _ => steady_silent (steady_atNode _ _),
    steady_taking fun _ => steady_silent (steady_reconnectNode _),
    steady_taking fun _ => steady_silent (steady_removeNode _),
    steady_taking fun _ => .bind (steady_ofNode _ _) fun _ => .pure _,
    steady_taking fun _ => steady_silent (steady_removeFabric _ _),
    steady_bare steady_sessionInformation,
    steady_taking fun _ => steady_silent (steady_atNode _ _),
    steady_taking fun _ => .bind (steady_ofNode _ _) fun _ => .pure _⟩

theorem steady_clusterFunctions : ∀ f ∈ clusterFunctions, ∀ args, (f.2 args).Steady Session.seat := by
  unfold clusterFunctions
  simp only [List.forall_mem_cons, List.not_mem_nil, false_implies, implies_true, and_true]
  exact ⟨steady_taking fun _ => .bind (steady_atNode _ _) fun _ => .pure _,
    steady_taking fun _ => steady_silent (steady_atNode _ _),
    steady_taking fun _ => .bind (steady_ofNode _ _) fun _ => .pure _⟩

theorem mem_registerAll {α : Type} {r : Registry α} {space : String} {fs : List (String × α)}
    {e : Call.Entry α} (h : e ∈ (r.registerAll space fs).entries) :
    e ∈ r.entries ∨ ∃ f ∈ fs, e.handler = f.2 := by
  induction fs generalizing r with
  | nil => exact .inl h
  | cons f fs ih =>
    rcases ih h with known | ⟨g, hg, eq⟩
    · rcases List.mem_cons.1 known with rfl | known
      · exact .inr ⟨f, List.mem_cons_self, rfl⟩
      · exact .inl known
    · exact .inr ⟨g, List.mem_cons_of_mem f hg, eq⟩

theorem mem_of_resolve {α : Type} {r : Registry α} {space name : String} {handler : α}
    (h : r.resolve space name = .ok handler) : ∃ e ∈ r.entries, e.handler = handler := by
  unfold Registry.resolve at h
  split at h
  · split at h
    · rename_i e found
      cases h
      exact ⟨e, List.mem_of_find?_eq_some found, rfl⟩
    · cases h
  · cases h

/-- No function of a client makes or closes a controller. -/
theorem steady_function {f : Function} {space name : String}
    (h : functions.resolve space name = .ok f) (args : List Json) : (f args).Steady Session.seat := by
  obtain ⟨e, he, rfl⟩ := mem_of_resolve h
  rcases mem_registerAll he with he | ⟨f, hf, eq⟩
  · rcases mem_registerAll he with he | ⟨f, hf, eq⟩
    · cases he
    · rw [eq]
      exact steady_nodeFunctions f hf args
  · rw [eq]
    exact steady_clusterFunctions f hf args

end HomeGateway.Client
