/-
  The fabrics of a node.

  A device that is paired gets one entry more in its table of fabrics: that of
  the controller that paired it.  Requests can strike the entries of any index
  but this one off the table, whoever makes them, and nothing else changes it.

  * `outcome_removeFabric`: what a request to remove fabrics comes to;
  * `Enrolled.happen`: whatever happens, the table loses what was struck off;
  * `Guarded`, `guarded_after`: the table after every run, and what requests do to it.
-/
import HomeGateway.Proofs.Mirror
import HomeGateway.Proofs.Refusals

namespace HomeGateway

open Engine Client Call

namespace Engine

/-- The entry of a controller in the table of a device that it pairs. -/
def Device.membership (d : Device) (st : ControllerStore) : Fabric :=
  ⟨Node.freshIndex d.fabrics, Node.controllerFabric, st.nextId, d.vendorId, ""⟩

/-- A table of fabrics without the entries of some indices. -/
def strike (indices : List Nat) (table : List Fabric) : List Fabric :=
  table.filter (·.index ∉ indices)

@[simp] theorem strike_nil (table : List Fabric) : strike [] table = table := by
  simp [strike]

theorem strike_strike (indices indices' : List Nat) (table : List Fabric) :
    strike indices' (strike indices table) = strike (indices ++ indices') table := by
  simp [strike, List.filter_filter, Bool.and_comm]

theorem mem_strike {indices : List Nat} {table : List Fabric} {f : Fabric} :
    f ∈ strike indices table ↔ f ∈ table ∧ f.index ∉ indices := by
  simp [strike]

/-- An index without entries is struck off in vain, and no other is. -/
theorem length_strike {index : Nat} {table : List Fabric} :
    (table.filter (·.index ≠ index)).length = table.length ↔ ∀ f ∈ table, f.index ≠ index := by
  simp [List.length_filter_eq_length_iff]

namespace Node

variable {v v' : Node}

/-- A node that has the same fabrics as another, and the same one of them is the controller's. -/
structure Agrees (v v' : Node) : Prop where
  id : v'.id = v.id
  fabrics : v'.fabrics = v.fabrics
  ownIndex : v'.ownIndex = v.ownIndex

theorem Agrees.trans {v'' : Node} (h : v.Agrees v') (h' : v'.Agrees v'') : v.Agrees v'' :=
  ⟨h'.id.trans h.id, h'.fabrics.trans h.fabrics, h'.ownIndex.trans h.ownIndex⟩

theorem connect_fst (v : Node) : v.connect.1 = { v with connected := true } := by
  unfold connect
  split
  · rename_i connected
    rw [← connected]
    rfl
  · rfl

theorem agrees_connect (v : Node) : v.Agrees v.connect.1 := by
  rw [connect_fst]
  exact ⟨rfl, rfl, rfl⟩

/-- A step that leaves the fabrics alone. -/
theorem Tells.agrees {step : Step} (tells : v.Tells step) (fabrics : step.1.fabrics = v.fabrics) :
    v.Agrees step.1 :=
  ⟨tells.id, fabrics, show step.1.frame.ownIndex = v.frame.ownIndex by rw [tells.frame]⟩

end Node

end Engine

theorem Utterance.agrees {u : Utterance} {endpoint : Nat} {cluster : String} {v : Node}
    {step : Node.Step} (said : u.step endpoint cluster v = .ok step) : v.Agrees step.1 := by
  refine (Utterance.tells said).agrees ?_
  obtain ⟨c, -, -, rfl⟩ := step_cases said
  cases u <;> rfl

namespace Client

/-! ## Requests -/

/-- What a request to remove the fabrics of an index is answered, by the table of the node and the
    controller's own index. -/
def removalAnswer (own index : Nat) (table : List Fabric) : Except Mishap Json :=
  if own = index then .error (.failed .cannotRemoveOwnFabric)
  else if ∀ f ∈ table, f.index ≠ index then
    .error (.failed (.engine
      (.invalidState ("Fabric index " ++ Text.showNat index ++ " not found"))))
  else .ok .null

/-- The indices that a request strikes off the table of a node. -/
def Errand.struck (id : Nat) : Errand → Verdict → List Nat
  | .removeFabric id' index, .success => if id' = id then [index] else []
  | _, _ => []

variable {st : ControllerStore} {c : Controller} {devices : List Device} {v : Node} {id : Nat}

theorem doing_ok {f : Node → Except EngineError Node.Step} {step : Node.Step} {j : Json}
    (run : doing f v = .ok (step, j)) : f v = .ok step := by
  unfold doing at run
  cases done : f v <;> rw [done] at run <;> cases run
  rfl

theorem asking_ok {α : Type} {f : Node → Except EngineError α} {answer : α → Json}
    {step : Node.Step} {j : Json} (run : asking f answer v = .ok (step, j)) : step.1 = v := by
  unfold asking at run
  cases told : f v <;> rw [told] at run <;> cases run
  rfl

theorem located_ok {endpoint : Nat} {cluster : String} {α : Type}
    {f : Cluster → Except EngineError α} {x : α}
    (run : (do f (← locate endpoint cluster v)) = .ok x) :
    ∃ c, locate endpoint cluster v = .ok c ∧ f c = .ok x := by
  cases found : locate endpoint cluster v with
  | error e =>
    rw [found] at run
    cases run
  | ok c =>
    rw [found] at run
    exact ⟨c, rfl, run⟩

/-- A request to remove fabrics connects the node; if it is granted, it strikes the index off. -/
theorem outcome_removeFabric (found : st.kept.find? (·.id = id) = some v) (index : Nat) :
    (Errand.removeFabric id index).task.outcome c devices st =
      (removalAnswer v.ownIndex index v.fabrics,
        ⟨devices, st.put (match removalAnswer v.ownIndex index v.fabrics with
          | .ok _ => { v with connected := true, fabrics := strike [index] v.fabrics }
          | .error _ => { v with connected := true }), v.listener, v.connect.2⟩) := by
  have connected : v.connect.1.ensureConnected = .ok () := by
    rw [Node.connect_fst]
    rfl
  have removed : v.connect.1.removeFabric index =
      if ∀ f ∈ v.fabrics, f.index ≠ index then
        .error (.invalidState ("Fabric index " ++ Text.showNat index ++ " not found"))
      else .ok ({ v with connected := true, fabrics := strike [index] v.fabrics }, []) := by
    rw [Node.removeFabric, connected, Node.connect_fst]
    simp only [length_strike]
    split
    · rfl
    · simp only [strike, List.mem_singleton]
      rfl
  simp only [Errand.task, Task.outcome, found, removalAnswer, (Node.agrees_connect v).ownIndex,
    doing, removed]
  by_cases own : v.ownIndex = index
  · simp only [own, if_true, Node.connect_fst]
  · by_cases absent : ∀ f ∈ v.fabrics, f.index ≠ index
    · simp only [own, if_false, if_pos absent, Node.connect_fst]
    · simp only [own, if_false, if_neg absent, List.append_nil]

/-- Whatever else is done with a node leaves its fabrics alone. -/
theorem agrees_visit {a : Errand} {f : Node → Except Failure (Node.Step × Json)}
    (visit : a.task = .visit id f) (other : ∀ index, a ≠ .removeFabric id index)
    {step : Node.Step} {j : Json} (run : f v = .ok (step, j)) : v.Agrees step.1 := by
  refine (tells_task visit v step j run).agrees ?_
  cases a with
  | list | sessions | pair | remove => cases visit
  | view | fabrics | enhancedWindow | read =>
    cases visit
    exact congrArg Node.fabrics (asking_ok run)
  | removeFabric id' index =>
    cases visit
    exact absurd rfl (other index)
  | disconnect =>
    cases visit
    obtain ⟨-, run⟩ := Node.of_ensured (doing_ok run)
    cases run
    rfl
  | reconnect =>
    cases visit
    cases doing_ok run
    rfl
  | basicWindow id' timeout =>
    cases visit
    obtain ⟨-, run⟩ := Node.of_ensured (doing_ok run)
    cases run
    rfl
  | command id' endpoint cluster name args =>
    cases visit
    obtain ⟨c, -, run⟩ := located_ok (doing_ok run)
    obtain ⟨-, run⟩ := Node.of_ensured run
    cases run
    rfl
  | write id' endpoint cluster attr value =>
    cases visit
    obtain ⟨c, -, run⟩ := located_ok (doing_ok run)
    obtain ⟨-, run⟩ := Node.of_ensured run
    cases known : c.read? attr <;> rw [known] at run <;> cases run
    rfl

/-- A node in a store where it or another one took a step. -/
theorem agrees_told (apart : (st.nodes.map (·.id)).Nodup) (hv : v ∈ st.kept) {n : Node}
    (hn : n ∈ st.kept) {n' : Node} {ws : List News} (tells : n.Tells (n', ws))
    (own : n = v → v.Agrees n') : ∃ v' ∈ (st.put n').kept, v.Agrees v' := by
  have kept (v' : Node) := ControllerStore.mem_kept_told (v := v') hn tells
  by_cases same : v.id = n.id
  · obtain rfl : n = v := (List.inj_on_of_nodup_map apart (ControllerStore.mem_kept.1 hv).1
      (ControllerStore.mem_kept.1 hn).1 same).symm
    exact ⟨n', (kept _).2 (.inl rfl), own rfl⟩
  · exact ⟨v, (kept v).2 (.inr ⟨hv, same⟩), rfl, rfl, rfl⟩

/-- A request that neither removes a node nor fabrics of it leaves its fabrics alone. -/
theorem agrees_outcome {a : Errand} (c : Controller) (devices : List Device)
    (apart : (st.nodes.map (·.id)).Nodup) (hv : v ∈ st.kept)
    (stays : a ≠ .remove v.id) (other : ∀ index, a ≠ .removeFabric v.id index) :
    ∃ v' ∈ (a.task.outcome c devices st).2.store.kept, v.Agrees v' := by
  have comes := comes_outcome a.task c devices st
  generalize task : a.task = t at comes
  generalize t.outcome c devices st = o at comes
  cases comes with
  | still => exact ⟨v, hv, rfl, rfl, rfl⟩
  | paired => exact ⟨v, ControllerStore.mem_kept_joined.2 (.inl hv), rfl, rfl, rfl⟩
  | @removed id n found =>
    obtain ⟨hn, -, -, rfl⟩ := found_kept found
    have apart : v.id ≠ n.id := by
      intro same
      cases a <;> cases task
      exact stays (congrArg Errand.remove same.symm)
    exact ⟨v, (ControllerStore.mem_kept_removed hn).2 ⟨hv, apart⟩, rfl, rfl, rfl⟩
  | refused found run =>
    exact agrees_told apart hv (found_kept found).1 (Node.tells_connect _) fun same =>
      same ▸ Node.agrees_connect _
  | @done id f n step j found run =>
    obtain ⟨hn, -, -, rfl⟩ := found_kept found
    have told : n.Tells (step.1, n.connect.2 ++ step.2) :=
      n.tells_connect.trans (tells_task task _ _ _ run)
    refine agrees_told apart hv hn told fun same => ?_
    subst same
    exact (Node.agrees_connect n).trans (agrees_visit task other run)

/-- What a request that does not remove a node makes of its fabrics. -/
theorem struck_outcome {a : Errand} (c : Controller) (devices : List Device)
    (apart : (st.nodes.map (·.id)).Nodup) (hv : v ∈ st.kept)
    (stays : a ≠ .remove v.id) (r : Request) :
    let struck := a.struck v.id (answer r (a.task.outcome c devices st).1).verdict
    v.ownIndex ∉ struck ∧ ∃ v' ∈ (a.task.outcome c devices st).2.store.kept, v'.id = v.id ∧
      v'.ownIndex = v.ownIndex ∧ v'.fabrics = strike struck v.fabrics := by
  by_cases asked : ∃ index, a = .removeFabric v.id index
  · obtain ⟨index, rfl⟩ := asked
    have kept {v' : Node} (same : v'.id = v.id) (left : v'.removed = v.removed) :
        v' ∈ (st.put v').kept :=
      (ControllerStore.mem_kept_put (ControllerStore.mem_kept.1 hv).1 same).2
        (.inl ⟨rfl, left.trans (ControllerStore.mem_kept.1 hv).2⟩)
    rw [outcome_removeFabric (find?_kept apart hv)]
    cases answered : removalAnswer v.ownIndex index v.fabrics with
    | error m =>
      exact ⟨List.not_mem_nil, _, kept rfl rfl, rfl, rfl, (strike_nil _).symm⟩
    | ok j =>
      have other : v.ownIndex ≠ index := by
        rintro rfl
        rw [removalAnswer, if_pos rfl] at answered
        cases answered
      simp only [answer, Response.ok, Errand.struck, if_true, List.mem_singleton]
      exact ⟨other, _, kept rfl rfl, rfl, rfl, rfl⟩
  · have none (verdict : Verdict) : a.struck v.id verdict = [] := by
      cases a <;> cases verdict <;> try rfl
      rename_i id index
      exact if_neg fun same => asked ⟨index, congrArg (Errand.removeFabric · index) same⟩
    obtain ⟨v', kept, agrees⟩ := agrees_outcome c devices apart hv stays
      fun index same => asked ⟨index, same⟩
    simp only [none, strike_nil]
    exact ⟨List.not_mem_nil, v', kept, agrees.id, agrees.ownIndex, agrees.fabrics⟩

end Client

namespace Gateway

variable {g : Gateway} {ref : NodeRef} {own : Fabric} {table : List Fabric} {v : Node}
  {st : ControllerStore} {x : Happening} {n m : Nat} {r : Request} {a : Errand}

/-! ## Every run -/

/-- The indices that are struck off the table of a node when something happens: that of a request
    that succeeds. -/
def struck (g : Gateway) (ref : NodeRef) : Happening → List Nat
  | .deed (.asked m r) =>
    match g.desk? m, Errand.ofRequest r, (g.handle m r).1 with
    | some (c, _), .ok a, some response =>
      if c.store = ref.store then a.struck ref.id response.verdict else []
    | _, _, _ => []
  | _ => []

/-- The indices that are struck off the table of a node while several things happen. -/
def struckOver (g : Gateway) (ref : NodeRef) : List Happening → List Nat
  | [] => []
  | x :: xs => g.struck ref x ++ struckOver (g.happen x) ref xs

/-- A session removes a node. -/
def Dismisses (g : Gateway) (ref : NodeRef) : Happening → Prop
  | .deed (.asked m r) => g.Serves m ref.store ∧ Errand.ofRequest r = .ok (.remove ref.id)
  | _ => False

/-- A node that is on the fabric of its controller. -/
structure Enrolled (g : Gateway) (ref : NodeRef) (own : Fabric) (table : List Fabric)
    (st : ControllerStore) (v : Node) : Prop where
  homely : g.Homely
  store : g.engine.controllerStores[ref.store]? = some st
  kept : v ∈ st.kept
  id : v.id = ref.id
  fabrics : v.fabrics = table
  ownIndex : v.ownIndex = own.index
  mem : own ∈ table

theorem Enrolled.moved (h : g.Enrolled ref own table st v)
    {struck : List Nat} (spared : own.index ∉ struck) {st' : ControllerStore}
    (hst : (g.happen x).engine.controllerStores[ref.store]? = some st') {v' : Node}
    (kept : v' ∈ st'.kept) (id : v'.id = v.id) (ownIndex : v'.ownIndex = v.ownIndex)
    (fabrics : v'.fabrics = strike struck v.fabrics) :
    ∃ st' v', (g.happen x).Enrolled ref own (strike struck table) st' v' :=
  ⟨st', v', homely_happen h.homely x, hst, kept, id.trans h.id, h.fabrics ▸ fabrics,
    ownIndex.trans h.ownIndex, mem_strike.2 ⟨h.mem, spared⟩⟩

theorem agrees_changeKept {f : Node → Node} (keeps : ∀ v, (f v).removed = v.removed)
    (agrees : ∀ v : Node, v.Agrees (f v)) (hv : v ∈ st.kept) :
    ∃ v' ∈ (st.changeKept f).kept, v.Agrees v' :=
  ⟨f v, (mem_kept_changeKept keeps).2 ⟨v, hv, rfl⟩, agrees v⟩

theorem agrees_bound (l : Listener) (hv : v ∈ st.kept) : ∃ v' ∈ (st.bound l).kept, v.Agrees v' :=
  agrees_changeKept (fun _ => rfl) (fun _ => ⟨rfl, rfl, rfl⟩) hv

theorem agrees_darkened (hv : v ∈ st.kept) : ∃ v' ∈ st.darkened.kept, v.Agrees v' :=
  agrees_changeKept (fun _ => rfl) (fun _ => ⟨rfl, rfl, rfl⟩) hv

/-- A session that begins leaves the fabrics of nodes alone. -/
theorem agrees_begun (h : g.Homely) {i : Nat} (hst : g.engine.controllerStores[i]? = some st)
    (hv : v ∈ st.kept) (m : Nat) : ∃ st', (g.initSession m).2.engine.controllerStores[i]? =
      some st' ∧ ∃ v' ∈ st'.kept, v.Agrees v' := by
  have same : v.Agrees v := ⟨rfl, rfl, rfl⟩
  rcases begun_cases h m with ⟨-, run⟩ | ⟨s, e', -, -, run, life⟩
  · exact ⟨st, by rwa [run], v, hv, same⟩
  have opened : ∃ st', (s.opened g.engine).controllerStores[i]? = some st' ∧
      ∃ v' ∈ st'.kept, v.Agrees v' := by
    refine ⟨_, State.store_withController h.keys hst, ?_⟩
    split
    · exact agrees_bound _ hv
    · exact ⟨v, hv, same⟩
  obtain ⟨st', hst', v', hv', agrees⟩ := opened
  rw [run]
  rcases life with ⟨-, rfl⟩ | ⟨k, c, -, -, -, -, rfl⟩
  · exact ⟨st', hst', v', hv', agrees⟩
  · refine ⟨_, State.store_withoutController hst', ?_⟩
    split
    · obtain ⟨v'', hv'', again⟩ := agrees_darkened hv'
      exact ⟨v'', hv'', agrees.trans again⟩
    · exact ⟨v', hv', agrees⟩

/-- A request, to the store where its session works. -/
theorem asked_store (h : g.Homely) (hst : g.engine.controllerStores[ref.store]? = some st)
    (m : Nat) (r : Request) :
    ((g.happen (.deed (.asked m r))).engine.controllerStores[ref.store]? = some st ∧
      g.struck ref (.deed (.asked m r)) = []) ∨
    ∃ c a, g.Staffed m c st ∧ c.store = ref.store ∧ Errand.ofRequest r = .ok a ∧
      (g.happen (.deed (.asked m r))).engine.controllerStores[ref.store]? =
        some (a.task.outcome c g.engine.devices st).2.store ∧
      g.struck ref (.deed (.asked m r)) =
        a.struck ref.id (answer r (a.task.outcome c g.engine.devices st).1).verdict := by
  have run : g.happen (.deed (.asked m r)) = g.stirred (g.stir? (.deed (.asked m r))) :=
    handle_stir h m r
  rw [run]
  cases desk : g.desk? m with
  | none => exact .inl (by simp [stir?, struck, desk, stirred, hst])
  | some cst =>
    obtain ⟨c, st'⟩ := cst
    have staffed := h.staffed_of_desk? desk
    cases asked : Errand.ofRequest r with
    | error f => exact .inl (by simp [stir?, struck, desk, asked, Except.toOption, stirred, hst])
    | ok a =>
      have stir : g.stir? (.deed (.asked m r)) =
          some (c.store, (a.task.outcome c g.engine.devices st').2) := by
        simp [stir?, desk, asked, Except.toOption]
      have store := store_stirred hst c.store (a.task.outcome c g.engine.devices st').2
      rw [stir]
      simp only [struck, desk, asked, handle_staffed h staffed asked]
      by_cases here : c.store = ref.store
      · obtain rfl : st' = st := Option.some.inj (staffed.store.symm.trans (here ▸ hst))
        rw [if_pos here] at store ⊢
        exact .inr ⟨c, a, staffed, here, rfl, store, rfl⟩
      · rw [if_neg here] at store ⊢
        exact .inl ⟨store, rfl⟩

theorem Enrolled.happen (h : g.Enrolled ref own table st v) (stays : ¬g.Dismisses ref x) :
    ∃ st' v', (g.happen x).Enrolled ref own (strike (g.struck ref x) table) st' v' := by
  have home := h.homely
  have apart := home.apart st (List.mem_of_getElem? h.store)
  -- most of what happens strikes nothing off
  have agreed (none : g.struck ref x = []) (after : ∃ st',
      (g.happen x).engine.controllerStores[ref.store]? = some st' ∧ ∃ v' ∈ st'.kept, v.Agrees v') :
      ∃ st' v', (g.happen x).Enrolled ref own (strike (g.struck ref x) table) st' v' := by
    obtain ⟨st', hst', v', hv', agrees⟩ := after
    exact h.moved (none ▸ List.not_mem_nil) hst' hv' agrees.id agrees.ownIndex
      (by rw [none, strike_nil, agrees.fabrics])
  have still (none : g.struck ref x = [])
      (after : (g.happen x).engine.controllerStores[ref.store]? = some st) :=
    agreed none ⟨st, after, v, h.kept, rfl, rfl, rfl⟩
  cases x with
  | said r endpoint cluster u =>
    have run := said_stir home r endpoint cluster u
    cases voice : g.voice? r endpoint cluster u with
    | none => exact still rfl (by rw [run, voice]; exact h.store)
    | some iw =>
      obtain ⟨i, w⟩ := iw
      obtain ⟨st', n, step, rfl, hst', found, said, rfl⟩ := voice_cases voice
      refine agreed rfl ⟨_, by rw [run, voice]; exact store_stirred h.store _ _, ?_⟩
      split
      · rename_i here
        obtain rfl : st' = st := Option.some.inj (hst'.symm.trans (here ▸ h.store))
        refine agrees_told apart h.kept (found_kept found).1 (Utterance.tells said) ?_
        rintro rfl
        exact Utterance.agrees said
      · exact ⟨v, h.kept, rfl, rfl, rfl⟩
  | deed x =>
    cases x with
    | opened | added => exact still rfl h.store
    | initialised m => exact agreed rfl (agrees_begun home h.store h.kept m)
    | ended m =>
      rcases store_ended home h.store m with same | ⟨-, after⟩
      · exact still rfl same
      · exact agreed rfl ⟨_, after, agrees_darkened h.kept⟩
    | asked m r =>
      rcases asked_store home h.store m r with ⟨same, none⟩ |
        ⟨c, a, staffed, here, asked, after, struck⟩
      · exact still none same
      · have spared : a ≠ .remove v.id := by
          rintro rfl
          exact stays ⟨⟨c, st, staffed.desk?, here⟩, h.id ▸ asked⟩
        obtain ⟨spared, v', hv', id, ownIndex, fabrics⟩ := struck_outcome c g.engine.devices apart
          h.kept spared r
        rw [h.id, ← struck] at spared fabrics
        exact h.moved (h.ownIndex ▸ spared) after hv' id ownIndex fabrics

/-- Whatever happens, the table loses what is struck off. -/
theorem Enrolled.after (h : g.Enrolled ref own table st v) (xs : List Happening)
    (stays : g.Throughout (fun g x => ¬g.Dismisses ref x) xs) :
    ∃ st' v', (g.after xs).Enrolled ref own (strike (g.struckOver ref xs) table) st' v' := by
  induction xs generalizing g table st v with
  | nil => exact ⟨st, v, (strike_nil table).symm ▸ h⟩
  | cons x xs ih =>
    obtain ⟨st', v', step⟩ := h.happen stays.1
    have rest := ih step stays.2
    rwa [strike_strike] at rest

/-! ## Requests about fabrics -/

/-- A request struck the entries of an index off the table of a node; the node was connected first
    if it was not. -/
def Struck (m : Nat) (ref : NodeRef) (index : Nat) (g g' : Gateway) : Prop :=
  ∃ c st v, g.desk? m = some (c, st) ∧ c.store = ref.store ∧ v ∈ st.kept ∧ v.id = ref.id ∧
    g' = { g with engine := g.engine.stirred c.store ⟨g.engine.devices,
      st.put { v with connected := true, fabrics := strike [index] v.fabrics }, v.listener,
      v.connect.2⟩ }

/-- A node whose table of fabrics holds that of its controller, and what requests about the table
    come to. -/
structure Guarded (ref : NodeRef) (own : Fabric) (table : List Fabric) (g : Gateway) : Prop where
  mem : own ∈ table
  node : ∃ v, g.engine.node? ref = some v ∧ v.fabrics = table ∧ v.ownIndex = own.index
  shown : ∀ m r, g.Serves m ref.store → Errand.ofRequest r = .ok (.fabrics ref.id) →
    (g.handle m r).1 = some (.ok r.id (.arr (table.map (·.toJson))))
  refused : ∀ m r, g.Serves m ref.store →
    Errand.ofRequest r = .ok (.removeFabric ref.id own.index) →
    (g.handle m r).1 = some (.fail r.id "Will not delete our own fabric") ∧
      Refused m r g (g.handle m r).2
  unlisted : ∀ m r index, g.Serves m ref.store →
    Errand.ofRequest r = .ok (.removeFabric ref.id index) → (∀ f ∈ table, f.index ≠ index) →
    (g.handle m r).1 =
        some (.fail r.id ("Fabric index " ++ Text.showNat index ++ " not found")) ∧
      Refused m r g (g.handle m r).2
  removed : ∀ m r index, g.Serves m ref.store →
    Errand.ofRequest r = .ok (.removeFabric ref.id index) → index ≠ own.index →
    (∃ f ∈ table, f.index = index) →
    (g.handle m r).1 = some (.ok r.id .null) ∧ Struck m ref index g (g.handle m r).2

/-- A session that works on the store of a node. -/
theorem Enrolled.staffed (h : g.Enrolled ref own table st v) (serves : g.Serves m ref.store) :
    ∃ c, g.Staffed m c st ∧ c.store = ref.store := by
  obtain ⟨c, st', desk, here⟩ := serves
  have staffed := h.homely.staffed_of_desk? desk
  obtain rfl : st' = st := Option.some.inj (staffed.store.symm.trans (here ▸ h.store))
  exact ⟨c, staffed, here⟩

theorem Enrolled.found (h : g.Enrolled ref own table st v) :
    st.kept.find? (·.id = ref.id) = some v :=
  h.id ▸ find?_kept (h.homely.apart st (List.mem_of_getElem? h.store)) h.kept

/-- A request to remove fabrics that is refused leaves at most a connection. -/
theorem Enrolled.refuses (h : g.Enrolled ref own table st v) (serves : g.Serves m ref.store)
    {index : Nat} (asked : Errand.ofRequest r = .ok (.removeFabric ref.id index)) {f : Failure}
    (refused : removalAnswer own.index index table = .error (.failed f)) :
    (g.handle m r).1 = some (.fail r.id f.message) ∧ Refused m r g (g.handle m r).2 := by
  obtain ⟨c, staffed, -⟩ := h.staffed serves
  obtain ⟨s, k, hn, hs, -⟩ := staffed.session
  have answered : (g.handle m r).1 = some (.fail r.id f.message) := by
    rw [handle_staffed h.homely staffed asked, outcome_removeFabric h.found, h.ownIndex, h.fabrics,
      refused]
    rfl
  exact ⟨answered, refused_request h.homely hn (by simp [hs]) answered rfl⟩

theorem Enrolled.guarded (h : g.Enrolled ref own table st v) : Guarded ref own table g where
  mem := h.mem
  node := ⟨v, by simp [State.node?, h.store, h.found], h.fabrics, h.ownIndex⟩
  shown := by
    intro m r serves asked
    obtain ⟨c, staffed, -⟩ := h.staffed serves
    have connected : v.connect.1.fabricTable = .ok table := by
      rw [Node.connect_fst, ← h.fabrics]
      rfl
    rw [handle_staffed h.homely staffed asked]
    simp only [Errand.task, Task.outcome, h.found, asking, connected]
    rfl
  refused := by
    intro m r serves asked
    exact h.refuses serves asked (if_pos rfl)
  unlisted := by
    intro m r index serves asked absent
    exact h.refuses serves asked ((if_neg (absent own h.mem)).trans (if_pos absent))
  removed := by
    rintro m r index serves asked other ⟨f, hf, present⟩
    obtain ⟨c, staffed, here⟩ := h.staffed serves
    have granted : removalAnswer v.ownIndex index v.fabrics = .ok .null := by
      rw [h.ownIndex, h.fabrics]
      exact (if_neg (Ne.symm other)).trans (if_neg fun absent => absent f hf present)
    rw [handle_staffed h.homely staffed asked, outcome_removeFabric h.found, granted]
    exact ⟨rfl, c, st, v, staffed.desk?, here, h.kept, h.id, rfl⟩

/-- A device that is paired is on the fabric of its controller. -/
theorem Staffed.enrolled (h : g.Homely) {c : Controller} (staffed : g.Staffed n c st)
    {q : Pairing.Request} (asked : Errand.ofRequest r = .ok (.pair q)) {dev : Device}
    {others : List Device} (found : Device.find? q g.engine.devices = .ok (dev, others)) :
    (g.happen (.deed (.asked n r))).Enrolled ⟨c.store, st.nextId⟩ (dev.membership st)
      (dev.fabrics ++ [dev.membership st]) (st.joined (dev.node c st)) (dev.node c st) := by
  have minds := staffed.minds h asked found
  exact ⟨minds.homely, minds.store, minds.kept, rfl, rfl, rfl, by simp⟩

/-- From the moment that a device is paired until it is removed, its table holds the fabric of its
    controller and what requests have not struck off of its own. -/
theorem guarded_after (past rest : List Happening) {n : Nat} {c : Controller} {st : ControllerStore}
    (desk : (initial.after past).desk? n = some (c, st)) {r : Request} {q : Pairing.Request}
    (asked : Errand.ofRequest r = .ok (.pair q)) {dev : Device} {others : List Device}
    (found : Device.find? q (initial.after past).engine.devices = .ok (dev, others)) :
    let g := (initial.after past).happen (.deed (.asked n r))
    let ref : NodeRef := ⟨c.store, st.nextId⟩
    g.Throughout (fun g x => ¬g.Dismisses ref x) rest →
      Guarded ref (dev.membership st)
        (strike (g.struckOver ref rest) (dev.fabrics ++ [dev.membership st])) (g.after rest) := by
  intro g ref stays
  have home := homely_after homely_initial past
  have enrolled := (home.staffed_of_desk? desk).enrolled home asked found
  obtain ⟨st', v', after⟩ := enrolled.after rest stays
  exact after.guarded

/-- A bulb that is on three fabrics already, two of which have one index, and the greatest there
    is. -/
def sharedBulb : Device :=
  { bulb with fabrics :=
      [⟨3, 9, 70, 65521, "den"⟩, ⟨255, 10, 71, 65521, "attic"⟩, ⟨3, 11, 72, 65521, "porch"⟩] }

/-- The bulb is paired, and gets the index of the attic; neither goes on request. The other two do,
    at once; then the session is over, and another one asks in vain. -/
theorem guarded_after_sharedBulb :
    let past : List Happening := [.deed (.added sharedBulb), .deed (.opened hallway ⟨250, 32⟩),
      .deed (.opened hallway ⟨250, 32⟩), .deed (.initialised 0)]
    let g := (initial.after past).happen (.deed (.asked 0 pairBulb))
    let rest : List Happening :=
      [.deed (.asked 0 (onNodes "removeFabric" [.ofNat 1, .ofNat 255])),
        .deed (.asked 0 (onNodes "removeFabric" [.ofNat 1, .ofNat 3])),
        .deed (.ended 0), .deed (.initialised 1),
        .deed (.asked 1 (onNodes "removeFabric" [.ofNat 1, .ofNat 3]))]
    g.struckOver ⟨0, 1⟩ rest = [3] ∧
      Guarded ⟨0, 1⟩ ⟨255, 1, 1, 65521, ""⟩
        [⟨255, 10, 71, 65521, "attic"⟩, ⟨255, 1, 1, 65521, ""⟩] (g.after rest) := by
  intro past g rest
  have desk : (initial.after past).desk? 0 = some (⟨"hallway", 1, 0, false, .sink 0⟩,
      ⟨hallway.controllerConfig.key, [], 1⟩) := rfl
  have asked : Errand.ofRequest pairBulb =
      .ok (.pair (.ofArguments none (some 15) (some 20202021))) := rfl
  have found : Device.find? (.ofArguments none (some 15) (some 20202021))
      (initial.after past).engine.devices = .ok (sharedBulb, []) := rfl
  have struck : g.struckOver ⟨0, 1⟩ rest = [3] := by decide +kernel
  have stays : g.Throughout (fun g x => ¬g.Dismisses ⟨0, 1⟩ x) rest := by
    refine ⟨?_, ?_, id, id, ?_, trivial⟩
    all_goals
      rintro ⟨-, other⟩
      cases other
  have after := guarded_after past rest desk asked found stays
  rw [struck] at after
  exact ⟨struck, after⟩

/-- The bulb was disconnected. Whoever asks to remove the fabric of the controller is refused, but
    the bulb is connected, and this is told. -/
theorem removal_connects_bulb :
    let g := initial.after (movingIn ++ [.deed (.asked 0 (onNodes "disconnectNode" [.ofNat 1]))])
    let r := onNodes "removeFabric" [.ofNat 1, .ofNat 1]
    g.Serves 0 0 ∧ (g.engine.node? ⟨0, 1⟩).map (·.ownIndex) = some 1 ∧
      (g.handle 0 r).1 = some (.fail r.id "Will not delete our own fabric") ∧
      (g.handle 0 r).2 ≠ g := by
  refine ⟨⟨_, _, rfl, rfl⟩, rfl, rfl, fun same => ?_⟩
  have told := congrArg (fun g : Gateway => g.engine.journal.length) same
  exact absurd told (by decide)

end Gateway

end HomeGateway
