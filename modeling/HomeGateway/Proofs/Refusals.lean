/-
  Requests that are refused.

  Each function of a client finds out whether it can do what is asked before it
  changes anything, except that a node is connected first.  So at most that
  connection is left of a request that is refused.

  * `refused_outcome`: what is left of a task;
  * `refused_handle`: what is left of a request, after every run.
-/
import HomeGateway.Proofs.Homes

namespace HomeGateway

open Engine Client Call

namespace Client

/-- The node that a request names. -/
def Errand.node? : Errand → Option Nat
  | .list | .sessions | .pair _ => none
  | .view id | .disconnect id | .reconnect id | .remove id | .fabrics id | .removeFabric id _
  | .basicWindow id _ | .enhancedWindow id _ | .command id .. | .write id ..
  | .read id .. => some id

theorem node?_task {a : Errand} {id : Nat} {f : Node → Except Failure (Node.Step × Json)}
    (h : a.task = .visit id f) : a.node? = some id := by
  cases a <;> cases h <;> rfl

/-- Nothing is left of a task that is refused, or its node was connected. -/
theorem refused_outcome {t : Task} {c : Controller} {devices : List Device} {st : ControllerStore}
    {m : Mishap} (refused : (t.outcome c devices st).1 = .error m) :
    (t.outcome c devices st).2 = ⟨devices, st, c.listener, []⟩ ∨
    ∃ id f v, t = .visit id f ∧ st.kept.find? (·.id = id) = some v ∧
      (t.outcome c devices st).2 = ⟨devices, st.put v.connect.1, v.listener, v.connect.2⟩ := by
  have comes := comes_outcome t c devices st
  generalize t.outcome c devices st = o at comes refused
  cases comes with
  | still => exact .inl rfl
  | paired | removed | done => cases refused
  | refused found run => exact .inr ⟨_, _, _, rfl, found, rfl⟩

end Client

/-- A store but for the connections of its nodes. -/
def Engine.ControllerStore.offline (st : ControllerStore) : ControllerStore :=
  { st with nodes := st.nodes.map fun v => { v with connected := false } }

namespace Gateway

variable {g : Gateway} {n : Nat} {s : Client.Session} {r : Request}

/-- What is left of a refused request: the node that it names may have been connected, and then
    this was told once. -/
structure Refused (n : Nat) (r : Request) (g g' : Gateway) : Prop where
  devices : g'.engine.devices = g.engine.devices
  stores : g'.engine.controllerStores.map (·.offline) = g.engine.controllerStores.map (·.offline)
  connection : g' = g ∨ ∃ a c st v, Errand.ofRequest r = .ok a ∧ a.node? = some v.id ∧
    g.desk? n = some (c, st) ∧ v ∈ st.kept ∧ v.connected = false ∧
    g' = { g with engine := g.engine.stirred c.store ⟨g.engine.devices,
      st.put { v with connected := true }, v.listener, [.stateChanged v.id .connected]⟩ }

theorem Refused.nothing (n : Nat) (r : Request) (g : Gateway) : Refused n r g g :=
  ⟨rfl, rfl, .inl rfl⟩

theorem offline_put {st : ControllerStore} (apart : (st.nodes.map (·.id)).Nodup) {v : Node}
    (hv : v ∈ st.nodes) : (st.put { v with connected := true }).offline = st.offline := by
  unfold ControllerStore.offline ControllerStore.put
  congr 1
  rw [List.map_map]
  refine List.map_congr_left fun x hx => ?_
  by_cases own : x.id = v.id
  · simp [List.inj_on_of_nodup_map apart hx hv own]
  · simp [own]

/-- A request that is refused leaves everything as it was, but for one connection. -/
theorem refused_request (h : g.Homely) (hn : g.sessions[n]? = some (.client s))
    (opened : s.controller.isSome) {response : Response}
    (answered : (g.handle n r).1 = some response) (refused : response.verdict = .error) :
    Refused n r g (g.handle n r).2 := by
  cases asked : Errand.ofRequest r with
  | error f =>
    rw [handle_misread hn asked]
    exact .nothing n r g
  | ok a =>
    obtain ⟨c, st, staffed⟩ := h.staffed hn opened
    have apart := h.apart st (List.mem_of_getElem? staffed.store)
    rw [handle_staffed h staffed asked] at answered ⊢
    cases outcome : (a.task.outcome c g.engine.devices st).1 with
    | ok v =>
      rw [outcome] at answered
      cases answered
      cases refused
    | error m =>
      rcases refused_outcome outcome with still | ⟨id, f, v, visit, found, left⟩
      · rw [still]
        simp only [stirred, stirred_still staffed.store]
        exact .nothing n r g
      · obtain ⟨kept, hv, -, rfl⟩ := found_kept found
        rw [left]
        cases connected : v.connected with
        | true =>
          simp only [stirred, Node.connect, connected, if_true, Node.quiet, put_own apart hv,
            stirred_still staffed.store]
          exact .nothing n r g
        | false =>
          simp only [stirred, Node.connect, connected, Bool.false_eq_true, if_false, Node.link,
            if_true]
          refine ⟨rfl, ?_, .inr ⟨a, c, st, v, asked, node?_task visit, staffed.desk?, kept,
            connected, rfl⟩⟩
          obtain ⟨lt, rfl⟩ := List.getElem?_eq_some_iff.1 staffed.store
          show (g.engine.controllerStores.set c.store _).map _ = _
          rw [List.map_set, offline_put apart hv, ← List.map_set, List.set_getElem_self]

/-- After every run, a request of an initialised session that is refused leaves everything as it
    was, but for one connection. -/
theorem refused_handle (past : List Happening) {n : Nat} {s : Client.Session}
    (hn : (initial.after past).sessions[n]? = some (.client s)) (opened : s.controller.isSome)
    {r : Request} {response : Response}
    (answered : ((initial.after past).handle n r).1 = some response)
    (refused : response.verdict = .error) :
    Refused n r (initial.after past) ((initial.after past).handle n r).2 :=
  refused_request (homely_after homely_initial past) hn opened answered refused

/-- The bulb was disconnected; whoever asks for an endpoint that it does not have connects it. -/
theorem refused_handle_bulb :
    let g := initial.after (movingIn ++ [.deed (.asked 0 (onNodes "disconnectNode" [.ofNat 1]))])
    let r := onClusters "readAttribute" [.ofNat 1, .ofNat 2, .str "OnOff", .str "onOff"]
    (g.handle 0 r).1 = some (.fail r.id "Endpoint 2 not found") ∧
      Refused 0 r g (g.handle 0 r).2 :=
  ⟨rfl, refused_handle _ (s := ⟨hallway, 0, some 0⟩) rfl rfl rfl rfl⟩

end Gateway

end HomeGateway
