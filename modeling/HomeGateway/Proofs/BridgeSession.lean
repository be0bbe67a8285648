/-
  What a bridge session does, in an engine that holds nothing up.

  The session keeps a list of members; the engine keeps the endpoints, the
  aggregator and the server node.  `Live.Backed` says that the two agree.  Each
  operation comes to one of a few outcomes, and all of them keep the agreement.
  What else the endpoints are like is left open: `Fit` stands for it.

  * `run_init`, `run_close`, `run_reset`: the life of the server node;
  * `run_addEndpoint_made`, `_taken`, `_refused`: how an endpoint is made or not;
  * `run_setState_known`, `_unknown`: a caller's write;
  * `Grounded.init`, `.close`, `.made`, `.put`: the agreement is kept.
-/
import HomeGateway.Proofs.Actions
import HomeGateway.Proofs.Echo
import Mathlib.Data.List.Nodup

namespace HomeGateway.Bridge

open HomeGateway Device Engine

/-! ## Agreement of a session and the engine -/

/-- The engine keeps the endpoint of a member, and it is fit. -/
def Member.Kept (Fit : VirtualEndpoint → Prop) (e : State) (m : Member) : Prop :=
  ∃ v, e.endpoints[m.handle]? = some (.followed v) ∧ Fit v ∧
    v.endpoint.id = m.id ∧ v.endpoint.type = m.type

/-- The engine keeps what an initialised session has. -/
structure Live.Backed (Fit : VirtualEndpoint → Prop) (e : State) (l : Live) : Prop where
  /-- the server node -/
  server : ∃ sv, e.servers[l.server]? = some sv ∧ sv.aggregator = some l.aggregator
  /-- the aggregator -/
  aggregator : e.aggregators[l.aggregator]? = some (l.members.map (·.handle))
  /-- the endpoints -/
  members : ∀ m ∈ l.members, m.Kept Fit e
  /-- no two of them are one -/
  handles : (l.members.map (·.handle)).Nodup
  /-- their ids differ -/
  ids : (l.members.map (·.id)).Nodup
  /-- none is being made -/
  pending : l.pending = []

/-- A session and the engine agree. -/
structure Grounded (Fit : VirtualEndpoint → Prop) (s : Session) (e : State) : Prop where
  /-- the engine holds nothing up -/
  free : e.Free
  /-- what there is of the session -/
  backed : ∀ l, s.live = some l → l.Backed Fit e

variable {Fit : VirtualEndpoint → Prop} {s : Session} {e : State} {l : Live}

/-- The endpoint that the engine keeps under a number. -/
def endpointAt? (e : State) (handle : Nat) : Option Endpoint :=
  (e.endpoints[handle]?).map (·.endpoint)

theorem member?_eq_some {l : Live} {id : String} {m : Member} (h : l.member? id = some m) :
    m ∈ l.members ∧ m.id = id := by
  refine ⟨List.mem_of_find?_eq_some h, ?_⟩
  simpa using List.find?_some h

theorem member?_isSome (l : Live) (id : String) :
    (l.member? id).isSome = l.members.any (·.id = id) := by
  rw [Live.member?, Bool.eq_iff_iff, List.find?_isSome, List.any_eq_true]

/-! ## The life of the server node -/

/-- A session after it was initialised. -/
def Session.begun (s : Session) (e : State) : Session :=
  { s with
    clearNext := false
    generation := s.generation + 1
    live := some ⟨s.generation, e.servers.length, e.aggregators.length, [], []⟩ }

/-- The engine after a session was initialised. -/
def Session.opened (s : Session) (e : State) : State :=
  let config := s.params.serverConfig s.clearNext
  { e with
    serverStores := (e.readyStore config).1
    servers := e.servers ++ [.fresh config (e.readyStore config).2 (some e.aggregators.length)]
    aggregators := e.aggregators ++ [[]] }

/-- A session without a server node. -/
def Session.ended (s : Session) : Session :=
  { s with live := none }

/-- The engine after a server node with this aggregator was closed. -/
def Live.closed (l : Live) (e : State) : State :=
  { e with
    servers := e.servers.modify l.server .shut
    aggregators := e.aggregators.set l.aggregator [] }

theorem run_theLive (hl : s.live = some l) (e : State) : theLive (s, e) = (.ok l, s, e) := by
  simp [theLive, hl]

theorem modify_length_append {α : Type} (xs : List α) (x : α) (f : α → α) :
    (xs ++ [x]).modify xs.length f = xs ++ [f x] := by
  induction xs with
  | nil => rfl
  | cons y ys ih => simp [ih]

theorem run_init (hl : s.live = none) (hf : e.faults = []) :
    init (s, e) = (.ok (), s.begun e, s.opened e) := by
  have node (sv : Server) : (e.servers ++ [sv])[e.servers.length]? = some sv :=
    List.getElem?_concat_length
  have hnode := fun (stores : List ServerStore) (sv : Server) =>
    run_addAggregator (s := { e with serverStores := stores, servers := e.servers ++ [sv] }) hf
      (node sv)
  simp [init, hl, run_createServer _ hf, hnode, Server.fresh, Session.begun, Session.opened,
    modify_length_append]

theorem run_close_none (hl : s.live = none) (e : State) : close (s, e) = (.ok (), s, e) := by
  have : ({ s with live := none } : Session) = s := by rw [← hl]
  simp [close, hl, this]

theorem run_close (hl : s.live = some l) (hf : e.faults = []) (hb : l.Backed Fit e) :
    close (s, e) = (.ok (), s.ended, l.closed e) := by
  obtain ⟨sv, hsv, hagg⟩ := hb.server
  simp [close, hl, run_closeServer hf hsv, hagg, Session.ended, Live.closed]

theorem run_reset (hl : s.live = some l) (hf : e.faults = []) (hb : l.Backed Fit e) :
    reset (s, e) = (.ok (), s.ended.begun (l.closed e), s.ended.opened (l.closed e)) := by
  simp only [reset, Use.run_bind, run_close hl hf hb]
  exact run_init rfl hf

theorem Grounded.init (h : e.Free) (s : Session) : Grounded Fit (s.begun e) (s.opened e) where
  free := ⟨h.writes, h.adds, h.faults⟩
  backed := by
    rintro l hl
    obtain rfl : _ = l := Option.some.inj hl
    have node : (s.opened e).servers[e.servers.length]? = some (.fresh _ _ _) :=
      List.getElem?_concat_length
    refine ⟨⟨_, node, rfl⟩, ?_, ?_, ?_, ?_, rfl⟩
    · exact List.getElem?_concat_length
    · simp
    · exact List.nodup_nil
    · exact List.nodup_nil

theorem Grounded.close (h : Grounded Fit s e) (l : Live) : Grounded Fit s.ended (l.closed e) where
  free := ⟨h.free.writes, h.free.adds, h.free.faults⟩
  backed := by rintro _ ⟨⟩

/-! ## Making an endpoint -/

theorem definition_id {spec : Spec} {maxLabel : Nat} {d : Definition}
    (h : spec.definition maxLabel = .ok d) : d.id = spec.id := by
  simp only [Spec.definition, bind, Except.bind] at h
  split at h
  · cases h
  split at h
  · cases h
  · cases h
    rfl

theorem run_addEndpoint_taken (hl : s.live = some l) {spec : Spec} (ht : l.taken spec.id = true)
    (e : State) :
    addEndpoint spec (s, e) = (.error (.failed (.duplicateEndpoint spec.id)), s, e) := by
  simp [addEndpoint, reserve, run_theLive hl, ht]

theorem filter_pending {id : String} {pending : List String} (h : pending.contains id = false) :
    (id :: pending).filter (· ≠ id) = pending := by
  simp only [ne_eq, decide_not, List.filter_cons, decide_true, Bool.not_true, Bool.false_eq_true,
    if_false]
  refine List.filter_eq_self.2 fun x hx => ?_
  have : x ≠ id := by
    rintro rfl
    simp [hx] at h
  simp [this]

theorem not_taken {id : String} (h : l.taken id = false) :
    l.member? id = none ∧ l.pending.contains id = false := by
  simpa [Live.taken] using h

theorem run_addEndpoint_refused (hl : s.live = some l) {spec : Spec} {f : Failure}
    (ht : l.taken spec.id = false) (hd : spec.definition s.options.maxLabel = .error f)
    (e : State) : addEndpoint spec (s, e) = (.error (.failed f), s, e) := by
  have back := filter_pending (not_taken ht).2
  simp only [ne_eq, decide_not] at back
  have same : ({ s with live := some { l with pending := l.pending } } : Session) = s := by
    rw [← hl]
  simp [addEndpoint, reserve, run_theLive hl, ht, hd, settleAddition, back, same]

/-- A session with one more member. -/
def Session.joined (s : Session) (l : Live) (d : Definition) (e : State) : Session :=
  { s with live := some { l with members := l.members ++ [⟨d.id, d.type, e.endpoints.length⟩] } }

/-- The engine with one more endpoint. -/
def Live.grown (l : Live) (d : Definition) (window sink : Nat) (e : State) : State :=
  { e with
    endpoints := e.endpoints ++ [.followed (.make window sink d)]
    aggregators := e.aggregators.set l.aggregator
      (l.members.map (·.handle) ++ [e.endpoints.length]) }

/-- An id that no member has is free in the aggregator too. -/
theorem endpointAmong?_members (hb : l.Backed Fit e) {id : String}
    (h : l.member? id = none) :
    e.endpointAmong? id (l.members.map (·.handle)) = none := by
  simp only [State.endpointAmong?, List.find?_eq_none, List.mem_map, forall_exists_index, and_imp,
    forall_apply_eq_imp_iff₂, decide_eq_true_eq]
  intro m hm
  obtain ⟨v, hv, -, hid, -⟩ := hb.members m hm
  have other : m.id ≠ id := by simpa using List.find?_eq_none.1 h m hm
  simp [State.endpointId, hv, Bridged.endpoint, hid, other]

theorem run_addEndpoint_made (hl : s.live = some l) (h : Grounded Fit s e) {spec : Spec}
    {d : Definition} (ht : l.taken spec.id = false)
    (hd : spec.definition s.options.maxLabel = .ok d) :
    addEndpoint spec (s, e) =
      (.ok (.done .null), s.joined l d e, l.grown d s.options.lockWindow s.sink e) := by
  have hb := h.backed l hl
  have hid := definition_id hd
  have back := filter_pending (not_taken ht).2
  simp only [ne_eq, decide_not] at back
  have free : l.member? d.id = none := by rw [hid]; exact (not_taken ht).1
  have added := run_addEndpoint (b := .followed (.make s.options.lockWindow s.sink d)) h.free.faults
    hb.aggregator (endpointAmong?_members hb free)
  simp [addEndpoint, reserve, run_theLive hl, ht, hd, h.free.adds, finishAddition, added,
    settleAddition, hid, back, Session.joined, Live.grown]

theorem Member.Kept.append {m : Member} (h : m.Kept Fit e) (b : Bridged)
    (aggregators : List (List Nat)) :
    m.Kept Fit { e with endpoints := e.endpoints ++ [b], aggregators := aggregators } := by
  obtain ⟨v, hv, rest⟩ := h
  have hlt := (List.getElem?_eq_some_iff.1 hv).1
  exact ⟨v, by rw [List.getElem?_append_left hlt, hv], rest⟩

theorem Member.Kept.lt {m : Member} (h : m.Kept Fit e) : m.handle < e.endpoints.length := by
  obtain ⟨v, hv, -⟩ := h
  exact (List.getElem?_eq_some_iff.1 hv).1

theorem Grounded.made (h : Grounded Fit s e) (hl : s.live = some l) {spec : Spec} {d : Definition}
    (ht : l.taken spec.id = false) (hd : spec.definition s.options.maxLabel = .ok d)
    (fit : Fit (.make s.options.lockWindow s.sink d)) :
    Grounded Fit (s.joined l d e) (l.grown d s.options.lockWindow s.sink e) where
  free := ⟨h.free.writes, h.free.adds, h.free.faults⟩
  backed := by
    rintro _ ⟨⟩
    have hb := h.backed l hl
    have fresh : d.id ∉ l.members.map (·.id) := by
      have := (not_taken ht).1
      rw [← definition_id hd, Live.member?, List.find?_eq_none] at this
      simpa using this
    have above : e.endpoints.length ∉ l.members.map (·.handle) := by
      intro hmem
      obtain ⟨m, hm, heq⟩ := List.mem_map.1 hmem
      exact Nat.ne_of_lt (hb.members m hm).lt heq
    refine ⟨hb.server, ?_, ?_, ?_, ?_, hb.pending⟩
    · have hlt := (List.getElem?_eq_some_iff.1 hb.aggregator).1
      simp [Live.grown, hlt]
    · intro m hm
      rcases List.mem_append.1 hm with hm | hm
      · exact (hb.members m hm).append _ _
      · obtain rfl := List.mem_singleton.1 hm
        exact ⟨_, List.getElem?_concat_length, fit, rfl, rfl⟩
    · simpa using hb.handles.concat above
    · simpa using hb.ids.concat fresh

/-! ## A caller's write -/

theorem run_setState_unknown (hl : s.live = some l) {id : String} (h : l.member? id = none)
    (cluster attr : String) (value : Json) (e : State) :
    setState id cluster attr value (s, e) = (.ok (.done .null), s, e) := by
  simp [setState, run_theLive hl, h]

theorem run_setState_known (hl : s.live = some l) (hfree : e.Free) {id : String} {m : Member}
    (hm : l.member? id = some m) {v : VirtualEndpoint}
    (hv : e.endpoints[m.handle]? = some (.followed v)) (cluster attr : String) (value : Json) :
    setState id cluster attr value (s, e) =
      ((v.write e.now cluster attr value).1.mapError (fun f => .failed (.engine f)) |>.map
          fun _ => .done .null,
        s, e.put m.handle (.followed (v.write e.now cluster attr value).2.after)
          (Bridged.journal (v.write e.now cluster attr value).2)) := by
  have written : Engine.write e.now true cluster attr value (.followed v) =
      ((v.write e.now cluster attr value).1, .followed (v.write e.now cluster attr value).2.after,
        Bridged.journal (v.write e.now cluster attr value).2) := rfl
  simp only [setState, run_theLive hl, hm, Use.run_bind, Use.run_act, run_startWrite hv,
    Act.run_get, State.writesHeld_put, hfree.writes, Bool.false_eq_true, if_false,
    run_finishWrite hv, Use.run_pure, written, outcome]
  cases (v.write e.now cluster attr value).1 <;> rfl

/-- Another state of an endpoint keeps the agreement. -/
theorem Grounded.put (h : Grounded Fit s e) {handle : Nat} {v v' : VirtualEndpoint}
    (hv : e.endpoints[handle]? = some (.followed v)) (fit : Fit v')
    (hid : v'.endpoint.id = v.endpoint.id) (htype : v'.endpoint.type = v.endpoint.type)
    (told : Journal) : Grounded Fit s (e.put handle (.followed v') told) where
  free := ⟨h.free.writes, h.free.adds, h.free.faults⟩
  backed := by
    intro l hl
    have hb := h.backed l hl
    have hlt := (List.getElem?_eq_some_iff.1 hv).1
    refine ⟨hb.server, hb.aggregator, ?_, hb.handles, hb.ids, hb.pending⟩
    intro m hm
    obtain ⟨w, hw, fitw, wid, wtype⟩ := hb.members m hm
    by_cases heq : m.handle = handle
    · rw [heq, hv] at hw
      obtain rfl : v = w := Bridged.followed.inj (Option.some.inj hw)
      exact ⟨v', by simp [State.put, heq, hlt], fit, hid.trans wid, htype.trans wtype⟩
    · exact ⟨w, by simp [State.put, List.getElem?_set_ne (Ne.symm heq), hw], fitw, wid, wtype⟩

end HomeGateway.Bridge
