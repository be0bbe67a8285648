/-
  The server nodes of all bridges, and which of them were paired.

  Sessions of bridges are opened, used and closed in any order, several of them
  perhaps on the same storage, and commissioners pair server nodes, old ones
  too.  The annals say who made each server node and which were paired.

  * `Episode`: what can happen; `Annals.next` notes it;
  * `stores_perform`: no request but a reset touches the storage;
  * `kept_next`: what one episode keeps, and `kept_after`: what a run keeps;
  * `faithful_after`: what server nodes say and do after every run.
-/
import HomeGateway.Proofs.Advertised
import HomeGateway.Proofs.Eras

namespace HomeGateway

open Device Engine Bridge

/-! ## What happens -/

/-- Something that happens around bridges that share an engine. -/
inductive Episode where
  /-- a session is opened -/
  | opened (p : Params) (options : BridgeOptions)
  /-- a session is initialised -/
  | initialised (n : Nat)
  /-- a session is closed -/
  | closed (n : Nat)
  /-- a session is shut down -/
  | shut (n : Nat)
  /-- the caller of a session asks for something -/
  | asked (n : Nat) (r : Request)
  /-- a commissioner pairs a server node -/
  | paired (k : Nat)
  /-- someone else writes to an endpoint -/
  | written (who : String) (own : Bool) (handle : Nat) (cluster attr : String) (value : Json)
  /-- a peer gives an endpoint a command -/
  | commanded (handle : Nat) (cluster command : String) (args : Json)
  /-- writes are held up from now on -/
  | writesHeld
  /-- writes are let go -/
  | writesReleased
  /-- additions of endpoints are held up from now on -/
  | additionsHeld
  /-- additions of endpoints are let go -/
  | additionsReleased
  /-- time passes -/
  | passed (ms : Nat)

/-- The session that does something in an episode. -/
def Episode.session? : Episode → Option Nat
  | initialised n | closed n | shut n | asked n _ => some n
  | _ => none

/-- The gateway after an episode. -/
def Gateway.episode (ep : Episode) (g : Gateway) : Gateway :=
  match ep with
  | .opened p options => (g.openSession (.bridge p) options).2
  | .initialised n => (g.initSession n).2
  | .closed n => g.asBridge n Bridge.close
  | .shut n => g.shutdownSession n
  | .asked n r => (g.handle n r).2
  | .paired k => { g with engine := g.engine.markCommissioned k }
  | .written who own handle cluster attr value =>
    (g.writeByOther who own handle cluster attr value).2
  | .commanded handle cluster command args => (g.act (peerCommand handle cluster command args)).2
  | .writesHeld => g.holdWrites
  | .writesReleased => g.releaseWrites
  | .additionsHeld => g.holdAdditions
  | .additionsReleased => g.releaseAdditions
  | .passed ms => g.advance ms

/-- A gateway with what is noted of its server nodes. -/
structure Annals where
  /-- the gateway -/
  gateway : Gateway
  /-- the session that made each server node -/
  makers : List Nat
  /-- the server nodes that were paired, by their numbers -/
  paired : List Nat

namespace Annals

/-- Nothing happened yet. -/
def start : Annals :=
  ⟨.initial, [], []⟩

/-- The annals after an episode. -/
def next (a : Annals) (ep : Episode) : Annals where
  gateway := a.gateway.episode ep
  makers := a.makers ++
    match ep.session? with
    | some n =>
      List.replicate
        ((a.gateway.episode ep).engine.servers.length - a.gateway.engine.servers.length) n
    | none => []
  paired :=
    match ep with
    | .paired k => if k < a.gateway.engine.servers.length then k :: a.paired else a.paired
    | _ => a.paired

/-- The annals after several episodes. -/
def after (eps : List Episode) : Annals :=
  eps.foldl next start

end Annals

/-! ## What does not touch the storage -/

namespace Engine

/-- What is kept in the storage is as it was. -/
def State.StoresAlike (e e' : State) : Prop :=
  e'.serverStores = e.serverStores

instance : IsPreorder State State.StoresAlike where
  refl _ := rfl
  trans _ _ _ h h' := Eq.trans h' h

open State

theorem stores_trip (spot : Spot) : (trip spot).Within StoresAlike := by
  refine .get_bind fun e => ?_
  cases e.faults.find? (·.1 = spot) <;> rfl

theorem stores_modify {f : State → State} (h : ∀ e, StoresAlike e (f e)) :
    (modify f : Act Unit).Within StoresAlike := h

theorem stores_theServer (k : Nat) : (theServer k).Within StoresAlike := by
  refine .get_bind fun e => ?_
  cases e.servers[k]? <;> rfl

theorem stores_startServer (k : Nat) : (startServer k).Within StoresAlike :=
  .bind (stores_trip _) fun _ => .bind (stores_theServer k) fun _ =>
    .ite (.fail_bind _ _) (.bind (.get_bind fun _ => rfl) fun _ => stores_modify fun _ => rfl)

theorem stores_openWindow (k : Nat) : (openWindow k).Within StoresAlike :=
  .bind (stores_theServer k) fun _ => .ite (.fail_bind _ _) (stores_modify fun _ => rfl)

theorem stores_closeWindow (k : Nat) : (closeWindow k).Within StoresAlike :=
  stores_modify fun _ => rfl

theorem stores_addEndpoint (aggregator : Nat) (b : Bridged) :
    (Engine.addEndpoint aggregator b).Within StoresAlike := by
  refine .bind (stores_trip _) fun _ => .get_bind fun e => ?_
  simp only [Act.run_ite, Act.run_bind, Act.run_fail]
  split <;> rfl

theorem stores_startWrite (own : Bool) (handle : Nat) (cluster attr : String) (value : Json) :
    (startWrite own handle cluster attr value).Within StoresAlike := by
  refine .get_bind fun e => ?_
  cases e.endpoints[handle]? <;> rfl

theorem stores_finishWrite (w : Write) : (finishWrite w).Within StoresAlike := by
  refine .get_bind fun e => ?_
  cases e.endpoints[w.endpoint]? with
  | none => rfl
  | some b =>
    simp only [Act.run_set, Act.run_bind, run_tell, run_ofExcept]
    rfl

theorem stores_peerCommand (handle : Nat) (cluster command : String) (args : Json) :
    (peerCommand handle cluster command args).Within StoresAlike := by
  refine .get_bind fun e => ?_
  cases e.endpoints[handle]? with
  | none => rfl
  | some b =>
    simp only [Act.run_set, Act.run_bind, run_tell, run_ofExcept]
    rfl

end Engine

namespace Bridge

/-- What is kept in the storage is as it was, and so is what becomes of it next. -/
def StoresAlike (p q : Session × State) : Prop :=
  q.1.clearNext = p.1.clearNext ∧ p.2.StoresAlike q.2

instance : IsPreorder (Session × State) StoresAlike where
  refl _ := ⟨rfl, rfl⟩
  trans _ _ _ h h' := ⟨h'.1.trans h.1, Eq.trans h'.2 h.2⟩

theorem stores_engine {α : Type} {a : Act α} (h : a.Within State.StoresAlike) :
    (Use.engine a : Doing α).Within StoresAlike :=
  fun p => ⟨rfl, h p.2⟩

theorem stores_theLive : theLive.Within StoresAlike := by
  refine .bind .own fun s => ?_
  cases s.live with
  | none => exact .fail _
  | some l => exact .pure l

theorem stores_reserve (id : String) : (reserve id).Within StoresAlike := by
  rintro ⟨s, e⟩
  cases hl : s.live with
  | none =>
    rw [run_reserve_none hl]
    exact refl_of StoresAlike _
  | some l =>
    rw [run_reserve hl]
    split <;> exact ⟨rfl, rfl⟩

theorem stores_settleAddition (generation : Nat) (id : String) (made : Except Mishap Member) :
    (settleAddition generation id made).Within StoresAlike := by
  rintro ⟨s, e⟩
  rw [run_settleAddition]
  exact ⟨rfl, rfl⟩

theorem stores_finishAddition (generation aggregator : Nat) (d : Definition) :
    (finishAddition generation aggregator d).Within StoresAlike := by
  refine .bind .own fun s => .bind (stores_engine fun e => stores_addEndpoint _ _ e) fun made => ?_
  rcases made with (_ | _) | _
  · exact stores_settleAddition _ _ _
  · exact .throw _
  · exact stores_settleAddition _ _ _

theorem stores_addEndpoint (spec : Spec) : (addEndpoint spec).Within StoresAlike := by
  refine .bind (stores_reserve _) fun l => .bind .own fun s => ?_
  cases spec.definition s.options.maxLabel with
  | error f => exact .bind (stores_settleAddition _ _ _) fun _ => .pure _
  | ok d =>
    refine .bind (stores_engine (.get_bind fun _ => rfl)) fun e => ?_
    cases e.addsHeld with
    | true => exact .pure _
    | false => exact .bind (stores_finishAddition _ _ d) fun _ => .pure _

theorem stores_setState (id cluster attr : String) (value : Json) :
    (setState id cluster attr value).Within StoresAlike := by
  refine .bind stores_theLive fun l => ?_
  cases l.member? id with
  | none => exact .pure _
  | some m =>
    refine .bind (stores_engine (stores_startWrite _ _ _ _ _)) fun w =>
      .bind (stores_engine (.get_bind fun _ => rfl)) fun e => ?_
    cases e.writesHeld with
    | true => exact .pure _
    | false => exact .bind (stores_engine (stores_finishWrite w)) fun _ => .pure _

theorem stores_listEndpoints : listEndpoints.Within StoresAlike :=
  .bind stores_theLive fun _ => .bind (stores_engine (.get_bind fun _ => rfl)) fun _ => .pure _

theorem stores_commissioningState : commissioningState.Within StoresAlike :=
  .bind stores_theLive fun l => .bind (stores_engine (stores_theServer l.server)) fun _ =>
    .bind (stores_engine (.get_bind fun _ => rfl)) fun _ => .pure _

/-- No request but a reset touches the storage. -/
theorem stores_perform {a : Ask} (h : a ≠ .reset) : a.perform.Within StoresAlike := by
  cases a with
  | make spec => exact stores_addEndpoint spec
  | write id cluster attr value => exact stores_setState id cluster attr value
  | reset => exact absurd rfl h
  | list => exact .bind stores_listEndpoints fun _ => .pure _
  | start =>
    exact .bind (.bind stores_theLive fun _ => stores_engine (stores_startServer _))
      fun _ => .pure _
  | pairing => exact .bind stores_commissioningState fun _ => .pure _
  | openWindow =>
    exact .bind (.bind stores_theLive fun _ => stores_engine (stores_openWindow _))
      fun _ => .pure _
  | closeWindow =>
    exact .bind (.bind stores_theLive fun _ => stores_engine (stores_closeWindow _))
      fun _ => .pure _

end Bridge

/-! ## Gateways in which nothing is made or paired -/

/-- What a session of a bridge is for, whether its next server node clears the storage, and
    the number of its server node. -/
def Session.papers : Session → Option (Params × Bool × Option Nat)
  | .bridge s => some (s.params, s.clearNext, s.live.map (·.server))
  | .client _ => none

namespace Gateway

/-- No server node is made, closed or paired, and the sessions go on as they would have. -/
structure Rests (g g' : Gateway) : Prop where
  /-- the sessions -/
  sessions : g'.sessions.map (·.papers) = g.sessions.map (·.papers)
  /-- the server nodes, as far as they last -/
  servers : g'.engine.servers.map Server.frame = g.engine.servers.map Server.frame
  /-- what is kept -/
  stores : g.engine.StoresAlike g'.engine
  /-- the armed faults -/
  faults : g'.engine.faults = g.engine.faults

variable {g g' g'' : Gateway} {n : Nat} {s : Bridge.Session}

theorem Rests.refl (g : Gateway) : g.Rests g :=
  ⟨rfl, rfl, rfl, rfl⟩

theorem Rests.trans (h : g.Rests g') (h' : g'.Rests g'') : g.Rests g'' :=
  ⟨h'.sessions.trans h.sessions, h'.servers.trans h.servers, Eq.trans h'.stores h.stores,
    h'.faults.trans h.faults⟩

theorem rests_act {α : Type} {a : Act α} (steady : a.Steady) (stores : a.Within State.StoresAlike)
    (faults : g.engine.faults = []) : g.Rests (g.act a).2 :=
  ⟨rfl, (steady g.engine faults).servers, stores g.engine, (steady g.engine faults).faults⟩

theorem rests_inBridge {α : Type} {a : Doing α} (steady : a.Steady Bridge.Session.seat)
    (stores : a.Within Bridge.StoresAlike) (faults : g.engine.faults = [])
    (here : g.sessions[n]? = some (.bridge s)) : g.Rests (g.inBridge n s a).2 := by
  obtain ⟨seat, keeps⟩ := steady (s, g.engine) faults
  obtain ⟨clearNext, kept⟩ := stores (s, g.engine)
  have papers : Session.papers (.bridge (a (s, g.engine)).2.1) = Session.papers (.bridge s) := by
    have params := congrArg Prod.fst seat
    have server := congrArg Prod.snd seat
    dsimp only [Bridge.Session.seat] at params server
    dsimp only [Session.papers]
    rw [params, server, clearNext]
  refine ⟨?_, keeps.servers, kept, keeps.faults⟩
  show (g.sessions.set n _).map _ = _
  rw [List.map_set, papers]
  refine List.ext_getElem? fun m => ?_
  by_cases same : n = m
  · subst same
    rw [List.getElem?_set_self, List.getElem?_map, here]
    · rfl
    · rw [List.length_map]
      exact (List.getElem?_eq_some_iff.1 here).1
  · rw [List.getElem?_set_ne same]

theorem rests_of_eq {g'' : Gateway} (h : g.Rests g') (engine : g''.engine = g'.engine)
    (sessions : g''.sessions = g'.sessions) : g.Rests g'' := by
  obtain ⟨papers, servers, stores, faults⟩ := h
  exact ⟨sessions ▸ papers, engine ▸ servers, engine ▸ stores, engine ▸ faults⟩

theorem rests_foldl {α : Type} {f : Gateway → α → Gateway}
    (hf : ∀ (g : Gateway) (x : α), g.engine.faults = [] → g.Rests (f g x)) (xs : List α)
    (faults : g.engine.faults = []) : g.Rests (xs.foldl f g) := by
  induction xs generalizing g with
  | nil => exact .refl g
  | cons x xs ih =>
    have first := hf g x faults
    exact first.trans (ih (first.faults.trans faults))

theorem rests_finishWaitingWrite (faults : g.engine.faults = []) (w : WaitingWrite) :
    g.Rests (g.finishWaitingWrite w) := by
  have rests := rests_act (steady_finishWrite w.write) (stores_finishWrite w.write) faults
  unfold finishWaitingWrite
  cases w.writer with
  | request session request => exact rests.trans ⟨rfl, rfl, rfl, rfl⟩
  | other who => exact rests.trans ⟨rfl, rfl, rfl, rfl⟩

theorem rests_releaseWrites (faults : g.engine.faults = []) : g.Rests g.releaseWrites := by
  have freed : g.Rests g.freed := ⟨rfl, rfl, rfl, rfl⟩
  exact freed.trans (rests_foldl (fun _ w free => rests_finishWaitingWrite free w) g.writes faults)

theorem rests_finishWaitingAddition (faults : g.engine.faults = []) (w : WaitingAddition) :
    g.Rests (g.finishWaitingAddition w) := by
  unfold finishWaitingAddition
  split
  · rename_i s here
    exact (rests_inBridge (Bridge.steady_finishAddition _ _ _) (Bridge.stores_finishAddition _ _ _)
      faults here).trans ⟨rfl, rfl, rfl, rfl⟩
  · exact .refl g

theorem rests_releaseAdditions (faults : g.engine.faults = []) : g.Rests g.releaseAdditions := by
  have freed : g.Rests
      { g with engine := { g.engine with addsHeld := false }, additions := [] } :=
    ⟨rfl, rfl, rfl, rfl⟩
  exact freed.trans
    (rests_foldl (fun _ w free => rests_finishWaitingAddition free w) g.additions faults)

theorem rests_writeByOther (faults : g.engine.faults = []) (who : String) (own : Bool)
    (handle : Nat) (cluster attr : String) (value : Json) :
    g.Rests (g.writeByOther who own handle cluster attr value).2 := by
  have started := rests_act (steady_startWrite own handle cluster attr value)
    (stores_startWrite own handle cluster attr value) faults
  unfold writeByOther
  generalize g.act (startWrite own handle cluster attr value) = run at started
  rcases run with ⟨_ | w, g'⟩
  · exact started
  · dsimp only
    split
    · exact started.trans ⟨rfl, rfl, rfl, rfl⟩
    · have ended : g'.Rests (g'.act (finishWrite w)).2 :=
        rests_act (steady_finishWrite w) (stores_finishWrite w) (started.faults.trans faults)
      exact started.trans ended

/-- Requests other than a reset. -/
theorem rests_handle (faults : g.engine.faults = []) (here : g.sessions[n]? = some (.bridge s))
    {r : Request} (still : Ask.ofRequest r ≠ .ok .reset) : g.Rests (g.handle n r).2 := by
  cases read : Ask.ofRequest r with
  | error f =>
    rw [handle_unread here read]
    exact .refl g
  | ok a =>
    have other : a ≠ .reset := fun reset => still (reset ▸ read)
    have rests := rests_inBridge (steady_perform other) (stores_perform other) faults here
    generalize run : a.perform (s, g.engine) = done at rests
    obtain ⟨outcome, s', e'⟩ := done
    rw [handle_asked here read run]
    have acted : g.Rests (g.acted n s' e') := by
      unfold inBridge at rests
      rw [run] at rests
      exact rests
    obtain ⟨engine, sessions⟩ := frame_concluded n r (g.acted n s' e') outcome
    exact rests_of_eq acted engine sessions

end Gateway

/-! ## What every run keeps -/

/-- Whether the next server node of a session clears the storage, if the session made these. -/
def Bridge.Params.clears (p : Params) (n : Nat) (makers : List Nat) : Bool :=
  p.resetStorage && !makers.contains n

namespace Annals

/-- The annals are true. -/
structure Kept (a : Annals) : Prop where
  /-- no fault is armed -/
  faults : a.gateway.engine.faults = []
  /-- stores and eras agree -/
  dated : a.gateway.engine.Dated a.paired
  /-- every server node was made by a session -/
  length : a.makers.length = a.gateway.engine.servers.length
  /-- sessions are those of bridges -/
  bridges : ∀ (n : Nat) (x : Session), a.gateway.sessions[n]? = some x → ∃ s, x = .bridge s
  /-- a server node is as the session said that made it, and only the first of a session clears
      the storage -/
  made : ∀ (k n : Nat) (sv : Server), a.gateway.engine.servers[k]? = some sv →
    a.makers[k]? = some n → ∃ s, a.gateway.sessions[n]? = some (.bridge s) ∧
      sv.config = s.params.serverConfig (s.params.clears n (a.makers.take k))
  /-- whether the next one clears it -/
  next : ∀ (n : Nat) (s : Bridge.Session), a.gateway.sessions[n]? = some (.bridge s) →
    s.clearNext = s.params.clears n a.makers
  /-- the server node of a session is its own, and open -/
  live : ∀ (n : Nat) (s : Bridge.Session) (l : Live), a.gateway.sessions[n]? = some (.bridge s) →
    s.live = some l → a.makers[l.server]? = some n ∧
      ∃ sv, a.gateway.engine.servers[l.server]? = some sv ∧ sv.closed = false

variable {a a' : Annals} {n : Nat} {s : Bridge.Session}

theorem kept_start : start.Kept :=
  ⟨rfl, .initial, rfl, nofun, nofun, nofun, nofun⟩

/-- The server node of a session presents itself as the session said. -/
theorem Kept.served (h : a.Kept) (here : a.gateway.sessions[n]? = some (.bridge s)) {l : Live}
    (hl : s.live = some l) : ∃ sv clear, a.gateway.engine.servers[l.server]? = some sv ∧
      sv.closed = false ∧ sv.config = s.params.serverConfig clear := by
  obtain ⟨maker, sv, hsv, opened⟩ := h.live n s l here hl
  obtain ⟨s', here', config⟩ := h.made l.server n sv hsv maker
  cases here.symm.trans here'
  exact ⟨sv, _, hsv, opened, config⟩

theorem Kept.real (h : a.Kept) (here : a.gateway.sessions[n]? = some (.bridge s)) :
    s.Real a.gateway.engine := by
  intro l hl
  obtain ⟨sv, clear, hsv, -, config⟩ := h.served here hl
  exact ⟨sv, hsv, by rw [config]; rfl⟩

/-! ### What one episode keeps -/

theorem Kept.rests (h : a.Kept) {g : Gateway} (rests : a.gateway.Rests g) :
    ({ a with gateway := g } : Annals).Kept := by
  have leases : g.engine.servers.map Server.lease = a.gateway.engine.servers.map Server.lease := by
    have same := congrArg (List.map Server.lease) rests.servers
    rw [List.map_map, List.map_map] at same
    exact same
  have back {n : Nat} {s : Bridge.Session} (here : g.sessions[n]? = some (.bridge s)) :
      ∃ s₀, a.gateway.sessions[n]? = some (.bridge s₀) ∧ s.params = s₀.params ∧
        s.clearNext = s₀.clearNext ∧ s.live.map (·.server) = s₀.live.map (·.server) := by
    obtain ⟨x, hx, papers⟩ := getElem?_of_map_eq rests.sessions here
    obtain ⟨s₀, rfl⟩ := h.bridges n x hx
    have same := Option.some.inj papers
    exact ⟨s₀, hx, congrArg Prod.fst same, congrArg (·.2.1) same, congrArg (·.2.2) same⟩
  refine ⟨rests.faults.trans h.faults, h.dated.same leases rests.stores, ?_, ?_, ?_, ?_, ?_⟩
  · rw [h.length]
    simpa using (congrArg List.length rests.servers).symm
  · intro n x hx
    obtain ⟨x₀, hx₀, papers⟩ := getElem?_of_map_eq rests.sessions hx
    obtain ⟨s₀, rfl⟩ := h.bridges n x₀ hx₀
    cases x with
    | bridge s => exact ⟨s, rfl⟩
    | client s => cases papers
  · intro k n sv hk maker
    obtain ⟨sv₀, hk₀, frame⟩ := getElem?_of_map_eq rests.servers hk
    obtain ⟨s₀, here₀, config⟩ := h.made k n sv₀ hk₀ maker
    obtain ⟨x, hx, papers⟩ := getElem?_of_map_eq rests.sessions.symm here₀
    cases x with
    | client s => cases papers
    | bridge s =>
      have params : s₀.params = s.params := congrArg Prod.fst (Option.some.inj papers)
      exact ⟨s, hx, by rw [(Server.of_frame frame).1, config, params]⟩
  · intro n s here
    obtain ⟨s₀, here₀, params, clearNext, -⟩ := back here
    rw [clearNext, params]
    exact h.next n s₀ here₀
  · intro n s l here hl
    obtain ⟨s₀, here₀, -, -, server⟩ := back here
    rw [hl] at server
    obtain ⟨l₀, hl₀, same⟩ := Option.map_eq_some_iff.1 server.symm
    obtain ⟨maker, sv₀, hk₀, opened⟩ := h.live n s₀ l₀ here₀ hl₀
    rw [same] at maker hk₀
    obtain ⟨sv, hk, frame⟩ := getElem?_of_map_eq rests.servers.symm hk₀
    have closed : sv₀.frame.closed = sv.frame.closed := congrArg Server.closed frame
    exact ⟨maker, sv, hk, closed.symm.trans opened⟩

/-- The session that made a server node exists. -/
theorem Kept.lt (h : a.Kept) (maker : n ∈ a.makers) : n < a.gateway.sessions.length := by
  obtain ⟨k, hk, rfl⟩ := List.mem_iff_getElem.1 maker
  have hsv := List.getElem?_eq_getElem (h.length ▸ hk)
  obtain ⟨s, here, -⟩ := h.made k _ _ hsv (List.getElem?_eq_getElem hk)
  exact (List.getElem?_eq_some_iff.1 here).1

/-- A session is opened. -/
theorem Kept.joins (h : a.Kept) (p : Params) (options : BridgeOptions) :
    ({ a with gateway := (a.gateway.openSession (.bridge p) options).2 } : Annals).Kept := by
  have old {n : Nat} {x : Session} (hx : a.gateway.sessions[n]? = some x) :
      (a.gateway.openSession (.bridge p) options).2.sessions[n]? = some x :=
    (List.getElem?_append_left (List.getElem?_eq_some_iff.1 hx).1).trans hx
  have cases {n : Nat} {x : Session}
      (hx : (a.gateway.openSession (.bridge p) options).2.sessions[n]? = some x) :
      a.gateway.sessions[n]? = some x ∨
        n = a.gateway.sessions.length ∧ x = .bridge (.new p options n) := by
    have hx' : (a.gateway.sessions ++ [_])[n]? = some x := hx
    rcases Nat.lt_trichotomy n a.gateway.sessions.length with lt | rfl | gt
    · rw [List.getElem?_append_left lt] at hx'
      exact .inl hx'
    · rw [List.getElem?_concat_length] at hx'
      exact .inr ⟨rfl, (Option.some.inj hx').symm⟩
    · have := (List.getElem?_eq_some_iff.1 hx').1
      rw [List.length_append, List.length_singleton] at this
      omega
  refine ⟨h.faults, h.dated, h.length, ?_, ?_, ?_, ?_⟩
  · intro n x hx
    rcases cases hx with hx | ⟨rfl, rfl⟩
    · exact h.bridges n x hx
    · exact ⟨_, rfl⟩
  · intro k n sv hk maker
    obtain ⟨s, here, config⟩ := h.made k n sv hk maker
    exact ⟨s, old here, config⟩
  · intro n s here
    rcases cases here with here | ⟨rfl, new⟩
    · exact h.next n s here
    · cases new
      have fresh : a.gateway.sessions.length ∉ a.makers :=
        fun maker => Nat.lt_irrefl _ (h.lt maker)
      simp [Params.clears, Bridge.Session.new, fresh]
  · intro n s l here hl
    rcases cases here with here | ⟨rfl, new⟩
    · exact h.live n s l here hl
    · cases new
      cases hl

theorem servers_closed (s : Bridge.Session) (e : State) (k : Nat) :
    (s.closed e).servers[k]? =
      if s.live.map (·.server) = some k then (e.servers[k]?).map .shut else e.servers[k]? := by
  unfold Bridge.Session.closed
  cases s.live with
  | none => rfl
  | some l =>
    rw [servers_withoutServer, Option.map_some]
    simp only [Option.some.injEq]

theorem leases_closed (s : Bridge.Session) (e : State) :
    (s.closed e).servers.map Server.lease = e.servers.map Server.lease ∧
      (s.closed e).serverStores = e.serverStores := by
  unfold Bridge.Session.closed
  cases s.live with
  | none => exact ⟨rfl, rfl⟩
  | some l => exact ⟨map_modify_of e.servers l.server fun _ => rfl, rfl⟩

/-- A session closes its server node. -/
theorem Kept.ended (h : a.Kept) (here : a.gateway.sessions[n]? = some (.bridge s)) :
    ({ a with gateway := a.gateway.put n (.bridge s.ended) (s.closed a.gateway.engine) } :
      Annals).Kept := by
  obtain ⟨leases, stores⟩ := leases_closed s a.gateway.engine
  have sessions (m : Nat) :
      (a.gateway.put n (.bridge s.ended) (s.closed a.gateway.engine)).sessions[m]? = _ :=
    Gateway.sessions_put here m
  refine ⟨(faults_closed s _).trans h.faults, h.dated.same leases stores, ?_, ?_, ?_, ?_, ?_⟩
  · show a.makers.length = (s.closed a.gateway.engine).servers.length
    rw [h.length]
    simpa using (congrArg List.length leases).symm
  · intro m x hx
    rw [sessions] at hx
    split at hx
    · exact ⟨_, (Option.some.inj hx).symm⟩
    · exact h.bridges m x hx
  · intro k m sv hk maker
    obtain ⟨sv₀, hk₀, lease⟩ := getElem?_of_map_eq leases hk
    obtain ⟨t, there, config⟩ := h.made k m sv₀ hk₀ maker
    rw [show sv.config = sv₀.config from congrArg Prod.fst lease, sessions]
    split
    · rename_i same
      subst same
      cases here.symm.trans there
      exact ⟨_, rfl, config⟩
    · exact ⟨t, there, config⟩
  · intro m t there
    rw [sessions] at there
    split at there
    · rename_i same
      subst same
      cases there
      exact h.next m s here
    · exact h.next m t there
  · intro m t l there hl
    rw [sessions] at there
    split at there
    · cases there
      cases hl
    · rename_i other
      obtain ⟨maker, sv, hsv, opened⟩ := h.live m t l there hl
      refine ⟨maker, sv, ?_, opened⟩
      rw [← hsv]
      refine (servers_closed s a.gateway.engine l.server).trans (if_neg fun own => other ?_)
      obtain ⟨l', hl', same⟩ := Option.map_eq_some_iff.1 own
      have maker' := (h.live n s l' here hl').1
      rw [same, maker] at maker'
      exact Option.some.inj maker'

/-- A session makes a server node. -/
theorem Kept.begun (h : a.Kept) (here : a.gateway.sessions[n]? = some (.bridge s)) :
    ({ gateway := a.gateway.put n (.bridge (s.begun a.gateway.engine)) (s.opened a.gateway.engine)
       makers := a.makers ++ [n]
       paired := a.paired } : Annals).Kept := by
  have sessions (m : Nat) :
      (a.gateway.put n (.bridge (s.begun a.gateway.engine))
        (s.opened a.gateway.engine)).sessions[m]? = _ :=
    Gateway.sessions_put here m
  have older {k m : Nat} (maker : (a.makers ++ [n])[k]? = some m) (lt : k < a.makers.length) :
      a.makers[k]? = some m ∧ (a.makers ++ [n]).take k = a.makers.take k := by
    rw [List.getElem?_append_left lt] at maker
    exact ⟨maker, List.take_append_of_le_length (Nat.le_of_lt lt)⟩
  refine ⟨h.faults, h.dated.founds rfl rfl rfl, ?_, ?_, ?_, ?_, ?_⟩
  · show (a.makers ++ [n]).length = (a.gateway.engine.servers ++ [_]).length
    rw [List.length_append, List.length_append, h.length]
    rfl
  · intro m x hx
    rw [sessions] at hx
    split at hx
    · exact ⟨_, (Option.some.inj hx).symm⟩
    · exact h.bridges m x hx
  · intro k m sv hk maker
    rcases Bridge.servers_opened hk with old | ⟨rfl, rfl⟩
    · have lt := (List.getElem?_eq_some_iff.1 old).1
      obtain ⟨maker, makers⟩ := older maker (h.length.symm ▸ lt)
      obtain ⟨t, there, config⟩ := h.made k m sv old maker
      rw [sessions, makers]
      split
      · rename_i same
        subst same
        cases here.symm.trans there
        exact ⟨_, rfl, config⟩
      · exact ⟨t, there, config⟩
    · dsimp only at maker
      rw [← h.length, List.getElem?_concat_length] at maker
      cases maker
      rw [sessions, if_pos rfl]
      refine ⟨_, rfl, ?_⟩
      have makers : (a.makers ++ [n]).take a.gateway.engine.servers.length = a.makers := by
        rw [← h.length]
        exact List.take_left
      rw [makers]
      exact congrArg s.params.serverConfig (h.next n s here)
  · intro m t there
    rw [sessions] at there
    split at there
    · rename_i same
      subst same
      cases there
      simp [Params.clears, Bridge.Session.begun]
    · rename_i other
      have := h.next m t there
      simpa [Params.clears, other] using this
  · intro m t l there hl
    rw [sessions] at there
    split at there
    · rename_i same
      subst same
      cases there
      cases hl
      refine ⟨?_, _, List.getElem?_concat_length, rfl⟩
      rw [← h.length]
      exact List.getElem?_concat_length
    · obtain ⟨maker, sv, hsv, opened⟩ := h.live m t l there hl
      refine ⟨?_, sv, ?_, opened⟩
      · exact (List.getElem?_append_left (List.getElem?_eq_some_iff.1 maker).1).trans maker
      · exact (List.getElem?_append_left (List.getElem?_eq_some_iff.1 hsv).1).trans hsv

/-- A session closes its server node, if it has one, and makes another. -/
theorem Kept.renewed (h : a.Kept) (here : a.gateway.sessions[n]? = some (.bridge s)) :
    ({ gateway := a.gateway.renewed n s
       makers := a.makers ++ [n]
       paired := a.paired } : Annals).Kept := by
  have begun := (h.ended here).begun (Gateway.sessions_ended here _)
  rw [Gateway.put_put] at begun
  exact begun

/-- A commissioner pairs a server node. -/
theorem Kept.marks (h : a.Kept) {k : Nat} {sv : Server}
    (hk : a.gateway.engine.servers[k]? = some sv) :
    ({ a with
        gateway := { a.gateway with engine := a.gateway.engine.markCommissioned k }
        paired := k :: a.paired } : Annals).Kept := by
  have frames : (a.gateway.engine.markCommissioned k).servers.map Server.frame =
      a.gateway.engine.servers.map Server.frame := by
    rw [markCommissioned_eq hk]
    exact map_modify_of a.gateway.engine.servers k fun _ => rfl
  have faults : (a.gateway.engine.markCommissioned k).faults = [] := by
    rw [markCommissioned_eq hk]
    exact h.faults
  refine ⟨faults, h.dated.marks hk, ?_, h.bridges, ?_, h.next, ?_⟩
  · rw [h.length]
    simpa using (congrArg List.length frames).symm
  · intro j m sv hj maker
    obtain ⟨sv₀, hj₀, frame⟩ := getElem?_of_map_eq frames hj
    obtain ⟨s, here, config⟩ := h.made j m sv₀ hj₀ maker
    exact ⟨s, here, by rw [(Server.of_frame frame).1, config]⟩
  · intro m s l here hl
    obtain ⟨maker, sv₀, hk₀, opened⟩ := h.live m s l here hl
    obtain ⟨sv, hk, frame⟩ := getElem?_of_map_eq frames.symm hk₀
    have closed : sv₀.frame.closed = sv.frame.closed := congrArg Server.closed frame
    exact ⟨maker, sv, hk, closed.symm.trans opened⟩

/-! ### Episodes -/

variable {ep : Episode}

/-- What is noted of an episode in which a session does something. -/
theorem next_of_session (acts : ep.session? = some n) {g : Gateway} {d : Nat}
    (comes : a.gateway.episode ep = g)
    (length : g.engine.servers.length = a.gateway.engine.servers.length + d) :
    a.next ep = ⟨g, a.makers ++ List.replicate d n, a.paired⟩ := by
  have makers : (a.next ep).makers = a.makers ++ List.replicate d n := by
    show a.makers ++ _ = _
    rw [comes, length, Nat.add_sub_cancel_left, acts]
  have paired : (a.next ep).paired = a.paired := by
    cases ep with
    | paired k => cases acts
    | _ => rfl
  show Annals.mk _ (a.next ep).makers (a.next ep).paired = _
  rw [makers, paired, comes]

/-- How an episode ends in which a session does something. -/
inductive Acts (a : Annals) (n : Nat) (g : Gateway) : Prop where
  /-- nothing was made or paired -/
  | rested (rests : a.gateway.Rests g)
  /-- the server node was closed -/
  | ended {s : Bridge.Session} (here : a.gateway.sessions[n]? = some (.bridge s))
    (comes : g = a.gateway.put n (.bridge s.ended) (s.closed a.gateway.engine))
  /-- another server node was made -/
  | renewed {s : Bridge.Session} (here : a.gateway.sessions[n]? = some (.bridge s))
    (comes : g = a.gateway.renewed n s)

theorem acts_asked (h : a.Kept) (here : a.gateway.sessions[n]? = some (.bridge s)) (r : Request) :
    a.Acts n (a.gateway.handle n r).2 := by
  by_cases reset : Ask.ofRequest r = .ok .reset
  · refine .renewed here ?_
    have run : Ask.reset.perform (s, a.gateway.engine) = (finished (.ok .null),
        s.ended.begun (s.closed a.gateway.engine), s.ended.opened (s.closed a.gateway.engine)) := by
      show (do Bridge.reset; return .done .null : Doing Progress) _ = _
      rw [Use.run_bind, run_reset_real h.faults (h.real here)]
      rfl
    rw [Gateway.handle_finished here reset run]
    rfl
  · exact .rested (Gateway.rests_handle h.faults here reset)

theorem acts_episode (h : a.Kept) (acts : ep.session? = some n) :
    a.Acts n (a.gateway.episode ep) := by
  cases there : a.gateway.sessions[n]? with
  | none =>
    have still : a.gateway.episode ep = a.gateway := by
      cases ep with
      | initialised | closed | shut | asked =>
        cases acts
        simp only [Gateway.episode, Gateway.initSession, Gateway.asBridge, Gateway.shutdownSession,
          Gateway.inSession, Gateway.handle, there]
      | _ => cases acts
    refine .rested ?_
    rw [still]
    exact .refl _
  | some x =>
    obtain ⟨s, rfl⟩ := h.bridges n x there
    cases ep with
    | initialised =>
      cases acts
      refine .renewed there ?_
      simp only [Gateway.episode, Gateway.initSession, Gateway.inSession, there]
      exact congrArg Prod.snd (Gateway.inBridge_eq (run_init_real h.faults (h.real there)))
    | closed =>
      cases acts
      refine .ended there ?_
      simp only [Gateway.episode, Gateway.asBridge, there]
      exact congrArg Prod.snd (Gateway.inBridge_eq (run_close_real h.faults (h.real there)))
    | shut =>
      cases acts
      refine .ended there ?_
      simp only [Gateway.episode, Gateway.shutdownSession, Gateway.inSession, there,
        Gateway.inBridge, Bridge.shutdown, run_close_real h.faults (h.real there)]
      rfl
    | asked =>
      cases acts
      exact acts_asked h there _
    | _ => cases acts

/-- An episode in which a session does something. -/
theorem kept_of_session (h : a.Kept) (acts : ep.session? = some n) : (a.next ep).Kept := by
  cases comes : acts_episode h acts with
  | rested rests =>
    have length : (a.gateway.episode ep).engine.servers.length =
        a.gateway.engine.servers.length := by
      simpa using congrArg List.length rests.servers
    rw [next_of_session (d := 0) acts rfl length, List.replicate_zero, List.append_nil]
    exact h.rests rests
  | @ended s here same =>
    have length : (s.closed a.gateway.engine).servers.length = a.gateway.engine.servers.length := by
      simpa using congrArg List.length (leases_closed s a.gateway.engine).1
    rw [next_of_session (d := 0) acts same length, List.replicate_zero, List.append_nil]
    exact h.ended here
  | @renewed s here same =>
    have length : (s.closed a.gateway.engine).servers.length = a.gateway.engine.servers.length := by
      simpa using congrArg List.length (leases_closed s a.gateway.engine).1
    have more : (a.gateway.renewed n s).engine.servers.length =
        a.gateway.engine.servers.length + 1 := by
      rw [← length]
      exact List.length_append
    rw [next_of_session acts same more]
    exact h.renewed here

/-- An episode keeps the annals true. -/
theorem kept_next (h : a.Kept) (ep : Episode) : (a.next ep).Kept := by
  have quiet {ep : Episode} (rests : a.gateway.Rests (a.gateway.episode ep))
      (same : a.next ep = ⟨a.gateway.episode ep, a.makers ++ [], a.paired⟩) : (a.next ep).Kept := by
    rw [same, List.append_nil]
    exact h.rests rests
  cases ep with
  | opened p options =>
    have same : a.next (.opened p options) =
        ⟨(a.gateway.openSession (.bridge p) options).2, a.makers ++ [], a.paired⟩ := rfl
    rw [same, List.append_nil]
    exact h.joins p options
  | initialised n => exact kept_of_session h rfl
  | closed n => exact kept_of_session h rfl
  | shut n => exact kept_of_session h rfl
  | asked n r => exact kept_of_session h rfl
  | paired k =>
    cases hk : a.gateway.engine.servers[k]? with
    | none =>
      have still : a.gateway.engine.markCommissioned k = a.gateway.engine := by
        unfold State.markCommissioned
        rw [hk]
      have same : a.next (.paired k) = a := by
        have beyond := Nat.not_lt.2 (List.getElem?_eq_none_iff.1 hk)
        unfold next
        simp only [Gateway.episode, still, Episode.session?, List.append_nil, if_neg beyond]
      rw [same]
      exact h
    | some sv =>
      have there := (List.getElem?_eq_some_iff.1 hk).1
      have same : a.next (.paired k) =
          { a with
            gateway := { a.gateway with engine := a.gateway.engine.markCommissioned k }
            paired := k :: a.paired } := by
        unfold next
        simp only [Gateway.episode, Episode.session?, List.append_nil, if_pos there]
      rw [same]
      exact h.marks hk
  | written who own handle cluster attr value =>
    exact quiet (Gateway.rests_writeByOther h.faults who own handle cluster attr value) rfl
  | commanded handle cluster command args =>
    exact quiet (Gateway.rests_act (steady_peerCommand _ _ _ _) (stores_peerCommand _ _ _ _)
      h.faults) rfl
  | writesHeld => exact quiet ⟨rfl, rfl, rfl, rfl⟩ rfl
  | writesReleased => exact quiet (Gateway.rests_releaseWrites h.faults) rfl
  | additionsHeld => exact quiet ⟨rfl, rfl, rfl, rfl⟩ rfl
  | additionsReleased => exact quiet (Gateway.rests_releaseAdditions h.faults) rfl
  | passed ms => exact quiet ⟨rfl, rfl, rfl, rfl⟩ rfl

/-- The annals are true after every run. -/
theorem kept_after (eps : List Episode) : (after eps).Kept := by
  have run {a : Annals} (h : a.Kept) : (eps.foldl next a).Kept := by
    induction eps generalizing a with
    | nil => exact h
    | cons ep eps ih => exact ih (kept_next h ep)
  exact run kept_start

end Annals

/-! ## What server nodes say and do -/

/-- The episode is about a storage: a session of its key does something, or a server node of its
    key is paired. -/
def Episode.Concerns (key : StoreKey) (g : Gateway) : Episode → Prop
  | initialised n | closed n | shut n | asked n _ =>
    ∃ s : Bridge.Session, g.sessions[n]? = some (.bridge s) ∧ s.params.key = key
  | paired k => ∃ sv : Server, g.engine.servers[k]? = some sv ∧ sv.config.key = key
  | _ => False

/-- Whoever asks about a storage is told what it would have been told before: its server nodes,
    and those that will be made. -/
structure Engine.State.Retains (key : StoreKey) (e e' : State) : Prop where
  /-- what is kept -/
  status : e'.status? key = e.status? key
  /-- what server nodes say -/
  said : ∀ (k : Nat) (sv : Server), e.servers[k]? = some sv → sv.config.key = key →
    ∃ sv', e'.servers[k]? = some sv' ∧ sv'.config = sv.config ∧
      e'.commissioned sv' = e.commissioned sv

namespace Engine.State

variable {e e' e'' : State} {key : StoreKey} {k : Nat} {sv : Server}

theorem commissioned_congr {sv' : Server} (store : sv'.store = sv.store)
    (kept : (e'.serverStores[sv.store]?).map (·.commissioned) =
      (e.serverStores[sv.store]?).map (·.commissioned)) :
    e'.commissioned sv' = e.commissioned sv := by
  have said (e : State) (sv : Server) :
      e.commissioned sv = ((e.serverStores[sv.store]?).map (·.commissioned)).getD false := by
    unfold commissioned
    cases e.serverStores[sv.store]? <;> rfl
  rw [said, said, store, kept]

theorem Retains.trans (h : e.Retains key e') (h' : e'.Retains key e'') : e.Retains key e'' where
  status := h'.status.trans h.status
  said := by
    intro k sv hk own
    obtain ⟨sv', hk', config, said⟩ := h.said k sv hk own
    obtain ⟨sv'', hk'', config', said'⟩ := h'.said k sv' hk' (config ▸ own)
    exact ⟨sv'', hk'', config'.trans config, said'.trans said⟩

theorem retains_of_leases (key : StoreKey)
    (leases : e'.servers.map Server.lease = e.servers.map Server.lease)
    (stores : e'.serverStores = e.serverStores) : e.Retains key e' where
  status := by
    unfold status? serverStore?
    rw [stores]
  said := by
    intro k sv hk _
    obtain ⟨sv', hk', lease⟩ := getElem?_of_map_eq leases.symm hk
    refine ⟨sv', hk', (congrArg Prod.fst lease).symm, ?_⟩
    exact commissioned_congr (congrArg Prod.snd lease).symm (by rw [stores])

theorem retains_opened {paired : List Nat} (h : e.Dated paired) (s : Bridge.Session)
    (other : s.params.key ≠ key) : e.Retains key (s.opened e) where
  status := by
    have stores : (s.opened e).serverStores =
        (e.readyStore (s.params.serverConfig s.clearNext)).1 := rfl
    exact status?_ready_of_ne stores other.symm
  said := by
    intro k sv hk own
    obtain ⟨st, hst, key', -⟩ := h.stored k sv hk
    refine ⟨sv, ?_, rfl, commissioned_congr rfl ?_⟩
    · exact (List.getElem?_append_left (List.getElem?_eq_some_iff.1 hk).1).trans hk
    · have apart : st.key ≠ (s.params.serverConfig s.clearNext).key := by
        rw [key', own]
        exact other.symm
      rw [hst]
      exact congrArg _ ((readyStore_spec _ e).2.1 sv.store st hst apart)

theorem retains_marks {paired : List Nat} (h : e.Dated paired) (hk : e.servers[k]? = some sv)
    (other : sv.config.key ≠ key) : e.Retains key (e.markCommissioned k) where
  status := by
    obtain ⟨st, hst, own, -⟩ := h.stored k sv hk
    exact status?_markCommissioned_of_ne hk (by rw [hst, Option.map_some, own]) other
  said := by
    intro j x hj own
    have leases : (e.markCommissioned k).servers.map Server.lease = e.servers.map Server.lease := by
      rw [markCommissioned_eq hk]
      exact map_modify_of e.servers k fun _ => rfl
    obtain ⟨x', hj', lease⟩ := getElem?_of_map_eq leases.symm hj
    refine ⟨x', hj', (congrArg Prod.fst lease).symm,
      commissioned_congr (congrArg Prod.snd lease).symm ?_⟩
    have apart : sv.store ≠ x.store := by
      intro same
      obtain ⟨st, hst, key', -⟩ := h.stored k sv hk
      obtain ⟨st', hst', key'', -⟩ := h.stored j x hj
      rw [same] at hst
      cases hst.symm.trans hst'
      exact other (key'.symm.trans (key''.trans own))
    rw [markCommissioned_eq hk]
    exact congrArg _ (List.getElem?_modify_ne _ _ apart)

end Engine.State

namespace Annals

variable {a : Annals} {n : Nat} {s : Bridge.Session} {l : Live} {r : Request}

theorem retains_of_rests {g g' : Gateway} (key : StoreKey) (rests : g.Rests g') :
    g.engine.Retains key g'.engine := by
  refine State.retains_of_leases key ?_ rests.stores
  have same := congrArg (List.map Server.lease) rests.servers
  rw [List.map_map, List.map_map] at same
  exact same

/-- An episode that is not about a storage. -/
theorem retains_next (h : a.Kept) {ep : Episode} {key : StoreKey}
    (elsewhere : ¬ ep.Concerns key a.gateway) :
    a.gateway.engine.Retains key (a.next ep).gateway.engine := by
  have still (e : State) : e.Retains key e := State.retains_of_leases key rfl rfl
  have session {n : Nat} (acts : ep.session? = some n)
      (other : ∀ s : Bridge.Session, a.gateway.sessions[n]? = some (.bridge s) →
        s.params.key ≠ key) : a.gateway.engine.Retains key (a.gateway.episode ep).engine := by
    cases acts_episode h acts with
    | rested rests => exact retains_of_rests key rests
    | @ended s here comes =>
      rw [comes]
      obtain ⟨leases, stores⟩ := leases_closed s a.gateway.engine
      exact State.retains_of_leases key leases stores
    | @renewed s here comes =>
      rw [comes]
      obtain ⟨leases, stores⟩ := leases_closed s a.gateway.engine
      exact (State.retains_of_leases key leases stores).trans
        (State.retains_opened (h.ended here).dated s.ended (other s here))
  cases ep with
  | opened p options => exact still _
  | initialised n => exact session rfl fun s here own => elsewhere ⟨s, here, own⟩
  | closed n => exact session rfl fun s here own => elsewhere ⟨s, here, own⟩
  | shut n => exact session rfl fun s here own => elsewhere ⟨s, here, own⟩
  | asked n r => exact session rfl fun s here own => elsewhere ⟨s, here, own⟩
  | paired k =>
    show a.gateway.engine.Retains key (a.gateway.engine.markCommissioned k)
    cases hk : a.gateway.engine.servers[k]? with
    | none =>
      unfold State.markCommissioned
      rw [hk]
      exact still _
    | some sv => exact State.retains_marks h.dated hk fun own => elsewhere ⟨sv, hk, own⟩
  | written who own handle cluster attr value =>
    exact retains_of_rests key
      (Gateway.rests_writeByOther h.faults who own handle cluster attr value)
  | commanded handle cluster command args =>
    have rests : a.gateway.Rests (a.gateway.act (peerCommand handle cluster command args)).2 :=
      Gateway.rests_act (steady_peerCommand _ _ _ _) (stores_peerCommand _ _ _ _) h.faults
    exact retains_of_rests key rests
  | writesReleased => exact retains_of_rests key (Gateway.rests_releaseWrites h.faults)
  | additionsReleased => exact retains_of_rests key (Gateway.rests_releaseAdditions h.faults)
  | writesHeld | additionsHeld | passed => exact State.retains_of_leases key rfl rfl

/-- What a caller is told of the pairing codes of its bridge. -/
theorem codes_pairing (sv : Server) (e : State) : ∃ codes,
    (Gateway.pairing sv e).get? "pairingCodes" = some codes ∧
      (codes = .null ↔ e.commissioned sv = true) := by
  refine ⟨if e.commissioned sv then .null else sv.config.codes.toJson, ?_, ?_⟩
  · show Fields.get? "pairingCodes"
      (Fields.insert "commissioningWindowOpen" _ (Fields.insert _ _ _)) = _
    rw [Fields.get?_insert_of_ne _ _ (by decide), Fields.get?_insert_self]
  · cases e.commissioned sv with
    | true => exact iff_of_true rfl rfl
    | false => exact iff_of_false Json.noConfusion Bool.false_ne_true

theorem run_start (h : a.Kept) (hl : s.live = some l) {sv : Server}
    (hsv : a.gateway.engine.servers[l.server]? = some sv) (opened : sv.closed = false) :
    Ask.start.perform (s, a.gateway.engine) = (finished (.ok .null), s,
      a.gateway.engine.changeServer l.server fun sv' =>
        { sv' with online := true, windowOpen := !a.gateway.engine.commissioned sv }) := by
  simp only [Ask.perform, Bridge.start, Use.run_bind, run_theLive hl, Use.run_act,
    run_startServer h.faults hsv opened, Use.run_pure]
  rfl

/-- A store that is in use is dropped only if a session makes its first server node, and was told
    to reset the storage. -/
theorem first_of_dropped (h : a.Kept) {ep : Episode} {i : Nat} {st st' : ServerStore}
    (inUse : a.gateway.engine.serverStores[i]? = some st)
    (gone : (a.next ep).gateway.engine.serverStores[i]? = some st')
    (drops : st'.dropped ≠ st.dropped) :
    ∃ n s, ep.session? = some n ∧ a.gateway.sessions[n]? = some (.bridge s) ∧
      s.params.key = st.key ∧ s.params.resetStorage = true ∧ n ∉ a.makers := by
  have still (same : (a.next ep).gateway.engine.serverStores = a.gateway.engine.serverStores) :
      False := by
    rw [same, inUse] at gone
    exact drops (congrArg _ (Option.some.inj gone).symm)
  have session {n : Nat} (acts : ep.session? = some n) : ∃ n s, ep.session? = some n ∧
      a.gateway.sessions[n]? = some (.bridge s) ∧ s.params.key = st.key ∧
      s.params.resetStorage = true ∧ n ∉ a.makers := by
    cases acts_episode h acts with
    | rested rests => exact (still rests.stores).elim
    | @ended s here comes =>
      refine (still ?_).elim
      show (a.gateway.episode ep).engine.serverStores = _
      rw [comes]
      exact (leases_closed s a.gateway.engine).2
    | @renewed s here comes =>
      have ready : (a.next ep).gateway.engine.serverStores =
          ((s.closed a.gateway.engine).readyStore (s.params.serverConfig s.clearNext)).1 := by
        show (a.gateway.episode ep).engine.serverStores = _
        rw [comes]
        rfl
      have stores := (leases_closed s a.gateway.engine).2
      rw [ready] at gone
      rcases readyStore_cases (s.params.serverConfig s.clearNext) (s.closed a.gateway.engine) with
        ⟨-, j, taken, -, same, -⟩ | ⟨same, -⟩
      · rw [same] at ready
        exact (still (ready.trans stores)).elim
      · have lt := (List.getElem?_eq_some_iff.1 inUse).1
        rw [same, List.getElem?_append_left (by rwa [State.found, List.length_map, stores]),
          State.found, List.getElem?_map, stores, inUse] at gone
        cases gone
        obtain ⟨clears, own⟩ := clears_of_foundBy drops
        have first : s.params.clears n a.makers = true := (h.next n s here).symm.trans clears
        simp only [Params.clears, Bool.and_eq_true, Bool.not_eq_true', List.contains_eq_mem,
          decide_eq_false_iff_not] at first
        exact ⟨n, s, acts, here, own.symm, first⟩
  cases ep with
  | opened => exact (still rfl).elim
  | initialised n => exact session rfl
  | closed n => exact session rfl
  | shut n => exact session rfl
  | asked n r => exact session rfl
  | paired k =>
    refine absurd ?_ drops
    have kept : (a.next (.paired k)).gateway.engine.serverStores.map (·.dropped) =
        a.gateway.engine.serverStores.map (·.dropped) := by
      show (a.gateway.engine.markCommissioned k).serverStores.map _ = _
      cases hk : a.gateway.engine.servers[k]? with
      | none =>
        unfold State.markCommissioned
        rw [hk]
      | some sv =>
        rw [markCommissioned_eq hk]
        exact map_modify_of _ _ fun _ => rfl
    obtain ⟨old, hold, same⟩ := getElem?_of_map_eq kept gone
    cases inUse.symm.trans hold
    exact same
  | written who own handle cluster attr value =>
    have rests := Gateway.rests_writeByOther h.faults who own handle cluster attr value
    exact (still rests.stores).elim
  | commanded handle cluster command args =>
    exact (still (stores_peerCommand handle cluster command args a.gateway.engine)).elim
  | writesReleased => exact (still (Gateway.rests_releaseWrites h.faults).stores).elim
  | additionsReleased => exact (still (Gateway.rests_releaseAdditions h.faults).stores).elim
  | writesHeld | additionsHeld | passed => exact (still rfl).elim

/-! ### All of it -/

/-- Server nodes say and do what the annals tell. -/
structure Faithful (a : Annals) : Prop where
  /-- a server node says that it was paired if and only if one of its era was -/
  status : ∀ (k : Nat) (sv : Server), a.gateway.engine.servers[k]? = some sv →
    (a.gateway.engine.commissioned sv = true ↔
      ∃ j ∈ a.paired, a.gateway.engine.era? j = a.gateway.engine.era? k)
  /-- a server node is as its session said; it clears the storage if and only if it is the first
      of a session that was told to reset it -/
  cleared : ∀ (k : Nat) (sv : Server), a.gateway.engine.servers[k]? = some sv →
    ∃ n s, a.makers[k]? = some n ∧ a.gateway.sessions[n]? = some (.bridge s) ∧
      sv.config = s.params.serverConfig (s.params.clears n (a.makers.take k))
  /-- nothing else drops what is stored -/
  dropped : ∀ (ep : Episode) (i : Nat) (st st' : ServerStore),
    a.gateway.engine.serverStores[i]? = some st →
    (a.next ep).gateway.engine.serverStores[i]? = some st' → st'.dropped ≠ st.dropped →
    ∃ n s, ep.session? = some n ∧ a.gateway.sessions[n]? = some (.bridge s) ∧
      s.params.key = st.key ∧ s.params.resetStorage = true ∧ n ∉ a.makers
  /-- what is not about a storage changes nothing that is said of it -/
  elsewhere : ∀ (ep : Episode) (key : StoreKey), ¬ ep.Concerns key a.gateway →
    a.gateway.engine.Retains key (a.next ep).gateway.engine
  /-- a caller is told pairing codes unless the server node of its session was paired -/
  answered : ∀ (n : Nat) (s : Bridge.Session) (l : Live) (r : Request),
    a.gateway.sessions[n]? = some (.bridge s) → s.live = some l → Ask.ofRequest r = .ok .pairing →
    ∃ sv answer codes, a.gateway.engine.servers[l.server]? = some sv ∧
      (a.gateway.handle n r).1 = some (.ok r.id answer) ∧
      answer.get? "pairingCodes" = some codes ∧
      (codes = .null ↔ a.gateway.engine.commissioned sv = true)
  /-- a server node that is started can be paired unless it was -/
  started : ∀ (n : Nat) (s : Bridge.Session) (l : Live) (r : Request),
    a.gateway.sessions[n]? = some (.bridge s) → s.live = some l → Ask.ofRequest r = .ok .start →
    ∃ sv, a.gateway.engine.servers[l.server]? = some sv ∧
      (a.gateway.handle n r).1 = some (.ok r.id .null) ∧
      (a.gateway.handle n r).2.engine.servers[l.server]? =
        some { sv with online := true, windowOpen := !a.gateway.engine.commissioned sv }

theorem faithful_of_kept (h : a.Kept) : a.Faithful where
  status _ _ hk := h.dated.commissioned_iff hk
  cleared := by
    intro k sv hk
    have lt : k < a.makers.length := h.length ▸ (List.getElem?_eq_some_iff.1 hk).1
    have maker := List.getElem?_eq_getElem lt
    obtain ⟨s, here, config⟩ := h.made k _ sv hk maker
    exact ⟨_, s, maker, here, config⟩
  dropped _ _ _ _ inUse gone drops := first_of_dropped h inUse gone drops
  elsewhere _ _ elsewhere := retains_next h elsewhere
  answered := by
    intro n s l r here hl asked
    obtain ⟨sv, -, hsv, -, -⟩ := h.served here hl
    have served : a.gateway.serverOf? n = some sv := by
      unfold Gateway.serverOf? Bridge.Session.server?
      rw [here]
      dsimp only
      rw [hl]
      exact hsv
    obtain ⟨codes, told, null⟩ := codes_pairing sv a.gateway.engine
    exact ⟨sv, _, codes, hsv, Gateway.handle_pairing here served asked, told, null⟩
  started := by
    intro n s l r here hl asked
    obtain ⟨sv, -, hsv, opened, -⟩ := h.served here hl
    refine ⟨sv, hsv, ?_⟩
    rw [Gateway.handle_finished here asked (run_start h hl hsv opened)]
    refine ⟨rfl, ?_⟩
    show (List.modify _ _ _)[l.server]? = _
    rw [List.getElem?_modify_eq, hsv]
    rfl

/-- **What server nodes keep in their storage.**  Whatever sessions of bridges come to, several of
    them perhaps on the same storage, and whichever server nodes are paired: a server node says
    that it was paired if and only if one of its era was; an era ends only when a session that was
    told to reset the storage makes its first server node; what happens to other storages changes
    nothing; callers are told pairing codes, and a server node that is started can be paired,
    unless it was. -/
theorem faithful_after (eps : List Episode) : (after eps).Faithful :=
  faithful_of_kept (kept_after eps)

/-- A hub that may reset its storage. -/
def resetHub : Params :=
  { Visit.hub 20202021 3840 with resetStorage := true }

/-- A server node that was paired says so even after another one has cleared the storage. -/
theorem stale_after_clearing :
    let a := after [.opened (Visit.hub 20202021 3840) ⟨100, 32⟩, .initialised 0, .paired 0,
      .opened resetHub ⟨100, 32⟩, .initialised 1]
    a.gateway.engine.today (Visit.hub 20202021 3840).key = ((Visit.hub 20202021 3840).key, 1) ∧
      (∃ sv, a.gateway.engine.servers[0]? = some sv ∧
        sv.config.key = (Visit.hub 20202021 3840).key ∧ a.gateway.engine.commissioned sv = true) ∧
      ¬ ∃ j ∈ a.paired,
        a.gateway.engine.era? j = some (a.gateway.engine.today (Visit.hub 20202021 3840).key) := by
  decide +kernel

end Annals

end HomeGateway
