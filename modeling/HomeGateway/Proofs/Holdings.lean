/-
  What the sessions of a gateway hold.

  The station of a session is its server node or its controller, while it has
  one.  In a tidy gateway every open station is that of a session, under the
  name of the session, so what a session has not closed it can still close.

  * `Tidy.begins`, `Tidy.ends`: a session opens and closes its station;
  * `initSession_spec`, `shutdownSession_spec`: the life of a session;
  * `served_handle`: requests, a reset among them;
  * `Gateway.Keeps`: whatever else happens to the gateway.
-/
import HomeGateway.Gateway.Basic
import HomeGateway.Proofs.Stations

namespace HomeGateway

open Engine Call Connection

/-! ## Sessions and their stations -/

/-- Who a session is for. -/
def Session.identity : Session → Identity
  | .bridge s => s.params.identity
  | .client s => s.params.identity

/-- The number of the station of a session. -/
def Session.station? : Session → Option Nat
  | .bridge s => s.live.map (·.server)
  | .client s => s.controller

/-- Who a session is for and its station. -/
def Session.seat (s : Session) : Identity × Option Nat :=
  (s.identity, s.station?)

namespace Gateway

/-- A session comes to another state, and so does the engine. -/
def put (n : Nat) (s : Session) (e : State) (g : Gateway) : Gateway :=
  { g with engine := e, sessions := g.sessions.set n s }

/-- Every open station is that of a session of its name. -/
structure Tidy (g : Gateway) : Prop where
  /-- no fault is armed -/
  faults : g.engine.faults = []
  /-- stations are kept apart -/
  order : g.engine.InOrder
  /-- the stations of sessions exist -/
  real : ∀ (n k : Nat) (s : Session), g.sessions[n]? = some s → s.station? = some k →
    ∃ closed, g.engine.station? s.identity.role k = some (s.identity.name, closed)
  /-- open stations are those of sessions -/
  owned : ∀ role k name, g.engine.Open role k name →
    ∃ (n : Nat) (s : Session), g.sessions[n]? = some s ∧ s.station? = some k ∧
      s.identity = ⟨role, name⟩

/-- The sessions keep who they are for, and all but one of them their stations. -/
structure Works (n : Nat) (g g' : Gateway) : Prop where
  /-- there are as many sessions -/
  length : g'.sessions.length = g.sessions.length
  /-- they are for whom they were -/
  identity : ∀ m : Nat, (g'.sessions[m]?).map (·.identity) = (g.sessions[m]?).map (·.identity)
  /-- the others have the stations they had -/
  others : ∀ m : Nat, m ≠ n → (g'.sessions[m]?).map (·.seat) = (g.sessions[m]?).map (·.seat)

/-- The sessions keep their stations, and the engine its frame. -/
structure Keeps (g g' : Gateway) : Prop where
  /-- the sessions -/
  seats : g'.sessions.map (·.seat) = g.sessions.map (·.seat)
  /-- the engine -/
  engine : g.engine.Keeps g'.engine

variable {g g' g'' : Gateway} {n k : Nat} {s s' : Session} {e' : State}

theorem Keeps.refl (g : Gateway) : g.Keeps g :=
  ⟨rfl, .refl g.engine⟩

theorem Keeps.trans (h : g.Keeps g') (h' : g'.Keeps g'') : g.Keeps g'' :=
  ⟨h'.seats.trans h.seats, h.engine.trans h'.engine⟩

theorem Keeps.works (h : g.Keeps g') (n : Nat) : Works n g g' where
  length := by simpa using congrArg List.length h.seats
  identity := by
    intro m
    have same := congrArg (Option.map Prod.fst) (key_of_map_eq h.seats m)
    rw [Option.map_map, Option.map_map] at same
    exact same
  others := fun m _ => key_of_map_eq h.seats m

theorem Keeps.tidy (h : g.Keeps g') (tidy : g.Tidy) : g'.Tidy where
  faults := h.engine.faults.trans tidy.faults
  order := tidy.order.keeps h.engine
  real := by
    intro n k s hn hk
    obtain ⟨s₀, hn₀, seat⟩ := getElem?_of_map_eq h.seats hn
    have identity : s.identity = s₀.identity := congrArg Prod.fst seat
    have station : s.station? = s₀.station? := congrArg Prod.snd seat
    rw [h.engine.station?, identity]
    exact tidy.real n k s₀ hn₀ (station ▸ hk)
  owned := by
    intro role k name opened
    unfold State.Open at opened
    rw [h.engine.station?] at opened
    obtain ⟨n, s, hn, hk, hid⟩ := tidy.owned role k name opened
    obtain ⟨s', hn', seat⟩ := getElem?_of_map_eq h.seats.symm hn
    have identity : s.identity = s'.identity := congrArg Prod.fst seat
    have station : s.station? = s'.station? := congrArg Prod.snd seat
    exact ⟨n, s', hn', station ▸ hk, identity ▸ hid⟩

/-! ## A session opens and closes its station -/

theorem sessions_put (hn : g.sessions[n]? = some s) (m : Nat) :
    (g.put n s' e').sessions[m]? = if m = n then some s' else g.sessions[m]? := by
  have lt := (List.getElem?_eq_some_iff.1 hn).1
  show (g.sessions.set n s')[m]? = _
  by_cases same : m = n
  · subst same
    rw [if_pos rfl, List.getElem?_set_self lt]
  · rw [if_neg same, List.getElem?_set_ne (Ne.symm same)]

theorem works_put (hn : g.sessions[n]? = some s) (hid : s'.identity = s.identity) :
    Works n g (g.put n s' e') where
  length := List.length_set
  identity := by
    intro m
    rw [sessions_put hn]
    split
    · rename_i same
      rw [same, hn, Option.map_some, Option.map_some, hid]
    · rfl
  others := by
    intro m other
    rw [sessions_put hn, if_neg other]

theorem put_put (n : Nat) (s s' : Session) (e e' : State) :
    (g.put n s e).put n s' e' = g.put n s' e' := by
  unfold put
  rw [List.set_set]

theorem keeps_put (hn : g.sessions[n]? = some s) (seat : s'.seat = s.seat)
    (keeps : g.engine.Keeps e') : g.Keeps (g.put n s' e') where
  seats := by
    ext m
    rw [List.getElem?_map, List.getElem?_map, sessions_put hn]
    split
    · rename_i same
      rw [same, hn, Option.map_some, Option.map_some, seat]
    · rfl
  engine := keeps

/-- A session opens a station. -/
theorem Tidy.begins (h : g.Tidy) (hn : g.sessions[n]? = some s) (vacant : s.station? = none)
    (fresh : g.engine.station? s.identity.role k = none)
    (sets : g.engine.Sets s.identity k false e') (hid : s'.identity = s.identity)
    (hk : s'.station? = some k) : (g.put n s' e').Tidy where
  faults := sets.spares.faults.trans h.faults
  order := sets.order
  real := by
    intro m k' t hm ht
    rw [sessions_put hn] at hm
    show ∃ closed, e'.station? _ _ = _
    split at hm
    · cases hm
      rw [hk] at ht
      cases ht
      refine ⟨false, ?_⟩
      rw [hid, sets.station, if_pos ⟨rfl, rfl⟩]
    · obtain ⟨closed, station⟩ := h.real m k' t hm ht
      refine ⟨closed, ?_⟩
      rw [sets.station, if_neg]
      · exact station
      · rintro ⟨role, rfl⟩
        rw [role, fresh] at station
        cases station
  owned := by
    intro role k' name (opened : e'.station? role k' = some (name, false))
    rw [sets.station] at opened
    split at opened
    · rename_i new
      obtain ⟨rfl, rfl⟩ := new
      cases opened
      refine ⟨n, s', ?_, hk, hid⟩
      rw [sessions_put hn, if_pos rfl]
    · obtain ⟨m, t, hm, ht, htid⟩ := h.owned role k' name opened
      refine ⟨m, t, ?_, ht, htid⟩
      have other : m ≠ n := by
        rintro rfl
        rw [hn] at hm
        cases hm
        rw [vacant] at ht
        cases ht
      rw [sessions_put hn, if_neg other]
      exact hm

/-- A session closes its station. -/
theorem Tidy.ends (h : g.Tidy) (hn : g.sessions[n]? = some s) (hk : s.station? = some k)
    (sets : g.engine.Sets s.identity k true e') (vacant : s'.station? = none) :
    (g.put n s' e').Tidy where
  faults := sets.spares.faults.trans h.faults
  order := sets.order
  real := by
    intro m k' t hm ht
    rw [sessions_put hn] at hm
    show ∃ closed, e'.station? _ _ = _
    split at hm
    · cases hm
      rw [vacant] at ht
      cases ht
    · obtain ⟨closed, station⟩ := h.real m k' t hm ht
      rw [sets.station]
      split
      · rename_i same
        obtain ⟨role, rfl⟩ := same
        obtain ⟨closed', own⟩ := h.real n k' s hn hk
        rw [role, own] at station
        refine ⟨true, ?_⟩
        rw [show s.identity.name = t.identity.name from congrArg Prod.fst (Option.some.inj station)]
      · exact ⟨closed, station⟩
  owned := by
    intro role k' name (opened : e'.station? role k' = some (name, false))
    rw [sets.station] at opened
    split at opened
    · cases opened
    · rename_i other
      obtain ⟨m, t, hm, ht, htid⟩ := h.owned role k' name opened
      refine ⟨m, t, ?_, ht, htid⟩
      have apart : m ≠ n := by
        rintro rfl
        rw [hn] at hm
        cases hm
        rw [hk] at ht
        cases ht
        rw [htid] at other
        exact other ⟨rfl, rfl⟩
      rw [sessions_put hn, if_neg apart]
      exact hm

end Gateway

/-! ## Bridges -/

namespace Bridge

variable {s : Session} {e : State}

/-- The engine after a session closed its server node, if it had one. -/
def Session.closed (s : Session) (e : State) : State :=
  match s.live with
  | some l => e.withoutServer l.server
  | none => e

/-- The server node of a session exists. -/
def Session.Real (s : Session) (e : State) : Prop :=
  ∀ l, s.live = some l → ∃ sv, e.servers[l.server]? = some sv ∧ sv.config.id = s.params.uniqueId

theorem run_close_real (hf : e.faults = []) (real : s.Real e) :
    close (s, e) = (.ok (), s.ended, s.closed e) := by
  cases hl : s.live with
  | none =>
    rw [run_close_none hl]
    simp only [Session.closed, hl, Session.ended]
    rw [← hl]
  | some l =>
    obtain ⟨sv, hk, -⟩ := real l hl
    simp [close, hl, run_closeServer_withoutServer hf hk, Session.ended, Session.closed]

theorem faults_closed (s : Session) (e : State) : (s.closed e).faults = e.faults := by
  unfold Session.closed
  cases s.live <;> rfl

theorem run_init_real (hf : e.faults = []) (real : s.Real e) :
    init (s, e) = (.ok (), s.ended.begun (s.closed e), s.ended.opened (s.closed e)) := by
  have ended : s.ended.live = none := rfl
  have begin := run_init ended ((faults_closed s e).trans hf)
  cases hl : s.live with
  | none =>
    have same : s.ended = s := by
      unfold Session.ended
      rw [← hl]
    have still : s.closed e = e := by
      unfold Session.closed
      rw [hl]
    rw [same, still] at begin ⊢
    exact begin
  | some l =>
    obtain ⟨sv, hk, -⟩ := real l hl
    rw [← begin]
    simp [init, hl, run_closeServer_withoutServer hf hk, Session.ended, Session.closed]

theorem run_reset_real (hf : e.faults = []) (real : s.Real e) :
    reset (s, e) = (.ok (), s.ended.begun (s.closed e), s.ended.opened (s.closed e)) := by
  simp only [reset, Use.run_bind, run_close_real hf real]
  exact run_init rfl ((faults_closed s e).trans hf)

end Bridge

namespace Gateway

variable {g : Gateway} {n : Nat} {s : Bridge.Session}

theorem Tidy.bridge_real (h : g.Tidy) (hn : g.sessions[n]? = some (.bridge s)) :
    s.Real g.engine := by
  intro l hl
  have hk : (Session.bridge s).station? = some l.server := by
    show s.live.map _ = _
    rw [hl]
    rfl
  obtain ⟨closed, station⟩ := h.real n l.server _ hn hk
  obtain ⟨sv, hsv, eq⟩ := Option.map_eq_some_iff.1 station
  exact ⟨sv, hsv, congrArg Prod.fst eq⟩

theorem spares_closed (h : g.Tidy) (hn : g.sessions[n]? = some (.bridge s)) :
    g.engine.Spares s.params.identity (s.closed g.engine) := by
  unfold Bridge.Session.closed
  cases hl : s.live with
  | none => exact .refl _ _
  | some l =>
    obtain ⟨sv, hk, id⟩ := h.bridge_real hn l hl
    have sets := sets_withoutServer h.order hk
    rw [id] at sets
    exact sets.spares

/-- A bridge session closes its server node. -/
theorem tidy_closed (h : g.Tidy) (hn : g.sessions[n]? = some (.bridge s)) :
    (g.put n (.bridge s.ended) (s.closed g.engine)).Tidy := by
  unfold Bridge.Session.closed
  cases hl : s.live with
  | none =>
    refine (keeps_put hn ?_ (.refl g.engine)).tidy h
    show (s.params.identity, none) = (s.params.identity, s.live.map (·.server))
    rw [hl]
    rfl
  | some l =>
    obtain ⟨sv, hk, id⟩ := h.bridge_real hn l hl
    have sets := sets_withoutServer h.order hk
    rw [id] at sets
    refine h.ends hn ?_ sets rfl
    show s.live.map _ = _
    rw [hl]
    rfl

theorem sessions_ended (hn : g.sessions[n]? = some (.bridge s)) (e : State) :
    (g.put n (.bridge s.ended) e).sessions[n]? = some (.bridge s.ended) := by
  rw [sessions_put hn, if_pos rfl]

/-- A bridge session that has no server node opens one. -/
theorem tidy_opened (h : g.Tidy) (hn : g.sessions[n]? = some (.bridge s)) (hl : s.live = none) :
    (g.put n (.bridge (s.begun g.engine)) (s.opened g.engine)).Tidy := by
  refine h.begins hn ?_ (Bridge.fresh_opened g.engine) (Bridge.sets_opened h.order s) rfl rfl
  show s.live.map _ = none
  rw [hl]
  rfl

/-- The gateway after a bridge session began anew. -/
def renewed (n : Nat) (s : Bridge.Session) (g : Gateway) : Gateway :=
  let e := s.closed g.engine
  g.put n (.bridge (s.ended.begun e)) (s.ended.opened e)

theorem tidy_renewed (h : g.Tidy) (hn : g.sessions[n]? = some (.bridge s)) :
    (g.renewed n s).Tidy := by
  have begin := tidy_opened (tidy_closed h hn) (sessions_ended hn _) rfl
  rw [put_put] at begin
  exact begin

theorem spares_renewed (h : g.Tidy) (hn : g.sessions[n]? = some (.bridge s)) :
    g.engine.Spares s.params.identity (g.renewed n s).engine :=
  (spares_closed h hn).trans (Bridge.sets_opened (tidy_closed h hn).order s.ended).spares

theorem inBridge_close (h : g.Tidy) (hn : g.sessions[n]? = some (.bridge s)) :
    g.inBridge n s Bridge.close =
      (.ok (), g.put n (.bridge s.ended) (s.closed g.engine)) := by
  unfold inBridge
  rw [Bridge.run_close_real h.faults (h.bridge_real hn)]
  rfl

theorem inBridge_init (h : g.Tidy) (hn : g.sessions[n]? = some (.bridge s)) :
    g.inBridge n s Bridge.init = (.ok (), g.renewed n s) := by
  unfold inBridge
  rw [Bridge.run_init_real h.faults (h.bridge_real hn)]
  rfl

theorem inBridge_shutdown (h : g.Tidy) (hn : g.sessions[n]? = some (.bridge s)) :
    g.inBridge n s Bridge.shutdown =
      (.ok (), g.put n (.bridge s.ended) (s.closed g.engine)) := by
  unfold inBridge Bridge.shutdown
  rw [Bridge.run_close_real h.faults (h.bridge_real hn)]
  rfl

end Gateway

/-! ## Clients -/

namespace Client

/-- A session with a new controller. -/
def Session.begun (s : Session) (e : State) : Session :=
  { s with controller := some e.controllers.length }

/-- The engine after a session made its controller. -/
def Session.opened (s : Session) (e : State) : State :=
  e.withController s.params.controllerConfig (.sink s.sink)

/-- A session without a controller. -/
def Session.ended (s : Session) : Session :=
  { s with controller := none }

theorem run_init {s : Session} {e : State} (hf : e.faults = []) (hs : s.controller = none) :
    init (s, e) = (.ok (), s.begun e, s.opened e) := by
  simp [init, run_createController hf, hs, Session.begun, Session.opened]

end Client

namespace Gateway

variable {g : Gateway} {n : Nat} {s : Client.Session}

theorem inClient_init (h : g.Tidy) (hs : s.controller = none) :
    g.inClient n s Client.init =
      (.ok (), g.put n (.client (s.begun g.engine)) (s.opened g.engine)) := by
  unfold inClient
  rw [Client.run_init h.faults hs]
  rfl

theorem tidy_made (h : g.Tidy) (hn : g.sessions[n]? = some (.client s)) (hs : s.controller = none) :
    (g.put n (.client (s.begun g.engine)) (s.opened g.engine)).Tidy :=
  h.begins hn hs (fresh_withController g.engine)
    (sets_withController h.order s.params.controllerConfig (.sink s.sink)) rfl rfl

/-- A client session closes its controller. -/
theorem inClient_shutdown (h : g.Tidy) (hn : g.sessions[n]? = some (.client s)) :
    ∃ e', g.inClient n s Client.shutdown = (.ok (), g.put n (.client s.ended) e') ∧
      g.engine.Spares s.params.identity e' ∧ (g.put n (.client s.ended) e').Tidy := by
  unfold inClient
  cases hs : s.controller with
  | none =>
    refine ⟨g.engine, ?_, .refl _ _, ?_⟩
    · simp [Client.shutdown, hs]
      rfl
    · refine (keeps_put hn ?_ (.refl g.engine)).tidy h
      show (s.params.identity, none) = (s.params.identity, s.controller)
      rw [hs]
  | some k =>
    obtain ⟨closed, station⟩ := h.real n k _ hn hs
    obtain ⟨c, hc, eq⟩ := Option.map_eq_some_iff.1 station
    have id : c.id = s.params.controllerName := congrArg Prod.fst eq
    have sets := sets_withoutController h.order hc
    rw [id] at sets
    refine ⟨g.engine.withoutController k c, ?_, sets.spares, h.ends hn hs sets rfl⟩
    simp [Client.shutdown, hs, run_closeController h.faults hc]
    rfl

end Gateway

/-! ## The life of a session -/

namespace Gateway

variable {g : Gateway} {n : Nat} {s : Session}

theorem initSession_spec (h : g.Tidy) (hn : g.sessions[n]? = some s) (vacant : s.station? = none) :
    ∃ s' e', g.initSession n = (.ok (), g.put n s' e') ∧ s'.identity = s.identity ∧
      g.engine.Spares s.identity e' ∧ (g.put n s' e').Tidy := by
  unfold initSession inSession
  rw [hn]
  cases s with
  | bridge s =>
    exact ⟨_, _, inBridge_init h hn, rfl, spares_renewed h hn, tidy_renewed h hn⟩
  | client s =>
    exact ⟨_, _, inClient_init h vacant, rfl,
      (sets_withController h.order s.params.controllerConfig (.sink s.sink)).spares,
      tidy_made h hn vacant⟩

theorem shutdownSession_spec (h : g.Tidy) (hn : g.sessions[n]? = some s) :
    ∃ s' e', g.shutdownSession n = g.put n s' e' ∧ s'.identity = s.identity ∧ s'.station? = none ∧
      g.engine.Spares s.identity e' ∧ (g.put n s' e').Tidy := by
  unfold shutdownSession inSession
  rw [hn]
  cases s with
  | bridge s =>
    exact ⟨_, _, congrArg Prod.snd (inBridge_shutdown h hn), rfl, rfl, spares_closed h hn,
      tidy_closed h hn⟩
  | client s =>
    obtain ⟨e', run, spares, tidy⟩ := inClient_shutdown h hn
    exact ⟨_, e', congrArg Prod.snd run, rfl, rfl, spares, tidy⟩

/-- A session without a station joins. -/
theorem Tidy.joins (h : g.Tidy) {t : Session} (vacant : t.station? = none) :
    ({ g with sessions := g.sessions ++ [t] } : Gateway).Tidy where
  faults := h.faults
  order := h.order
  real := by
    intro m k u (hm : (g.sessions ++ [t])[m]? = some u) hk
    rcases Nat.lt_trichotomy m g.sessions.length with lt | rfl | gt
    · rw [List.getElem?_append_left lt] at hm
      exact h.real m k u hm hk
    · rw [List.getElem?_concat_length] at hm
      cases hm
      rw [vacant] at hk
      cases hk
    · have := (List.getElem?_eq_some_iff.1 hm).1
      rw [List.length_append, List.length_singleton] at this
      omega
  owned := by
    intro role k name opened
    obtain ⟨m, u, hm, hk, hid⟩ := h.owned role k name opened
    refine ⟨m, u, ?_, hk, hid⟩
    show (g.sessions ++ [t])[m]? = _
    rw [List.getElem?_append_left (List.getElem?_eq_some_iff.1 hm).1]
    exact hm

/-- The session that parameters open. -/
def newSession (p : SessionParams) (options : BridgeOptions) (n : Nat) : Session :=
  match p with
  | .bridge p => .bridge (.new p options n)
  | .client p => .client (.new p n)

theorem identity_newSession (p : SessionParams) (options : BridgeOptions) (n : Nat) :
    (newSession p options n).identity = p.identity := by
  cases p <;> rfl

theorem station?_newSession (p : SessionParams) (options : BridgeOptions) (n : Nat) :
    (newSession p options n).station? = none := by
  cases p <;> rfl

theorem openSession_eq (p : SessionParams) (options : BridgeOptions) (g : Gateway) :
    g.openSession p options = (g.sessions.length,
      { g with sessions := g.sessions ++ [newSession p options g.sessions.length] }) :=
  rfl

end Gateway

/-! ## Requests and whatever else happens -/

namespace Gateway

variable {g : Gateway} {n : Nat}

theorem Tidy.of_eq {g' : Gateway} (h : g.Tidy) (engine : g'.engine = g.engine)
    (sessions : g'.sessions = g.sessions) : g'.Tidy :=
  Keeps.tidy ⟨congrArg _ sessions, engine ▸ .refl g.engine⟩ h

theorem keeps_act {α : Type} {a : Act α} (ha : a.Steady) (hf : g.engine.faults = []) :
    g.Keeps (g.act a).2 :=
  ⟨rfl, ha g.engine hf⟩

theorem keeps_inBridge {α : Type} {s : Bridge.Session} {a : Bridge.Doing α}
    (ha : a.Steady Bridge.Session.seat) (hf : g.engine.faults = [])
    (hn : g.sessions[n]? = some (.bridge s)) : g.Keeps (g.inBridge n s a).2 := by
  obtain ⟨seat, keeps⟩ := ha (s, g.engine) hf
  refine keeps_put hn ?_ keeps
  exact congrArg (fun seat : Bridge.Params × Option Nat => (seat.1.identity, seat.2)) seat

theorem keeps_inClient {α : Type} {s : Client.Session} {a : Client.Doing α}
    (ha : a.Steady Client.Session.seat) (hf : g.engine.faults = [])
    (hn : g.sessions[n]? = some (.client s)) : g.Keeps (g.inClient n s a).2 := by
  obtain ⟨seat, keeps⟩ := ha (s, g.engine) hf
  refine keeps_put hn ?_ keeps
  exact congrArg (fun seat : Client.Params × Option Nat => (seat.1.identity, seat.2)) seat

/-- The gateway is still tidy, and only one session may have another station. -/
structure Served (n : Nat) (g g' : Gateway) : Prop where
  /-- it is tidy -/
  tidy : g'.Tidy
  /-- the sessions stay -/
  works : Works n g g'

theorem Keeps.served {g' : Gateway} (h : g.Keeps g') (tidy : g.Tidy) (n : Nat) : Served n g g' :=
  ⟨h.tidy tidy, h.works n⟩

theorem Served.of_eq {g' g'' : Gateway} (h : Served n g g') (engine : g''.engine = g'.engine)
    (sessions : g''.sessions = g'.sessions) : Served n g g'' where
  tidy := h.tidy.of_eq engine sessions
  works := by
    obtain ⟨length, identity, others⟩ := h.works
    constructor
    all_goals rw [sessions]
    · exact length
    · exact identity
    · exact others

theorem served_renewed {s : Bridge.Session} (h : g.Tidy) (hn : g.sessions[n]? = some (.bridge s)) :
    Served n g (g.renewed n s) :=
  ⟨tidy_renewed h hn, works_put hn rfl⟩

theorem served_perform {s : Bridge.Session} (h : g.Tidy) (hn : g.sessions[n]? = some (.bridge s))
    (a : Ask) : Served n g (g.inBridge n s a.perform).2 := by
  by_cases reset : a = .reset
  · subst reset
    have run : Ask.reset.perform (s, g.engine) = (.ok (.done .null),
        s.ended.begun (s.closed g.engine), s.ended.opened (s.closed g.engine)) := by
      show (do Bridge.reset; return .done .null : Bridge.Doing Bridge.Progress) _ = _
      rw [Use.run_bind, Bridge.run_reset_real h.faults (h.bridge_real hn)]
      rfl
    rw [inBridge_eq run]
    exact served_renewed h hn
  · exact (keeps_inBridge (Bridge.steady_perform reset) h.faults hn).served h n

theorem served_function {s : Bridge.Session} (h : g.Tidy) (hn : g.sessions[n]? = some (.bridge s))
    {space name : String} {f : Bridge.Function}
    (found : Bridge.functions.resolve space name = .ok f) (args : List Json) :
    Served n g (g.inBridge n s (f args)).2 := by
  by_cases here : space = Bridge.space
  · subst here
    rcases resolve_read args name with ⟨missing, -⟩ | ⟨f', found', does⟩
    · rw [found] at missing
      cases missing
    · rw [found] at found'
      cases found'
      cases asked : Ask.read args name with
      | ok a =>
        rw [asked] at does
        rw [show f args = a.perform from does]
        exact served_perform h hn a
      | error failure =>
        rw [asked] at does
        unfold inBridge
        rw [does]
        exact (keeps_put hn rfl (.refl g.engine)).served h n
  · rw [resolve_elsewhere here] at found
    cases found

/-- A request leaves the gateway tidy. -/
theorem served_handle (h : g.Tidy) (n : Nat) (r : Request) : Served n g (g.handle n r).2 := by
  unfold handle
  cases hn : g.sessions[n]? with
  | none => exact (Keeps.refl g).served h n
  | some s =>
    cases s with
    | bridge s =>
      show Served n g (g.handleBridge n s r).2
      unfold handleBridge
      cases found : Bridge.functions.resolve r.space r.function with
      | error f => exact (Keeps.refl g).served h n
      | ok f =>
        have served := served_function h hn found r.args
        dsimp only
        generalize g.inBridge n s (f r.args) = run at served
        rcases run with ⟨_ | (_ | _ | _), g'⟩
        · exact served
        · exact served
        · exact served.of_eq rfl rfl
        · exact served.of_eq rfl rfl
    | client s =>
      show Served n g (g.handleClient n s r).2
      unfold handleClient
      cases found : Client.functions.resolve r.space r.function with
      | error f => exact (Keeps.refl g).served h n
      | ok f => exact (keeps_inClient (Client.steady_function found r.args) h.faults hn).served h n

/-! ### Waiting work -/

theorem keeps_note (entry : Engine.Entry) : g.Keeps (g.note entry) :=
  ⟨rfl, { State.Keeps.refl g.engine with }⟩

theorem keeps_foldl {α : Type} {f : Gateway → α → Gateway}
    (hf : ∀ (g : Gateway) (x : α), g.engine.faults = [] → g.Keeps (f g x)) (xs : List α)
    (free : g.engine.faults = []) : g.Keeps (xs.foldl f g) := by
  induction xs generalizing g with
  | nil => exact .refl g
  | cons x xs ih =>
    have first := hf g x free
    exact first.trans (ih (first.engine.faults.trans free))

theorem keeps_finishWaitingWrite (hf : g.engine.faults = []) (w : WaitingWrite) :
    g.Keeps (g.finishWaitingWrite w) := by
  have keeps := keeps_act (steady_finishWrite w.write) hf
  unfold finishWaitingWrite
  cases w.writer with
  | request session request => exact keeps.trans (keeps_note _)
  | other who => exact keeps.trans (keeps_note _)

theorem keeps_releaseWrites (hf : g.engine.faults = []) : g.Keeps g.releaseWrites := by
  have freed : g.Keeps
      { g with engine := { g.engine with writesHeld := false }, writes := [] } :=
    ⟨rfl, { State.Keeps.refl g.engine with }⟩
  exact freed.trans (keeps_foldl (fun _ w free => keeps_finishWaitingWrite free w) g.writes hf)

theorem keeps_finishWaitingAddition (hf : g.engine.faults = []) (a : WaitingAddition) :
    g.Keeps (g.finishWaitingAddition a) := by
  unfold finishWaitingAddition
  split
  · rename_i s hs
    exact (keeps_inBridge (Bridge.steady_finishAddition _ _ _) hf hs).trans (keeps_note _)
  · exact .refl g

theorem keeps_releaseAdditions (hf : g.engine.faults = []) : g.Keeps g.releaseAdditions := by
  have freed : g.Keeps
      { g with engine := { g.engine with addsHeld := false }, additions := [] } :=
    ⟨rfl, { State.Keeps.refl g.engine with }⟩
  exact freed.trans (keeps_foldl (fun _ a free => keeps_finishWaitingAddition free a) g.additions hf)

theorem keeps_writeByOther (hf : g.engine.faults = []) (who : String) (own : Bool) (handle : Nat)
    (cluster attr : String) (value : Json) :
    g.Keeps (g.writeByOther who own handle cluster attr value).2 := by
  have started := keeps_act (steady_startWrite own handle cluster attr value) hf
  unfold writeByOther
  generalize g.act (startWrite own handle cluster attr value) = run at started
  rcases run with ⟨_ | w, g'⟩
  · exact started
  · dsimp only
    split
    · exact started.trans ⟨rfl, .refl g'.engine⟩
    · have ended := keeps_act (g := g') (steady_finishWrite w) (started.engine.faults.trans hf)
      exact started.trans ended

end Gateway

end HomeGateway
