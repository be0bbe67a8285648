/-
  Where the devices are.

  Every session of a client that has a controller sits at a desk of its own:
  an open controller that tells the session of its nodes and works on the
  storage that the session named.  Sessions that named the same storage share
  its store.  Whatever the sessions do, the ledger of what they were answered
  says which devices can be paired and which node every other device is.

  * `Manned`: the sessions and their desks;
  * `kept_deed`: what one deed keeps;
  * `accounts_reached`: the ledger after every run.
-/
import HomeGateway.Proofs.Ledger

namespace HomeGateway

open Engine Client Call

namespace Client

/-! ## Desks of sessions -/

/-- A session works through controller `k`. -/
def Session.AtDesk (s : Session) (k : Nat) (e : State) : Prop :=
  ∃ c st, e.Desk k c st ∧ c.listener = .sink s.sink ∧ st.key = s.params.controllerConfig.key

variable {s : Session} {k k' : Nat} {e e' : State} {c c' : Controller}

theorem Session.AtDesk.lt_length (h : s.AtDesk k e) : k < e.controllers.length :=
  let ⟨_, _, desk, _⟩ := h
  (List.getElem?_eq_some_iff.1 desk.controller).1

/-- A desk stays while its controller and the stores do. -/
theorem Session.AtDesk.keeps (h : s.AtDesk k e)
    (controller : e'.controllers[k]? = e.controllers[k]?)
    (stores : ∀ (i : Nat) (st : ControllerStore), e.controllerStores[i]? = some st →
      (e'.controllerStores[i]?).map (·.key) = some st.key) : s.AtDesk k e' := by
  obtain ⟨c, st, desk, listener, key⟩ := h
  obtain ⟨st', hst', same⟩ := Option.map_eq_some_iff.1 (stores _ st desk.store)
  exact ⟨c, st', ⟨controller.trans desk.controller, desk.opened, hst'⟩, listener, same.trans key⟩

theorem Session.AtDesk.same (h : s.AtDesk k e) (controllers : e'.controllers = e.controllers)
    (keys : e'.controllerStores.map (·.key) = e.controllerStores.map (·.key)) : s.AtDesk k e' :=
  h.keeps (by rw [controllers]) fun i st hst => by rw [key_of_map_eq keys, hst, Option.map_some]

theorem stores_withController (config : ControllerConfig) (listener : Listener) (e : State)
    (i : Nat) {st : ControllerStore} (hst : e.controllerStores[i]? = some st) :
    ((e.withController config listener).controllerStores[i]?).map (·.key) = some st.key := by
  unfold State.withController
  rw [key_modify_changeKept, (readyFile_spec config.key e).2 i st hst, Option.map_some]

theorem atDesk_withController (h : s.AtDesk k e) (config : ControllerConfig) (listener : Listener) :
    s.AtDesk k (e.withController config listener) :=
  h.keeps (List.getElem?_append_left h.lt_length)
    fun i _ hst => stores_withController config listener e i hst

theorem atDesk_withoutController (h : s.AtDesk k e) (other : k' ≠ k) :
    s.AtDesk k (e.withoutController k' c) := by
  refine h.keeps (List.getElem?_modify_ne _ _ other) fun i st hst => ?_
  unfold State.withoutController
  rw [key_modify_changeKept, hst, Option.map_some]

/-- A new controller is the desk of the session that made it. -/
theorem atDesk_begun (s : Session) (e : State) :
    (s.begun e).AtDesk e.controllers.length (s.opened e) := by
  obtain ⟨ready, -⟩ := readyFile_spec s.params.controllerConfig.key e
  have stored := (key_modify_changeKept (e.readyFile s.params.controllerConfig.key).1
    (e.readyFile s.params.controllerConfig.key).2 (e.readyFile s.params.controllerConfig.key).2
    fun n => { n with listener := .sink s.sink }).trans ready
  obtain ⟨st, hst, key⟩ := Option.map_eq_some_iff.1 stored
  exact ⟨_, st, ⟨List.getElem?_concat_length, rfl, hst⟩, rfl, key⟩

/-! ## Ledgers of controllers that come and go -/

theorem frame_changeKept {f : Node → Node} (hf : ∀ n, (f n).frame = n.frame)
    (st : ControllerStore) : (st.changeKept f).frame = st.frame := by
  unfold ControllerStore.frame ControllerStore.changeKept
  congr 1
  rw [List.map_map]
  refine List.map_congr_left fun n _ => ?_
  show (if n.removed then n else f n).frame = _
  split
  · rfl
  · exact hf n

variable {L : Ledger}

theorem holds_withController (h : L.Holds e) (config : ControllerConfig) (listener : Listener) :
    L.Holds (e.withController config listener) :=
  (Ledger.holds_ready h config.key).frames rfl
    (map_modify_of _ _ (frame_changeKept fun _ => rfl))

theorem holds_withoutController (h : L.Holds e) (k : Nat) (c : Controller) :
    L.Holds (e.withoutController k c) :=
  h.frames rfl (map_modify_of _ _ (frame_changeKept fun _ => rfl))

/-! ## The life of a session -/

/-- A session that is initialised again closes its earlier controller. -/
theorem run_init_again (hf : e.faults = []) (hs : s.controller = some k)
    (hk : e.controllers[k]? = some c) :
    init (s, e) = (.ok (), s.begun e, (s.opened e).withoutController k c) := by
  have still :
      (e.withController s.params.controllerConfig (.sink s.sink)).controllers[k]? = some c :=
    (List.getElem?_append_left (List.getElem?_eq_some_iff.1 hk).1).trans hk
  have free : (e.withController s.params.controllerConfig (.sink s.sink)).faults = [] := hf
  simp [init, run_createController hf, hs, run_closeController free still, Session.begun,
    Session.opened]

theorem run_shutdown_vacant (hs : s.controller = none) :
    shutdown (s, e) = (.ok (), s.ended, e) := by
  simp [shutdown, hs, Session.ended]

theorem run_shutdown (hf : e.faults = []) (hs : s.controller = some k)
    (hk : e.controllers[k]? = some c) :
    shutdown (s, e) = (.ok (), s.ended, e.withoutController k c) := by
  simp [shutdown, hs, run_closeController hf hk, Session.ended]

/-! ## Requests -/

theorem run_theController (hs : s.controller = some k) :
    theController (s, e) = (.ok k, s, e) := by
  simp [theController, hs]

theorem run_theController_vacant (hs : s.controller = none) :
    theController (s, e) = (.error (.failed (.notInitialized "Controller")), s, e) := by
  simp [theController, hs]

section

variable {st : ControllerStore}

theorem run_listNodes (hs : s.controller = some k) (desk : e.Desk k c st) :
    listNodes (s, e) = (.ok (.arr ((st.kept.map (·.id)).map .ofNat)), s, e) := by
  simp [listNodes, run_theController hs, run_commissionedNodes desk]

theorem run_pairNode_refused (hs : s.controller = some k) (desk : e.Desk k c st)
    (faults : e.faults = []) {q : Pairing.Request} {f : EngineError}
    (none : Device.find? q e.devices = .error f) :
    pairNode q (s, e) = (.error (.failed (.engine f)), s, e) := by
  simp [pairNode, run_theController hs, run_commissionNode_refused desk faults none]

theorem run_pairNode (hs : s.controller = some k) (desk : e.Desk k c st) (faults : e.faults = [])
    (fresh : ∀ x ∈ st.nodes, x.id ≠ st.nextId) {q : Pairing.Request} {d : Device}
    {others : List Device} (found : Device.find? q e.devices = .ok (d, others)) :
    pairNode q (s, e) =
      (.ok (.ofNat st.nextId), s, { e with devices := others }.putStore c (st.joined (d.node c st))
        [c.listener.entry (.stateChanged st.nextId .connected)]) := by
  simp [pairNode, run_theController hs, run_commissionNode desk faults fresh found]

theorem run_removeNode (hs : s.controller = some k) (desk : e.Desk k c st) (id : Nat) :
    silent (removeNode id) (s, e) = match st.kept.find? (·.id = id) with
      | none => (.error (.failed (.engine (.nodeNotFound id))), s, e)
      | some n =>
        (.ok .null, s, e.putStore c (st.put n.remove.1) (n.remove.2.map n.listener.entry)) := by
  simp only [silent, removeNode, Use.run_bind, run_theController hs, Use.run_act,
    Engine.run_removeNode desk]
  cases st.kept.find? (·.id = id) <;> rfl

end

/-- A session did something with its nodes. -/
structure Tended (s : Session) (e : State) (p : Session × State) : Prop where
  /-- it is the same -/
  own : p.1 = s
  /-- no fault is armed -/
  faults : p.2.faults = []
  /-- the controllers stay -/
  controllers : p.2.controllers = e.controllers
  /-- the stores stay -/
  keys : p.2.controllerStores.map (·.key) = e.controllerStores.map (·.key)

theorem Tended.refl (free : e.faults = []) (s : Session) : Tended s e (s, e) :=
  ⟨rfl, free, rfl, rfl⟩

/-- An idle request. -/
theorem tended_idle {a : Errand} (idle : ¬a.Moves) (apart : e.Apart) (free : e.faults = [])
    (s : Session) :
    Tended s e (a.perform (s, e)).2 ∧ e.Unmoved (a.perform (s, e)).2.2 := by
  obtain ⟨own, unmoved⟩ := idle_perform idle (s, e)
  have unmoved := unmoved apart
  have keys := congrArg (List.map ControllerStore.key) unmoved.stores
  rw [List.map_map, List.map_map] at keys
  exact ⟨⟨own, unmoved.faults free, unmoved.controllers, keys⟩, unmoved⟩

/-- What the ledger says of the outcome of a request. -/
def Errand.ended (key : StoreKey) (a : Errand) (L : Ledger) : Except Mishap Json → Ledger
  | .ok v => L.granting key v a
  | .error _ => L

theorem granting_idle {a : Errand} (idle : ¬a.Moves) (key : StoreKey) (v : Json) (L : Ledger) :
    L.granting key v a = L := by
  cases a with
  | pair | remove => exact absurd trivial idle
  | _ => rfl

theorem holds_paired (h : L.Holds e) (free : e.faults = []) (hs : s.controller = some k)
    {st : ControllerStore} (desk : e.Desk k c st) (q : Pairing.Request) :
    Tended s e (pairNode q (s, e)).2 ∧
      ((Errand.pair q).ended st.key L (pairNode q (s, e)).1).Holds (pairNode q (s, e)).2.2 := by
  cases found : Device.find? q e.devices with
  | error f =>
    rw [run_pairNode_refused hs desk free found]
    exact ⟨.refl free s, h⟩
  | ok picked =>
    obtain ⟨d, others⟩ := picked
    obtain ⟨i, hi, first, device, left⟩ := h.picked found
    rw [run_pairNode hs desk free (h.fresh (Ledger.Holds.mem_store desk)) found]
    refine ⟨⟨rfl, free, rfl, ?_⟩, ?_⟩
    · exact Ledger.keys_putStore (e := { e with devices := others })
        ⟨desk.controller, desk.opened, desk.store⟩ rfl
    · show (L.granting st.key (.ofNat st.nextId) (.pair q)).Holds _
      rw [Ledger.granting_pair first]
      exact Ledger.holds_adopted h desk hi device left

theorem holds_removed (h : L.Holds e) (free : e.faults = []) (hs : s.controller = some k)
    {st : ControllerStore} (desk : e.Desk k c st) (id : Nat) :
    Tended s e (silent (removeNode id) (s, e)).2 ∧
      ((Errand.remove id).ended st.key L (silent (removeNode id) (s, e)).1).Holds
        (silent (removeNode id) (s, e)).2.2 := by
  rw [run_removeNode hs desk]
  cases found : st.kept.find? (·.id = id) with
  | none => exact ⟨.refl free s, h⟩
  | some n =>
    exact ⟨⟨rfl, free, rfl, Ledger.keys_putStore desk rfl⟩, Ledger.holds_dismissed h desk found⟩

/-- A request moves devices and nodes in the engine as its outcome does in the ledger. -/
theorem holds_perform (h : L.Holds e) (free : e.faults = [])
    (desk : ∀ k, s.controller = some k → s.AtDesk k e) (a : Errand) :
    Tended s e (a.perform (s, e)).2 ∧
      (a.ended s.params.controllerConfig.key L (a.perform (s, e)).1).Holds
        (a.perform (s, e)).2.2 := by
  by_cases moves : a.Moves
  · cases hs : s.controller with
    | none =>
      have run : a.perform (s, e) = (.error (.failed (.notInitialized "Controller")), s, e) := by
        cases a with
        | pair q => simp [Errand.perform, pairNode, run_theController_vacant hs]
        | remove id => simp [Errand.perform, silent, removeNode, run_theController_vacant hs]
        | _ => exact absurd moves id
      rw [run]
      exact ⟨.refl free s, h⟩
    | some k =>
      obtain ⟨c, st, desk, -, key⟩ := desk k hs
      rw [← key]
      cases a with
      | pair q => exact holds_paired h free hs desk q
      | remove id => exact holds_removed h free hs desk id
      | _ => exact absurd moves id
  · obtain ⟨tended, unmoved⟩ := tended_idle moves h.apart free s
    refine ⟨tended, ?_⟩
    have same : a.ended s.params.controllerConfig.key L (a.perform (s, e)).1 = L := by
      cases (a.perform (s, e)).1 with
      | error m => rfl
      | ok v => exact granting_idle moves _ v L
    rw [same]
    exact h.frames unmoved.devices unmoved.stores

end Client

/-! ## Gateways of clients -/

namespace Gateway

/-- Every session is one of a client, and every controller of a session is a desk of its own. -/
structure Manned (g : Gateway) : Prop where
  /-- no fault is armed -/
  faults : g.engine.faults = []
  /-- the events of a session go to its own sink -/
  clients : ∀ (n : Nat) s, g.sessions[n]? = some s → ∃ t, s = .client t ∧ t.sink = n
  /-- the sessions sit at their desks -/
  desks : ∀ (n : Nat) s k, g.sessions[n]? = some (.client s) → s.controller = some k →
    s.AtDesk k g.engine
  /-- no two at one -/
  apart : ∀ (n m : Nat) s t k, g.sessions[n]? = some (.client s) → s.controller = some k →
    g.sessions[m]? = some (.client t) → t.controller = some k → n = m

variable {g : Gateway} {n : Nat} {s s' : Client.Session} {e' : State} {L : Ledger}

theorem manned_initial : initial.Manned where
  faults := rfl
  clients _ _ hn := nomatch hn
  desks _ _ _ hn := nomatch hn
  apart _ _ _ _ _ hn := nomatch hn

/-- A session changes, and the others stay at their desks. -/
theorem Manned.put (m : g.Manned) (hn : g.sessions[n]? = some (.client s)) (faults : e'.faults = [])
    (sink : s'.sink = s.sink)
    (others : ∀ (m : Nat) t k, m ≠ n → g.sessions[m]? = some (.client t) → t.controller = some k →
      t.AtDesk k e' ∧ s'.controller ≠ some k)
    (own : ∀ k, s'.controller = some k → s'.AtDesk k e') : (g.put n (.client s') e').Manned where
  faults := faults
  clients := by
    intro i t hi
    rw [sessions_put hn] at hi
    split at hi
    · rename_i same
      cases hi
      obtain ⟨t, eq, number⟩ := m.clients n _ hn
      cases eq
      exact ⟨s', rfl, sink.trans (number.trans same.symm)⟩
    · exact m.clients i t hi
  desks := by
    intro i t k hi hk
    rw [sessions_put hn] at hi
    split at hi
    · cases hi
      exact own k hk
    · rename_i other
      exact (others i t k other hi hk).1
  apart := by
    intro i j t u k hi hk hj hk'
    rw [sessions_put hn] at hi hj
    split at hi
    · rename_i first
      cases hi
      split at hj
      · rename_i second
        exact first.trans second.symm
      · rename_i second
        exact absurd hk (others j u k second hj hk').2
    · rename_i first
      split at hj
      · cases hj
        exact absurd hk' (others i t k first hi hk).2
      · exact m.apart i j t u k hi hk hj hk'

theorem Manned.desk (m : g.Manned) (hn : g.sessions[n]? = some (.client s)) :
    ∀ k, s.controller = some k → s.AtDesk k g.engine :=
  fun k hk => m.desks n s k hn hk

/-- What a session did with its nodes leaves all at their desks. -/
theorem Manned.tended (m : g.Manned) (hn : g.sessions[n]? = some (.client s))
    (tended : Tended s g.engine (s', e')) : (g.put n (.client s') e').Manned := by
  obtain ⟨rfl, faults, controllers, keys⟩ := tended
  have stays : ∀ (t : Client.Session) k, t.AtDesk k g.engine → t.AtDesk k e' :=
    fun t k desk => desk.same controllers keys
  exact m.put hn faults rfl
    (fun i t k other hi hk => ⟨stays t k (m.desks i t k hi hk),
      fun same => other (m.apart i n t s' k hi hk hn same)⟩)
    fun k hk => stays s' k (m.desk hn k hk)

/-! ### What happens -/

theorem kept_opened (m : g.Manned) (p : Client.Params) (options : BridgeOptions) :
    (g.openSession (.client p) options).2.Manned := by
  have cases (i : Nat) (t : HomeGateway.Session)
      (hi : (g.sessions ++ [.client (.new p g.sessions.length)])[i]? = some t) :
      g.sessions[i]? = some t ∨
        (i = g.sessions.length ∧ t = .client (.new p g.sessions.length)) := by
    rcases Nat.lt_trichotomy i g.sessions.length with lt | rfl | gt
    · rw [List.getElem?_append_left lt] at hi
      exact .inl hi
    · rw [List.getElem?_concat_length] at hi
      exact .inr ⟨rfl, (Option.some.inj hi).symm⟩
    · have := (List.getElem?_eq_some_iff.1 hi).1
      rw [List.length_append, List.length_singleton] at this
      omega
  refine ⟨m.faults, ?_, ?_, ?_⟩
  · intro i t hi
    rcases cases i t hi with old | ⟨rfl, rfl⟩
    · exact m.clients i t old
    · exact ⟨_, rfl, rfl⟩
  · intro i t k hi hk
    rcases cases i _ hi with old | ⟨rfl, new⟩
    · exact m.desks i t k old hk
    · cases new
      cases hk
  · intro i j t u k hi hk hj hk'
    rcases cases i _ hi with first | ⟨rfl, new⟩
    · rcases cases j _ hj with second | ⟨rfl, new⟩
      · exact m.apart i j t u k first hk second hk'
      · cases new
        cases hk'
    · cases new
      cases hk

/-- A session gets a new desk, and leaves an earlier one. -/
theorem kept_initialised (m : g.Manned) (h : L.Holds g.engine) (n : Nat) :
    (g.initSession n).2.Manned ∧ L.Holds (g.initSession n).2.engine := by
  unfold initSession inSession
  cases hn : g.sessions[n]? with
  | none => exact ⟨m, h⟩
  | some t =>
    obtain ⟨s, rfl, -⟩ := m.clients n t hn
    have opened := holds_withController h s.params.controllerConfig (.sink s.sink)
    have begun : (s.begun g.engine).controller = some g.engine.controllers.length := rfl
    have new : ∀ (t : Client.Session) k, t.AtDesk k g.engine →
        (s.begun g.engine).controller ≠ some k := by
      intro t k desk same
      have := desk.lt_length
      rw [begun, Option.some.injEq] at same
      omega
    cases hs : s.controller with
    | none =>
      simp only [inClient, Client.run_init m.faults hs]
      refine ⟨m.put hn m.faults rfl (fun i t k _ hi hk => ?_) fun k hk => ?_, opened⟩
      · have desk := m.desks i t k hi hk
        exact ⟨atDesk_withController desk _ _, new t k desk⟩
      · obtain rfl := Option.some.inj (begun.symm.trans hk)
        exact atDesk_begun s g.engine
    | some old =>
      obtain ⟨c, st, desk, -⟩ := m.desk hn old hs
      simp only [inClient, run_init_again m.faults hs desk.controller]
      refine ⟨m.put hn m.faults rfl (fun i t k other hi hk => ?_) fun k hk => ?_,
        holds_withoutController opened old c⟩
      · have desk := m.desks i t k hi hk
        refine ⟨atDesk_withoutController (atDesk_withController desk _ _) ?_, new t k desk⟩
        rintro rfl
        exact other (m.apart i n t s old hi hk hn hs)
      · obtain rfl := Option.some.inj (begun.symm.trans hk)
        refine atDesk_withoutController (atDesk_begun s g.engine) ?_
        have := (m.desk hn old hs).lt_length
        omega

/-- A session leaves its desk. -/
theorem kept_ended (m : g.Manned) (h : L.Holds g.engine) (n : Nat) :
    (g.shutdownSession n).Manned ∧ L.Holds (g.shutdownSession n).engine := by
  unfold shutdownSession inSession
  cases hn : g.sessions[n]? with
  | none => exact ⟨m, h⟩
  | some t =>
    obtain ⟨s, rfl, -⟩ := m.clients n t hn
    have vacant (k : Nat) : s.ended.controller ≠ some k := fun same =>
      Option.some_ne_none _ same.symm
    cases hs : s.controller with
    | none =>
      simp only [inClient, run_shutdown_vacant hs]
      refine ⟨m.put hn m.faults rfl (fun i t k _ hi hk => ?_) fun k hk => absurd hk (vacant k), h⟩
      exact ⟨m.desks i t k hi hk, vacant k⟩
    | some old =>
      obtain ⟨c, st, desk, -⟩ := m.desk hn old hs
      simp only [inClient, run_shutdown m.faults hs desk.controller]
      refine ⟨m.put hn m.faults rfl (fun i t k other hi hk => ?_) fun k hk => absurd hk (vacant k),
        holds_withoutController h old c⟩
      refine ⟨atDesk_withoutController (m.desks i t k hi hk) ?_, vacant k⟩
      rintro rfl
      exact other (m.apart i n t s old hi hk hn hs)

theorem granted?_answer (r : Request) (outcome : Except Mishap Json) :
    (answer r outcome).granted? = outcome.toOption := by
  cases outcome <;> rfl

theorem noting_answered (hn : g.sessions[n]? = some (.client s)) {r : Request} {a : Errand}
    (asked : Errand.ofRequest r = .ok a) {outcome : Except Mishap Json}
    (run : (g.handle n r).1 = some (answer r outcome)) :
    L.noting g (.asked n r) = a.ended s.params.controllerConfig.key L outcome := by
  simp only [Ledger.noting, keyOf?, hn, asked, run, Option.bind_some, granted?_answer]
  cases outcome <;> rfl

/-- A request is noted in the ledger as it is answered. -/
theorem kept_asked (m : g.Manned) (h : L.Holds g.engine) (n : Nat) (r : Request) :
    (g.handle n r).2.Manned ∧ (L.noting g (.asked n r)).Holds (g.handle n r).2.engine := by
  cases hn : g.sessions[n]? with
  | none =>
    have run : g.handle n r = (none, g) := by simp only [handle, hn]
    have noted : L.noting g (.asked n r) = L := by simp only [Ledger.noting, keyOf?, hn]
    rw [run, noted]
    exact ⟨m, h⟩
  | some t =>
    obtain ⟨s, rfl, -⟩ := m.clients n t hn
    cases asked : Errand.ofRequest r with
    | error f =>
      have noted : L.noting g (.asked n r) = L := by simp only [Ledger.noting, keyOf?, hn, asked]
      rw [handle_misread hn asked, noted]
      exact ⟨m, h⟩
    | ok a =>
      obtain ⟨tended, holds⟩ := holds_perform h m.faults (m.desk hn) a
      have run := handle_errand hn asked
      rw [noting_answered hn asked (congrArg Prod.fst run), run]
      exact ⟨m.tended hn tended, holds⟩

/-- Whatever happens, sessions stay at desks of their own and the ledger holds. -/
theorem kept_deed (m : g.Manned) (h : L.Holds g.engine) (x : Deed) :
    (g.deed x).2.Manned ∧ (L.noting g x).Holds (g.deed x).2.engine := by
  cases x with
  | opened p options => exact ⟨kept_opened m p options, h⟩
  | initialised n => exact kept_initialised m h n
  | asked n r => exact kept_asked m h n r
  | ended n => exact kept_ended m h n
  | added d =>
    refine ⟨⟨m.faults, m.clients, fun n s k hn hk => ?_, m.apart⟩, Ledger.holds_adding h d⟩
    exact (m.desks n s k hn hk).same rfl rfl

end Gateway

/-! ## Runs -/

namespace Ledger

theorem kept_foldl (deeds : List Deed) {g : Gateway} {L : Ledger} (m : g.Manned)
    (h : L.Holds g.engine) :
    let after := deeds.foldl (fun at_ x => ((at_.1.deed x).2, at_.2.noting at_.1 x)) (g, L)
    after.1.Manned ∧ after.2.Holds after.1.engine := by
  induction deeds generalizing g L with
  | nil => exact ⟨m, h⟩
  | cons x deeds ih =>
    obtain ⟨m', h'⟩ := Gateway.kept_deed m h x
    exact ih m' h'

theorem kept_reached (deeds : List Deed) :
    (reached deeds).1.Manned ∧ (reached deeds).2.Holds (reached deeds).1.engine :=
  kept_foldl deeds Gateway.manned_initial holds_empty

/-- What sessions are told is what the ledger says. -/
structure Accounts (L : Ledger) (g : Gateway) : Prop where
  /-- the ledger says what there is -/
  holds : L.Holds g.engine
  /-- the nodes of a session are those that were given and not removed -/
  listed : ∀ (n : Nat) s r, g.sessions[n]? = some (.client s) → s.controller.isSome →
    Errand.ofRequest r = .ok .list → (g.handle n r).1 =
      some (.ok r.id (.arr ((L.standing s.params.controllerConfig.key).map .ofNat)))
  /-- a device that is paired gets the next id -/
  paired : ∀ (n : Nat) s r q v, g.sessions[n]? = some (.client s) →
    Errand.ofRequest r = .ok (.pair q) → (g.handle n r).1.bind (·.granted?) = some v →
    v = .ofNat ((L.under s.params.controllerConfig.key).length + 1)
  /-- nothing at all comes of a pairing that is refused -/
  refused : ∀ (n : Nat) r q, Errand.ofRequest r = .ok (.pair q) →
    (g.handle n r).1.bind (·.granted?) = none → (g.handle n r).2 = g

variable {g : Gateway} {L : Ledger}

/-- A pairing is granted with the next id, or refused and then nothing changes. -/
theorem pair_cases (m : g.Manned) (h : L.Holds g.engine) {n : Nat} {s : Client.Session}
    (hn : g.sessions[n]? = some (.client s)) {r : Request} {q : Pairing.Request}
    (asked : Errand.ofRequest r = .ok (.pair q)) :
    (g.handle n r).1.bind (·.granted?) =
        some (.ofNat ((L.under s.params.controllerConfig.key).length + 1)) ∨
      ((g.handle n r).1.bind (·.granted?) = none ∧ (g.handle n r).2 = g) := by
  have perform : (Errand.pair q).perform = pairNode q := rfl
  rw [Gateway.handle_errand hn asked, perform]
  cases hs : s.controller with
  | none =>
    have run : pairNode q (s, g.engine) =
        (.error (.failed (.notInitialized "Controller")), s, g.engine) := by
      simp [pairNode, run_theController_vacant hs]
    rw [run]
    exact .inr ⟨rfl, Gateway.put_self hn⟩
  | some k =>
    obtain ⟨c, st, desk, -, key⟩ := m.desk hn k hs
    have hst := Holds.mem_store desk
    cases found : Device.find? q g.engine.devices with
    | error f =>
      rw [run_pairNode_refused hs desk m.faults found]
      exact .inr ⟨rfl, Gateway.put_self hn⟩
    | ok picked =>
      rw [run_pairNode hs desk m.faults (h.fresh hst) found, ← key, ← h.next st hst]
      exact .inl rfl

theorem accounts (m : g.Manned) (h : L.Holds g.engine) : L.Accounts g where
  holds := h
  listed := by
    intro n s r hn some_controller asked
    obtain ⟨k, hs⟩ := Option.isSome_iff_exists.1 some_controller
    obtain ⟨c, st, desk, -, key⟩ := m.desk hn k hs
    rw [Gateway.handle_errand hn asked, show Errand.list.perform = listNodes from rfl,
      run_listNodes hs desk, h.kept (Holds.mem_store desk), key]
    rfl
  paired := by
    intro n s r q v hn asked granted
    rcases pair_cases m h hn asked with same | ⟨none, -⟩
    · rw [granted] at same
      exact Option.some.inj same
    · rw [granted] at none
      cases none
  refused := by
    intro n r q asked none
    cases hn : g.sessions[n]? with
    | none => simp only [Gateway.handle, hn]
    | some t =>
      obtain ⟨s, rfl, -⟩ := m.clients n t hn
      rcases pair_cases m h hn asked with granted | ⟨-, same⟩
      · rw [none] at granted
        cases granted
      · exact same

/-- After every run the ledger accounts for every device and every node. -/
theorem accounts_reached (deeds : List Deed) : (reached deeds).2.Accounts (reached deeds).1 :=
  let ⟨m, h⟩ := kept_reached deeds
  accounts m h

end Ledger

end HomeGateway
