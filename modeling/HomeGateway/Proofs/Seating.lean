/-
  A bridge session at its place in a gateway.

  `Seated` says that an initialised session of a bridge stands under its number
  and agrees with the engine.  It holds right after the session was opened, and
  what the session does keeps it.

  * `openBridge_seated`: a session that was just opened and initialised;
  * `Seated.acted`: a session did something in the engine;
  * `Seated.put`: an endpoint of it came to another state.
-/
import HomeGateway.Gateway.Basic
import HomeGateway.Proofs.BridgeSession

namespace HomeGateway

open Device Engine Bridge

namespace Gateway

/-- The number of an endpoint of a session. -/
def handleOf? (n : Nat) (id : String) (g : Gateway) : Option Nat :=
  match g.sessions[n]? with
  | some (.bridge s) => (s.live.bind (·.member? id)).map (·.handle)
  | _ => none

/-- An endpoint of a session as the engine keeps it. -/
def endpointOf? (n : Nat) (id : String) (g : Gateway) : Option Endpoint :=
  (g.handleOf? n id).bind (endpointAt? g.engine)

/-- Session `n` is an initialised bridge session that agrees with the engine. -/
structure Seated (Fit : VirtualEndpoint → Prop) (n : Nat) (options : BridgeOptions)
    (s : Bridge.Session) (l : Live) (g : Gateway) : Prop where
  /-- its place -/
  session : g.sessions[n]? = some (.bridge s)
  /-- it is initialised -/
  live : s.live = some l
  /-- how its virtual devices behave -/
  options : s.options = options
  /-- its events go to its own sink -/
  sink : s.sink = n
  /-- the engine agrees -/
  grounded : Grounded Fit s g.engine

variable {Fit : VirtualEndpoint → Prop} {n : Nat} {options : BridgeOptions} {s : Bridge.Session}
  {l : Live} {g : Gateway}

theorem Seated.backed (h : Seated Fit n options s l g) : l.Backed Fit g.engine :=
  h.grounded.backed l h.live

theorem handleOf?_eq (h : Seated Fit n options s l g) (id : String) :
    g.handleOf? n id = (l.member? id).map (·.handle) := by
  simp [handleOf?, h.session, h.live]

/-- The gateway after session `n` became another and the engine changed. -/
def acted (n : Nat) (s : Bridge.Session) (e : State) (g : Gateway) : Gateway :=
  { g with engine := e, sessions := g.sessions.set n (.bridge s) }

theorem inBridge_eq {α : Type} {a : Doing α} {r : Except Mishap α} {s' : Bridge.Session} {e' : State}
    (run : a (s, g.engine) = (r, s', e')) : g.inBridge n s a = (r, g.acted n s' e') := by
  simp [inBridge, acted, run]

theorem Seated.acted (h : Seated Fit n options s l g) {s' : Bridge.Session} {l' : Live} {e' : State}
    (live : s'.live = some l') (same : s'.options = s.options) (sink : s'.sink = s.sink)
    (grounded : Grounded Fit s' e') : Seated Fit n options s' l' (g.acted n s' e') := by
  have hlt := (List.getElem?_eq_some_iff.1 h.session).1
  refine ⟨?_, live, same.trans h.options, sink.trans h.sink, grounded⟩
  simp [Gateway.acted, hlt]

/-- The gateway with an endpoint put in the place of another, after something was told. -/
def putEndpoint (handle : Nat) (v : VirtualEndpoint) (told : Journal) (g : Gateway) : Gateway :=
  { g with engine := g.engine.put handle (.followed v) told }

theorem Seated.put (h : Seated Fit n options s l g) {handle : Nat} {v v' : VirtualEndpoint}
    (hv : g.engine.endpoints[handle]? = some (.followed v)) (fit : Fit v')
    (hid : v'.endpoint.id = v.endpoint.id) (htype : v'.endpoint.type = v.endpoint.type)
    (told : Journal) : Seated Fit n options s l (g.putEndpoint handle v' told) :=
  ⟨h.session, h.live, h.options, h.sink, h.grounded.put hv fit hid htype told⟩

/-! ## A new session -/

/-- The gateway after a bridge session was opened and initialised. -/
def openBridge (p : Params) (options : BridgeOptions) (g : Gateway) : Except Mishap Unit × Gateway :=
  let (n, g) := g.openSession (.bridge p) options
  g.initSession n

theorem openBridge_seated (Fit : VirtualEndpoint → Prop) (free : g.engine.Free) (p : Params)
    (options : BridgeOptions) :
    (g.openBridge p options).1 = .ok () ∧
      ∃ s l, Seated Fit g.sessions.length options s l (g.openBridge p options).2 ∧
        l.members = [] := by
  have run := run_init (s := .new p options g.sessions.length) (e := g.engine) rfl free.faults
  have opened : g.openBridge p options =
      (.ok (), { g with
        engine := Session.opened (.new p options g.sessions.length) g.engine
        sessions := g.sessions ++
          [.bridge (Session.begun (.new p options g.sessions.length) g.engine)] }) := by
    simp [openBridge, openSession, initSession, inSession, inBridge, run]
  rw [opened]
  refine ⟨rfl, _, _, ⟨List.getElem?_concat_length, rfl, rfl, rfl, ?_⟩, rfl⟩
  exact Grounded.init free _

/-- The bridge of a hall. -/
def hall : Params where
  storagePath := ""
  resetStorage := false
  deviceName := "hall"
  vendorName := "home"
  passcode := 20202021
  discriminator := 3840
  vendorId := 65521
  productName := "bridge"
  productId := 32768
  port := 5540
  uniqueId := "hall"

end Gateway

end HomeGateway
