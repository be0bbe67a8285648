/-
  The pairing codes that a bridge advertises.

  A caller names the credentials of its bridge when it connects, and asks the
  session later how the bridge can be paired.  Whatever happened in between, the
  manual code in the answer is that of these credentials, as far as the fields
  of the code can hold them.

  * `bounds_of_ofQuery`: which credentials a query may name;
  * `presents_becomes`, `presents_run`: the server node presents itself as the caller said;
  * `advertised`: what the manual code says;
  * `advertised_wide`: a passcode that it does not name.
-/
import HomeGateway.Proofs.PairingCodes
import HomeGateway.Proofs.Queries
import HomeGateway.Proofs.Turns

namespace HomeGateway

open Device Engine Bridge Connection Pairing

/-! ## Which credentials a query may name -/

namespace Connection.SessionParams

/-- The fields of the codes are narrower than what a query may name. -/
theorem bounds_of_ofQuery {q : QueryText.Parameters} {p : Bridge.Params}
    (accepted : ofQuery q = .ok (.bridge p)) :
    p.passcode < 2 ^ 32 ∧ p.discriminator < 2 ^ 16 := by
  have fits := fits_of_ofQuery accepted
  have passcode := fits ("passcode", .number .bits32 p.passcode) (by simp [said])
  have discriminator := fits ("discriminator", .number .bits16 p.discriminator) (by simp [said])
  exact ⟨Nat.lt_succ_of_le passcode, Nat.lt_succ_of_le discriminator⟩

end Connection.SessionParams

/-! ## What the code says of the credentials -/

section

variable (passcode discriminator : Nat)

/-- A code says of a passcode what its field holds. -/
theorem passcode_field_iff : passcode % 2 ^ 27 = passcode ↔ passcode < 2 ^ 27 :=
  Nat.mod_eq_iff_lt (by decide)

/-- The short discriminator of a code selects a long one of twelve bits. -/
theorem selects_short_iff :
    (Discriminator.short (shortDiscriminator discriminator)).selects discriminator = true ↔
      discriminator < 2 ^ 12 := by
  have whole : discriminator / 0x100 % 0x10 = discriminator / 0x100 ↔ discriminator < 2 ^ 12 := by
    omega
  simpa [Discriminator.selects, shortDiscriminator] using whole

end

/-! ## The answer -/

/-- The manual pairing code in an answer. -/
def manualIn? (answer : Json) : Option String := do
  let codes ← answer.get? "pairingCodes"
  let code ← codes.get? "manualPairingCode"
  code.text?

namespace Gateway

/-- The server node of a session of a bridge. -/
def serverOf? (n : Nat) (g : Gateway) : Option Server :=
  match g.sessions[n]? with
  | some (.bridge s) => s.server?.bind (g.engine.servers[·]?)
  | _ => none

/-- What the caller is told of the server node of its session. -/
def pairing (sv : Server) (e : State) : Json :=
  Json.ofPairs
    [ ("pairingCodes", if e.commissioned sv then .null else sv.config.codes.toJson),
      ("commissioningWindowOpen", .bool sv.windowOpen) ]

theorem manualIn?_pairing {sv : Server} {e : State} (free : e.commissioned sv = false) :
    manualIn? (pairing sv e) = some sv.config.codes.manual := by
  unfold pairing manualIn?
  rw [free, if_neg Bool.false_ne_true]
  have codes : Json.get? "pairingCodes" (Json.ofPairs [("pairingCodes", sv.config.codes.toJson),
      ("commissioningWindowOpen", .bool sv.windowOpen)]) = some sv.config.codes.toJson := by
    show Fields.get? "pairingCodes"
      (Fields.insert "commissioningWindowOpen" _ (Fields.insert _ _ _)) = _
    rw [Fields.get?_insert_of_ne _ _ (by decide), Fields.get?_insert_self]
  rw [codes]
  rfl

theorem handle_pairing {g : Gateway} {n : Nat} {s : Bridge.Session} {sv : Server}
    (here : g.sessions[n]? = some (.bridge s)) (served : g.serverOf? n = some sv) {r : Request}
    (asked : Ask.ofRequest r = .ok .pairing) :
    (g.handle n r).1 = some (.ok r.id (pairing sv g.engine)) := by
  unfold serverOf? at served
  rw [here] at served
  obtain ⟨k, hk, hsv⟩ := Option.bind_eq_some_iff.1 served
  obtain ⟨l, hl, rfl⟩ := Option.map_eq_some_iff.1 hk
  have run : Ask.perform .pairing (s, g.engine) =
      (finished (.ok (pairing sv g.engine)), s, g.engine) := by
    simp only [Ask.perform, commissioningState, Use.run_bind, run_theLive hl, Use.run_act,
      run_theServer hsv, Act.run_get, Use.run_pure]
    rfl
  rw [handle_finished here asked run]
  rfl

end Gateway

/-! ## How the server node presents itself -/

namespace Visit

/-- The session is that of a caller who said this, and so is its server node. -/
structure Presents (n : Nat) (p : Params) (s : Bridge.Session) (v : Visit) : Prop where
  /-- the session -/
  here : v.gateway.sessions[n]? = some (.bridge s)
  /-- what its caller said of it -/
  params : s.params = p
  /-- the server node -/
  server : ∀ k, s.server? = some k →
    ∃ clear, v.gateway.engine.configs[k]? = some (p.serverConfig clear)

variable {n : Nat} {p : Params} {s : Bridge.Session} {v v' : Visit} {t : Turn} {words : List Word}

theorem Presents.same (presents : v.Presents n p s)
    (sessions : v'.gateway.sessions = v.gateway.sessions)
    (servers : v'.gateway.engine.servers = v.gateway.engine.servers) : v'.Presents n p s where
  here := sessions ▸ presents.here
  params := presents.params
  server := by
    unfold State.configs
    rw [servers]
    exact presents.server

theorem presents_becomes (presents : v.Presents n p s) (step : v.Becomes n t v' words) :
    ∃ s', v'.Presents n p s' := by
  cases step with
  | hushed _ here hush =>
    cases presents.here.symm.trans here
    refine ⟨_, List.getElem?_set_self (List.getElem?_eq_some_iff.1 here).1,
      hush.params.trans presents.params, fun k own => ?_⟩
    rcases hush.server k own with before | named
    · obtain ⟨clear, named⟩ := presents.server k before
      exact ⟨clear, getElem?_of_extends hush.engine.configs named⟩
    · rwa [presents.params] at named
  | began _ _ _ _ start =>
    exact ⟨s, presents.same rfl (State.aside_started start).2.1.servers⟩
  | wrote _ _ _ start =>
    exact ⟨s, presents.same rfl
      ((State.aside_finished _ _).servers.trans (State.aside_started start).2.1.servers)⟩
  | held | passed => exact ⟨s, presents.same rfl rfl⟩
  | released =>
    obtain ⟨sessions, -, -, -, servers⟩ := Gateway.frame_foldl v.gateway.writes v.gateway.freed
    exact ⟨s, presents.same sessions servers⟩

theorem presents_run (presents : v.Presents n p s) (ts : List Turn) :
    ∃ s', (v.run n ts).Presents n p s' := by
  induction ts generalizing v s with
  | nil => exact ⟨s, presents⟩
  | cons t ts ih =>
    obtain ⟨s', presents'⟩ := presents_becomes presents (becomes_turn presents.here t)
    exact ih presents'

theorem presents_opened (p : Params) (options : BridgeOptions) (g : Gateway) :
    (opened p options g).Presents g.sessions.length p (.new p options g.sessions.length) where
  here := List.getElem?_concat_length
  params := rfl
  server := nofun

theorem Presents.config (presents : v.Presents n p s) {sv : Server}
    (served : v.gateway.serverOf? n = some sv) : ∃ clear, sv.config = p.serverConfig clear := by
  unfold Gateway.serverOf? at served
  rw [presents.here] at served
  obtain ⟨k, hk, hsv⟩ := Option.bind_eq_some_iff.1 served
  obtain ⟨clear, named⟩ := presents.server k hk
  unfold State.configs at named
  rw [List.getElem?_map, hsv] at named
  exact ⟨clear, Option.some.inj named⟩

/-- A session that is initialised gets a server node. -/
theorem served_initialised (p : Params) (options : BridgeOptions) {g : Gateway}
    (faults : g.engine.faults = []) :
    (((opened p options g).turn g.sessions.length .initialised).gateway.serverOf?
      g.sessions.length).isSome = true := by
  have here := (presents_opened p options g).here
  have run := run_init (s := .new p options g.sessions.length) (e := g.engine) rfl faults
  have sessions : ((opened p options g).turn g.sessions.length .initialised).gateway =
      (opened p options g).gateway.acted g.sessions.length
        (Session.begun (.new p options g.sessions.length) g.engine)
        (Session.opened (.new p options g.sessions.length) g.engine) := by
    show (opened p options g).gateway.asBridge g.sessions.length Bridge.init = _
    unfold Gateway.asBridge
    rw [here]
    exact congrArg Prod.snd (Gateway.inBridge_eq (g := (opened p options g).gateway) run)
  rw [sessions]
  unfold Gateway.serverOf? Gateway.acted
  rw [List.getElem?_set_self (List.getElem?_eq_some_iff.1 here).1]
  show ((g.engine.servers ++ [_])[g.engine.servers.length]?).isSome = true
  rw [List.getElem?_concat_length]
  rfl

/-- **What a bridge advertises.**  Whatever credentials a query may name and
    whatever the session of the bridge comes to: while its server node is not
    paired, the answer to a caller who asks how it can be paired has a manual
    code; it names the passcode if and only if that has at most 27 bits, and its
    discriminator selects that of the bridge if and only if that has at most 12.
    A session that was just initialised has a server node, if nothing breaks. -/
theorem advertised (g : Gateway) (options : BridgeOptions) (q : QueryText.Parameters) (p : Params)
    (accepted : SessionParams.ofQuery q = .ok (.bridge p)) (ts : List Turn) (r : Request)
    (asked : Ask.ofRequest r = .ok .pairing) :
    let n := g.sessions.length
    let v := (opened p options g).run n ts
    (p.passcode < 2 ^ 32 ∧ p.discriminator < 2 ^ 16) ∧
    (g.engine.faults = [] →
      (((opened p options g).turn n .initialised).gateway.serverOf? n).isSome = true) ∧
    ∀ sv, v.gateway.serverOf? n = some sv → v.gateway.engine.commissioned sv = false →
      ∃ answer code payload, (v.gateway.handle n r).1 = some (.ok r.id answer) ∧
        manualIn? answer = some code ∧ decodeManual? code = some payload ∧
        (payload.passcode = p.passcode ↔ p.passcode < 2 ^ 27) ∧
        ((Discriminator.short payload.short).selects p.discriminator = true ↔
          p.discriminator < 2 ^ 12) := by
  intro n v
  refine ⟨SessionParams.bounds_of_ofQuery accepted, served_initialised p options, ?_⟩
  intro sv served free
  obtain ⟨s, presents⟩ := presents_run (presents_opened p options g) ts
  obtain ⟨clear, config⟩ := presents.config served
  refine ⟨_, _, ⟨shortDiscriminator p.discriminator, p.passcode % 2 ^ 27⟩,
    Gateway.handle_pairing presents.here served asked, Gateway.manualIn?_pairing free, ?_,
    passcode_field_iff p.passcode, selects_short_iff p.discriminator⟩
  rw [config]
  exact decodeManual?_manualCode p.passcode p.discriminator

/-- A query that names the credentials of a hub. -/
def hubQuery (passcode discriminator : String) : QueryText.Parameters :=
  [("service", "bridge"), ("storagePath", "/home"), ("resetStorage", "false"),
    ("deviceName", "hub"), ("vendorName", "home"), ("passcode", passcode),
    ("discriminator", discriminator), ("vendorId", "65521"), ("productName", "bridge"),
    ("productId", "32768"), ("port", "5540"), ("uniqueId", "hub")]

/-- A hub with credentials. -/
def hub (passcode discriminator : Nat) : Params where
  storagePath := "/home"
  resetStorage := false
  deviceName := "hub"
  vendorName := "home"
  passcode := passcode
  discriminator := discriminator
  vendorId := 65521
  productName := "bridge"
  productId := 32768
  port := 5540
  uniqueId := "hub"

/-- The caller asks how its bridge can be paired. -/
def askPairing : Request :=
  ⟨"1", "bridge", "getCommissioningState", []⟩

/-- The greatest credentials that the fields of the code can hold. -/
theorem advertised_hub :
    let v := (opened (hub 134217727 4095) ⟨100, 32⟩ .initial).run 0 [.initialised, .passed 10]
    SessionParams.ofQuery (hubQuery "134217727" " +4095") = .ok (.bridge (hub 134217727 4095)) ∧
      ∃ sv, v.gateway.serverOf? 0 = some sv ∧ v.gateway.engine.commissioned sv = false ∧
        ∃ answer code payload, (v.gateway.handle 0 askPairing).1 = some (.ok "1" answer) ∧
          manualIn? answer = some code ∧ decodeManual? code = some payload ∧
          payload.passcode = 134217727 ∧
          (Discriminator.short payload.short).selects 4095 = true := by
  intro v
  have accepted :
      SessionParams.ofQuery (hubQuery "134217727" " +4095") = .ok (.bridge (hub 134217727 4095)) :=
    rfl
  have served : v.gateway.serverOf? 0 =
      some (.fresh ((hub 134217727 4095).serverConfig false) 0 (some 0)) := rfl
  obtain ⟨-, -, answers⟩ := advertised .initial ⟨100, 32⟩ (hubQuery "134217727" " +4095")
    (hub 134217727 4095) accepted [.initialised, .passed 10] askPairing rfl
  obtain ⟨answer, code, payload, response, manual, decoded, passcode, short⟩ :=
    answers _ served rfl
  exact ⟨accepted, _, served, rfl, answer, code, payload, response, manual, decoded,
    passcode.2 (by decide), short.2 (by decide)⟩

/-- A passcode of 28 bits is let through; the code that is advertised names
    another one, although there is a code that names it. -/
theorem advertised_wide :
    let v := (opened (hub 134217728 3840) ⟨100, 32⟩ .initial).turn 0 .initialised
    SessionParams.ofQuery (hubQuery "134217728" "3840") = .ok (.bridge (hub 134217728 3840)) ∧
      ((v.gateway.handle 0 askPairing).1.bind fun r => r.result.bind manualIn?) =
        some "34915200008" ∧
      decodeManual? "34915200008" = some ⟨15, 0⟩ ∧
      decodeManual? "34915281925" = some ⟨15, 134217728⟩ :=
  ⟨rfl, by decide +kernel, by decide +kernel, by decide +kernel⟩

end Visit

end HomeGateway
