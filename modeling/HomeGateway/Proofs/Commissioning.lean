/-
  Pairing by a code.

  Whoever types the code of a device, with blanks around it, and a manual code
  with spaces and dashes between its digits, pairs the first device that has
  the same code, as far as the code tells devices apart.

  * `meant_of_code`: the devices that a typed code means;
  * `commissioned_of_code`: what a session that asks to pair one gets.
-/
import HomeGateway.Proofs.Custody
import HomeGateway.Proofs.PairingCodes

namespace HomeGateway

open Engine Client Pairing

/-! ## Typed codes -/

/-- A text is the code of a device as someone may type it, and these are the devices
    that the code does not tell from it. -/
inductive Engine.Device.Code (d : Device) : String → (Device → Bool) → Prop where
  /-- the manual code of a device whose numbers fit in it -/
  | manual {before inner after : List Char} (narrow : d.discriminator < 2 ^ 12)
      (small : d.passcode < 2 ^ 27) (hb : ∀ c ∈ before, Text.isBlank c = true)
      (spread : Spread d.codes.manual.toList inner) (ha : ∀ c ∈ after, Text.isBlank c = true) :
      Code d (String.ofList (before ++ inner ++ after)) d.sameManual
  /-- the QR code of a device -/
  | qr {before after : List Char} (hb : ∀ c ∈ before, Text.isBlank c = true)
      (ha : ∀ c ∈ after, Text.isBlank c = true) :
      Code d (String.ofList (before ++ d.codes.qr.toList ++ after)) d.sameQr

namespace Engine.Device

variable {d : Device} {text : String} {same : Device → Bool}

theorem Code.self (h : d.Code text same) : same d = true := by
  cases h with
  | manual => simp [sameManual]
  | qr => simp [sameQr]

/-- A typed code means the devices that it does not tell from its own. -/
theorem meant_of_code (h : d.Code text same) (short passcode : Option Nat) (x : Device) :
    x.answers (Request.ofArguments (some text) short passcode) = .ok (same x) := by
  cases h with
  | @manual before inner after narrow small hb spread ha =>
    rw [ofArguments_manual hb ha short passcode spread]
    refine answers_manual narrow small ?_ x
    rw [String.toList_ofList]
    exact spread.filter_isDigit fun c hc => isDigit_of_mem_manualCode _ _ hc
  | qr hb ha =>
    rw [show d.codes.qr = qrCode d.vendorId d.productId d.discriminator d.passcode from rfl,
      ofArguments_qr hb ha short passcode]
    exact answers_qr x

end Engine.Device

/-! ## Pairing -/

namespace Gateway

/-- Of the devices that are alike the first leaves, as the next node of a store; the session
    gets its id and is told of it, and nobody is told anything else. -/
structure Commissions (n : Nat) (id : String) (key : StoreKey) (alike : Device → Bool)
    (g : Gateway) (response : Option Response) (g' : Gateway) (front : List Device)
    (d : Device) (back : List Device) (st st' : ControllerStore) : Prop where
  /-- the devices before -/
  before : g.engine.devices = front ++ d :: back
  /-- none of those in front is alike -/
  others : ∀ x ∈ front, alike x = false
  /-- the device is -/
  alike : alike d = true
  /-- it leaves -/
  after : g'.engine.devices = front ++ back
  /-- the store of the session -/
  store : st ∈ g.engine.controllerStores ∧ st.key = key
  /-- the response gives the next id of the store -/
  answer : response = some (.ok id (.ofNat st.nextId))
  /-- the store has one node more -/
  node : st' ∈ g'.engine.controllerStores ∧
    st' = st.joined ((Node.ofDevice st.nextId (.sink n) d).link true).1
  /-- the session is told that the node is connected, and nothing else is told -/
  told : g'.engine.journal = g.engine.journal ++
    [.event n (.ofKind .nodeStateInformation (some (.obj
      [("nodeId", .ofNat st.nextId), ("state", NodeState.connected.toJson)])))]

variable {g : Gateway} {L : Ledger} {n : Nat} {s : Client.Session} {r : HomeGateway.Request}
  {q : Pairing.Request}

/-- A request that means a device pairs the first that it means. -/
theorem commissioned (m : g.Manned) (h : L.Holds g.engine)
    (hn : g.sessions[n]? = some (.client s)) (opened : s.controller.isSome)
    (asked : Errand.ofRequest r = .ok (.pair q)) {means : Device → Bool}
    (answers : ∀ x ∈ g.engine.devices, x.answers q = .ok (means x)) {d : Device}
    (hd : d ∈ g.engine.devices) (own : means d = true) :
    ∃ front d' back st st', g.Commissions n r.id s.params.controllerConfig.key means
      (g.handle n r).1 (g.handle n r).2 front d' back st st' := by
  obtain ⟨k, hs⟩ := Option.isSome_iff_exists.1 opened
  obtain ⟨c, st, desk, listener, key⟩ := m.desk hn k hs
  obtain ⟨t, eq, sink⟩ := m.clients n _ hn
  cases eq
  rw [sink] at listener
  have hst := Ledger.Holds.mem_store desk
  obtain ⟨front, d', back, devices, alike, others, found⟩ := Device.find?_first answers hd own
  rw [handle_errand hn asked, show (Errand.pair q).perform = pairNode q from rfl,
    run_pairNode hs desk m.faults (h.fresh hst) found]
  have joined : (st.joined (d'.node c st)) ∈ g.engine.controllerStores.set c.store
      (st.joined (d'.node c st)) :=
    List.mem_set (List.getElem?_eq_some_iff.1 desk.store).1 _
  refine ⟨front, d', back, st, _, devices, others, alike, rfl, ⟨hst, key⟩, rfl, ⟨joined, ?_⟩, ?_⟩
  · rw [Device.node, listener]
  · show _ ++ [c.listener.entry _] = _
    rw [listener]
    rfl

/-- A session that is open pairs the first device with the code that it gives. -/
theorem commissioned_of_code (deeds : List Deed) {n : Nat} {s : Client.Session}
    (hn : (Ledger.reached deeds).1.sessions[n]? = some (.client s)) (opened : s.controller.isSome)
    {d : Device} (hd : d ∈ (Ledger.reached deeds).1.engine.devices) {text : String}
    {alike : Device → Bool} (code : d.Code text alike) {short passcode : Option Nat}
    {r : HomeGateway.Request}
    (asked : Errand.ofRequest r = .ok (.pair (.ofArguments (some text) short passcode))) :
    ∃ front d' back st st', (Ledger.reached deeds).1.Commissions n r.id
      s.params.controllerConfig.key alike ((Ledger.reached deeds).1.handle n r).1
      ((Ledger.reached deeds).1.handle n r).2 front d' back st st' :=
  let ⟨m, h⟩ := Ledger.kept_reached deeds
  commissioned m h hn opened asked (fun x _ => Device.meant_of_code code short passcode x) hd
    code.self

/-- A lamp, with the credentials of a device under test. -/
def lamp : Device :=
  ⟨20202021, 3840, Device.defaultVendor, Device.defaultProduct, [], .mk 0 [] []⟩

/-- A kettle, with a passcode of its own. -/
def kettle : Device :=
  ⟨34567890, 3840, Device.defaultVendor, Device.defaultProduct, [], .mk 0 [] []⟩

/-- The controller of a kitchen. -/
def kitchen : Client.Params :=
  ⟨"kitchen", "/home", 1⟩

/-- The digits of the lamp's code, as they are printed in groups. -/
theorem spread_lamp : Spread lamp.codes.manual.toList "3497-011-2332".toList := by
  have digits : lamp.codes.manual.toList = "34970112332".toList := by decide +kernel
  rw [digits]
  refine .next '3' [] (by simp) <| .next '4' [] (by simp) <| .next '9' [] (by simp) <|
    .next '7' ['-'] (by simp) <| .next '0' [] (by simp) <| .next '1' [] (by simp) <|
    .next '1' ['-'] (by simp) <| .self (List.cons_ne_nil _ _)

/-- A kettle and a lamp turn up, and the kitchen connects. -/
def evening : List Deed :=
  [.added kettle, .added lamp, .opened kitchen ⟨250, 32⟩, .initialised 0]

/-- The lamp is to be paired; its code is typed with a blank before it and a new line after it. -/
def pairLamp : HomeGateway.Request :=
  ⟨"1", "nodes", "pairNode", [.str (String.ofList ([' '] ++ "3497-011-2332".toList ++ ['\n']))]⟩

theorem commissioned_of_code_lamp :
    (Ledger.reached evening).1.sessions[0]? = some (.client ⟨kitchen, 0, some 0⟩) ∧
      lamp ∈ (Ledger.reached evening).1.engine.devices ∧
      ∃ front d back st st', (Ledger.reached evening).1.Commissions 0 "1"
        kitchen.controllerConfig.key lamp.sameManual
        ((Ledger.reached evening).1.handle 0 pairLamp).1
        ((Ledger.reached evening).1.handle 0 pairLamp).2 front d back st st' := by
  have there : lamp ∈ (Ledger.reached evening).1.engine.devices :=
    List.mem_cons_of_mem _ List.mem_cons_self
  have code : lamp.Code (String.ofList ([' '] ++ "3497-011-2332".toList ++ ['\n']))
      lamp.sameManual :=
    .manual (by decide) (by decide) (List.forall_mem_singleton.2 rfl) spread_lamp
      (List.forall_mem_singleton.2 rfl)
  have asked : Errand.ofRequest pairLamp = .ok (.pair (.ofArguments
      (some (String.ofList ([' '] ++ "3497-011-2332".toList ++ ['\n']))) none none)) := rfl
  exact ⟨rfl, there, commissioned_of_code evening (n := 0) (s := ⟨kitchen, 0, some 0⟩) rfl rfl there
    code asked⟩

end Gateway

end HomeGateway
