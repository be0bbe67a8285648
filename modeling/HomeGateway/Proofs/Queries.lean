/-
  How the parameters of a connection are understood.

  Each role requires parameters in an order, some of which must be numbers of a
  width.  The first one that is missing or is no such number is what is wrong
  with a query; if nothing is wrong, the query says what the session is to be.
  What else stands in it does not matter.

  * `Required`, `Fault`, `Stops`: what a role requires, and what is wrong with a query;
  * `Meaning`, `Says`: what a query says of a session;
  * `Follows.bind`: parameters that are read one after the other;
  * `ofQuery_understood`: what comes of every query.
-/
import HomeGateway.Connection.Parameters
import HomeGateway.Proofs.Arguments
import HomeGateway.Proofs.Layers
import HomeGateway.Proofs.Spelling
import HomeGateway.Proofs.Upkeep

namespace HomeGateway.Connection

open HomeGateway Json QueryText

/-! ## What a role requires -/

/-- A parameter that a role requires: a number of a width, or any text. -/
structure Required where
  name : String
  width? : Option Width

/-- The parameters that a role requires, in the order of their declaration. -/
def requiredBy : Role → List Required
  | .client => [⟨"controllerName", none⟩, ⟨"storagePath", none⟩, ⟨"nodeId", some .bits64⟩]
  | .bridge =>
    [ ⟨"storagePath", none⟩, ⟨"resetStorage", none⟩, ⟨"deviceName", none⟩, ⟨"vendorName", none⟩,
      ⟨"passcode", some .bits32⟩, ⟨"discriminator", some .bits16⟩, ⟨"vendorId", some .bits16⟩,
      ⟨"productName", none⟩, ⟨"productId", some .bits16⟩, ⟨"port", some .bits16⟩,
      ⟨"uniqueId", none⟩ ]

/-- A query gives what is required. -/
def Required.Given (q : Parameters) (r : Required) : Prop :=
  ∃ raw, q.get? r.name = some raw ∧ ∀ w ∈ r.width?, ∃ n, MeansNumber 0 w.max raw n

/-- What is wrong with a query that does not give what is required. -/
inductive Fault (q : Parameters) (r : Required) : Failure → Prop where
  | missing (absent : q.get? r.name = none) : Fault q r (.missingParameter r.name)
  | invalid {raw : String} {w : Width} (present : q.get? r.name = some raw) (width : w ∈ r.width?)
    (unread : ¬∃ n, MeansNumber 0 w.max raw n) : Fault q r (.invalidParameter r.name raw)

/-- What is wrong with the first of several parameters that a query does not give. -/
def Stops (q : Parameters) (rs : List Required) (f : Failure) : Prop :=
  ∃ before r after, rs = before ++ r :: after ∧ (∀ r' ∈ before, r'.Given q) ∧ Fault q r f

/-! ## What a query says -/

/-- What the value of a parameter stands for. -/
inductive Meaning where
  | text (s : String)
  /-- a truth value; only one word stands for true -/
  | flag (b : Bool)
  | number (w : Width) (n : Nat)

namespace Meaning

def width? : Meaning → Option Width
  | .text _ | .flag _ => none
  | .number w _ => some w

/-- A value stands for something. -/
def Of (raw : String) : Meaning → Prop
  | .text s => raw = s
  | .flag b => decide (raw = "true") = b
  | .number w n => MeansNumber 0 w.max raw n

def spelled : Meaning → String
  | .text s => s
  | .flag b => if b then "true" else "false"
  | .number _ n => Text.showNat n

/-- A number is one of its width. -/
def Fits : Meaning → Prop
  | .text _ | .flag _ => True
  | .number w n => n ≤ w.max

instance : DecidablePred Fits
  | .text _ | .flag _ => .isTrue trivial
  | .number w n => inferInstanceAs (Decidable (n ≤ w.max))

end Meaning

/-- A query says what a parameter stands for. -/
def Says (q : Parameters) (x : String × Meaning) : Prop :=
  ∃ raw, q.get? x.1 = some raw ∧ x.2.Of raw

namespace SessionParams

/-- What is said of a session, in the order of declaration. -/
def said : SessionParams → List (String × Meaning)
  | .client p =>
    [ ("controllerName", .text p.controllerName), ("storagePath", .text p.storagePath),
      ("nodeId", .number .bits64 p.nodeId) ]
  | .bridge p =>
    [ ("storagePath", .text p.storagePath), ("resetStorage", .flag p.resetStorage),
      ("deviceName", .text p.deviceName), ("vendorName", .text p.vendorName),
      ("passcode", .number .bits32 p.passcode), ("discriminator", .number .bits16 p.discriminator),
      ("vendorId", .number .bits16 p.vendorId), ("productName", .text p.productName),
      ("productId", .number .bits16 p.productId), ("port", .number .bits16 p.port),
      ("uniqueId", .text p.uniqueId) ]

def query (p : SessionParams) : Parameters :=
  ("service", p.identity.role.name) :: p.said.map fun x => (x.1, x.2.spelled)

/-- What is said of a session is what its role requires. -/
theorem required_said (p : SessionParams) :
    p.said.map (fun x => ⟨x.1, x.2.width?⟩) = requiredBy p.identity.role := by
  cases p <;> rfl

end SessionParams

/-! ## One parameter -/

variable {q q' : Parameters} {r : Required} {rs : List Required} {f : Failure}

theorem readUnsigned_iff {w : Width} {raw : String} {n : Nat} :
    Text.readUnsigned w.max (Text.trim raw) = some n ↔ MeansNumber 0 w.max raw n := by
  rw [Setting.meansNumber_iff (Nat.le_refl _), Settings.readRange]
  constructor
  · intro read
    rw [read]
    exact if_pos ⟨Nat.zero_le n, Text.readUnsigned_le read⟩
  · intro read
    cases number : Text.readUnsigned w.max (Text.trim raw) with
    | none =>
      rw [number] at read
      cases read
    | some m =>
      rw [number] at read
      exact (Option.ite_none_right_eq_some.1 read).2

theorem fault_of_absent (absent : q.get? r.name = none) :
    Fault q r f ↔ f = .missingParameter r.name := by
  constructor
  · intro fault
    cases fault with
    | missing => rfl
    | invalid present => cases present.symm.trans absent
  · rintro rfl
    exact .missing absent

theorem fault_of_present {raw : String} (present : q.get? r.name = some raw) :
    Fault q r f ↔
      f = .invalidParameter r.name raw ∧ ∃ w ∈ r.width?, ¬∃ n, MeansNumber 0 w.max raw n := by
  constructor
  · intro fault
    cases fault with
    | missing absent => cases absent.symm.trans present
    | invalid present' width unread =>
      cases present'.symm.trans present
      exact ⟨rfl, _, width, unread⟩
  · rintro ⟨rfl, w, width, unread⟩
    exact .invalid present width unread

theorem given_iff : r.Given q ↔ ∀ f, ¬Fault q r f := by
  cases present : q.get? r.name with
  | none => simp [Required.Given, fault_of_absent present, present]
  | some raw => simp [Required.Given, fault_of_present present, present]

theorem needText_iff {name s : String} :
    SessionParams.needText q name = .ok s ↔ Says q (name, .text s) := by
  unfold SessionParams.needText Says Meaning.Of
  cases q.get? name <;> simp

theorem needNumber_iff {name : String} {w : Width} {n : Nat} :
    SessionParams.needNumber q name w = .ok n ↔ Says q (name, .number w n) := by
  unfold SessionParams.needNumber SessionParams.needText Says Meaning.Of
  cases q.get? name with
  | none => simp [bind, Except.bind]
  | some raw =>
    simp only [bind, Except.bind, Option.some.injEq, exists_eq_left', ← readUnsigned_iff]
    cases Text.readUnsigned w.max (Text.trim raw) <;> simp

/-! ## One parameter after the other -/

/-- A reader fails with what is wrong with the first parameter that is not given. -/
def Follows {α : Type} (q : Parameters) (rs : List Required) (x : Except Failure α) : Prop :=
  ∀ f, x = .error f ↔ Stops q rs f

theorem not_stops_nil : ¬Stops q [] f := by
  rintro ⟨before, r, after, none, -⟩
  cases List.append_eq_nil_iff.1 none.symm |>.2

theorem stops_cons : Stops q (r :: rs) f ↔ Fault q r f ∨ r.Given q ∧ Stops q rs f := by
  constructor
  · rintro ⟨before, r', after, split, given, fault⟩
    cases before with
    | nil =>
      cases split
      exact .inl fault
    | cons first before =>
      cases split
      obtain ⟨first, later⟩ := List.forall_mem_cons.1 given
      exact .inr ⟨first, before, r', after, rfl, later, fault⟩
  · rintro (fault | ⟨given, before, r', after, rfl, later, fault⟩)
    · exact ⟨[], r, rs, rfl, List.forall_mem_nil _, fault⟩
    · exact ⟨r :: before, r', after, rfl, List.forall_mem_cons.2 ⟨given, later⟩, fault⟩

theorem Stops.congr (h : Stops q rs f) (same : ∀ r ∈ rs, q'.get? r.name = q.get? r.name) :
    Stops q' rs f := by
  obtain ⟨before, r, after, rfl, given, fault⟩ := h
  obtain ⟨first, own, -⟩ := (List.forall_mem_append.1 same).imp_right List.forall_mem_cons.1
  refine ⟨before, r, after, rfl, fun r' hr' => ?_, ?_⟩
  · obtain ⟨raw, present, reads⟩ := given r' hr'
    exact ⟨raw, (first r' hr').trans present, reads⟩
  · cases fault with
    | missing absent => exact .missing (own.trans absent)
    | invalid present width unread => exact .invalid (own.trans present) width unread

/-- If a query stops nowhere, it gives everything. -/
theorem given_iff_not_stops : (∀ r ∈ rs, r.Given q) ↔ ∀ f, ¬Stops q rs f := by
  induction rs with
  | nil => simp [not_stops_nil]
  | cons r rs ih =>
    rw [List.forall_mem_cons, ih]
    simp only [stops_cons, not_or, not_and, forall_and]
    exact ⟨fun h => ⟨given_iff.1 h.1, fun f _ => h.2 f⟩,
      fun h => ⟨given_iff.2 h.1, fun f => h.2 f (given_iff.2 h.1)⟩⟩

theorem follows_pure {α : Type} (q : Parameters) (a : α) : Follows q [] (pure a) := fun f =>
  ⟨fun failed => (by cases failed), fun stops => absurd stops not_stops_nil⟩

/-- What is read first comes first. -/
theorem Follows.bind {α β : Type} {x : Except Failure α} {y : α → Except Failure β}
    (first : ∀ f, x = .error f ↔ Fault q r f) (rest : ∀ a, Follows q rs (y a)) :
    Follows q (r :: rs) (x >>= y) := by
  intro f
  rw [stops_cons]
  cases x with
  | error e =>
    have fault : Fault q r e := (first e).1 rfl
    have ungiven : ¬r.Given q := fun given => given_iff.1 given e fault
    simp only [ungiven, false_and, or_false, ← first]
    exact ⟨fun h => (by cases h; rfl), fun h => (by cases h; rfl)⟩
  | ok a =>
    have given : r.Given q := given_iff.2 fun e fault => by cases (first e).2 fault
    have faultless : ¬Fault q r f := given_iff.1 given f
    simp only [faultless, given, false_or, true_and]
    exact rest a f

theorem needText_fault (name : String) :
    SessionParams.needText q name = .error f ↔ Fault q ⟨name, none⟩ f := by
  unfold SessionParams.needText
  cases present : q.get? name with
  | none => simp [fault_of_absent (r := ⟨name, none⟩) present, eq_comm]
  | some raw => simp [fault_of_present (r := ⟨name, none⟩) present]

theorem needNumber_fault (name : String) (w : Width) :
    SessionParams.needNumber q name w = .error f ↔ Fault q ⟨name, some w⟩ f := by
  unfold SessionParams.needNumber SessionParams.needText
  cases present : q.get? name with
  | none => simp [fault_of_absent (r := ⟨name, some w⟩) present, bind, Except.bind, eq_comm]
  | some raw =>
    simp only [fault_of_present (r := ⟨name, some w⟩) present, ← readUnsigned_iff, bind, Except.bind]
    cases number : Text.readUnsigned w.max (Text.trim raw) <;> simp [number, eq_comm]

namespace SessionParams

theorem follows_clientOfQuery (q : Parameters) : Follows q (requiredBy .client) (clientOfQuery q) :=
  .bind (fun _ => needText_fault _) fun _ =>
  .bind (fun _ => needText_fault _) fun _ =>
  .bind (fun _ => needNumber_fault _ _) fun _ => follows_pure q _

theorem follows_bridgeOfQuery (q : Parameters) : Follows q (requiredBy .bridge) (bridgeOfQuery q) :=
  .bind (fun _ => needText_fault _) fun _ =>
  .bind (fun _ => needText_fault _) fun _ =>
  .bind (fun _ => needText_fault _) fun _ =>
  .bind (fun _ => needText_fault _) fun _ =>
  .bind (fun _ => needNumber_fault _ _) fun _ =>
  .bind (fun _ => needNumber_fault _ _) fun _ =>
  .bind (fun _ => needNumber_fault _ _) fun _ =>
  .bind (fun _ => needText_fault _) fun _ =>
  .bind (fun _ => needNumber_fault _ _) fun _ =>
  .bind (fun _ => needNumber_fault _ _) fun _ =>
  .bind (fun _ => needText_fault _) fun _ => follows_pure q _

/-- What goes wrong with a query goes wrong with the first parameter that it does not give. -/
theorem follows_ofQuery (q : Parameters) :
    Follows q (requiredBy (Role.ofService (q.get? "service"))) (ofQuery q) := by
  intro f
  unfold ofQuery
  cases Role.ofService (q.get? "service") with
  | client =>
    rw [← follows_clientOfQuery q f]
    cases clientOfQuery q <;> simp [Except.map]
  | bridge =>
    rw [← follows_bridgeOfQuery q f]
    cases bridgeOfQuery q <;> simp [Except.map]

/-! ## What is understood -/

theorem clientOfQuery_iff {p : Client.Params} :
    clientOfQuery q = .ok p ↔ ∀ x ∈ (client p).said, Says q x := by
  constructor
  · intro read
    obtain ⟨controllerName, controllerNameRead, read⟩ := ok_of_bind read
    obtain ⟨storagePath, storagePathRead, read⟩ := ok_of_bind read
    obtain ⟨nodeId, nodeIdRead, read⟩ := ok_of_bind read
    cases read
    simp only [said, List.forall_mem_cons]
    exact ⟨needText_iff.1 controllerNameRead, needText_iff.1 storagePathRead,
      needNumber_iff.1 nodeIdRead, List.forall_mem_nil _⟩
  · intro told
    simp only [said, List.forall_mem_cons, ← needText_iff, ← needNumber_iff] at told
    obtain ⟨controllerName, storagePath, nodeId, -⟩ := told
    rw [clientOfQuery, controllerName, storagePath, nodeId]
    rfl

theorem bridgeOfQuery_iff {p : Bridge.Params} :
    bridgeOfQuery q = .ok p ↔ ∀ x ∈ (bridge p).said, Says q x := by
  constructor
  · intro read
    obtain ⟨storagePath, storagePathRead, read⟩ := ok_of_bind read
    obtain ⟨resetStorage, resetStorageRead, read⟩ := ok_of_bind read
    obtain ⟨deviceName, deviceNameRead, read⟩ := ok_of_bind read
    obtain ⟨vendorName, vendorNameRead, read⟩ := ok_of_bind read
    obtain ⟨passcode, passcodeRead, read⟩ := ok_of_bind read
    obtain ⟨discriminator, discriminatorRead, read⟩ := ok_of_bind read
    obtain ⟨vendorId, vendorIdRead, read⟩ := ok_of_bind read
    obtain ⟨productName, productNameRead, read⟩ := ok_of_bind read
    obtain ⟨productId, productIdRead, read⟩ := ok_of_bind read
    obtain ⟨port, portRead, read⟩ := ok_of_bind read
    obtain ⟨uniqueId, uniqueIdRead, read⟩ := ok_of_bind read
    cases read
    obtain ⟨raw, present, rfl⟩ := needText_iff.1 resetStorageRead
    simp only [said, List.forall_mem_cons]
    exact ⟨needText_iff.1 storagePathRead, ⟨raw, present, rfl⟩, needText_iff.1 deviceNameRead,
      needText_iff.1 vendorNameRead, needNumber_iff.1 passcodeRead,
      needNumber_iff.1 discriminatorRead, needNumber_iff.1 vendorIdRead,
      needText_iff.1 productNameRead, needNumber_iff.1 productIdRead, needNumber_iff.1 portRead,
      needText_iff.1 uniqueIdRead, List.forall_mem_nil _⟩
  · intro told
    simp only [said, List.forall_mem_cons, ← needText_iff, ← needNumber_iff] at told
    obtain ⟨storagePath, ⟨raw, present, reset⟩, deviceName, vendorName, passcode, discriminator,
      vendorId, productName, productId, port, uniqueId, -⟩ := told
    have resetStorage : needText q "resetStorage" = .ok raw := needText_iff.2 ⟨raw, present, rfl⟩
    rw [bridgeOfQuery, storagePath, resetStorage, deviceName, vendorName, passcode, discriminator,
      vendorId, productName, productId, port, uniqueId]
    simp only [bind, Except.bind, pure, Except.pure]
    rw [show decide (raw = "true") = p.resetStorage from reset]

/-- A session is understood if its role is asked for and the query says what is said of it. -/
theorem ofQuery_iff {p : SessionParams} : ofQuery q = .ok p ↔
    p.identity.role = Role.ofService (q.get? "service") ∧ ∀ x ∈ p.said, Says q x := by
  unfold ofQuery
  cases Role.ofService (q.get? "service") with
  | client =>
    simp only [map_eq_ok, clientOfQuery_iff]
    cases p with
    | client p => simp [identity, Client.Params.identity]
    | bridge p => simp [identity, Bridge.Params.identity]
  | bridge =>
    simp only [map_eq_ok, bridgeOfQuery_iff]
    cases p with
    | client p => simp [identity, Client.Params.identity]
    | bridge p => simp [identity, Bridge.Params.identity]

/-- What a query says of a session fits it. -/
theorem fits_of_ofQuery {p : SessionParams} (understood : ofQuery q = .ok p) :
    ∀ x ∈ p.said, x.2.Fits := by
  intro x hx
  obtain ⟨raw, -, stands⟩ := (ofQuery_iff.1 understood).2 x hx
  generalize x.2 = m at stands
  cases m with
  | text | flag => trivial
  | number w n =>
    obtain ⟨_, _, _, _, _, _, within⟩ := stands
    exact within

/-- Only the parameters that the role requires matter. -/
theorem ofQuery_congr (service : q'.get? "service" = q.get? "service")
    (same : ∀ r ∈ requiredBy (Role.ofService (q.get? "service")), q'.get? r.name = q.get? r.name) :
    ofQuery q' = ofQuery q := by
  cases understood : ofQuery q with
  | ok p =>
    obtain ⟨role, told⟩ := ofQuery_iff.1 understood
    refine ofQuery_iff.2 ⟨service ▸ role, fun x hx => ?_⟩
    have required : ⟨x.1, x.2.width?⟩ ∈ requiredBy (Role.ofService (q.get? "service")) := by
      rw [← role, ← required_said]
      exact List.mem_map_of_mem hx
    obtain ⟨raw, present, stands⟩ := told x hx
    exact ⟨raw, (same _ required).trans present, stands⟩
  | error f =>
    have follows := follows_ofQuery q' f
    rw [service] at follows
    exact follows.2 (((follows_ofQuery q f).1 understood).congr same)

/-! ## Saying it in a query -/

theorem service_query (p : SessionParams) :
    Role.ofService (p.query.get? "service") = p.identity.role := by
  cases p <;> rfl

theorem names_said (p : SessionParams) : (p.query.map Prod.fst).Nodup := by
  cases p with
  | client p =>
    show ["service", "controllerName", "storagePath", "nodeId"].Nodup
    decide
  | bridge p =>
    show ["service", "storagePath", "resetStorage", "deviceName", "vendorName", "passcode",
      "discriminator", "vendorId", "productName", "productId", "port", "uniqueId"].Nodup
    decide

theorem meansNumber_showNat {n greatest : Nat} (within : n ≤ greatest) :
    MeansNumber 0 greatest (Text.showNat n) n := by
  have digits : ∀ c ∈ Nat.toDigits 10 n, Text.isDigit c := fun c hc =>
    Text.isDigit_of_mem_toDigits hc
  have trimmed : Text.trim (Text.showNat n) = Text.showNat n :=
    Text.trim_of_no_blank fun c hc =>
      Text.not_isBlank_of_isDigit (digits c (by simpa [Text.showNat] using hc))
  refine ⟨Nat.toDigits 10 n, .inl ?_, Nat.toDigits_ne_nil, digits, Text.digitsValue_toDigits n,
    Nat.zero_le n, within⟩
  rw [trimmed, Text.showNat, String.toList_ofList]

theorem of_spelled {m : Meaning} (fits : m.Fits) : m.Of m.spelled := by
  cases m with
  | text s => rfl
  | flag b => cases b <;> rfl
  | number w n => exact meansNumber_showNat fits

theorem ofQuery_query {p : SessionParams} (fits : ∀ x ∈ p.said, x.2.Fits) :
    ofQuery p.query = .ok p := by
  refine ofQuery_iff.2 ⟨(service_query p).symm, fun x hx => ?_⟩
  have listed : (x.1, x.2.spelled) ∈ p.query :=
    List.mem_cons_of_mem _ (List.mem_map_of_mem hx)
  have found := Engine.find?_apart (names_said p) listed
  exact ⟨x.2.spelled, by rw [Parameters.get?, found]; rfl, of_spelled (fits x hx)⟩

/-- **How a query is understood.**  A query names a session if it gives every parameter that its role
    requires, and then the session is what the query says.  Otherwise the first parameter that
    it does not give is reported.  Nothing else in the query matters.  And whatever a session is
    to be, there is a query that says so. -/
theorem ofQuery_understood :
    (∀ q : Parameters,
      let role := Role.ofService (q.get? "service")
      ((∃ p, ofQuery q = .ok p) ↔ ∀ r ∈ requiredBy role, r.Given q) ∧
        (∀ p, ofQuery q = .ok p ↔ p.identity.role = role ∧ ∀ x ∈ p.said, Says q x) ∧
        (∀ f, ofQuery q = .error f ↔ Stops q (requiredBy role) f) ∧
        ∀ q' : Parameters, q'.get? "service" = q.get? "service" →
          (∀ r ∈ requiredBy role, q'.get? r.name = q.get? r.name) → ofQuery q' = ofQuery q) ∧
      ∀ p : SessionParams, (∀ x ∈ p.said, x.2.Fits) → ofQuery p.query = .ok p := by
  refine ⟨fun q => ⟨?_, fun p => ofQuery_iff, follows_ofQuery q, fun q' => ofQuery_congr⟩,
    fun p => ofQuery_query⟩
  rw [given_iff_not_stops]
  simp only [← follows_ofQuery q _]
  cases ofQuery q <;> simp

/-- A bridge, with the greatest numbers that a query may name. -/
def studio : SessionParams :=
  .bridge ⟨"/var/lib/studio", true, "Studio", "Acme", 0xffffffff, 0xffff, 0xffff, "Hub", 0xffff,
    0xffff, "studio"⟩

/-- A query for a bridge whose port is too great a number, and that names a controller but no
    bridge. -/
def overfull : Parameters :=
  (studio.query.filter (·.1 ≠ "uniqueId")).map fun x =>
    if x.1 = "port" then ("port", " +65536 ") else x

/-- The query of the studio is understood, whatever is added to it; in the other one the port is what
    is wrong. -/
theorem ofQuery_understood_studio :
    ofQuery studio.query = .ok studio ∧
      ofQuery (studio.query ++ [("controllerName", "main"), ("nodeId", "none")]) = .ok studio ∧
      Stops overfull (requiredBy .bridge) (.invalidParameter "port" " +65536 ") := by
  obtain ⟨decided, said⟩ := ofQuery_understood
  have understood : ofQuery studio.query = .ok studio := said studio (by decide)
  refine ⟨understood, ?_, ((decided overfull).2.2.1 _).1 rfl⟩
  rw [← understood]
  exact (decided studio.query).2.2.2 _ rfl (by decide +kernel)

end SessionParams

end HomeGateway.Connection
