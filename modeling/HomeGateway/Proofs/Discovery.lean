/-
  Pairing by discriminator and passcode.

  A search goes through the devices in their order.  The first one that the
  discriminator selects decides it: with the passcode it is paired, with any
  other the search ends there, whatever devices come after it.

  * `find?_selected`: what a search finds;
  * `discovery_decided`: what a controller that searches comes to.
-/
import HomeGateway.Proofs.Nodes
import HomeGateway.Proofs.PairingCodes

namespace HomeGateway.Engine

open HomeGateway

variable {wanted : Pairing.Discriminator} {p : Nat}

namespace Device

/-- The device has the discriminator and the passcode of a search. -/
def Fits (wanted : Pairing.Discriminator) (p : Nat) (d : Device) : Prop :=
  wanted.selects d.discriminator = true ∧ d.passcode = p

theorem answers_unselected {d : Device} (h : wanted.selects d.discriminator = false)
    (passcode : Option Nat) : d.answers (.discovery wanted passcode) = .ok false := by
  simp [answers, h]

theorem answers_selected {d : Device} (h : wanted.selects d.discriminator = true) :
    d.answers (.discovery wanted (some p)) = if d.passcode = p then .ok true
      else .error (.commissioningFailed "PASE session establishment failed") := by
  simp [answers, h, eq_comm]

/-- The first device that the discriminator selects decides. -/
theorem find?_selected (p : Nat) {front : List Device} {d : Device} (back : List Device)
    (others : ∀ x ∈ front, wanted.selects x.discriminator = false)
    (selected : wanted.selects d.discriminator = true) :
    find? (.discovery wanted (some p)) (front ++ d :: back) =
      if d.passcode = p then .ok (d, front ++ back)
      else .error (.commissioningFailed "PASE session establishment failed") := by
  have passed : ∀ x ∈ front, x.answers (.discovery wanted (some p)) = .ok false := by
    intro x hx
    exact answers_unselected (others x hx) (some p)
  rw [find?_append passed, find?, answers_selected selected]
  by_cases same : d.passcode = p
  · rw [if_pos same, if_pos same]
    rfl
  · rw [if_neg same, if_neg same]
    rfl

end Device

/-- A search for a device that is there pairs the first device that the discriminator selects, if
    that one has the passcode, and otherwise it fails and nothing changes. -/
theorem discovery_decided {e : State} {k : Nat} {c : Controller} {st : ControllerStore}
    (desk : e.Desk k c st) (free : e.faults = []) (fresh : ∀ x ∈ st.nodes, x.id ≠ st.nextId)
    (there : ∃ d ∈ e.devices, d.Fits wanted p) :
    ∃ front d back, e.devices = front ++ d :: back ∧
      (∀ x ∈ front, wanted.selects x.discriminator = false) ∧
      wanted.selects d.discriminator = true ∧
      (d.passcode = p → commissionNode k (.discovery wanted (some p)) e =
        (.ok st.nextId, { e with devices := front ++ back }.putStore c (st.joined (d.node c st))
          [c.listener.entry (.stateChanged st.nextId .connected)])) ∧
      (d.passcode ≠ p → commissionNode k (.discovery wanted (some p)) e =
        (.error (.failed (.engine (.commissioningFailed "PASE session establishment failed"))),
          e)) := by
  -- Some device is selected, so one is the first; it need not be the one that fits.
  obtain ⟨front, d, back, devices, selected, others⟩ :=
    Device.exists_first (p := fun x => wanted.selects x.discriminator)
      (there.imp fun d fits => ⟨fits.1, fits.2.1⟩)
  have decided := Device.find?_selected p back others selected
  rw [← devices] at decided
  refine ⟨front, d, back, devices, others, selected, fun same => ?_, fun other => ?_⟩
  · rw [if_pos same] at decided
    exact run_commissionNode desk free fresh decided
  · rw [if_neg other] at decided
    exact run_commissionNode_refused desk free decided

/-- A device that has no endpoints but its root. -/
def bareDevice (passcode discriminator : Nat) : Device :=
  ⟨passcode, discriminator, Device.defaultVendor, Device.defaultProduct, [], .mk 0 [] []⟩

/-- How the controller of a workshop is made. -/
def workshop : ControllerConfig :=
  ⟨"workshop", "/home", 1⟩

/-- The controller of a workshop. -/
def foreman : Controller :=
  ⟨"workshop", 1, 0, false, .recorder⟩

/-- What it keeps as long as nothing is paired. -/
def emptyStore : ControllerStore :=
  ⟨workshop.key, [], 1⟩

/-- A workshop with some devices. -/
def bench (ds : List Device) : State :=
  (createController workshop .recorder { State.initial with devices := ds }).2

theorem desk_bench (ds : List Device) : (bench ds).Desk 0 foreman emptyStore :=
  ⟨rfl, rfl, rfl⟩

/-- Of three devices the discriminator selects the last two, and the first of these is the one. -/
def shelf : List Device :=
  [bareDevice 34567890 1234, bareDevice 20202021 3841, bareDevice 34567890 3840]

theorem discovery_decided_workshop :
    (∃ d ∈ (bench shelf).devices, d.Fits (.short 15) 20202021) ∧
      ∃ front d back, (bench shelf).devices = front ++ d :: back ∧
        (∀ x ∈ front, (Pairing.Discriminator.short 15).selects x.discriminator = false) ∧
        d = bareDevice 20202021 3841 ∧
        commissionNode 0 (.discovery (.short 15) (some 20202021)) (bench shelf) =
          (.ok 1, { bench shelf with devices := front ++ back }.putStore foreman
            (emptyStore.joined (d.node foreman emptyStore))
            [Listener.recorder.entry (.stateChanged 1 .connected)]) := by
  have there : ∃ d ∈ (bench shelf).devices, d.Fits (.short 15) 20202021 :=
    ⟨_, List.mem_cons_of_mem _ List.mem_cons_self, rfl, rfl⟩
  obtain ⟨front, d, back, devices, others, selected, paired, -⟩ :=
    discovery_decided (desk_bench shelf) rfl (List.forall_mem_nil _) there
  have found : shelf.find? (fun x => (Pairing.Discriminator.short 15).selects x.discriminator) =
      some d := by
    refine List.find?_eq_some_iff_append.2 ⟨selected, front, back, devices, ?_⟩
    simpa using others
  have first : d = bareDevice 20202021 3841 := Option.some.inj (found.symm.trans rfl)
  exact ⟨there, front, d, back, devices, others, first, paired (first ▸ rfl)⟩

/-- One device has the passcode, but another with this short discriminator stands before it. -/
theorem discovery_obstructed :
    let e := bench [bareDevice 34567890 3840, bareDevice 20202021 3841]
    (∃ d ∈ e.devices, d.Fits (.short 15) 20202021) ∧
      commissionNode 0 (.discovery (.short 15) (some 20202021)) e =
        (.error (.failed (.engine (.commissioningFailed "PASE session establishment failed"))),
          e) ∧
      (commissionNode 0 (.manual "34970112332") e).1 = .ok 1 := by
  have there : ∃ d ∈ (bench [bareDevice 34567890 3840, bareDevice 20202021 3841]).devices,
      d.Fits (.short 15) 20202021 :=
    ⟨_, List.mem_cons_of_mem _ List.mem_cons_self, rfl, rfl⟩
  exact ⟨there, rfl, rfl⟩

end HomeGateway.Engine
