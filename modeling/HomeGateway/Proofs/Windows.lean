/-
  The codes of a window for another controller.

  A node that opens an enhanced window is found by its discriminator and by a
  passcode that is computed from its own and from the timeout.  Both codes say
  that passcode, which is one that a device may have.  With one timeout it is
  the passcode of the node itself, and with every other one it is not.

  * `windowPasscode_range`, `windowPasscode_eq_iff`: which passcode it is;
  * `Admits`: what a pair of codes says;
  * `timely_ofRequest`: a timeout is a number of sixteen bits;
  * `window_codes`: the codes that are returned after every run.
-/
import HomeGateway.Proofs.Arguments
import HomeGateway.Proofs.Fabrics
import HomeGateway.Proofs.QrCodes
import Mathlib.Data.LawfulXor.Basic

namespace HomeGateway

open Engine Client Call Pairing

/-! ## The passcode -/

namespace Engine.Node

theorem windowPasscode_range (passcode timeout : Nat) :
    1 ≤ windowPasscode passcode timeout ∧ windowPasscode passcode timeout ≤ 99999998 := by
  unfold windowPasscode
  omega

/-- The bits above the timeout stay as they are. -/
theorem xor_div_of_lt {a b : Nat} (h : b < 2 ^ 16) : (a ^^^ b) / 2 ^ 16 = a / 2 ^ 16 := by
  rw [Nat.xor_div_two_pow, Nat.div_eq_of_lt h, Nat.xor_zero]

/-- A passcode that a device may have is met by the timeout that takes one from it. -/
theorem windowPasscode_eq_iff {passcode timeout : Nat} (h : timeout < 2 ^ 16) :
    windowPasscode passcode timeout = passcode ↔
      1 ≤ passcode ∧ passcode ≤ 99999998 ∧ timeout = passcode ^^^ (passcode - 1) := by
  have near := xor_div_of_lt (a := passcode) h
  rw [← xor_eq_iff_right_eq, windowPasscode]
  omega

end Engine.Node

/-! ## The codes -/

/-- Both codes of a pair say one discriminator, the manual one its upper four bits, and one passcode
    that a device may have. -/
structure Admits (codes : PairingCodes) (discriminator passcode : Nat) : Prop where
  least : 1 ≤ passcode
  most : passcode ≤ 99999998
  manual : decodeManual? codes.manual = some ⟨discriminator / 2 ^ 8, passcode⟩
  qr : Holds codes.qr
    [0, Device.defaultVendor, Device.defaultProduct, 0, 4, discriminator, passcode, 0]

theorem admits_codes {discriminator passcode : Nat} (narrow : discriminator < 2 ^ 12)
    (least : 1 ≤ passcode) (most : passcode ≤ 99999998) :
    Admits (codes Device.defaultVendor Device.defaultProduct discriminator passcode)
      discriminator passcode where
  least := least
  most := most
  manual := by
    have short : shortDiscriminator discriminator = discriminator / 2 ^ 8 := by
      rw [shortDiscriminator]
      omega
    have read := decodeManual?_manualCode passcode discriminator
    rwa [short, Nat.mod_eq_of_lt (show passcode < 2 ^ 27 by omega)] at read
  qr := by
    have vendor : Device.defaultVendor % 2 ^ 16 = Device.defaultVendor := by decide
    have product : Device.defaultProduct % 2 ^ 16 = Device.defaultProduct := by decide
    have holds := holds_qrCode Device.defaultVendor Device.defaultProduct discriminator passcode
    rw [vendor, product, Nat.mod_eq_of_lt narrow,
      Nat.mod_eq_of_lt (show passcode < 2 ^ 27 by omega)] at holds
    exact holds

/-! ## The timeout -/

theorem Call.gives_readWindow : Gives readWindow fun x => x.2 < 2 ^ 16 := by
  have timeout : Gives (next (Call.optional (whole .bits16))) fun t => ∀ n, t = some n →
      n < 2 ^ 16 := by
    refine gives_next fun v t read n given => ?_
    subst given
    exact Nat.lt_succ_of_le (whole_le (optional_ok read))
  refine gives_bind fun id => timeout.bind fun t small => gives_pure ?_
  cases t with
  | none => exact (by decide : defaultTimeout < 2 ^ 16)
  | some n => exact small n rfl

namespace Client.Errand

/-- The timeout of a window is a number of sixteen bits. -/
def Timely : Errand → Prop
  | .basicWindow _ timeout | .enhancedWindow _ timeout => timeout < 2 ^ 16
  | _ => True

theorem timely_ofRequest {r : Request} {a : Errand} (asked : ofRequest r = .ok a) :
    a.Timely := by
  unfold ofRequest at asked
  split at asked
  · unfold ofNodes at asked
    split at asked
    case h_10 | h_11 =>
      obtain ⟨x, read, rfl⟩ := map_eq_ok.1 asked
      exact gives_readWindow.arguments read
    case h_12 => cases asked
    all_goals
      obtain ⟨x, -, rfl⟩ := map_eq_ok.1 asked
      trivial
  · split at asked
    · unfold ofClusters at asked
      split at asked
      case h_4 => cases asked
      all_goals
        obtain ⟨x, -, rfl⟩ := map_eq_ok.1 asked
        trivial
    · cases asked

end Client.Errand

namespace Gateway

variable {g : Gateway} {m : Nat} {c : Controller} {st : ControllerStore} {v : Node} {r : Request}
  {timeout : Nat}

/-- A node that is held opens a window, connected or not. -/
theorem Staffed.window (h : g.Homely) (staffed : g.Staffed m c st) (hv : v ∈ st.kept)
    (asked : Errand.ofRequest r = .ok (.enhancedWindow v.id timeout)) :
    (g.handle m r).1 = some (.ok r.id (codes Device.defaultVendor Device.defaultProduct
      v.discriminator (Node.windowPasscode v.passcode timeout)).toJson) := by
  have found := find?_kept (h.apart st (List.mem_of_getElem? staffed.store)) hv
  have opened : v.connect.1.enhancedCodes timeout =
      .ok (codes Device.defaultVendor Device.defaultProduct v.discriminator
        (Node.windowPasscode v.passcode timeout)) := by
    rw [Node.connect_fst]
    rfl
  rw [handle_staffed h staffed asked]
  simp only [Errand.task, Task.outcome, found, asking, opened]
  rfl

/-- **The codes of a window.**  After every run, whoever opens an enhanced window on a node of his
    store, with whatever timeout, gets two codes that say the discriminator of the node and one
    passcode that a device may have.  It is the passcode of the node only if a device may have that,
    and the timeout is the one that takes one from it. -/
theorem window_codes (past : List Happening)
    (desk : (initial.after past).desk? m = some (c, st)) (hv : v ∈ st.kept)
    (narrow : v.discriminator < 2 ^ 12)
    (asked : Errand.ofRequest r = .ok (.enhancedWindow v.id timeout)) :
    ∃ (codes : PairingCodes) (passcode : Nat),
      ((initial.after past).handle m r).1 = some (.ok r.id codes.toJson) ∧
        Admits codes v.discriminator passcode ∧
        (passcode = v.passcode ↔ 1 ≤ v.passcode ∧ v.passcode ≤ 99999998 ∧
          timeout = v.passcode ^^^ (v.passcode - 1)) := by
  have home := homely_after homely_initial past
  have small : timeout < 2 ^ 16 := Errand.timely_ofRequest asked
  obtain ⟨least, most⟩ := Node.windowPasscode_range v.passcode timeout
  exact ⟨_, _, (home.staffed_of_desk? desk).window home hv asked, admits_codes narrow least most,
    Node.windowPasscode_eq_iff small⟩

/-- The bulb opens a window for as long as usual, with a passcode that is not its own. -/
theorem window_codes_bulb :
    let r := onNodes "enhancedCommissioningWindow" [.ofNat 1]
    ∃ codes passcode, ((initial.after movingIn).handle 0 r).1 = some (.ok r.id codes.toJson) ∧
      Admits codes bulb.discriminator passcode ∧ passcode ≠ bulb.passcode := by
  let c : Controller := ⟨"hallway", 1, 0, false, .sink 0⟩
  let st : ControllerStore := ⟨hallway.controllerConfig.key, [], 1⟩
  have desk : (initial.after movingIn).desk? 0 = some (c, st.joined (bulb.node c st)) := rfl
  have kept : bulb.node c st ∈ (st.joined (bulb.node c st)).kept :=
    ControllerStore.mem_kept_joined.2 (.inr ⟨rfl, rfl⟩)
  have asked : Errand.ofRequest (onNodes "enhancedCommissioningWindow" [.ofNat 1]) =
      .ok (.enhancedWindow (bulb.node c st).id defaultTimeout) := rfl
  obtain ⟨codes, passcode, answered, admits, own⟩ :=
    window_codes movingIn desk kept (by decide) asked
  refine ⟨codes, passcode, answered, admits, fun same => ?_⟩
  exact absurd (own.1 same).2.2 (by decide)

/-- A window of one second is opened with the codes of the bulb itself, and so with no passcode but
    its own. -/
theorem window_reuses_passcode :
    let r := onNodes "enhancedCommissioningWindow" [.ofNat 1, .ofNat 1]
    ((initial.after movingIn).engine.node? ⟨0, 1⟩).map (·.passcode) = some bulb.passcode ∧
      ((initial.after movingIn).handle 0 r).1 = some (.ok r.id bulb.codes.toJson) ∧
      Admits bulb.codes bulb.discriminator bulb.passcode ∧
      ¬∃ passcode, Admits bulb.codes bulb.discriminator passcode ∧ passcode ≠ bulb.passcode := by
  have own : Admits bulb.codes bulb.discriminator bulb.passcode :=
    admits_codes (by decide) (by decide) (by decide)
  refine ⟨rfl, rfl, own, ?_⟩
  rintro ⟨passcode, other, fresh⟩
  have said := other.manual.symm.trans own.manual
  cases said
  exact fresh rfl

end Gateway

end HomeGateway
