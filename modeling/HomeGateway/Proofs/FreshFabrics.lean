/-
  The fabrics that a device was on before it was paired.

  The controller that pairs a device takes the index after the greatest one of
  its table, so every other entry can be told from its own, and be removed.
  But there is no index after 255: the controller shares it with the entry that
  has it, and neither can be removed.

  * `le_greatestIndex`, `freshIndex_eq_iff`: which index is taken already;
  * `Enrolled.removes`: a request that removes an entry;
  * `removable_after`: what can be removed, after every run;
  * `irremovable_attic`: an entry that cannot.
-/
import HomeGateway.Proofs.Fabrics

namespace HomeGateway

open Engine Client Call

/-! ## Fresh indices -/

namespace Engine.Node

variable {f : Fabric} {table : List Fabric}

theorem le_foldl_max (table : List Fabric) (n : Nat) :
    n ≤ table.foldl (fun n f => max n f.index) n ∧
      ∀ f ∈ table, f.index ≤ table.foldl (fun n f => max n f.index) n := by
  induction table generalizing n with
  | nil => exact ⟨Nat.le_refl n, List.forall_mem_nil _⟩
  | cons f table ih =>
    obtain ⟨start, rest⟩ := ih (max n f.index)
    exact ⟨(Nat.le_max_left _ _).trans start,
      List.forall_mem_cons.2 ⟨(Nat.le_max_right _ _).trans start, rest⟩⟩

theorem le_greatestIndex (hf : f ∈ table) : f.index ≤ greatestIndex table :=
  (le_foldl_max table 0).2 f hf

/-- The index of a new entry is new unless it is the last one that there is. -/
theorem freshIndex_eq_iff (hf : f ∈ table) : freshIndex table = f.index ↔ f.index = 255 := by
  have bound := le_greatestIndex hf
  rw [freshIndex]
  omega

end Engine.Node

namespace Gateway

variable {g : Gateway} {ref : NodeRef} {own : Fabric} {table : List Fabric} {v : Node}
  {st : ControllerStore} {m : Nat} {r : Request} {index : Nat}

/-! ## Removing an entry -/

/-- A request to remove the entries of an index that is not the controller's. -/
theorem Enrolled.removes (h : g.Enrolled ref own table st v) (serves : g.Serves m ref.store)
    (asked : Errand.ofRequest r = .ok (.removeFabric ref.id index)) (other : index ≠ own.index)
    (present : ∃ f ∈ table, f.index = index) :
    (g.handle m r).1 = some (.ok r.id .null) ∧
      ∃ st' v', (g.handle m r).2.Enrolled ref own (strike [index] table) st' v' := by
  obtain ⟨granted, -⟩ := h.guarded.removed m r index serves asked other present
  have stays : ¬g.Dismisses ref (.deed (.asked m r)) := by
    rintro ⟨-, dismissed⟩
    cases asked.symm.trans dismissed
  have struck : g.struck ref (.deed (.asked m r)) = [index] := by
    obtain ⟨c, st', desk, here⟩ := serves
    simp [Gateway.struck, desk, asked, granted, here, Errand.struck, Response.ok]
  obtain ⟨st', v', after⟩ := h.happen stays
  rw [struck] at after
  exact ⟨granted, st', v', after⟩

/-- **Which fabrics of a device can be removed.**  From the moment that a device is paired until it
    is removed, the index of the controller differs from that of every entry the device had
    before, unless this is 255.  Such an entry goes on the first request, and that of the
    controller stays; one with the index 255 never goes. -/
theorem removable_after (past rest : List Happening) {n : Nat} {c : Controller}
    {st : ControllerStore} (desk : (initial.after past).desk? n = some (c, st)) {r : Request}
    {q : Pairing.Request} (asked : Errand.ofRequest r = .ok (.pair q)) {dev : Device}
    {others : List Device}
    (found : Device.find? q (initial.after past).engine.devices = .ok (dev, others))
    {f : Fabric} (hf : f ∈ dev.fabrics) :
    let g := (initial.after past).happen (.deed (.asked n r))
    let ref : NodeRef := ⟨c.store, st.nextId⟩
    let own := dev.membership st
    g.Throughout (fun g x => ¬g.Dismisses ref x) rest →
      (∃ v, (g.after rest).engine.node? ref = some v ∧ (v.ownIndex = f.index ↔ f.index = 255)) ∧
        ∀ m r', (g.after rest).Serves m ref.store →
          Errand.ofRequest r' = .ok (.removeFabric ref.id f.index) →
          (f.index = 255 → ((g.after rest).handle m r').1 =
            some (.fail r'.id "Will not delete our own fabric")) ∧
          (f.index ≠ 255 → f.index ∉ g.struckOver ref rest →
            ((g.after rest).handle m r').1 = some (.ok r'.id .null) ∧
              ∃ v, ((g.after rest).handle m r').2.engine.node? ref = some v ∧
                v.ownIndex = own.index ∧ own ∈ v.fabrics ∧
                v.fabrics = strike (g.struckOver ref rest ++ [f.index]) (dev.fabrics ++ [own])) := by
  intro g ref own stays
  have home := homely_after homely_initial past
  have enrolled := (home.staffed_of_desk? desk).enrolled home asked found
  obtain ⟨st', v', after⟩ := enrolled.after rest stays
  have same : own.index = f.index ↔ f.index = 255 := Node.freshIndex_eq_iff hf
  obtain ⟨v, node, -, ownIndex⟩ := after.guarded.node
  refine ⟨⟨v, node, ownIndex ▸ same⟩, fun m r' serves removal => ⟨?shared, ?apart⟩⟩
  case shared =>
    intro last
    exact (after.guarded.refused m r' serves (same.2 last ▸ removal)).1
  case apart =>
    intro earlier unstruck
    have present : f ∈ strike (g.struckOver ref rest) (dev.fabrics ++ [own]) :=
      mem_strike.2 ⟨List.mem_append_left _ hf, unstruck⟩
    obtain ⟨granted, st'', v'', removed⟩ := after.removes serves removal
      (fun shared => earlier (same.1 shared.symm)) ⟨f, present, rfl⟩
    rw [strike_strike] at removed
    obtain ⟨v, node, fabrics, ownIndex⟩ := removed.guarded.node
    exact ⟨granted, v, node, ownIndex, fabrics ▸ removed.mem, fabrics⟩

/-- The bulb that is on three fabrics is paired, and asked to go from the attic, which has the same
    index as the controller; then it is asked to go from the den. -/
theorem removable_after_den :
    let past : List Happening :=
      [.deed (.added sharedBulb), .deed (.opened hallway ⟨250, 32⟩), .deed (.initialised 0)]
    let g := (initial.after past).happen (.deed (.asked 0 pairBulb))
    let rest : List Happening := [.deed (.asked 0 (onNodes "removeFabric" [.ofNat 1, .ofNat 255]))]
    let removal := onNodes "removeFabric" [.ofNat 1, .ofNat 3]
    ((g.after rest).handle 0 removal).1 = some (.ok removal.id .null) ∧
      ∃ v, ((g.after rest).handle 0 removal).2.engine.node? ⟨0, 1⟩ = some v ∧
        v.fabrics = [⟨255, 10, 71, 65521, "attic"⟩, ⟨255, 1, 1, 65521, ""⟩] := by
  intro past g rest removal
  have desk : (initial.after past).desk? 0 = some (⟨"hallway", 1, 0, false, .sink 0⟩,
      ⟨hallway.controllerConfig.key, [], 1⟩) := rfl
  have asked : Errand.ofRequest pairBulb =
      .ok (.pair (.ofArguments none (some 15) (some 20202021))) := rfl
  have found : Device.find? (.ofArguments none (some 15) (some 20202021))
      (initial.after past).engine.devices = .ok (sharedBulb, []) := rfl
  have den : (⟨3, 9, 70, 65521, "den"⟩ : Fabric) ∈ sharedBulb.fabrics := List.mem_cons_self
  have stays : g.Throughout (fun g x => ¬g.Dismisses ⟨0, 1⟩ x) rest := by
    refine ⟨?_, trivial⟩
    rintro ⟨-, other⟩
    cases other
  have struck : g.struckOver ⟨0, 1⟩ rest = [] := by decide +kernel
  obtain ⟨-, after⟩ := removable_after past rest desk asked found den stays
  obtain ⟨granted, v, node, -, -, fabrics⟩ := (after 0 removal ⟨_, _, rfl, rfl⟩ rfl).2
    (by decide) (struck ▸ List.not_mem_nil)
  rw [struck] at fabrics
  simp only [g]
  exact ⟨granted, v, node, fabrics.trans (by decide)⟩

/-- The bulb shares the index of the attic with its controller, and does not go from there. -/
theorem irremovable_attic :
    let past : List Happening :=
      [.deed (.added sharedBulb), .deed (.opened hallway ⟨250, 32⟩), .deed (.initialised 0)]
    let g := (initial.after past).happen (.deed (.asked 0 pairBulb))
    let removal := onNodes "removeFabric" [.ofNat 1, .ofNat 255]
    (⟨255, 10, 71, 65521, "attic"⟩ : Fabric) ∈ sharedBulb.fabrics ∧
      (g.engine.node? ⟨0, 1⟩).map (·.ownIndex) = some 255 ∧
      (g.handle 0 removal).1 = some (.fail removal.id "Will not delete our own fabric") :=
  ⟨by decide, rfl, rfl⟩

end Gateway

end HomeGateway
