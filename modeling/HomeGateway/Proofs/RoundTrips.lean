/-
  Reports and settings read what they write.

  As messages do; and here numbers have widths, and those of a value that is
  written have to be within theirs.

  * `Fabric.InRange`, `Settings.InRange`: the widths of the numbers;
  * `round_trips`: messages, reports and settings.
-/
import HomeGateway.Engine.Report
import HomeGateway.Settings.Basic
import HomeGateway.Proofs.Returns

namespace HomeGateway

open Json

/-! ## Reports of the engine -/

namespace PairingCodes

theorem sorted_fields (a b : Json) :
    Fields.Sorted [("manualPairingCode", a), ("qrPairingCode", b)] :=
  .cons (by decide) (.single _)

theorem reads (x : PairingCodes) : ∃ u, Reads shape.look x.toJson u ∧ ofJson? u = some x := by
  have look : Reads shape.look x.toJson x.toJson := reads_record (sorted_fields _ _)
    (by simp [lookFields, needed]) (List.forall_mem_cons.2 ⟨⟨_, rfl, reads_text x.manual⟩,
      List.forall_mem_singleton.2 ⟨_, rfl, reads_text x.qr⟩⟩)
  exact ⟨_, look, rfl⟩

theorem yields (n : Nat) : Yields shape.look (n + 1) fun u => ∀ x, ofJson? u = some x →
    x.toJson.Sound (n + 1) := by
  intro r doc u bounds plain read x means
  have names : ((lookFields shape.specs).map (·.name)).Nodup := by decide
  obtain ⟨_, manual?, manual, rfl⟩ :=
    yields_field names (i := 0) rfl yields_text no_default r doc u bounds plain read
  obtain ⟨_, qr?, qr, rfl⟩ :=
    yields_field names (i := 1) rfl yields_text no_default r doc u bounds plain read
  simp only [ofJson?, textField, manual?, qr?] at means
  cases means
  exact .obj (sorted_fields _ _) (List.forall_mem_cons.2 ⟨.text _, List.forall_mem_singleton.2
    (.text _)⟩)

theorem roundTrips : RoundTrips PairingCodes.read toJson (fun _ => True) fun x => x :=
  .of_look (fun x _ => reads x) ((yields 126).imp fun _ h x means => ⟨trivial, h x means, rfl⟩)

end PairingCodes

namespace Fabric

/-- The numbers of a fabric have their widths. -/
structure InRange (x : Fabric) : Prop where
  index : x.index ≤ Width.bits8.max
  fabricId : x.fabricId ≤ Width.bits64.max
  nodeId : x.nodeId ≤ Width.bits64.max
  vendorId : x.vendorId ≤ Width.bits16.max

theorem sorted_fields (a b c d e : Json) : Fields.Sorted
    [("fabricId", a), ("fabricIndex", b), ("label", c), ("nodeId", d), ("vendorId", e)] :=
  .cons (by decide) (.cons (by decide) (.cons (by decide) (.cons (by decide) (.single _))))

theorem reads {x : Fabric} (h : x.InRange) :
    ∃ u, Reads shape.look x.toJson u ∧ ofJson? u = some x := by
  have look : Reads shape.look x.toJson x.toJson := reads_record (sorted_fields _ _ _ _ _)
    (by simp [lookFields, needed]) (List.forall_mem_cons.2
      ⟨⟨_, rfl, reads_whole h.index⟩, List.forall_mem_cons.2
      ⟨⟨_, rfl, reads_whole h.fabricId⟩, List.forall_mem_cons.2
      ⟨⟨_, rfl, reads_whole h.nodeId⟩, List.forall_mem_cons.2
      ⟨⟨_, rfl, reads_whole h.vendorId⟩, List.forall_mem_singleton.2
      ⟨_, rfl, reads_text x.label⟩⟩⟩⟩⟩)
  exact ⟨_, look, rfl⟩

theorem yields (n : Nat) : Yields shape.look (n + 1) fun u => ∀ x, ofJson? u = some x →
    x.InRange ∧ x.toJson.Sound (n + 1) := by
  intro r doc u bounds plain read x means
  have names : ((lookFields shape.specs).map (·.name)).Nodup := by decide
  obtain ⟨_, index?, index, index8, rfl⟩ :=
    yields_field names (i := 0) rfl yields_whole no_default r doc u bounds plain read
  obtain ⟨_, fabricId?, fabricId, fabric64, rfl⟩ :=
    yields_field names (i := 1) rfl yields_whole no_default r doc u bounds plain read
  obtain ⟨_, nodeId?, nodeId, node64, rfl⟩ :=
    yields_field names (i := 2) rfl yields_whole no_default r doc u bounds plain read
  obtain ⟨_, vendorId?, vendorId, vendor16, rfl⟩ :=
    yields_field names (i := 3) rfl yields_whole no_default r doc u bounds plain read
  obtain ⟨_, label?, label, rfl⟩ :=
    yields_field names (i := 4) rfl yields_text no_default r doc u bounds plain read
  simp only [ofJson?, natField, textField, index?, fabricId?, nodeId?, vendorId?, label?] at means
  cases means
  refine ⟨⟨index8, fabric64, node64, vendor16⟩, ?_⟩
  exact .obj (sorted_fields _ _ _ _ _) (List.forall_mem_cons.2 ⟨.ofNat fabric64,
    List.forall_mem_cons.2 ⟨.ofNat index8, List.forall_mem_cons.2 ⟨.text _,
    List.forall_mem_cons.2 ⟨.ofNat node64, List.forall_mem_singleton.2 (.ofNat vendor16)⟩⟩⟩⟩)

theorem roundTrips : RoundTrips Fabric.read toJson InRange fun x => x :=
  .of_look (fun _ => reads) ((yields 126).imp fun _ h x means =>
    ⟨(h x means).1, (h x means).2, rfl⟩)

end Fabric

namespace Place

/-- The numbers of a place have their widths. -/
structure InRange (x : Place) : Prop where
  nodeId : ∀ id, x.nodeId = some id → id ≤ Width.bits64.max
  endpointId : x.endpointId ≤ Width.bits16.max
  clusterId : x.clusterId ≤ Width.bits32.max

/-- The fields of a place. -/
def pairs (nameField : String) (x : Place) : Fields :=
  [(nameField, .str x.name), ("clusterId", .ofNat x.clusterId),
    ("endpointId", .ofNat x.endpointId)] ++ optionalField "nodeId" (x.nodeId.map .ofNat)

/-- The fields of the normal form of a place. -/
def normal (nameField : String) (x : Place) : Fields :=
  [(nameField, .str x.name), ("clusterId", .ofNat x.clusterId),
    ("endpointId", .ofNat x.endpointId), ("nodeId", ofOption (x.nodeId.map .ofNat))]

section

variable {nameField : String} (apart : nameField ∉ ["nodeId", "endpointId", "clusterId"])

theorem toJson_eq (x : Place) : x.toJson nameField = ofPairs (x.pairs nameField) := by
  obtain ⟨nodeId, endpointId, clusterId, name⟩ := x
  cases nodeId <;> rfl

include apart in
theorem names_normal (x : Place) : ((x.normal nameField).map (·.1)).Nodup := by
  simp only [List.mem_cons, List.not_mem_nil, or_false, not_or] at apart
  simp [normal, apart]

theorem sublist_pairs (x : Place) : (x.pairs nameField).Sublist (x.normal nameField) :=
  (List.Sublist.refl _).append (sublist_optionalField _ _)

include apart in
theorem get?_pairs (x : Place) :
    (ofPairs (x.pairs nameField)).get? "nodeId" = x.nodeId.map .ofNat ∧
      (ofPairs (x.pairs nameField)).get? "endpointId" = some (.ofNat x.endpointId) ∧
      (ofPairs (x.pairs nameField)).get? "clusterId" = some (.ofNat x.clusterId) ∧
      (ofPairs (x.pairs nameField)).get? nameField = some (.str x.name) := by
  have names := (x.names_normal apart).sublist (x.sublist_pairs.map (·.1))
  simp only [List.mem_cons, List.not_mem_nil, or_false, not_or] at apart
  simp only [ofPairs, Json.get?, Fields.get?_ofList names]
  simp [pairs, Fields.get?, get?_optionalField, apart]

include apart in
theorem get?_normal (x : Place) :
    (ofPairs (x.normal nameField)).get? "nodeId" = some (ofOption (x.nodeId.map .ofNat)) ∧
      (ofPairs (x.normal nameField)).get? "endpointId" = some (.ofNat x.endpointId) ∧
      (ofPairs (x.normal nameField)).get? "clusterId" = some (.ofNat x.clusterId) ∧
      (ofPairs (x.normal nameField)).get? nameField = some (.str x.name) := by
  have names := x.names_normal apart
  simp only [List.mem_cons, List.not_mem_nil, or_false, not_or] at apart
  simp only [ofPairs, Json.get?, Fields.get?_ofList names]
  simp [normal, Fields.get?, apart]

include apart in
theorem reads {x : Place} (h : x.InRange) (title : String) :
    ∃ u, Reads (shape title nameField).look (x.toJson nameField) u ∧
      ofJson? nameField u = some x := by
  obtain ⟨nodeId, endpointId, clusterId, name⟩ := x.get?_pairs apart
  obtain ⟨nodeId', endpointId', clusterId', name'⟩ := x.get?_normal apart
  have node : ∀ v, x.nodeId.map Json.ofNat = some v → v.isNull = false →
      Reads (lookWhole .bits64) v v := by
    intro v given _
    obtain ⟨id, set, rfl⟩ := Option.map_eq_some_iff.1 given
    exact reads_whole (h.nodeId id set)
  have known : ∀ p ∈ Fields.ofList (x.normal nameField), ∃ f ∈ lookFields
      (Shape.specs (shape title nameField)), f.name = p.1 := by
    intro p hp
    have there := Fields.mem_ofList hp
    simp only [normal, List.mem_cons, List.not_mem_nil, or_false] at there
    rcases there with rfl | rfl | rfl | rfl <;>
      simp [shape, Shape.specs, lookFields, needed, absent]
  have look : Reads (shape title nameField).look (ofPairs (x.pairs nameField))
      (ofPairs (x.normal nameField)) := reads_record (Fields.sorted_ofList _) known
    (List.forall_mem_cons.2 ⟨⟨_, nodeId', gets_absent nodeId node⟩, List.forall_mem_cons.2
      ⟨⟨_, endpointId', gets_of_eq endpointId (reads_whole h.endpointId)⟩, List.forall_mem_cons.2
      ⟨⟨_, clusterId', gets_of_eq clusterId (reads_whole h.clusterId)⟩, List.forall_mem_singleton.2
      ⟨_, name', gets_of_eq name (reads_text x.name)⟩⟩⟩⟩)
  refine ⟨_, toJson_eq x ▸ look, ?_⟩
  simp only [ofJson?, natField, textField, nodeId', endpointId', clusterId', name']
  obtain ⟨node?, _, _, _⟩ := x
  cases node? <;> rfl

include apart in
theorem yields (title : String) (n : Nat) : Yields (shape title nameField).look (n + 1) fun u =>
    ∀ x, ofJson? nameField u = some x → x.InRange ∧ (x.toJson nameField).Sound (n + 1) := by
  intro r doc u bounds plain read x means
  have names : ((lookFields (Shape.specs (shape title nameField))).map (·.name)).Nodup := by
    simp only [List.mem_cons, List.not_mem_nil, or_false, not_or] at apart
    simp [shape, Shape.specs, lookFields, needed, absent, Ne.symm apart.1, Ne.symm apart.2.1,
      Ne.symm apart.2.2]
  obtain ⟨node, node?, nodeWhole⟩ :=
    yields_field names (i := 0) rfl (yields_optional yields_whole)
      null_default r doc u bounds plain read
  obtain ⟨_, endpointId?, endpointId, endpoint16, rfl⟩ :=
    yields_field names (i := 1) rfl yields_whole no_default r doc u bounds plain read
  obtain ⟨_, clusterId?, clusterId, cluster32, rfl⟩ :=
    yields_field names (i := 2) rfl yields_whole no_default r doc u bounds plain read
  obtain ⟨_, name?, name, rfl⟩ :=
    yields_field names (i := 3) rfl yields_text no_default r doc u bounds plain read
  simp only [ofJson?, natField, textField, node?, endpointId?, clusterId?, name?] at means
  cases means
  have number : ∀ id, node.nat? = some id → id ≤ Width.bits64.max := by
    intro id same
    rcases nodeWhole with rfl | ⟨k, node64, rfl⟩ <;> cases same
    exact node64
  have sound : Sound n (ofOption (node.nat?.map .ofNat)) := by
    cases same : node.nat? with
    | none => exact .scalar .null
    | some id => exact .ofNat (number id same)
  let x : Place := ⟨node.nat?, endpointId, clusterId, name⟩
  have each : ∀ p ∈ x.normal nameField, p.2.Sound n := List.forall_mem_cons.2 ⟨.text _,
    List.forall_mem_cons.2 ⟨.ofNat cluster32, List.forall_mem_cons.2 ⟨.ofNat endpoint16,
    List.forall_mem_singleton.2 sound⟩⟩⟩
  refine ⟨⟨number, endpoint16, cluster32⟩, ?_⟩
  rw [toJson_eq]
  exact .obj (Fields.sorted_ofList _) fun p hp =>
    each p (x.sublist_pairs.subset (Fields.mem_ofList hp))

end

end Place

namespace AttributeReport

theorem nameField_apart : nameField ∉ ["nodeId", "endpointId", "clusterId"] := by
  decide

theorem sorted_fields (a b : Json) : Fields.Sorted [("path", a), ("value", b)] :=
  .cons (by decide) (.single _)

theorem reads {x : AttributeReport} (h : x.path.InRange) :
    ∃ u, Reads shape.look x.toJson u ∧ ofJson? u = some x := by
  obtain ⟨path, readsPath, meansPath⟩ := Place.reads nameField_apart h "AttributePath"
  have look : Reads shape.look x.toJson (.obj [("path", path), ("value", x.value)]) :=
    reads_record (sorted_fields _ _) (by simp [lookFields, needed]) (List.forall_mem_cons.2
      ⟨⟨_, rfl, readsPath⟩, List.forall_mem_singleton.2 ⟨_, rfl, reads_any x.value⟩⟩)
  refine ⟨_, look, ?_⟩
  have path? : (Json.obj [("path", path), ("value", x.value)]).get? "path" = some path := rfl
  simp only [ofJson?, path?, Option.bind_eq_bind, Option.bind_some, meansPath]
  rfl

theorem yields (n : Nat) : Yields shape.look (n + 2) fun u => ∀ x, ofJson? u = some x →
    x.path.InRange ∧ x.toJson.Sound (n + 2) := by
  intro r doc u bounds plain read x means
  have names : ((lookFields shape.specs).map (·.name)).Nodup := by decide
  obtain ⟨path, path?, pathYields⟩ := yields_field names (i := 0) rfl
    (Place.yields nameField_apart "AttributePath" n) no_default r doc u bounds plain read
  obtain ⟨value, value?, valueSound⟩ :=
    yields_field names (i := 1) rfl yields_any no_default r doc u bounds plain read
  simp only [ofJson?, path?, value?] at means
  obtain ⟨place, meansPath, same⟩ := Option.bind_eq_some_iff.1 means
  cases same
  obtain ⟨inRange, pathSound⟩ := pathYields place meansPath
  exact ⟨inRange, .obj (sorted_fields _ _) (List.forall_mem_cons.2 ⟨pathSound,
    List.forall_mem_singleton.2 valueSound⟩)⟩

theorem roundTrips : RoundTrips AttributeReport.read toJson (fun x => x.path.InRange) fun x => x :=
  .of_look (fun _ => reads) ((yields 125).imp fun _ h x means =>
    ⟨(h x means).1, (h x means).2, rfl⟩)

end AttributeReport

namespace EventReport

theorem nameField_apart : nameField ∉ ["nodeId", "endpointId", "clusterId"] := by
  decide

theorem sorted_fields (a b : Json) : Fields.Sorted [("events", a), ("path", b)] :=
  .cons (by decide) (.single _)

theorem reads {x : EventReport} (h : x.path.InRange) :
    ∃ u, Reads shape.look x.toJson u ∧ ofJson? u = some x := by
  obtain ⟨path, readsPath, meansPath⟩ := Place.reads nameField_apart h "EventPath"
  have look : Reads shape.look x.toJson (.obj [("events", .arr x.events), ("path", path)]) :=
    reads_record (sorted_fields _ _) (by simp [lookFields, needed]) (List.forall_mem_cons.2
      ⟨⟨_, rfl, readsPath⟩, List.forall_mem_singleton.2 ⟨_, rfl, reads_list x.events⟩⟩)
  refine ⟨_, look, ?_⟩
  have path? : (Json.obj [("events", .arr x.events), ("path", path)]).get? "path" = some path := rfl
  simp only [ofJson?, path?, Option.bind_eq_bind, Option.bind_some, meansPath]
  rfl

theorem yields (n : Nat) : Yields shape.look (n + 2) fun u => ∀ x, ofJson? u = some x →
    x.path.InRange ∧ x.toJson.Sound (n + 2) := by
  intro r doc u bounds plain read x means
  have names : ((lookFields shape.specs).map (·.name)).Nodup := by decide
  obtain ⟨path, path?, pathYields⟩ := yields_field names (i := 0) rfl
    (Place.yields nameField_apart "EventPath" n) no_default r doc u bounds plain read
  obtain ⟨_, events?, eventsSound, events, rfl⟩ :=
    yields_field names (i := 1) rfl yields_list no_default r doc u bounds plain read
  simp only [ofJson?, path?, events?] at means
  obtain ⟨place, meansPath, same⟩ := Option.bind_eq_some_iff.1 means
  cases same
  obtain ⟨inRange, pathSound⟩ := pathYields place meansPath
  exact ⟨inRange, .obj (sorted_fields _ _) (List.forall_mem_cons.2 ⟨eventsSound,
    List.forall_mem_singleton.2 pathSound⟩)⟩

theorem roundTrips : RoundTrips EventReport.read toJson (fun x => x.path.InRange) fun x => x :=
  .of_look (fun _ => reads) ((yields 125).imp fun _ h x means =>
    ⟨(h x means).1, (h x means).2, rfl⟩)

end EventReport

namespace NodeState

theorem reads (x : NodeState) : ∃ u, Reads shape.look x.toJson u ∧ ofJson? u = some x := by
  have known : x.name ∈ all.map name := by cases x <;> decide
  exact ⟨_, reads_name known, by cases x <;> rfl⟩

theorem yields (n : Nat) : Yields shape.look n fun u => ∀ x, ofJson? u = some x →
    x.toJson.Sound n :=
  fun _ _ _ _ _ _ x _ => .text x.name

theorem roundTrips : RoundTrips NodeState.read toJson (fun _ => True) fun x => x :=
  .of_look (fun x _ => reads x) ((yields _).imp fun _ h x means => ⟨trivial, h x means, rfl⟩)

end NodeState

/-! ## Settings -/

namespace ServerSettings

/-- The numbers of the server settings have their widths. -/
structure InRange (x : ServerSettings) : Prop where
  port : x.port ≤ Width.bits16.max
  maxConnections : x.maxConnections ≤ Width.counts.max
  maxMessageSize : x.maxMessageSize ≤ Width.counts.max
  outboundQueueCapacity : x.outboundQueueCapacity ≤ Width.counts.max

theorem sorted_fields (a b c d e : Json) : Fields.Sorted [("host", a), ("maxConnections", b),
    ("maxMessageSize", c), ("outboundQueueCapacity", d), ("port", e)] :=
  .cons (by decide) (.cons (by decide) (.cons (by decide) (.cons (by decide) (.single _))))

theorem reads {x : ServerSettings} (h : x.InRange) :
    ∃ u, Reads shape.look x.toJson u ∧ ofJson? u = some x := by
  have look : Reads shape.look x.toJson x.toJson := reads_record (sorted_fields _ _ _ _ _)
    (by simp [lookFields, defaulted]) (List.forall_mem_cons.2
      ⟨⟨_, rfl, reads_text x.host⟩, List.forall_mem_cons.2
      ⟨⟨_, rfl, reads_whole h.port⟩, List.forall_mem_cons.2
      ⟨⟨_, rfl, reads_whole h.maxConnections⟩, List.forall_mem_cons.2
      ⟨⟨_, rfl, reads_whole h.maxMessageSize⟩, List.forall_mem_singleton.2
      ⟨_, rfl, reads_whole h.outboundQueueCapacity⟩⟩⟩⟩⟩)
  exact ⟨_, look, rfl⟩

theorem sound_toJson {x : ServerSettings} (h : x.InRange) (n : Nat) : x.toJson.Sound (n + 1) :=
  .obj (sorted_fields _ _ _ _ _) (List.forall_mem_cons.2 ⟨.text _, List.forall_mem_cons.2
    ⟨.ofNat h.maxConnections, List.forall_mem_cons.2 ⟨.ofNat h.maxMessageSize,
    List.forall_mem_cons.2 ⟨.ofNat h.outboundQueueCapacity, List.forall_mem_singleton.2
    (.ofNat h.port)⟩⟩⟩⟩)

theorem yields (n : Nat) : Yields shape.look (n + 1) fun u => ∀ x, ofJson? u = some x →
    x.InRange := by
  intro r doc u bounds plain read x means
  have names : ((lookFields shape.specs).map (·.name)).Nodup := by decide
  obtain ⟨_, host?, host, rfl⟩ := yields_field names (i := 0) rfl yields_text
    (fun _ same => ⟨_, (Option.some.inj same).symm⟩) r doc u bounds plain read
  obtain ⟨_, port?, port, port16, rfl⟩ :=
    yields_field names (i := 1) rfl yields_whole
      (whole_default (by decide)) r doc u bounds plain read
  obtain ⟨_, connections?, connections, connectionsFit, rfl⟩ :=
    yields_field names (i := 2) rfl yields_whole
      (whole_default (by decide)) r doc u bounds plain read
  obtain ⟨_, size?, size, sizeFits, rfl⟩ :=
    yields_field names (i := 3) rfl yields_whole
      (whole_default (by decide)) r doc u bounds plain read
  obtain ⟨_, capacity?, capacity, capacityFits, rfl⟩ :=
    yields_field names (i := 4) rfl yields_whole
      (whole_default (by decide)) r doc u bounds plain read
  simp only [ofJson?, host?, port?, connections?, size?, capacity?] at means
  cases means
  exact ⟨port16, connectionsFit, sizeFits, capacityFits⟩

end ServerSettings

namespace BridgeSettings

/-- The numbers of the bridge settings have their widths. -/
structure InRange (x : BridgeSettings) : Prop where
  updateLockWindowMs : x.updateLockWindowMs ≤ Width.bits64.max
  displayFieldMaxLength : x.displayFieldMaxLength ≤ Width.counts.max

theorem sorted_fields (a b : Json) :
    Fields.Sorted [("displayFieldMaxLength", a), ("updateLockWindowMs", b)] :=
  .cons (by decide) (.single _)

theorem reads {x : BridgeSettings} (h : x.InRange) :
    ∃ u, Reads shape.look x.toJson u ∧ ofJson? u = some x := by
  have look : Reads shape.look x.toJson x.toJson := reads_record (sorted_fields _ _)
    (by simp [lookFields, defaulted]) (List.forall_mem_cons.2
      ⟨⟨_, rfl, reads_whole h.updateLockWindowMs⟩, List.forall_mem_singleton.2
      ⟨_, rfl, reads_whole h.displayFieldMaxLength⟩⟩)
  exact ⟨_, look, rfl⟩

theorem sound_toJson {x : BridgeSettings} (h : x.InRange) (n : Nat) : x.toJson.Sound (n + 1) :=
  .obj (sorted_fields _ _) (List.forall_mem_cons.2 ⟨.ofNat h.displayFieldMaxLength,
    List.forall_mem_singleton.2 (.ofNat h.updateLockWindowMs)⟩)

theorem yields (n : Nat) : Yields shape.look (n + 1) fun u => ∀ x, ofJson? u = some x →
    x.InRange := by
  intro r doc u bounds plain read x means
  have names : ((lookFields shape.specs).map (·.name)).Nodup := by decide
  obtain ⟨_, window?, window, windowFits, rfl⟩ :=
    yields_field names (i := 0) rfl yields_whole
      (whole_default (by decide)) r doc u bounds plain read
  obtain ⟨_, length?, length, lengthFits, rfl⟩ :=
    yields_field names (i := 1) rfl yields_whole
      (whole_default (by decide)) r doc u bounds plain read
  simp only [ofJson?, window?, length?] at means
  cases means
  exact ⟨windowFits, lengthFits⟩

end BridgeSettings

namespace LoggingSettings

theorem sorted_fields (a b : Json) : Fields.Sorted [("json", a), ("level", b)] :=
  .cons (by decide) (.single _)

theorem reads (x : LoggingSettings) : ∃ u, Reads shape.look x.toJson u ∧ ofJson? u = some x := by
  have look : Reads shape.look x.toJson x.toJson := reads_record (sorted_fields _ _)
    (by simp [lookFields, defaulted]) (List.forall_mem_cons.2
      ⟨⟨_, rfl, reads_text x.level⟩, List.forall_mem_singleton.2 ⟨_, rfl, reads_flag x.json⟩⟩)
  exact ⟨_, look, rfl⟩

theorem sound_toJson (x : LoggingSettings) (n : Nat) : x.toJson.Sound (n + 1) :=
  .obj (sorted_fields _ _) (List.forall_mem_cons.2 ⟨.scalar (.bool _),
    List.forall_mem_singleton.2 (.text _)⟩)

end LoggingSettings

namespace Settings

/-- The numbers of the settings have their widths. -/
structure InRange (x : Settings) : Prop where
  server : x.server.InRange
  bridge : x.bridge.InRange

theorem sorted_fields (a b c : Json) :
    Fields.Sorted [("bridge", a), ("logging", b), ("server", c)] :=
  .cons (by decide) (.cons (by decide) (.single _))

theorem reads {x : Settings} (h : x.InRange) :
    ∃ u, Reads shape.look x.toJson u ∧ ofJson? u = some x := by
  obtain ⟨server, readsServer, meansServer⟩ := ServerSettings.reads h.server
  obtain ⟨bridge, readsBridge, meansBridge⟩ := BridgeSettings.reads h.bridge
  obtain ⟨logging, readsLogging, meansLogging⟩ := x.logging.reads
  have look : Reads shape.look x.toJson
      (.obj [("bridge", bridge), ("logging", logging), ("server", server)]) :=
    reads_record (sorted_fields _ _ _) (by simp [lookFields, defaulted]) (List.forall_mem_cons.2
      ⟨⟨_, rfl, readsServer⟩, List.forall_mem_cons.2 ⟨⟨_, rfl, readsBridge⟩,
      List.forall_mem_singleton.2 ⟨_, rfl, readsLogging⟩⟩⟩)
  refine ⟨_, look, ?_⟩
  simp only [ofJson?, Json.get?, Fields.get?]
  simp [meansServer, meansBridge, meansLogging]

theorem sound_toJson {x : Settings} (h : x.InRange) (n : Nat) : x.toJson.Sound (n + 2) :=
  .obj (sorted_fields _ _ _) (List.forall_mem_cons.2 ⟨BridgeSettings.sound_toJson h.bridge n,
    List.forall_mem_cons.2 ⟨x.logging.sound_toJson n, List.forall_mem_singleton.2
    (ServerSettings.sound_toJson h.server n)⟩⟩)

theorem yields (n : Nat) : Yields shape.look (n + 2) fun u => ∀ x, ofJson? u = some x →
    x.InRange := by
  intro r doc u bounds plain read x means
  have names : ((lookFields shape.specs).map (·.name)).Nodup := by decide
  obtain ⟨server, server?, serverFits⟩ := yields_field names (i := 0) rfl
    (ServerSettings.yields n) (fun _ same y means => by
      cases same
      cases means
      exact ⟨by decide, by decide, by decide, by decide⟩) r doc u bounds plain read
  obtain ⟨bridge, bridge?, bridgeFits⟩ := yields_field names (i := 1) rfl
    (BridgeSettings.yields n) (fun _ same y means => by
      cases same
      cases means
      exact ⟨by decide, by decide⟩) r doc u bounds plain read
  simp only [ofJson?, server?, bridge?] at means
  obtain ⟨server, meansServer, means⟩ := Option.bind_eq_some_iff.1 means
  obtain ⟨bridge, meansBridge, means⟩ := Option.bind_eq_some_iff.1 means
  obtain ⟨logging, -, same⟩ := Option.bind_eq_some_iff.1 means
  cases same
  exact ⟨serverFits server meansServer, bridgeFits bridge meansBridge⟩

theorem roundTrips : RoundTrips Settings.read toJson InRange fun x => x :=
  .of_look (fun _ => reads) ((yields 125).imp fun _ h x means =>
    ⟨h x means, sound_toJson (h x means) 125, rfl⟩)

end Settings

/-- Messages, reports and settings read what they write. -/
theorem round_trips :
    RoundTrips Request.read Request.toJson (fun _ => True) (fun x => x) ∧
      RoundTrips Response.read Response.toJson (fun _ => True) Response.settled ∧
      RoundTrips Event.read Event.toJson (fun _ => True) Event.settled ∧
      RoundTrips BridgeEvent.read BridgeEvent.toJson (fun _ => True) (fun x => x) ∧
      RoundTrips Frame.read Frame.toJson (fun _ => True) Frame.settled ∧
      RoundTrips Fabric.read Fabric.toJson Fabric.InRange (fun x => x) ∧
      RoundTrips PairingCodes.read PairingCodes.toJson (fun _ => True) (fun x => x) ∧
      RoundTrips AttributeReport.read AttributeReport.toJson (fun x => x.path.InRange)
        (fun x => x) ∧
      RoundTrips EventReport.read EventReport.toJson (fun x => x.path.InRange) (fun x => x) ∧
      RoundTrips NodeState.read NodeState.toJson (fun _ => True) (fun x => x) ∧
      RoundTrips Settings.read Settings.toJson Settings.InRange (fun x => x) :=
  ⟨Request.roundTrips, Response.roundTrips, Event.roundTrips, BridgeEvent.roundTrips,
    Frame.roundTrips, Fabric.roundTrips, PairingCodes.roundTrips, AttributeReport.roundTrips,
    EventReport.roundTrips, NodeState.roundTrips, Settings.roundTrips⟩

/-- The floating-point number `0.5`. -/
def oneHalf : Double := ⟨0x3fe0000000000000⟩

/-- An event with a floating-point number. -/
def halfEvent : Frame :=
  .event ⟨"bridgeEvent", some (.arr [.float oneHalf, .null])⟩

/-- The event with the fields of its objects in another order. -/
def halfJson : Json :=
  .obj [("type", .str "event"),
    ("message", .obj [("type", .str "bridgeEvent"), ("data", .arr [.float oneHalf, .null])])]

/-- The text of the event in that order. -/
def halfText : String :=
  "\x7b\"type\":\"event\",\"message\":\x7b\"type\":\"bridgeEvent\",\"data\":[0.5,null]\x7d\x7d"

/-- A response whose result is null. -/
def nullResponse : Frame :=
  .response ⟨.success, "7", some .null, none⟩

theorem parse_float {t : String} {d : Double}
    (h : (match parse t with | .ok (.float e) => some e | _ => none) = some d) :
    parse t = .ok (.float d) := by
  split at h
  · rename_i same
    exact Option.some.inj h ▸ same
  · cases h

/-- An event comes back as it was; a response whose result is null comes back without one. -/
theorem round_trips_frame : Frame.read halfText = .ok halfEvent ∧
    Frame.read nullResponse.text = .ok (.response ⟨.success, "7", none, none⟩) := by
  obtain ⟨-, -, -, -, frames, -⟩ := round_trips
  constructor
  · have exact_ : halfEvent.toJson.Exact := by
      intro d hd
      have same : d = oneHalf := by
        simpa [halfEvent, Frame.toJson, Event.toJson, optionalField, numbers, fieldsNumbers,
          itemsNumbers] using hd
      exact same ▸ parse_float (by decide +kernel)
    have sound : halfEvent.toJson.Sound maxDepth :=
      .obj (Frame.sorted_fields _ _) (List.forall_mem_cons.2 ⟨.obj (Event.sorted_normal
        ⟨"bridgeEvent", some (.arr [.float oneHalf, .null])⟩) (List.forall_mem_cons.2 ⟨.arr
        (List.forall_mem_cons.2 ⟨.scalar (.float _), List.forall_mem_singleton.2 (.scalar .null)⟩),
        List.forall_mem_singleton.2 (.text _)⟩), List.forall_mem_singleton.2 (.text _)⟩)
    have distinct : halfJson.Distinct := .obj (by decide) (List.forall_mem_cons.2 ⟨.str _,
      List.forall_mem_singleton.2 (.obj (by decide) (List.forall_mem_cons.2 ⟨.str _,
      List.forall_mem_singleton.2 (.arr (List.forall_mem_cons.2 ⟨.float _,
      List.forall_mem_singleton.2 .null⟩))⟩))⟩)
    have text : halfText = halfJson.render := by decide +kernel
    exact (frames.decodes halfEvent trivial sound exact_).read halfText
      ⟨halfJson, ⟨distinct, rfl⟩, text⟩
  · have exact_ : nullResponse.toJson.Exact := by
      intro d hd
      simp [nullResponse, Frame.toJson, Response.toJson, optionalField, numbers, fieldsNumbers]
        at hd
    have sound : nullResponse.toJson.Sound maxDepth :=
      .obj (Frame.sorted_fields _ _) (List.forall_mem_cons.2 ⟨.sublist (.obj (Response.sorted_normal
        ⟨.success, "7", some .null, none⟩) (List.forall_mem_cons.2 ⟨.scalar .null,
        List.forall_mem_cons.2 ⟨.text _, List.forall_mem_cons.2 ⟨.scalar .null,
        List.forall_mem_singleton.2 (.text _)⟩⟩⟩)) (List.sublist_cons_self _ _),
        List.forall_mem_singleton.2 (.text _)⟩)
    have back := frames.decodes nullResponse trivial sound exact_
    exact back.read _ back.spelling

end HomeGateway
