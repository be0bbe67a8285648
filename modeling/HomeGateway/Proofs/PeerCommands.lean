/-
  What a peer's command leaves behind.

  A hook that yields a value is told first, and its value is written afterwards.
  No lock hides what is told, and no hook undoes what another one of the command
  wrote; so what is told is held in the end, if the cluster can hold it.  Writes
  never change which clusters can.  A caller can, though: another value in the
  place of a cluster stays there for good.

  * `events_command`: the events of a command, whatever is locked;
  * `holds_runAll`: what is held after the hooks of a command;
  * `hasCluster_definition`: which clusters of a new endpoint hold attributes;
  * `applied_command`: whether what a command told is held;
  * `unapplied_switchless`: a command that is accepted and told, and changes nothing.
-/
import HomeGateway.Proofs.Leftovers
import HomeGateway.Proofs.Merging

namespace HomeGateway

open Device Engine

/-! ## What hooks leave as it is -/

namespace Engine.Endpoint

theorem hasCluster_run (args : Json) (e : Endpoint) (h : Hook) (cluster : String) :
    (e.run args h).1.hasCluster cluster = e.hasCluster cluster := by
  simp only [run]
  split
  · rfl
  · exact hasCluster_write _ _ _ _ _

theorem get?_run_of_ne (args : Json) (e : Endpoint) {h : Hook} {cluster attr : String}
    (apart : cluster = h.cluster → attr ≠ h.attr) :
    (e.run args h).1.get? cluster attr = e.get? cluster attr := by
  simp only [run]
  split
  · rfl
  · exact get?_write_of_ne _ apart

theorem get?_runAll_of_ne (args : Json) (e : Endpoint) {hooks : List Hook} {cluster attr : String}
    (apart : ∀ h ∈ hooks, cluster = h.cluster → attr ≠ h.attr) :
    (e.runAll args hooks).1.get? cluster attr = e.get? cluster attr := by
  induction hooks generalizing e with
  | nil => rfl
  | cons h rest ih =>
    obtain ⟨first, later⟩ := List.forall_mem_cons.1 apart
    exact (ih (e.run args h).1 later).trans (get?_run_of_ne args e first)

/-! ## Hooks, one after the other -/

/-- A hook that yields a value leaves it there, whatever the other hooks of the command do. -/
theorem holds_runAll (args : Json) (e : Endpoint) {hooks : List Hook}
    (apart : hooks.Pairwise fun h h' => h'.cluster = h.cluster → h'.attr ≠ h.attr)
    {h : Hook} (hh : h ∈ hooks) {value : Json}
    (yields : h.value.resolve args (e.get? h.cluster h.attr) = some value) :
    (e.runAll args hooks).1.holds h.cluster h.attr value = e.hasCluster h.cluster := by
  induction hooks generalizing e with
  | nil => cases hh
  | cons first rest ih =>
    obtain ⟨fromFirst, later⟩ := List.pairwise_cons.1 apart
    rcases List.mem_cons.1 hh with rfl | hrest
    · -- nothing after the hook writes its attribute
      have untouched : ((e.run args h).1.runAll args rest).1.get? h.cluster h.attr =
          (e.run args h).1.get? h.cluster h.attr :=
        get?_runAll_of_ne args _ fun h' hh' same own => fromFirst h' hh' same.symm own.symm
      have own : (e.run args h).1 = (e.write h.cluster h.attr value).1 := by
        simp only [run, yields]
      calc (e.runAll args (h :: rest)).1.holds h.cluster h.attr value
          = (e.run args h).1.holds h.cluster h.attr value := by
            simp only [runAll, holds, untouched]
        _ = e.hasCluster h.cluster := by rw [own, holds_write_self]
    · -- nothing before it does either
      have before := get?_run_of_ne args e (fromFirst h hrest)
      exact (ih (e.run args first).1 later hrest (before ▸ yields)).trans
        (hasCluster_run args e first h.cluster)

/-- A command changes no observed attribute. -/
theorem unobserved_runAll (args : Json) (e : Endpoint) {hooks : List Hook}
    (known : ∀ h ∈ hooks, h ∈ e.type.hooks) {cluster attr : String} {value : Json}
    (changed : .changed cluster attr value ∈ (e.runAll args hooks).2) :
    e.type.observes cluster attr = false := by
  induction hooks generalizing e with
  | nil => cases changed
  | cons h rest ih =>
    obtain ⟨first, later⟩ := List.forall_mem_cons.1 known
    have type := Bridge.VirtualEndpoint.type_run args e h
    simp only [runAll, List.mem_append] at changed
    rcases changed with own | others
    · simp only [run] at own
      split at own
      · cases own
      · rw [List.mem_cons, notices_write] at own
        rcases own with other | own
        · cases other
        · split at own
          · cases List.mem_singleton.1 own
            exact DeviceType.observes_of_mem_hooks first
          · cases own
    · exact type ▸ ih (e.run args h).1 (type ▸ later) others

end Engine.Endpoint

namespace Bridge

/-! ## What is told -/

/-- Locks hide no event if the changes are not observed anyway. -/
theorem Follower.hearAll_unobserved (now : Nat) (f : Follower) {notices : List Notice}
    (unobserved : ∀ cluster attr value, .changed cluster attr value ∈ notices →
      f.type.observes cluster attr = false) :
    (f.hearAll now notices).2 = notices.filterMap (tells f.endpointId f.type) := by
  induction notices generalizing f with
  | nil => rfl
  | cons n rest ih =>
    have heard : (f.hear now n).2 = tells f.endpointId f.type n := by
      cases n with
      | invoked => rfl
      | changed cluster attr value =>
        have unseen := unobserved cluster attr value List.mem_cons_self
        simp [hear, tells, unseen]
    have same : (f.hear now n).1.type = f.type ∧ (f.hear now n).1.endpointId = f.endpointId := by
      cases n <;> exact ⟨rfl, rfl⟩
    have later := ih (f.hear now n).1 fun cluster attr value changed => by
      rw [same.1]
      exact unobserved cluster attr value (List.mem_cons_of_mem _ changed)
    rw [same.1, same.2] at later
    simp only [hearAll, later, heard]
    cases told : tells f.endpointId f.type n <;> simp [told]

namespace VirtualEndpoint

variable {now : Nat} {v : VirtualEndpoint} {cluster command : String} {args : Json} {r : Reaction}

/-- A command that is accepted runs its hooks, and tells each that yields a value. -/
theorem events_command (id : v.follower.endpointId = v.endpoint.id)
    (type : v.follower.type = v.endpoint.type)
    (accepted : v.command now cluster command args = (.ok (), r)) :
    r.after.endpoint = (v.endpoint.runAll args
        (v.endpoint.type.hooks.filter (·.matches? cluster command))).1 ∧
      r.events = announced args v.endpoint
        (v.endpoint.type.hooks.filter (·.matches? cluster command)) := by
  have apart := DeviceType.pairwise_hooks v.endpoint.type cluster command
  have known : ∀ h ∈ v.endpoint.type.hooks.filter (·.matches? cluster command),
      h ∈ v.endpoint.type.hooks := fun h hh => (List.mem_filter.1 hh).1
  simp only [VirtualEndpoint.command, Endpoint.invoke] at accepted
  generalize v.endpoint.type.hooks.filter (·.matches? cluster command) = hooks at *
  cases hooks with
  | nil => cases accepted
  | cons h rest =>
    obtain ⟨-, rfl⟩ := Prod.mk.inj accepted
    refine ⟨rfl, ?_⟩
    rw [← tells_runAll args v.endpoint known apart, ← id, ← type]
    refine Follower.hearAll_unobserved now v.follower fun c a w changed => ?_
    exact type ▸ Endpoint.unobserved_runAll args v.endpoint known changed

end VirtualEndpoint

/-! ## Clusters of new endpoints -/

/-- The caller put no other value in the place of a cluster. -/
def Spec.Spares (s : Spec) (cluster : String) : Prop :=
  ∀ w, s.attributes.get? cluster = some w → w.fields?.isSome

instance (s : Spec) (cluster : String) : Decidable (s.Spares cluster) :=
  decidable_of_iff ((s.attributes.get? cluster).all fun w => w.fields?.isSome) <| by
    rw [Spec.Spares]
    cases s.attributes.get? cluster <;> simp

theorem definition_cases {spec : Spec} {maxLabel : Nat} {d : Definition}
    (made : spec.definition maxLabel = .ok d) :
    ∃ t c, configure t spec.attributes (merge t.defaults spec.attributes) = .ok c ∧
      d = ⟨spec.id, t, spec.labels.truncate maxLabel, c.tree, c.features⟩ := by
  simp only [Spec.definition, bind, Except.bind] at made
  split at made
  · cases made
  split at made
  · cases made
  · rename_i t _ _ c configured
    cases made
    exact ⟨t, c, configured, rfl⟩

/-- A cluster that commands write to is an object by default, so it is one unless the caller
    replaced it. -/
theorem hasCluster_definition {spec : Spec} {maxLabel : Nat} {d : Definition}
    (made : spec.definition maxLabel = .ok d) {h : Hook} (hh : h ∈ d.type.hooks) :
    (Endpoint.ofDefinition d).hasCluster h.cluster = true ↔ spec.Spares h.cluster := by
  obtain ⟨type, c, configured, rfl⟩ := definition_cases made
  change h ∈ type.hooks at hh
  have plain : type ≠ .thermostat := by
    rintro rfl
    cases hh
  obtain ⟨features, kept⟩ := configure_plain plain spec.attributes
    (merge type.defaults spec.attributes)
  cases configured.symm.trans kept
  have unlabelled : h.cluster ≠ Labels.clusterName := by
    have table : ∀ h ∈ type.hooks, h.cluster ≠ Labels.clusterName := by
      cases type <;> decide
    exact table h hh
  obtain ⟨ds, default⟩ : ∃ ds, type.defaults.get? h.cluster = some (.obj ds) := by
    have table : ∀ h ∈ type.hooks, ((type.defaults.get? h.cluster).bind Json.fields?).isSome := by
      cases type <;> decide +kernel
    obtain ⟨ds, found⟩ := Option.isSome_iff_exists.1 (table h hh)
    obtain ⟨w, there, object⟩ := Option.bind_eq_some_iff.1 found
    cases w <;> cases object
    exact ⟨ds, there⟩
  have cluster : (Endpoint.ofDefinition ⟨spec.id, type, spec.labels.truncate maxLabel,
      merge type.defaults spec.attributes, features⟩).state.get? h.cluster =
        some (choose (.obj ds) (spec.attributes.get? h.cluster)) := by
    rw [Endpoint.ofDefinition, Fields.get?_insert_of_ne _ _ unlabelled, get?_merge, default,
      Option.map_some]
  rw [Endpoint.hasCluster, cluster, Spec.Spares]
  cases spec.attributes.get? h.cluster with
  | none => simp [choose_none]
  | some w => cases w <;> simp [choose, Json.fields?]

namespace Busy

variable {d : Definition} {window sink : Nat}

/-- An endpoint has the id, the type and the clusters of its definition. -/
structure Shaped (d : Definition) (_now : Nat) (v : VirtualEndpoint) : Prop where
  id : v.endpoint.id = d.id
  type : v.endpoint.type = d.type
  clusters : ∀ cluster, v.endpoint.hasCluster cluster = (Endpoint.ofDefinition d).hasCluster cluster

theorem lasting_shaped (d : Definition) : Lasting (Shaped d) where
  locked _ _ _ h := ⟨h.id, h.type, h.clusters⟩
  written _ _ _ h :=
    { id := (Endpoint.id_write _ _ _ _).trans h.id
      type := (Endpoint.type_write _ _ _ _).trans h.type
      clusters := fun other => (Endpoint.hasCluster_write _ _ _ _ other).trans (h.clusters other) }
  unlocked _ _ _ h := ⟨h.id, h.type, h.clusters⟩
  passed _ h := ⟨h.id, h.type, h.clusters⟩

/-- **What a command told, and what the endpoint holds.**  Whatever happened to an endpoint before,
    a command that is accepted tells each attribute once at most; and the endpoint then holds
    what was told, unless the caller put another value in the place of the cluster. -/
theorem applied_command {spec : Spec} {maxLabel : Nat} (made : spec.definition maxLabel = .ok d)
    (now : Nat) (past : List Happening) {cluster command : String} {args : Json} {r : Reaction}
    (accepted : ((opened now window sink d).run past).1.endpoint.command
      ((opened now window sink d).run past).1.now cluster command args = (.ok (), r)) :
    (r.events.map fun ev => (ev.clusterName, ev.attributeName)).Nodup ∧
      ∀ ev ∈ r.events, r.after.endpoint.holds ev.clusterName ev.attributeName ev.data = true ↔
        spec.Spares ev.clusterName := by
  have stems := stems_run now window sink d past
  have shaped : Shaped d _ ((opened now window sink d).run past).1.endpoint :=
    keeps_run (lasting_shaped d) ⟨rfl, rfl, fun _ => rfl⟩ past
  generalize ((opened now window sink d).run past).1 = b at *
  have apart := DeviceType.pairwise_hooks b.endpoint.endpoint.type cluster command
  obtain ⟨after, events⟩ := VirtualEndpoint.events_command (stems.id.trans shaped.id.symm)
    (stems.type.trans shaped.type.symm) accepted
  rw [after, events, VirtualEndpoint.announced]
  constructor
  · rw [List.Nodup, List.pairwise_map, List.pairwise_filterMap]
    refine apart.imp fun differ ev told ev' told' same => ?_
    obtain ⟨_, -, rfl⟩ := Option.map_eq_some_iff.1 told
    obtain ⟨_, -, rfl⟩ := Option.map_eq_some_iff.1 told'
    obtain ⟨cluster, attr⟩ := Prod.mk.inj same
    exact differ cluster.symm attr.symm
  · intro ev hev
    obtain ⟨h, hh, told⟩ := List.mem_filterMap.1 hev
    obtain ⟨value, yields, rfl⟩ := Option.map_eq_some_iff.1 told
    have known : h ∈ d.type.hooks := shaped.type ▸ (List.mem_filter.1 hh).1
    rw [Endpoint.holds_runAll args _ apart hh yields, shaped.clusters]
    exact hasCluster_definition made known

/-- What a caller asks for who wants a lamp. -/
def lampSpec (attributes : Fields) : Spec :=
  ⟨"DimmableLightDevice", "lamp", ⟨"Lamp", "", "", ""⟩, attributes⟩

/-- That lamp. -/
def lamp (attributes : Fields) : Definition :=
  ⟨"lamp", .dimmableLight, ⟨"Lamp", "", "", ""⟩,
    merge DeviceType.dimmableLight.defaults attributes, []⟩

theorem definition_lamp (attributes : Fields) :
    (lampSpec attributes).definition 32 = .ok (lamp attributes) := by
  have labels : (Labels.mk "Lamp" "" "" "").truncate 32 = ⟨"Lamp", "", "", ""⟩ := by decide
  have type : DeviceType.ofName "DimmableLightDevice" = .ok .dimmableLight := rfl
  simp only [Spec.definition, lampSpec, type, labels, bind, Except.bind]
  rfl

/-- A lamp that its caller is about to switch off. -/
def dusk : Busy :=
  ((opened 0 100 0 (lamp [("onOff", .obj [("onOff", .bool true)])])).run
    [.begun "onOff" "onOff" (.bool false), .passed 5]).1

/-- The lock of the caller's write does not hide the command of a peer. -/
theorem applied_command_dusk :
    ∃ r, dusk.endpoint.command dusk.now "onOff" "off" .null = (.ok (), r) ∧
      r.events.map (fun ev => (ev.clusterName, ev.attributeName)) = [("onOff", "onOff")] ∧
      ∀ ev ∈ r.events,
        r.after.endpoint.holds ev.clusterName ev.attributeName ev.data = true := by
  obtain ⟨r, accepted⟩ :
      ∃ r, dusk.endpoint.command dusk.now "onOff" "off" .null = (.ok (), r) := ⟨_, rfl⟩
  have told : (dusk.endpoint.command dusk.now "onOff" "off" .null).2.events.map
      (fun ev => (ev.clusterName, ev.attributeName)) = [("onOff", "onOff")] := by decide +kernel
  rw [accepted] at told
  refine ⟨r, accepted, told, fun ev hev => ?_⟩
  have spot : (ev.clusterName, ev.attributeName) ∈ [("onOff", "onOff")] :=
    told ▸ List.mem_map_of_mem hev
  have cluster : ev.clusterName = "onOff" := (Prod.mk.inj (List.mem_singleton.1 spot)).1
  refine ((applied_command (definition_lamp _) 0 _ accepted).2 ev hev).2 ?_
  rw [cluster]
  decide +kernel

/-- A lamp with a number in the place of its switch. -/
def switchless : Busy :=
  opened 0 100 0 (lamp [("onOff", .int 5)])

/-- It takes the command to switch on, and tells that it is on, but holds nothing there. -/
theorem unapplied_switchless :
    ¬∀ (spec : Spec) (d : Definition) (past : List Happening) (cluster command : String)
        (args : Json) (r : Reaction), spec.definition 32 = .ok d →
      ((opened 0 100 0 d).run past).1.endpoint.command ((opened 0 100 0 d).run past).1.now
        cluster command args = (.ok (), r) →
      ∀ cluster attr ev, (r.events.filter fun ev => ev.clusterName = cluster &&
          ev.attributeName = attr).getLast? = some ev →
        r.after.endpoint.holds cluster attr ev.data = true := by
  intro always
  obtain ⟨r, accepted⟩ :
      ∃ r, switchless.endpoint.command 0 "onOff" "on" .null = (.ok (), r) := ⟨_, rfl⟩
  have told : (switchless.endpoint.command 0 "onOff" "on" .null).2.events.map
      (fun ev => (ev.clusterName, ev.attributeName)) = [("onOff", "onOff")] := by decide +kernel
  have bare : ((switchless.endpoint.command 0 "onOff" "on" .null).2.after.endpoint.get?
      "onOff" "onOff").isNone := by decide +kernel
  rw [accepted] at told bare
  obtain ⟨ev, events, spot⟩ := List.map_eq_singleton_iff.1 told
  obtain ⟨cluster, attr⟩ := Prod.mk.inj spot
  have last : (r.events.filter fun ev => ev.clusterName = "onOff" &&
      ev.attributeName = "onOff").getLast? = some ev := by
    rw [show r.events = [ev] from events]
    simp [cluster, attr]
  have held := always _ _ [] _ _ _ r (definition_lamp _) accepted _ _ ev last
  rw [Endpoint.holds, Option.isNone_iff_eq_none.1 bare] at held
  cases held

end Busy

end Bridge

end HomeGateway
