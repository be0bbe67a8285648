/-
  A bridge as its caller sees it.

  To its caller a bridge is no more than a list of endpoints, each with an id, a
  device type and an attribute tree.  `Roster.Step` says how each thing that can
  be asked changes this list and how it is answered; it knows of no session,
  aggregator, follower or lock.

  * `step_perform`: a session does what the list says;
  * `handleAll_course`: so it does over any course of requests;
  * `Roster.Course.eq_of_refused`, `handleAll_refused`: requests that are all refused
    change nothing that a caller can be shown.
-/
import HomeGateway.Proofs.Asking

namespace HomeGateway

open Device Engine Bridge

/-! ## The list of endpoints -/

/-- An endpoint as its caller sees it. -/
structure Shown where
  /-- its id -/
  id : String
  /-- its device type -/
  type : DeviceType
  /-- its attributes -/
  tree : Fields

/-- An endpoint in a list of endpoints. -/
def Shown.toJson (x : Shown) : Json :=
  Json.ofPairs [("id", .str x.id), ("deviceType", .str x.type.name), ("state", .obj x.tree)]

/-- The endpoints of a bridge, in the order of their making. -/
abbrev Roster := List Shown

namespace Roster

/-- The answer to a caller who asks for the endpoints. -/
def toJson (ros : Roster) : Json :=
  .arr (ros.map Shown.toJson)

/-- A new endpoint that can be made. -/
structure Welcomes (ros : Roster) (spec : Spec) : Prop where
  /-- its id is free -/
  free : ∀ x ∈ ros, x.id ≠ spec.id
  /-- its type is in the catalogue -/
  known : ∃ t ∈ DeviceType.all, t.name = spec.typeName
  /-- a thermostat was given something to heat or to cool to -/
  able : spec.typeName = DeviceType.thermostat.name →
    Thermostat.given spec.attributes "occupiedHeatingSetpoint" = true ∨
      Thermostat.given spec.attributes "occupiedCoolingSetpoint" = true

/-- Why a new endpoint cannot be made; the first reason counts. -/
def refusal (ros : Roster) (spec : Spec) : Failure :=
  if ros.any (·.id = spec.id) then .duplicateEndpoint spec.id
  else if DeviceType.all.all (·.name ≠ spec.typeName) then .unsupportedDeviceType spec.typeName
  else .thermostatConfiguration

end Roster

namespace Shown

/-- A new endpoint shows what its maker asked for. -/
structure Made (maxLabel : Nat) (spec : Spec) (x : Shown) : Prop where
  /-- its id -/
  id : x.id = spec.id
  /-- its type -/
  type : x.type.name = spec.typeName
  /-- the defaults with the caller's attributes, fitted to the type, and the labels -/
  tree : ∃ c, configure x.type spec.attributes (merge x.type.defaults spec.attributes) = .ok c ∧
    x.tree = c.tree.insert "bridgedDeviceBasicInformation"
      (.obj (spec.labels.truncate maxLabel).toFields)

/-- What an attribute holds after a value was written to it. -/
def kept (value : Json) : Option Json → Json
  | some old => if old.same value then old else value
  | none => value

/-- An endpoint after one of its attributes was written. -/
structure Written (cluster attr : String) (value : Json) (x y : Shown) : Prop where
  /-- its id -/
  id : y.id = x.id
  /-- its type -/
  type : y.type = x.type
  /-- the attribute -/
  leaf : leaf? y.tree cluster attr = some (kept value (leaf? x.tree cluster attr))
  /-- the other attributes -/
  leaves : ∀ c a, (c = cluster → a ≠ attr) → leaf? y.tree c a = leaf? x.tree c a
  /-- the other clusters -/
  clusters : ∀ c ≠ cluster, y.tree.get? c = x.tree.get? c
  /-- the tree itself -/
  tree : ∃ attrs, x.tree.get? cluster = some (.obj attrs) ∧
    (y.tree = x.tree ∨ y.tree = x.tree.insert cluster (.obj (Fields.insert attr value attrs)))

end Shown

namespace Ask

/-- What is asked is about the server node, not about the endpoints. -/
def Aside : Ask → Prop
  | start | pairing | openWindow | closeWindow => True
  | _ => False

end Ask

namespace Roster

/-- How a list of endpoints answers what is asked, and what becomes of it. -/
inductive Step (maxLabel : Nat) (ros : Roster) : Ask → Except Failure Json → Roster → Prop where
  /-- a new endpoint joins at the end -/
  | made {spec : Spec} {x : Shown} (welcome : ros.Welcomes spec) (new : x.Made maxLabel spec) :
    Step maxLabel ros (.make spec) (.ok .null) (ros ++ [x])
  /-- an endpoint that cannot be made -/
  | refused {spec : Spec} (unwelcome : ¬ ros.Welcomes spec) :
    Step maxLabel ros (.make spec) (.error (ros.refusal spec)) ros
  /-- an attribute of one endpoint is written -/
  | written {before after : Roster} {x y : Shown} {cluster attr : String} {value : Json}
    (place : ros = before ++ x :: after) (written : x.Written cluster attr value y) :
    Step maxLabel ros (.write x.id cluster attr value) (.ok .null) (before ++ y :: after)
  /-- an endpoint that has no such cluster -/
  | clusterless {x : Shown} {cluster attr : String} {value : Json} (listed : x ∈ ros)
    (missing : ∀ attrs, x.tree.get? cluster ≠ some (.obj attrs)) :
    Step maxLabel ros (.write x.id cluster attr value)
      (.error (.engine (.clusterNotFound cluster))) ros
  /-- an endpoint that is not there -/
  | unlisted {id cluster attr : String} {value : Json} (absent : ∀ x ∈ ros, x.id ≠ id) :
    Step maxLabel ros (.write id cluster attr value) (.ok .null) ros
  /-- all endpoints are gone -/
  | reset : Step maxLabel ros .reset (.ok .null) []
  /-- the endpoints are listed -/
  | list : Step maxLabel ros .list (.ok ros.toJson) ros
  /-- the endpoints are not concerned -/
  | aside {a : Ask} (result : Except Failure Json) (node : a.Aside) : Step maxLabel ros a result ros

/-- The answers to a course of requests, and the list of endpoints after it. -/
inductive Course (maxLabel : Nat) : Roster → List Request → List Response → Roster → Prop where
  /-- nothing was asked -/
  | done (ros : Roster) : Course maxLabel ros [] [] ros
  /-- a request that makes no sense -/
  | unread {ros ros' : Roster} {r : Request} {rs : List Request} {answers : List Response}
    {f : Failure} (unread : Ask.ofRequest r = .error f) (rest : Course maxLabel ros rs answers ros') :
    Course maxLabel ros (r :: rs) (reply r (.error f) :: answers) ros'
  /-- a request that asks for something -/
  | asked {ros next ros' : Roster} {r : Request} {rs : List Request} {answers : List Response}
    {a : Ask} {result : Except Failure Json} (read : Ask.ofRequest r = .ok a)
    (step : Step maxLabel ros a result next) (rest : Course maxLabel next rs answers ros') :
    Course maxLabel ros (r :: rs) (reply r result :: answers) ros'

/-- An error leaves the list as it is. -/
theorem Step.eq_of_error {maxLabel : Nat} {ros ros' : Roster} {a : Ask} {f : Failure}
    (h : Step maxLabel ros a (.error f) ros') : ros' = ros := by
  cases h <;> rfl

/-- So do several errors. -/
theorem Course.eq_of_refused {maxLabel : Nat} {ros ros' : Roster} {rs : List Request}
    {answers : List Response} (h : Course maxLabel ros rs answers ros')
    (refused : ∀ answer ∈ answers, answer.verdict = .error) : ros' = ros := by
  induction h with
  | done => rfl
  | unread _ _ ih => exact ih fun answer later => refused answer (List.mem_cons_of_mem _ later)
  | @asked _ _ _ r _ _ _ result _ step _ ih =>
    have rest := ih fun answer later => refused answer (List.mem_cons_of_mem _ later)
    cases result with
    | ok v => cases refused (reply r (.ok v)) List.mem_cons_self
    | error f => exact rest.trans step.eq_of_error

end Roster

/-! ## The list of a session -/

/-- The attributes that the engine keeps for an endpoint. -/
def treeAt (e : State) (handle : Nat) : Fields :=
  ((e.endpoints[handle]?).map (·.endpoint.state)).getD []

/-- What a member of a session shows. -/
def shownAt (e : State) (m : Member) : Shown :=
  ⟨m.id, m.type, treeAt e m.handle⟩

/-- What an initialised session shows. -/
def rosterOf (e : State) (l : Live) : Roster :=
  l.members.map (shownAt e)

/-- Nothing is asked of an endpoint but that the engine keeps it. -/
def Anyhow (_ : VirtualEndpoint) : Prop := True

variable {s : Bridge.Session} {e : State} {l : Live}

/-- A session did what was asked, as the list says, and agrees with the engine. -/
def Obeys (a : Ask) (s : Bridge.Session) (l : Live) (e : State) : Prop :=
  ∃ result s' l' e', a.perform (s, e) = (finished result, s', e') ∧
    s'.live = some l' ∧ s'.options = s.options ∧ s'.sink = s.sink ∧ Grounded Anyhow s' e' ∧
    Roster.Step s.options.maxLabel (rosterOf e l) a result (rosterOf e' l')

/-! ### Making an endpoint -/

theorem taken_iff (hb : l.Backed Anyhow e) (id : String) :
    l.taken id = true ↔ ∃ x ∈ rosterOf e l, x.id = id := by
  simp [Live.taken, hb.pending, member?_isSome, rosterOf, shownAt]

theorem configure_able {t : DeviceType} {overrides : Fields} (merged : Fields)
    (able : t = .thermostat → Thermostat.given overrides "occupiedHeatingSetpoint" = true ∨
      Thermostat.given overrides "occupiedCoolingSetpoint" = true) :
    ∃ c, configure t overrides merged = .ok c := by
  by_cases ht : t = .thermostat
  · subst ht
    rcases able rfl with given | given
    · simp only [configure, Thermostat.Mode.ofOverrides?, given]
      cases Thermostat.given overrides "occupiedCoolingSetpoint" <;> exact ⟨_, rfl⟩
    · simp only [configure, Thermostat.Mode.ofOverrides?, given]
      cases Thermostat.given overrides "occupiedHeatingSetpoint" <;> exact ⟨_, rfl⟩
  · obtain ⟨features, configured⟩ := configure_plain ht overrides merged
    exact ⟨_, configured⟩

theorem configure_unable {overrides : Fields} (merged : Fields)
    (heating : Thermostat.given overrides "occupiedHeatingSetpoint" = false)
    (cooling : Thermostat.given overrides "occupiedCoolingSetpoint" = false) :
    configure .thermostat overrides merged = .error .thermostatConfiguration := by
  simp only [configure, Thermostat.Mode.ofOverrides?, heating, cooling]

theorem Device.DeviceType.name_injective {t u : DeviceType} (h : t.name = u.name) : t = u := by
  have found := DeviceType.ofName?_name t
  rw [h, DeviceType.ofName?_name] at found
  exact (Option.some.inj found).symm

theorem ofName_name (t : DeviceType) : DeviceType.ofName t.name = .ok t := by
  unfold DeviceType.ofName
  rw [DeviceType.ofName?_name]

theorem definition_unknown {spec : Spec} (maxLabel : Nat)
    (unknown : ∀ t ∈ DeviceType.all, t.name ≠ spec.typeName) :
    spec.definition maxLabel = .error (.unsupportedDeviceType spec.typeName) := by
  have missing : DeviceType.ofName? spec.typeName = none := by
    rw [DeviceType.ofName?, List.find?_eq_none]
    simpa using unknown
  simp [Spec.definition, DeviceType.ofName, missing, bind, Except.bind]

theorem definition_known {spec : Spec} (maxLabel : Nat) {t : DeviceType}
    (ht : t.name = spec.typeName) :
    spec.definition maxLabel =
      (configure t spec.attributes (merge t.defaults spec.attributes)).map fun c =>
        ⟨spec.id, t, spec.labels.truncate maxLabel, c.tree, c.features⟩ := by
  unfold Spec.definition
  rw [← ht, ofName_name]
  simp only [bind, Except.bind]
  cases configure t spec.attributes (merge t.defaults spec.attributes) <;> rfl

/-- A new endpoint stands last, and the others are as they were. -/
theorem rosterOf_joined (hb : l.Backed Anyhow e) (d : Definition) (window sink : Nat) :
    rosterOf (l.grown d window sink e)
        { l with members := l.members ++ [⟨d.id, d.type, e.endpoints.length⟩] } =
      rosterOf e l ++ [⟨d.id, d.type, (Endpoint.ofDefinition d).state⟩] := by
  have others : ∀ m ∈ l.members, shownAt (l.grown d window sink e) m = shownAt e m := by
    intro m hm
    have hlt := (hb.members m hm).lt
    simp [shownAt, treeAt, Live.grown, List.getElem?_append_left hlt]
  have last : treeAt (l.grown d window sink e) e.endpoints.length = (Endpoint.ofDefinition d).state := by
    simp [treeAt, Live.grown, Bridged.endpoint, VirtualEndpoint.make]
  simp only [rosterOf, List.map_append, List.map_cons, List.map_nil]
  rw [List.map_congr_left others, shownAt, last]

theorem obeys_make_taken (hl : s.live = some l) (h : Grounded Anyhow s e) {spec : Spec}
    (taken : l.taken spec.id = true) : Obeys (.make spec) s l e := by
  obtain ⟨x, hx, hid⟩ := (taken_iff (h.backed l hl) spec.id).1 taken
  have why : (rosterOf e l).refusal spec = .duplicateEndpoint spec.id := by
    unfold Roster.refusal
    rw [if_pos (List.any_eq_true.2 ⟨x, hx, by simpa using hid⟩)]
  refine ⟨_, s, l, e, ?_, hl, rfl, rfl, h, .refused fun welcome => welcome.free x hx hid⟩
  rw [why]
  exact run_addEndpoint_taken hl taken e

/-- Why an endpoint with a free id cannot be made. -/
theorem obeys_make_refused (hl : s.live = some l) (h : Grounded Anyhow s e) {spec : Spec}
    (taken : l.taken spec.id = false) {f : Failure}
    (hd : spec.definition s.options.maxLabel = .error f)
    (why : (if DeviceType.all.all (·.name ≠ spec.typeName) then
      Failure.unsupportedDeviceType spec.typeName else .thermostatConfiguration) = f)
    (unwelcome : ¬ (rosterOf e l).Welcomes spec) : Obeys (.make spec) s l e := by
  have free : (rosterOf e l).any (·.id = spec.id) = false := by
    rw [List.any_eq_false]
    intro x hx hid
    have := (taken_iff (h.backed l hl) spec.id).2 ⟨x, hx, by simpa using hid⟩
    rw [taken] at this
    cases this
  refine ⟨_, s, l, e, ?_, hl, rfl, rfl, h, .refused unwelcome⟩
  have reason : (rosterOf e l).refusal spec = f := by
    unfold Roster.refusal
    rw [free, if_neg (by simp), why]
  rw [reason]
  exact run_addEndpoint_refused hl taken hd e

theorem obeys_make_made (hl : s.live = some l) (h : Grounded Anyhow s e) {spec : Spec}
    (taken : l.taken spec.id = false) {t : DeviceType} (ht : t.name = spec.typeName)
    {c : Configuration}
    (hc : configure t spec.attributes (merge t.defaults spec.attributes) = .ok c)
    (welcome : (rosterOf e l).Welcomes spec) : Obeys (.make spec) s l e := by
  have hd := definition_known s.options.maxLabel ht
  rw [hc] at hd
  have hb := h.backed l hl
  refine ⟨.ok .null, _, _, _, run_addEndpoint_made hl h taken hd, rfl, rfl, rfl,
    h.made hl taken hd trivial, ?_⟩
  rw [rosterOf_joined hb]
  exact .made welcome ⟨rfl, ht, c, hc, rfl⟩

theorem obeys_make (hl : s.live = some l) (h : Grounded Anyhow s e) (spec : Spec) :
    Obeys (.make spec) s l e := by
  cases taken : l.taken spec.id with
  | true => exact obeys_make_taken hl h taken
  | false =>
    have free : ∀ x ∈ rosterOf e l, x.id ≠ spec.id := by
      intro x hx hid
      rw [(taken_iff (h.backed l hl) spec.id).2 ⟨x, hx, hid⟩] at taken
      cases taken
    by_cases known : ∃ t ∈ DeviceType.all, t.name = spec.typeName
    · obtain ⟨t, hmem, ht⟩ := known
      have inCatalogue : DeviceType.all.all (·.name ≠ spec.typeName) = false := by
        simpa using ⟨t, hmem, ht⟩
      have thermostat : spec.typeName = DeviceType.thermostat.name ↔ t = .thermostat := by
        rw [← ht]
        exact ⟨fun same => DeviceType.name_injective same, congrArg _⟩
      by_cases able : t = .thermostat →
          Thermostat.given spec.attributes "occupiedHeatingSetpoint" = true ∨
            Thermostat.given spec.attributes "occupiedCoolingSetpoint" = true
      · obtain ⟨c, hc⟩ := configure_able (merge t.defaults spec.attributes) able
        exact obeys_make_made hl h taken ht hc
          ⟨free, ⟨t, hmem, ht⟩, fun same => able (thermostat.1 same)⟩
      · obtain ⟨rfl, unable⟩ := Classical.not_imp.1 able
        obtain ⟨heating, cooling⟩ := not_or.1 unable
        have hd := definition_known s.options.maxLabel ht
        rw [configure_unable _ (by simpa using heating) (by simpa using cooling)] at hd
        refine obeys_make_refused hl h taken hd (by rw [inCatalogue]; rfl) fun welcome => ?_
        exact unable (welcome.able ht.symm)
    · have unknown : ∀ t ∈ DeviceType.all, t.name ≠ spec.typeName := fun t hmem ht =>
        known ⟨t, hmem, ht⟩
      refine obeys_make_refused hl h taken (definition_unknown _ unknown) ?_ fun welcome =>
        known welcome.known
      rw [if_pos (by simpa using unknown)]

/-! ### Writing an attribute -/

theorem endpoint_write (now : Nat) (v : VirtualEndpoint) (cluster attr : String) (value : Json) :
    (v.write now cluster attr value).1 =
        (if v.endpoint.hasCluster cluster then .ok () else .error (.clusterNotFound cluster)) ∧
      (v.write now cluster attr value).2.after.endpoint =
        (v.endpoint.write cluster attr value).1 := by
  have started : (v.startWrite now cluster attr value).1.endpoint = v.endpoint := by
    unfold VirtualEndpoint.startWrite
    split <;> rfl
  unfold VirtualEndpoint.write VirtualEndpoint.finishWrite
  simp only [started, Endpoint.set_eq]
  by_cases hc : v.endpoint.hasCluster cluster = true
  · rw [if_pos hc, if_pos hc]
    exact ⟨rfl, rfl⟩
  · rw [if_neg hc, if_neg hc]
    have untouched := Endpoint.write_of_not_hasCluster hc attr value
    refine ⟨rfl, ?_⟩
    rw [untouched]
    simp only
    split <;> exact started

theorem state_write {ep : Endpoint} {cluster : String} {attrs : Fields}
    (hc : ep.state.get? cluster = some (.obj attrs)) (attr : String) (value : Json) :
    (ep.write cluster attr value).1.state =
      if ep.holds cluster attr value then ep.state
      else ep.state.insert cluster (.obj (Fields.insert attr value attrs)) := by
  rw [Endpoint.write_of_hasCluster hc]
  split <;> rfl

/-- What an endpoint shows after a write. -/
theorem written_write {ep : Endpoint} {cluster : String} {attrs : Fields}
    (hc : ep.state.get? cluster = some (.obj attrs)) (id : String) (type : DeviceType)
    (attr : String) (value : Json) :
    Shown.Written cluster attr value ⟨id, type, ep.state⟩
      ⟨id, type, (ep.write cluster attr value).1.state⟩ where
  id := rfl
  type := rfl
  leaf := by
    show (ep.write cluster attr value).1.get? cluster attr =
      some (Shown.kept value (ep.get? cluster attr))
    cases held : ep.holds cluster attr value with
    | true =>
      rw [Endpoint.write_same held]
      unfold Endpoint.holds at held
      split at held
      · rename_i old hold
        rw [hold, Shown.kept, if_pos held]
      · cases held
    | false =>
      rw [Endpoint.get?_write hc held]
      unfold Endpoint.holds at held
      split at held
      · rename_i old hold
        rw [hold, Shown.kept, held]
        rfl
      · rename_i hold
        rw [hold, Shown.kept]
  leaves := fun _ _ other => Endpoint.get?_write_of_ne value other
  clusters := by
    intro c hne
    show Fields.get? c (ep.write cluster attr value).1.state = ep.state.get? c
    rw [state_write hc]
    split
    · rfl
    · exact Fields.get?_insert_of_ne _ _ hne
  tree := by
    refine ⟨attrs, hc, ?_⟩
    show (ep.write cluster attr value).1.state = _ ∨ (ep.write cluster attr value).1.state = _
    rw [state_write hc]
    split
    · exact .inl rfl
    · exact .inr rfl

theorem treeAt_put {handle other : Nat} (b : Bridged) (told : Journal) (h : other ≠ handle) :
    treeAt (e.put handle b told) other = treeAt e other := by
  unfold treeAt State.put
  rw [List.getElem?_set_ne (Ne.symm h)]

/-- The members of a session around one of them, whose endpoint is no other's. -/
theorem rosterOf_split (hb : l.Backed Anyhow e) {m : Member} (hm : m ∈ l.members) :
    ∃ before after : Roster, rosterOf e l = before ++ shownAt e m :: after ∧
      ∀ (b : Bridged) (told : Journal), rosterOf (e.put m.handle b told) l =
        before ++ shownAt (e.put m.handle b told) m :: after := by
  obtain ⟨front, back, split⟩ := List.append_of_mem hm
  have apart := hb.handles
  rw [split, List.map_append, List.map_cons] at apart
  obtain ⟨-, later, earlier⟩ := List.nodup_append.1 apart
  have others : ∀ (b : Bridged) (told : Journal), ∀ m' ∈ front ++ back,
      shownAt (e.put m.handle b told) m' = shownAt e m' := by
    intro b told m' hm'
    have ne : m'.handle ≠ m.handle := by
      rcases List.mem_append.1 hm' with hm' | hm'
      · exact earlier _ (List.mem_map_of_mem hm') _ List.mem_cons_self
      · intro same
        exact (List.nodup_cons.1 later).1 (same ▸ List.mem_map_of_mem hm')
    unfold shownAt
    rw [treeAt_put b told ne]
  refine ⟨front.map (shownAt e), back.map (shownAt e), ?_, fun b told => ?_⟩
  · simp [rosterOf, split]
  · have hfront : front.map (shownAt (e.put m.handle b told)) = front.map (shownAt e) :=
      List.map_congr_left fun m' hm' => others b told m' (List.mem_append_left _ hm')
    have hback : back.map (shownAt (e.put m.handle b told)) = back.map (shownAt e) :=
      List.map_congr_left fun m' hm' => others b told m' (List.mem_append_right _ hm')
    simp [rosterOf, split, hfront, hback]

theorem obeys_write (hl : s.live = some l) (h : Grounded Anyhow s e) (id cluster attr : String)
    (value : Json) : Obeys (.write id cluster attr value) s l e := by
  cases hm : l.member? id with
  | none =>
    refine ⟨.ok .null, s, l, e, run_setState_unknown hl hm cluster attr value e, hl, rfl, rfl, h, ?_⟩
    refine .unlisted ?_
    have absent := List.find?_eq_none.1 hm
    simpa [rosterOf, shownAt] using absent
  | some m =>
    obtain ⟨hmem, rfl⟩ := member?_eq_some hm
    have hb := h.backed l hl
    obtain ⟨v, hv, -, hid, htype⟩ := hb.members m hmem
    have hlt := (List.getElem?_eq_some_iff.1 hv).1
    have run := run_setState_known hl h.free hm hv cluster attr value
    obtain ⟨outcome, after⟩ := endpoint_write e.now v cluster attr value
    generalize hv' : (v.write e.now cluster attr value).2.after = v' at run after
    generalize Bridged.journal (v.write e.now cluster attr value).2 = told at run
    have grounded : Grounded Anyhow s (e.put m.handle (.followed v') told) := by
      refine h.put hv trivial ?_ ?_ told
      · rw [after, Endpoint.id_write]
      · rw [after, Endpoint.type_write]
    obtain ⟨before, rest, shown, shown'⟩ := rosterOf_split hb hmem
    have old : shownAt e m = ⟨m.id, m.type, v.endpoint.state⟩ := by
      simp [shownAt, treeAt, hv, Bridged.endpoint]
    have new : shownAt (e.put m.handle (.followed v') told) m =
        ⟨m.id, m.type, (v.endpoint.write cluster attr value).1.state⟩ := by
      simp [shownAt, treeAt, State.put, hlt, Bridged.endpoint, after]
    rw [outcome] at run
    by_cases hc : v.endpoint.hasCluster cluster = true
    · rw [if_pos hc] at run
      obtain ⟨attrs, hattrs⟩ := Endpoint.hasCluster_iff.1 hc
      refine ⟨.ok .null, s, l, _, run, hl, rfl, rfl, grounded, ?_⟩
      rw [shown' _ told, new]
      rw [old] at shown
      exact .written shown (written_write hattrs m.id m.type attr value)
    · rw [if_neg hc] at run
      have untouched := Endpoint.write_of_not_hasCluster hc attr value
      refine ⟨.error _, s, l, _, run, hl, rfl, rfl, grounded, ?_⟩
      rw [shown' _ told, new, untouched, ← old, ← shown]
      refine .clusterless (x := shownAt e m) (List.mem_map_of_mem hmem) fun attrs hattrs => ?_
      rw [old] at hattrs
      exact hc (Endpoint.hasCluster_iff.2 ⟨attrs, hattrs⟩)

/-! ### The other requests -/

theorem obeys_reset (hl : s.live = some l) (h : Grounded Anyhow s e) : Obeys .reset s l e := by
  have run := run_reset hl h.free.faults (h.backed l hl)
  have performed : Ask.reset.perform (s, e) =
      (.ok (.done .null), s.ended.begun (l.closed e), s.ended.opened (l.closed e)) := by
    simp only [Ask.perform, Use.run_bind, run, Use.run_pure]
  exact ⟨.ok .null, _, _, _, performed, rfl, rfl, rfl, Grounded.init (h.close l).free s.ended, .reset⟩

theorem run_listEndpoints (hl : s.live = some l) (e : State) :
    listEndpoints (s, e) = (.ok (rosterOf e l).toJson, s, e) := by
  simp only [listEndpoints, Use.run_bind, run_theLive hl, Use.run_act, Act.run_get, Use.run_pure,
    Roster.toJson, rosterOf, List.map_map]
  rfl

theorem perform_list (hl : s.live = some l) (e : State) :
    Ask.list.perform (s, e) = (finished (.ok (rosterOf e l).toJson), s, e) := by
  simp only [Ask.perform, Use.run_bind, run_listEndpoints hl, Use.run_pure]
  rfl

theorem obeys_list (hl : s.live = some l) (h : Grounded Anyhow s e) : Obeys .list s l e :=
  ⟨_, s, l, e, perform_list hl e, hl, rfl, rfl, h, .list⟩

/-- Server nodes that changed but stay with their aggregators. -/
def SameAggregators (old new : List Server) : Prop :=
  ∀ (k : Nat) (sv : Server), old[k]? = some sv →
    ∃ sv' : Server, new[k]? = some sv' ∧ sv'.aggregator = sv.aggregator

/-- An action leaves everything but server nodes as it is, and these with their aggregators. -/
def Tends {α : Type} (x : Act α) (e : State) : Prop :=
  ∃ (r : Except Failure α) (servers : List Server),
    x e = (r.mapError .failed, { e with servers := servers }) ∧ SameAggregators e.servers servers

theorem tends_still {α : Type} {x : Act α} (r : Except Failure α)
    (h : x e = (r.mapError .failed, e)) : Tends x e :=
  ⟨r, e.servers, h, fun _ sv hsv => ⟨sv, hsv, rfl⟩⟩

theorem tends_modify {x : Act Unit} {k : Nat} {f : Server → Server}
    (h : x e = (.ok (), e.changeServer k f)) (hf : ∀ sv, (f sv).aggregator = sv.aggregator) :
    Tends x e := by
  refine ⟨.ok (), e.servers.modify k f, h, fun j sv hsv => ?_⟩
  rw [List.getElem?_modify, hsv]
  refine ⟨if k = j then f sv else sv, rfl, ?_⟩
  split
  · exact hf sv
  · rfl

theorem tends_startServer (hf : e.faults = []) {k : Nat} {sv : Server}
    (hsv : e.servers[k]? = some sv) : Tends (startServer k) e := by
  by_cases closed : sv.closed = true
  · refine tends_still (.error (.engine (.invalidState "Server node closed"))) ?_
    simp [startServer, hf, run_theServer hsv, closed, Except.mapError]
  · refine tends_modify (k := k)
      (f := fun sv' => { sv' with online := true, windowOpen := !e.commissioned sv }) ?_ fun _ => rfl
    simp [startServer, hf, run_theServer hsv, closed]

theorem tends_openWindow {k : Nat} {sv : Server} (hsv : e.servers[k]? = some sv) :
    Tends (openWindow k) e := by
  by_cases online : sv.online = true
  · refine tends_modify (k := k) (f := fun sv' => { sv' with windowOpen := true }) ?_ fun _ => rfl
    simp [openWindow, run_theServer hsv, online]
  · refine tends_still (.error (.engine (.invalidState "Server node is not online"))) ?_
    simp [openWindow, run_theServer hsv, online, Except.mapError]

theorem tends_closeWindow (k : Nat) : Tends (closeWindow k) e :=
  tends_modify (k := k) (f := fun sv => { sv with windowOpen := false }) rfl fun _ => rfl

theorem Bridge.Grounded.tended {Fit : VirtualEndpoint → Prop} (h : Grounded Fit s e)
    {servers : List Server} (kept : SameAggregators e.servers servers) :
    Grounded Fit s { e with servers := servers } where
  free := ⟨h.free.writes, h.free.adds, h.free.faults⟩
  backed := by
    intro l hl
    have hb := h.backed l hl
    obtain ⟨sv, hsv, hagg⟩ := hb.server
    obtain ⟨sv', hsv', same⟩ := kept _ _ hsv
    exact ⟨⟨sv', hsv', same.trans hagg⟩, hb.aggregator, hb.members, hb.handles, hb.ids, hb.pending⟩

/-- How a caller is told whether its server node can be paired. -/
def pairingOf (c : CommissioningState) : Json :=
  Json.ofPairs
    [ ("pairingCodes", if c.commissioned then .null else c.codes.toJson),
      ("commissioningWindowOpen", .bool c.windowOpen) ]

theorem run_commissioningState (hl : s.live = some l) {sv : Server}
    (hsv : e.servers[l.server]? = some sv) :
    commissioningState (s, e) = (.ok (pairingOf (e.commissioning sv)), s, e) := by
  simp only [commissioningState, Use.run_bind, run_theLive hl, Use.run_act, run_theServer hsv,
    Act.run_get, Use.run_pure]
  rfl

/-- What is asked of the server node does not concern the endpoints. -/
theorem obeys_tends (hl : s.live = some l) (h : Grounded Anyhow s e) {a : Ask} (node : a.Aside)
    {x : Act Unit} (tends : Tends x e)
    (performed : ∀ r e', x e = (r, e') → a.perform (s, e) = (r.map fun _ => .done .null, s, e')) :
    Obeys a s l e := by
  obtain ⟨r, servers, run, kept⟩ := tends
  refine ⟨r.map fun _ => .null, s, l, _, ?_, hl, rfl, rfl, h.tended kept, .aside _ node⟩
  rw [performed _ _ run]
  cases r <;> rfl

theorem obeys_aside (hl : s.live = some l) (h : Grounded Anyhow s e) {a : Ask} (node : a.Aside) :
    Obeys a s l e := by
  obtain ⟨sv, hsv, -⟩ := (h.backed l hl).server
  cases a with
  | start =>
    refine obeys_tends hl h node (tends_startServer h.free.faults hsv) fun r e' run => ?_
    simp only [Ask.perform, Bridge.start, Use.run_bind, run_theLive hl, Use.run_act, run]
    cases r <;> rfl
  | pairing =>
    have performed := run_commissioningState hl hsv
    refine ⟨.ok (pairingOf (e.commissioning sv)), s, l, e, ?_, hl, rfl, rfl, h, .aside _ node⟩
    simp only [Ask.perform, Use.run_bind, performed, Use.run_pure]
    rfl
  | openWindow =>
    refine obeys_tends hl h node (tends_openWindow hsv) fun r e' run => ?_
    simp only [Ask.perform, openCommissioningWindow, Use.run_bind, run_theLive hl, Use.run_act, run]
    cases r <;> rfl
  | closeWindow =>
    refine obeys_tends hl h node (tends_closeWindow l.server) fun r e' run => ?_
    simp only [Ask.perform, closeCommissioningWindow, Use.run_bind, run_theLive hl, Use.run_act, run]
    cases r <;> rfl
  | make | write | reset | list => exact node.elim

/-! ## Courses of requests -/

/-- A session does what the list says. -/
theorem step_perform (hl : s.live = some l) (h : Grounded Anyhow s e) (a : Ask) :
    Obeys a s l e := by
  cases a with
  | make spec => exact obeys_make hl h spec
  | write id cluster attr value => exact obeys_write hl h id cluster attr value
  | reset => exact obeys_reset hl h
  | list => exact obeys_list hl h
  | start | pairing | openWindow | closeWindow => exact obeys_aside hl h trivial

namespace Gateway

variable {n : Nat} {options : BridgeOptions} {g : Gateway}

/-- Handle requests one after the other. -/
def handleAll (n : Nat) : Gateway → List Request → List (Option Response) × Gateway
  | g, [] => ([], g)
  | g, r :: rs =>
    let (answer, g) := g.handle n r
    let (answers, g) := handleAll n g rs
    (answer :: answers, g)

theorem handleAll_spec (h : Seated Anyhow n options s l g) (rs : List Request) :
    ∃ answers s' l', (g.handleAll n rs).1 = answers.map some ∧
      Seated Anyhow n options s' l' (g.handleAll n rs).2 ∧
      Roster.Course options.maxLabel (rosterOf g.engine l) rs answers
        (rosterOf (g.handleAll n rs).2.engine l') := by
  induction rs generalizing g s l with
  | nil => exact ⟨[], s, l, rfl, h, .done _⟩
  | cons r rs ih =>
    cases hr : Ask.ofRequest r with
    | error f =>
      obtain ⟨answers, s', l', agree, seated, course⟩ := ih h
      have handled := handle_unread h.session hr
      refine ⟨reply r (.error f) :: answers, s', l', ?_, ?_, ?_⟩
      · simp only [handleAll, handled, agree, List.map_cons]
      · simpa only [handleAll, handled] using seated
      · simpa only [handleAll, handled] using .unread hr course
    | ok a =>
      obtain ⟨result, s₁, l₁, e₁, run, live, same, sink, grounded, step⟩ :=
        step_perform h.live h.grounded a
      have handled := handle_finished h.session hr run
      obtain ⟨answers, s', l', agree, seated, course⟩ := ih (h.acted live same sink grounded)
      rw [h.options] at step
      refine ⟨reply r result :: answers, s', l', ?_, ?_, ?_⟩
      · simp only [handleAll, handled, agree, List.map_cons]
      · simpa only [handleAll, handled] using seated
      · simpa only [handleAll, handled] using .asked hr step course

/-- A caller who asks for the endpoints is shown the list. -/
theorem handle_list (h : Seated Anyhow n options s l g) (id : String) :
    (g.handle n ⟨id, "bridge", "listEndpoints", []⟩).1 =
      some (.ok id (rosterOf g.engine l).toJson) := by
  have read : Ask.ofRequest ⟨id, "bridge", "listEndpoints", []⟩ = .ok .list := rfl
  rw [handle_finished h.session read (perform_list h.live _)]
  rfl

/-- Requests that are all refused change nothing that a caller can be shown, whatever was asked
    before. -/
theorem handleAll_refused (g : Gateway) (free : g.engine.Free) (p : Params) (options : BridgeOptions)
    (rs rs' : List Request) (id : String) :
    let before := ((g.openBridge p options).2.handleAll g.sessions.length rs).2
    let after := before.handleAll g.sessions.length rs'
    (∀ answer : Response, some answer ∈ after.1 → answer.verdict = .error) →
      (after.2.handle g.sessions.length ⟨id, "bridge", "listEndpoints", []⟩).1 =
        (before.handle g.sessions.length ⟨id, "bridge", "listEndpoints", []⟩).1 := by
  obtain ⟨-, s, l, seated, -⟩ := openBridge_seated Anyhow free p options
  obtain ⟨-, s, l, -, seated, -⟩ := handleAll_spec seated rs
  obtain ⟨answers, s', l', agree, seated', course⟩ := handleAll_spec seated rs'
  intro before after refused
  have same := course.eq_of_refused fun answer given => refused answer <| by
    rw [agree]
    exact List.mem_map_of_mem given
  rw [handle_list seated', handle_list seated, same]

/-- **A bridge is a list of endpoints.**  Whatever is asked of an initialised
    session, request by request, is answered as the list of its endpoints
    answers it, and this list is what the session shows afterwards. -/
theorem handleAll_course (g : Gateway) (free : g.engine.Free) (p : Params) (options : BridgeOptions)
    (rs : List Request) :
    (g.openBridge p options).1 = .ok () ∧
      ∃ answers ros, Roster.Course options.maxLabel [] rs answers ros ∧
        ((g.openBridge p options).2.handleAll g.sessions.length rs).1 = answers.map some ∧
        ∀ id, (((g.openBridge p options).2.handleAll g.sessions.length rs).2.handle g.sessions.length
          ⟨id, "bridge", "listEndpoints", []⟩).1 = some (.ok id ros.toJson) := by
  obtain ⟨done, s, l, seated, none⟩ := openBridge_seated Anyhow free p options
  obtain ⟨answers, s', l', agree, seated', course⟩ := handleAll_spec seated rs
  rw [rosterOf, none] at course
  exact ⟨done, answers, _, course, agree, handle_list seated'⟩

/-- A door that is made twice, locked, and listed; then the caller begins anew. -/
def hallRequests : List Request :=
  [ ⟨"1", "bridge", "addEndpoint", [.str "DoorLockDevice", .str "door"]⟩,
    ⟨"2", "bridge", "addEndpoint", [.str "DoorLockDevice", .str "door"]⟩,
    ⟨"3", "bridge", "setEndpointState", [.str "door", .str "doorLock", .str "lockState", .int 1]⟩,
    ⟨"4", "bridge", "setEndpointState", [.str "door", .str "onOff", .str "onOff", .bool true]⟩,
    ⟨"5", "bridge", "resetBridge", []⟩ ]

theorem handleAll_course_hall :
    (initial.openBridge hall ⟨100, 32⟩).1 = .ok () ∧
      (∃ answers ros, Roster.Course 32 [] hallRequests answers ros ∧
        ((initial.openBridge hall ⟨100, 32⟩).2.handleAll 0 hallRequests).1 = answers.map some ∧
        ∀ id, (((initial.openBridge hall ⟨100, 32⟩).2.handleAll 0 hallRequests).2.handle 0
          ⟨id, "bridge", "listEndpoints", []⟩).1 = some (.ok id ros.toJson)) ∧
      ((initial.openBridge hall ⟨100, 32⟩).2.handleAll 0 hallRequests).1.map
        (fun answer => answer.map (·.verdict)) =
          [some .success, some .error, some .success, some .error, some .success] := by
  have free : initial.engine.Free := ⟨rfl, rfl, rfl⟩
  have first : initial.sessions.length = 0 := rfl
  obtain ⟨done, course⟩ := handleAll_course initial free hall ⟨100, 32⟩ hallRequests
  rw [first] at course
  exact ⟨done, course, by decide +kernel⟩

/-- A sensor that measured zero, and a caller who writes the other zero. -/
def zeroRequests : List Request :=
  [ ⟨"1", "bridge", "addEndpoint",
      [ .str "TemperatureSensor", .str "t", .null, .null, .null, .null,
        .obj [("temperatureMeasurement", .obj [("measuredValue", .float ⟨0⟩)])] ]⟩ ]

/-- A write need not leave the written value: an equal one stays as it is spelt. -/
theorem not_written_exactly :
    ¬ ∀ (rs : List Request) (r : Request) (id cluster attr : String) (value : Json),
        Ask.ofRequest r = .ok (.write id cluster attr value) →
        ((((initial.openBridge hall ⟨100, 32⟩).2.handleAll 0 rs).2.endpointOf? 0 id).any
          (·.hasCluster cluster)) = true →
        ((((initial.openBridge hall ⟨100, 32⟩).2.handleAll 0 rs).2.handle 0 r).2.endpointOf? 0
          id).bind (·.get? cluster attr) = some value := by
  intro always
  have written := always zeroRequests
    ⟨"2", "bridge", "setEndpointState",
      [.str "t", .str "temperatureMeasurement", .str "measuredValue", .float ⟨0x8000000000000000⟩]⟩
    "t" "temperatureMeasurement" "measuredValue" (.float ⟨0x8000000000000000⟩) rfl
    (by decide +kernel)
  have kept : (((((initial.openBridge hall ⟨100, 32⟩).2.handleAll 0 zeroRequests).2.handle 0
      ⟨"2", "bridge", "setEndpointState",
        [.str "t", .str "temperatureMeasurement", .str "measuredValue",
          .float ⟨0x8000000000000000⟩]⟩).2.endpointOf? 0
      "t").bind (·.get? "temperatureMeasurement" "measuredValue")).map
        Json.chars = some ['0', '.', '0'] := by
    decide +kernel
  rw [written] at kept
  revert kept
  decide +kernel

end Gateway

end HomeGateway
