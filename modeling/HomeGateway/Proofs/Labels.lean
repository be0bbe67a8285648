/-
  How long the labels of an endpoint are.

  The labels that a caller gives a new endpoint are cut to a length, and no
  attribute of another cluster touches them.  But the cluster of the labels is
  written like any other, and there a text is not cut: the one way to a label
  that is too long, or no text at all, is that the caller writes it.

  * `Shown.Labelled`: where each label of an endpoint comes from;
  * `labelled_step`, `labelled_course`: nothing that is asked brings in another;
  * `Gateway.labelled_handleAll`: the labels that the engine holds.
-/
import HomeGateway.Proofs.Roster

namespace HomeGateway

open Device Engine Bridge

/-- The attributes that hold labels. -/
def Engine.Labels.names : List String :=
  ["nodeLabel", "productName", "productLabel", "serialNumber"]

/-- A text of at most so many characters. -/
def Json.IsLabel (maxLabel : Nat) (v : Json) : Prop :=
  ∃ s, v = .str s ∧ s.length ≤ maxLabel

/-- One of the requests writes a value to a label. -/
def Relabels (rs : List Request) (id name : String) (v : Json) : Prop :=
  ∃ r ∈ rs, Ask.ofRequest r = .ok (.write id Labels.clusterName name v)

/-- Every label is short enough, or one of the requests wrote it. -/
def Shown.Labelled (maxLabel : Nat) (rs : List Request) (x : Shown) : Prop :=
  ∀ name ∈ Labels.names, ∃ v, leaf? x.tree Labels.clusterName name = some v ∧
    (v.IsLabel maxLabel ∨ Relabels rs x.id name v)

variable {maxLabel : Nat} {rs : List Request} {x y : Shown} {ros ros' : Roster}

/-- The labels of a definition are its own, cut to a length. -/
theorem isLabel_truncate (maxLabel : Nat) (l : Labels) :
    ∀ name ∈ Labels.names, ∃ v, Fields.get? name (l.truncate maxLabel).toFields = some v ∧
      v.IsLabel maxLabel := by
  have short (s : String) : (Json.str (Labels.cut maxLabel s)).IsLabel maxLabel :=
    ⟨_, rfl, Labels.length_cut maxLabel s⟩
  intro name hname
  simp only [Labels.names, List.mem_cons, List.not_mem_nil, or_false] at hname
  simp only [Labels.toFields, Labels.truncate, Fields.ofList, List.foldl_cons, List.foldl_nil]
  rcases hname with rfl | rfl | rfl | rfl
  · exact ⟨_, by simp [Fields.get?_insert_self, Fields.get?_insert_of_ne], short l.node⟩
  · exact ⟨_, by simp [Fields.get?_insert_self, Fields.get?_insert_of_ne], short l.product⟩
  · exact ⟨_, by simp [Fields.get?_insert_self, Fields.get?_insert_of_ne], short l.productLabel⟩
  · exact ⟨_, by simp [Fields.get?_insert_self, Fields.get?_insert_of_ne], short l.serial⟩

theorem Shown.Made.labelled {spec : Spec} (made : x.Made maxLabel spec) (rs : List Request) :
    x.Labelled maxLabel rs := by
  intro name hname
  obtain ⟨c, -, tree⟩ := made.tree
  obtain ⟨v, found, short⟩ := isLabel_truncate maxLabel spec.labels name hname
  have cluster : x.tree.get? Labels.clusterName =
      some (.obj (spec.labels.truncate maxLabel).toFields) := by
    rw [tree]
    exact Fields.get?_insert_self _ _ _
  exact ⟨v, by rw [leaf?, cluster]; exact found, .inl short⟩

/-- After a write each label is what it was, or what was written. -/
theorem Shown.Written.labelled {cluster attr : String} {value : Json} {r : Request}
    (written : x.Written cluster attr value y) (labelled : x.Labelled maxLabel rs) (hr : r ∈ rs)
    (asked : Ask.ofRequest r = .ok (.write x.id cluster attr value)) :
    y.Labelled maxLabel rs := by
  intro name hname
  obtain ⟨old, found, from_⟩ := labelled name hname
  rw [written.id]
  by_cases here : cluster = Labels.clusterName ∧ attr = name
  · obtain ⟨rfl, rfl⟩ := here
    have leaf := written.leaf
    rw [found, Shown.kept] at leaf
    split at leaf
    · exact ⟨old, leaf, from_⟩
    · exact ⟨value, leaf, .inr ⟨r, hr, asked⟩⟩
  · refine ⟨old, ?_, from_⟩
    rw [written.leaves _ _ fun same own => here ⟨same.symm, own.symm⟩]
    exact found

/-- All endpoints of a list have their labels from somewhere. -/
def Roster.Labelled (maxLabel : Nat) (rs : List Request) (ros : Roster) : Prop :=
  ∀ x ∈ ros, x.Labelled maxLabel rs

namespace Roster

theorem labelled_step {a : Ask} {result : Except Failure Json} {r : Request}
    (step : Step maxLabel ros a result ros') (hr : r ∈ rs) (asked : Ask.ofRequest r = .ok a)
    (h : ros.Labelled maxLabel rs) : ros'.Labelled maxLabel rs := by
  cases step with
  | made welcome new =>
    exact List.forall_mem_append.2 ⟨h, List.forall_mem_singleton.2 (new.labelled rs)⟩
  | written place written =>
    subst place
    obtain ⟨before, own, after⟩ := (List.forall_mem_append.1 h).imp_right List.forall_mem_cons.1
    exact List.forall_mem_append.2
      ⟨before, List.forall_mem_cons.2 ⟨written.labelled own hr asked, after⟩⟩
  | reset => exact List.forall_mem_nil _
  | refused | clusterless | unlisted | list | aside => exact h

theorem labelled_course {answers : List Response} {all : List Request}
    (course : Course maxLabel ros rs answers ros') (among : ∀ r ∈ rs, r ∈ all)
    (h : ros.Labelled maxLabel all) : ros'.Labelled maxLabel all := by
  induction course with
  | done => exact h
  | unread _ _ ih => exact ih (List.forall_mem_cons.1 among).2 h
  | asked read step _ ih =>
    obtain ⟨first, later⟩ := List.forall_mem_cons.1 among
    exact ih later (labelled_step step first read h)

end Roster

namespace Gateway

/-- Whatever is asked of an initialised session, every label that the engine holds for one of its
    endpoints is a text within the limit, or the caller wrote it. -/
theorem labelled_handleAll (g : Gateway) (free : g.engine.Free) (p : Params)
    (options : BridgeOptions) (rs : List Request) (id : String) (e : Endpoint)
    (held : ((g.openBridge p options).2.handleAll g.sessions.length rs).2.endpointOf?
      g.sessions.length id = some e) :
    ∀ name ∈ Labels.names, ∃ v, e.get? Labels.clusterName name = some v ∧
      (v.IsLabel options.maxLabel ∨ Relabels rs id name v) := by
  obtain ⟨-, s, l, seated, none⟩ := openBridge_seated Anyhow free p options
  obtain ⟨answers, s', l', -, seated', course⟩ := handleAll_spec seated rs
  rw [rosterOf, none] at course
  have labelled := Roster.labelled_course course (fun _ asked => asked) (List.forall_mem_nil _)
  rw [endpointOf?, handleOf?_eq seated'] at held
  obtain ⟨handle, place, there⟩ := Option.bind_eq_some_iff.1 held
  obtain ⟨m, member, rfl⟩ := Option.map_eq_some_iff.1 place
  obtain ⟨listed, rfl⟩ := member?_eq_some member
  have own := labelled _ (List.mem_map_of_mem listed)
  have tree : treeAt ((g.openBridge p options).2.handleAll g.sessions.length rs).2.engine m.handle =
      e.state := by
    obtain ⟨b, kept, rfl⟩ := Option.map_eq_some_iff.1 there
    rw [treeAt, kept]
    rfl
  intro name hname
  have label := own name hname
  simp only [shownAt, tree] at label
  exact label

/-- A sensor with a name of seven letters, in a bridge that keeps four; then another serial
    number. -/
def labelRequests : List Request :=
  [ ⟨"1", "bridge", "addEndpoint", [.str "ContactSensor", .str "door", .str "hallway"]⟩,
    ⟨"2", "bridge", "setEndpointState",
      [.str "door", .str Labels.clusterName, .str "serialNumber", .str "12345"]⟩ ]

/-- The name is cut, the serial number is not. -/
theorem labelled_handleAll_door :
    ∃ e, ((initial.openBridge hall ⟨100, 4⟩).2.handleAll 0 labelRequests).2.endpointOf? 0 "door" =
        some e ∧
      (∀ name ∈ Labels.names, ∃ v, e.get? Labels.clusterName name = some v ∧
        (v.IsLabel 4 ∨ Relabels labelRequests "door" name v)) ∧
      (e.get? Labels.clusterName "nodeLabel" >>= Json.text?) = some "hall" ∧
      (e.get? Labels.clusterName "serialNumber" >>= Json.text?) = some "12345" := by
  have free : initial.engine.Free := ⟨rfl, rfl, rfl⟩
  have there : (((initial.openBridge hall ⟨100, 4⟩).2.handleAll 0 labelRequests).2.endpointOf? 0
      "door").isSome := by decide +kernel
  have labels : ((((initial.openBridge hall ⟨100, 4⟩).2.handleAll 0 labelRequests).2.endpointOf? 0
      "door").map fun e => (e.get? Labels.clusterName "nodeLabel" >>= Json.text?,
        e.get? Labels.clusterName "serialNumber" >>= Json.text?)) =
      some (some "hall", some "12345") := by decide +kernel
  obtain ⟨e, held⟩ := Option.isSome_iff_exists.1 there
  rw [held] at labels
  obtain ⟨node, serial⟩ := Prod.mk.injEq .. ▸ Option.some.inj labels
  exact ⟨e, held, labelled_handleAll initial free hall ⟨100, 4⟩ labelRequests "door" e held, node,
    serial⟩

/-- A caller's write leaves a label that is too long. -/
theorem labelled_overlong :
    ¬∀ (rs : List Request) (id : String) (e : Endpoint),
        ((initial.openBridge hall ⟨100, 4⟩).2.handleAll 0 rs).2.endpointOf? 0 id = some e →
        ∀ name ∈ Labels.names, ∃ v, e.get? Labels.clusterName name = some v ∧ v.IsLabel 4 := by
  intro always
  have long : (((((initial.openBridge hall ⟨100, 4⟩).2.handleAll 0 labelRequests).2.endpointOf? 0
      "door").bind (·.get? Labels.clusterName "serialNumber")) >>= Json.text?).map String.length =
      some 5 := by decide +kernel
  cases held : ((initial.openBridge hall ⟨100, 4⟩).2.handleAll 0 labelRequests).2.endpointOf? 0
      "door" with
  | none =>
    rw [held] at long
    cases long
  | some e =>
    obtain ⟨v, found, s, rfl, short⟩ :=
      always labelRequests "door" e held "serialNumber" (by decide)
    rw [held, Option.bind_some, found] at long
    have five : s.length = 5 := Option.some.inj long
    omega

end Gateway

end HomeGateway
