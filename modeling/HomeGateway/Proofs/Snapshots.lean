/-
  What a snapshot shows.

  A position in a tree is the row of numbers that leads from the root down, each
  the place of a child among its siblings.  The snapshot of a node has an object
  at exactly the positions of its endpoints, and there the number of the
  endpoint and a table of its clusters.  The object of a cluster is the id and
  the name of the cluster with the values of its attributes laid over them, so
  an attribute of one of these two names takes its place.

  * `Portrays`, `Tabulates`, `Mirrors`: a cluster, the clusters of an endpoint
    and a node, as a snapshot has them;
  * `depicted`, `refused`: the walk over the tree, or its failure;
  * `snapshot_mirrors`: the snapshot of any node;
  * `snapshot_labels`: what the labels of a cluster are.
-/
import Mathlib.Data.List.Forall2
import HomeGateway.Client.Snapshot
import HomeGateway.Proofs.Arrangements

namespace HomeGateway

/-! ## Fields from pairs -/

/-- The last of those that are such. -/
theorem exists_last {α : Type} {p : α → Prop} {xs : List α} (h : ∃ x ∈ xs, p x) :
    ∃ front x back, xs = front ++ x :: back ∧ p x ∧ ∀ y ∈ back, ¬p y := by
  induction xs with
  | nil => simp at h
  | cons x xs ih =>
    by_cases later : ∃ y ∈ xs, p y
    · obtain ⟨front, y, back, rfl, hy, rest⟩ := ih later
      exact ⟨x :: front, y, back, rfl, hy, rest⟩
    · have own : p x := by
        obtain ⟨y, hy, hp⟩ := h
        rcases List.mem_cons.1 hy with rfl | hy
        · exact hp
        · exact absurd ⟨y, hy, hp⟩ later
      exact ⟨[], x, xs, rfl, own, fun y hy hp => later ⟨y, hy, hp⟩⟩

theorem rel_getElem? {α β : Type} {R : α → β → Prop} {xs : List α} {ys : List β}
    (h : List.Forall₂ R xs ys) (i : Nat) : Option.Rel R xs[i]? ys[i]? := by
  induction h generalizing i with
  | nil => exact .none
  | cons first _ ih =>
    cases i with
    | zero => exact .some first
    | succ i => exact ih i

namespace Fields

variable {earlier later : Fields} {name : String} {v : Json}

theorem get?_ofList_append (absent : ∀ p ∈ later, p.1 ≠ name) :
    (ofList (earlier ++ later)).get? name = (ofList earlier).get? name := by
  unfold ofList
  rw [List.foldl_append]
  generalize earlier.foldl _ [] = fs
  induction later generalizing fs with
  | nil => rfl
  | cons p later ih =>
    simp only [List.forall_mem_cons] at absent
    rw [List.foldl_cons, ih absent.2, get?_insert_of_ne _ _ (Ne.symm absent.1)]

/-- Of several pairs with one name the last counts. -/
theorem get?_ofList_last (earlier : Fields) (absent : ∀ p ∈ later, p.1 ≠ name) :
    (ofList (earlier ++ (name, v) :: later)).get? name = some v := by
  have inserted : ofList (earlier ++ [(name, v)]) = (ofList earlier).insert name v := by
    simp [ofList]
  rw [List.append_cons, get?_ofList_append absent, inserted, get?_insert_self]

theorem get?_ofList_agreed (there : ∃ p ∈ later, p.1 = name)
    (agreed : ∀ p ∈ later, p.1 = name → p.2 = v) :
    (ofList (earlier ++ later)).get? name = some v := by
  obtain ⟨front, ⟨k, w⟩, back, rfl, own, absent⟩ := exists_last there
  obtain rfl : w = v := agreed (k, w) (by simp) own
  obtain rfl : k = name := own
  rw [← List.append_assoc, get?_ofList_last _ absent]

theorem has_ofList {pairs : Fields} : (ofList pairs).has name = true ↔ ∃ p ∈ pairs, p.1 = name := by
  constructor
  · intro h
    obtain ⟨v, hv⟩ := Option.isSome_iff_exists.1 h
    exact ⟨_, mem_ofList (mem_of_get? hv), rfl⟩
  · intro h
    obtain ⟨front, ⟨k, v⟩, back, rfl, own, absent⟩ := exists_last h
    obtain rfl : k = name := own
    rw [has, get?_ofList_last _ absent, Option.isSome_some]

end Fields

namespace Engine

/-! ## Clusters -/

/-- What can be read of a cluster's attributes, in the order of their declaration. -/
def Node.valuesOf (n : Node) (c : Cluster) : Fields :=
  c.attributes.filterMap fun p => (n.readAttribute c p.1).toOption.join.map (p.1, ·)

/-- Whatever a cluster declares can be read. -/
def Node.CanRead (n : Node) (c : Cluster) : Prop :=
  n.connected = true ∨ c.attributes = []

/-- The object of a cluster: its id and its name, and over them the attributes that have a
    value. -/
structure Node.Portrays (n : Node) (c : Cluster) (fs : Fields) : Prop where
  overlaid : fs = Fields.ofList ([("id", .ofNat c.id), ("name", .str c.name)] ++ n.valuesOf c)
  /-- an attribute that has a value is there under its own name -/
  reads : ∀ attr v, n.readAttribute c attr = .ok (some v) → fs.get? attr = some v
  /-- nothing else is there -/
  others : ∀ key, (∀ v, n.readAttribute c key ≠ .ok (some v)) →
    fs.get? key = Fields.get? key [("id", .ofNat c.id), ("name", .str c.name)]

variable {n : Node} {c : Cluster}

theorem readAttribute_live (live : n.connected = true) (attr : String) :
    n.readAttribute c attr = (c.read? attr).elim (.error (.attributeNotFound attr)) .ok := by
  cases found : c.read? attr <;>
    simp [Node.readAttribute, Node.ensureConnected, live, found, bind, Except.bind, pure,
      Except.pure, throw, throwThe, MonadExceptOf.throw]

theorem readAttribute_dark (dark : n.connected = false) (attr : String) :
    n.readAttribute c attr = .error (.nodeNotConnected n.id) := by
  simp [Node.readAttribute, Node.ensureConnected, dark, bind, Except.bind]

theorem read?_of_readAttribute {attr : String} {v : Json}
    (h : n.readAttribute c attr = .ok (some v)) : c.read? attr = some (some v) := by
  cases live : n.connected with
  | false => simp [readAttribute_dark live] at h
  | true => cases found : c.read? attr <;> simp_all [readAttribute_live live]

theorem mem_valuesOf {p : String × Json} :
    p ∈ n.valuesOf c ↔ n.readAttribute c p.1 = .ok (some p.2) := by
  obtain ⟨attr, v⟩ := p
  simp only [Node.valuesOf, List.mem_filterMap]
  constructor
  · rintro ⟨q, -, h⟩
    cases read : n.readAttribute c q.1 with
    | error f => simp [read, Except.toOption] at h
    | ok w =>
      simp only [read, Except.toOption, Option.join_some, Option.map_eq_some_iff,
        Prod.mk.injEq] at h
      obtain ⟨v, rfl, rfl, rfl⟩ := h
      exact read
  · intro h
    obtain ⟨q, found, value⟩ := Option.map_eq_some_iff.1 (read?_of_readAttribute h)
    obtain rfl : q.1 = attr := by simpa using List.find?_some found
    exact ⟨q, List.mem_of_find?_eq_some found, by simp [h, Except.toOption]⟩

theorem snapshot_eq (h : n.CanRead c) : c.snapshot =
    .obj (Fields.ofList ([("id", .ofNat c.id), ("name", .str c.name)] ++ n.valuesOf c)) := by
  rcases h with live | bare
  -- With a session each read is a lookup; without one there is nothing to look up.
  · have value (attr : String) : (n.readAttribute c attr).toOption.join = (c.read? attr).join := by
      rw [readAttribute_live live]
      cases c.read? attr <;> rfl
    simp only [Cluster.snapshot, Node.valuesOf, value, Fields.ofList, List.foldl_append,
      List.foldl_filterMap, List.foldl_map]
    congr 2
    funext fs p
    cases (c.read? p.1).join <;> rfl
  · simp [Cluster.snapshot, Node.valuesOf, bare]

theorem portrays (n : Node) (c : Cluster) : n.Portrays c
    (Fields.ofList ([("id", .ofNat c.id), ("name", .str c.name)] ++ n.valuesOf c)) where
  overlaid := rfl
  reads attr v h := by
    refine Fields.get?_ofList_agreed ⟨(attr, v), mem_valuesOf.2 h, rfl⟩ ?_
    rintro ⟨k, w⟩ hw rfl
    have same := (mem_valuesOf.1 hw).symm.trans h
    simpa using same
  others key none := by
    have labels : Fields.Sorted [("id", .ofNat c.id), ("name", .str c.name)] :=
      .cons (by decide) (.single _)
    rw [Fields.get?_ofList_append, Fields.ofList_of_sorted labels]
    rintro ⟨k, w⟩ hw rfl
    exact none w (mem_valuesOf.1 hw)

/-- A label stands unless an attribute of its name says something else. -/
theorem Node.Portrays.label {fs : Fields} (h : n.Portrays c fs) {key : String} {v : Json}
    (own : Fields.get? key [("id", .ofNat c.id), ("name", .str c.name)] = some v) :
    fs.get? key = some v ↔ ∀ w, n.readAttribute c key = .ok (some w) → w = v := by
  constructor
  · intro there w read
    have shadow := h.reads key w read
    rw [there] at shadow
    exact (Option.some.inj shadow).symm
  · intro same
    by_cases shadow : ∃ w, n.readAttribute c key = .ok (some w)
    · obtain ⟨w, read⟩ := shadow
      rw [h.reads key w read, same w read]
    · simp only [not_exists] at shadow
      rw [h.others key shadow, own]

end Engine

/-! ## Tables of clusters -/

namespace Client

open Engine

/-- The table of some clusters: the last one of each name, under its name. -/
structure Tabulates (n : Node) (cs : List Cluster) (table : Fields) : Prop where
  sorted : table.Sorted
  names : ∀ name, table.has name = true ↔ ∃ c ∈ cs, c.name = name
  last : ∀ front c back, cs = front ++ c :: back → (∀ x ∈ back, x.name ≠ c.name) →
    ∃ fs, table.get? c.name = some (.obj fs) ∧ n.Portrays c fs

variable {n : Node} {c : Cluster} {cs : List Cluster}

theorem clusterSnapshot_ok (h : n.CanRead c) : clusterSnapshot n c = .ok c.snapshot := by
  rcases h with live | bare
  · simp [clusterSnapshot, Node.ensureConnected, live, bind, Except.bind, pure, Except.pure]
  · simp [clusterSnapshot, bare, pure, Except.pure]

theorem clusterSnapshot_error (h : ¬n.CanRead c) :
    clusterSnapshot n c = .error (.nodeNotConnected n.id) := by
  simp only [Node.CanRead, not_or, Bool.not_eq_true] at h
  simp [clusterSnapshot, Node.ensureConnected, h, bind, Except.bind]

theorem clustersSnapshot_ok (h : ∀ c ∈ cs, n.CanRead c) :
    clustersSnapshot n cs = .ok (Fields.ofList (cs.map fun c => (c.name, c.snapshot))) := by
  -- Every cluster adds to the table of those before it, so the start is any table.
  have step (fs : Fields) : cs.foldlM (fun fs c => do
      return Fields.insert c.name (← clusterSnapshot n c) fs) fs =
      .ok ((cs.map fun c => (c.name, c.snapshot)).foldl (fun fs p => fs.insert p.1 p.2) fs) := by
    induction cs generalizing fs with
    | nil => rfl
    | cons c cs ih =>
      simp only [List.forall_mem_cons] at h
      simp only [List.foldlM_cons, clusterSnapshot_ok h.1, List.map_cons, List.foldl_cons]
      exact ih h.2 _
  exact step []

theorem clustersSnapshot_error (h : ∃ c ∈ cs, ¬n.CanRead c) :
    clustersSnapshot n cs = .error (.nodeNotConnected n.id) := by
  have step (fs : Fields) : cs.foldlM (fun fs c => do
      return Fields.insert c.name (← clusterSnapshot n c) fs) fs =
      .error (.nodeNotConnected n.id) := by
    induction cs generalizing fs with
    | nil => simp at h
    | cons c cs ih =>
      -- What was read before the first failure is dropped with the table.
      by_cases first : n.CanRead c
      · have later : ∃ x ∈ cs, ¬n.CanRead x := by
          simpa [first] using h
        simp only [List.foldlM_cons, clusterSnapshot_ok first]
        exact ih later _
      · simp [List.foldlM_cons, clusterSnapshot_error first, bind, Except.bind]
  exact step []

theorem tabulates (h : ∀ c ∈ cs, n.CanRead c) :
    Tabulates n cs (Fields.ofList (cs.map fun c => (c.name, c.snapshot))) where
  sorted := Fields.sorted_ofList _
  names name := by simp [Fields.has_ofList]
  last front c back split alone := by
    subst split
    refine ⟨_, ?_, portrays n c⟩
    rw [← snapshot_eq (h c (by simp)), List.map_append, List.map_cons]
    refine Fields.get?_ofList_last _ fun p hp => ?_
    obtain ⟨x, hx, rfl⟩ := List.mem_map.1 hp
    exact alone x hx

end Client

/-! ## Positions -/

/-- The endpoint at a position. -/
def Engine.RemoteEndpoint.at? : List Nat → RemoteEndpoint → Option RemoteEndpoint
  | [], e => some e
  | i :: path, e => (e.children[i]?).bind (at? path)

theorem Engine.RemoteEndpoint.mem_allOf {e x : RemoteEndpoint} {es : List RemoteEndpoint}
    (he : e ∈ es) (hx : x ∈ e.all) : x ∈ allOf es := by
  induction es with
  | nil => simp at he
  | cons y es ih =>
    rw [allOf, List.mem_append]
    rcases List.mem_cons.1 he with rfl | later
    · exact .inl hx
    · exact .inr (ih later)

theorem Engine.RemoteEndpoint.mem_all_of_at? {path : List Nat} {e x : RemoteEndpoint}
    (h : e.at? path = some x) : x ∈ e.all := by
  induction path generalizing e with
  | nil =>
    cases h
    cases x
    simp [all]
  | cons i path ih =>
    obtain ⟨y, hy, hx⟩ := Option.bind_eq_some_iff.1 h
    obtain ⟨number, cs, es⟩ := e
    rw [all, List.mem_cons]
    exact .inr (mem_allOf (List.mem_of_getElem? hy) (ih hx))

/-- The clusters of the endpoint at a position that a snapshot includes. -/
def Engine.RemoteEndpoint.included (path : List Nat) (e : RemoteEndpoint) : List Cluster :=
  match path with
  | [] => e.clusters.filter (·.id ∈ Client.systemClusters)
  | _ :: _ => e.clusters

namespace Client

open Engine

/-- What a snapshot has at a position. -/
def viewAt? : List Nat → Json → Option Json
  | [], v => some v
  | i :: path, v => (((v.get? "children").bind Json.items?).bind (·[i]?)).bind (viewAt? path)

/-- An object with the number of an endpoint and the table of some of its clusters. -/
def Shows (n : Node) (cs : List Cluster) (e : RemoteEndpoint) (v : Json) : Prop :=
  ∃ table views, v = .ofPairs
    [("number", .ofNat e.number), ("clusters", .obj table), ("children", .arr views)] ∧
    Tabulates n cs table

/-- There is an object at exactly the positions of endpoints, and it shows the endpoint. -/
def Mirrors (n : Node) (root : Json) : Prop :=
  ∀ path, Option.Rel (fun e v => Shows n (e.included path) e v) (n.root.at? path)
    (viewAt? path root)

theorem shown_isEmpty (path : List Nat) (e : RemoteEndpoint) :
    shown path.isEmpty e.clusters = e.included path := by
  cases path <;> simp [shown, RemoteEndpoint.included, isSystemCluster]

/-! ## The walk -/

section

variable (n : Node)

/-- Below an endpoint everything that is included can be read. -/
def Legible (isRoot : Bool) (e : RemoteEndpoint) : Prop :=
  ∀ path x, e.at? path = some x → ∀ c ∈ shown (isRoot && path.isEmpty) x.clusters, n.CanRead c

/-- A value shows an endpoint and all below it. -/
def Depicts (isRoot : Bool) (e : RemoteEndpoint) (v : Json) : Prop :=
  ∀ path, Option.Rel (fun x w => Shows n (shown (isRoot && path.isEmpty) x.clusters) x w)
    (e.at? path) (viewAt? path v)

variable {n}

theorem legible_mk {isRoot : Bool} {number : Nat} {cs : List Cluster} {es : List RemoteEndpoint} :
    Legible n isRoot (.mk number cs es) ↔
      (∀ c ∈ shown isRoot cs, n.CanRead c) ∧ ∀ e ∈ es, Legible n false e := by
  constructor
  · intro h
    refine ⟨by simpa [RemoteEndpoint.clusters] using h [] _ rfl, fun e he path x hx => ?_⟩
    obtain ⟨i, hi⟩ := List.mem_iff_getElem?.1 he
    have below : (RemoteEndpoint.mk number cs es).at? (i :: path) = some x := by
      simp [RemoteEndpoint.at?, RemoteEndpoint.children, hi, hx]
    simpa using h _ _ below
  · rintro ⟨own, below⟩ path x hx
    cases path with
    | nil =>
      cases hx
      simpa [RemoteEndpoint.clusters] using own
    | cons i path =>
      obtain ⟨e, he, hx⟩ := Option.bind_eq_some_iff.1 hx
      simpa using below e (List.mem_of_getElem? he) path x hx

/-- An endpoint is depicted by its number, its table and what depicts its children. -/
theorem depicts_mk {isRoot : Bool} {number : Nat} {cs : List Cluster} {es : List RemoteEndpoint}
    {table : Fields} {vs : List Json} (own : Tabulates n (shown isRoot cs) table)
    (below : List.Forall₂ (Depicts n false) es vs) :
    Depicts n isRoot (.mk number cs es) (.ofPairs
      [("number", .ofNat number), ("clusters", .obj table), ("children", .arr vs)]) := by
  intro path
  cases path with
  | nil => exact .some ⟨table, vs, rfl, by simpa [RemoteEndpoint.clusters] using own⟩
  | cons i path =>
    have children : viewAt? (i :: path) (.ofPairs
        [("number", .ofNat number), ("clusters", .obj table), ("children", .arr vs)]) =
        vs[i]?.bind (viewAt? path) := by
      have last : Json.get? "children" (.ofPairs [("number", .ofNat number),
          ("clusters", .obj table), ("children", .arr vs)]) = some (.arr vs) :=
        Fields.get?_ofList_last [_, _] (List.forall_mem_nil _)
      simp [viewAt?, last, Json.items?]
    have child := rel_getElem? below i
    rw [children]
    show Option.Rel _ (es[i]?.bind (RemoteEndpoint.at? path)) (vs[i]?.bind (viewAt? path))
    generalize es[i]? = x, vs[i]? = w at child
    cases child with
    | none => exact .none
    | some view => simpa using view path

mutual

theorem depicted (isRoot : Bool) (e : RemoteEndpoint) (h : Legible n isRoot e) :
    ∃ v, endpointSnapshot n isRoot e = .ok v ∧ Depicts n isRoot e v := by
  match e with
  | .mk number cs es =>
    obtain ⟨own, below⟩ := legible_mk.1 h
    obtain ⟨vs, run, views⟩ := depictedIn es below
    refine ⟨_, ?_, depicts_mk (tabulates own) views⟩
    simp [endpointSnapshot, clustersSnapshot_ok own, run, bind, Except.bind, pure, Except.pure]
termination_by structural e

theorem depictedIn (es : List RemoteEndpoint) (h : ∀ e ∈ es, Legible n false e) :
    ∃ vs, endpointSnapshots n es = .ok vs ∧ List.Forall₂ (Depicts n false) es vs := by
  match es with
  | [] => exact ⟨[], rfl, .nil⟩
  | e :: es =>
    simp only [List.forall_mem_cons] at h
    obtain ⟨v, first, view⟩ := depicted false e h.1
    obtain ⟨vs, rest, views⟩ := depictedIn es h.2
    refine ⟨v :: vs, ?_, .cons view views⟩
    simp [endpointSnapshots, first, rest, bind, Except.bind, pure, Except.pure]
termination_by structural es

end

mutual

theorem refused (isRoot : Bool) (e : RemoteEndpoint) (h : ¬Legible n isRoot e) :
    endpointSnapshot n isRoot e = .error (.nodeNotConnected n.id) := by
  match e with
  | .mk number cs es =>
    by_cases own : ∀ c ∈ shown isRoot cs, n.CanRead c
    · have below : ∃ e ∈ es, ¬Legible n false e := by
        by_contra none
        exact h (legible_mk.2 ⟨own, by simpa using none⟩)
      simp [endpointSnapshot, clustersSnapshot_ok own, refusedIn es below, bind, Except.bind]
    · have own' : ∃ c ∈ shown isRoot cs, ¬n.CanRead c := by
        simpa using own
      simp [endpointSnapshot, clustersSnapshot_error own', bind, Except.bind]
termination_by structural e

theorem refusedIn (es : List RemoteEndpoint) (h : ∃ e ∈ es, ¬Legible n false e) :
    endpointSnapshots n es = .error (.nodeNotConnected n.id) := by
  match es with
  | [] => simp at h
  | e :: es =>
    -- A child that can be shown comes to nothing if one after it fails.
    by_cases first : Legible n false e
    · obtain ⟨v, run, -⟩ := depicted false e first
      have later : ∃ x ∈ es, ¬Legible n false x := by
        simpa [first] using h
      simp [endpointSnapshots, run, refusedIn es later, bind, Except.bind]
    · simp [endpointSnapshots, refused false e first, bind, Except.bind]
termination_by structural es

end

end

/-! ## Snapshots -/

/-- Some cluster that a snapshot includes declares an attribute. -/
def Declares (e : RemoteEndpoint) : Prop :=
  ∃ path x, e.at? path = some x ∧ ∃ c ∈ x.included path, c.attributes ≠ []

variable {n : Node}

theorem legible_root : Legible n true n.root ↔ n.connected = true ∨ ¬Declares n.root := by
  cases live : n.connected with
  | true => simp [Legible, Node.CanRead, live]
  | false => simp [Legible, Node.CanRead, live, Declares, shown_isEmpty]

theorem snapshot_legible (h : Legible n true n.root) : ∃ root,
    snapshot n = .ok (.ofPairs [("id", .ofNat n.id), ("rootEndpoint", root)]) ∧ Mirrors n root := by
  obtain ⟨root, run, views⟩ := depicted true n.root h
  refine ⟨root, by simp [snapshot, run, bind, Except.bind, pure, Except.pure], fun path => ?_⟩
  simpa [shown_isEmpty] using views path

/-- The snapshot of a node mirrors its tree if there is a session or nothing to read, and fails as
    a whole otherwise. -/
theorem snapshot_mirrors (n : Node) :
    (n.connected = true ∨ ¬Declares n.root → ∃ root,
      snapshot n = .ok (.ofPairs [("id", .ofNat n.id), ("rootEndpoint", root)]) ∧
        Mirrors n root) ∧
    (n.connected = false → Declares n.root →
      snapshot n = .error (.nodeNotConnected n.id)) := by
  constructor
  · intro h
    exact snapshot_legible (legible_root.2 h)
  · intro dark declares
    have illegible : ¬Legible n true n.root := by
      simp [legible_root, dark, declares]
    simp [snapshot, refused true n.root illegible, bind, Except.bind]

/-- A lamp on a porch with a sensor below it, paired and connected. -/
def porch : Node :=
  ((Node.ofDevice 1 .recorder ⟨20202021, 3840, Device.defaultVendor, Device.defaultProduct, [],
    .mk 0
      [⟨0x28, "basicInformation", [("vendorName", some (.str "Acme")), ("serialNumber", none)], []⟩,
        ⟨6, "onOff", [("onOff", some (.bool false))], []⟩]
      [.mk 1 [⟨6, "onOff", [("onOff", some (.bool true))], []⟩]
        [.mk 2 [⟨0x402, "temperatureMeasurement", [("measuredValue", some (.int 2150))], []⟩]
          []]]⟩).link true).1

/-- The same lamp without a session. -/
def darkPorch : Node :=
  (porch.link false).1

theorem snapshot_mirrors_porch :
    (porch.connected = true ∧ ∃ root,
      snapshot porch = .ok (.ofPairs [("id", .ofNat porch.id), ("rootEndpoint", root)]) ∧
        Mirrors porch root) ∧
    (darkPorch.connected = false ∧ Declares darkPorch.root ∧
      snapshot darkPorch = .error (.nodeNotConnected darkPorch.id)) := by
  have declares : Declares darkPorch.root :=
    ⟨[0, 0], _, rfl, _, List.mem_cons_self, List.cons_ne_nil _ _⟩
  exact ⟨⟨rfl, (snapshot_mirrors porch).1 (.inl rfl)⟩, rfl, declares,
    (snapshot_mirrors darkPorch).2 rfl declares⟩

/-! ## Labels -/

/-- The object of a cluster in what a snapshot has at a position. -/
def objectAt? (path : List Nat) (cluster : String) (root : Json) : Option Json :=
  ((viewAt? path root).bind (Json.get? "clusters")).bind (Json.get? cluster)

theorem apart_included (path : List Nat) {e : RemoteEndpoint}
    (apart : (e.clusters.map (·.name)).Nodup) : ((e.included path).map (·.name)).Nodup := by
  cases path with
  | nil => exact apart.sublist (List.filter_sublist.map _)
  | cons i path => exact apart

/-- Where no name comes twice, every cluster that is included has its object. -/
theorem Mirrors.object {root : Json} (h : Mirrors n root) {path : List Nat} {e : RemoteEndpoint}
    (he : n.root.at? path = some e) (apart : (e.clusters.map (·.name)).Nodup) {c : Cluster}
    (hc : c ∈ e.included path) :
    ∃ fs, objectAt? path c.name root = some (.obj fs) ∧ n.Portrays c fs := by
  have view := h path
  rw [he] at view
  generalize hv : viewAt? path root = w at view
  cases view with
  | some shows =>
    obtain ⟨table, views, rfl, tabulates⟩ := shows
    obtain ⟨front, back, split⟩ := List.append_of_mem hc
    have alone : ∀ x ∈ back, x.name ≠ c.name := by
      have names := apart_included path apart
      simp only [split, List.map_append, List.map_cons, List.nodup_append, List.nodup_cons,
        List.mem_map, not_exists, not_and] at names
      exact names.2.1.1
    obtain ⟨fs, there, portrays⟩ := tabulates.last front c back split alone
    refine ⟨fs, ?_, portrays⟩
    have clusters : Json.get? "clusters" (.ofPairs [("number", .ofNat e.number),
        ("clusters", .obj table), ("children", .arr views)]) = some (.obj table) :=
      Fields.get?_ofList_last [_] (by simp)
    simp only [objectAt?, hv, Option.bind_some, clusters]
    exact there

/-- Whatever was read of a cluster is in its object; the labels are those of the cluster unless
    an attribute of the same name says something else. -/
theorem snapshot_labels (n : Node) (live : n.connected = true)
    (apart : ∀ e ∈ n.root.all, (e.clusters.map (·.name)).Nodup) :
    ∃ root, snapshot n = .ok (.ofPairs [("id", .ofNat n.id), ("rootEndpoint", root)]) ∧
      ∀ path e, n.root.at? path = some e → ∀ c ∈ e.included path,
        ∃ fs : Fields, objectAt? path c.name root = some (.obj fs) ∧
          (∀ attr v, n.readAttribute c attr = .ok (some v) → fs.get? attr = some v) ∧
          (fs.get? "id" = some (.ofNat c.id) ↔
            ∀ v, n.readAttribute c "id" = .ok (some v) → v = .ofNat c.id) ∧
          (fs.get? "name" = some (.str c.name) ↔
            ∀ v, n.readAttribute c "name" = .ok (some v) → v = .str c.name) := by
  obtain ⟨root, run, mirrors⟩ := snapshot_legible (legible_root.2 (.inl live))
  refine ⟨root, run, fun path e he c hc => ?_⟩
  obtain ⟨fs, there, portrays⟩ := mirrors.object he (apart e (RemoteEndpoint.mem_all_of_at? he)) hc
  exact ⟨fs, there, portrays.reads, portrays.label rfl, portrays.label rfl⟩

theorem snapshot_labels_porch :
    porch.connected = true ∧ (∀ e ∈ porch.root.all, (e.clusters.map (·.name)).Nodup) ∧
      ∃ root, snapshot porch = .ok (.ofPairs [("id", .ofNat porch.id), ("rootEndpoint", root)]) ∧
        ∃ fs : Fields, objectAt? [0] "onOff" root = some (.obj fs) ∧
          fs.get? "onOff" = some (.bool true) ∧ fs.get? "id" = some (.ofNat 6) ∧
          fs.get? "name" = some (.str "onOff") := by
  have apart : ∀ e ∈ porch.root.all, (e.clusters.map (·.name)).Nodup := by decide
  obtain ⟨root, run, objects⟩ := snapshot_labels porch rfl apart
  obtain ⟨fs, there, reads, id, name⟩ := objects [0] _ rfl _ List.mem_cons_self
  refine ⟨rfl, apart, root, run, fs, there, reads _ _ rfl, id.2 ?_, name.2 ?_⟩
  · intro v h
    cases h
  · intro v h
    cases h

/-- A lamp whose switch has an attribute called `id`. -/
def numbered : Node :=
  ((Node.ofDevice 1 .recorder ⟨20202021, 3840, Device.defaultVendor, Device.defaultProduct, [],
    .mk 0 [] [.mk 1 [⟨6, "onOff", [("onOff", some (.bool true)), ("id", some (.int 8))], []⟩]
      []]⟩).link true).1

/-- The switch is shown with the number that its attribute has, which is that of another
    cluster. -/
theorem snapshot_mislabels :
    numbered.connected = true ∧ (∀ e ∈ numbered.root.all, (e.clusters.map (·.name)).Nodup) ∧
      ¬∃ root, snapshot numbered = .ok (.ofPairs
          [("id", .ofNat numbered.id), ("rootEndpoint", root)]) ∧
        ∀ path e, numbered.root.at? path = some e → ∀ c ∈ e.included path,
          ∃ fs : Fields, objectAt? path c.name root = some (.obj fs) ∧
            fs.get? "id" = some (.ofNat c.id) ∧ fs.get? "name" = some (.str c.name) := by
  refine ⟨rfl, by decide, ?_⟩
  rintro ⟨root, run, labels⟩
  obtain ⟨fs, there, id, -⟩ := labels [0] _ rfl _ List.mem_cons_self
  have switch : (snapshot numbered).toOption.bind (fun v =>
      (v.get? "rootEndpoint").bind (objectAt? [0] "onOff")) =
      some (.obj [("id", .int 8), ("name", .str "onOff"), ("onOff", .bool true)]) := by
    rfl
  have top : Json.get? "rootEndpoint" (.ofPairs
      [("id", .ofNat numbered.id), ("rootEndpoint", root)]) = some root :=
    Fields.get?_ofList_last [_] (List.forall_mem_nil _)
  simp only [run, Except.toOption, Option.bind_some, top] at switch
  obtain rfl : fs = [("id", .int 8), ("name", .str "onOff"), ("onOff", .bool true)] := by
    simpa using there.symm.trans switch
  cases id

end Client

end HomeGateway
