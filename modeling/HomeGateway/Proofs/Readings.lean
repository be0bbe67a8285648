/-
  Readings of the attributes of a node.

  An attribute is known by the number of its endpoint, the id of its cluster and
  its own name; `reading` is what is read there.  The engine itself changes a
  cluster by the number of its endpoint and the name of the cluster.

  * `Distinct`: no number, id or name stands for two things;
  * `reading_change`: the change of a cluster, read by its id;
  * `plan_change`: what numbers, ids and names there are stays.
-/
import HomeGateway.Engine.RemoteEndpoint

namespace HomeGateway.Engine.RemoteEndpoint

open HomeGateway

/-- What is read of an attribute; `none` if it is not declared. -/
def reading (e : RemoteEndpoint) (number cluster : Nat) (attr : String) : Option (Option Json) :=
  ((e.lookup? number).bind fun x => x.clusters.find? (·.id = cluster)).bind (·.read? attr)

/-- Endpoints can be told apart by their numbers, and the clusters of each by their ids and by
    their names. -/
structure Distinct (e : RemoteEndpoint) : Prop where
  numbers : (e.all.map number).Nodup
  ids : ∀ x ∈ e.all, (x.clusters.map (·.id)).Nodup
  names : ∀ x ∈ e.all, (x.clusters.map (·.name)).Nodup

/-- The numbers of the endpoints, with the ids and names of their clusters. -/
def plan (e : RemoteEndpoint) : List (Nat × List (Nat × String)) :=
  e.all.map fun x => (x.number, x.clusters.map fun c => (c.id, c.name))

/-! ## Rows -/

/-- Endpoints with their clusters. -/
abbrev Rows := List (Nat × List Cluster)

/-- The rows of several trees. -/
def rowsOf (es : List RemoteEndpoint) : Rows :=
  (allOf es).map fun x => (x.number, x.clusters)

/-- The rows of a tree. -/
def rows (e : RemoteEndpoint) : Rows :=
  e.all.map fun x => (x.number, x.clusters)

/-- Change the clusters of the first row of a number. -/
def changeRow (number : Nat) (g : List Cluster → List Cluster) : Rows → Rows
  | [] => []
  | (n, cs) :: rest => if n = number then (n, g cs) :: rest else (n, cs) :: changeRow number g rest

theorem rows_mk (n : Nat) (cs : List Cluster) (es : List RemoteEndpoint) :
    (mk n cs es).rows = (n, cs) :: rowsOf es := by
  simp [rows, rowsOf, all, number, clusters]

theorem rowsOf_cons (e : RemoteEndpoint) (es : List RemoteEndpoint) :
    rowsOf (e :: es) = e.rows ++ rowsOf es := by
  simp [rows, rowsOf, allOf]

theorem lookup?_rows (e : RemoteEndpoint) (n : Nat) :
    (e.lookup? n).map clusters = (e.rows.find? (·.1 = n)).map Prod.snd := by
  simp [lookup?, rows, List.find?_map, Function.comp_def]

theorem plan_eq (e : RemoteEndpoint) :
    e.plan = e.rows.map fun r => (r.1, r.2.map fun c => (c.id, c.name)) := by
  simp [plan, rows]

section

variable {n : Nat} {g : List Cluster → List Cluster}

theorem changeRow_absent {rs : Rows} (h : n ∉ rs.map Prod.fst) : changeRow n g rs = rs := by
  induction rs with
  | nil => rfl
  | cons r rs ih =>
    simp only [List.map_cons, List.mem_cons, not_or] at h
    simp [changeRow, Ne.symm h.1, ih h.2]

theorem changeRow_append_left {rs rs' : Rows} (h : n ∈ rs.map Prod.fst) :
    changeRow n g (rs ++ rs') = changeRow n g rs ++ rs' := by
  induction rs with
  | nil => simp at h
  | cons r rs ih =>
    by_cases own : r.1 = n
    · simp [changeRow, own]
    · have later : n ∈ rs.map Prod.fst := by simpa [Ne.symm own] using h
      simp [changeRow, own, ih later]

theorem changeRow_append_right {rs rs' : Rows} (h : n ∉ rs.map Prod.fst) :
    changeRow n g (rs ++ rs') = rs ++ changeRow n g rs' := by
  induction rs with
  | nil => rfl
  | cons r rs ih =>
    simp only [List.map_cons, List.mem_cons, not_or] at h
    simp [changeRow, Ne.symm h.1, ih h.2]

theorem find?_changeRow (rs : Rows) (m : Nat) :
    (changeRow n g rs).find? (·.1 = m) =
      if m = n then (rs.find? (·.1 = n)).map fun r => (r.1, g r.2) else rs.find? (·.1 = m) := by
  induction rs with
  | nil => simp [changeRow]
  | cons r rs ih =>
    obtain ⟨k, cs⟩ := r
    by_cases own : k = n
    · subst own
      by_cases same : m = k
      · simp [changeRow, same]
      · simp [changeRow, same, Ne.symm same]
    · by_cases same : m = n <;> simp_all [changeRow, List.find?_cons]

end

/-! ## Changing a cluster -/

variable {number : Nat} {name : String} {f : Cluster → Cluster}

/-- Changing a cluster in a tree changes one row. -/
def Changes (number : Nat) (name : String) (f : Cluster → Cluster) (before : Rows) :
    Option Rows → Prop
  | some after => after = changeRow number (changeCluster name f) before ∧
      number ∈ before.map Prod.fst
  | none => number ∉ before.map Prod.fst

mutual

theorem rows_change? (e : RemoteEndpoint) :
    Changes number name f e.rows ((change? number name f e).map rows) := by
  match e with
  | .mk n cs es =>
    by_cases own : n = number
    · simp [change?, own, rows_mk, Changes, changeRow]
    · have below := rowsOf_changeIn? es
      cases run : changeIn? number name f es with
      | none =>
        rw [run] at below
        simp_all [change?, rows_mk, Changes, Ne.symm own]
      | some es' =>
        rw [run] at below
        simp_all [change?, rows_mk, Changes, changeRow]
termination_by structural e

theorem rowsOf_changeIn? (es : List RemoteEndpoint) :
    Changes number name f (rowsOf es) ((changeIn? number name f es).map rowsOf) := by
  match es with
  | [] => simp [changeIn?, Changes, rowsOf, allOf]
  | e :: es =>
    have first := rows_change? e
    have later := rowsOf_changeIn? es
    cases run : change? number name f e with
    | some e' =>
      rw [run] at first
      simp only [changeIn?, run, Option.map_some, rowsOf_cons, Changes] at first ⊢
      rw [first.1, changeRow_append_left first.2, List.map_append]
      exact ⟨rfl, List.mem_append_left _ first.2⟩
    | none =>
      rw [run] at first
      replace first : number ∉ e.rows.map Prod.fst := first
      cases rest : changeIn? number name f es with
      | none =>
        rw [rest] at later
        simp_all [changeIn?, rowsOf_cons, Changes]
      | some es' =>
        rw [rest] at later
        simp only [changeIn?, run, rest, Option.map_some, rowsOf_cons, Changes] at later ⊢
        rw [later.1, changeRow_append_right first, List.map_append]
        exact ⟨rfl, List.mem_append_right _ later.2⟩
termination_by structural es

end

theorem rows_change (e : RemoteEndpoint) :
    (e.change number name f).rows = changeRow number (changeCluster name f) e.rows := by
  have changes : Changes number name f e.rows ((change? number name f e).map rows) :=
    rows_change? e
  cases run : change? number name f e with
  | none =>
    rw [run] at changes
    simp [change, run, changeRow_absent changes]
  | some e' =>
    rw [run] at changes
    simp [change, run, changes.1]

theorem find?_changeCluster {cs : List Cluster} {c : Cluster}
    (hc : cs.find? (·.name = name) = some c) (ids : (cs.map (·.id)).Nodup)
    (same : (f c).id = c.id) (id : Nat) :
    (changeCluster name f cs).find? (·.id = id) =
      if id = c.id then some (f c) else cs.find? (·.id = id) := by
  induction cs with
  | nil => simp at hc
  | cons x cs ih =>
    rw [List.map_cons, List.nodup_cons] at ids
    by_cases own : x.name = name
    · obtain rfl : x = c := by simpa [own] using hc
      by_cases here : id = x.id
      · simp [changeCluster, own, here, same]
      · simp [changeCluster, own, here, same, Ne.symm here]
    · have later : cs.find? (·.name = name) = some c := by simpa [own] using hc
      have there : c.id ∈ cs.map (·.id) :=
        List.mem_map_of_mem (List.mem_of_find?_eq_some later)
      have other : x.id ≠ c.id := fun eq => ids.1 (eq ▸ there)
      have rest := ih later ids.2
      by_cases first : x.id = id
      · subst first
        simp [changeCluster, own, other]
      · simp [changeCluster, own, first, rest]

theorem reading_rows (e : RemoteEndpoint) (m id : Nat) (attr : String) :
    e.reading m id attr =
      (((e.rows.find? (·.1 = m)).map Prod.snd).bind (·.find? (·.id = id))).bind (·.read? attr) := by
  rw [← lookup?_rows, reading, Option.bind_map]
  rfl

/-- Only what is read of the changed cluster changes. -/
theorem reading_change {e x : RemoteEndpoint} {c : Cluster} (hx : e.lookup? number = some x)
    (hc : x.cluster? name = some c) (ids : (x.clusters.map (·.id)).Nodup) (same : (f c).id = c.id)
    (m id : Nat) (attr : String) :
    (e.change number name f).reading m id attr =
      if m = number ∧ id = c.id then (f c).read? attr else e.reading m id attr := by
  have row : (e.rows.find? (·.1 = number)).map Prod.snd = some x.clusters := by
    rw [← lookup?_rows, hx]
    rfl
  obtain ⟨r, hr, clusters⟩ := Option.map_eq_some_iff.1 row
  rw [reading_rows, reading_rows, rows_change, find?_changeRow]
  by_cases here : m = number
  · subst here
    simp only [if_true, hr, Option.map_some, Option.bind_some, clusters,
      find?_changeCluster hc ids same, true_and]
    split <;> simp
  · simp [here]

theorem plan_changeCluster (keeps : ∀ c : Cluster, (f c).id = c.id ∧ (f c).name = c.name)
    (cs : List Cluster) : (changeCluster name f cs).map (fun c => (c.id, c.name)) =
      cs.map fun c => (c.id, c.name) := by
  induction cs with
  | nil => rfl
  | cons c cs ih =>
    by_cases own : c.name = name
    · simp [changeCluster, own, keeps c]
    · simp [changeCluster, own, ih]

/-- Numbers, ids and names stay. -/
theorem plan_change (keeps : ∀ c : Cluster, (f c).id = c.id ∧ (f c).name = c.name)
    (e : RemoteEndpoint) : (e.change number name f).plan = e.plan := by
  rw [plan_eq, plan_eq, rows_change]
  induction e.rows with
  | nil => rfl
  | cons r rs ih =>
    by_cases own : r.1 = number
    · simp [changeRow, own, plan_changeCluster keeps]
    · simp [changeRow, own, ih]

theorem Distinct.of_plan {e e' : RemoteEndpoint} (h : e.Distinct) (same : e'.plan = e.plan) :
    e'.Distinct := by
  have before : ∀ x' ∈ e'.all, ∃ x ∈ e.all, x.clusters.map (fun c => (c.id, c.name)) =
      x'.clusters.map fun c => (c.id, c.name) := by
    intro x' hx'
    have row : (x'.number, x'.clusters.map fun c => (c.id, c.name)) ∈ e.plan :=
      same ▸ List.mem_map_of_mem hx'
    obtain ⟨x, hx, eq⟩ := List.mem_map.1 row
    exact ⟨x, hx, congrArg Prod.snd eq⟩
  refine ⟨?_, ?_, ?_⟩
  · have numbers := congrArg (List.map Prod.fst) same
    simp only [plan, List.map_map, Function.comp_def] at numbers
    exact numbers ▸ h.numbers
  · intro x' hx'
    obtain ⟨x, hx, eq⟩ := before x' hx'
    have ids := congrArg (List.map Prod.fst) eq
    simp only [List.map_map, Function.comp_def] at ids
    exact ids ▸ h.ids x hx
  · intro x' hx'
    obtain ⟨x, hx, eq⟩ := before x' hx'
    have names := congrArg (List.map Prod.snd) eq
    simp only [List.map_map, Function.comp_def] at names
    exact names ▸ h.names x hx

/-! ## Looking things up -/

theorem lookup?_mem {e x : RemoteEndpoint} {n : Nat} (h : e.lookup? n = some x) :
    x ∈ e.all ∧ x.number = n :=
  ⟨List.mem_of_find?_eq_some h, by simpa using List.find?_some h⟩

end HomeGateway.Engine.RemoteEndpoint
