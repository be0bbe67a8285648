/-
  A node on the network: its endpoints, clusters and attributes.

  Endpoints form a tree; a number or a name means the first endpoint, cluster
  or attribute that bears it, endpoints being looked at from the root down and
  from left to right.  A declared attribute may have no value.

  * `find?_eq_find_all`: the search in the tree finds what a search in the row
    of all endpoints finds;
  * `store`: writing an attribute keeps the order of the others;
  * `snapshot`: a cluster as one object.
-/
import HomeGateway.Engine.Journal

namespace HomeGateway.Engine

open HomeGateway

/-! ## Clusters -/

/-- A cluster of a node. -/
structure Cluster where
  /-- its id -/
  id : Nat
  /-- its name -/
  name : String
  /-- its attributes; one without a value is declared only -/
  attributes : List (String × Option Json)
  /-- the commands it was given, the oldest first -/
  commands : List (String × Json)
deriving Repr

namespace Cluster

/-- The value of an attribute, which may have none; `none` if it is not declared. -/
def read? (c : Cluster) (attr : String) : Option (Option Json) :=
  (c.attributes.find? (·.1 = attr)).map Prod.snd

/-- Set the value of the first attribute of a name; a new name comes last. -/
def storeIn (attr : String) (value : Json) :
    List (String × Option Json) → List (String × Option Json)
  | [] => [(attr, some value)]
  | (k, v) :: rest =>
    if k = attr then (k, some value) :: rest else (k, v) :: storeIn attr value rest

/-- Set the value of an attribute. -/
def store (attr : String) (value : Json) (c : Cluster) : Cluster :=
  { c with attributes := storeIn attr value c.attributes }

/-- Note a command. -/
def note (command : String) (args : Json) (c : Cluster) : Cluster :=
  { c with commands := c.commands ++ [(command, args)] }

/-- The cluster as one object: its id and name, overlaid with the attributes
    that have a value. -/
def snapshot (c : Cluster) : Json :=
  .obj <| (c.attributes.map Prod.fst).foldl
    (fun fs attr =>
      match (c.read? attr).join with
      | some v => Fields.insert attr v fs
      | none => fs)
    (Fields.ofList [("id", .ofNat c.id), ("name", .str c.name)])

theorem read?_store_self (c : Cluster) (attr : String) (value : Json) :
    (c.store attr value).read? attr = some (some value) := by
  have key (l : List (String × Option Json)) :
      (storeIn attr value l).find? (·.1 = attr) = some (attr, some value) := by
    induction l with
    | nil => simp [storeIn]
    | cons p rest ih =>
      obtain ⟨k, v⟩ := p
      by_cases h : k = attr
      · simp [storeIn, h]
      · simp [storeIn, h, ih]
  simp [read?, store, key]

theorem read?_store_of_ne (c : Cluster) {attr other : String} (value : Json) (h : other ≠ attr) :
    (c.store attr value).read? other = c.read? other := by
  have key (l : List (String × Option Json)) :
      (storeIn attr value l).find? (·.1 = other) = l.find? (·.1 = other) := by
    induction l with
    | nil => simp [storeIn, Ne.symm h]
    | cons p rest ih =>
      obtain ⟨k, v⟩ := p
      by_cases hk : k = attr
      · subst hk
        simp [storeIn, Ne.symm h]
      · simp only [storeIn, hk, if_false, List.find?_cons, ih]
  simp [read?, store, key]

end Cluster

/-! ## Endpoints -/

/-- An endpoint of a node with the endpoints below it. -/
inductive RemoteEndpoint where
  /-- an endpoint: its number, its clusters, its children -/
  | mk (number : Nat) (clusters : List Cluster) (children : List RemoteEndpoint)
deriving Repr, Inhabited

namespace RemoteEndpoint

/-- The number of an endpoint. -/
def number : RemoteEndpoint → Nat
  | .mk n _ _ => n

/-- The clusters of an endpoint. -/
def clusters : RemoteEndpoint → List Cluster
  | .mk _ cs _ => cs

/-- The endpoints right below an endpoint. -/
def children : RemoteEndpoint → List RemoteEndpoint
  | .mk _ _ es => es

/-- The first cluster of a name. -/
def cluster? (e : RemoteEndpoint) (name : String) : Option Cluster :=
  e.clusters.find? (·.name = name)

mutual

/-- The endpoint and all below it, from the top down and from left to right. -/
def all : RemoteEndpoint → List RemoteEndpoint
  | .mk n cs es => .mk n cs es :: allOf es
termination_by structural e => e

/-- All endpoints of several trees. -/
def allOf : List RemoteEndpoint → List RemoteEndpoint
  | [] => []
  | e :: es => e.all ++ allOf es
termination_by structural es => es

end

mutual

/-- The first endpoint of a number. -/
def find? (number : Nat) : RemoteEndpoint → Option RemoteEndpoint
  | .mk n cs es => if n = number then some (.mk n cs es) else findIn? number es
termination_by structural e => e

/-- The first endpoint of a number in several trees. -/
def findIn? (number : Nat) : List RemoteEndpoint → Option RemoteEndpoint
  | [] => none
  | e :: es =>
    match find? number e with
    | some found => some found
    | none => findIn? number es
termination_by structural es => es

end

/-- The first endpoint of a number in the row of all endpoints. -/
def lookup? (number : Nat) (e : RemoteEndpoint) : Option RemoteEndpoint :=
  e.all.find? (·.number = number)

/-- Change the first cluster of a name. -/
def changeCluster (name : String) (f : Cluster → Cluster) : List Cluster → List Cluster
  | [] => []
  | c :: cs => if c.name = name then f c :: cs else c :: changeCluster name f cs

mutual

/-- Change a cluster of the first endpoint of a number; `none` if there is no
    such endpoint. -/
def change? (number : Nat) (name : String) (f : Cluster → Cluster) :
    RemoteEndpoint → Option RemoteEndpoint
  | .mk n cs es =>
    if n = number then some (.mk n (changeCluster name f cs) es)
    else (changeIn? number name f es).map (.mk n cs)
termination_by structural e => e

/-- Change a cluster in the first tree that has an endpoint of a number. -/
def changeIn? (number : Nat) (name : String) (f : Cluster → Cluster) :
    List RemoteEndpoint → Option (List RemoteEndpoint)
  | [] => none
  | e :: es =>
    match change? number name f e with
    | some changed => some (changed :: es)
    | none => (changeIn? number name f es).map (e :: ·)
termination_by structural es => es

end

/-- Change a cluster of the first endpoint of a number, if there is one. -/
def change (number : Nat) (name : String) (f : Cluster → Cluster) (e : RemoteEndpoint) :
    RemoteEndpoint :=
  (change? number name f e).getD e

mutual

theorem find?_eq_find_all (number : Nat) (e : RemoteEndpoint) :
    find? number e = e.all.find? (·.number = number) := by
  match e with
  | .mk n cs es =>
    by_cases h : n = number
    · simp [find?, all, RemoteEndpoint.number, h]
    · simp [find?, all, RemoteEndpoint.number, h, findIn?_eq_find_allOf number es]
termination_by structural e

theorem findIn?_eq_find_allOf (number : Nat) (es : List RemoteEndpoint) :
    findIn? number es = (allOf es).find? (·.number = number) := by
  match es with
  | [] => simp [findIn?, allOf]
  | e :: rest =>
    simp only [findIn?, allOf, List.find?_append, find?_eq_find_all number e,
      findIn?_eq_find_allOf number rest]
    cases e.all.find? (·.number = number) <;> simp
termination_by structural es

end

end RemoteEndpoint

end HomeGateway.Engine
