/-
  What a client asks of its controller.

  A request names a function and gives it arguments; `Errand.ofRequest` says
  what is asked for, or why the request makes no sense.  The functions of a
  client do no more than to read this and to do it, and the response comes at
  once.

  * `resolve_errand`: every function does what its arguments ask for;
  * `handle_errand`, `handle_misread`: the response to a request.
-/
import HomeGateway.Proofs.Holdings

namespace HomeGateway

open Engine Call

namespace Client

/-- What a caller can ask of its controller. -/
inductive Errand where
  /-- list the nodes -/
  | list
  /-- show a node -/
  | view (id : Nat)
  /-- pair a device -/
  | pair (r : Pairing.Request)
  /-- end the session of a node -/
  | disconnect (id : Nat)
  /-- establish the session of a node again -/
  | reconnect (id : Nat)
  /-- remove a node -/
  | remove (id : Nat)
  /-- show the fabrics of a node -/
  | fabrics (id : Nat)
  /-- remove a fabric from a node -/
  | removeFabric (id index : Nat)
  /-- show the live sessions -/
  | sessions
  /-- open a basic window on a node -/
  | basicWindow (id timeout : Nat)
  /-- open an enhanced window on a node -/
  | enhancedWindow (id timeout : Nat)
  /-- give a cluster a command -/
  | command (id endpoint : Nat) (cluster command : String) (args : Json)
  /-- write an attribute -/
  | write (id endpoint : Nat) (cluster attr : String) (value : Json)
  /-- read an attribute -/
  | read (id endpoint : Nat) (cluster attr : String)

/-! ## Arguments -/

/-- The arguments that name a node. -/
def readNode : Reading Nat := next NodeId.read

/-- The arguments that name a node and a timeout. -/
def readWindow : Reading (Nat × Nat) := do
  return (← readNode, (← next (optional (whole .bits16))).getD defaultTimeout)

/-- The arguments that say how a device is found. -/
def readPairing : Reading Pairing.Request := do
  return .ofArguments (← next (optional text)) (← next (optional (whole .bits8)))
    (← next (optional (whole .bits32)))

/-- The arguments that name a node, an endpoint, a cluster and something in it. -/
def readSpot : Reading (Nat × Nat × String × String) := do
  return (← readNode, ← next (whole .bits16), ← next text, ← next text)

namespace Errand

/-- What a function for nodes and its arguments ask for. -/
def ofNodes (args : List Json) (function : String) : Except Failure Errand :=
  match function with
  | "listNodes" => (noArguments function args).map fun _ => .list
  | "getNode" => (arguments function 1 1 readNode args).map .view
  | "pairNode" => (arguments function 0 3 readPairing args).map .pair
  | "disconnectNode" => (arguments function 1 1 readNode args).map .disconnect
  | "reconnectNode" => (arguments function 1 1 readNode args).map .reconnect
  | "removeNode" => (arguments function 1 1 readNode args).map .remove
  | "getFabrics" => (arguments function 1 1 readNode args).map .fabrics
  | "removeFabric" =>
    (arguments function 2 2 (do return (← readNode, ← next (whole .bits8))) args).map
      fun (id, index) => .removeFabric id index
  | "sessionInformation" => (noArguments function args).map fun _ => .sessions
  | "basicCommissioningWindow" =>
    (arguments function 1 2 readWindow args).map fun (id, timeout) => .basicWindow id timeout
  | "enhancedCommissioningWindow" =>
    (arguments function 1 2 readWindow args).map fun (id, timeout) => .enhancedWindow id timeout
  | _ => .error (.functionNotFound function)

/-- What a function for clusters and its arguments ask for. -/
def ofClusters (args : List Json) (function : String) : Except Failure Errand :=
  match function with
  | "command" =>
    (arguments function 4 5 (do return (← readSpot, ← next (optional any))) args).map
      fun ((id, endpoint, cluster, name), given) =>
        .command id endpoint cluster name (given.getD (.obj []))
  | "writeAttribute" =>
    (arguments function 5 5 (do return (← readSpot, ← next any)) args).map
      fun ((id, endpoint, cluster, attr), value) => .write id endpoint cluster attr value
  | "readAttribute" =>
    (arguments function 4 4 readSpot args).map
      fun (id, endpoint, cluster, attr) => .read id endpoint cluster attr
  | _ => .error (.functionNotFound function)

/-- What a request asks for. -/
def ofRequest (r : Request) : Except Failure Errand :=
  if r.space = "nodes" then ofNodes r.args r.function
  else if r.space = "clusters" then ofClusters r.args r.function
  else .error (.namespaceNotFound r.space)

/-- Do what is asked. -/
def perform : Errand → Doing Json
  | .list => listNodes
  | .view id => getNode id
  | .pair r => pairNode r
  | .disconnect id => silent (disconnectNode id)
  | .reconnect id => silent (reconnectNode id)
  | .remove id => silent (removeNode id)
  | .fabrics id => getFabrics id
  | .removeFabric id index => silent (Client.removeFabric id index)
  | .sessions => sessionInformation
  | .basicWindow id timeout => silent (Client.basicWindow id timeout)
  | .enhancedWindow id timeout => Client.enhancedWindow id timeout
  | .command id endpoint cluster name args => invokeCommand id endpoint cluster name args
  | .write id endpoint cluster attr value => silent (writeAttribute id endpoint cluster attr value)
  | .read id endpoint cluster attr => readAttribute id endpoint cluster attr

end Errand

/-! ## The functions of a client -/

/-- A function does what its arguments ask for. -/
def Does (f : Function) (args : List Json) : Except Failure Errand → Prop
  | .ok a => f args = a.perform
  | .error failure => ∀ p, f args p = (.error (.failed failure), p)

theorem does_errand {f : Function} {args : List Json} {α : Type} {read : Except Failure α}
    {errand : α → Errand} (hf : f args = do (errand (← Use.ofExcept read)).perform) :
    Does f args (read.map errand) := by
  cases read with
  | ok x =>
    show f args = _
    rw [hf]
    rfl
  | error failure =>
    intro p
    rw [hf]
    rfl

theorem find?_entry {entries : List (Call.Entry Function)} {space function : String}
    (other : ∀ e ∈ entries, e.space = space → e.function ≠ function) :
    entries.find? (fun e => e.space = space ∧ e.function = function) = none := by
  rw [List.find?_eq_none]
  intro e he both
  simp only [decide_eq_true_eq] at both
  exact other e he both.1 both.2

theorem resolve_errand (r : Request) :
    (∃ f, functions.resolve r.space r.function = .error f ∧ Errand.ofRequest r = .error f) ∨
    ∃ f, functions.resolve r.space r.function = .ok f ∧ Does f r.args (Errand.ofRequest r) := by
  obtain ⟨id, space, function, args⟩ := r
  dsimp only
  by_cases known : ∃ e ∈ functions.entries, e.space = space ∧ e.function = function
  · right
    obtain ⟨e, he, rfl, rfl⟩ := known
    simp only [functions, nodeFunctions, clusterFunctions, Registry.registerAll, Registry.register,
      Registry.empty, List.foldl_cons, List.foldl_nil, List.mem_cons, List.not_mem_nil,
      or_false] at he
    rcases he with rfl | rfl | rfl | rfl | rfl | rfl | rfl | rfl | rfl | rfl | rfl | rfl | rfl | rfl
    all_goals exact ⟨_, rfl, does_errand rfl⟩
  · left
    have other : ∀ e ∈ functions.entries, e.space = space → e.function ≠ function :=
      fun e he same function => known ⟨e, he, same, function⟩
    have missing := find?_entry other
    simp only [functions, nodeFunctions, clusterFunctions, Registry.registerAll, Registry.register,
      Registry.empty, List.foldl_cons, List.foldl_nil, List.forall_mem_cons] at other
    unfold Registry.resolve
    rw [missing]
    by_cases nodes : space = "nodes"
    · subst nodes
      refine ⟨.functionNotFound function, rfl, ?_⟩
      show Errand.ofNodes args function = _
      unfold Errand.ofNodes
      split <;> simp_all
    · by_cases clusters : space = "clusters"
      · subst clusters
        refine ⟨.functionNotFound function, rfl, ?_⟩
        show Errand.ofClusters args function = _
        unfold Errand.ofClusters
        split <;> simp_all
      · have unknown : functions.entries.any (·.space = space) = false := by
          simp [functions, nodeFunctions, clusterFunctions, Registry.registerAll, Registry.register,
            Registry.empty, Ne.symm nodes, Ne.symm clusters]
        refine ⟨.namespaceNotFound space, ?_, ?_⟩
        · rw [unknown]
          rfl
        · simp only [Errand.ofRequest, nodes, clusters, if_false]

end Client

/-! ## Responses -/

namespace Gateway

open Client

variable {n : Nat} {s : Client.Session} {g : Gateway} {r : Request}

theorem put_self {t : HomeGateway.Session} (hn : g.sessions[n]? = some t) :
    g.put n t g.engine = g := by
  obtain ⟨hlt, heq⟩ := List.getElem?_eq_some_iff.1 hn
  unfold put
  rw [← heq, List.set_getElem_self]

theorem handle_misread (hn : g.sessions[n]? = some (.client s)) {f : Failure}
    (misread : Errand.ofRequest r = .error f) :
    g.handle n r = (some (.fail r.id f.message), g) := by
  simp only [handle, hn, handleClient]
  rcases resolve_errand r with ⟨failure, unknown, unread⟩ | ⟨function, found, does⟩
  · rw [misread] at unread
    cases unread
    rw [unknown]
  · rw [misread] at does
    rw [found]
    simp only [inClient, does (s, g.engine)]
    exact congrArg (Prod.mk _) (put_self hn)

theorem handle_errand (hn : g.sessions[n]? = some (.client s)) {a : Errand}
    (asked : Errand.ofRequest r = .ok a) :
    g.handle n r =
      (some (answer r (a.perform (s, g.engine)).1),
        g.put n (.client (a.perform (s, g.engine)).2.1) (a.perform (s, g.engine)).2.2) := by
  simp only [handle, hn, handleClient]
  rcases resolve_errand r with ⟨failure, unknown, unread⟩ | ⟨function, found, does⟩
  · rw [asked] at unread
    cases unread
  · rw [asked] at does
    rw [found]
    dsimp only
    rw [show function r.args = a.perform from does]
    rfl

end Gateway

end HomeGateway
