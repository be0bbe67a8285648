/-
  What a caller asks of its bridge.

  A request names a function and gives it arguments; `Ask.ofRequest` says what
  is asked for, or why the request makes no sense.  The functions of a bridge do
  no more than to read this and to do it.

  * `resolve_read`: every function does what its arguments ask for;
  * `handle_unread`, `handle_finished`: the response to a request.
-/
import HomeGateway.Proofs.Seating

namespace HomeGateway

open Device Engine Bridge Call

/-- What a caller can ask of its bridge. -/
inductive Ask where
  /-- make an endpoint -/
  | make (spec : Spec)
  /-- write an attribute -/
  | write (id cluster attr : String) (value : Json)
  /-- begin anew -/
  | reset
  /-- list the endpoints -/
  | list
  /-- bring the server node on the network -/
  | start
  /-- tell how the server node can be paired -/
  | pairing
  /-- let the server node be paired -/
  | openWindow
  /-- no longer let it be paired -/
  | closeWindow

namespace Ask

/-- What a function and its arguments ask for. -/
def read (args : List Json) (function : String) : Except Failure Ask :=
  match function with
  | "addEndpoint" => (arguments function 2 7 readSpec args).map .make
  | "setEndpointState" =>
    (arguments function 4 4 readAttribute args).map fun (id, cluster, attr, value) =>
      .write id cluster attr value
  | "resetEndpoints" | "resetBridge" => (noArguments "resetEndpoints" args).map fun _ => .reset
  | "listEndpoints" => (noArguments function args).map fun _ => .list
  | "startBridge" => (noArguments function args).map fun _ => .start
  | "getCommissioningState" => (noArguments function args).map fun _ => .pairing
  | "openCommissioningWindow" => (noArguments function args).map fun _ => .openWindow
  | "closeCommissioningWindow" => (noArguments function args).map fun _ => .closeWindow
  | _ => .error (.functionNotFound function)

/-- What a request asks for. -/
def ofRequest (r : Request) : Except Failure Ask :=
  if r.space = Bridge.space then read r.args r.function else .error (.namespaceNotFound r.space)

/-- Do what is asked. -/
def perform : Ask → Doing Progress
  | make spec => addEndpoint spec
  | write id cluster attr value => setState id cluster attr value
  | reset => do Bridge.reset; return .done .null
  | list => do return .done (← listEndpoints)
  | start => do Bridge.start; return .done .null
  | pairing => do return .done (← commissioningState)
  | openWindow => do openCommissioningWindow; return .done .null
  | closeWindow => do closeCommissioningWindow; return .done .null

end Ask

/-! ## The functions of a bridge -/

/-- A function does what its arguments ask for. -/
def Does (f : Bridge.Function) (args : List Json) : Except Failure Ask → Prop
  | .ok a => f args = a.perform
  | .error failure => ∀ p, f args p = (.error (.failed failure), p)

theorem does_read {f : Bridge.Function} {args : List Json} {α : Type} {read : Except Failure α}
    {ask : α → Ask} (hf : f args = do (ask (← Use.ofExcept read)).perform) :
    Does f args (read.map ask) := by
  cases read with
  | ok x =>
    show f args = _
    rw [hf]
    rfl
  | error failure =>
    intro p
    rw [hf]
    rfl

theorem resolve_read (args : List Json) (function : String) :
    (Bridge.functions.resolve space function = .error (.functionNotFound function) ∧
      Ask.read args function = .error (.functionNotFound function)) ∨
    ∃ f, Bridge.functions.resolve space function = .ok f ∧
      Does f args (Ask.read args function) := by
  by_cases known : ∃ e ∈ Bridge.functions.entries, e.function = function
  · right
    obtain ⟨e, he, rfl⟩ := known
    simp only [Bridge.functions, Registry.registerAll, Registry.register, Registry.empty,
      List.foldl_cons, List.foldl_nil, List.mem_cons, List.not_mem_nil, or_false] at he
    rcases he with rfl | rfl | rfl | rfl | rfl | rfl | rfl | rfl | rfl
    all_goals exact ⟨_, rfl, does_read rfl⟩
  · left
    have other : ∀ e ∈ Bridge.functions.entries, e.function ≠ function := by simpa using known
    constructor
    · have missing : Bridge.functions.entries.find?
          (fun e => e.space = space ∧ e.function = function) = none := by
        rw [List.find?_eq_none]
        intro e he
        simp [other e he]
      unfold Registry.resolve
      rw [missing]
      rfl
    · simp only [Bridge.functions, Registry.registerAll, Registry.register, Registry.empty,
        List.foldl_cons, List.foldl_nil, List.forall_mem_cons] at other
      unfold Ask.read
      split <;> simp_all

theorem resolve_elsewhere {name : String} (h : name ≠ space) (function : String) :
    Bridge.functions.resolve name function = .error (.namespaceNotFound name) := by
  have missing : Bridge.functions.entries.any (·.space = name) = false := by
    simp [Bridge.functions, Registry.registerAll, Registry.register, Registry.empty, Ne.symm h]
  simp [Registry.resolve, missing]

/-! ## Responses -/

/-- The outcome of a request that did not have to wait. -/
def finished : Except Failure Json → Except Mishap Progress
  | .ok v => .ok (.done v)
  | .error f => .error (.failed f)

/-- The response to a request. -/
def reply (r : Request) : Except Failure Json → Response
  | .ok v => .ok r.id v
  | .error f => .fail r.id f.message

namespace Gateway

variable {n : Nat} {s s' : Bridge.Session} {g : Gateway} {e' : State} {r : Request} {a : Ask}

theorem acted_self (h : g.sessions[n]? = some (.bridge s)) : g.acted n s g.engine = g := by
  obtain ⟨hlt, heq⟩ := List.getElem?_eq_some_iff.1 h
  unfold acted
  rw [← heq, List.set_getElem_self]

theorem handle_unread (h : g.sessions[n]? = some (.bridge s)) {f : Failure}
    (unread : Ask.ofRequest r = .error f) : g.handle n r = (some (reply r (.error f)), g) := by
  unfold Ask.ofRequest at unread
  simp only [handle, h, handleBridge, reply]
  split at unread
  · rename_i hs
    rw [hs]
    rcases resolve_read r.args r.function with ⟨missing, misread⟩ | ⟨handler, found, does⟩
    · rw [misread] at unread
      cases unread
      rw [missing]
    · rw [unread] at does
      simp only [found, inBridge_eq (does (s, g.engine)), acted_self h]
      rfl
  · rename_i hs
    cases unread
    rw [resolve_elsewhere hs]

theorem handle_finished (h : g.sessions[n]? = some (.bridge s)) (read : Ask.ofRequest r = .ok a)
    {result : Except Failure Json} (run : a.perform (s, g.engine) = (finished result, s', e')) :
    g.handle n r = (some (reply r result), g.acted n s' e') := by
  unfold Ask.ofRequest at read
  split at read
  · rename_i hs
    rcases resolve_read r.args r.function with ⟨-, misread⟩ | ⟨handler, found, does⟩
    · rw [misread] at read
      cases read
    · rw [read] at does
      have ran : g.inBridge n s (handler r.args) = (finished result, g.acted n s' e') := by
        rw [does]
        exact inBridge_eq run
      simp only [handle, h, handleBridge, hs, found, ran]
      cases result <;> rfl
  · cases read

end Gateway

end HomeGateway
