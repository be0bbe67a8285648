/-
  Functions that can be called.

  A registry holds functions under a namespace and a name; of two registered
  under the same names the later counts.  Looking one up fails in one of two
  ways: the namespace is unknown, or it has no such function.

  * `resolve`: the handler of a function, or what is wrong with its names;
  * `answer`: the response to a request whose outcome is known.
-/
import HomeGateway.Message.Frame
import HomeGateway.Failure

namespace HomeGateway.Call

open HomeGateway

/-- A registered function. -/
structure Entry (α : Type) where
  /-- the namespace -/
  space : String
  /-- the name -/
  function : String
  /-- what runs when it is called -/
  handler : α

/-- Registered functions, the latest first. -/
structure Registry (α : Type) where
  /-- the functions -/
  entries : List (Entry α)

namespace Registry

variable {α : Type}

/-- No functions. -/
def empty : Registry α := ⟨[]⟩

/-- Register a function. -/
def register (r : Registry α) (space function : String) (handler : α) : Registry α :=
  ⟨⟨space, function, handler⟩ :: r.entries⟩

/-- Register functions of one namespace. -/
def registerAll (r : Registry α) (space : String) (functions : List (String × α)) : Registry α :=
  functions.foldl (fun r f => r.register space f.1 f.2) r

/-- The handler of a function. -/
def resolve (r : Registry α) (space function : String) : Except Failure α :=
  if r.entries.any (·.space = space) then
    match r.entries.find? fun e => e.space = space ∧ e.function = function with
    | some e => .ok e.handler
    | none => .error (.functionNotFound function)
  else
    .error (.namespaceNotFound space)

/-- Whether a function is registered. -/
def has (r : Registry α) (space function : String) : Bool :=
  match r.resolve space function with
  | .ok _ => true
  | .error _ => false

/-- The full names of all functions, in ascending order. -/
def names (r : Registry α) : List String :=
  (r.entries.map fun e => e.space ++ "." ++ e.function).eraseDups.mergeSort fun a b => a ≤ b

end Registry

/-! ## Requests and responses -/

/-- The full name of the function that a request calls. -/
def fullName (r : Request) : String :=
  r.space ++ "." ++ r.function

/-- The message of a mishap inside a function. -/
def mishapMessage (function : String) : Mishap → String
  | .failed f => f.message
  | .collapsed reason => collapseMessage function reason

/-- The response to a request with this outcome. -/
def answer (r : Request) : Except Mishap Json → Response
  | .ok v => .ok r.id v
  | .error m => .fail r.id (mishapMessage (fullName r) m)

/-- The response to a frame that is no request. -/
def refusal (reason : String) : Response :=
  .fail "" (Failure.parse ("Invalid request: " ++ reason)).message

/-- The request in a frame, or the response to a frame that holds none. -/
def request (frame : String) : Except Response Request :=
  match Request.read frame with
  | .ok r => .ok r
  | .error p => .error (refusal p.message)

end HomeGateway.Call
