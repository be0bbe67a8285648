/-
  Requests: what a caller sends.

  A request names a function in a namespace and gives it positional arguments;
  its id is echoed in the response.  Arguments that are missing or `null` are
  none.
-/
import HomeGateway.Json.Shape

namespace HomeGateway

open Json

/-- A call of a function. -/
structure Request where
  /-- echoed in the response -/
  id : String
  /-- the namespace of the function -/
  space : String
  /-- the function -/
  function : String
  /-- its arguments -/
  args : List Json
deriving Repr

namespace Request

/-- The shape of a request. -/
def shape : Shape :=
  .record "Request"
    [needed "id" .text, needed "namespace" .text, needed "function" .text,
     defaulted "args" (.withDefault (.arr []) .list) (.arr [])]

/-- The request that a value is the normal form of. -/
def ofJson? (v : Json) : Option Request := do
  let id ← v.get? "id" >>= text?
  let space ← v.get? "namespace" >>= text?
  let function ← v.get? "function" >>= text?
  let args ← v.get? "args" >>= items?
  return ⟨id, space, function, args⟩

/-- A request as a value. -/
def toJson (r : Request) : Json :=
  .obj [("args", .arr r.args), ("function", .str r.function), ("id", .str r.id),
    ("namespace", .str r.space)]

end Request

/-- The typed reading of a text: its normal form, then what it stands for. -/
def readAs {α : Type} (shape : Shape) (ofJson? : Json → Option α) (t : String) :
    Except Problem α :=
  match shape.readText t with
  | .error p => .error p
  | .ok v =>
    match ofJson? v with
    | some x => .ok x
    | none => .error .malformed

/-- The request in a text. -/
def Request.read (t : String) : Except Problem Request :=
  readAs shape ofJson? t

end HomeGateway
