/-
  Positional arguments.

  A function says how many arguments it needs at least and takes at most.
  Those left out are `null`; all are then read from left to right, and the
  first that cannot be read is reported.

  * `padded`: as many arguments as a function takes, or what is wrong with their number;
  * `NodeId.read`: a node id is a whole number or a text of one.
-/
import HomeGateway.Json.Shape
import HomeGateway.Text.Blank
import HomeGateway.Failure

namespace HomeGateway.Call

open HomeGateway Json

/-! ## How many -/

/-- The failure of arguments that do not fit a function. -/
def misfit (function reason : String) : Failure :=
  .invalidArguments function reason

/-- The arguments of a function, those left out being `null`. -/
def padded (function : String) (required arity : Nat) (args : List Json) :
    Except Failure (List Json) :=
  if args.length < required then
    .error (misfit function ("expected at least " ++ Text.showNat required ++ " arguments, got " ++
      Text.showNat args.length))
  else if args.length > arity then
    .error (misfit function ("expected at most " ++ Text.showNat arity ++ " arguments, got " ++
      Text.showNat args.length))
  else
    .ok (args ++ List.replicate (arity - args.length) .null)

/-- Refuse arguments for a function that takes none. -/
def noArguments (function : String) (args : List Json) : Except Failure Unit :=
  if args.isEmpty then .ok ()
  else .error (misfit function ("expected no arguments, got " ++ Text.showNat args.length))

/-! ## One argument -/

/-- The reading of one argument. -/
abbrev Argument (α : Type) := Json → Except Problem α

/-- The reading of a value of a shape, and what its normal form stands for. -/
def ofShape {α : Type} (s : Shape) (f : Json → Option α) : Argument α := fun v =>
  match s.readValue v with
  | .error p => .error p
  | .ok v =>
    match f v with
    | some x => .ok x
    | none => .error .malformed

/-- A text. -/
def text : Argument String := ofShape .text text?

/-- A whole number. -/
def whole (w : Width) : Argument Nat := ofShape (.whole w) nat?

/-- An object. -/
def object : Argument Fields := ofShape .map fields?

/-- Any value. -/
def any : Argument Json := .ok

/-- An argument that may be `null`. -/
def optional {α : Type} (a : Argument α) : Argument (Option α) := fun v =>
  if v.isNull then .ok none
  else
    match a v with
    | .ok x => .ok (some x)
    | .error p => .error p

/-! ## Node ids -/

namespace NodeId

/-- The problem of a value that is neither a number nor a text. -/
def neither : Problem :=
  .refused "data did not match any variant of untagged enum RawNodeId"

/-- The number that a text stands for, white space around it apart. -/
def ofText? (s : String) : Option Nat :=
  Text.readUnsigned Width.bits64.max (Text.trim s)

/-- A node id: a whole number of sixty-four bits, or a text of one. -/
def read : Argument Nat
  | .int i => if 0 ≤ i ∧ i ≤ Width.bits64.max then .ok i.toNat else .error neither
  | .str s =>
    match ofText? s with
    | some n => .ok n
    | none => .error (.refused ("invalid node id " ++ Text.quote s))
  | _ => .error neither

end NodeId

/-! ## All arguments -/

/-- The reading of arguments from left to right. -/
abbrev Reading (α : Type) := StateT (List Json) (Except Problem) α

/-- Read the next argument. -/
def next {α : Type} (a : Argument α) : Reading α := fun args =>
  match args with
  | [] => (a .null).map (·, [])
  | v :: rest => (a v).map (·, rest)

/-- Read the arguments of a function. -/
def arguments {α : Type} (function : String) (required arity : Nat) (r : Reading α)
    (args : List Json) : Except Failure α :=
  match padded function required arity args with
  | .error f => .error f
  | .ok all =>
    match r all with
    | .ok (x, _) => .ok x
    | .error p => .error (misfit function p.message)

end HomeGateway.Call
