/-
  Laying one value over another.

  `overlay below above`: two objects are joined field by field, and a field
  that both have is overlaid in turn; a `null` above leaves what is below, and
  adds nothing.  Unless both are objects, the value above is taken as it is,
  `null` included.
-/
import HomeGateway.Json.Basic

namespace HomeGateway.Json

mutual

/-- Lay `above` over `below`; the order of arguments follows the recursion. -/
def layOver : Json → Json → Json
  | .obj above, .obj below => .obj (layFieldsOver above below)
  | above, _ => above
termination_by structural above => above

/-- Lay fields over fields. -/
def layFieldsOver : List (String × Json) → Fields → Fields
  | [], below => below
  | (name, v) :: rest, below =>
    layFieldsOver rest
      (if v.isNull then below
       else below.insert name
        (match below.get? name with
         | none => v
         | some w => layOver v w))
termination_by structural above => above

end

/-- Lay `above` over `below`. -/
def overlay (below above : Json) : Json :=
  layOver above below

end HomeGateway.Json
