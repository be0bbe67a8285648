/-
  Who a connection is.

  A connection plays one of two roles and has a name; at most one live
  connection may hold a pair of role and name.
-/

namespace HomeGateway

/-- What a connection is for. -/
inductive Role where
  /-- it controls remote nodes -/
  | client
  /-- it presents virtual devices -/
  | bridge
deriving DecidableEq, Repr

/-- The role that a `service` parameter asks for; the default is a client. -/
def Role.ofService (service : Option String) : Role :=
  if service = some "bridge" then .bridge else .client

/-- The name of a role. -/
def Role.name : Role → String
  | .client => "client"
  | .bridge => "bridge"

/-- A role and a name. -/
structure Identity where
  /-- what the connection is for -/
  role : Role
  /-- the name the caller chose -/
  name : String
deriving DecidableEq, Repr

/-- An identity as text. -/
def Identity.text (i : Identity) : String :=
  i.role.name ++ "-" ++ i.name

/-- An identity as it is named to a caller. -/
def Identity.description (i : Identity) : String :=
  match i.role with
  | .client => "Controller with name " ++ i.name
  | .bridge => "Bridge with uniqueId " ++ i.name

end HomeGateway
