/-
  What the host answers outside of connections.

  There are two addresses: that of connections, which wants an upgrade, and
  that of health, which says how many connections are live.  A request for
  permission is granted anywhere.  A target is an address with a query behind a
  question mark; what is behind a number sign means nothing.

  * `reply`: the answer to a method and a target;
  * `upgrade`: the parameters of a connection, or the status of a refusal.
-/
import HomeGateway.Connection.QueryText
import HomeGateway.Json.Basic

namespace HomeGateway.Health

open HomeGateway

/-- The answer to a request outside of connections. -/
structure Reply where
  /-- the status -/
  status : Nat
  /-- the body, if there is one -/
  body : Option Json
deriving Repr

/-- The address of connections. -/
def connectPath : String := "/ws"

/-- The address of health. -/
def healthPath : String := "/health"

/-- A target without what is behind a number sign. -/
def withoutFragment (target : String) : List Char :=
  target.toList.takeWhile (· ≠ '#')

/-- The address of a target. -/
def address (target : String) : String :=
  String.ofList ((withoutFragment target).takeWhile (· ≠ '?'))

/-- The query of a target. -/
def query (target : String) : String :=
  String.ofList (((withoutFragment target).dropWhile (· ≠ '?')).drop 1)

/-- The status of a request for what is not there. -/
def notFound : Nat := 404

/-- The report of health. -/
def report (connections : Nat) : Json :=
  Json.ofPairs [("status", .str "ok"), ("connections", .ofNat connections)]

/-- The answer to a method and a target. -/
def reply (connections : Nat) (method target : String) : Reply :=
  let path := address target
  if method = "OPTIONS" then ⟨200, none⟩
  else if path = healthPath then
    if method = "GET" then ⟨200, some (report connections)⟩
    else if method = "HEAD" then ⟨200, none⟩
    else ⟨405, none⟩
  else if path = connectPath then
    if method = "GET" then ⟨400, none⟩ else ⟨405, none⟩
  else ⟨notFound, none⟩

/-- The parameters of a connection to a target, or the status with which the
    upgrade is refused. -/
def upgrade (target : String) : Except Nat Connection.QueryText.Parameters :=
  if address target = connectPath then .ok (Connection.QueryText.decode (query target))
  else .error notFound

end HomeGateway.Health
