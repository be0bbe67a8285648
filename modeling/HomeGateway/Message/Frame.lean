/-
  Frames: what the gateway sends.

  A frame is the response to one request or an event that no request asked
  for.  A successful response always carries a result, which may be `null`; a
  failed one carries a message.  In a frame the kind stands beside the
  message.
-/
import HomeGateway.Message.Request

namespace HomeGateway

open Json

/-! ## Responses -/

/-- Whether a request succeeded. -/
inductive Verdict where
  /-- it has a result -/
  | success
  /-- it has an error message -/
  | error
deriving DecidableEq, Repr

/-- The name of a verdict. -/
def Verdict.name : Verdict → String
  | .success => "resultSuccess"
  | .error => "resultError"

/-- The verdict of a name. -/
def Verdict.ofName? (s : String) : Option Verdict :=
  [Verdict.success, .error].find? (·.name = s)

/-- The answer to a request. -/
structure Response where
  /-- whether the request succeeded -/
  verdict : Verdict
  /-- the id of the request -/
  id : String
  /-- its result -/
  result : Option Json
  /-- its error message -/
  error : Option String
deriving Repr

/-- A field that is left out if there is no value. -/
def optionalField (name : String) (v : Option Json) : List (String × Json) :=
  match v with
  | some v => [(name, v)]
  | none => []

/-- A field whose `null` is no value. -/
def presentField (name : String) (v : Json) : Option Json :=
  match v.get? name with
  | some .null => none
  | other => other

namespace Response

/-- The answer to a request that succeeded. -/
def ok (id : String) (result : Json) : Response :=
  ⟨.success, id, some result, none⟩

/-- The answer to a request that failed. -/
def fail (id message : String) : Response :=
  ⟨.error, id, none, some message⟩

/-- The shape of a response. -/
def shape : Shape :=
  .record "Response"
    [needed "type" (.name [Verdict.success.name, Verdict.error.name]), needed "id" .text,
     absent "result" .any, absent "error" .text]

/-- The response that a value is the normal form of. -/
def ofJson? (v : Json) : Option Response := do
  let verdict ← v.get? "type" >>= text? >>= Verdict.ofName?
  let id ← v.get? "id" >>= text?
  return ⟨verdict, id, presentField "result" v, presentField "error" v >>= text?⟩

/-- A response as a value. -/
def toJson (r : Response) : Json :=
  .obj (optionalField "error" (r.error.map .str) ++ [("id", .str r.id)] ++
    optionalField "result" r.result ++ [("type", .str r.verdict.name)])

/-- The response in a text. -/
def read (t : String) : Except Problem Response :=
  readAs shape ofJson? t

end Response

/-! ## Events -/

/-- What an event tells. -/
inductive EventKind where
  /-- the session is ready -/
  | ready
  /-- an attribute of a remote node changed -/
  | attributeChanged
  /-- a remote node emitted an event -/
  | eventTriggered
  /-- the connection to a remote node changed -/
  | nodeStateInformation
  /-- an attribute of a virtual device changed -/
  | bridgeEvent
deriving DecidableEq, Repr

/-- The name of a kind of event. -/
def EventKind.name : EventKind → String
  | .ready => "ready"
  | .attributeChanged => "attributeChanged"
  | .eventTriggered => "eventTriggered"
  | .nodeStateInformation => "nodeStateInformation"
  | .bridgeEvent => "bridgeEvent"

/-- A message that no request asked for. -/
structure Event where
  /-- the name of its kind -/
  kind : String
  /-- what it tells -/
  data : Option Json
deriving Repr

/-- An attribute of a virtual device changed. -/
structure BridgeEvent where
  /-- the virtual device -/
  endpointId : String
  /-- the cluster of the attribute -/
  clusterName : String
  /-- the attribute -/
  attributeName : String
  /-- its new value -/
  data : Json
deriving Repr

namespace BridgeEvent

/-- The shape of a bridge event. -/
def shape : Shape :=
  .record "BridgeEvent"
    [needed "endpointId" .text, needed "clusterName" .text, needed "attributeName" .text,
     needed "data" .any]

/-- The bridge event that a value is the normal form of. -/
def ofJson? (v : Json) : Option BridgeEvent := do
  let endpointId ← v.get? "endpointId" >>= text?
  let clusterName ← v.get? "clusterName" >>= text?
  let attributeName ← v.get? "attributeName" >>= text?
  let data ← v.get? "data"
  return ⟨endpointId, clusterName, attributeName, data⟩

/-- A bridge event as a value. -/
def toJson (e : BridgeEvent) : Json :=
  .obj [("attributeName", .str e.attributeName), ("clusterName", .str e.clusterName),
    ("data", e.data), ("endpointId", .str e.endpointId)]

/-- The bridge event in a text. -/
def read (t : String) : Except Problem BridgeEvent :=
  readAs shape ofJson? t

end BridgeEvent

namespace Event

/-- An event of a known kind. -/
def ofKind (kind : EventKind) (data : Option Json) : Event :=
  ⟨kind.name, data⟩

/-- The event that opens a session. -/
def ready (message : String) : Event :=
  ofKind .ready (some (.str message))

/-- The event of a changed virtual device. -/
def ofBridge (e : BridgeEvent) : Event :=
  ofKind .bridgeEvent (some e.toJson)

/-- The shape of an event. -/
def shape : Shape :=
  .record "Event" [needed "type" .text, absent "data" .any]

/-- The event that a value is the normal form of. -/
def ofJson? (v : Json) : Option Event := do
  let kind ← v.get? "type" >>= text?
  return ⟨kind, presentField "data" v⟩

/-- An event as a value. -/
def toJson (e : Event) : Json :=
  .obj (optionalField "data" e.data ++ [("type", .str e.kind)])

/-- The event in a text. -/
def read (t : String) : Except Problem Event :=
  readAs shape ofJson? t

end Event

/-! ## Frames -/

/-- What goes out to a caller. -/
inductive Frame where
  /-- the answer to a request -/
  | response (r : Response)
  /-- an event -/
  | event (e : Event)
deriving Repr

namespace Frame

/-- The shape of a frame. -/
def shape : Shape :=
  .tagged "Frame" "type" "message" [("response", Response.shape), ("event", Event.shape)]

/-- The frame that a value is the normal form of. -/
def ofJson? (v : Json) : Option Frame := do
  let kind ← v.get? "type" >>= text?
  let message ← v.get? "message"
  if kind = "response" then Frame.response <$> Response.ofJson? message
  else Frame.event <$> Event.ofJson? message

/-- A frame as a value. -/
def toJson : Frame → Json
  | .response r => .obj [("message", r.toJson), ("type", .str "response")]
  | .event e => .obj [("message", e.toJson), ("type", .str "event")]

/-- A frame as it is sent. -/
def text (f : Frame) : String :=
  f.toJson.render

/-- The frame in a text. -/
def read (t : String) : Except Problem Frame :=
  readAs shape ofJson? t

end Frame

end HomeGateway
