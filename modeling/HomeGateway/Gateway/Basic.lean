/-
  A gateway: the engine, the sessions on it, and the requests that wait.

  Sessions are numbered as they are opened, and the events of a session go to
  the sink of its number.  A request is answered at once, unless the engine
  holds up what it does; it then waits, with all others of its kind, until the
  engine lets them go, and they go on in the order in which they came.

  * `handle`: a request on a session;
  * `releaseWrites`, `releaseAdditions`: the engine lets waiting work go;
  * `abandon`: what a session had waiting is given up.
-/
import HomeGateway.Bridge.Functions
import HomeGateway.Client.Functions
import HomeGateway.Connection.Parameters

namespace HomeGateway

open Engine Call Connection

/-! ## State -/

/-- A session of either role. -/
inductive Session where
  /-- of a caller that presents virtual devices -/
  | bridge (s : Bridge.Session)
  /-- of a caller that controls nodes -/
  | client (s : Client.Session)

/-- Who waits for a write. -/
inductive Writer where
  /-- a request on a session -/
  | request (session : Nat) (r : Request)
  /-- someone else, by name -/
  | other (who : String)

/-- A write that waits. -/
structure WaitingWrite where
  /-- the write -/
  write : Write
  /-- who waits for it -/
  writer : Writer

/-- An endpoint that waits to be added. -/
structure WaitingAddition where
  /-- the session that adds it -/
  session : Nat
  /-- the request -/
  request : Request
  /-- the generation of the session at that time -/
  generation : Nat
  /-- the aggregator -/
  aggregator : Nat
  /-- the endpoint -/
  definition : Definition

/-- A gateway. -/
structure Gateway where
  /-- the engine -/
  engine : State
  /-- the sessions ever opened -/
  sessions : List Session
  /-- the writes that wait, the first first -/
  writes : List WaitingWrite
  /-- the endpoints that wait to be added, the first first -/
  additions : List WaitingAddition

namespace Gateway

/-- A gateway without sessions. -/
def initial : Gateway :=
  ⟨.initial, [], [], []⟩

/-! ## Acting -/

/-- Do something with the engine. -/
def act {α : Type} (a : Act α) (g : Gateway) : Except Mishap α × Gateway :=
  let (r, e) := a g.engine
  (r, { g with engine := e })

/-- Do something in the session of a bridge. -/
def inBridge {α : Type} (n : Nat) (s : Bridge.Session) (a : Bridge.Doing α) (g : Gateway) :
    Except Mishap α × Gateway :=
  let (r, s, e) := a (s, g.engine)
  (r, { g with engine := e, sessions := g.sessions.set n (.bridge s) })

/-- Do something in the session of a client. -/
def inClient {α : Type} (n : Nat) (s : Client.Session) (a : Client.Doing α) (g : Gateway) :
    Except Mishap α × Gateway :=
  let (r, s, e) := a (s, g.engine)
  (r, { g with engine := e, sessions := g.sessions.set n (.client s) })

/-- Do one thing in a session of a bridge and another in a session of a
    client. -/
def inSession {α : Type} (n : Nat) (b : Bridge.Doing α) (c : Client.Doing α) (g : Gateway) :
    Except Mishap α × Gateway :=
  match g.sessions[n]? with
  | some (.bridge s) => g.inBridge n s b
  | some (.client s) => g.inClient n s c
  | none => (.error (.failed (.notInitialized "Session")), g)

/-- Put something down in the journal. -/
def note (entry : Entry) (g : Gateway) : Gateway :=
  { g with engine := { g.engine with journal := g.engine.journal ++ [entry] } }

/-- Take the journal away. -/
def takeJournal (g : Gateway) : Journal × Gateway :=
  (g.engine.journal, { g with engine := { g.engine with journal := [] } })

/-- Let time pass. -/
def advance (ms : Nat) (g : Gateway) : Gateway :=
  { g with engine := { g.engine with now := g.engine.now + ms } }

/-! ## Sessions -/

/-- Open a session; its number is given. -/
def openSession (p : SessionParams) (options : BridgeOptions) (g : Gateway) : Nat × Gateway :=
  let n := g.sessions.length
  let s := match p with
    | .bridge p => Session.bridge (.new p options n)
    | .client p => Session.client (.new p n)
  (n, { g with sessions := g.sessions ++ [s] })

/-- Initialise a session. -/
def initSession (n : Nat) (g : Gateway) : Except Mishap Unit × Gateway :=
  g.inSession n Bridge.init Client.init

/-- Shut a session down. -/
def shutdownSession (n : Nat) (g : Gateway) : Gateway :=
  (g.inSession n Bridge.shutdown Client.shutdown).2

/-- Give up what a session has waiting. -/
def abandon (n : Nat) (g : Gateway) : Gateway :=
  { g with
    writes := g.writes.filter fun w =>
      match w.writer with
      | .request session _ => session ≠ n
      | .other _ => true
    additions := g.additions.filter (·.session ≠ n) }

/-- How many requests of a session wait. -/
def waitingOf (n : Nat) (g : Gateway) : Nat :=
  (g.writes.filter fun w =>
    match w.writer with
    | .request session _ => session = n
    | .other _ => false).length +
  (g.additions.filter (·.session = n)).length

/-! ## Requests -/

/-- A request on the session of a bridge; there is no response yet if it
    waits. -/
def handleBridge (n : Nat) (s : Bridge.Session) (r : Request) (g : Gateway) :
    Option Response × Gateway :=
  match Bridge.functions.resolve r.space r.function with
  | .error f => (some (.fail r.id f.message), g)
  | .ok f =>
    match g.inBridge n s (f r.args) with
    | (.error m, g) => (some (answer r (.error m)), g)
    | (.ok (.done v), g) => (some (answer r (.ok v)), g)
    | (.ok (.writing w), g) => (none, { g with writes := g.writes ++ [⟨w, .request n r⟩] })
    | (.ok (.adding generation aggregator d), g) =>
      (none, { g with additions := g.additions ++ [⟨n, r, generation, aggregator, d⟩] })

/-- A request on the session of a client. -/
def handleClient (n : Nat) (s : Client.Session) (r : Request) (g : Gateway) :
    Option Response × Gateway :=
  match Client.functions.resolve r.space r.function with
  | .error f => (some (.fail r.id f.message), g)
  | .ok f =>
    let (outcome, g) := g.inClient n s (f r.args)
    (some (answer r outcome), g)

/-- A request on a session. -/
def handle (n : Nat) (r : Request) (g : Gateway) : Option Response × Gateway :=
  match g.sessions[n]? with
  | some (.bridge s) => g.handleBridge n s r
  | some (.client s) => g.handleClient n s r
  | none => (none, g)

/-- A frame on a session; one that is no request is refused at once. -/
def handleText (n : Nat) (frame : String) (g : Gateway) : Option Response × Gateway :=
  match request frame with
  | .ok r => g.handle n r
  | .error refused => (some refused, g)

/-! ## Waiting work -/

/-- Someone other than the caller writes to an endpoint; the write may have to
    wait. -/
def writeByOther (who : String) (own : Bool) (endpoint : Nat) (cluster attr : String)
    (value : Json) (g : Gateway) : Option (Except Mishap Unit) × Gateway :=
  match g.act (startWrite own endpoint cluster attr value) with
  | (.error m, g) => (some (.error m), g)
  | (.ok w, g) =>
    if g.engine.writesHeld then
      (none, { g with writes := g.writes ++ [⟨w, .other who⟩] })
    else
      let (r, g) := g.act (finishWrite w)
      (some r, g)

/-- The end of a write of someone else, for the journal. -/
def written (who : String) : Except Mishap Unit → Entry
  | .ok _ => .written who (.ok ())
  | .error (.failed (.engine e)) => .written who (.error e)
  | .error (.failed f) => .written who (.error (.invalidState f.message))
  | .error (.collapsed reason) => .written who (.error (.invalidState reason))

/-- Finish a write that waited, and tell who waited for it. -/
def finishWaitingWrite (g : Gateway) (w : WaitingWrite) : Gateway :=
  let (r, g) := g.act (finishWrite w.write)
  match w.writer with
  | .request session request =>
    g.note (.answered session (answer request (r.map fun _ => .null)))
  | .other who => g.note (written who r)

/-- Hold up writes. -/
def holdWrites (g : Gateway) : Gateway :=
  { g with engine := { g.engine with writesHeld := true } }

/-- Let writes go. -/
def releaseWrites (g : Gateway) : Gateway :=
  g.writes.foldl finishWaitingWrite
    { g with engine := { g.engine with writesHeld := false }, writes := [] }

/-- Finish an addition that waited, and answer its request. -/
def finishWaitingAddition (g : Gateway) (a : WaitingAddition) : Gateway :=
  match g.sessions[a.session]? with
  | some (.bridge s) =>
    let (r, g) := g.inBridge a.session s
      (Bridge.finishAddition a.generation a.aggregator a.definition)
    g.note (.answered a.session (answer a.request (r.map fun _ => .null)))
  | _ => g

/-- Hold up additions of endpoints. -/
def holdAdditions (g : Gateway) : Gateway :=
  { g with engine := { g.engine with addsHeld := true } }

/-- Let additions of endpoints go. -/
def releaseAdditions (g : Gateway) : Gateway :=
  g.additions.foldl finishWaitingAddition
    { g with engine := { g.engine with addsHeld := false }, additions := [] }

end Gateway

end HomeGateway
