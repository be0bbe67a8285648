/-
  The host: connections and their lives.

  A connection is let in if there is a free slot, its parameters can be read,
  nobody holds its identity, its session can be initialised, and the host is
  not shutting down; otherwise it is closed with a code and a reason.  Its
  messages are read one after the other: the response to a request that is
  answered at once is queued before the next message is read, and a request
  that waits holds nobody up.  The writer takes the frames that are queued
  whenever the reader pauses.

  However a connection ends, its waiting requests are given up, its session is
  shut down, and its identity and its slot become free.

  Setting a connection up and taking it down goes stage by stage, so that those
  of several connections can alternate.

  * `proceed`: one stage of setting up or taking down;
  * `connect`: a new connection, through all its stages;
  * `read`, `write`, `settle`: messages come in, frames go out;
  * `finish`: the end of a connection; `stop`: the end of all.
-/
import HomeGateway.Connection.Admission
import HomeGateway.Connection.Link
import HomeGateway.Gateway.Basic

namespace HomeGateway

open Engine Connection

/-! ## What a caller sees -/

/-- What a caller sees. -/
inductive Outcome where
  /-- a frame -/
  | frame (f : Frame)
  /-- the answer to a ping of so many bytes -/
  | pong (size : Nat)
  /-- the connection is closed -/
  | close (code : Nat) (reason : String)
  /-- the connection is gone -/
  | gone
deriving Repr

namespace Close

/-- The code of a regular close. -/
def normal : Nat := 1000

/-- The code of a close because the connection cannot be set up. -/
def refused : Nat := 1002

/-- The code of a close because there is no room now. -/
def busy : Nat := 1013

/-- How many bytes a reason may have. -/
def reasonLimit : Nat := 123

/-- A close; its reason is cut to the limit between two characters. -/
def outcome (code : Nat) (reason : String) : Outcome :=
  .close code (Text.Utf8.cut reasonLimit reason)

end Close

/-- The message of the event that opens a session. -/
def readyMessage : String := "Controller initialized"

/-- The reason of a close by a host that shuts down. -/
def shutdownReason : String := "Server shutting down"

/-- The reason of a close by a host without a free slot. -/
def busyReason : String := "Too many connections"

/-! ## State -/

/-- How far the setting up or the taking down of a connection has come. -/
inductive Stage where
  /-- it has a slot -/
  | admitted (query : QueryText.Parameters)
  /-- its parameters were read -/
  | presented (p : SessionParams)
  /-- it holds its identity -/
  | identified (p : SessionParams)
  /-- its session is initialised -/
  | opened (session : Nat)
  /-- it is over, and its session is still to be shut down -/
  | leaving (session : Nat) (farewell : Option Outcome)
  /-- its session is shut down -/
  | shut (session : Nat)
  /-- it holds no identity, but still a slot -/
  | nameless

/-- How many stages there are. -/
def Stage.count : Nat := 7

/-- A connection that is being set up or taken down. -/
structure Attempt where
  /-- its number -/
  number : Nat
  /-- how far it has come -/
  stage : Stage

/-- A host. -/
structure Host where
  /-- how it was started -/
  config : ServerConfig
  /-- the gateway -/
  gateway : Gateway
  /-- the slots -/
  limiter : Limiter
  /-- the identities -/
  identities : Identities
  /-- the connections that are being set up or taken down -/
  attempts : List Attempt
  /-- the live connections -/
  links : List Link
  /-- how many connections there ever were -/
  count : Nat
  /-- whether it shuts down -/
  stopping : Bool
  /-- what callers saw, by connection -/
  seen : List (Nat × Outcome)
  /-- what others than callers were told -/
  told : Journal

namespace Host

/-- A host without connections. -/
def initial (config : ServerConfig) : Host :=
  ⟨config, .initial, ⟨config.maxConnections, 0⟩, .empty, [], [], 0, false, [], []⟩

/-- Let a caller see something. -/
def reveal (c : Nat) (o : Outcome) (h : Host) : Host :=
  { h with seen := h.seen ++ [(c, o)] }

/-- A live connection. -/
def link? (c : Nat) (h : Host) : Option Link :=
  h.links.find? (·.number = c)

/-- Change a live connection. -/
def changeLink (c : Nat) (f : Link → Link) (h : Host) : Host :=
  { h with links := h.links.map fun l => if l.number = c then f l else l }

/-! ## From the journal to the connections -/

/-- Change the live connection of a session. -/
def changeSession (n : Nat) (f : Link → Link) (h : Host) : Host :=
  { h with links := h.links.map fun l => if l.session = n then f l else l }

/-- Hand one entry of the journal on. -/
def forward (h : Host) : Entry → Host
  | .event sink e => h.changeSession sink (·.hear e)
  | .answered session r => h.changeSession session (·.complete r)
  | e => { h with told := h.told ++ [e] }

/-- Hand the journal on. -/
def flush (h : Host) : Host :=
  let (entries, g) := h.gateway.takeJournal
  entries.foldl forward { h with gateway := g }

/-- Do something with the gateway and hand on what is told. -/
def within {α : Type} (f : Gateway → α × Gateway) (h : Host) : α × Host :=
  let (x, g) := f h.gateway
  (x, { h with gateway := g }.flush)

/-! ## Stages -/

/-- How far the setting up or the taking down of a connection has come. -/
def stage? (c : Nat) (h : Host) : Option Stage :=
  (h.attempts.find? (·.number = c)).map (·.stage)

/-- A connection came to another stage. -/
def reach (c : Nat) (stage : Stage) (h : Host) : Host :=
  { h with attempts := h.attempts.map fun a => if a.number = c then ⟨c, stage⟩ else a }

/-- A connection is no longer being set up or taken down. -/
def pass (c : Nat) (h : Host) : Host :=
  { h with attempts := h.attempts.filter (·.number ≠ c) }

/-- The message of a mishap while a session is initialised. -/
def setupMessage : Mishap → String
  | .failed f => f.message
  | .collapsed reason => reason

/-- A connection with a slot presents its parameters. -/
def present (c : Nat) (query : QueryText.Parameters) (h : Host) : Host :=
  match SessionParams.ofQuery query with
  | .error f => (h.reveal c (Close.outcome Close.refused f.message)).reach c .nameless
  | .ok p => h.reach c (.presented p)

/-- A connection reserves its identity. -/
def identify (c : Nat) (p : SessionParams) (h : Host) : Host :=
  match h.identities.reserve p.identity c with
  | .error f => (h.reveal c (Close.outcome Close.refused f.message)).reach c .nameless
  | .ok identities => { h with identities := identities }.reach c (.identified p)

/-- The session of a connection is opened and initialised. -/
def establish (c : Nat) (p : SessionParams) (h : Host) : Host :=
  let (n, g) := h.gateway.openSession p h.config.bridge
  match g.initSession n with
  | (.error m, g) =>
    { h with gateway := g }.reach c
      (.leaving n (some (Close.outcome Close.refused (setupMessage m))))
  | (.ok (), g) => { h with gateway := g }.reach c (.opened n)

/-- A connection becomes live, unless the host shuts down. -/
def enliven (c n : Nat) (h : Host) : Host :=
  if h.stopping then
    h.reach c (.leaving n (some (Close.outcome Close.normal shutdownReason)))
  else
    let link := (Link.new c n h.config.queueCapacity).hear (.ready readyMessage)
    { h.pass c with links := h.links ++ [link] }.flush

/-- The session of a connection is shut down; its waiting requests are given up. -/
def close (c n : Nat) (farewell : Option Outcome) (h : Host) : Host :=
  let h := { h with gateway := (h.gateway.abandon n).shutdownSession n }.flush.reach c (.shut n)
  match farewell with
  | some o => h.reveal c o
  | none => h

/-- A connection comes to its next stage. -/
def proceed (c : Nat) (h : Host) : Host :=
  match h.stage? c with
  | none => h
  | some (.admitted query) => h.present c query
  | some (.presented p) => h.identify c p
  | some (.identified p) => h.establish c p
  | some (.opened n) => h.enliven c n
  | some (.leaving n farewell) => h.close c n farewell
  | some (.shut _) => { h with identities := h.identities.release c }.reach c .nameless
  | some .nameless => { h with limiter := h.limiter.release }.pass c

/-- A connection goes through so many stages. -/
def pursue (c : Nat) : Nat → Host → Host
  | 0, h => h
  | n + 1, h => pursue c n (h.proceed c)

/-! ## A new connection -/

/-- A new connection asks for a slot; its number is given. -/
def arrive (query : QueryText.Parameters) (h : Host) : Nat × Host :=
  let c := h.count
  let h := { h with count := c + 1 }
  (c,
    match h.limiter.acquire? with
    | none => h.reveal c (Close.outcome Close.busy busyReason)
    | some limiter =>
      { h with limiter := limiter, attempts := h.attempts ++ [⟨c, .admitted query⟩] })

/-- A new connection; its number is given. -/
def connect (query : QueryText.Parameters) (h : Host) : Nat × Host :=
  let (c, h) := h.arrive query
  (c, h.pursue c Stage.count)

/-! ## The end of a connection -/

/-- A live connection is over. -/
def depart (l : Link) (farewell : Option Outcome) (h : Host) : Host :=
  { h with
    links := h.links.filter (·.number ≠ l.number)
    attempts := h.attempts ++ [⟨l.number, .leaving l.session farewell⟩] }

/-- End a connection: give up its waiting requests, shut its session down, free
    its identity and its slot. -/
def finish (l : Link) (farewell : Option Outcome) (h : Host) : Host :=
  (h.depart l farewell).pursue l.number Stage.count

/-- Take what is queued for a connection and let the caller see it. -/
def write (c : Nat) (h : Host) : Host :=
  match h.link? c with
  | none => h
  | some l =>
    let (frames, l) := l.drain
    frames.foldl (fun h f => h.reveal c (.frame f)) (h.changeLink c fun _ => l)

/-- A connection whose messages cannot be read any more is gone.  What is
    queued still goes out if requests have to be given up first. -/
def breakOff (l : Link) (h : Host) : Host :=
  let h := if h.gateway.waitingOf l.session > 0 then h.write l.number else h
  h.finish l (some .gone)

/-- The caller of a connection leaves. -/
def leave (c : Nat) (h : Host) : Host :=
  match h.link? c with
  | some l => h.finish l none
  | none => h

/-- No more connections are let in. -/
def signal (h : Host) : Host :=
  { h with stopping := true }

/-- End all connections, and let no more in. -/
def stop (h : Host) : Host :=
  h.links.foldl
    (fun h l => h.finish l (some (Close.outcome Close.normal shutdownReason))) h.signal

/-! ## Messages -/

/-- What became of a message; say whether the reader goes on. -/
def taken (c : Nat) (t : Taken) (h : Host) : Bool × Host :=
  let h := h.changeLink c (·.take t)
  (match h.link? c with
    | some l => !l.paused
    | none => false,
   h)

/-- A frame that was read. -/
def take (l : Link) (frame : String) (h : Host) : Bool × Host :=
  let (answer, h) := h.within (·.handleText l.session frame)
  h.taken l.number (.ofFrame frame answer)

/-- One message; say whether the reader goes on. -/
def readOne (l : Link) (m : Inbound) (h : Host) : Bool × Host :=
  match m.reading h.config.maxMessageSize with
  | .frame s => h.take l s
  | .refused r => h.taken l.number (.answered r)
  | .pong n => (h.reveal l.number (.pong n)).taken l.number .ignored
  | .nothing => h.taken l.number .ignored
  | .closed => (false, h.finish l none)
  | .broken => (false, h.breakOff l)

/-- Read messages until the reader has to pause. -/
def read (l : Link) : List Inbound → Host → Host
  | [], h => h.changeLink l.number fun l => { l with inbox := [] }
  | m :: rest, h =>
    match h.readOne l m with
    | (true, h) => read l rest h
    | (false, h) => h.changeLink l.number fun l => { l with inbox := rest }

/-- Read and write in turn, for at most so many turns. -/
def turns : Nat → Nat → Host → Host
  | 0, _, h => h
  | n + 1, c, h =>
    match h.link? c with
    | none => h
    | some l =>
      let h := if l.paused then h else h.read l l.inbox
      turns n c (h.write c)

/-- Read and write until there is nothing to do for a connection: each turn
    either reads a message or lets a waiting response move up. -/
def settleLink (c : Nat) (h : Host) : Host :=
  match h.link? c with
  | none => h
  | some l => turns (2 * l.inbox.length + l.outbound.waiting.length + 1) c h

/-- Read and write until there is nothing to do. -/
def settle (h : Host) : Host :=
  (h.links.map (·.number)).foldl (fun h c => h.settleLink c) h

/-- A caller sends messages, back to back. -/
def receive (c : Nat) (messages : List Inbound) (h : Host) : Host :=
  h.changeLink c (·.receive messages)

/-! ## The state as others see it -/

/-- How many connections are live. -/
def connections (h : Host) : Nat :=
  h.limiter.live

/-- Take away what callers saw and others were told. -/
def takeSeen (h : Host) : List (Nat × Outcome) × Journal × Host :=
  (h.seen, h.told, { h with seen := [], told := [] })

end Host

end HomeGateway
