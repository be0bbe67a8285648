/-
  A live connection: the messages it has yet to read, the requests that are
  being worked on, and the frames on their way to its caller.

  A message is a frame for the session, a ping, a pong, or the end of the
  connection, as one that is too large is; bytes that are no text are refused
  with a response of their own.  The reader pauses while its own response waits
  for room; the response to a request that had to wait holds nobody up.

  * `Inbound.reading`: what a message comes to;
  * `take`, `complete`, `hear`: responses and events on their way;
  * `paused`: whether the reader waits for room for its own response.
-/
import HomeGateway.Call.Registry
import HomeGateway.Connection.Outbound
import HomeGateway.Text.Utf8

namespace HomeGateway.Connection

open HomeGateway

/-! ## Messages -/

/-- A message of a caller. -/
inductive Inbound where
  /-- a text -/
  | text (s : String)
  /-- bytes that should be a text -/
  | binary (bytes : List UInt8)
  /-- a ping with a payload of so many bytes -/
  | ping (size : Nat)
  /-- the answer to a ping, with a payload of so many bytes -/
  | pong (size : Nat)
  /-- a close -/
  | close
deriving Repr

/-- How many bytes a ping or its answer may carry. -/
def pingLimit : Nat := 125

/-- What a message comes to. -/
inductive Reading where
  /-- a frame for the session -/
  | frame (text : String)
  /-- the response to bytes that are no text -/
  | refused (r : Response)
  /-- the answer to a ping of so many bytes -/
  | pong (size : Nat)
  /-- nothing -/
  | nothing
  /-- the caller leaves -/
  | closed
  /-- nothing can be read any more -/
  | broken
deriving Repr

/-- What a message comes to on a connection that reads messages of at most
    `limit` bytes. -/
def Inbound.reading (limit : Nat) : Inbound → Reading
  | .ping n => if n > pingLimit then .broken else .pong n
  | .pong n => if n > pingLimit then .broken else .nothing
  | .close => .closed
  | .text s => if s.utf8ByteSize > limit then .broken else .frame s
  | .binary bytes =>
    if bytes.length > limit then .broken
    else
      match Text.Utf8.decode bytes with
      | .ok s => .frame s
      | .error e => .refused (Call.refusal e.message)

/-! ## Connections -/

/-- A frame on its way out. -/
structure Packet where
  /-- the frame -/
  frame : Frame
  /-- whether the reader waits for it -/
  pausing : Bool
  /-- the message that it answers, counted from the first one that was read -/
  answers : Option Nat
deriving Repr

/-- A request that is being worked on. -/
structure Ticket where
  /-- the message that made it -/
  message : Nat
  /-- the request -/
  request : Request
deriving Repr

/-- What becomes of a message. -/
inductive Taken where
  /-- it is answered at once -/
  | answered (r : Response)
  /-- its request is being worked on -/
  | awaited (r : Request)
  /-- nothing -/
  | ignored
deriving Repr

/-- What becomes of a frame, given the response to it if there is one at once. -/
def Taken.ofFrame (frame : String) : Option Response → Taken
  | some r => .answered r
  | none =>
    match Call.request frame with
    | .ok r => .awaited r
    | .error refused => .answered refused

/-- A live connection. -/
structure Link where
  /-- its number -/
  number : Nat
  /-- the number of its session -/
  session : Nat
  /-- what is on its way out -/
  outbound : Outbound Packet
  /-- the messages that were not read yet -/
  inbox : List Inbound
  /-- how many messages were read -/
  heard : Nat
  /-- the requests that are being worked on -/
  inFlight : List Ticket
deriving Repr

namespace Link

/-- A connection on which nothing happened yet. -/
def new (number session capacity : Nat) : Link :=
  ⟨number, session, .empty capacity, [], 0, []⟩

/-- Whether the reader pauses. -/
def paused (l : Link) : Bool :=
  l.outbound.waiting.any (·.pausing)

/-- An event for the caller. -/
def hear (e : Event) (l : Link) : Link :=
  { l with outbound := (l.outbound.offer ⟨.event e, false, none⟩).2 }

/-- The response of the reader to the message it has just read. -/
def respond (r : Response) (l : Link) : Link :=
  { l with outbound := (l.outbound.submit ⟨.response r, true, some l.heard⟩).2 }

/-- A message was read. -/
def take (t : Taken) (l : Link) : Link :=
  let after : Link := match t with
    | .answered r => l.respond r
    | .awaited q => { l with inFlight := l.inFlight ++ [⟨l.heard, q⟩] }
    | .ignored => l
  { after with heard := l.heard + 1 }

/-- A request was worked out. -/
def finish (t : Ticket) (r : Response) (l : Link) : Link :=
  { l with
    outbound := (l.outbound.submit ⟨.response r, false, some t.message⟩).2
    inFlight := l.inFlight.filter (·.message ≠ t.message) }

/-- The response to a request that had to wait: of those with its id, the one that waited
    longest. -/
def complete (r : Response) (l : Link) : Link :=
  match l.inFlight.find? (·.request.id = r.id) with
  | some t => l.finish t r
  | none => l

/-- The caller sends messages, back to back. -/
def receive (messages : List Inbound) (l : Link) : Link :=
  { l with inbox := l.inbox ++ messages }

/-- Take the frames that are queued now. -/
def drain (l : Link) : List Frame × Link :=
  let (packets, outbound) := l.outbound.drain
  (packets.map (·.frame), { l with outbound := outbound })

end Link

end HomeGateway.Connection
