/-
  What is on its way to a caller.

  Frames go out in the order in which they were queued.  A queue has room for
  a number of frames.  An event that finds no room is lost, and counted; a
  response waits for room, first come first served, and room that becomes free
  belongs to those who wait.  When the writer goes away everything that waits
  is lost too.

  * `offer`: queue something without waiting; `submit`: queue it, waiting if need be;
  * `receive`: take the next frame;
  * `length_receive`: a queue on which something waits stays full.
-/

namespace HomeGateway.Connection

variable {α : Type}

/-- Frames on their way to a caller. -/
structure Outbound (α : Type) where
  /-- how many frames there is room for -/
  capacity : Nat
  /-- the queued frames, the next first -/
  queue : List α
  /-- the responses that wait for room, the first first -/
  waiting : List α
  /-- how many frames were lost -/
  dropped : Nat
  /-- whether the writer is there -/
  alive : Bool
deriving Repr

/-- What became of a response. -/
inductive Submission where
  /-- it is queued -/
  | queued
  /-- it waits for room -/
  | waiting
  /-- it is lost -/
  | lost
deriving DecidableEq, Repr

namespace Outbound

/-- An empty queue. -/
def empty (capacity : Nat) : Outbound α :=
  ⟨capacity, [], [], 0, true⟩

/-- Whether there is room for a frame. -/
def hasRoom (o : Outbound α) : Bool :=
  o.alive && o.queue.length < o.capacity

/-- Lose a frame. -/
def lose (o : Outbound α) : Outbound α :=
  { o with dropped := o.dropped + 1 }

/-- Queue a frame without waiting; say whether it was queued. -/
def offer (x : α) (o : Outbound α) : Bool × Outbound α :=
  if o.hasRoom then (true, { o with queue := o.queue ++ [x] })
  else (false, o.lose)

/-- Queue a frame, waiting for room if need be. -/
def submit (x : α) (o : Outbound α) : Submission × Outbound α :=
  if o.hasRoom then (.queued, { o with queue := o.queue ++ [x] })
  else if o.alive then (.waiting, { o with waiting := o.waiting ++ [x] })
  else (.lost, o.lose)

/-- Take the next frame; the first that waits moves up. -/
def receive (o : Outbound α) : Option α × Outbound α :=
  match o.queue with
  | [] => (none, o)
  | x :: rest =>
    (some x, { o with queue := rest ++ o.waiting.take 1, waiting := o.waiting.drop 1 })

/-- Take the next frames, at most so many. -/
def receiveMany : Nat → Outbound α → List α × Outbound α
  | 0, o => ([], o)
  | n + 1, o =>
    match o.receive with
    | (none, o) => ([], o)
    | (some x, o) =>
      let (xs, o) := receiveMany n o
      (x :: xs, o)

/-- Take all frames that are queued now. -/
def drain (o : Outbound α) : List α × Outbound α :=
  receiveMany o.queue.length o

/-- The writer goes away. -/
def hangUp (o : Outbound α) : Outbound α :=
  { o with queue := [], waiting := [], dropped := o.dropped + o.waiting.length, alive := false }

theorem length_receive {o : Outbound α} (h : o.waiting ≠ []) :
    (o.receive).2.queue.length = o.queue.length := by
  obtain ⟨w, ws, hw⟩ := List.exists_cons_of_ne_nil h
  simp only [receive]
  cases hq : o.queue with
  | nil => simp [hq]
  | cons x rest => simp [hw]

end Outbound

end HomeGateway.Connection
