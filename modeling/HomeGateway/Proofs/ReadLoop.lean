/-
  The loop that reads the messages of a connection.

  The reader takes one message after the other.  Around it everything happens
  in any order: requests are worked out, events are told, the writer takes
  frames or goes away, the loop ends, and what is left is given up.  `Step` lists
  all this; the outcomes of requests are whatever a session makes of them.

  A message has one place at most: its request is being worked on, its response
  waits for room, or its response was queued.  `Sound` states it, and that places
  are only lost once the loop or the writer has ended.

  * `step_sound`, `reaches_sound`: every step keeps this, and so does every run.
-/
import HomeGateway.Proofs.Replies
import Mathlib.Data.List.Basic

namespace HomeGateway.Connection

open HomeGateway Call

/-! ## The loop -/

/-- The packet answers message `i`. -/
def Packet.isFor (i : Nat) (p : Packet) : Bool :=
  p.answers = some i

/-- A message that was read. -/
structure Heard where
  /-- the message -/
  message : Inbound
  /-- whether its response was there at once -/
  atOnce : Bool

/-- The loop of a connection. -/
structure Loop where
  /-- the connection -/
  link : Link
  /-- the messages that were read, the first first -/
  past : List Heard
  /-- the frames that have left the queue, the first first -/
  gone : List Packet
  /-- whether the loop runs -/
  running : Bool

namespace Loop

/-- A loop that has not read anything. -/
def new (number session capacity : Nat) : Loop :=
  ⟨.new number session capacity, [], [], true⟩

/-- Everything that was ever queued, the first first. -/
def queued (l : Loop) : List Packet :=
  l.gone ++ l.link.outbound.queue

/-- A message is read; `cut` tells that the end of the loop comes before its response. -/
def read (limit : Nat) (m : Inbound) (ready : Option (Except Mishap Json)) (cut : Bool) (l : Loop) :
    Loop :=
  let t := (m.reading limit).taken ready
  let past := l.past ++ [⟨m, t.isAnswer⟩]
  match t with
  | .answered _ =>
    if cut then { l with link := l.link.take .ignored, past := past, running := false }
    else { l with link := l.link.take t, past := past, running := l.link.outbound.alive }
  | _ => { l with link := l.link.take t, past := past, running := (m.reading limit).goesOn }

/-- A request is worked out. -/
def finish (t : Ticket) (outcome : Except Mishap Json) (l : Loop) : Loop :=
  { l with link := l.link.finish t (answer t.request outcome) }

/-- An event is told. -/
def emit (e : Event) (l : Loop) : Loop :=
  { l with link := l.link.hear e }

/-- The writer takes a frame. -/
def send (l : Loop) : Loop :=
  let (sent, outbound) := l.link.outbound.receive
  { l with link := { l.link with outbound := outbound }, gone := l.gone ++ sent.toList }

/-- The writer goes away; a reader that waits for it ends. -/
def hangUp (l : Loop) : Loop :=
  { l with
    link := { l.link with outbound := l.link.outbound.hangUp }
    gone := l.queued
    running := l.running && !l.link.paused }

/-- Whether a request is in flight; it is until its response is queued. -/
def busy (l : Loop) : Bool :=
  !l.link.inFlight.isEmpty || l.link.outbound.waiting.any (!·.pausing)

/-- Responses that no longer wait. -/
def forget (keep : Packet → Bool) (l : Link) : Link :=
  { l with outbound := { l.outbound with waiting := l.outbound.waiting.filter keep } }

/-- The loop ends; the response that it waits with is lost. -/
def stop (l : Loop) : Loop :=
  { l with link := forget (!·.pausing) l.link, running := false }

/-- What is being worked on is given up. -/
def abort (l : Loop) : Loop :=
  { l with link := { forget (fun _ => false) l.link with inFlight := [] } }

/-- What can happen to a loop that reads messages of at most `limit` bytes. -/
inductive Step (limit : Nat) (l : Loop) : Loop → Prop where
  /-- a message is read -/
  | read (m : Inbound) (ready : Option (Except Mishap Json)) (cut : Bool)
    (running : l.running = true) (free : l.link.paused = false) :
    Step limit l (l.read limit m ready cut)
  /-- a request is worked out -/
  | finish {t : Ticket} (outcome : Except Mishap Json) (waits : t ∈ l.link.inFlight) :
    Step limit l (l.finish t outcome)
  /-- an event is told -/
  | emit (e : Event) : Step limit l (l.emit e)
  /-- the writer takes a frame -/
  | send : Step limit l l.send
  /-- the writer goes away -/
  | hangUp : Step limit l l.hangUp
  /-- the loop ends -/
  | stop : Step limit l l.stop
  /-- after its end everything is given up -/
  | abort (ended : l.running = false) : Step limit l l.abort

/-- What can happen one after the other. -/
inductive Reaches (limit : Nat) (l : Loop) : Loop → Prop where
  /-- nothing -/
  | refl : Reaches limit l l
  /-- one more thing -/
  | tail {l₁ l₂ : Loop} (before : Reaches limit l l₁) (step : Step limit l₁ l₂) : Reaches limit l l₂

/-! ## Places of responses -/

/-- The responses that were queued or wait for room. -/
def packets (l : Loop) : List Packet :=
  l.queued ++ l.link.outbound.waiting

/-- How many places there are for message `i`. -/
def count (i : Nat) (l : Loop) : Nat :=
  l.packets.countP (·.isFor i) + l.link.inFlight.countP (·.message = i)

/-- A response was queued to each message before the `n`-th that was answered at once. -/
def Prompt (n : Nat) (past : List Heard) (queued : List Packet) : Prop :=
  ∀ i h, past[i]? = some h → h.atOnce = true → i < n → ∃ p ∈ queued, p.isFor i = true

/-- Whatever was queued came after what had to come before it. -/
def Ordered (past : List Heard) (queued : List Packet) : Prop :=
  ∀ before p after, queued = before ++ p :: after → ∀ j, p.isFor j = true → Prompt j past before

/-- Whatever has a place has the right one. -/
structure Placed (limit : Nat) (l : Loop) : Prop where
  /-- messages are counted -/
  heard : l.link.heard = l.past.length
  /-- no message has two places -/
  once : ∀ i, l.count i ≤ 1
  /-- responses answer messages that were read -/
  answers : ∀ p ∈ l.packets, ∀ i, p.isFor i = true →
    ∃ h r, l.past[i]? = some h ∧ p.frame = .response r ∧ Answers limit h.message r
  /-- every response answers a message -/
  addressed : ∀ p ∈ l.packets, ∀ r, p.frame = .response r → ∃ i, p.isFor i = true
  /-- requests come from messages that were read -/
  tickets : ∀ t ∈ l.link.inFlight, ∃ h s, l.past[t.message]? = some h ∧
    h.message.reading limit = .frame s ∧ request s = .ok t.request
  /-- a running loop has read nothing that ends it -/
  unbroken : l.running = true → ∀ h ∈ l.past, (h.message.reading limit).goesOn = true
  /-- what is answered at once is answered before more is read -/
  prompt : Prompt (l.past.length - 1) l.past l.queued
  /-- unless the reader pauses, everything of the kind is answered -/
  settled : l.running = true → l.link.paused = false → Prompt l.past.length l.past l.queued
  /-- the reader waits with the last message -/
  last : ∀ p ∈ l.link.outbound.waiting, p.pausing = true → p.isFor (l.past.length - 1) = true
  /-- what is answered at once is answered before all later messages -/
  ordered : Ordered l.past l.queued

/-- While the loop runs and the writer is there, no response is lost. -/
def Kept (l : Loop) : Prop :=
  l.running = true → l.link.outbound.alive = true → ∀ i h, l.past[i]? = some h →
    h.message.isControl = false → l.count i = 1

/-- What is true of a loop at any time. -/
structure Sound (limit : Nat) (l : Loop) : Prop extends Placed limit l where
  /-- no response is lost -/
  kept : l.Kept

variable {limit : Nat} {l : Loop} {past : List Heard} {queue : List Packet}

theorem Prompt.mono {n n' : Nat} {queue' : List Packet} (h : Prompt n past queue) (hn : n' ≤ n)
    (hq : queue ⊆ queue') : Prompt n' past queue' := by
  intro i heard hi hatOnce hlt
  obtain ⟨p, hp, hfor⟩ := h i heard hi hatOnce (by omega)
  exact ⟨p, hq hp, hfor⟩

/-- Messages that are read later do not matter. -/
theorem Prompt.later {n : Nat} (h : Prompt n past queue) (hn : n ≤ past.length) (m : Heard) :
    Prompt n (past ++ [m]) queue := by
  intro i heard hi hatOnce hlt
  rw [List.getElem?_append_left (by omega)] at hi
  exact h i heard hi hatOnce hlt

/-- One more message is answered. -/
theorem Prompt.next {n : Nat} {p : Packet} (h : Prompt (n - 1) past queue) (hp : p ∈ queue)
    (hfor : p.isFor (n - 1) = true) : Prompt n past queue := by
  intro i heard hi hatOnce hlt
  by_cases last : i = n - 1
  · exact ⟨p, hp, last ▸ hfor⟩
  · exact h i heard hi hatOnce (by omega)

theorem Ordered.append (h : Ordered past queue) {x : Packet}
    (new : ∀ j, x.isFor j = true → Prompt j past queue) : Ordered past (queue ++ [x]) := by
  intro before p after split j hfor
  rcases List.eq_nil_or_concat after with rfl | ⟨front, y, rfl⟩
  · obtain ⟨rfl, same⟩ := List.append_inj' split rfl
    cases same
    exact new j hfor
  · rw [List.concat_eq_append, ← List.cons_append, ← List.append_assoc] at split
    obtain ⟨same, -⟩ := List.append_inj' split rfl
    exact h before p front same j hfor

theorem Ordered.later (h : Ordered past queue)
    (known : ∀ p ∈ queue, ∀ j, p.isFor j = true → j < past.length) (m : Heard) :
    Ordered (past ++ [m]) queue := by
  intro before p after split j hfor
  have hp : p ∈ queue := split ▸ List.mem_append_right _ List.mem_cons_self
  exact (h before p after split j hfor).later (Nat.le_of_lt (known p hp j hfor)) m

/-! ## Queueing -/

/-- Something is queued, waits for room, or is lost. -/
theorem submit_cases {α : Type} (o : Outbound α) (x : α) :
    (o.hasRoom = true ∧ (o.submit x).2 = { o with queue := o.queue ++ [x] }) ∨
    (o.hasRoom = false ∧ o.alive = true ∧ (o.submit x).2 = { o with waiting := o.waiting ++ [x] }) ∨
    (o.alive = false ∧ (o.submit x).2 = o.lose) := by
  unfold Outbound.submit
  by_cases room : o.hasRoom = true
  · exact .inl ⟨room, by rw [if_pos room]⟩
  · have full : o.hasRoom = false := by simpa using room
    rw [if_neg room]
    by_cases alive : o.alive = true
    · exact .inr (.inl ⟨full, alive, by rw [if_pos alive]⟩)
    · exact .inr (.inr ⟨by simpa using alive, by rw [if_neg alive]⟩)

theorem alive_of_hasRoom {α : Type} {o : Outbound α} (h : o.hasRoom = true) : o.alive = true := by
  unfold Outbound.hasRoom at h
  exact (Bool.and_eq_true_iff.1 h).1

/-- A loop that queues something, waiting if need be. -/
def post (x : Packet) (l : Loop) : Loop :=
  { l with link := { l.link with outbound := (l.link.outbound.submit x).2 } }

theorem packets_post {x p : Packet} (h : p ∈ (l.post x).packets) : p = x ∨ p ∈ l.packets := by
  unfold packets queued post at *
  rcases submit_cases l.link.outbound x with ⟨-, eq⟩ | ⟨-, -, eq⟩ | ⟨-, eq⟩
  all_goals
    rw [eq] at h
    simp only [Outbound.lose, List.mem_append, List.mem_singleton] at h ⊢
    tauto

theorem count_post (x : Packet) (i : Nat) :
    (l.post x).count i = l.count i + if x.isFor i && l.link.outbound.alive then 1 else 0 := by
  unfold count packets queued post
  rcases submit_cases l.link.outbound x with ⟨room, eq⟩ | ⟨-, alive, eq⟩ | ⟨dead, eq⟩
  · rw [eq, alive_of_hasRoom room, Bool.and_true]
    simp only [List.countP_append, List.countP_singleton]
    omega
  · rw [eq, alive, Bool.and_true]
    simp only [List.countP_append, List.countP_singleton]
    omega
  · rw [eq, dead, Bool.and_false]
    rfl

theorem alive_submit {α : Type} (o : Outbound α) (x : α) : (o.submit x).2.alive = o.alive := by
  rcases submit_cases o x with ⟨-, eq⟩ | ⟨-, -, eq⟩ | ⟨-, eq⟩
  all_goals rw [eq]
  rfl

theorem queued_post (x : Packet) :
    (l.post x).queued = l.queued ∨ (l.post x).queued = l.queued ++ [x] := by
  unfold queued post
  rcases submit_cases l.link.outbound x with ⟨-, eq⟩ | ⟨-, -, eq⟩ | ⟨-, eq⟩
  · rw [eq]
    exact .inr (List.append_assoc ..).symm
  · rw [eq]
    exact .inl rfl
  · rw [eq]
    exact .inl rfl

theorem mem_waiting_submit {α : Type} {o : Outbound α} {x y : α}
    (h : y ∈ (o.submit x).2.waiting) : y = x ∨ y ∈ o.waiting := by
  rcases submit_cases o x with ⟨-, eq⟩ | ⟨-, -, eq⟩ | ⟨-, eq⟩
  all_goals rw [eq] at h
  · exact .inr h
  · rw [List.mem_append, List.mem_singleton] at h
    exact h.symm
  · exact .inr h

/-- What the reader does not wait with was queued. -/
theorem mem_queued_post {x : Packet} (alive : l.link.outbound.alive = true)
    (pausing : x.pausing = true) (free : (l.post x).link.paused = false) :
    x ∈ (l.post x).queued := by
  unfold queued post Link.paused at *
  rcases submit_cases l.link.outbound x with ⟨-, eq⟩ | ⟨-, -, eq⟩ | ⟨dead, -⟩
  · rw [eq]
    exact List.mem_append_right _ (List.mem_append_right _ (List.mem_singleton_self x))
  · rw [eq, List.any_append, List.any_cons, pausing] at free
    simp at free
  · rw [alive] at dead
    cases dead

theorem queued_subset_post {x : Packet} : l.queued ⊆ (l.post x).queued := by
  rcases queued_post x with eq | eq
  all_goals rw [eq]
  · exact List.Subset.refl _
  · exact List.subset_append_left _ _

/-! ## What a step keeps -/

/-- A message was read. -/
def note (m : Heard) (l : Loop) : Loop :=
  { l with link := { l.link with heard := l.link.heard + 1 }, past := l.past ++ [m] }

/-- The places belong to messages that were read. -/
theorem Placed.known (h : Placed limit l) {p : Packet} (hp : p ∈ l.packets) {i : Nat}
    (hfor : p.isFor i = true) : i < l.past.length := by
  obtain ⟨m, r, hm, -, -⟩ := h.answers p hp i hfor
  exact (List.getElem?_eq_some_iff.1 hm).1

theorem Placed.fresh (h : Placed limit l) {i : Nat} (hi : l.past.length ≤ i) : l.count i = 0 := by
  have packets : l.packets.countP (·.isFor i) = 0 := by
    rw [List.countP_eq_zero]
    intro p hp hfor
    have := h.known hp hfor
    omega
  have tickets : l.link.inFlight.countP (·.message = i) = 0 := by
    rw [List.countP_eq_zero]
    intro t ht hmessage
    obtain ⟨m, s, hm, -, -⟩ := h.tickets t ht
    have := (List.getElem?_eq_some_iff.1 hm).1
    have : t.message = i := by simpa using hmessage
    omega
  rw [count, packets, tickets]

theorem getElem?_note {m heard : Heard} {i : Nat} (h : (past ++ [m])[i]? = some heard) :
    past[i]? = some heard ∨ (i = past.length ∧ heard = m) := by
  rcases Nat.lt_trichotomy i past.length with lt | eq | gt
  · rw [List.getElem?_append_left lt] at h
    exact .inl h
  · subst eq
    rw [List.getElem?_concat_length] at h
    exact .inr ⟨rfl, (Option.some.inj h).symm⟩
  · rw [List.getElem?_eq_none (by rw [List.length_append, List.length_singleton]; omega)] at h
    exact absurd h (by simp)

theorem getElem?_note_of_some {m heard : Heard} {i : Nat} (h : past[i]? = some heard) :
    (past ++ [m])[i]? = some heard := by
  rw [List.getElem?_append_left (List.getElem?_eq_some_iff.1 h).1]
  exact h

/-- A reader that does not pause has nothing that waits. -/
theorem not_pausing_of_free (free : l.link.paused = false) {p : Packet}
    (hp : p ∈ l.link.outbound.waiting) : p.pausing = false := by
  unfold Link.paused at free
  rw [List.any_eq_false] at free
  simpa using free p hp

/-- What was queued is in order whatever message is read next. -/
theorem Sound.later (h : Sound limit l) (hrunning : l.running = true)
    (free : l.link.paused = false) (m : Heard) :
    Prompt ((l.past ++ [m]).length - 1) (l.past ++ [m]) l.queued ∧
      Ordered (l.past ++ [m]) l.queued := by
  constructor
  · rw [List.length_append, List.length_singleton, Nat.add_sub_cancel]
    exact (h.settled hrunning free).later (Nat.le_refl _) m
  · exact h.ordered.later (fun p hp i hfor => h.known (List.mem_append_left _ hp) hfor) m

/-- A message without a response was read, or the loop ends before it has one. -/
theorem Sound.note (h : Sound limit l) (hrunning : l.running = true) (free : l.link.paused = false)
    (m : Heard) (running : Bool) (calm : running = true →
      m.message.isControl = true ∧ m.atOnce = false ∧ (m.message.reading limit).goesOn = true) :
    Sound limit { l.note m with running := running } where
  heard := by
    show l.link.heard + 1 = (l.past ++ [m]).length
    rw [h.heard, List.length_append, List.length_singleton]
  once := h.once
  kept := by
    intro still alive i heard hi hcontrol
    rcases getElem?_note hi with old | ⟨-, rfl⟩
    · exact h.kept hrunning alive i heard old hcontrol
    · rw [(calm still).1] at hcontrol
      cases hcontrol
  answers := by
    intro p hp i hfor
    obtain ⟨heard, r, hi, rest⟩ := h.answers p hp i hfor
    exact ⟨heard, r, getElem?_note_of_some hi, rest⟩
  addressed := h.addressed
  tickets := by
    intro t ht
    obtain ⟨heard, s, hi, rest⟩ := h.tickets t ht
    exact ⟨heard, s, getElem?_note_of_some hi, rest⟩
  unbroken := by
    intro still heard hheard
    rcases List.mem_append.1 hheard with old | new
    · exact h.unbroken hrunning heard old
    · rw [List.mem_singleton.1 new]
      exact (calm still).2.2
  prompt := (h.later hrunning free m).1
  settled := by
    intro still _ i heard hi hatOnce hlt
    rcases getElem?_note hi with old | ⟨-, rfl⟩
    · exact h.settled hrunning free i heard old hatOnce (List.getElem?_eq_some_iff.1 old).1
    · rw [(calm still).2.1] at hatOnce
      cases hatOnce
  last := by
    intro p hp hpausing
    rw [not_pausing_of_free free hp] at hpausing
    cases hpausing
  ordered := (h.later hrunning free m).2

/-- A request is being worked on. -/
def await (q : Request) (l : Loop) : Loop :=
  { l with link := { l.link with inFlight := l.link.inFlight ++ [⟨l.link.heard, q⟩] } }

theorem count_await (q : Request) (i : Nat) :
    (l.await q).count i = l.count i + if l.link.heard = i then 1 else 0 := by
  unfold count await
  rw [List.countP_append, List.countP_singleton, ← Nat.add_assoc]
  simp only [decide_eq_true_eq]
  rfl

theorem Sound.await (h : Sound limit l) (hrunning : l.running = true) (free : l.link.paused = false)
    {m : Inbound} {s : String} {q : Request} (hread : m.reading limit = .frame s)
    (hrequest : request s = .ok q) : Sound limit ((l.await q).note ⟨m, false⟩) where
  heard := by
    show l.link.heard + 1 = (l.past ++ [_]).length
    rw [h.heard, List.length_append, List.length_singleton]
  once := by
    intro i
    show (l.await q).count i ≤ 1
    rw [count_await, h.heard]
    by_cases new : l.past.length = i
    · refine Nat.le_of_eq ?_
      rw [if_pos new, h.fresh (Nat.le_of_eq new)]
    · rw [if_neg new]
      exact h.once i
  kept := by
    intro _ alive i heard (hi : (l.past ++ [_])[i]? = some heard) hcontrol
    show (l.await q).count i = 1
    rw [count_await, h.heard]
    rcases getElem?_note hi with old | ⟨rfl, -⟩
    · have := (List.getElem?_eq_some_iff.1 old).1
      rw [if_neg (by omega)]
      exact h.kept hrunning alive i heard old hcontrol
    · rw [if_pos rfl, h.fresh (Nat.le_refl _)]
  answers := by
    intro p hp i hfor
    obtain ⟨heard, r, hi, rest⟩ := h.answers p hp i hfor
    exact ⟨heard, r, getElem?_note_of_some hi, rest⟩
  addressed := h.addressed
  tickets := by
    intro t ht
    rcases List.mem_append.1 ht with old | new
    · obtain ⟨heard, s, hi, rest⟩ := h.tickets t old
      exact ⟨heard, s, getElem?_note_of_some hi, rest⟩
    · rw [List.mem_singleton.1 new]
      refine ⟨⟨m, false⟩, s, ?_, hread, hrequest⟩
      show (l.past ++ [_])[l.link.heard]? = _
      rw [h.heard, List.getElem?_concat_length]
  unbroken := by
    intro _ heard hheard
    rcases List.mem_append.1 hheard with old | new
    · exact h.unbroken hrunning heard old
    · rw [List.mem_singleton.1 new, hread]
      rfl
  prompt := (h.later hrunning free _).1
  settled := by
    intro _ _ i heard hi hatOnce _
    rcases getElem?_note hi with old | ⟨-, rfl⟩
    · exact h.settled hrunning free i heard old hatOnce (List.getElem?_eq_some_iff.1 old).1
    · cases hatOnce
  last := by
    intro p hp hpausing
    rw [not_pausing_of_free free hp] at hpausing
    cases hpausing
  ordered := (h.later hrunning free _).2

/-- A response is queued to a message that was read, or waits for room. -/
theorem Sound.respond (h : Sound limit l) (hrunning : l.running = true)
    (free : l.link.paused = false) {m : Inbound} {r : Response} (hr : Answers limit m r)
    (goesOn : (m.reading limit).goesOn = true) :
    Sound limit { (l.post ⟨.response r, true, some l.link.heard⟩).note ⟨m, true⟩ with
      running := l.link.outbound.alive } where
  heard := by
    show l.link.heard + 1 = (l.past ++ [_]).length
    rw [h.heard, List.length_append, List.length_singleton]
  once := by
    intro i
    show (l.post _).count i ≤ 1
    rw [count_post]
    by_cases new : l.past.length = i
    · rw [h.fresh (Nat.le_of_eq new), Nat.zero_add]
      split <;> omega
    · rw [if_neg (by simp [Packet.isFor, h.heard, new])]
      exact h.once i
  kept := by
    intro _ (alive : (l.link.outbound.submit _).2.alive = true) i heard
      (hi : (l.past ++ [_])[i]? = some heard) hcontrol
    show (l.post _).count i = 1
    rw [alive_submit] at alive
    rw [count_post, alive, Bool.and_true]
    rcases getElem?_note hi with old | ⟨rfl, -⟩
    · have := (List.getElem?_eq_some_iff.1 old).1
      rw [if_neg (by simp [Packet.isFor, h.heard]; omega)]
      exact h.kept hrunning alive i heard old hcontrol
    · rw [if_pos (by simp [Packet.isFor, h.heard]), h.fresh (Nat.le_refl _)]
  answers := by
    intro p (hp : p ∈ (l.post _).packets) i hfor
    rcases packets_post hp with rfl | old
    · have new : l.link.heard = i := by simpa [Packet.isFor] using hfor
      refine ⟨⟨m, true⟩, r, ?_, rfl, hr⟩
      show (l.past ++ [_])[i]? = _
      rw [← new, h.heard, List.getElem?_concat_length]
    · obtain ⟨heard, r, hi, rest⟩ := h.answers p old i hfor
      exact ⟨heard, r, getElem?_note_of_some hi, rest⟩
  addressed := by
    intro p (hp : p ∈ (l.post _).packets) r hframe
    rcases packets_post hp with rfl | old
    · exact ⟨l.link.heard, decide_eq_true rfl⟩
    · exact h.addressed p old r hframe
  tickets := by
    intro t ht
    obtain ⟨heard, s, hi, rest⟩ := h.tickets t ht
    exact ⟨heard, s, getElem?_note_of_some hi, rest⟩
  unbroken := by
    intro _ heard hheard
    rcases List.mem_append.1 hheard with old | new
    · exact h.unbroken hrunning heard old
    · rw [List.mem_singleton.1 new]
      exact goesOn
  prompt := (h.later hrunning free _).1.mono (Nat.le_refl _) queued_subset_post
  settled := by
    intro alive hpaused
    refine Prompt.next ?_ (mem_queued_post alive rfl hpaused) ?_
    · exact (h.later hrunning free _).1.mono (Nat.le_refl _) queued_subset_post
    · show Packet.isFor ((l.past ++ [_]).length - 1) _ = true
      simp [Packet.isFor, h.heard]
  last := by
    intro p hp hpausing
    show Packet.isFor ((l.past ++ [_]).length - 1) p = true
    rcases mem_waiting_submit hp with rfl | old
    · simp [Packet.isFor, h.heard]
    · rw [not_pausing_of_free free old] at hpausing
      cases hpausing
  ordered := by
    show Ordered (l.past ++ [_]) (l.post _).queued
    have before := (h.later hrunning free ⟨m, true⟩).2
    rcases queued_post _ with eq | eq
    all_goals rw [eq]
    · exact before
    · refine before.append ?_
      intro j hfor
      have new : l.link.heard = j := by simpa [Packet.isFor] using hfor
      rw [← new, h.heard]
      exact (h.settled hrunning free).later (Nat.le_refl _) _

/-- The requests to a message are no longer worked on. -/
def settle (i : Nat) (l : Loop) : Loop :=
  { l with link := { l.link with inFlight := l.link.inFlight.filter (·.message ≠ i) } }

theorem count_settle {t : Ticket} (once : l.count t.message ≤ 1) (ht : t ∈ l.link.inFlight)
    (i : Nat) : (l.settle t.message).count i = if i = t.message then 0 else l.count i := by
  unfold count at *
  have found : 0 < l.link.inFlight.countP (·.message = t.message) :=
    List.countP_pos_iff.2 ⟨t, ht, decide_eq_true rfl⟩
  show l.packets.countP _ + (l.link.inFlight.filter _).countP _ = _
  rw [List.countP_filter]
  by_cases same : i = t.message
  · subst same
    have none : l.link.inFlight.countP
        (fun u => decide (u.message = t.message) && decide (u.message ≠ t.message)) = 0 := by
      rw [List.countP_eq_zero]
      intro u _
      by_cases eq : u.message = t.message
      all_goals simp [eq]
    rw [if_pos rfl, none]
    omega
  · rw [if_neg same]
    congr 1
    refine List.countP_congr fun u _ => ?_
    simp only [ne_eq, Bool.and_eq_true, decide_eq_true_eq, and_iff_left_iff_imp]
    rintro rfl
    exact same

theorem Placed.settle (h : Placed limit l) (i : Nat) : Placed limit (l.settle i) :=
  { h with
    once := fun j =>
      Nat.le_trans (Nat.add_le_add_left (List.filter_sublist.countP_le) _) (h.once j)
    tickets := fun t ht => h.tickets t (List.mem_of_mem_filter ht) }

theorem free_of_post {x : Packet} (free : (l.post x).link.paused = false) :
    l.link.paused = false := by
  unfold post Link.paused at *
  rw [List.any_eq_false] at *
  intro p hp
  refine free p ?_
  rcases submit_cases l.link.outbound x with ⟨-, eq⟩ | ⟨-, -, eq⟩ | ⟨-, eq⟩
  all_goals rw [eq]
  · exact hp
  · exact List.mem_append_left _ hp
  · exact hp

/-- Something is queued that the reader does not wait with. -/
theorem Placed.post (h : Placed limit l) {x : Packet} (calm : x.pausing = false)
    (free : ∀ i, x.isFor i = true → l.count i = 0)
    (answers : ∀ i, x.isFor i = true → ∃ heard r, l.past[i]? = some heard ∧
      x.frame = .response r ∧ Answers limit heard.message r)
    (addressed : ∀ r, x.frame = .response r → ∃ i, x.isFor i = true) :
    Placed limit (l.post x) where
  heard := h.heard
  once := by
    intro i
    rw [count_post]
    by_cases hfor : x.isFor i = true
    · rw [free i hfor]
      split <;> omega
    · rw [if_neg (by simp [hfor])]
      exact h.once i
  answers := by
    intro p hp i hfor
    rcases packets_post hp with rfl | old
    · exact answers i hfor
    · exact h.answers p old i hfor
  addressed := by
    intro p hp r hframe
    rcases packets_post hp with rfl | old
    · exact addressed r hframe
    · exact h.addressed p old r hframe
  tickets := h.tickets
  unbroken := h.unbroken
  prompt := h.prompt.mono (Nat.le_refl _) queued_subset_post
  settled := by
    intro running hpaused
    exact (h.settled running (free_of_post hpaused)).mono (Nat.le_refl _) queued_subset_post
  last := by
    intro p hp hpausing
    rcases mem_waiting_submit hp with rfl | old
    · rw [calm] at hpausing
      cases hpausing
    · exact h.last p old hpausing
  ordered := by
    show Ordered l.past (l.post x).queued
    rcases queued_post x with eq | eq
    all_goals rw [eq]
    · exact h.ordered
    · refine h.ordered.append ?_
      intro j hfor
      obtain ⟨heard, r, hj, -, -⟩ := answers j hfor
      have := (List.getElem?_eq_some_iff.1 hj).1
      exact h.prompt.mono (by omega) (List.Subset.refl _)

theorem Sound.finish (h : Sound limit l) {t : Ticket} (outcome : Except Mishap Json)
    (ht : t ∈ l.link.inFlight) : Sound limit (l.finish t outcome) := by
  have counts := count_settle (h.once t.message) ht
  show Sound limit ((l.settle t.message).post ⟨.response (answer t.request outcome), false,
    some t.message⟩)
  refine ⟨(h.toPlaced.settle t.message).post rfl ?_ ?_ (fun _ _ => ⟨t.message, decide_eq_true rfl⟩),
    ?_⟩
  · intro i hfor
    have same : t.message = i := by simpa [Packet.isFor] using hfor
    rw [counts, if_pos same.symm]
  · intro i hfor
    have same : t.message = i := by simpa [Packet.isFor] using hfor
    obtain ⟨heard, s, hi, hread, hrequest⟩ := h.tickets t ht
    refine ⟨heard, _, same ▸ hi, rfl, ?_⟩
    unfold Answers
    simp only [hread, hrequest]
    exact ⟨outcome, rfl⟩
  · intro running alive i heard hi hcontrol
    have alive : l.link.outbound.alive = true := (alive_submit _ _).symm.trans alive
    rw [count_post, counts]
    show _ + (if _ && l.link.outbound.alive then 1 else 0) = 1
    rw [alive, Bool.and_true]
    by_cases same : i = t.message
    · rw [if_pos same, if_pos (by simp [Packet.isFor, same])]
    · rw [if_neg same, if_neg (by simp [Packet.isFor, Ne.symm same])]
      exact h.kept running alive i heard hi hcontrol

/-- An event answers nothing. -/
theorem Sound.tell (h : Sound limit l) (e : Event) :
    Sound limit (l.post ⟨.event e, false, none⟩) := by
  refine ⟨h.toPlaced.post rfl ?_ ?_ (fun _ hframe => nomatch hframe), ?_⟩
  · intro i hfor
    simp [Packet.isFor] at hfor
  · intro i hfor
    simp [Packet.isFor] at hfor
  · intro running alive i heard hi hcontrol
    have alive : l.link.outbound.alive = true := (alive_submit _ _).symm.trans alive
    rw [count_post, if_neg (by simp [Packet.isFor])]
    exact h.kept running alive i heard hi hcontrol

theorem Sound.emit (h : Sound limit l) (e : Event) : Sound limit (l.emit e) := by
  by_cases room : l.link.outbound.hasRoom = true
  · have told := h.tell e
    unfold Loop.post Outbound.submit at told
    unfold Loop.emit Link.hear Outbound.offer
    rw [if_pos room] at told ⊢
    exact told
  · unfold Loop.emit Link.hear Outbound.offer
    rw [if_neg room]
    exact ⟨{ h.toPlaced with }, h.kept⟩

/-- The frame that waited longest moves up. -/
theorem send_cases (l : Loop) : ∃ first, first.length ≤ 1 ∧ l.send.queued = l.queued ++ first ∧
    l.link.outbound.waiting = first ++ l.send.link.outbound.waiting := by
  unfold queued send Outbound.receive
  cases queue : l.link.outbound.queue with
  | nil => exact ⟨[], Nat.zero_le _, by simp [queue], rfl⟩
  | cons x rest =>
    refine ⟨l.link.outbound.waiting.take 1, List.length_take_le .., ?_, ?_⟩
    · simp only [Option.toList_some, List.append_assoc, List.cons_append, List.nil_append]
    · exact (List.take_append_drop 1 _).symm

theorem packets_send (l : Loop) : l.send.packets = l.packets := by
  obtain ⟨first, -, hqueued, hwaiting⟩ := send_cases l
  unfold packets
  rw [hqueued, hwaiting, List.append_assoc]

theorem count_send (i : Nat) : l.send.count i = l.count i := by
  unfold count
  rw [packets_send]
  rfl

theorem Sound.send (h : Sound limit l) : Sound limit l.send := by
  obtain ⟨first, short, hqueued, hwaiting⟩ := send_cases l
  have more : l.queued ⊆ l.send.queued := by
    rw [hqueued]
    exact List.subset_append_left _ _
  constructor
  constructor
  case heard => exact h.heard
  case once =>
    intro i
    rw [count_send]
    exact h.once i
  case answers =>
    rw [packets_send]
    exact h.answers
  case addressed =>
    rw [packets_send]
    exact h.addressed
  case tickets => exact h.tickets
  case unbroken => exact h.unbroken
  case prompt => exact h.prompt.mono (Nat.le_refl _) more
  case settled =>
    intro running free
    cases paused : l.link.paused with
    | false => exact (h.settled running paused).mono (Nat.le_refl _) more
    | true =>
      -- the response that the reader waited with is the one that moved up
      obtain ⟨p, hp, hpausing⟩ := List.any_eq_true.1 paused
      have moved : p ∈ first := by
        rw [hwaiting, List.mem_append] at hp
        rcases hp with moved | waits
        · exact moved
        · rw [not_pausing_of_free free waits] at hpausing
          cases hpausing
      refine (h.prompt.mono (Nat.le_refl _) more).next ?_ (h.last p hp hpausing)
      rw [hqueued]
      exact List.mem_append_right _ moved
  case last =>
    intro p hp
    refine h.last p ?_
    rw [hwaiting]
    exact List.mem_append_right _ hp
  case ordered =>
    show Ordered l.past l.send.queued
    rw [hqueued]
    match first with
    | [] =>
      rw [List.append_nil]
      exact h.ordered
    | [w] =>
      refine h.ordered.append ?_
      intro j hfor
      have waits : w ∈ l.packets := by
        rw [packets, hwaiting]
        exact List.mem_append_right _ List.mem_cons_self
      have := h.known waits hfor
      exact h.prompt.mono (by omega) (List.Subset.refl _)
  case kept =>
    intro running alive i heard hi hcontrol
    rw [count_send]
    refine h.kept running ?_ i heard hi hcontrol
    rw [← alive]
    unfold Loop.send Outbound.receive
    cases l.link.outbound.queue
    all_goals rfl

/-- Places are lost at an end. -/
theorem Sound.lose (h : Sound limit l) {l' : Loop} (past : l'.past = l.past)
    (heard : l'.link.heard = l.link.heard) (queued : l'.queued = l.queued)
    (waiting : l'.link.outbound.waiting.Sublist l.link.outbound.waiting)
    (inFlight : l'.link.inFlight.Sublist l.link.inFlight)
    (still : l'.running = true → l.running = true ∧ l.link.paused = false ∧
      l'.link.outbound.alive = false) : Sound limit l' := by
  have packets : l'.packets.Sublist l.packets := by
    unfold Loop.packets
    rw [queued]
    exact (List.Sublist.refl _).append waiting
  constructor
  constructor
  case heard => rw [heard, past, h.heard]
  case once =>
    intro i
    exact Nat.le_trans (Nat.add_le_add packets.countP_le inFlight.countP_le) (h.once i)
  case answers =>
    rw [past]
    exact fun p hp => h.answers p (packets.subset hp)
  case addressed => exact fun p hp => h.addressed p (packets.subset hp)
  case tickets =>
    rw [past]
    exact fun t ht => h.tickets t (inFlight.subset ht)
  case unbroken =>
    intro running
    rw [past]
    exact h.unbroken (still running).1
  case prompt =>
    rw [past, queued]
    exact h.prompt
  case settled =>
    intro running _
    rw [past, queued]
    exact h.settled (still running).1 (still running).2.1
  case last =>
    rw [past]
    exact fun p hp => h.last p (waiting.subset hp)
  case ordered =>
    rw [past, queued]
    exact h.ordered
  case kept =>
    intro running alive
    rw [(still running).2.2] at alive
    cases alive

theorem Sound.hangUp (h : Sound limit l) : Sound limit l.hangUp := by
  refine h.lose rfl rfl (List.append_nil _) (List.nil_sublist _) (List.Sublist.refl _) ?_
  intro running
  obtain ⟨before, free⟩ := Bool.and_eq_true_iff.1 running
  exact ⟨before, by simpa using free, rfl⟩

theorem Sound.stop (h : Sound limit l) : Sound limit l.stop :=
  h.lose rfl rfl rfl List.filter_sublist (List.Sublist.refl _) (fun running => nomatch running)

theorem Sound.abort (h : Sound limit l) (ended : l.running = false) : Sound limit l.abort := by
  refine h.lose rfl rfl rfl List.filter_sublist (List.nil_sublist _) ?_
  intro running
  rw [show l.abort.running = l.running from rfl, ended] at running
  cases running

theorem Sound.read (h : Sound limit l) (hrunning : l.running = true)
    (free : l.link.paused = false) (m : Inbound) (ready : Option (Except Mishap Json))
    (cut : Bool) : Sound limit (l.read limit m ready cut) := by
  unfold Loop.read
  cases taken : (m.reading limit).taken ready with
  | answered r =>
    obtain ⟨answers, goesOn⟩ := answers_of_taken taken
    cases cut with
    | true => exact h.note hrunning free ⟨m, true⟩ false (fun running => nomatch running)
    | false => exact h.respond hrunning free answers goesOn
  | awaited q =>
    obtain ⟨s, hread, hrequest⟩ := request_of_taken taken
    have goesOn : (m.reading limit).goesOn = l.running := by rw [hread, hrunning]; rfl
    rw [goesOn]
    exact h.await hrunning free hread hrequest
  | ignored =>
    refine h.note hrunning free ⟨m, false⟩ (m.reading limit).goesOn ?_
    exact fun goesOn => ⟨isControl_of_taken taken goesOn, rfl, goesOn⟩

theorem step_sound {l' : Loop} (h : Sound limit l) (step : Step limit l l') : Sound limit l' := by
  cases step with
  | read m ready cut running free => exact h.read running free m ready cut
  | finish outcome waits => exact h.finish outcome waits
  | emit e => exact h.emit e
  | send => exact h.send
  | hangUp => exact h.hangUp
  | stop => exact h.stop
  | abort ended => exact h.abort ended

theorem sound_new (limit number session capacity : Nat) :
    Sound limit (.new number session capacity) where
  heard := rfl
  once := fun _ => Nat.zero_le _
  answers := fun _ hp => nomatch hp
  addressed := fun _ hp => nomatch hp
  tickets := fun _ ht => nomatch ht
  unbroken := fun _ _ hm => nomatch hm
  prompt := fun _ _ hi => nomatch hi
  settled := fun _ _ _ _ hi => nomatch hi
  last := fun _ hp => nomatch hp
  ordered := by
    intro before p after split
    simp [Loop.new, queued, Link.new, Outbound.empty] at split
  kept := fun _ _ _ _ hi => nomatch hi

theorem reaches_sound {l' : Loop} (h : Sound limit l) (run : Reaches limit l l') :
    Sound limit l' := by
  induction run with
  | refl => exact h
  | tail before step ih => exact step_sound ih step

end Loop

end HomeGateway.Connection
