/-
  What becomes of the frames of a connection.

  Events and responses share one queue; events do not wait, responses do.
  `Line` is the queue with its history, in which every frame has the number of
  the call that brought it: what was accepted, what the writer took, what was
  in the queue when the writer went away, and what was lost.  `Motion` lists what
  can happen to it.

  * `plain_run`: without numbers and history it is the queue itself;
  * `becomes_happen`: what a motion does;
  * `sound_step`, `sound_run`: every frame has one fate;
  * `lost_step`, `lost_run`: what is lost after its call is lost with the writer;
  * `fates_run`: what all this comes to.
-/
import HomeGateway.Proofs.ReadLoop
import Mathlib.Data.List.Perm.Basic
import Mathlib.Data.List.Nodup

namespace HomeGateway.Connection

variable {α β : Type}

/-! ## Lines -/

/-- What can happen to the frames of a connection. -/
inductive Motion (α : Type) where
  /-- an event is told -/
  | emitted (x : α)
  /-- a response is given -/
  | responded (x : α)
  /-- the writer takes a frame -/
  | received
  /-- the writer goes away -/
  | hungUp

/-- What a motion does to a queue. -/
def Motion.act : Motion α → Outbound α → Outbound α
  | .emitted x, o => (o.offer x).2
  | .responded x, o => (o.submit x).2
  | .received, o => o.receive.2
  | .hungUp, o => o.hangUp

/-- A queue with its history. -/
structure Line (α : Type) where
  /-- the queue -/
  outbound : Outbound (Nat × α)
  /-- how many events and responses there have been -/
  calls : Nat
  /-- the frames that were queued, the first first -/
  accepted : List (Nat × α)
  /-- the frames that the writer took, the first first -/
  received : List (Nat × α)
  /-- the frames that were in the queue when the writer went away -/
  discarded : List (Nat × α)
  /-- the frames that were lost -/
  lost : List (Nat × α)

namespace Line

/-- A line at its beginning. -/
def opened (capacity : Nat) : Line α :=
  ⟨.empty capacity, 0, [], [], [], []⟩

/-- Something happens.  A response that no longer waits was queued, unless the
    writer went away. -/
def happen (l : Line α) : Motion α → Line α
  | .emitted x =>
    let (queued, o) := l.outbound.offer (l.calls, x)
    { l with
      outbound := o
      calls := l.calls + 1
      accepted := l.accepted ++ if queued then [(l.calls, x)] else []
      lost := l.lost ++ if queued then [] else [(l.calls, x)] }
  | .responded x =>
    let (fate, o) := l.outbound.submit (l.calls, x)
    { l with
      outbound := o
      calls := l.calls + 1
      accepted := l.accepted ++ if fate = .queued then [(l.calls, x)] else []
      lost := l.lost ++ if fate = .lost then [(l.calls, x)] else [] }
  | .received =>
    let (frame, o) := l.outbound.receive
    { l with
      outbound := o
      received := l.received ++ frame.toList
      accepted := l.accepted ++ l.outbound.waiting.take
        (l.outbound.waiting.length - o.waiting.length) }
  | .hungUp =>
    { l with
      outbound := l.outbound.hangUp
      discarded := l.discarded ++ l.outbound.queue
      lost := l.lost ++ l.outbound.waiting }

/-- Some things happen. -/
def run (l : Line α) (motions : List (Motion α)) : Line α :=
  motions.foldl happen l

theorem run_split (l : Line α) (before : List (Motion α)) (m : Motion α) (after : List (Motion α)) :
    l.run (before ++ m :: after) = ((l.run before).happen m).run after :=
  List.foldl_append ..

end Line

/-! ## Numbers -/

/-- The queue with other frames. -/
def Outbound.map (f : α → β) (o : Outbound α) : Outbound β :=
  { o with queue := o.queue.map f, waiting := o.waiting.map f }

namespace Outbound

variable {f : α → β} {o : Outbound α} {x : α}

@[simp] theorem hasRoom_map : (o.map f).hasRoom = o.hasRoom := by
  simp [hasRoom, map]

theorem offer_map : ((o.map f).offer (f x)).2 = (o.offer x).2.map f := by
  simp only [offer, hasRoom_map]
  split <;> simp [map, lose]

theorem submit_map : ((o.map f).submit (f x)).2 = (o.submit x).2.map f := by
  simp only [submit, hasRoom_map]
  split
  · simp [map]
  · show (if o.alive then _ else _ : Submission × Outbound β).2 = _
    split <;> simp [map, lose]

theorem receive_map : (o.map f).receive.2 = o.receive.2.map f := by
  simp only [receive, map]
  cases hq : o.queue <;> simp [hq]

theorem hangUp_map : (o.map f).hangUp = o.hangUp.map f := by
  simp [hangUp, map]

end Outbound

namespace Line

variable {l : Line α} {capacity n : Nat} {x : α}

theorem plain_happen (l : Line α) (m : Motion α) :
    (l.happen m).outbound.map Prod.snd = m.act (l.outbound.map Prod.snd) := by
  cases m with
  | emitted x => exact (Outbound.offer_map (f := Prod.snd) (x := (l.calls, x))).symm
  | responded x => exact (Outbound.submit_map (f := Prod.snd) (x := (l.calls, x))).symm
  | received => exact Outbound.receive_map.symm
  | hungUp => exact Outbound.hangUp_map.symm

/-- Numbers and history are of no consequence. -/
theorem plain_run (l : Line α) (motions : List (Motion α)) :
    (l.run motions).outbound.map Prod.snd =
      motions.foldl (fun o m => m.act o) (l.outbound.map Prod.snd) := by
  induction motions generalizing l with
  | nil => rfl
  | cons m motions ih =>
    rw [List.foldl_cons, ← plain_happen]
    exact ih (l.happen m)

/-! ## Fates -/

/-- What a motion does. -/
inductive Becomes (l : Line α) : Line α → Prop where
  /-- a frame finds room -/
  | queued (x : α) (room : l.outbound.hasRoom = true) : Becomes l { l with
      outbound := { l.outbound with queue := l.outbound.queue ++ [(l.calls, x)] }
      calls := l.calls + 1
      accepted := l.accepted ++ [(l.calls, x)] }
  /-- a response waits for room -/
  | waits (x : α) (full : l.outbound.hasRoom = false) (alive : l.outbound.alive = true) :
    Becomes l { l with
      outbound := { l.outbound with waiting := l.outbound.waiting ++ [(l.calls, x)] }
      calls := l.calls + 1 }
  /-- a frame is lost -/
  | lost (x : α) : Becomes l { l with
      outbound := l.outbound.lose
      calls := l.calls + 1
      lost := l.lost ++ [(l.calls, x)] }
  /-- there is nothing to take -/
  | idle : Becomes l l
  /-- the writer takes a frame, and the first that waits moves up -/
  | taken {frame : Nat × α} {rest : List (Nat × α)} (hq : l.outbound.queue = frame :: rest) :
    Becomes l { l with
      outbound := { l.outbound with
        queue := rest ++ l.outbound.waiting.take 1
        waiting := l.outbound.waiting.drop 1 }
      received := l.received ++ [frame]
      accepted := l.accepted ++ l.outbound.waiting.take 1 }
  /-- the writer goes away -/
  | hungUp : Becomes l { l with
      outbound := l.outbound.hangUp
      discarded := l.discarded ++ l.outbound.queue
      lost := l.lost ++ l.outbound.waiting }

theorem happen_emitted (l : Line α) (x : α) :
    l.happen (.emitted x) = if l.outbound.hasRoom then { l with
        outbound := { l.outbound with queue := l.outbound.queue ++ [(l.calls, x)] }
        calls := l.calls + 1
        accepted := l.accepted ++ [(l.calls, x)] }
      else { l with
        outbound := l.outbound.lose
        calls := l.calls + 1
        lost := l.lost ++ [(l.calls, x)] } := by
  simp only [happen, Outbound.offer]
  split
  all_goals simp

theorem happen_responded (l : Line α) (x : α) :
    l.happen (.responded x) = if l.outbound.hasRoom then { l with
        outbound := { l.outbound with queue := l.outbound.queue ++ [(l.calls, x)] }
        calls := l.calls + 1
        accepted := l.accepted ++ [(l.calls, x)] }
      else if l.outbound.alive then { l with
        outbound := { l.outbound with waiting := l.outbound.waiting ++ [(l.calls, x)] }
        calls := l.calls + 1 }
      else { l with
        outbound := l.outbound.lose
        calls := l.calls + 1
        lost := l.lost ++ [(l.calls, x)] } := by
  simp only [happen, Outbound.submit]
  split
  · simp
  · split
    all_goals simp

theorem becomes_happen (l : Line α) (m : Motion α) : l.Becomes (l.happen m) := by
  cases m with
  | emitted x =>
    rw [happen_emitted]
    split
    next room => exact .queued x room
    next => exact .lost x
  | responded x =>
    rw [happen_responded]
    split
    next room => exact .queued x room
    next full =>
      split
      next alive => exact .waits x (Bool.eq_false_iff.2 full) alive
      next => exact .lost x
  | received =>
    simp only [happen, Outbound.receive]
    cases hq : l.outbound.queue with
    | nil => simpa using Becomes.idle
    | cons frame rest =>
      have moved (waiting : List (Nat × α)) :
          waiting.take (waiting.length - (waiting.drop 1).length) = waiting.take 1 := by
        cases waiting <;> simp
      simp only [moved, Option.toList_some]
      exact .taken hq
  | hungUp => exact .hungUp

/-- The frames that were accepted, wait, or were lost. -/
def places (l : Line α) : List (Nat × α) :=
  l.accepted ++ (l.outbound.waiting ++ l.lost)

/-- Every frame has one fate. -/
structure Sound (capacity : Nat) (l : Line α) : Prop where
  /-- the room of the queue -/
  room : l.outbound.capacity = capacity
  /-- it is kept to -/
  fits : l.outbound.queue.length ≤ capacity
  /-- responses wait for a full queue only -/
  full : l.outbound.waiting ≠ [] → l.outbound.queue.length = capacity
  /-- frames leave the queue as they came -/
  order : l.received ++ (l.outbound.queue ++ l.discarded) = l.accepted
  /-- each call has one frame -/
  fates : (l.places.map Prod.fst).Perm (List.range l.calls)
  /-- what was lost was counted -/
  dropped : l.outbound.dropped = l.lost.length
  /-- nothing was discarded as long as the writer is there -/
  kept : l.outbound.alive = true → l.discarded = []
  /-- nothing is left once it is not -/
  gone : l.outbound.alive = false → l.outbound.queue = [] ∧ l.outbound.waiting = []

theorem sound_opened (capacity : Nat) : (opened capacity : Line α).Sound capacity where
  room := rfl
  fits := Nat.zero_le _
  full waits := absurd rfl waits
  order := rfl
  fates := .refl _
  dropped := rfl
  kept _ := rfl
  gone := by rintro ⟨⟩

theorem Sound.hasRoom_iff (h : l.Sound capacity) :
    l.outbound.hasRoom = false ↔
      l.outbound.alive = false ∨ capacity ≤ l.outbound.queue.length := by
  rw [← h.room, Outbound.hasRoom, Bool.and_eq_false_iff, decide_eq_false_iff_not, Nat.not_lt]

/-- The frame of a new call comes to the others. -/
theorem Sound.snoc (h : l.Sound capacity) {front back : List (Nat × α)}
    (among : l.places = front ++ back) (x : α) :
    ((front ++ (l.calls, x) :: back).map Prod.fst).Perm (List.range (l.calls + 1)) := by
  have fates := h.fates
  rw [among] at fates
  rw [List.range_succ]
  refine (List.perm_middle.map Prod.fst).trans ?_
  rw [List.map_cons]
  exact (fates.cons l.calls).trans (List.perm_append_singleton l.calls _).symm

theorem Sound.taken (h : l.Sound capacity) {frame : Nat × α} {rest : List (Nat × α)}
    (hq : l.outbound.queue = frame :: rest) : Sound capacity { l with
      outbound := { l.outbound with
        queue := rest ++ l.outbound.waiting.take 1
        waiting := l.outbound.waiting.drop 1 }
      received := l.received ++ [frame]
      accepted := l.accepted ++ l.outbound.waiting.take 1 } := by
  have alive : l.outbound.alive = true := by
    by_contra dead
    have empty := (h.gone (Bool.eq_false_iff.2 dead)).1
    rw [hq] at empty
    cases empty
  -- the frame that moves up takes the place of the one that leaves
  have less : (rest ++ l.outbound.waiting.take 1).length ≤ l.outbound.queue.length := by
    rw [hq, List.length_append, List.length_cons]
    exact Nat.add_le_add_left (List.length_take_le 1 _) _
  have same (waits : l.outbound.waiting ≠ []) :
      (rest ++ l.outbound.waiting.take 1).length = l.outbound.queue.length := by
    have stays := Outbound.length_receive waits
    rw [Outbound.receive, hq] at stays
    rw [hq]
    exact stays
  refine ⟨h.room, ?_, ?_, ?_, ?_, h.dropped, h.kept, ?_⟩
  · exact Nat.le_trans less h.fits
  · intro left
    have waits : l.outbound.waiting ≠ [] := by
      intro none
      exact left (by simp [none])
    exact (same waits).trans (h.full waits)
  · simp [← h.order, hq, h.kept alive]
  · have places : (l.accepted ++ l.outbound.waiting.take 1) ++
        (l.outbound.waiting.drop 1 ++ l.lost) = l.places := by
      rw [Line.places, List.append_assoc, ← List.append_assoc (l.outbound.waiting.take 1),
        List.take_append_drop]
    show (((l.accepted ++ _) ++ (_ ++ l.lost)).map Prod.fst).Perm _
    rw [places]
    exact h.fates
  · intro dead
    exact absurd (alive.symm.trans dead) Bool.noConfusion

theorem Sound.hungUp (h : l.Sound capacity) : Sound capacity { l with
    outbound := l.outbound.hangUp
    discarded := l.discarded ++ l.outbound.queue
    lost := l.lost ++ l.outbound.waiting } where
  room := h.room
  fits := Nat.zero_le _
  full waits := absurd rfl waits
  order := by
    cases alive : l.outbound.alive with
    | true => simp [Outbound.hangUp, ← h.order, h.kept alive]
    | false => simp [Outbound.hangUp, ← h.order, (h.gone alive).1]
  fates := by
    have moved : (l.lost ++ l.outbound.waiting).Perm (l.outbound.waiting ++ l.lost) :=
      List.perm_append_comm
    exact ((moved.append_left l.accepted).map Prod.fst).trans h.fates
  dropped := by simp [Outbound.hangUp, h.dropped]
  kept := by rintro ⟨⟩
  gone _ := ⟨rfl, rfl⟩

theorem sound_step {l' : Line α} (h : l.Sound capacity) (step : l.Becomes l') :
    l'.Sound capacity := by
  cases step with
  | queued x room =>
    have alive := Loop.alive_of_hasRoom room
    have fits : l.outbound.queue.length < capacity := by
      simpa [Outbound.hasRoom, alive, h.room] using room
    refine ⟨h.room, ?_, ?_, ?_, ?_, h.dropped, h.kept, ?_⟩
    · simpa using Nat.succ_le_of_lt fits
    · intro waits
      exact absurd (h.full waits) (Nat.ne_of_lt fits)
    · simp [← h.order, h.kept alive]
    · have among : l.places = l.accepted ++ (l.outbound.waiting ++ l.lost) := rfl
      simpa [places] using h.snoc among x
    · intro dead
      exact absurd (alive.symm.trans dead) Bool.noConfusion
  | waits x full alive =>
    refine ⟨h.room, h.fits, ?_, h.order, ?_, h.dropped, h.kept, ?_⟩
    · intro _
      have filled := (h.hasRoom_iff.1 full).resolve_left (by simp [alive])
      exact Nat.le_antisymm h.fits filled
    · simpa [places] using h.snoc (List.append_assoc ..).symm x
    · intro dead
      exact absurd (alive.symm.trans dead) Bool.noConfusion
  | lost x =>
    refine ⟨h.room, h.fits, h.full, h.order, ?_, ?_, h.kept, h.gone⟩
    · simpa [places, Outbound.lose] using h.snoc (List.append_nil _).symm x
    · simp [Outbound.lose, h.dropped]
  | idle => exact h
  | taken hq => exact h.taken hq
  | hungUp => exact h.hungUp

theorem sound_run (h : l.Sound capacity) (motions : List (Motion α)) :
    (l.run motions).Sound capacity := by
  induction motions generalizing l with
  | nil => exact h
  | cons m motions ih => exact ih (sound_step h (becomes_happen l m))

/-! ## Losses -/

variable {l' : Line α}

theorem accepted_step (step : l.Becomes l') : l.accepted ⊆ l'.accepted := by
  cases step with
  | queued | taken => exact List.subset_append_left _ _
  | waits | lost | idle | hungUp => exact List.Subset.refl _

theorem lost_subset_step (step : l.Becomes l') : l.lost ⊆ l'.lost := by
  cases step with
  | lost | hungUp => exact List.subset_append_left _ _
  | queued | waits | idle | taken => exact List.Subset.refl _

theorem subset_run (l : Line α) (motions : List (Motion α)) :
    l.accepted ⊆ (l.run motions).accepted ∧ l.lost ⊆ (l.run motions).lost := by
  induction motions generalizing l with
  | nil => exact ⟨List.Subset.refl _, List.Subset.refl _⟩
  | cons m motions ih =>
    have step := becomes_happen l m
    exact ⟨List.Subset.trans (accepted_step step) (ih _).1,
      List.Subset.trans (lost_subset_step step) (ih _).2⟩

theorem calls_step (step : l.Becomes l') : l.calls ≤ l'.calls := by
  cases step with
  | queued | waits | lost => exact Nat.le_succ _
  | idle | taken | hungUp => exact Nat.le_refl _

theorem dead_step (step : l.Becomes l') (dead : l.outbound.alive = false) :
    l'.outbound.alive = false := by
  cases step with
  | queued x room => exact absurd ((Loop.alive_of_hasRoom room).symm.trans dead) Bool.noConfusion
  | waits | lost | idle | taken => exact dead
  | hungUp => rfl

theorem dead_run (dead : l.outbound.alive = false) (motions : List (Motion α)) :
    (l.run motions).outbound.alive = false := by
  induction motions generalizing l with
  | nil => exact dead
  | cons m motions ih => exact ih (dead_step (becomes_happen l m) dead)

/-- What is lost after its call is lost with the writer. -/
theorem lost_step (step : l.Becomes l') (known : n < l.calls) (late : (n, x) ∈ l'.lost) :
    (n, x) ∈ l.lost ∨ l'.outbound.alive = false := by
  cases step with
  | queued | waits | idle | taken => exact .inl late
  | lost y =>
    rcases List.mem_append.1 late with before | new
    · exact .inl before
    · obtain ⟨rfl, -⟩ := Prod.mk.inj (List.mem_singleton.1 new)
      exact absurd known (Nat.lt_irrefl _)
  | hungUp => exact .inr rfl

theorem lost_run (known : n < l.calls) {motions : List (Motion α)}
    (late : (n, x) ∈ (l.run motions).lost) :
    (n, x) ∈ l.lost ∨ (l.run motions).outbound.alive = false := by
  induction motions generalizing l with
  | nil => exact .inl late
  | cons m motions ih =>
    have step := becomes_happen l m
    rcases ih (Nat.lt_of_lt_of_le known (calls_step step)) late with soon | dead
    · rcases lost_step step known soon with before | dead
      · exact .inl before
      · exact .inr (dead_run dead motions)
    · exact .inr dead

/-- What was accepted is not lost. -/
theorem Sound.not_lost (h : l.Sound capacity) (accepted : (n, x) ∈ l.accepted) :
    (n, x) ∉ l.lost := by
  have once := h.fates.nodup_iff.2 List.nodup_range
  rw [places, List.map_append, List.map_append] at once
  intro lost
  exact (List.nodup_append.1 once).2.2 n (List.mem_map_of_mem (f := Prod.fst) accepted) n
    (List.mem_append_right _ (List.mem_map_of_mem (f := Prod.fst) lost)) rfl

theorem Sound.not_known (h : l.Sound capacity) : (l.calls, x) ∉ l.lost := by
  intro lost
  have known := h.fates.subset (List.mem_map_of_mem (f := Prod.fst)
    (List.mem_append_right l.accepted (List.mem_append_right l.outbound.waiting lost)))
  exact Nat.lt_irrefl _ (List.mem_range.1 known)

theorem emitted_accepted (room : l.outbound.hasRoom = true) (x : α) (after : List (Motion α)) :
    (l.calls, x) ∈ ((l.happen (.emitted x)).run after).accepted := by
  refine (subset_run _ after).1 ?_
  rw [happen_emitted, if_pos room]
  exact List.mem_append_right _ (List.mem_singleton_self _)

theorem emitted_lost (full : l.outbound.hasRoom = false) (x : α) (after : List (Motion α)) :
    (l.calls, x) ∈ ((l.happen (.emitted x)).run after).lost := by
  refine (subset_run _ after).2 ?_
  rw [happen_emitted, if_neg (by simp [full])]
  exact List.mem_append_right _ (List.mem_singleton_self _)

/-- A response that finds the writer there is not lost at once. -/
theorem Sound.responded_lost (h : l.Sound capacity) {after : List (Motion α)}
    (late : (l.calls, x) ∈ ((l.happen (.responded x)).run after).lost) :
    ((l.happen (.responded x)).run after).outbound.alive = false := by
  cases alive : l.outbound.alive with
  | false => exact dead_run (dead_step (becomes_happen l _) alive) after
  | true =>
    have known : l.calls < (l.happen (.responded x)).calls := Nat.lt_succ_self _
    refine (lost_run known late).resolve_left ?_
    rw [happen_responded, if_pos alive]
    split
    all_goals exact h.not_known

/-- **Every frame has one fate.**  Whatever events and responses there are, and
    whenever the writer takes frames or goes away: frames leave the queue in the
    order in which they were accepted, each once; an event is lost if and only if
    it meets a full queue or finds the writer gone, a response only if the writer is
    gone; responses wait for a full queue only; every loss is counted once; and
    every call's frame was taken, is queued or was discarded with the queue, waits,
    or was lost. -/
theorem fates_run (capacity : Nat) (motions : List (Motion α)) :
    let l := (opened capacity).run motions
    (l.received ++ (l.outbound.queue ++ l.discarded) = l.accepted ∧
      (l.accepted.map Prod.fst).Nodup) ∧
    (∀ before x after, motions = before ++ .emitted x :: after →
      let b := (opened capacity).run before
      ((b.calls, x) ∈ l.lost ↔ b.outbound.alive = false ∨ capacity ≤ b.outbound.queue.length) ∧
      ((b.calls, x) ∈ l.accepted ↔ (b.calls, x) ∉ l.lost)) ∧
    (∀ before x after, motions = before ++ .responded x :: after →
      (((opened capacity).run before).calls, x) ∈ l.lost → l.outbound.alive = false) ∧
    (l.outbound.queue.length ≤ capacity ∧
      (l.outbound.waiting ≠ [] → l.outbound.queue.length = capacity)) ∧
    l.outbound.dropped = l.lost.length ∧
    (l.places.map Prod.fst).Perm (List.range l.calls) ∧
    l.calls = l.received.length + l.outbound.queue.length + l.discarded.length +
      l.outbound.waiting.length + l.outbound.dropped ∧
    l.outbound.map Prod.snd = motions.foldl (fun o m => m.act o) (.empty capacity) := by
  intro l
  have h : l.Sound capacity := sound_run (sound_opened capacity) motions
  have once := h.fates.nodup_iff.2 List.nodup_range
  refine ⟨⟨h.order, ?_⟩, ?_, ?_, ⟨h.fits, h.full⟩, h.dropped, h.fates, ?_, plain_run _ motions⟩
  · rw [places, List.map_append] at once
    exact (List.nodup_append.1 once).1
  · rintro before x after rfl b
    have sound : b.Sound capacity := sound_run (sound_opened capacity) before
    have later : l = (b.happen (.emitted x)).run after := run_split _ before _ after
    rw [← sound.hasRoom_iff]
    cases room : b.outbound.hasRoom with
    | true =>
      have accepted : (b.calls, x) ∈ l.accepted := later ▸ emitted_accepted room x after
      simp [accepted, h.not_lost accepted]
    | false =>
      have lost : (b.calls, x) ∈ l.lost := later ▸ emitted_lost room x after
      have : (b.calls, x) ∉ l.accepted := fun accepted => h.not_lost accepted lost
      simp [lost, this]
  · rintro before x after rfl late
    have sound : ((opened capacity).run before).Sound capacity :=
      sound_run (sound_opened capacity) before
    have later : l = (((opened capacity).run before).happen (.responded x)).run after :=
      run_split _ before _ after
    rw [later] at late ⊢
    exact sound.responded_lost late
  · have length := h.fates.length_eq
    rw [List.length_map, List.length_range, places, ← h.order] at length
    simp only [List.length_append] at length
    rw [h.dropped, ← length]
    omega

example :
    let l := (opened 1).run [.emitted "ready", .responded "first", .emitted "changed", .received,
      .responded "second", .hungUp]
    l.received = [(0, "ready")] ∧ l.discarded = [(1, "first")] ∧
      l.lost = [(2, "changed"), (3, "second")] := by
  decide

end Line

end HomeGateway.Connection
