/-
  The operations of a bridge session, move by move.

  A session is never locked while the engine works, so an operation that uses the
  engine is several moves of the session, and those of others may come in
  between.  `init` and `close` give the server node up before the engine closes
  it, and `init` takes the new one in once it is there; making an endpoint
  reserves its id and ends the reservation.  The lemmas hold in any engine.

  * `close_eq`, `init_eq`, `finishAddition_eq`: what operations are made of;
  * `reserve_iff`: which ids can be reserved;
  * `session_init`, `finishAddition_cases`, `addEndpoint_cases`: what becomes of operations;
  * `endpoints_addEndpoint`: a call that fails leaves the endpoints as they are.
-/
import HomeGateway.Proofs.BridgeSession

namespace HomeGateway.Bridge

open HomeGateway Engine

/-! ## Moves -/

/-- The session gives its server node up. -/
def withdraw : Doing (Option Live) := do
  let s ← Use.own
  Use.change fun s => { s with live := none }
  return s.live

/-- The server node that was given up is closed. -/
def dismiss (old : Option Live) : Doing Unit := do
  if let some l := old then
    Use.engine (closeServer l.server)

/-- The configuration of the next server node. -/
def nextConfig : Doing ServerNodeConfig := do
  let s ← Use.own
  Use.change fun s => { s with clearNext := false }
  return s.params.serverConfig s.clearNext

/-- The session has a server node. -/
def enter (server aggregator : Nat) : Doing Unit :=
  Use.change fun s =>
    { s with
      generation := s.generation + 1
      live := some ⟨s.generation, server, aggregator, [], []⟩ }

/-- What the engine makes of an endpoint. -/
def create (aggregator : Nat) (d : Definition) : Doing (Except Mishap Member) := do
  let s ← Use.own
  let made := Bridged.followed (.make s.options.lockWindow s.sink d)
  match ← Use.engine (Act.attempt (Engine.addEndpoint aggregator made)) with
  | .ok handle => return .ok ⟨d.id, d.type, handle⟩
  | .error (.failed f) => return .error (.failed f)
  | .error (.collapsed reason) => throw (.collapsed reason)

variable {s : Session} {e : State} {l : Live}

theorem close_eq : close = (do dismiss (← withdraw)) := by
  funext ⟨s, e⟩
  cases hl : s.live
  all_goals simp [close, withdraw, dismiss, hl]

theorem init_eq : init = (do
    dismiss (← withdraw)
    let server ← Use.engine (createServer (← nextConfig))
    enter server (← Use.engine (Engine.addAggregator server))) := by
  funext ⟨s, e⟩
  cases hl : s.live with
  | none => simp [init, withdraw, dismiss, nextConfig, enter, hl]
  | some l =>
    simp only [init, withdraw, dismiss, nextConfig, enter, hl, Use.run_bind, Use.run_own,
      Use.run_change, Use.run_pure, Use.run_act]
    rcases closeServer l.server e with ⟨_ | _, _⟩
    all_goals rfl

theorem finishAddition_eq (generation aggregator : Nat) (d : Definition) :
    finishAddition generation aggregator d = (do
      settleAddition generation d.id (← create aggregator d)) := by
  funext ⟨s, e⟩
  simp only [finishAddition, create, Use.run_bind, Use.run_own, Use.run_act, Act.run_attempt]
  rcases Engine.addEndpoint aggregator (.followed (.make s.options.lockWindow s.sink d)) e with
    ⟨(f | reason) | handle, _⟩
  all_goals rfl

/-- The reservation of an id ends. -/
def Live.settled (id : String) (made : Except Mishap Member) (l : Live) : Live :=
  { l with
    pending := l.pending.filter (· ≠ id)
    members := l.members ++ made.toOption.toList }

/-- A reservation of a generation ends. -/
def Session.settled (generation : Nat) (id : String) (made : Except Mishap Member) (s : Session) :
    Session :=
  { s with live := s.live.map fun l => if l.generation = generation then l.settled id made else l }

theorem run_settleAddition (generation : Nat) (id : String) (made : Except Mishap Member)
    (s : Session) (e : State) :
    settleAddition generation id made (s, e) =
      (made.map fun _ => (), s.settled generation id made, e) := by
  obtain ⟨params, options, sink, clearNext, count, live⟩ := s
  cases made
  all_goals cases live with
  | none => rfl
  | some l =>
    by_cases hg : l.generation = generation
    all_goals simp [settleAddition, Session.settled, Live.settled, hg, Except.map, Except.toOption]

/-- A session in which one more id is reserved. -/
def Session.reserved (l : Live) (id : String) (s : Session) : Session :=
  { s with live := some { l with pending := id :: l.pending } }

theorem run_reserve (hl : s.live = some l) (id : String) (e : State) :
    reserve id (s, e) =
      if l.taken id then (.error (.failed (.duplicateEndpoint id)), s, e)
      else (.ok l, s.reserved l id, e) := by
  by_cases ht : l.taken id = true
  all_goals simp [reserve, run_theLive hl, ht, Session.reserved]

theorem run_reserve_none (hl : s.live = none) (id : String) (e : State) :
    reserve id (s, e) = (.error (.failed (.notInitialized "Bridge")), s, e) := by
  simp [reserve, theLive, hl]

/-- An id can be reserved if it is neither there nor reserved. -/
theorem reserve_iff (id : String) (s : Session) (e : State) :
    (∃ l, (reserve id (s, e)).1 = .ok l) ↔
      ∃ l, s.live = some l ∧ id ∉ l.members.map (·.id) ∧ id ∉ l.pending := by
  cases hl : s.live with
  | none => simp [run_reserve_none hl]
  | some l =>
    have free : l.taken id = false ↔ id ∉ l.members.map (·.id) ∧ id ∉ l.pending := by
      simp [Live.taken, member?_isSome]
    rw [run_reserve hl]
    constructor
    · rintro ⟨_, reserved⟩
      refine ⟨l, rfl, free.1 ?_⟩
      by_contra taken
      rw [if_pos (by simpa using taken)] at reserved
      cases reserved
    · rintro ⟨_, ⟨⟩, absent⟩
      exact ⟨l, by rw [free.2 absent]; rfl⟩

theorem session_setState (id cluster attr : String) (value : Json) (s : Session) (e : State) :
    (setState id cluster attr value (s, e)).2.1 = s := by
  simp only [setState, theLive, Use.run_bind, Use.run_own]
  cases hl : s.live with
  | none => simp
  | some l =>
    cases hm : l.member? id with
    | none => simp [hm]
    | some m =>
      simp only [hm, Use.run_bind, Use.run_pure, Use.run_act, Act.run_get]
      rcases startWrite true m.handle cluster attr value e with ⟨_ | w, e'⟩
      · rfl
      · simp only [Use.run_ite]
        by_cases held : e'.writesHeld = true
        · rw [if_pos held]
          rfl
        · rw [if_neg held]
          simp only [Use.run_bind, Use.run_act]
          rcases finishWrite w e' with ⟨_ | _, _⟩
          all_goals rfl

theorem run_dismiss (old : Option Live) (s : Session) (e : State) :
    ∃ r e', dismiss old (s, e) = (r, s, e') := by
  cases old with
  | none => exact ⟨_, _, rfl⟩
  | some l => exact ⟨_, _, rfl⟩

theorem session_close (s : Session) (e : State) : (close (s, e)).2.1 = s.ended := by
  obtain ⟨r, e', dismissed⟩ := run_dismiss s.live s.ended e
  have closed : close (s, e) = dismiss s.live (s.ended, e) := by
    rw [close_eq]
    rfl
  rw [closed, dismissed]

/-- A session with a server node. -/
def Session.entered (server aggregator : Nat) (s : Session) : Session :=
  { s with
    generation := s.generation + 1
    live := some ⟨s.generation, server, aggregator, [], []⟩ }

theorem session_init (s : Session) (e : State) :
    (init (s, e)).2.1 = s.ended ∨ (init (s, e)).2.1 = { s.ended with clearNext := false } ∨
      ∃ server aggregator, (init (s, e)).2.1 =
        Session.entered server aggregator { s.ended with clearNext := false } := by
  obtain ⟨r, e', dismissed⟩ := run_dismiss s.live s.ended e
  have withdrawn : withdraw (s, e) = (.ok s.live, s.ended, e) := rfl
  rw [init_eq]
  simp only [Use.run_bind, withdrawn, dismissed]
  rcases r with failure | _
  · exact .inl rfl
  simp only [nextConfig, Use.run_bind, Use.run_own, Use.run_change, Use.run_pure, Use.run_act]
  rcases createServer (s.ended.params.serverConfig s.ended.clearNext) e' with
    ⟨failure | server, e''⟩
  · exact .inr (.inl rfl)
  simp only []
  rcases Engine.addAggregator server e'' with ⟨failure | aggregator, e'''⟩
  · exact .inr (.inl rfl)
  · exact .inr (.inr ⟨server, aggregator, rfl⟩)

/-- An addition ends with what the engine made of it, unless the engine collapses. -/
theorem finishAddition_cases (generation aggregator : Nat) (d : Definition) (s : Session)
    (e : State) :
    (∃ reason e', finishAddition generation aggregator d (s, e) =
      (.error (.collapsed reason), s, e')) ∨
    ∃ (outcome : Except Mishap (Device.DeviceType × Nat)) (e' : State),
      finishAddition generation aggregator d (s, e) =
        (outcome.map fun _ => (),
          s.settled generation d.id (outcome.map fun p => ⟨d.id, p.1, p.2⟩), e') := by
  rw [finishAddition_eq]
  simp only [create, Use.run_bind, Use.run_own, Use.run_act, Act.run_attempt]
  rcases Engine.addEndpoint aggregator (.followed (.make s.options.lockWindow s.sink d)) e with
    ⟨(f | reason) | handle, e'⟩
  · exact .inr ⟨.error (.failed f), e', run_settleAddition _ _ _ _ _⟩
  · exact .inl ⟨reason, e', rfl⟩
  · exact .inr ⟨.ok (d.type, handle), e', run_settleAddition _ _ _ _ _⟩

/-- A call with a free id reserves it, and then waits, collapses, or ends. -/
theorem addEndpoint_cases (hl : s.live = some l) {spec : Spec} (free : l.taken spec.id = false)
    (e : State) :
    (∃ result e', addEndpoint spec (s, e) = (.ok result, s.reserved l spec.id, e')) ∨
    (∃ reason e', addEndpoint spec (s, e) =
      (.error (.collapsed reason), s.reserved l spec.id, e')) ∨
    ∃ (outcome : Except Mishap (Device.DeviceType × Nat)) (e' : State),
      addEndpoint spec (s, e) =
        (outcome.map fun _ => .done .null,
          (s.reserved l spec.id).settled l.generation spec.id
            (outcome.map fun p => ⟨spec.id, p.1, p.2⟩), e') := by
  simp only [addEndpoint, Use.run_bind, run_reserve hl, free, Bool.false_eq_true, if_false,
    Use.run_own]
  cases hd : spec.definition (s.reserved l spec.id).options.maxLabel with
  | error f =>
    refine .inr (.inr ⟨.error (.failed f), e, ?_⟩)
    simp [run_settleAddition, Except.map]
  | ok d =>
    simp only [Use.run_bind, Use.run_act, Act.run_get]
    by_cases held : e.addsHeld = true
    · exact .inl ⟨.adding l.generation l.aggregator d, e, by simp [held]⟩
    · have ended := finishAddition_cases l.generation l.aggregator d (s.reserved l spec.id) e
      simp only [held, definition_id hd] at ended ⊢
      rcases ended with ⟨reason, e', ended⟩ | ⟨outcome, e', ended⟩
      · exact .inr (.inl ⟨reason, e', by simp [ended]⟩)
      · refine .inr (.inr ⟨outcome, e', ?_⟩)
        cases outcome <;> simp [ended, Except.map]

/-! ## Failures -/

theorem endpoints_settled (generation : Nat) (id : String) {made : Except Mishap Member}
    (failed : made.toOption = none) (s : Session) :
    (s.settled generation id made).live.map (·.members) = s.live.map (·.members) := by
  rw [Session.settled, Option.map_map]
  congr 1
  funext l
  simp only [Function.comp]
  split
  · simp [Live.settled, failed]
  · rfl

theorem endpoints_addEndpoint {spec : Spec} {m : Mishap}
    (failed : (addEndpoint spec (s, e)).1 = .error m) :
    (addEndpoint spec (s, e)).2.1.live.map (·.members) = s.live.map (·.members) := by
  cases hl : s.live with
  | none => simp [addEndpoint, run_reserve_none hl, hl]
  | some l =>
    cases free : l.taken spec.id with
    | true => rw [run_addEndpoint_taken hl free, hl]
    | false =>
      rcases addEndpoint_cases hl free e with
        ⟨result, e', eq⟩ | ⟨reason, e', eq⟩ | ⟨outcome, e', eq⟩
      · rw [eq] at failed
        cases failed
      · rw [eq]
        rfl
      · rw [eq] at failed ⊢
        cases outcome with
        | ok d => cases failed
        | error failure => exact endpoints_settled _ _ rfl _

end HomeGateway.Bridge
