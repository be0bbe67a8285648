/-
  A bridge session in which any number of endpoints are being made.

  `Course` is a session with the calls that make endpoints, those in flight and
  those that succeeded; `Move` lists what can happen to it, each time with the
  engine in whatever state it is.  Calls begin and end while others are in
  flight, and while `init` and `close` go their way; only these two exclude each
  other.  A call in which the engine collapses never ends.

  * `becomes_happen`: what a move does;
  * `orderly_step`, `orderly_run`: the session accounts for its calls;
  * `past_step`, `past_run`: calls begun before `init` or `close` stay of the past;
  * `course_init`, `course_addEndpoint`: an operation without interruption is a run;
  * `accounts_run`: what all this comes to.
-/
import HomeGateway.Proofs.BridgeMoves
import HomeGateway.Proofs.Seating
import Mathlib.Data.List.Nodup
import Mathlib.Data.List.Pairwise
import Mathlib.Data.List.Perm.Subperm

namespace HomeGateway.Bridge

open HomeGateway Engine

variable {l : Live}

/-! ## Courses -/

/-- A call that makes an endpoint and has reserved its id. -/
structure Making where
  /-- which call it is, counted from the first -/
  number : Nat
  /-- the id -/
  id : String
  /-- the generation in which it is reserved -/
  generation : Nat
deriving DecidableEq

/-- Two calls reserve different ids, or in different generations. -/
def Making.Apart (m m' : Making) : Prop :=
  m.generation = m'.generation → m.id ≠ m'.id

instance : Std.Symm Making.Apart where
  symm _ _ h same id := h same.symm id.symm

/-- A call that succeeded. -/
structure Made where
  /-- the call -/
  call : Making
  /-- the device type -/
  type : Device.DeviceType
  /-- the number of the endpoint in the engine -/
  handle : Nat

/-- The endpoint that a call made. -/
def Made.member (d : Made) : Member :=
  ⟨d.call.id, d.type, d.handle⟩

/-- A session with the calls that make endpoints in it. -/
structure Course where
  /-- the session -/
  session : Session
  /-- whether `init` or `close` is under way -/
  turning : Bool
  /-- how many calls there have been -/
  count : Nat
  /-- the calls in flight, the newest first -/
  making : List Making
  /-- the calls that succeeded, in that order -/
  made : List Made

/-- What can happen to a course; `e` is the engine at that moment. -/
inductive Move where
  /-- a call begins -/
  | begun (id : String) (e : State)
  /-- the `i`-th call in flight ends, with what the engine made of it -/
  | finished (i : Nat) (outcome : Except Mishap (Device.DeviceType × Nat)) (e : State)
  /-- the caller writes -/
  | written (id cluster attr : String) (value : Json) (e : State)
  /-- `init` or `close` begins -/
  | withdrawn (e : State)
  /-- `init` asks for a server node -/
  | configured (e : State)
  /-- `init` ends with a server node -/
  | entered (server aggregator : Nat) (e : State)
  /-- `close` ends, or `init` fails -/
  | left

namespace Course

/-- A session at its beginning. -/
def opened (params : Params) (options : BridgeOptions) (sink : Nat) : Course :=
  ⟨.new params options sink, false, 0, [], []⟩

/-- Something happens.  A call that is turned away is over at once; `init` and
    `close` wait for each other. -/
def happen (c : Course) : Move → Course
  | .begun id e =>
    match reserve id (c.session, e) with
    | (.ok l, s, _) =>
      { c with
        session := s
        count := c.count + 1
        making := ⟨c.count, id, l.generation⟩ :: c.making }
    | (.error _, s, _) => { c with session := s, count := c.count + 1 }
  | .finished i outcome e =>
    match c.making[i]? with
    | none => c
    | some m =>
      let made := outcome.map fun (type, handle) => (⟨m, type, handle⟩ : Made)
      let (r, s, _) := settleAddition m.generation m.id (made.map Made.member) (c.session, e)
      { c with
        session := s
        making := c.making.erase m
        made := c.made ++ match made, r with
          | .ok d, .ok _ => [d]
          | _, _ => [] }
  | .written id cluster attr value e =>
    { c with session := (setState id cluster attr value (c.session, e)).2.1 }
  | .withdrawn e =>
    if c.turning then c
    else { c with session := (withdraw (c.session, e)).2.1, turning := true }
  | .configured e =>
    if c.turning then { c with session := (nextConfig (c.session, e)).2.1 } else c
  | .entered server aggregator e =>
    if c.turning then
      { c with session := (enter server aggregator (c.session, e)).2.1, turning := false }
    else c
  | .left => { c with turning := false }

/-- Some things happen. -/
def run (c : Course) (moves : List Move) : Course :=
  moves.foldl happen c

/-- What a move does. -/
inductive Becomes (c : Course) : Course → Prop where
  /-- nothing to endpoints and their calls -/
  | still {c' : Course} (live : c'.session.live = c.session.live)
    (generation : c'.session.generation = c.session.generation) (count : c.count ≤ c'.count)
    (making : c'.making = c.making) (made : c'.made = c.made) : Becomes c c'
  /-- a call reserves its id -/
  | begun {l : Live} {id : String} (hl : c.session.live = some l) (free : l.taken id = false) :
    Becomes c { c with
      session := c.session.reserved l id
      count := c.count + 1
      making := ⟨c.count, id, l.generation⟩ :: c.making }
  /-- a call ends -/
  | finished {m : Making} {made : Except Mishap Made} (flight : m ∈ c.making)
    (own : ∀ d ∈ made.toOption, d.call = m) :
    Becomes c { c with
      session := c.session.settled m.generation m.id (made.map Made.member)
      making := c.making.erase m
      made := c.made ++ made.toOption.toList }
  /-- the server node is given up -/
  | withdrawn : Becomes c { c with session := c.session.ended, turning := true }
  /-- there is a server node -/
  | entered (server aggregator : Nat) : Becomes c { c with
      session := c.session.entered server aggregator
      turning := false }

theorem becomes_happen (c : Course) (move : Move) : c.Becomes (c.happen move) := by
  cases move with
  | begun id e =>
    cases hl : c.session.live with
    | none =>
      simp only [happen, run_reserve_none hl]
      exact .still rfl rfl (Nat.le_succ _) rfl rfl
    | some l =>
      simp only [happen, run_reserve hl]
      cases ht : l.taken id with
      | true => exact .still rfl rfl (Nat.le_succ _) rfl rfl
      | false => exact .begun hl ht
  | finished i outcome e =>
    simp only [happen]
    cases hm : c.making[i]? with
    | none => exact .still rfl rfl (Nat.le_refl _) rfl rfl
    | some m =>
      simp only [run_settleAddition]
      cases outcome with
      | error failure =>
        exact @Becomes.finished c m (.error failure) (List.mem_of_getElem? hm) (by rintro _ ⟨⟩)
      | ok d =>
        refine @Becomes.finished c m (.ok ⟨m, d.1, d.2⟩) (List.mem_of_getElem? hm) ?_
        rintro _ ⟨⟩
        rfl
  | written id cluster attr value e =>
    simp only [happen, session_setState]
    exact .still rfl rfl (Nat.le_refl _) rfl rfl
  | withdrawn e =>
    simp only [happen]
    split
    · exact .still rfl rfl (Nat.le_refl _) rfl rfl
    · exact .withdrawn
  | configured e =>
    simp only [happen]
    split
    all_goals exact .still rfl rfl (Nat.le_refl _) rfl rfl
  | entered server aggregator e =>
    simp only [happen]
    split
    · exact .entered server aggregator
    · exact .still rfl rfl (Nat.le_refl _) rfl rfl
  | left => exact .still rfl rfl (Nat.le_refl _) rfl rfl

/-! ## Accounts -/

/-- The calls that are in flight or succeeded. -/
def calls (c : Course) : List Making :=
  c.making ++ c.made.map (·.call)

end Course

/-- What is reserved and what is there belongs to calls of this generation. -/
structure Live.Accounts (making : List Making) (made : List Made) (l : Live) : Prop where
  /-- ids are reserved by the calls in flight -/
  pending : l.pending = (making.filter (l.generation = ·.generation)).map (·.id)
  /-- endpoints were made by the calls that succeeded -/
  members : l.members = (made.filter (l.generation = ·.call.generation)).map (·.member)

namespace Live.Accounts

variable {making : List Making} {made : List Made} {m : Making}

theorem taken (h : l.Accounts making made) (hm : m ∈ making ++ made.map (·.call))
    (same : l.generation = m.generation) : l.taken m.id = true := by
  rw [Live.taken, Bool.or_eq_true]
  rcases List.mem_append.1 hm with hm | hm
  · right
    rw [h.pending, List.contains_iff_mem]
    exact List.mem_map_of_mem (List.mem_filter.2 ⟨hm, decide_eq_true same⟩)
  · left
    obtain ⟨d, hd, rfl⟩ := List.mem_map.1 hm
    rw [member?_isSome, h.members, List.any_eq_true]
    exact ⟨d.member, List.mem_map_of_mem (List.mem_filter.2 ⟨hd, decide_eq_true same⟩),
      decide_eq_true rfl⟩

/-- A generation of which there are no calls. -/
theorem fresh (pending : l.pending = []) (members : l.members = [])
    (none : ∀ m ∈ making ++ made.map (·.call), l.generation ≠ m.generation) :
    l.Accounts making made where
  pending := by
    rw [pending, List.filter_eq_nil_iff.2 fun m hm => ?_]
    · rfl
    · simpa using none m (List.mem_append_left _ hm)
  members := by
    rw [members, List.filter_eq_nil_iff.2 fun d hd => ?_]
    · rfl
    · simpa using none d.call (List.mem_append_right _ (List.mem_map_of_mem hd))

theorem begun (h : l.Accounts making made) (n : Nat) (id : String) :
    Live.Accounts (⟨n, id, l.generation⟩ :: making) made { l with pending := id :: l.pending } where
  pending := by simp [h.pending]
  members := h.members

/-- A call of another generation ends. -/
theorem stale (h : l.Accounts making made) (other : l.generation ≠ m.generation) {new : List Made}
    (own : ∀ d ∈ new, d.call = m) : l.Accounts (making.filter (· != m)) (made ++ new) where
  pending := by
    rw [h.pending, List.filter_filter]
    congr 1
    refine List.filter_congr fun x _ => ?_
    by_cases same : l.generation = x.generation
    · have : x ≠ m := by
        rintro rfl
        exact other same
      simp [same, this]
    · simp [same]
  members := by
    have none : new.filter (l.generation = ·.call.generation) = [] := by
      refine List.filter_eq_nil_iff.2 fun d hd => ?_
      rw [own d hd]
      simpa using other
    rw [h.members, List.filter_append, none, List.append_nil]

/-- A call of this generation ends. -/
theorem settled (h : l.Accounts making made) (same : l.generation = m.generation)
    (ids : ∀ x ∈ making, x.generation = m.generation → (x.id = m.id ↔ x = m))
    {new : Except Mishap Made} (own : ∀ d ∈ new.toOption, d.call = m) :
    (l.settled m.id (new.map Made.member)).Accounts (making.filter (· != m))
      (made ++ new.toOption.toList) where
  pending := by
    show l.pending.filter (· ≠ m.id) = ((making.filter (· != m)).filter _).map _
    rw [h.pending, List.filter_map, List.filter_filter, List.filter_filter]
    congr 1
    refine List.filter_congr fun x hx => ?_
    show (decide (x.id ≠ m.id) && decide (l.generation = x.generation)) =
      (decide (l.generation = x.generation) && x != m)
    by_cases here : l.generation = x.generation
    · have known := ids x hx (here.symm.trans same)
      rw [Bool.eq_iff_iff]
      simp [here, known]
    · simp [here]
  members := by
    show l.members ++ (new.map Made.member).toOption.toList = ((made ++ _).filter _).map _
    rw [h.members, List.filter_append, List.map_append]
    congr 1
    cases new with
    | error failure => rfl
    | ok d =>
      obtain rfl : d.call = m := own d rfl
      simp [Except.map, Except.toOption, Live.settled, same]

/-- The ids that are there or reserved differ. -/
theorem nodup (h : l.Accounts making made)
    (apart : (making ++ made.map (·.call)).Pairwise Making.Apart) :
    (l.members.map (·.id) ++ l.pending).Nodup := by
  have ids : l.members.map (·.id) ++ l.pending =
      ((made.map (·.call) ++ making).filter (l.generation = ·.generation)).map (·.id) := by
    rw [h.members, h.pending]
    simp [List.filter_append, List.filter_map, Function.comp_def, Made.member]
  have apart' : (made.map (·.call) ++ making).Pairwise Making.Apart :=
    (List.perm_append_comm.pairwise_iff fun h => Std.Symm.symm _ _ h).1 apart
  rw [ids, List.Nodup, List.pairwise_map]
  refine (apart'.filter _).imp_of_mem fun hm hm' differ => differ ?_
  have here := of_decide_eq_true (List.mem_filter.1 hm).2
  have here' := of_decide_eq_true (List.mem_filter.1 hm').2
  exact here.symm.trans here'

end Live.Accounts

namespace Course

/-- The session accounts for its calls. -/
structure Orderly (c : Course) : Prop where
  /-- calls were numbered, and reserved in a generation that there was -/
  known : ∀ m ∈ c.calls, m.number < c.count ∧ m.generation < c.session.generation
  /-- no two calls that did not fail had one reservation -/
  apart : c.calls.Pairwise Making.Apart
  /-- the server node was counted -/
  young : ∀ l, c.session.live = some l → l.generation < c.session.generation
  /-- it accounts for the calls of its generation -/
  accounts : ∀ l, c.session.live = some l → l.Accounts c.making c.made

/-- Calls numbered before `n` belong to generations before `g`, of which none is left. -/
structure Past (n g : Nat) (c : Course) : Prop where
  /-- so many calls there were -/
  count : n ≤ c.count
  /-- so many generations there were -/
  generation : g ≤ c.session.generation
  /-- the server node is a later one -/
  live : ∀ l, c.session.live = some l → g ≤ l.generation
  /-- the calls of its generation are later ones -/
  later : ∀ m ∈ c.calls, g ≤ m.generation → n ≤ m.number

variable {c c' : Course} {n g : Nat}

/-- A call that ends comes to those that succeeded, or is gone. -/
theorem calls_finished {m : Making} {made : Except Mishap Made} (flight : m ∈ c.making)
    (own : ∀ d ∈ made.toOption, d.call = m) :
    (c.making.erase m ++ (c.made ++ made.toOption.toList).map (·.call)).Subperm c.calls := by
  cases made with
  | error failure =>
    simp only [Except.toOption, Option.toList_none, List.append_nil]
    exact (List.erase_sublist.append (.refl _)).subperm
  | ok d =>
    obtain rfl : d.call = m := own d rfl
    have back := (List.perm_cons_erase flight).symm.append_right (c.made.map (·.call))
    refine (List.Perm.trans ?_ back).subperm
    simp only [Except.toOption, Option.toList_some, List.map_append, List.map_cons, List.map_nil,
      ← List.append_assoc]
    exact List.perm_append_singleton _ _

/-- In one generation, a call is known by its id. -/
theorem Orderly.id_iff (o : c.Orderly) {m m' : Making} (hm : m ∈ c.making) (hm' : m' ∈ c.making)
    (same : m.generation = m'.generation) : m.id = m'.id ↔ m = m' := by
  constructor
  · intro id
    by_contra other
    exact o.apart.forall (List.mem_append_left _ hm) (List.mem_append_left _ hm') other same id
  · rintro rfl
    rfl

theorem Orderly.nodup (o : c.Orderly) : c.making.Nodup := by
  refine (List.pairwise_append.1 o.apart).1.imp ?_
  rintro m _ apart rfl
  exact apart rfl rfl

/-- A free id is none of those that the calls of this generation have. -/
theorem Orderly.begun (o : c.Orderly) {l : Live} {id : String} (hl : c.session.live = some l)
    (free : l.taken id = false) : Orderly { c with
      session := c.session.reserved l id
      count := c.count + 1
      making := ⟨c.count, id, l.generation⟩ :: c.making } := by
  refine ⟨?_, ?_, ?_, ?_⟩
  · intro m hm
    rcases List.mem_cons.1 hm with rfl | hm
    · exact ⟨Nat.lt_succ_self _, o.young l hl⟩
    · exact ⟨Nat.lt_succ_of_lt (o.known m hm).1, (o.known m hm).2⟩
  · refine List.pairwise_cons.2 ⟨?_, o.apart⟩
    rintro m hm (same : l.generation = m.generation) (rfl : id = m.id)
    exact Bool.false_ne_true (free.symm.trans ((o.accounts l hl).taken hm same))
  · rintro _ ⟨⟩
    exact o.young l hl
  · rintro _ ⟨⟩
    exact (o.accounts l hl).begun c.count id

theorem Orderly.finished (o : c.Orderly) {m : Making} {made : Except Mishap Made}
    (flight : m ∈ c.making) (own : ∀ d ∈ made.toOption, d.call = m) : Orderly { c with
      session := c.session.settled m.generation m.id (made.map Made.member)
      making := c.making.erase m
      made := c.made ++ made.toOption.toList } := by
  have fewer := calls_finished flight own
  refine ⟨fun m hm => o.known m (fewer.subset hm), ?_, ?_, ?_⟩
  -- the order of the calls has changed, but they are apart in any order
  · obtain ⟨calls, perm, sub⟩ := fewer
    exact (perm.pairwise_iff fun h => Std.Symm.symm _ _ h).1 (o.apart.sublist sub)
  · intro l' hl'
    obtain ⟨l, hl, rfl⟩ := Option.map_eq_some_iff.1 hl'
    split
    all_goals exact o.young l hl
  · intro l' hl'
    obtain ⟨l, hl, rfl⟩ := Option.map_eq_some_iff.1 hl'
    show Live.Accounts (c.making.erase m) _ _
    rw [o.nodup.erase_eq_filter]
    -- the reservation is given back by id, which in its own generation is the call's alone
    split
    next same =>
      exact (o.accounts l hl).settled same (fun x hx => o.id_iff hx flight) own
    next other =>
      exact (o.accounts l hl).stale other fun d hd => own d (Option.mem_toList.1 hd)

theorem orderly_step (o : c.Orderly) (step : c.Becomes c') : c'.Orderly := by
  cases step with
  | still live generation count making made =>
    obtain ⟨known, apart, young, accounts⟩ := o
    refine ⟨?_, ?_, ?_, ?_⟩
    all_goals simp only [calls, live, generation, making, made] at *
    · exact fun m hm => ⟨Nat.lt_of_lt_of_le (known m hm).1 count, (known m hm).2⟩
    · exact apart
    · exact young
    · exact accounts
  | begun hl free => exact o.begun hl free
  | finished flight own => exact o.finished flight own
  | withdrawn => exact ⟨o.known, o.apart, by rintro _ ⟨⟩, by rintro _ ⟨⟩⟩
  | entered server aggregator =>
    refine ⟨fun m hm => ⟨(o.known m hm).1, Nat.lt_succ_of_lt (o.known m hm).2⟩, o.apart, ?_, ?_⟩
    · rintro _ ⟨⟩
      exact Nat.lt_succ_self _
    · rintro _ ⟨⟩
      exact .fresh rfl rfl fun m hm => Nat.ne_of_gt (o.known m hm).2

theorem past_step (p : c.Past n g) (step : c.Becomes c') : c'.Past n g := by
  cases step with
  | still live generation count making made =>
    obtain ⟨count', generation', live', later⟩ := p
    refine ⟨Nat.le_trans count' count, ?_, ?_, ?_⟩
    all_goals simp only [calls, live, generation, making, made] at *
    · exact generation'
    · exact live'
    · exact later
  | @begun l _ hl free =>
    refine ⟨Nat.le_succ_of_le p.count, p.generation, ?_, ?_⟩
    · rintro _ ⟨⟩
      exact p.live l hl
    · intro m hm
      rcases List.mem_cons.1 hm with rfl | hm
      · exact fun _ => p.count
      · exact p.later m hm
  | finished flight own =>
    refine ⟨p.count, p.generation, ?_, ?_⟩
    · intro l' hl'
      obtain ⟨l, hl, rfl⟩ := Option.map_eq_some_iff.1 hl'
      split
      all_goals exact p.live l hl
    · exact fun m hm => p.later m ((calls_finished flight own).subset hm)
  | withdrawn => exact ⟨p.count, p.generation, by rintro _ ⟨⟩, p.later⟩
  | entered server aggregator =>
    exact ⟨p.count, Nat.le_succ_of_le p.generation, by rintro _ ⟨⟩; exact p.generation, p.later⟩

theorem orderly_opened (params : Params) (options : BridgeOptions) (sink : Nat) :
    (opened params options sink).Orderly where
  known := by rintro _ ⟨⟩
  apart := .nil
  young := by rintro _ ⟨⟩
  accounts := by rintro _ ⟨⟩

theorem orderly_run (o : c.Orderly) (moves : List Move) : (c.run moves).Orderly := by
  induction moves generalizing c with
  | nil => exact o
  | cons move moves ih => exact ih (orderly_step o (becomes_happen c move))

theorem past_run (p : c.Past n g) (moves : List Move) : (c.run moves).Past n g := by
  induction moves generalizing c with
  | nil => exact p
  | cons move moves ih => exact ih (past_step p (becomes_happen c move))

/-- Once the server node is given up, the calls so far are of the past. -/
theorem Orderly.withdrawn (o : c.Orderly) (free : c.turning = false) (e : State) :
    (c.happen (.withdrawn e)).Past c.count c.session.generation := by
  simp only [happen, free]
  refine ⟨Nat.le_refl _, Nat.le_refl _, by rintro _ ⟨⟩, fun m hm old => ?_⟩
  exact absurd (o.known m hm).2 (Nat.not_lt.2 old)

/-! ## Operations without interruption -/

theorem course_close (free : c.turning = false) (e : State) :
    c.run [.withdrawn e, .left] = { c with session := (close (c.session, e)).2.1 } := by
  rw [session_close]
  simp only [run, List.foldl_cons, List.foldl_nil, happen, free]
  rfl

theorem course_init (free : c.turning = false) (e : State) :
    ∃ moves, c.run (.withdrawn e :: moves) = { c with session := (init (c.session, e)).2.1 } := by
  rcases session_init c.session e with same | same | ⟨server, aggregator, same⟩
  · refine ⟨[.left], ?_⟩
    rw [same]
    simp only [run, List.foldl_cons, List.foldl_nil, happen, free]
    rfl
  · refine ⟨[.configured e, .left], ?_⟩
    rw [same]
    simp only [run, List.foldl_cons, List.foldl_nil, happen, free]
    rfl
  · refine ⟨[.configured e, .entered server aggregator e], ?_⟩
    rw [same]
    simp only [run, List.foldl_cons, List.foldl_nil, happen, free]
    rfl

theorem course_reset (free : c.turning = false) (e : State) :
    ∃ moves, c.run moves = { c with session := (reset (c.session, e)).2.1 } := by
  have closed := course_close free e
  cases hc : close (c.session, e) with
  | mk r p =>
    rw [hc] at closed
    cases r with
    | error failure =>
      refine ⟨_, closed.trans ?_⟩
      simp only [reset, Use.run_bind, hc]
    | ok _ =>
      obtain ⟨moves, initialised⟩ := course_init (c := { c with session := p.1 }) free p.2
      refine ⟨[.withdrawn e, .left] ++ .withdrawn p.2 :: moves, ?_⟩
      rw [run, List.foldl_append]
      change run (c.run _) _ = _
      rw [closed, initialised]
      simp only [reset, Use.run_bind, hc]

/-- A call that waited ends in one move, unless the engine collapses. -/
theorem course_finishAddition {i : Nat} {m : Making} (hm : c.making[i]? = some m) (aggregator : Nat)
    {d : Definition} (own : d.id = m.id) (e : State) :
    (finishAddition m.generation aggregator d (c.session, e)).2.1 = c.session ∨
    ∃ outcome, (finishAddition m.generation aggregator d (c.session, e)).2.1 =
        (c.happen (.finished i outcome e)).session := by
  rcases finishAddition_cases m.generation aggregator d c.session e with
    ⟨reason, e', ended⟩ | ⟨outcome, e', ended⟩
  · exact .inl (by rw [ended])
  · refine .inr ⟨outcome, ?_⟩
    rw [ended, own]
    simp only [happen, hm, run_settleAddition]
    cases outcome <;> rfl

theorem course_addEndpoint (spec : Spec) (e : State) :
    ∃ rest, (c.run (.begun spec.id e :: rest)).session = (addEndpoint spec (c.session, e)).2.1 := by
  cases hl : c.session.live with
  | none => exact ⟨[], by simp [run, happen, addEndpoint, run_reserve_none hl]⟩
  | some l =>
    cases free : l.taken spec.id with
    | true =>
      exact ⟨[], by simp [run, happen, run_reserve hl, free, run_addEndpoint_taken hl free]⟩
    | false =>
      have begun : c.happen (.begun spec.id e) = { c with
          session := c.session.reserved l spec.id
          count := c.count + 1
          making := ⟨c.count, spec.id, l.generation⟩ :: c.making } := by
        simp only [happen, run_reserve hl, free]
        rfl
      simp only [run, List.foldl_cons, begun]
      rcases addEndpoint_cases hl free e with
        ⟨result, e', eq⟩ | ⟨reason, e', eq⟩ | ⟨outcome, e', eq⟩
      · exact ⟨[], by rw [eq]; rfl⟩
      · exact ⟨[], by rw [eq]; rfl⟩
      · refine ⟨[.finished 0 outcome e], ?_⟩
        rw [eq]
        simp only [List.foldl_cons, List.foldl_nil, happen, List.getElem?_cons_zero,
          run_settleAddition]
        cases outcome <;> rfl

/-! ## The accounts of a session -/

/-- The calls in flight that reserve an id in the session as it is now. -/
def reserving (c : Course) : List Making :=
  c.making.filter fun m => c.session.live.any (·.generation = m.generation)

/-- The calls whose endpoint is in the session as it is now. -/
def listed (c : Course) : List Made :=
  c.made.filter fun d => c.session.live.any (·.generation = d.call.generation)

theorem reserving_eq (hl : c.session.live = some l) :
    c.reserving = c.making.filter (l.generation = ·.generation) := by
  simp [reserving, hl]

theorem listed_eq (hl : c.session.live = some l) :
    c.listed = c.made.filter (l.generation = ·.call.generation) := by
  simp [listed, hl]

theorem Past.listed (p : c.Past n g) {d : Made} (hd : d ∈ c.listed) : n ≤ d.call.number := by
  obtain ⟨hd, here⟩ := List.mem_filter.1 hd
  obtain ⟨l, hl, same⟩ := (Option.any_eq_true _ _).1 here
  refine p.later d.call (List.mem_append_right _ (List.mem_map_of_mem hd)) ?_
  rw [← of_decide_eq_true same]
  exact p.live l hl

/-- **A session accounts for every endpoint and every reservation.**  However the
    moves of `init`, `close`, the caller's writes and any number of calls that make
    endpoints are interleaved: the ids that are there or reserved all differ;
    what is reserved belongs to the calls of this generation that are in
    flight, and what is there to those that succeeded, so that any other id can
    be reserved; of the calls of a generation for one id one succeeds at most;
    whatever was begun before `init` or `close` is not there afterwards; and a call
    that fails, at once or at its end, leaves the endpoints as they are. -/
theorem accounts_run (params : Params) (options : BridgeOptions) (sink : Nat) (moves : List Move) :
    let c := (opened params options sink).run moves
    (∀ l, c.session.live = some l →
      (l.members.map (·.id) ++ l.pending).Nodup ∧
      l.pending = c.reserving.map (·.id) ∧ l.members = c.listed.map (·.member)) ∧
    (∀ id e, (∃ l, (reserve id (c.session, e)).1 = .ok l) ↔
      ∃ l, c.session.live = some l ∧ id ∉ l.members.map (·.id) ∧ id ∉ l.pending) ∧
    c.made.Pairwise (fun d d' => d.call.generation = d'.call.generation → d.call.id ≠ d'.call.id) ∧
    (∀ before e after, moves = before ++ .withdrawn e :: after →
      ((opened params options sink).run before).turning = false →
      ∀ d ∈ c.listed, ((opened params options sink).run before).count ≤ d.call.number) ∧
    (∀ spec e m, (addEndpoint spec (c.session, e)).1 = .error m →
      (addEndpoint spec (c.session, e)).2.1.live.map (·.members) = c.session.live.map (·.members)) ∧
    (∀ generation id made e,
      (settleAddition generation id made (c.session, e)).1 = made.map (fun _ => ()) ∧
      (made.toOption = none →
        (settleAddition generation id made (c.session, e)).2.1.live.map (·.members) =
          c.session.live.map (·.members))) := by
  intro c
  have o : c.Orderly := orderly_run (orderly_opened params options sink) moves
  refine ⟨fun l hl => ?_, fun id e => reserve_iff id c.session e, ?_, ?_,
    fun spec e m => endpoints_addEndpoint, ?_⟩
  · have accounts := o.accounts l hl
    rw [reserving_eq hl, listed_eq hl]
    exact ⟨accounts.nodup o.apart, accounts.pending, accounts.members⟩
  · exact List.pairwise_map.1 (List.pairwise_append.1 o.apart).2.1
  · rintro before e after rfl free d hd
    have o := orderly_run (orderly_opened params options sink) before
    have p := past_run (o.withdrawn free e) after
    have later : c = (((opened params options sink).run before).happen (.withdrawn e)).run after :=
      List.foldl_append ..
    rw [later] at hd
    exact p.listed hd
  · intro generation id made e
    rw [run_settleAddition]
    exact ⟨rfl, fun failed => endpoints_settled generation id failed c.session⟩

/-- Calls for `a` and `b` around a reset: the second call for `a` is turned away, the
    first call for `b` fails, and the second ends when the server node is another. -/
def crowded : List Move :=
  [ .withdrawn .initial, .configured .initial, .entered 0 0 .initial,
    .begun "a" .initial, .begun "b" .initial, .begun "a" .initial,
    .finished 1 (.ok (.doorLock, 0)) .initial,
    .finished 0 (.error (.failed (.duplicateEndpoint "b"))) .initial, .begun "b" .initial,
    .withdrawn .initial, .begun "c" .initial, .configured .initial, .entered 1 1 .initial,
    .begun "b" .initial, .finished 1 (.ok (.doorLock, 1)) .initial,
    .finished 0 (.ok (.doorLock, 2)) .initial ]

theorem accounts_run_crowded :
    let c := (opened Gateway.hall ⟨500, 32⟩ 0).run crowded
    c.session.live.map (·.members.map (·.handle)) = some [2] ∧
      c.made.map (·.call.number) = [0, 3, 5] ∧ ∀ d ∈ c.listed, 4 ≤ d.call.number := by
  refine ⟨rfl, rfl, ?_⟩
  exact (accounts_run Gateway.hall ⟨500, 32⟩ 0 crowded).2.2.2.1 (crowded.take 9) .initial
    (crowded.drop 10) rfl rfl

end Course

end HomeGateway.Bridge
