/-
  Endpoints of which a session has taken leave.

  When a session is reset or closed it forgets its endpoints, but writes to them
  may still wait and get through later.  To one endpoint, the waiting writes are
  those of its caller that are under way, and its locks cover them; so it stays
  silent, unless a write gets through too late or was not foreseen.

  * `run_foldl`: what the end of the waiting writes is to one endpoint;
  * `sound_becomes`, `parted_becomes`: what a turn keeps;
  * `silent_parted`: the silence of the endpoints that were there before;
  * `spoken_belated`: one that is not silent.
-/
import HomeGateway.Proofs.OwnWrites
import HomeGateway.Proofs.Turns

namespace HomeGateway

open Device Engine Bridge

/-! ## One endpoint and the writes that wait for it -/

/-- A write that waits, as one that is under way since some time. -/
def Engine.Write.call (since : Nat) (w : Write) : Call :=
  ⟨w.cluster, w.attr, w.value, w.locked, since⟩

/-- The writes to an endpoint. -/
def callsTo (h : Nat) : List (WaitingWrite × Nat) → List Call
  | [] => []
  | (w, since) :: rest =>
    if w.write.endpoint = h then w.write.call since :: callsTo h rest else callsTo h rest

theorem callsTo_append (h : Nat) (xs ys : List (WaitingWrite × Nat)) :
    callsTo h (xs ++ ys) = callsTo h xs ++ callsTo h ys := by
  induction xs with
  | nil => rfl
  | cons x xs ih =>
    simp only [List.cons_append, callsTo, ih]
    split <;> rfl

/-- All writes under way get through, the first first. -/
def Bridge.Busy.through (b : Busy) : List Happening :=
  List.replicate b.calls.length (.finished 0)

theorem Bridge.Busy.now_through (b : Busy) (k : Nat) :
    (b.run (List.replicate k (.finished 0))).1.now = b.now := by
  induction k generalizing b with
  | zero => rfl
  | succ k ih =>
    rw [List.replicate_succ, Busy.run]
    refine (ih (b.happen (.finished 0)).1).trans ?_
    simp only [Busy.happen]
    split <;> rfl

namespace Gateway

theorem spoken_fst {w : Write} {e : State} {word : Word} (spoken : word ∈ e.spoken w) :
    word.1 = w.endpoint := by
  obtain ⟨entry, -, rfl⟩ := List.mem_map.1 spoken
  rfl

theorem endpoints_finishWaitingWrite (g : Gateway) (w : WaitingWrite) :
    (g.finishWaitingWrite w).engine.endpoints = (g.engine.finished w.write).endpoints := by
  obtain ⟨entry, -, eq⟩ := finishWaitingWrite_eq g w
  rw [eq]
  rfl

theorem now_finishWaitingWrite (g : Gateway) (w : WaitingWrite) :
    (g.finishWaitingWrite w).engine.now = g.engine.now := by
  obtain ⟨entry, -, eq⟩ := finishWaitingWrite_eq g w
  rw [eq]
  exact (State.aside_finished w.write g.engine).now

/-- The end of a write to an endpoint, and what it tells. -/
theorem finished_followed {e : State} {w : Write} {x : VirtualEndpoint}
    (place : e.endpoints[w.endpoint]? = some (.followed x)) :
    let r := (x.finishWrite e.now w.cluster w.attr w.value w.locked).2
    (e.finished w).endpoints[w.endpoint]? = some (.followed r.after) ∧
      (r.events = [] → e.spoken w = []) := by
  have lt := (List.getElem?_eq_some_iff.1 place).1
  unfold State.finished State.spoken State.words
  rw [place]
  constructor
  · exact List.getElem?_set_self lt
  · intro silent
    simp [Bridged.finishWrite, Bridged.journal, silent]

/-- To one endpoint, the end of the waiting writes is that of its writes under way. -/
theorem run_foldl {h : Nat} (ps : List (WaitingWrite × Nat)) {g : Gateway} {x : VirtualEndpoint}
    (place : g.engine.endpoints[h]? = some (.followed x)) :
    let b : Busy := ⟨g.engine.now, false, x, callsTo h ps⟩
    ((ps.map Prod.fst).foldl finishWaitingWrite g).engine.endpoints[h]? =
        some (.followed (b.run b.through).1.endpoint) ∧
      ((b.run b.through).2 = [] → ∀ word ∈ g.spokenBy (ps.map Prod.fst), word.1 ≠ h) := by
  induction ps generalizing g x with
  | nil => exact ⟨place, fun _ => List.forall_mem_nil _⟩
  | cons p ps ih =>
    obtain ⟨w, since⟩ := p
    have now := now_finishWaitingWrite g w
    simp only [List.map_cons, List.foldl_cons, spokenBy, List.forall_mem_append]
    by_cases own : w.write.endpoint = h
    · subst own
      obtain ⟨after, quiet⟩ := finished_followed place
      rw [← endpoints_finishWaitingWrite] at after
      have rest := ih after
      rw [now] at rest
      -- the first of the writes under way is the one that ends
      simp only [callsTo, if_pos, Busy.through, List.length_cons, List.replicate_succ, Busy.run,
        Busy.happen, Busy.through?]
      refine ⟨rest.1, fun silent => ?_⟩
      obtain ⟨first, others⟩ := List.append_eq_nil_iff.1 silent
      rw [quiet first]
      exact ⟨List.forall_mem_nil _, rest.2 others⟩
    · have apart := (State.aside_finished w.write g.engine).others h (Ne.symm own)
      have rest := ih (g := g.finishWaitingWrite w) (x := x)
        (by rw [endpoints_finishWaitingWrite, apart, place])
      rw [now] at rest
      simp only [callsTo, if_neg own]
      refine ⟨rest.1, fun silent => ⟨fun word spoken => ?_, rest.2 silent⟩⟩
      rw [spoken_fst spoken]
      exact own

end Gateway

namespace Visit

/-- The writes to an endpoint that wait. -/
def calls (h : Nat) (v : Visit) : List Call :=
  callsTo h (v.gateway.writes.zip v.begun)

/-- An endpoint and the writes to it that wait. -/
def busy (h : Nat) (x : VirtualEndpoint) (v : Visit) : Busy :=
  ⟨v.gateway.engine.now, v.gateway.engine.writesHeld, x, v.calls h⟩

/-- The endpoint is kept, and the writes to it that wait have their locks. -/
structure Knows (window h : Nat) (x : VirtualEndpoint) (v : Visit) : Prop where
  /-- its place -/
  place : v.gateway.engine.endpoints[h]? = some (.followed x)
  /-- it stems from a definition -/
  stems : ∃ d, Busy.Stems window d v.gateway.engine.now x
  /-- the locks -/
  covered : Busy.Covered window (v.busy h x)

/-- What is known of an endpoint: it is none of the session's, and no write to it
    waits, or it is kept with the locks that it needs. -/
structure Sound (n window h : Nat) (s : Bridge.Session) (v : Visit) : Prop where
  /-- the session -/
  here : v.gateway.sessions[n]? = some (.bridge s)
  /-- how long a lock lives -/
  life : s.options.lockWindow = window
  /-- writes wait only while they are held up -/
  idle : v.gateway.engine.writesHeld = false → v.gateway.writes = []
  /-- all of them began at some time -/
  dated : v.begun.length = v.gateway.writes.length
  /-- the endpoint -/
  endpoint : (h ∉ s.handles ∧ v.calls h = []) ∨ ∃ x, v.Knows window h x

variable {n window h : Nat} {s s' : Bridge.Session} {v v' : Visit} {t : Turn}
  {words : List Word} {x : VirtualEndpoint}

theorem covered_nil (idle : v.calls h = []) : Busy.Covered window (v.busy h x) := by
  intro t _ key value
  show (v.calls h).countP _ ≤ _
  rw [idle]
  exact Nat.zero_le _

theorem calls_of_idle (idle : v.gateway.writes = []) : v.calls h = [] := by
  unfold calls
  rw [idle]
  rfl

/-- The writes that wait after one more began. -/
theorem calls_began (dated : v.begun.length = v.gateway.writes.length) {g : Gateway}
    {w : WaitingWrite} {t : Nat} (writes : g.writes = v.gateway.writes ++ [w]) :
    (⟨g, v.begun ++ [t]⟩ : Visit).calls h =
      v.calls h ++ if w.write.endpoint = h then [w.write.call t] else [] := by
  unfold calls
  rw [writes, List.zip_append dated.symm, callsTo_append]
  rfl

/-- The endpoint, its writes that wait and the time are those of a covered one. -/
theorem knows_of_busy {b : Busy} {d : Definition}
    (place : v.gateway.engine.endpoints[h]? = some (.followed b.endpoint))
    (now : v.gateway.engine.now = b.now) (calls : v.calls h = b.calls)
    (stems : Busy.Stems window d b.now b.endpoint) (covered : Busy.Covered window b) :
    v.Knows window h b.endpoint where
  place := place
  stems := ⟨d, now ▸ stems⟩
  covered := by
    intro t late key value
    show (v.calls h).countP _ ≤ _
    rw [calls]
    exact covered t (now ▸ show v.gateway.engine.now ≤ t from late) key value

/-- Nothing that concerns the endpoint changed. -/
theorem Knows.same (k : v.Knows window h x) (aside : v'.gateway.engine.endpoints[h]? =
      v.gateway.engine.endpoints[h]?) (now : v'.gateway.engine.now = v.gateway.engine.now)
    (calls : v'.calls h = v.calls h) : v'.Knows window h x := by
  obtain ⟨d, stems⟩ := k.stems
  exact knows_of_busy (b := v.busy h x) (aside.trans k.place) now calls stems k.covered

theorem started_followed {e e' : State} {cluster attr : String} {value : Json} {w : Write}
    (place : e.endpoints[h]? = some (.followed x))
    (start : e.started h cluster attr value = (w, e')) :
    w = ⟨h, cluster, attr, value, (x.startWrite e.now cluster attr value).2⟩ ∧
      e'.endpoints[h]? = some (.followed (x.startWrite e.now cluster attr value).1) := by
  have lt := (List.getElem?_eq_some_iff.1 place).1
  unfold State.started at start
  rw [place] at start
  cases start
  exact ⟨rfl, List.getElem?_set_self lt⟩

theorem sound_hushed (sound : v.Sound n window h s) {e' : State}
    (hush : Bridge.Hush (s, v.gateway.engine) (s', e')) (additions : List WaitingAddition) :
    Sound n window h s'
      { v with gateway := { v.gateway.acted n s' e' with additions := additions } } where
  here := List.getElem?_set_self (List.getElem?_eq_some_iff.1 sound.here).1
  life := by rw [hush.options, sound.life]
  idle free := sound.idle (hush.engine.held.symm.trans free)
  dated := sound.dated
  endpoint := by
    rcases sound.endpoint with ⟨stranger, idle⟩ | ⟨x, k⟩
    · by_cases member : h ∈ s'.handles
      · obtain ⟨-, sink, d, made⟩ := (hush.handles h member).resolve_left stranger
        rw [sound.life] at made
        exact .inr ⟨_, made, ⟨d, Busy.stems_opened _ window sink d⟩, covered_nil idle⟩
      · exact .inl ⟨member, idle⟩
    · refine .inr ⟨x, k.same ?_ hush.engine.now rfl⟩
      rw [k.place]
      exact getElem?_of_extends hush.engine.endpoints k.place

theorem sound_began (sound : v.Sound n window h s) {handle : Nat} {cluster attr : String}
    {value : Json} {w : Write} {e : State} (writer : Writer) (member : handle ∈ s.handles)
    (held : v.gateway.engine.writesHeld = true)
    (start : v.gateway.engine.started handle cluster attr value = (w, e)) :
    Sound n window h s
      { gateway := { v.gateway with engine := e, writes := v.gateway.writes ++ [⟨w, writer⟩] }
        begun := v.begun ++ [v.gateway.engine.now] } := by
  obtain ⟨target, aside, -⟩ := State.aside_started start
  constructor
  case here => exact sound.here
  case life => exact sound.life
  case idle =>
    intro free
    rw [aside.held, held] at free
    cases free
  case dated =>
    show (v.begun ++ [_]).length = (v.gateway.writes ++ [_]).length
    rw [List.length_append, List.length_append, sound.dated]
    rfl
  case endpoint =>
    have calls := calls_began (h := h) (t := v.gateway.engine.now) sound.dated
      (g := { v.gateway with engine := e, writes := v.gateway.writes ++ [⟨w, writer⟩] }) rfl
    rcases sound.endpoint with ⟨stranger, idle⟩ | ⟨x, k⟩
    · have other : w.endpoint ≠ h := by
        rintro rfl
        exact stranger (target ▸ member)
      rw [if_neg other, List.append_nil] at calls
      exact .inl ⟨stranger, calls.trans idle⟩
    · right
      by_cases own : handle = h
      · subst own
        obtain ⟨rfl, place⟩ := started_followed k.place start
        rw [if_pos rfl] at calls
        obtain ⟨d, stems⟩ := k.stems
        exact ⟨_, knows_of_busy (b := ((v.busy handle x).happen (.begun cluster attr value)).1)
          place aside.now calls
          (Busy.keeps_happen (Busy.lasting_stems window d) stems (.begun cluster attr value))
          (k.covered.begun stems.window cluster attr value)⟩
      · have other : w.endpoint ≠ h := fun same => own (target.symm.trans same)
        rw [if_neg other, List.append_nil] at calls
        exact ⟨x, k.same (aside.others h (Ne.symm own)) aside.now calls⟩

theorem sound_wrote (sound : v.Sound n window h s) {handle : Nat} {cluster attr : String}
    {value : Json} {w : Write} {e : State}
    (free : v.gateway.engine.writesHeld = false)
    (start : v.gateway.engine.started handle cluster attr value = (w, e)) :
    Sound n window h s { v with gateway := { v.gateway with engine := e.finished w } } where
  here := sound.here
  life := sound.life
  idle _ := sound.idle free
  dated := sound.dated
  endpoint := by
    obtain ⟨target, begins, -⟩ := State.aside_started start
    have ends := State.aside_finished w e
    have now := ends.now.trans begins.now
    refine sound.endpoint.imp id fun ⟨x, k⟩ => ?_
    by_cases own : handle = h
    · subst own
      obtain ⟨rfl, place⟩ := started_followed k.place start
      obtain ⟨after, -⟩ := Gateway.finished_followed (w := ⟨handle, _, _, _, _⟩) place
      obtain ⟨d, stems⟩ := k.stems
      have lasts := Busy.lasting_stems window d
      have begun := Busy.keeps_happen (b := v.busy handle x) lasts stems
        (.begun cluster attr value)
      rw [begins.now] at after
      refine ⟨_, after, ⟨d, ?_⟩, covered_nil (calls_of_idle (sound.idle free))⟩
      show Busy.Stems window d (e.finished _).now _
      rw [now]
      exact lasts.finish begun cluster attr value _
    · have apart := (ends.others h (target ▸ Ne.symm own)).trans (begins.others h (Ne.symm own))
      exact ⟨x, k.same apart now rfl⟩

/-- The writes that wait, each with the time at which it began. -/
theorem fst_zip (dated : v.begun.length = v.gateway.writes.length) :
    (v.gateway.writes.zip v.begun).map Prod.fst = v.gateway.writes :=
  List.map_fst_zip (Nat.le_of_eq dated.symm)

theorem sound_released (sound : v.Sound n window h s) :
    Sound n window h s ⟨v.gateway.releaseWrites, []⟩ := by
  obtain ⟨sessions, writes, now, -⟩ := Gateway.frame_foldl v.gateway.writes v.gateway.freed
  have calls : (⟨v.gateway.releaseWrites, []⟩ : Visit).calls h = [] := calls_of_idle writes
  constructor
  case here => exact (congrArg (·[n]?) sessions).trans sound.here
  case life => exact sound.life
  case idle => exact fun _ => writes
  case dated => exact (congrArg List.length writes).symm
  case endpoint =>
    refine sound.endpoint.imp (fun stranger => ⟨stranger.1, calls⟩) fun ⟨x, k⟩ => ?_
    obtain ⟨place, -⟩ := Gateway.run_foldl (v.gateway.writes.zip v.begun) (g := v.gateway.freed)
      k.place
    rw [fst_zip sound.dated] at place
    obtain ⟨d, stems⟩ := k.stems
    have stays := Busy.keeps_run (b := ⟨v.gateway.engine.now, false, x, v.calls h⟩)
      (Busy.lasting_stems window d) stems (List.replicate (v.calls h).length (.finished 0))
    rw [Busy.now_through] at stays
    refine ⟨_, place, ⟨d, ?_⟩, covered_nil calls⟩
    show Busy.Stems window d v.gateway.releaseWrites.engine.now _
    rw [show v.gateway.releaseWrites.engine.now = v.gateway.engine.now from now]
    exact stays

theorem sound_becomes (sound : v.Sound n window h s) (step : v.Becomes n t v' words) :
    ∃ s', v'.Sound n window h s' := by
  cases step with
  | hushed additions here hush =>
    cases sound.here.symm.trans here
    exact ⟨_, sound_hushed sound hush additions⟩
  | began writer here member held start =>
    cases sound.here.symm.trans here
    exact ⟨s, sound_began sound writer member held start⟩
  | wrote here _ free start =>
    cases sound.here.symm.trans here
    exact ⟨s, sound_wrote sound free start⟩
  | held =>
    refine ⟨s, sound.here, sound.life, nofun, sound.dated, sound.endpoint.imp id ?_⟩
    exact fun ⟨x, k⟩ => ⟨x, k.same rfl rfl rfl⟩
  | released => exact ⟨s, sound_released sound⟩
  | passed ms =>
    refine ⟨s, sound.here, sound.life, sound.idle, sound.dated, sound.endpoint.imp id ?_⟩
    rintro ⟨x, k⟩
    obtain ⟨d, stems⟩ := k.stems
    exact ⟨x, k.place, ⟨d, (Busy.lasting_stems window d).passed ms stems⟩,
      fun t late => k.covered t (Nat.le_trans (Nat.le_add_right _ ms) late)⟩

/-! ## Endpoints that the session no longer has -/

/-- The endpoint is there, and it is none of the session's. -/
structure Parted (n h : Nat) (v : Visit) : Prop where
  /-- it is there -/
  there : h < v.gateway.engine.endpoints.length
  /-- the session has others -/
  gone : ∀ s, v.gateway.sessions[n]? = some (.bridge s) → h ∉ s.handles

theorem parted_becomes (parted : v.Parted n h) (step : v.Becomes n t v' words) :
    v'.Parted n h := by
  cases step with
  | hushed additions here hush =>
    constructor
    · exact Nat.lt_of_lt_of_le parted.there hush.engine.endpoints.length_le
    · intro s' here' member
      cases (List.getElem?_set_self (List.getElem?_eq_some_iff.1 here).1).symm.trans here'
      rcases hush.handles h member with before | ⟨above, -⟩
      · exact parted.gone _ here before
      · exact Nat.not_lt.2 above parted.there
  | began writer here member held start =>
    exact ⟨(State.aside_started start).2.1.length ▸ parted.there, parted.gone⟩
  | wrote here member free start =>
    refine ⟨?_, parted.gone⟩
    show h < (State.finished _ _).endpoints.length
    rw [(State.aside_finished _ _).length, (State.aside_started start).2.1.length]
    exact parted.there
  | held | passed => exact ⟨parted.there, parted.gone⟩
  | released =>
    obtain ⟨sessions, -, -, length, -⟩ := Gateway.frame_foldl v.gateway.writes v.gateway.freed
    refine ⟨?_, fun s here => parted.gone s ?_⟩
    · show h < v.gateway.releaseWrites.engine.endpoints.length
      rw [show v.gateway.releaseWrites.engine.endpoints.length = _ from length]
      exact parted.there
    · exact (congrArg (·[n]?) sessions).symm.trans here

/-- Whether every write that a turn lets through to an endpoint gets through within
    the life of a lock, and was locked if it changes something. -/
def timely (window h : Nat) (v : Visit) : Turn → Bool
  | .released =>
    match v.gateway.engine.endpoints[h]? with
    | some (.followed x) =>
      let b : Busy := { v.busy h x with held := false }
      Busy.always (Busy.prompt window) b b.through && Busy.always Busy.foreseen b b.through
    | _ => true
  | _ => true

/-- Whether each of several turns is of a kind, by what there is before it. -/
def always (p : Visit → Turn → Bool) (n : Nat) : Visit → List Turn → Bool
  | _, [] => true
  | v, t :: ts => p v t && always p n (v.turn n t) ts

theorem own_through (b : Busy) : ∀ x ∈ b.through, x.own = true := by
  intro x hx
  rw [(List.mem_replicate.1 hx).2]
  rfl

theorem silent_idle {ps : List (WaitingWrite × Nat)} (idle : callsTo h ps = []) {g : Gateway}
    {word : Word} (spoken : word ∈ g.spokenBy (ps.map Prod.fst)) : word.1 ≠ h := by
  induction ps generalizing g with
  | nil => cases spoken
  | cons p ps ih =>
    obtain ⟨w, since⟩ := p
    unfold callsTo at idle
    split at idle
    · cases idle
    · rename_i other
      rcases List.mem_append.1 spoken with first | rest
      · rw [Gateway.spoken_fst first]
        exact other
      · exact ih idle rest

theorem silent_becomes (sound : v.Sound n window h s) (parted : v.Parted n h)
    (step : v.Becomes n t v' words) (sure : v.timely window h t = true) :
    ∀ word ∈ words, word.1 ≠ h := by
  cases step with
  | hushed | began | held | passed => exact List.forall_mem_nil _
  | wrote here member free start =>
    intro word spoken
    rw [Gateway.spoken_fst spoken, (State.aside_started start).1]
    rintro rfl
    exact parted.gone _ here member
  | released =>
    rw [← fst_zip sound.dated]
    rcases sound.endpoint with ⟨-, idle⟩ | ⟨x, k⟩
    · exact fun word spoken => silent_idle idle spoken
    · obtain ⟨d, stems⟩ := k.stems
      simp only [timely, k.place, Bool.and_eq_true] at sure
      refine (Gateway.run_foldl _ (g := v.gateway.freed) k.place).2 ?_
      exact Busy.covered_run (b := { v.busy h x with held := false }) k.covered stems
        (own_through _) sure.1 sure.2

end Visit

/-! ## Taking leave -/

theorem Bridge.handles_close (s : Bridge.Session) (e : State) :
    (Bridge.close (s, e)).2.1.handles = [] := by
  rw [session_close]
  rfl

theorem Bridge.handles_init (s : Bridge.Session) (e : State) :
    (Bridge.init (s, e)).2.1.handles = [] := by
  rcases session_init s e with eq | eq | ⟨server, aggregator, eq⟩
  all_goals
    rw [eq]
    rfl

theorem Bridge.handles_reset (s : Bridge.Session) (e : State) :
    (Bridge.reset (s, e)).2.1.handles = [] := by
  have closed := handles_close s e
  unfold Bridge.reset
  rw [Use.run_bind]
  generalize Bridge.close (s, e) = run at closed
  rcases run with ⟨_ | _, s', e'⟩
  · exact closed
  · exact handles_init s' e'

/-- Whether the session takes leave of its endpoints. -/
def Turn.leaves : Turn → Bool
  | .closed => true
  | .asked r =>
    match Ask.ofRequest r with
    | .ok .reset => true
    | _ => false
  | .initialised | .held | .released | .passed _ => false

namespace Visit

variable {n window h : Nat} {s s' : Bridge.Session} {v v' : Visit} {t : Turn}

theorem parted_left (here : v.gateway.sessions[n]? = some (.bridge s))
    (there : h < v.gateway.engine.endpoints.length) {e' : State}
    (hush : Bridge.Hush (s, v.gateway.engine) (s', e')) (left : s'.handles = [])
    (engine : v'.gateway.engine = e')
    (sessions : v'.gateway.sessions = v.gateway.sessions.set n (.bridge s')) :
    v'.Parted n h where
  there := by
    rw [engine]
    exact Nat.lt_of_lt_of_le there hush.engine.endpoints.length_le
  gone := by
    intro s'' here''
    rw [sessions, List.getElem?_set_self (List.getElem?_eq_some_iff.1 here).1] at here''
    cases here''
    rw [left]
    exact List.not_mem_nil

theorem parted_turn (here : v.gateway.sessions[n]? = some (.bridge s))
    (there : h < v.gateway.engine.endpoints.length) (leaves : t.leaves = true) :
    (v.turn n t).Parted n h := by
  cases t with
  | closed =>
    have acts : v.gateway.turn n .closed = v.gateway.acted n
        (Bridge.close (s, v.gateway.engine)).2.1 (Bridge.close (s, v.gateway.engine)).2.2 := by
      simp only [Gateway.turn, Gateway.asBridge, here]
      rfl
    exact parted_left here there (hush_close _) (handles_close s _)
      (congrArg Gateway.engine acts) (congrArg Gateway.sessions acts)
  | asked r =>
    simp only [Turn.leaves] at leaves
    split at leaves
    · rename_i read
      have handled := Gateway.handle_asked here read rfl
      have left : (Ask.perform .reset (s, v.gateway.engine)).2.1.handles = [] := by
        have reset := handles_reset s v.gateway.engine
        simp only [Ask.perform, Use.run_bind]
        generalize Bridge.reset (s, v.gateway.engine) = run at reset
        rcases run with ⟨_ | _, s', e'⟩
        all_goals exact reset
      have frame := Gateway.frame_concluded n r
      exact parted_left here there (hush_perform (a := .reset) rfl _) left
        ((congrArg Gateway.engine handled).trans (frame _ _).1)
        ((congrArg Gateway.sessions handled).trans (frame _ _).2)
    · cases leaves
  | initialised | held | released | passed => cases leaves

/-! ## Whole courses -/

theorem sound_run (sound : v.Sound n window h s) (ts : List Turn) :
    ∃ s', (v.run n ts).Sound n window h s' := by
  induction ts generalizing v s with
  | nil => exact ⟨s, sound⟩
  | cons t ts ih =>
    obtain ⟨s', sound'⟩ := sound_becomes sound (becomes_turn sound.here t)
    exact ih sound'

theorem hushed_run (sound : v.Sound n window h s) (parted : v.Parted n h) {ts : List Turn}
    (sure : always (timely window h) n v ts = true) : ∀ word ∈ v.spoken n ts, word.1 ≠ h := by
  induction ts generalizing v s with
  | nil => exact List.forall_mem_nil _
  | cons t ts ih =>
    simp only [always, Bool.and_eq_true] at sure
    have step := becomes_turn sound.here t
    obtain ⟨s', sound'⟩ := sound_becomes sound step
    exact List.forall_mem_append.2 ⟨silent_becomes sound parted step sure.1,
      ih sound' (parted_becomes parted step) sure.2⟩

theorem sound_opened (p : Params) (options : BridgeOptions) {g : Gateway} (idle : g.writes = [])
    (h : Nat) : (opened p options g).Sound g.sessions.length options.lockWindow h
      (.new p options g.sessions.length) where
  here := List.getElem?_concat_length
  life := rfl
  idle _ := idle
  dated := (congrArg List.length idle).symm
  endpoint := .inl ⟨List.not_mem_nil, calls_of_idle idle⟩

/-- **A session that has taken leave of its endpoints hears no more of them.**
    Whatever a session of a bridge comes to, in any order: from the turn on in
    which it is reset or closed nothing is told but what endpoints speak, and an
    endpoint that was there before is silent, if the writes to it that waited get
    through within the life of a lock and were locked if they change something. -/
theorem silent_parted (g : Gateway) (idle : g.writes = []) (p : Params) (options : BridgeOptions)
    (before : List Turn) (farewell : Turn) (leaves : farewell.leaves = true) (after : List Turn) :
    let n := g.sessions.length
    let v := (opened p options g).run n before
    let u := v.turn n farewell
    (u.run n after).gateway.told = u.gateway.told ++ (u.spoken n after).map Prod.snd ∧
      ∀ h < v.gateway.engine.endpoints.length,
        always (timely options.lockWindow h) n u after = true →
          ∀ word ∈ u.spoken n after, word.1 ≠ h := by
  intro n v u
  have known (h : Nat) : ∃ s, v.Sound n options.lockWindow h s :=
    sound_run (sound_opened p options idle h) before
  constructor
  · obtain ⟨s, sound⟩ := known 0
    obtain ⟨s', here, -⟩ := stays_becomes (becomes_turn sound.here farewell) sound.here
    exact told_run here after
  · intro h there sure
    obtain ⟨s, sound⟩ := known h
    obtain ⟨s', sound'⟩ := sound_becomes sound (becomes_turn sound.here farewell)
    exact hushed_run sound' (parted_turn sound.here there leaves) sure

/-- The caller makes a door. -/
def addDoor : Request :=
  ⟨"1", "bridge", "addEndpoint", [.str "DoorLockDevice", .str "door"]⟩

/-- The caller writes to the door. -/
def lockDoor (state : Int) : Request :=
  ⟨"2", "bridge", "setEndpointState",
    [.str "door", .str "doorLock", .str "lockState", .int state]⟩

/-- The caller begins anew. -/
def resetDoors : Request :=
  ⟨"3", "bridge", "resetEndpoints", []⟩

/-- A door with a write that waits for some time. -/
def waitingDoor (ms : Nat) : List Turn :=
  [.initialised, .asked addDoor, .held, .asked (lockDoor 1), .passed ms]

/-- A new door, with two writes of which the second was not foreseen. -/
def newDoor : List Turn :=
  [.asked addDoor, .asked (lockDoor 1), .asked (lockDoor 0), .passed 40, .released]

/-- The old door is silent, the new one is not. -/
theorem silent_parted_door :
    let v := (opened Gateway.hall ⟨100, 32⟩ .initial).run 0 (waitingDoor 50)
    let u := v.turn 0 (.asked resetDoors)
    0 < v.gateway.engine.endpoints.length ∧ always (timely 100 0) 0 u newDoor = true ∧
      (∀ word ∈ u.spoken 0 newDoor, word.1 ≠ 0) ∧
      (u.spoken 0 newDoor).map Prod.fst = [1] := by
  intro v u
  have there : 0 < v.gateway.engine.endpoints.length := by decide +kernel
  have sure : always (timely 100 0) 0 u newDoor = true := by decide +kernel
  refine ⟨there, sure, ?_, by decide +kernel⟩
  exact (silent_parted .initial rfl Gateway.hall ⟨100, 32⟩ (waitingDoor 50) (.asked resetDoors)
    (by decide +kernel) newDoor).2 0 there sure

/-- The write to the door gets through after its lock has died: the door tells
    its caller of it, although the session was reset in the meantime. -/
theorem spoken_belated :
    let v := (opened Gateway.hall ⟨100, 32⟩ .initial).run 0 (waitingDoor 100)
    let u := v.turn 0 (.asked resetDoors)
    let entry := Entry.event 0 (.ofBridge ⟨"door", "doorLock", "lockState", .int 1⟩)
    0 < v.gateway.engine.endpoints.length ∧ (Turn.asked resetDoors).leaves = true ∧
      u.spoken 0 [.released] = [(0, entry)] ∧ u.gateway.told = [] ∧
      (u.run 0 [.released]).gateway.told = [entry] :=
  ⟨by decide +kernel, by decide +kernel, rfl, rfl, rfl⟩

end Visit

end HomeGateway
