/-
  A bridge session whose writes may be held up.

  A session takes turns: its caller asks for things, the session is initialised
  and closed, writes are held up and let go, and time passes.  What is told in a
  turn is told by endpoints to which a write comes to its end, and `spoken` says
  by which.  A `Visit` is the gateway with the times at which the waiting writes
  began.

  * `handle_asked`: what comes of a request;
  * `becomes_turn`: what a turn does;
  * `told_run`: nothing is told but what endpoints speak.
-/
import HomeGateway.Proofs.Announcements
import HomeGateway.Proofs.Hush

namespace HomeGateway

open Device Engine Bridge

/-! ## Requests that may wait -/

namespace Gateway

variable {g : Gateway} {n : Nat} {s : Bridge.Session} {r : Request} {a : Ask}

theorem acted_still (here : g.sessions[n]? = some (.bridge s)) (e : State) :
    g.acted n s e = { g with engine := e } := by
  obtain ⟨hlt, heq⟩ := List.getElem?_eq_some_iff.1 here
  unfold acted
  rw [← heq, List.set_getElem_self]

/-- The gateway after a request on session `n` came so far. -/
def concluded (n : Nat) (r : Request) (g : Gateway) : Except Mishap Progress → Gateway
  | .ok (.writing w) => { g with writes := g.writes ++ [⟨w, .request n r⟩] }
  | .ok (.adding generation aggregator d) =>
    { g with additions := g.additions ++ [⟨n, r, generation, aggregator, d⟩] }
  | _ => g

theorem concluded_finished {outcome : Except Mishap Progress} (ended : Finished outcome) (n : Nat)
    (r : Request) (g : Gateway) : g.concluded n r outcome = g := by
  rcases outcome with m | ⟨v | w | _⟩
  · rfl
  · rfl
  · exact ended.elim
  · exact ended.elim

theorem frame_concluded (n : Nat) (r : Request) (g : Gateway) (outcome : Except Mishap Progress) :
    (g.concluded n r outcome).engine = g.engine ∧
      (g.concluded n r outcome).sessions = g.sessions := by
  rcases outcome with m | ⟨v | w | _⟩
  all_goals exact ⟨rfl, rfl⟩

theorem handle_asked (here : g.sessions[n]? = some (.bridge s)) (read : Ask.ofRequest r = .ok a)
    {outcome : Except Mishap Progress} {s' : Bridge.Session} {e' : State}
    (run : a.perform (s, g.engine) = (outcome, s', e')) :
    (g.handle n r).2 = (g.acted n s' e').concluded n r outcome := by
  unfold Ask.ofRequest at read
  split at read
  · rename_i hs
    rcases resolve_read r.args r.function with ⟨-, misread⟩ | ⟨handler, found, does⟩
    · rw [misread] at read
      cases read
    · rw [read] at does
      have ran : g.inBridge n s (handler r.args) = (outcome, g.acted n s' e') := by
        rw [does]
        exact inBridge_eq run
      simp only [handle, here, handleBridge, hs, found, ran]
      rcases outcome with m | ⟨v | w | _⟩
      all_goals rfl
  · cases read

end Gateway

/-! ## Turns -/

/-- What a session comes to in turn. -/
inductive Turn where
  /-- its caller asks for something -/
  | asked (r : Request)
  /-- it is initialised -/
  | initialised
  /-- it is closed -/
  | closed
  /-- writes are held up from now on -/
  | held
  /-- writes are let go -/
  | released
  /-- time passes -/
  | passed (ms : Nat)

theorem Turn.asked_ne (r : Request) : Turn.asked r ≠ .released :=
  nofun

/-- What an endpoint, by its number, lets others know. -/
abbrev Word := Nat × Entry

/-- What the endpoint of a write tells as the write comes to its end. -/
def Engine.State.spoken (w : Write) (e : State) : List Word :=
  (e.words w).map (w.endpoint, ·)

namespace Gateway

/-- The gateway after a turn of session `n`. -/
def turn (n : Nat) (t : Turn) (g : Gateway) : Gateway :=
  match t with
  | .asked r => (g.handle n r).2
  | .initialised => g.asBridge n Bridge.init
  | .closed => g.asBridge n Bridge.close
  | .held => g.holdWrites
  | .released => g.releaseWrites
  | .passed ms => g.advance ms

/-- Writes are no longer held up, and none waits. -/
def freed (g : Gateway) : Gateway :=
  { g with engine := { g.engine with writesHeld := false }, writes := [] }

/-- What is spoken while waiting writes come to their ends. -/
def spokenBy : Gateway → List WaitingWrite → List Word
  | _, [] => []
  | g, w :: ws => g.engine.spoken w.write ++ spokenBy (g.finishWaitingWrite w) ws

/-- What is spoken in a turn of session `n`: an endpoint speaks when a write to
    it comes to its end. -/
def spoken (n : Nat) (t : Turn) (g : Gateway) : List Word :=
  match t with
  | .asked r =>
    match Ask.ofRequest r with
    | .ok (.write id cluster attr value) =>
      if g.engine.writesHeld then []
      else
        match g.handleOf? n id with
        | some handle =>
          let (w, e) := g.engine.started handle cluster attr value
          e.spoken w
        | none => []
    | _ => []
  | .released => g.freed.spokenBy g.writes
  | .initialised | .closed | .held | .passed _ => []

end Gateway

/-- A gateway, and when its waiting writes began. -/
structure Visit where
  /-- the gateway -/
  gateway : Gateway
  /-- the times of the writes that wait, in their order -/
  begun : List Nat

namespace Visit

/-- What comes of a turn of session `n`.  A write that waits from now on began now. -/
def turn (n : Nat) (t : Turn) (v : Visit) : Visit :=
  let g := v.gateway.turn n t
  match t with
  | .released => ⟨g, []⟩
  | _ => ⟨g, v.begun ++
      List.replicate (g.writes.length - v.gateway.writes.length) v.gateway.engine.now⟩

/-- What comes of several turns of session `n`. -/
def run (n : Nat) : Visit → List Turn → Visit
  | v, [] => v
  | v, t :: ts => run n (v.turn n t) ts

/-- What is spoken in several turns of session `n`. -/
def spoken (n : Nat) : Visit → List Turn → List Word
  | _, [] => []
  | v, t :: ts => v.gateway.spoken n t ++ spoken n (v.turn n t) ts

/-- What a turn of session `n` does, and what is spoken in it. -/
inductive Becomes (n : Nat) (v : Visit) : Turn → Visit → List Word → Prop where
  /-- something else than a write -/
  | hushed {t : Turn} {s s' : Bridge.Session} {e' : State} (additions : List WaitingAddition)
      (here : v.gateway.sessions[n]? = some (.bridge s))
      (hush : Bridge.Hush (s, v.gateway.engine) (s', e')) :
      Becomes n v t
        { v with gateway := { v.gateway.acted n s' e' with additions := additions } } []
  /-- a write begins and waits -/
  | began {r : Request} {s : Bridge.Session} {handle : Nat} {cluster attr : String} {value : Json}
      {w : Write} {e : State} (writer : Writer) (here : v.gateway.sessions[n]? = some (.bridge s))
      (member : handle ∈ s.handles) (held : v.gateway.engine.writesHeld = true)
      (start : v.gateway.engine.started handle cluster attr value = (w, e)) :
      Becomes n v (.asked r)
        { gateway := { v.gateway with engine := e, writes := v.gateway.writes ++ [⟨w, writer⟩] }
          begun := v.begun ++ [v.gateway.engine.now] } []
  /-- a write begins and gets through -/
  | wrote {r : Request} {s : Bridge.Session} {handle : Nat} {cluster attr : String} {value : Json}
      {w : Write} {e : State} (here : v.gateway.sessions[n]? = some (.bridge s))
      (member : handle ∈ s.handles) (free : v.gateway.engine.writesHeld = false)
      (start : v.gateway.engine.started handle cluster attr value = (w, e)) :
      Becomes n v (.asked r) { v with gateway := { v.gateway with engine := e.finished w } }
        (e.spoken w)
  /-- writes are held up -/
  | held : Becomes n v .held { v with gateway := v.gateway.holdWrites } []
  /-- the waiting writes come to their ends -/
  | released : Becomes n v .released ⟨v.gateway.releaseWrites, []⟩
      (v.gateway.freed.spokenBy v.gateway.writes)
  /-- time passes -/
  | passed (ms : Nat) :
      Becomes n v (.passed ms) { v with gateway := v.gateway.advance ms } []

variable {n : Nat} {v : Visit} {s : Bridge.Session}

theorem turn_waiting {t : Turn} (other : t ≠ .released) {g : Gateway} {more : List WaitingWrite}
    (comes : v.gateway.turn n t = g) (waiting : g.writes = v.gateway.writes ++ more) :
    v.turn n t = ⟨g, v.begun ++ List.replicate more.length v.gateway.engine.now⟩ := by
  have added : g.writes.length - v.gateway.writes.length = more.length := by
    rw [waiting, List.length_append, Nat.add_sub_cancel_left]
  cases t with
  | released => exact absurd rfl other
  | asked | initialised | closed | held | passed =>
    show (⟨v.gateway.turn n _, v.begun ++
      List.replicate ((v.gateway.turn n _).writes.length - _) _⟩ : Visit) = _
    rw [comes, added]

theorem turn_still {t : Turn} (other : t ≠ .released) {g : Gateway}
    (comes : v.gateway.turn n t = g) (waiting : g.writes = v.gateway.writes) :
    v.turn n t = { v with gateway := g } := by
  rw [turn_waiting other comes (waiting.trans (List.append_nil _).symm), List.length_nil,
    List.replicate_zero, List.append_nil]

theorem becomes_idle (here : v.gateway.sessions[n]? = some (.bridge s)) (t : Turn) :
    Becomes n v t v [] := by
  have still := Becomes.hushed (t := t) v.gateway.additions here
    (refl_of Bridge.Hush (s, v.gateway.engine))
  rwa [Gateway.acted_self here] at still

theorem becomes_asBridge (here : v.gateway.sessions[n]? = some (.bridge s)) {a : Doing Unit}
    (hush : a.Within Bridge.Hush) {t : Turn} (other : t ≠ .released)
    (comes : v.gateway.turn n t = v.gateway.asBridge n a) : Becomes n v t (v.turn n t) [] := by
  have acts : v.gateway.asBridge n a =
      v.gateway.acted n (a (s, v.gateway.engine)).2.1 (a (s, v.gateway.engine)).2.2 := by
    unfold Gateway.asBridge
    rw [here]
    rfl
  rw [turn_still other (comes.trans acts) rfl]
  exact .hushed v.gateway.additions here (hush (s, v.gateway.engine))

theorem becomes_unheard (here : v.gateway.sessions[n]? = some (.bridge s)) {r : Request} {a : Ask}
    (read : Ask.ofRequest r = .ok a) {outcome : Except Mishap Progress} {s' : Bridge.Session}
    {e' : State} (run : a.perform (s, v.gateway.engine) = (outcome, s', e'))
    (hush : Bridge.Hush (s, v.gateway.engine) (s', e')) (quick : ∀ w, outcome ≠ .ok (.writing w)) :
    Becomes n v (.asked r) (v.turn n (.asked r)) [] := by
  have handled := Gateway.handle_asked here read run
  have concluded : ∃ additions, (v.gateway.acted n s' e').concluded n r outcome =
      { v.gateway.acted n s' e' with additions := additions } := by
    rcases outcome with m | ⟨x | w | _⟩
    · exact ⟨_, rfl⟩
    · exact ⟨_, rfl⟩
    · exact absurd rfl (quick w)
    · exact ⟨_, rfl⟩
  obtain ⟨additions, eq⟩ := concluded
  rw [eq] at handled
  rw [turn_still (t := .asked r) (Turn.asked_ne r) handled rfl]
  exact .hushed additions here hush

theorem becomes_written (here : v.gateway.sessions[n]? = some (.bridge s)) {r : Request}
    {id cluster attr : String} {value : Json}
    (read : Ask.ofRequest r = .ok (.write id cluster attr value)) :
    Becomes n v (.asked r) (v.turn n (.asked r)) (v.gateway.spoken n (.asked r)) := by
  have place : v.gateway.handleOf? n id = s.handle? id := by
    simp only [Gateway.handleOf?, here, Session.handle?]
  cases found : s.handle? id with
  | none =>
    obtain ⟨outcome, run, ended⟩ := run_setState_nowhere found cluster attr value v.gateway.engine
    have silent : v.gateway.spoken n (.asked r) = [] := by
      simp only [Gateway.spoken, read, place, found, ite_self]
    rw [silent]
    refine becomes_unheard here read run (refl_of Bridge.Hush _) fun w writes => ?_
    rw [writes] at ended
    exact ended
  | some handle =>
    have run := run_setState found cluster attr value v.gateway.engine
    cases start : v.gateway.engine.started handle cluster attr value with
    | mk w e =>
    obtain ⟨-, aside, -⟩ := State.aside_started start
    simp only [start, aside.held] at run
    cases held : v.gateway.engine.writesHeld with
    | true =>
      rw [held, if_pos rfl] at run
      have handled := Gateway.handle_asked here read run
      have silent : v.gateway.spoken n (.asked r) = [] := by
        simp only [Gateway.spoken, read, held, if_true]
      rw [Gateway.acted_still here] at handled
      rw [silent, turn_waiting (t := .asked r) (Turn.asked_ne r) handled rfl]
      exact .began (.request n r) here (mem_handles found) held start
    | false =>
      rw [held, if_neg Bool.false_ne_true] at run
      obtain ⟨outcome, run, ended⟩ := run
      have handled := Gateway.handle_asked here read run
      have told : v.gateway.spoken n (.asked r) = e.spoken w := by
        simp only [Gateway.spoken, read, held, Bool.false_eq_true, if_false, place, found, start]
      rw [Gateway.acted_still here, Gateway.concluded_finished ended] at handled
      rw [told, turn_still (t := .asked r) (Turn.asked_ne r) handled rfl]
      exact .wrote here (mem_handles found) held start

/-- What a turn of a session of a bridge does. -/
theorem becomes_turn (here : v.gateway.sessions[n]? = some (.bridge s)) (t : Turn) :
    Becomes n v t (v.turn n t) (v.gateway.spoken n t) := by
  cases t with
  | asked r =>
    cases read : Ask.ofRequest r with
    | error f =>
      have handled := congrArg Prod.snd (Gateway.handle_unread here read)
      have silent : v.gateway.spoken n (.asked r) = [] := by simp only [Gateway.spoken, read]
      rw [silent, turn_still (t := .asked r) (Turn.asked_ne r) handled rfl]
      exact becomes_idle here _
    | ok a =>
      cases writes : a.writes with
      | true =>
        cases a with
        | write id cluster attr value => exact becomes_written here read
        | make | reset | list | start | pairing | openWindow | closeWindow => cases writes
      | false =>
        have silent : v.gateway.spoken n (.asked r) = [] := by
          simp only [Gateway.spoken, read]
          cases a with
          | write => cases writes
          | make | reset | list | start | pairing | openWindow | closeWindow => rfl
        rw [silent]
        exact becomes_unheard here read rfl (hush_perform writes (s, v.gateway.engine))
          (waitless_perform writes (s, v.gateway.engine))
  | initialised => exact becomes_asBridge here hush_init nofun rfl
  | closed => exact becomes_asBridge here hush_close nofun rfl
  | held => exact turn_still (t := .held) nofun rfl rfl ▸ .held
  | released => exact .released
  | passed ms => exact turn_still (t := .passed ms) nofun rfl rfl ▸ .passed ms

end Visit

/-! ## What is told -/

/-- Whether an entry reports how work that had to wait has ended. -/
def Engine.Entry.reports : Entry → Bool
  | .answered .. | .written .. => true
  | .event .. | .notice _ | .news _ => false

theorem Engine.State.reports_words {w : Write} {e : State} {entry : Entry}
    (spoken : entry ∈ e.words w) : entry.reports = false := by
  unfold words at spoken
  cases he : e.endpoints[w.endpoint]? with
  | none =>
    rw [he] at spoken
    cases spoken
  | some b =>
    rw [he] at spoken
    cases b with
    | recorded x =>
      simp only [Bridged.finishWrite] at spoken
      split at spoken
      · obtain ⟨notice, -, rfl⟩ := List.mem_map.1 spoken
        rfl
      · cases spoken
    | followed x =>
      obtain ⟨event, -, rfl⟩ := List.mem_map.1 spoken
      rfl

namespace Gateway

/-- What was told, apart from reports. -/
def told (g : Gateway) : Journal :=
  g.engine.journal.filter (!·.reports)

theorem told_finished {g g' : Gateway} {e : State} {w : Write} {reports : Journal}
    (report : ∀ entry ∈ reports, entry.reports = true)
    (comes : g'.engine.journal = (e.finished w).journal ++ reports)
    (before : e.journal = g.engine.journal) :
    g'.told = g.told ++ (e.spoken w).map Prod.snd := by
  have words : (e.words w).filter (!·.reports) = e.words w :=
    List.filter_eq_self.2 fun entry spoken => by rw [State.reports_words spoken]; rfl
  have none : reports.filter (!·.reports) = [] :=
    List.filter_eq_nil_iff.2 fun entry h => by rw [report entry h]; exact Bool.false_ne_true
  have said : (e.spoken w).map Prod.snd = e.words w := by
    unfold State.spoken
    rw [List.map_map]
    exact List.map_id' _
  unfold told
  rw [said, comes, State.journal_finished, before, List.filter_append, List.filter_append, words,
    none, List.append_nil]

/-- A waiting write ends with a report. -/
theorem finishWaitingWrite_eq (g : Gateway) (w : WaitingWrite) : ∃ entry : Entry,
    entry.reports = true ∧
      g.finishWaitingWrite w =
        ({ g with engine := g.engine.finished w.write } : Gateway).note entry := by
  obtain ⟨r, run⟩ := State.run_finished w.write g.engine
  have acts :
      g.act (finishWrite w.write) = (r, { g with engine := g.engine.finished w.write }) := by
    unfold act
    rw [run]
  unfold finishWaitingWrite
  rw [acts]
  cases w.writer with
  | request session request => exact ⟨_, rfl, rfl⟩
  | other who =>
    refine ⟨_, ?_, rfl⟩
    rcases r with ⟨f | reason⟩ | _
    · cases f with
      | engine f => rfl
      | _ => rfl
    · rfl
    · rfl

theorem told_spokenBy (ws : List WaitingWrite) (g : Gateway) :
    (ws.foldl finishWaitingWrite g).told = g.told ++ (g.spokenBy ws).map Prod.snd := by
  induction ws generalizing g with
  | nil => exact (List.append_nil _).symm
  | cons w ws ih =>
    obtain ⟨entry, report, eq⟩ := finishWaitingWrite_eq g w
    have one :
        (g.finishWaitingWrite w).told = g.told ++ (g.engine.spoken w.write).map Prod.snd := by
      have reports : ∀ entry' ∈ [entry], entry'.reports = true := fun entry' h => by
        rw [List.mem_singleton.1 h]
        exact report
      exact told_finished reports (congrArg (fun g => g.engine.journal) eq) rfl
    rw [List.foldl_cons, ih, one, spokenBy, List.map_append, List.append_assoc]

/-- What waiting writes that come to their ends leave alone. -/
theorem frame_foldl (ws : List WaitingWrite) (g : Gateway) :
    let g' := ws.foldl finishWaitingWrite g
    g'.sessions = g.sessions ∧ g'.writes = g.writes ∧ g'.engine.now = g.engine.now ∧
      g'.engine.endpoints.length = g.engine.endpoints.length ∧
      g'.engine.servers = g.engine.servers := by
  induction ws generalizing g with
  | nil => exact ⟨rfl, rfl, rfl, rfl, rfl⟩
  | cons w ws ih =>
    obtain ⟨entry, -, eq⟩ := finishWaitingWrite_eq g w
    have aside := State.aside_finished w.write g.engine
    obtain ⟨sessions, writes, now, length, servers⟩ := ih (g.finishWaitingWrite w)
    rw [eq] at sessions writes now length servers
    rw [List.foldl_cons, eq]
    exact ⟨sessions, writes, now.trans aside.now, length.trans aside.length,
      servers.trans aside.servers⟩

end Gateway

namespace Visit

variable {n : Nat} {v v' : Visit} {s : Bridge.Session} {t : Turn} {words : List Word}

theorem told_becomes (step : v.Becomes n t v' words) :
    v'.gateway.told = v.gateway.told ++ words.map Prod.snd := by
  cases step with
  | hushed _ _ hush =>
    unfold Gateway.told
    rw [List.map_nil, List.append_nil]
    exact congrArg (List.filter _) hush.engine.journal
  | began _ _ _ _ start =>
    unfold Gateway.told
    rw [List.map_nil, List.append_nil]
    exact congrArg (List.filter _) (State.aside_started start).2.2
  | wrote _ _ _ start =>
    exact Gateway.told_finished (List.forall_mem_nil _) (List.append_nil _).symm
      (State.aside_started start).2.2
  | held | passed => exact (List.append_nil _).symm
  | released => exact Gateway.told_spokenBy v.gateway.writes v.gateway.freed

/-- The session stays that of a bridge, with the same options. -/
theorem stays_becomes (step : v.Becomes n t v' words)
    (here : v.gateway.sessions[n]? = some (.bridge s)) :
    ∃ s', v'.gateway.sessions[n]? = some (.bridge s') ∧ s'.options = s.options := by
  cases step with
  | hushed _ here' hush =>
    cases here.symm.trans here'
    exact ⟨_, List.getElem?_set_self (List.getElem?_eq_some_iff.1 here).1, hush.options⟩
  | began | wrote | held | passed => exact ⟨s, here, rfl⟩
  | released =>
    refine ⟨s, ?_, rfl⟩
    rw [← here]
    exact congrArg (·[n]?) (Gateway.frame_foldl v.gateway.writes v.gateway.freed).1

/-- Nothing is told but what endpoints speak. -/
theorem told_run (here : v.gateway.sessions[n]? = some (.bridge s)) (ts : List Turn) :
    (v.run n ts).gateway.told = v.gateway.told ++ (v.spoken n ts).map Prod.snd := by
  induction ts generalizing v s with
  | nil => exact (List.append_nil _).symm
  | cons t ts ih =>
    have step := becomes_turn here t
    obtain ⟨s', here', -⟩ := stays_becomes step here
    rw [run, ih here', told_becomes step, spoken, List.map_append, List.append_assoc]

/-- A gateway with a new session of a bridge. -/
def opened (p : Params) (options : BridgeOptions) (g : Gateway) : Visit :=
  ⟨(g.openSession (.bridge p) options).2, []⟩

end Visit

end HomeGateway
