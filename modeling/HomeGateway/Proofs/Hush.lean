/-
  What a bridge session does to the endpoints.

  A caller's write has two halves, and it is the second in which the endpoint
  tells something.  Everything else that a session does is a hush: nothing is
  told, the endpoints that there were stay as they are, and the session has only
  endpoints and a server node that it had or that were made for it.

  * `State.started`, `State.finished`, `State.words`: the two halves of a write;
  * `Hush`, `hush_perform`: everything but a write;
  * `run_setState`: a caller's write, held up or not.
-/
import HomeGateway.Proofs.Asking
import HomeGateway.Proofs.BridgeMoves
import Mathlib.Order.Defs.Unbundled

namespace HomeGateway

open Device Engine Bridge

/-! ## The two halves of a write -/

namespace Engine.State

/-- A write of the caller that is started, and the engine afterwards. -/
def started (handle : Nat) (cluster attr : String) (value : Json) (e : State) : Write × State :=
  match e.endpoints[handle]? with
  | none => (⟨handle, cluster, attr, value, false⟩, e)
  | some b =>
    (⟨handle, cluster, attr, value, (b.startWrite e.now true cluster attr value).2⟩,
      e.put handle (b.startWrite e.now true cluster attr value).1 [])

/-- The engine after a write came to its end. -/
def finished (w : Write) (e : State) : State :=
  match e.endpoints[w.endpoint]? with
  | none => e
  | some b =>
    let r := b.finishWrite e.now w.cluster w.attr w.value w.locked
    e.put w.endpoint r.2.1 r.2.2

/-- What the endpoint tells when a write to it comes to its end. -/
def words (w : Write) (e : State) : Journal :=
  match e.endpoints[w.endpoint]? with
  | none => []
  | some b => (b.finishWrite e.now w.cluster w.attr w.value w.locked).2.2

variable {e : State} {handle : Nat} {cluster attr : String} {value : Json} {w : Write}

theorem run_started (handle : Nat) (cluster attr : String) (value : Json) (e : State) :
    startWrite true handle cluster attr value e =
      (.ok (e.started handle cluster attr value).1, (e.started handle cluster attr value).2) := by
  unfold started
  cases he : e.endpoints[handle]? with
  | none => simp [startWrite, he]
  | some b => exact run_startWrite he true cluster attr value

theorem run_finished (w : Write) (e : State) : ∃ r, finishWrite w e = (r, e.finished w) := by
  unfold finished
  cases he : e.endpoints[w.endpoint]? with
  | none => exact ⟨_, by simp [finishWrite, he]; rfl⟩
  | some b => exact ⟨_, by simp [finishWrite, he, run_ofExcept, put]; rfl⟩

/-- Nothing changed but one endpoint and what was told. -/
structure Aside (handle : Nat) (e e' : State) : Prop where
  /-- the time -/
  now : e'.now = e.now
  /-- whether writes are held up -/
  held : e'.writesHeld = e.writesHeld
  /-- the number of endpoints -/
  length : e'.endpoints.length = e.endpoints.length
  /-- the other endpoints -/
  others : ∀ h, h ≠ handle → e'.endpoints[h]? = e.endpoints[h]?
  /-- the server nodes -/
  servers : e'.servers = e.servers

theorem Aside.refl (handle : Nat) (e : State) : Aside handle e e :=
  ⟨rfl, rfl, rfl, fun _ _ => rfl, rfl⟩

theorem Aside.put (handle : Nat) (b : Bridged) (entries : Journal) (e : State) :
    Aside handle e (e.put handle b entries) :=
  ⟨rfl, rfl, List.length_set, fun _ other => List.getElem?_set_ne (Ne.symm other), rfl⟩

theorem aside_started {e' : State} (start : e.started handle cluster attr value = (w, e')) :
    w.endpoint = handle ∧ Aside handle e e' ∧ e'.journal = e.journal := by
  unfold started at start
  split at start
  · cases start
    exact ⟨rfl, .refl handle e, rfl⟩
  · cases start
    exact ⟨rfl, .put handle _ _ e, List.append_nil _⟩

theorem aside_finished (w : Write) (e : State) : Aside w.endpoint e (e.finished w) := by
  unfold finished
  split
  · exact .refl w.endpoint e
  · exact .put w.endpoint _ _ e

theorem journal_finished (w : Write) (e : State) :
    (e.finished w).journal = e.journal ++ e.words w := by
  unfold finished words
  split
  · exact (List.append_nil _).symm
  · rfl

/-! ## What everything but a write does not leave -/

/-- How the server nodes present themselves. -/
def configs (e : State) : List ServerNodeConfig :=
  e.servers.map (·.config)

/-- Nothing was told, the endpoints that there were are as they were, and so are
    the names of the server nodes. -/
structure Hush (e e' : State) : Prop where
  /-- the time -/
  now : e'.now = e.now
  /-- whether writes are held up -/
  held : e'.writesHeld = e.writesHeld
  /-- what was told -/
  journal : e'.journal = e.journal
  /-- there may be more endpoints -/
  endpoints : e.endpoints <+: e'.endpoints
  /-- there may be more server nodes -/
  configs : e.configs <+: e'.configs

theorem Hush.refl (e : State) : e.Hush e :=
  ⟨rfl, rfl, rfl, List.prefix_refl _, List.prefix_refl _⟩

instance : IsPreorder State Hush where
  refl := .refl
  trans _ _ _ h h' := ⟨h'.now.trans h.now, h'.held.trans h.held, h'.journal.trans h.journal,
    h.endpoints.trans h'.endpoints, h.configs.trans h'.configs⟩

/-- Server nodes that are switched keep their names. -/
theorem hush_changeServer (n : Nat) {f : Server → Server} (h : ∀ sv, (f sv).config = sv.config)
    (e : State) : e.Hush (e.changeServer n f) := by
  refine ⟨rfl, rfl, rfl, List.prefix_refl _, List.prefix_iff_eq_take.2 ?_⟩
  have same : (e.changeServer n f).configs = e.configs := by
    unfold configs changeServer
    ext k : 1
    rw [List.getElem?_map, List.getElem?_map, List.getElem?_modify]
    split
    · cases e.servers[k]? with
      | none => rfl
      | some sv => exact congrArg some (h sv)
    · rw [Option.map_eq_map, Option.map_id']
  rw [same, List.take_length]

end Engine.State

namespace Engine

theorem trip_cases (spot : Spot) (e : State) :
    trip spot e = (.ok (), e) ∨ ∃ m e', trip spot e = (.error m, e') ∧ e.Hush e' := by
  simp only [trip, Act.run_bind, Act.run_get]
  cases e.faults.find? (·.1 = spot) with
  | none => exact .inl rfl
  | some armed => exact .inr ⟨_, _, rfl, ⟨rfl, rfl, rfl, List.prefix_refl _, List.prefix_refl _⟩⟩

theorem hush_trip (spot : Spot) : (trip spot).Within State.Hush := by
  intro e
  rcases trip_cases spot e with run | ⟨m, e', run, hush⟩
  · rw [run]
    exact .refl e
  · rw [run]
    exact hush

theorem hush_modify {f : State → State} (h : ∀ e, State.Hush e (f e)) :
    (modify f : Act Unit).Within State.Hush := h

theorem hush_theServer (n : Nat) : (theServer n).Within State.Hush := by
  refine .get_bind fun e => ?_
  cases e.servers[n]? with
  | none => exact .refl e
  | some sv => exact .refl e

theorem hush_openServerStore (key : StoreKey) : (openServerStore key).Within State.Hush := by
  refine .get_bind fun e => ?_
  cases e.serverStore? key with
  | none => exact ⟨rfl, rfl, rfl, List.prefix_refl _, List.prefix_refl _⟩
  | some i => exact .refl e

/-- A server node that is made presents itself as it should. -/
theorem yields_createServer (config : ServerNodeConfig) :
    (createServer config).Yields State.Hush fun k e => e.configs[k]? = some config := by
  have listed (store : Nat) : (do
      let s ← get
      set { s with servers := s.servers ++ [(⟨config, store, false, false, false, none⟩ : Server)] }
      return s.servers.length : Act Nat).Yields State.Hush
        fun k e => e.configs[k]? = some config := by
    intro e
    refine ⟨⟨rfl, rfl, rfl, List.prefix_refl _, (List.prefix_append _ _).map _⟩, ?_⟩
    rintro _ ⟨⟩
    show ((e.servers ++ [_]).map _)[_]? = _
    rw [List.getElem?_map, List.getElem?_concat_length]
    rfl
  have stored := Act.Yields.bind (hush_openServerStore config.key) listed
  have cleared := hush_modify (f := (·.clearServerStore config.key)) fun _ =>
    ⟨rfl, rfl, rfl, List.prefix_refl _, List.prefix_refl _⟩
  refine .bind (hush_trip _) fun _ => ?_
  by_cases clear : config.clearStorage = true
  · rw [if_pos clear]
    exact .bind cleared fun _ => stored
  · rw [if_neg clear]
    exact stored

theorem hush_addAggregator (n : Nat) : (Engine.addAggregator n).Within State.Hush := by
  refine .bind (hush_trip _) fun _ => .bind (hush_theServer n) fun _ =>
    .ite (.fail_bind _ _) (.ite (.fail_bind _ _) fun e => ?_)
  have grown : e.Hush { e with aggregators := e.aggregators ++ [[]] } :=
    ⟨rfl, rfl, rfl, List.prefix_refl _, List.prefix_refl _⟩
  exact trans_of State.Hush grown (State.hush_changeServer n
    (f := fun sv => { sv with aggregator := some e.aggregators.length }) (fun _ => rfl) _)

theorem hush_startServer (n : Nat) : (startServer n).Within State.Hush :=
  .bind (hush_trip _) fun _ => .bind (hush_theServer n) fun _ =>
    .ite (.fail_bind _ _) (.bind (.get_bind .refl) fun _ =>
      hush_modify (State.hush_changeServer n fun _ => rfl))

theorem hush_closeServer (n : Nat) : (closeServer n).Within State.Hush := by
  refine .bind (hush_trip _) fun _ => .bind (hush_theServer n) fun sv => ?_
  refine .bind (hush_modify (State.hush_changeServer n fun _ => rfl)) fun _ => ?_
  cases sv.aggregator with
  | none => exact .pure ()
  | some a =>
    exact hush_modify fun _ => ⟨rfl, rfl, rfl, List.prefix_refl _, List.prefix_refl _⟩

theorem hush_openWindow (n : Nat) : (openWindow n).Within State.Hush :=
  .bind (hush_theServer n) fun _ =>
    .ite (.fail_bind _ _) (hush_modify (State.hush_changeServer n fun _ => rfl))

/-- An endpoint that was added is the last one. -/
theorem run_addEndpoint_cases (aggregator : Nat) (b : Bridged) (e : State) :
    (∃ m e', Engine.addEndpoint aggregator b e = (.error m, e') ∧ e.Hush e') ∨
    ∃ e', Engine.addEndpoint aggregator b e = (.ok e.endpoints.length, e') ∧ e.Hush e' ∧
      e'.endpoints = e.endpoints ++ [b] := by
  simp only [Engine.addEndpoint, Act.run_bind]
  rcases trip_cases .addEndpoint e with run | ⟨m, e', run, hush⟩
  · rw [run]
    simp only [Act.run_get]
    split
    · exact .inl ⟨_, _, rfl, .refl e⟩
    · exact .inr ⟨_, rfl, ⟨rfl, rfl, rfl, List.prefix_append _ _, List.prefix_refl _⟩, rfl⟩
  · rw [run]
    exact .inl ⟨m, e', rfl, hush⟩

end Engine

namespace Bridge

/-- The numbers of the endpoints of a session. -/
def Session.handles (s : Session) : List Nat :=
  match s.live with
  | some l => l.members.map (·.handle)
  | none => []

/-- The number of the server node of a session. -/
def Session.server? (s : Session) : Option Nat :=
  s.live.map (·.server)

/-- An endpoint is one that was made for a follower in the meantime. -/
def Newcomer (window handle : Nat) (e e' : State) : Prop :=
  e.endpoints.length ≤ handle ∧
    ∃ sink d, e'.endpoints[handle]? = some (.followed (.make window sink d))

/-- Nothing was told, and the session has only endpoints and a server node that
    it had or that were made for it. -/
structure Hush (p q : Session × State) : Prop where
  /-- what its caller said of it -/
  params : q.1.params = p.1.params
  /-- how its virtual devices behave -/
  options : q.1.options = p.1.options
  /-- the engine -/
  engine : p.2.Hush q.2
  /-- its endpoints -/
  handles : ∀ h ∈ q.1.handles, h ∈ p.1.handles ∨ Newcomer p.1.options.lockWindow h p.2 q.2
  /-- its server node -/
  server : ∀ k, q.1.server? = some k → p.1.server? = some k ∨
    ∃ clear, q.2.configs[k]? = some (p.1.params.serverConfig clear)

/-- A session has nothing new. -/
structure Session.Sheds (s s' : Session) : Prop where
  /-- what its caller said of it -/
  params : s'.params = s.params
  /-- how its virtual devices behave -/
  options : s'.options = s.options
  /-- its endpoints -/
  handles : s'.handles ⊆ s.handles
  /-- its server node -/
  server : ∀ k, s'.server? = some k → s.server? = some k

theorem Session.Sheds.refl (s : Session) : s.Sheds s :=
  ⟨rfl, rfl, List.Subset.refl _, fun _ h => h⟩

/-- A session that gives up what it has. -/
theorem Session.Sheds.all {s s' : Session} (params : s'.params = s.params)
    (options : s'.options = s.options) (live : s'.live = none) : s.Sheds s' := by
  refine ⟨params, options, ?_, ?_⟩
  · unfold Session.handles
    rw [live]
    exact List.nil_subset _
  · unfold Session.server?
    rw [live]
    exact nofun

theorem getElem?_of_extends {α : Type} {xs ys : List α} (h : xs <+: ys) {k : Nat} {x : α}
    (hx : xs[k]? = some x) : ys[k]? = some x := by
  obtain ⟨rest, rfl⟩ := h
  rw [List.getElem?_append_left (List.getElem?_eq_some_iff.1 hx).1, hx]

theorem Newcomer.of_hush {window h : Nat} {e e' e'' : State} (new : Newcomer window h e e')
    (hush : e'.Hush e'') : Newcomer window h e e'' := by
  obtain ⟨above, sink, d, made⟩ := new
  exact ⟨above, sink, d, getElem?_of_extends hush.endpoints made⟩

theorem hush_sheds {s s' : Session} {e e' : State} (sheds : s.Sheds s') (engine : e.Hush e') :
    Hush (s, e) (s', e') :=
  ⟨sheds.params, sheds.options, engine, fun _ h => .inl (sheds.handles h),
    fun k h => .inl (sheds.server k h)⟩

instance : IsPreorder (Session × State) Hush where
  refl p := hush_sheds (.refl p.1) (.refl p.2)
  trans p q r hush hush' := by
    refine ⟨hush'.params.trans hush.params, hush'.options.trans hush.options,
      trans_of State.Hush hush.engine hush'.engine, ?_, ?_⟩
    · intro h member
      rcases hush'.handles h member with before | ⟨above, made⟩
      · exact (hush.handles h before).imp_right fun new => new.of_hush hush'.engine
      · exact .inr ⟨Nat.le_trans hush.engine.endpoints.length_le above, hush.options ▸ made⟩
    · intro k own
      rcases hush'.server k own with before | named
      · exact (hush.server k before).imp_right fun ⟨clear, named⟩ =>
          ⟨clear, getElem?_of_extends hush'.engine.configs named⟩
      · exact .inr (hush.params ▸ named)

theorem hush_engine {α : Type} {a : Act α} (h : a.Within State.Hush) :
    (Use.engine a : Doing α).Within Hush :=
  fun p => hush_sheds (.refl p.1) (h p.2)

theorem hush_change {f : Session → Session} (h : ∀ s, Session.Sheds s (f s)) :
    (Use.change f).Within Hush :=
  fun p => hush_sheds (h p.1) (.refl p.2)

theorem hush_theLive : theLive.Within Hush := by
  refine .bind .own fun s => ?_
  cases s.live with
  | none => exact .fail _
  | some l => exact .pure l

theorem hush_withdraw : withdraw.Within Hush :=
  .bind .own fun _ => .bind (hush_change fun _ => .all rfl rfl rfl) fun _ => .pure _

theorem hush_dismiss (old : Option Live) : (dismiss old).Within Hush := by
  cases old with
  | none => exact .pure ()
  | some l => exact hush_engine (hush_closeServer l.server)

theorem hush_close : Bridge.close.Within Hush := by
  rw [close_eq]
  exact .bind hush_withdraw hush_dismiss

/-- A session gets a server node that presents itself as its caller said. -/
theorem hush_entered (s : Session) {e : State} {k : Nat} (aggregator : Nat) {clear : Bool}
    (named : e.configs[k]? = some (s.params.serverConfig clear)) :
    Hush (s, e) (s.entered k aggregator, e) := by
  refine ⟨rfl, rfl, .refl e, fun _ h => absurd h List.not_mem_nil, ?_⟩
  rintro _ ⟨⟩
  exact .inr ⟨clear, named⟩

theorem hush_found : (do
    let server ← Use.engine (createServer (← nextConfig))
    enter server (← Use.engine (Engine.addAggregator server)) : Doing Unit).Within Hush := by
  rintro ⟨s, e⟩
  have asked : nextConfig (s, e) =
      (.ok (s.params.serverConfig s.clearNext), { s with clearNext := false }, e) := rfl
  have sheds : s.Sheds { s with clearNext := false } := ⟨rfl, rfl, List.Subset.refl _, fun _ h => h⟩
  obtain ⟨hush, named⟩ := yields_createServer (s.params.serverConfig s.clearNext) e
  simp only [Use.run_bind, asked, Use.run_act]
  generalize createServer (s.params.serverConfig s.clearNext) e = made at hush named
  rcases made with ⟨m | k, e'⟩
  · exact hush_sheds sheds hush
  have hush' := hush_addAggregator k e'
  simp only []
  generalize Engine.addAggregator k e' = joined at hush'
  have kept := trans_of State.Hush hush hush'
  rcases joined with ⟨m | aggregator, e''⟩
  · exact hush_sheds sheds kept
  · exact trans_of Hush (hush_sheds sheds kept)
      (hush_entered { s with clearNext := false } aggregator
        (getElem?_of_extends hush'.configs (named k rfl)))

theorem hush_init : Bridge.init.Within Hush := by
  rw [init_eq]
  exact .bind hush_withdraw fun old => .bind (hush_dismiss old) fun _ => hush_found

theorem hush_reset : Bridge.reset.Within Hush :=
  .bind hush_close fun _ => hush_init

theorem handles_settled {generation : Nat} {id : String} {made : Except Mishap Member} {s : Session}
    {h : Nat} (member : h ∈ (s.settled generation id made).handles) :
    h ∈ s.handles ∨ ∃ m, made = .ok m ∧ h = m.handle := by
  unfold Session.handles Session.settled at *
  cases hl : s.live with
  | none =>
    rw [hl] at member
    cases member
  | some l =>
    rw [hl] at member
    simp only [Option.map_some] at member
    split at member
    · rw [Live.settled, List.map_append] at member
      refine (List.mem_append.1 member).imp_right fun new => ?_
      cases made with
      | error m => cases new
      | ok m => exact ⟨m, rfl, List.mem_singleton.1 new⟩
    · exact .inl member

theorem server?_settled (generation : Nat) (id : String) (made : Except Mishap Member)
    (s : Session) : (s.settled generation id made).server? = s.server? := by
  unfold Session.server? Session.settled
  cases s.live with
  | none => rfl
  | some l =>
    simp only [Option.map_some]
    split <;> rfl

theorem hush_settleAddition (generation : Nat) (id : String) (m : Mishap) :
    (settleAddition generation id (.error m)).Within Hush := by
  rintro ⟨s, e⟩
  rw [run_settleAddition]
  refine hush_sheds ⟨rfl, rfl, fun h member => ?_, fun k own => ?_⟩ (.refl e)
  · exact (handles_settled member).resolve_right fun ⟨_, made, _⟩ => nomatch made
  · rwa [server?_settled] at own

theorem hush_finishAddition (generation aggregator : Nat) (d : Definition) :
    (finishAddition generation aggregator d).Within Hush := by
  rintro ⟨s, e⟩
  rw [finishAddition_eq]
  simp only [create, Use.run_bind, Use.run_own, Use.run_act, Act.run_attempt]
  rcases run_addEndpoint_cases aggregator (.followed (.make s.options.lockWindow s.sink d)) e with
    ⟨m, e', run, hush⟩ | ⟨e', run, hush, grown⟩
  · rw [run]
    have kept : Hush (s, e) (s, e') := hush_sheds (.refl s) hush
    cases m with
    | failed f => exact trans_of Hush kept (hush_settleAddition _ _ _ _)
    | collapsed reason => exact kept
  · rw [run]
    simp only [Use.run_pure, run_settleAddition]
    refine ⟨rfl, rfl, hush, fun h member => (handles_settled member).imp_right ?_, fun k own => ?_⟩
    · rintro ⟨_, ⟨⟩, rfl⟩
      refine ⟨Nat.le_refl _, s.sink, d, ?_⟩
      rw [grown]
      exact List.getElem?_concat_length
    · rw [server?_settled] at own
      exact .inl own

theorem hush_reserve (id : String) : (reserve id).Within Hush := by
  rintro ⟨s, e⟩
  cases hl : s.live with
  | none =>
    rw [run_reserve_none hl]
    exact refl_of Hush _
  | some l =>
    rw [run_reserve hl]
    split
    · exact refl_of Hush _
    · refine hush_sheds ⟨rfl, rfl, ?_, ?_⟩ (.refl e)
      · unfold Session.handles
        rw [hl]
        exact List.Subset.refl _
      · unfold Session.server?
        rw [hl]
        exact fun _ h => h

theorem hush_addEndpoint (spec : Spec) : (addEndpoint spec).Within Hush := by
  refine .bind (hush_reserve spec.id) fun l => .bind .own fun s => ?_
  cases spec.definition s.options.maxLabel with
  | error f => exact .bind (hush_settleAddition _ _ _) fun _ => .pure _
  | ok d =>
    refine .bind (hush_engine (.get_bind fun e => .refl e)) fun e => ?_
    cases e.addsHeld with
    | true => exact .pure _
    | false => exact .bind (hush_finishAddition _ _ d) fun _ => .pure _

theorem hush_plain {a : Doing Unit} (h : a.Within Hush) :
    (do a; return .done .null : Doing Progress).Within Hush :=
  .bind h fun _ => .pure _

theorem hush_start : Bridge.start.Within Hush :=
  .bind hush_theLive fun l => hush_engine (hush_startServer l.server)

theorem hush_listEndpoints : listEndpoints.Within Hush :=
  .bind hush_theLive fun _ => .bind (hush_engine (.get_bind fun e => .refl e)) fun _ => .pure _

theorem hush_commissioningState : commissioningState.Within Hush :=
  .bind hush_theLive fun l => .bind (hush_engine (hush_theServer l.server)) fun _ =>
    .bind (hush_engine (.get_bind fun e => .refl e)) fun _ => .pure _

theorem hush_openCommissioningWindow : openCommissioningWindow.Within Hush :=
  .bind hush_theLive fun l => hush_engine (hush_openWindow l.server)

theorem hush_closeCommissioningWindow : closeCommissioningWindow.Within Hush :=
  .bind hush_theLive fun _ =>
    hush_engine (hush_modify (State.hush_changeServer _ fun _ => rfl))

end Bridge

/-- Whether a write is asked for. -/
def Ask.writes : Ask → Bool
  | .write .. => true
  | _ => false

theorem hush_perform {a : Ask} (h : a.writes = false) : a.perform.Within Bridge.Hush := by
  cases a with
  | write => cases h
  | make spec => exact hush_addEndpoint spec
  | reset => exact hush_plain hush_reset
  | list => exact .bind hush_listEndpoints fun _ => .pure _
  | start => exact hush_plain hush_start
  | pairing => exact .bind hush_commissioningState fun _ => .pure _
  | openWindow => exact hush_plain hush_openCommissioningWindow
  | closeWindow => exact hush_plain hush_closeCommissioningWindow

/-! ## What is waiting after a request -/

/-- The request does not wait to write. -/
def Bridge.Waitless (a : Doing Progress) : Prop :=
  ∀ p w, (a p).1 ≠ .ok (.writing w)

theorem Bridge.Waitless.bind {α : Type} {x : Doing α} {f : α → Doing Progress}
    (h : ∀ a, Waitless (f a)) : Waitless (x >>= f) := by
  intro p w
  rw [Use.run_bind]
  rcases x p with ⟨_ | a, q⟩
  · exact nofun
  · exact h a q w

theorem Bridge.waitless_done (v : Json) : Waitless (pure (.done v)) := nofun

theorem waitless_perform {a : Ask} (h : a.writes = false) : Waitless a.perform := by
  cases a with
  | write => cases h
  | make spec =>
    refine .bind fun l => .bind fun s => ?_
    cases spec.definition s.options.maxLabel with
    | error f => exact .bind fun _ => waitless_done _
    | ok d =>
      refine .bind fun e => ?_
      cases e.addsHeld with
      | true => exact nofun
      | false => exact .bind fun _ => waitless_done _
  | reset | list | start | pairing | openWindow | closeWindow =>
    exact .bind fun _ => waitless_done _

/-- The request is finished. -/
def Bridge.Finished : Except Mishap Progress → Prop
  | .ok (.writing _) | .ok (.adding ..) => False
  | .ok (.done _) | .error _ => True

/-- The number of an endpoint of a session. -/
def Bridge.Session.handle? (id : String) (s : Bridge.Session) : Option Nat :=
  (s.live.bind (·.member? id)).map (·.handle)

section

variable {s : Bridge.Session} {id : String}

theorem mem_handles {h : Nat} (found : s.handle? id = some h) : h ∈ s.handles := by
  unfold Session.handle? at found
  unfold Session.handles
  cases hl : s.live with
  | none =>
    rw [hl] at found
    cases found
  | some l =>
    rw [hl] at found
    obtain ⟨m, hm, rfl⟩ := Option.map_eq_some_iff.1 found
    exact List.mem_map_of_mem (member?_eq_some hm).1

theorem run_setState_nowhere (none : s.handle? id = none) (cluster attr : String) (value : Json)
    (e : State) : ∃ r, setState id cluster attr value (s, e) = (r, s, e) ∧ Finished r := by
  unfold Session.handle? at none
  cases hl : s.live with
  | none => exact ⟨.error (.failed (.notInitialized "Bridge")), by simp [setState, theLive, hl],
      trivial⟩
  | some l =>
    rw [hl] at none
    have unknown : l.member? id = .none := Option.map_eq_none_iff.1 none
    exact ⟨_, run_setState_unknown hl unknown cluster attr value e, trivial⟩

theorem run_setState {h : Nat} (found : s.handle? id = some h) (cluster attr : String)
    (value : Json) (e : State) :
    let (w, e') := e.started h cluster attr value
    if e'.writesHeld then setState id cluster attr value (s, e) = (.ok (.writing w), s, e')
    else ∃ r, setState id cluster attr value (s, e) = (r, s, e'.finished w) ∧ Finished r := by
  unfold Session.handle? at found
  cases hl : s.live with
  | none =>
    rw [hl] at found
    cases found
  | some l =>
    rw [hl] at found
    obtain ⟨m, hm, rfl⟩ := Option.map_eq_some_iff.1 found
    simp only [setState, run_theLive hl, show l.member? id = some m from hm, Use.run_bind,
      Use.run_act, State.run_started, Act.run_get, Use.run_ite, Use.run_pure]
    generalize e.started m.handle cluster attr value = start
    obtain ⟨w, e'⟩ := start
    dsimp only
    obtain ⟨result, finish⟩ := State.run_finished w e'
    split
    · rfl
    · rw [finish]
      cases result with
      | error m => exact ⟨_, rfl, trivial⟩
      | ok _ => exact ⟨_, rfl, trivial⟩

end

end HomeGateway
