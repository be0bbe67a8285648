/-
  What happens around a session of a bridge.

  Whatever happens around a session, it lets others know what its lodge lets
  them know, and the gateway then houses what has become of the lodge.

  * `Gateway.deal`: what happens around a session of a gateway;
  * `Houses.performs`: what a caller asks of a session, it asks of its lodge;
  * `Houses.place`: what a peer names is there if it is there in the lodge;
  * `Houses.deals`: what happens around a session happens around its lodge.
-/
import HomeGateway.Proofs.Lodging

namespace HomeGateway

open Device Engine Bridge

namespace Gateway

/-- The number of an endpoint of session `n` that a peer names. -/
def handleAt? (n : Nat) (s : Bridge.Session) (g : Gateway) : Naming → Option Nat
  | .named id =>
    (g.engine.newestServer? s.params.uniqueId).bind fun k =>
      (g.engine.servers[k]?).bind fun sv => g.engine.endpointAmong? id (g.engine.endpointsOf sv)
  | .numbered i => (g.engine.handlesFor n)[i]?

/-- What comes of what happens around session `n`: what is said, apart from events, and the
    gateway afterwards. -/
def deal (n : Nat) (d : Deal) (g : Gateway) : List Said × Gateway :=
  match g.sessions[n]? with
  | some (.bridge s) =>
    match d with
    | .initialised =>
      let (r, g) := g.initSession n
      ([.result r], g)
    | .closed =>
      let (r, g) := g.inBridge n s Bridge.close
      ([.result r], g)
    | .shut => ([], g.shutdownSession n)
    | .asked r =>
      let (response, g) := g.handle n r
      (response.toList.map .response, g)
    | .paired =>
      match g.engine.newestServer? s.params.uniqueId with
      | some k => ([], { g with engine := g.engine.markCommissioned k })
      | none => ([], g)
    | .written who own place cluster attr value =>
      match g.handleAt? n s place with
      | some h =>
        let (r, g) := g.writeByOther who own h cluster attr value
        (r.toList.map .result, g)
      | none => ([], g)
    | .commanded place cluster command args =>
      match g.handleAt? n s place with
      | some h =>
        let (r, g) := g.act (peerCommand h cluster command args)
        ([.result r], g)
      | none => ([], g)
  | _ => ([], g)

end Gateway

namespace Bridge

/-- Something ends at session `n` and in the engine as it does at a lodge. -/
def Comes (n : Nat) (s : Session) (e : State) (run : Except Mishap Progress × Session × State)
    (result : Except Failure Json × List BridgeEvent × Lodge) : Prop :=
  ∃ s' e', run = (finished result.1, s', e') ∧ Touches n s e s' e' ∧ Houses n s' e' result.2.2 ∧
    e'.journal = e.journal ++ Gateway.entries n result.2.1

variable {n : Nat} {s : Session} {e : State} {v : Lodge} {l : Live} {y : Stay}

/-! ## What a caller asks for -/

theorem Houses.nothing (h : Houses n s e v) {run : Except Mishap Progress × Session × State}
    {r : Except Failure Json} (comes : run = (finished r, s, e)) : Comes n s e run (r, [], v) :=
  ⟨s, e, comes, .still, h, (List.append_nil _).symm⟩

/-- The server node of a session exists. -/
theorem Houses.real (h : Houses n s e v) : s.Real e := by
  intro l hl
  obtain ⟨y, -, stands⟩ := h.stays hl
  obtain ⟨sv, clear, hsv, config, -⟩ := stands.server
  refine ⟨sv, hsv, ?_⟩
  rw [config, h.params]
  rfl

/-- Without a server node there is only one thing to ask for. -/
theorem perform_vacant (hl : s.live = none) (e : State) {a : Ask} (other : a ≠ .reset) :
    a.perform (s, e) = (finished (.error (.notInitialized "Bridge")), s, e) := by
  have vacant : theLive (s, e) = (.error (.failed (.notInitialized "Bridge")), s, e) := by
    simp only [theLive, Use.run_bind, Use.run_own, hl, Use.run_fail]
  cases a with
  | reset => exact absurd rfl other
  | make spec => simp only [Ask.perform, addEndpoint, reserve, Use.run_bind, vacant, finished]
  | write id cluster attr value => simp only [Ask.perform, setState, Use.run_bind, vacant, finished]
  | list => simp only [Ask.perform, listEndpoints, Use.run_bind, vacant, finished]
  | start => simp only [Ask.perform, Bridge.start, Use.run_bind, vacant, finished]
  | pairing => simp only [Ask.perform, commissioningState, Use.run_bind, vacant, finished]
  | openWindow =>
    simp only [Ask.perform, openCommissioningWindow, Use.run_bind, vacant, finished]
  | closeWindow =>
    simp only [Ask.perform, closeCommissioningWindow, Use.run_bind, vacant, finished]

theorem journal_closed (s : Session) (e : State) : (s.closed e).journal = e.journal := by
  unfold Session.closed
  cases s.live <;> rfl

theorem Houses.resets (h : Houses n s e v) :
    Comes n s e (Ask.reset.perform (s, e)) (.ok .null, [], v.renewed) := by
  have run := run_reset_real h.grounded.free.faults h.real
  refine ⟨_, _, ?_, .renewed, h.renewed, (journal_closed s e).trans (List.append_nil _).symm⟩
  simp only [Ask.perform, Use.run_bind, run, Use.run_pure, finished]

theorem Live.Stands.member? (stands : l.Stands n v.params e y) (id : String) :
    Option.Rel (Member.Stands (e.handlesFor n)) (l.member? id) (y.member? id) :=
  find?_stands stands.members id

/-- An id is taken if an endpoint of the stay has it. -/
theorem Live.Stands.taken {Fit : VirtualEndpoint → Prop} (stands : l.Stands n v.params e y)
    (hb : l.Backed Fit e) (id : String) : l.taken id = (y.member? id).isSome := by
  have same : (l.member? id).isSome = (y.member? id).isSome := by
    have members := stands.member? id
    generalize l.member? id = m at members ⊢
    generalize y.member? id = m' at members ⊢
    cases members <;> rfl
  unfold Live.taken
  rw [same, hb.pending]
  exact Bool.or_false _

theorem Houses.makes (h : Houses n s e v) (hl : s.live = some l) (hy : v.stay = some y)
    (spec : Spec) : Comes n s e ((Ask.make spec).perform (s, e)) (v.answerIn y (.make spec)) := by
  have stands := h.standing hl hy
  have taken := stands.taken (h.grounded.backed l hl) spec.id
  unfold Lodge.answerIn
  dsimp only
  rw [← taken]
  cases ht : l.taken spec.id with
  | true => exact h.nothing (run_addEndpoint_taken hl ht e)
  | false =>
    rw [if_neg Bool.false_ne_true, ← h.options]
    cases hd : spec.definition s.options.maxLabel with
    | error f => exact h.nothing (run_addEndpoint_refused hl ht hd e)
    | ok d =>
      have made := run_addEndpoint_made hl h.grounded ht hd
      rw [h.sink] at made
      exact ⟨_, _, made, .joined hl d _, h.joined hl hy ht hd, (List.append_nil _).symm⟩

theorem Houses.writes (h : Houses n s e v) (hl : s.live = some l) (hy : v.stay = some y)
    (id cluster attr : String) (value : Json) :
    Comes n s e ((Ask.write id cluster attr value).perform (s, e))
      (v.answerIn y (.write id cluster attr value)) := by
  have stands := h.standing hl hy
  have members := stands.member? id
  unfold Lodge.answerIn
  dsimp only
  generalize own : l.member? id = m at members
  generalize y.member? id = m' at members ⊢
  cases members with
  | none => exact h.nothing (run_setState_unknown hl own cluster attr value e)
  | some member =>
    obtain ⟨x, there, result, told, touches, housed⟩ :=
      h.touched (stirs_write e.now cluster attr value) member.2.2
    have run := run_setState_known hl h.grounded.free own there cluster attr value
    rw [h.now] at run result told touches housed
    refine ⟨_, _, run.trans ?_, touches, housed, congrArg (e.journal ++ ·) told⟩
    rw [result]
    dsimp only
    cases (v.touched _ _).1 <;> rfl

/-- What a session shows is what there is of its lodge. -/
theorem Houses.roster (h : Houses n s e v) (stands : l.Stands n v.params e y) :
    rosterOf e l = v.roster y := by
  unfold rosterOf Lodge.roster
  rw [← List.forall₂_eq_eq_eq, List.forall₂_map_left_iff, List.forall₂_map_right_iff]
  refine stands.members.imp fun m m' member => ?_
  obtain ⟨id, type, number⟩ := member
  obtain ⟨x, hx, there⟩ := h.at number
  unfold shownAt treeAt
  rw [id, type, hx, there]
  rfl

/-- The server node is switched. -/
theorem Houses.turns (h : Houses n s e v) (hl : s.live = some l) (hy : v.stay = some y)
    {run : Except Mishap Progress × Session × State} {f : Server → Server}
    (comes : run = (finished (.ok .null), s, e.changeServer l.server f))
    (frame : ∀ sv, (f sv).frame = sv.frame) {online windowOpen : Bool}
    (turns : ∀ sv, sv.online = y.online → sv.windowOpen = y.windowOpen →
      (f sv).online = online ∧ (f sv).windowOpen = windowOpen) :
    Comes n s e run (.ok .null, [], v.switched y online windowOpen) :=
  ⟨_, _, comes, .switched hl frame, h.switched hl hy frame turns, (List.append_nil _).symm⟩

theorem Houses.starts (h : Houses n s e v) (hl : s.live = some l) (hy : v.stay = some y) :
    Comes n s e (Ask.start.perform (s, e)) (v.answerIn y .start) := by
  have stands := h.standing hl hy
  obtain ⟨sv, clear, hsv, -, closed, -⟩ := stands.server
  have run : Ask.start.perform (s, e) = (finished (.ok .null), s, e.changeServer l.server
      fun sv' => { sv' with online := true, windowOpen := !e.commissioned sv }) := by
    simp only [Ask.perform, Bridge.start, Use.run_bind, run_theLive hl, Use.run_act,
      run_startServer h.grounded.free.faults hsv closed, Use.run_pure, finished]
  refine h.turns hl hy run (fun _ => rfl) fun sv' _ _ => ⟨rfl, ?_⟩
  rw [h.commissioned stands.newest hsv]
  rfl

theorem Houses.pairs (h : Houses n s e v) (hl : s.live = some l) (hy : v.stay = some y) :
    Comes n s e (Ask.pairing.perform (s, e)) (v.answerIn y .pairing) := by
  have stands := h.standing hl hy
  obtain ⟨sv, clear, hsv, config, -, -, windowOpen⟩ := stands.server
  have run := run_commissioningState hl hsv
  have told : e.commissioning sv = v.commissioning y := by
    unfold State.commissioning Lodge.commissioning
    rw [h.commissioned stands.newest hsv, windowOpen, config]
    rfl
  refine h.nothing ?_
  rw [← told]
  simp only [Ask.perform, Use.run_bind, run, Use.run_pure, finished]

theorem Houses.opensWindow (h : Houses n s e v) (hl : s.live = some l) (hy : v.stay = some y) :
    Comes n s e (Ask.openWindow.perform (s, e)) (v.answerIn y .openWindow) := by
  have stands := h.standing hl hy
  obtain ⟨sv, clear, hsv, -, -, online, -⟩ := stands.server
  have run := run_openWindow hsv
  unfold Lodge.answerIn
  dsimp only
  rw [← online]
  cases on : sv.online with
  | false =>
    rw [on, if_neg Bool.false_ne_true] at run
    refine h.nothing ?_
    simp only [Ask.perform, openCommissioningWindow, Use.run_bind, run_theLive hl, Use.run_act,
      run, finished]
  | true =>
    rw [on, if_pos rfl] at run
    have performed : Ask.openWindow.perform (s, e) = (finished (.ok .null), s,
        e.changeServer l.server fun sv => { sv with windowOpen := true }) := by
      simp only [Ask.perform, openCommissioningWindow, Use.run_bind, run_theLive hl, Use.run_act,
        run, Use.run_pure, finished]
    exact h.turns hl hy performed (fun _ => rfl) fun sv' same _ =>
      ⟨same.trans (online.symm.trans on), rfl⟩

theorem Houses.closesWindow (h : Houses n s e v) (hl : s.live = some l) (hy : v.stay = some y) :
    Comes n s e (Ask.closeWindow.perform (s, e)) (v.answerIn y .closeWindow) := by
  have run : Ask.closeWindow.perform (s, e) = (finished (.ok .null), s,
      e.changeServer l.server fun sv => { sv with windowOpen := false }) := by
    simp only [Ask.perform, closeCommissioningWindow, Use.run_bind, run_theLive hl, Use.run_act,
      closeWindow, Act.run_modify, Use.run_pure, finished]
  exact h.turns hl hy run (fun _ => rfl) fun _ same _ => ⟨same, rfl⟩

/-- What a caller asks of a session, it asks of its lodge. -/
theorem Houses.performs (h : Houses n s e v) (a : Ask) :
    Comes n s e (a.perform (s, e)) (v.answer a) := by
  cases hl : s.live with
  | none =>
    have vacant := h.vacant hl
    unfold Lodge.answer
    rw [vacant]
    cases a with
    | reset => exact h.resets
    | make | write | list | start | pairing | openWindow | closeWindow =>
      exact h.nothing (perform_vacant hl e nofun)
  | some l =>
    obtain ⟨y, hy, stands⟩ := h.stays hl
    unfold Lodge.answer
    rw [hy]
    cases a with
    | make spec => exact h.makes hl hy spec
    | write id cluster attr value => exact h.writes hl hy id cluster attr value
    | reset => exact h.resets
    | list => exact h.nothing ((perform_list hl e).trans (by rw [h.roster stands]))
    | start => exact h.starts hl hy
    | pairing => exact h.pairs hl hy
    | openWindow => exact h.opensWindow hl hy
    | closeWindow => exact h.closesWindow hl hy

/-! ## What happens around a session -/

theorem Houses.endpointAmong? (h : Houses n s e v) (hl : s.live = some l) (id : String) :
    e.endpointAmong? id (l.members.map (·.handle)) = (l.member? id).map (·.handle) := by
  have names : ∀ m ∈ l.members, (e.endpointId m.handle = some id ↔ m.id = id) := by
    intro m hm
    obtain ⟨x, there, -, own, -⟩ := (h.grounded.backed l hl).members m hm
    unfold State.endpointId
    rw [there, Option.map_some, Option.some_inj, ← own]
    rfl
  unfold State.endpointAmong? Live.member?
  rw [List.find?_map, ← List.head?_filter, ← List.head?_filter]
  refine congrArg _ (congrArg _ (List.filter_congr fun m hm => ?_))
  simp only [Function.comp, names m hm]

end Bridge

namespace Gateway

variable {n : Nat} {g : Gateway} {s : Bridge.Session} {v : Lodge}

/-- What a peer names is there if it is there in the lodge. -/
theorem place (h : Houses n s g.engine v) (place : Naming) :
    Option.Rel (fun handle i => (g.engine.handlesFor n)[i]? = some handle)
      (g.handleAt? n s place) (v.place? place) := by
  cases place with
  | numbered i =>
    unfold handleAt? Lodge.place?
    dsimp only
    by_cases lt : i < v.made.length
    · have lt' := h.stock.length ▸ lt
      rw [if_pos lt, List.getElem?_eq_getElem lt']
      exact .some (List.getElem?_eq_getElem lt')
    · have ge := h.stock.length ▸ Nat.le_of_not_lt lt
      rw [if_neg lt, List.getElem?_eq_none ge]
      exact .none
  | named id =>
    unfold handleAt? Lodge.place?
    dsimp only
    rw [h.params]
    cases hl : s.live with
    | none =>
      rw [h.vacant hl]
      cases newest : g.engine.newestServer? v.params.uniqueId with
      | none => exact .none
      | some k =>
        obtain ⟨sv, hsv, -, -, vacant⟩ := h.stored k newest
        rw [Option.bind_some, hsv, Option.bind_some]
        unfold State.endpointsOf
        rw [vacant hl]
        exact .none
    | some l =>
      obtain ⟨y, hy, stands⟩ := h.stays hl
      have hb := h.grounded.backed l hl
      obtain ⟨sv, hsv, aggregator⟩ := hb.server
      have own : g.engine.endpointsOf sv = l.members.map (·.handle) := by
        unfold State.endpointsOf
        rw [aggregator]
        dsimp only
        rw [hb.aggregator]
        rfl
      rw [stands.newest, Option.bind_some, hsv, Option.bind_some, own, h.endpointAmong? hl, hy,
        Option.bind_some]
      have members := stands.member? id
      generalize l.member? id = m at members ⊢
      generalize y.member? id = m' at members ⊢
      cases members with
      | none => exact .none
      | some member => exact .some member.2.2

/-- Something happens around session `n` of a gateway as it does around a lodge. -/
def Deals (n : Nat) (s : Bridge.Session) (g : Gateway) (run : List Said × Gateway)
    (result : List BridgeEvent × List Said × Lodge) : Prop :=
  ∃ s' e', run = (result.2.1, g.acted n s' e') ∧ Touches n s g.engine s' e' ∧
    Houses n s' e' result.2.2 ∧ e'.journal = g.engine.journal ++ entries n result.1

theorem deals_nothing (here : g.sessions[n]? = some (.bridge s)) (h : Houses n s g.engine v)
    {run : List Said × Gateway} {said : List Said} (comes : run = (said, g)) :
    Deals n s g run ([], said, v) :=
  ⟨s, g.engine, comes.trans (by rw [acted_self here]), .still, h, (List.append_nil _).symm⟩

theorem deals_asked (here : g.sessions[n]? = some (.bridge s)) (h : Houses n s g.engine v)
    (r : Request) : Deals n s g (g.deal n (.asked r)) (v.deal (.asked r)) := by
  unfold deal Lodge.deal
  rw [here]
  dsimp only
  cases read : Ask.ofRequest r with
  | error f =>
    rw [handle_unread here read]
    exact deals_nothing here h rfl
  | ok a =>
    obtain ⟨s', e', run, touches, housed, told⟩ := h.performs a
    rw [handle_finished here read run]
    exact ⟨s', e', rfl, touches, housed, told⟩

theorem deals_visited (here : g.sessions[n]? = some (.bridge s)) (h : Houses n s g.engine v)
    (place : Naming) {f : VirtualEndpoint → Except EngineError Unit × Reaction} (stirs : Stirs f)
    {visit : Nat → List Said × Gateway}
    (comes : ∀ handle x, g.engine.endpoints[handle]? = some (.followed x) →
      visit handle = ([.result (outcome (f x).1)], { g with
        engine := g.engine.put handle (.followed (f x).2.after) (Bridged.journal (f x).2) })) :
    Deals n s g
      (match g.handleAt? n s place with
        | some handle => visit handle
        | none => ([], g))
      (v.visited place f) := by
  have places := g.place h place
  unfold Lodge.visited
  generalize g.handleAt? n s place = handle at places ⊢
  generalize v.place? place = i at places ⊢
  cases places with
  | none => exact deals_nothing here h rfl
  | some number =>
    obtain ⟨x, there, result, told, touches, housed⟩ := h.touched stirs number
    dsimp only
    refine ⟨s, _, ?_, touches, housed, congrArg (g.engine.journal ++ ·) told⟩
    rw [comes _ x there, result, acted_still here]

/-- What happens around a session happens around its lodge. -/
theorem deals (here : g.sessions[n]? = some (.bridge s)) (h : Houses n s g.engine v) (d : Deal) :
    Deals n s g (g.deal n d) (v.deal d) := by
  have faults := h.grounded.free.faults
  have quiet := journal_closed s g.engine
  have told : g.engine.journal = g.engine.journal ++ entries n [] := (List.append_nil _).symm
  cases d with
  | initialised =>
    have run := inBridge_eq (g := g) (n := n) (run_init_real faults h.real)
    refine ⟨_, _, ?_, .renewed, h.renewed, quiet.trans told⟩
    simp only [deal, here, initSession, inSession, run]
    rfl
  | closed =>
    have run := inBridge_eq (g := g) (n := n) (run_close_real faults h.real)
    refine ⟨_, _, ?_, .ended, h.ended, quiet.trans told⟩
    simp only [deal, here, run]
    rfl
  | shut =>
    refine ⟨_, _, ?_, .ended, h.ended, quiet.trans told⟩
    simp only [deal, here, shutdownSession, inSession, inBridge, shutdown,
      run_close_real faults h.real]
    rfl
  | asked r => exact deals_asked here h r
  | paired =>
    unfold deal
    rw [here]
    dsimp only
    cases newest : g.engine.newestServer? s.params.uniqueId with
    | none =>
      have still : Deals n s g ([], g) ([], [], v) := deals_nothing here h rfl
      rwa [← h.unpaired newest] at still
    | some k =>
      have quiet : (g.engine.markCommissioned k).journal = g.engine.journal := by
        unfold State.markCommissioned
        cases g.engine.servers[k]? <;> rfl
      exact ⟨s, _, by rw [acted_still here]; rfl, .paired newest, h.paired newest,
        quiet.trans told⟩
  | written who own place cluster attr value =>
    have stirs : Stirs fun x =>
        if own then x.write v.now cluster attr value
        else x.writeByOther v.now cluster attr value := by
      cases own
      · exact stirs_writeByOther v.now cluster attr value
      · exact stirs_write v.now cluster attr value
    unfold deal
    rw [here]
    refine deals_visited here h place stirs fun handle x there => ?_
    have written : Engine.write g.engine.now own cluster attr value (.followed x) =
        ((if own then x.write v.now cluster attr value
            else x.writeByOther v.now cluster attr value).1,
          .followed (if own then x.write v.now cluster attr value
            else x.writeByOther v.now cluster attr value).2.after,
          Bridged.journal (if own then x.write v.now cluster attr value
            else x.writeByOther v.now cluster attr value).2) := by
      rw [h.now]
      cases own <;> rfl
    simp only [writeByOther, act, run_startWrite there, State.writesHeld_put,
      h.grounded.free.writes, Bool.false_eq_true, if_false, run_finishWrite there, written,
      Option.toList_some, List.map_cons, List.map_nil]
  | commanded place cluster command args =>
    unfold deal
    rw [here]
    refine deals_visited here h place (stirs_command v.now cluster command args)
      fun handle x there => ?_
    simp only [act, run_peerCommand there, h.now]
    rfl

end Gateway

end HomeGateway
