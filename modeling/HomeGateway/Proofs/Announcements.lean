/-
  Which events a caller of a bridge gets.

  Around the endpoints of a session things happen one after the other: the
  caller makes endpoints and writes to them, others write, peers give commands,
  and time passes.  `announced` says which bridge events each of these is to
  cause, and speaks of the endpoints only, not of locks.

  * `occur_spec`: what one occurrence does to the journal;
  * `journal_occurAll`: the events of a whole course of things.
-/
import HomeGateway.Proofs.Seating

namespace HomeGateway

open Device Engine Bridge

/-- Something that happens around the endpoints of a bridge session. -/
inductive Occurrence where
  /-- the caller makes an endpoint -/
  | made (spec : Spec)
  /-- the caller writes -/
  | pushed (id cluster attr : String) (value : Json)
  /-- someone else writes -/
  | written (who id cluster attr : String) (value : Json)
  /-- a peer gives a command -/
  | commanded (id cluster command : String) (args : Json)
  /-- time passes -/
  | passed (ms : Nat)
  /-- the caller begins anew -/
  | reset

namespace Gateway

/-! ## What happens -/

/-- Do something in a session if it is that of a bridge. -/
def asBridge {α : Type} (n : Nat) (a : Doing α) (g : Gateway) : Gateway :=
  match g.sessions[n]? with
  | some (.bridge s) => (g.inBridge n s a).2
  | _ => g

/-- The gateway after something happened around session `n`. -/
def occur (n : Nat) (g : Gateway) : Occurrence → Gateway
  | .made spec => g.asBridge n (addEndpoint spec)
  | .pushed id cluster attr value => g.asBridge n (setState id cluster attr value)
  | .written who id cluster attr value =>
    match g.handleOf? n id with
    | some e => (g.writeByOther who false e cluster attr value).2
    | none => g
  | .commanded id cluster command args =>
    match g.handleOf? n id with
    | some e => (g.act (peerCommand e cluster command args)).2
    | none => g
  | .passed ms => g.advance ms
  | .reset => g.asBridge n Bridge.reset

/-- The gateway after several things happened around session `n`. -/
def occurAll (n : Nat) (g : Gateway) (os : List Occurrence) : Gateway :=
  os.foldl (occur n) g

/-! ## What is to be told -/

/-- The events that an occurrence is to cause.  The caller's own doing causes
    none; a write by someone else causes one if it changes an observed
    attribute; a command of a peer causes one for each of its hooks that yields
    a value. -/
def announced (n : Nat) (g : Gateway) : Occurrence → List BridgeEvent
  | .written _ id cluster attr value =>
    match g.endpointOf? n id with
    | some ep =>
      if ep.changes cluster attr value && ep.type.observes cluster attr then
        [⟨id, cluster, attr, value⟩]
      else []
    | none => []
  | .commanded id cluster command args =>
    match g.endpointOf? n id with
    | some ep =>
      (ep.type.hooks.filter (·.matches? cluster command)).filterMap fun h =>
        (h.value.resolve args (ep.get? h.cluster h.attr)).map (⟨id, h.cluster, h.attr, ·⟩)
    | none => []
  | .made _ | .pushed .. | .passed _ | .reset => []

/-- The events that several occurrences are to cause, in order. -/
def announcedAll (n : Nat) : Gateway → List Occurrence → List BridgeEvent
  | _, [] => []
  | g, o :: os => g.announced n o ++ announcedAll n (g.occur n o) os

/-! ## What the caller does -/

/-- The events of a session, as the journal holds them. -/
def entries (n : Nat) (events : List BridgeEvent) : Journal :=
  events.map fun b => .event n (.ofBridge b)

/-- Session `n` is seated, and its endpoints are calm. -/
abbrev AtRest (n : Nat) (options : BridgeOptions) (s : Bridge.Session) (l : Live) (g : Gateway) :
    Prop :=
  Seated (VirtualEndpoint.Calm options.lockWindow n) n options s l g

/-- Session `n` is still at rest, and these events were told. -/
def Told (n : Nat) (options : BridgeOptions) (g g' : Gateway) (events : List BridgeEvent) : Prop :=
  (∃ s l, AtRest n options s l g') ∧
    g'.engine.journal = g.engine.journal ++ entries n events

variable {n : Nat} {options : BridgeOptions} {s : Bridge.Session} {l : Live} {g : Gateway}

theorem told_nothing (h : AtRest n options s l g) :
    Told n options g g [] :=
  ⟨⟨s, l, h⟩, by simp [entries]⟩

/-- What a session does in the engine without a word. -/
theorem told_acted (h : AtRest n options s l g) {α : Type} {a : Doing α}
    {r : Except Mishap α} {s' : Bridge.Session} {l' : Live} {e' : State}
    (run : a (s, g.engine) = (r, s', e')) (live : s'.live = some l')
    (same : s'.options = s.options) (sink : s'.sink = s.sink)
    (grounded : Grounded (VirtualEndpoint.Calm options.lockWindow n) s' e')
    (quiet : e'.journal = g.engine.journal) : Told n options g (g.asBridge n a) [] := by
  have after : g.asBridge n a = g.acted n s' e' := by
    simp only [asBridge, h.session, inBridge_eq run]
  rw [after]
  exact ⟨⟨s', l', h.acted live same sink grounded⟩, by simp [acted, quiet, entries]⟩

theorem told_made (h : AtRest n options s l g) (spec : Spec) :
    Told n options g (g.occur n (.made spec)) [] := by
  by_cases taken : l.taken spec.id = true
  · exact told_acted h (run_addEndpoint_taken h.live taken _) h.live rfl rfl h.grounded rfl
  · replace taken : l.taken spec.id = false := by simpa using taken
    cases hd : spec.definition s.options.maxLabel with
    | error f =>
      exact told_acted h (run_addEndpoint_refused h.live taken hd _) h.live rfl rfl h.grounded rfl
    | ok d =>
      have made := run_addEndpoint_made h.live h.grounded taken hd
      rw [h.options, h.sink] at made
      refine told_acted h made rfl rfl rfl ?_ rfl
      have grounded := h.grounded.made h.live taken hd
      rw [h.options, h.sink] at grounded
      exact grounded (VirtualEndpoint.calm_make _ _ d)

theorem told_pushed (h : AtRest n options s l g)
    (hw : 0 < options.lockWindow) (id cluster attr : String) (value : Json) :
    Told n options g (g.occur n (.pushed id cluster attr value)) [] := by
  cases hm : l.member? id with
  | none =>
    exact told_acted h (run_setState_unknown h.live hm cluster attr value _) h.live rfl rfl
      h.grounded rfl
  | some m =>
    obtain ⟨v, hv, calm, -, -⟩ := h.backed.members m (member?_eq_some hm).1
    have run := run_setState_known h.live h.grounded.free hm hv cluster attr value
    rw [calm, VirtualEndpoint.write_calm _ _ _ _ hw] at run
    by_cases hc : v.endpoint.hasCluster cluster
    · rw [if_pos hc] at run
      refine told_acted h run h.live rfl rfl ?_ (by simp [State.put, Bridged.journal])
      exact h.grounded.put hv (VirtualEndpoint.calm_calm _ _ _) (Endpoint.id_write _ _ _ _)
        (Endpoint.type_write _ _ _ _) _
    · rw [if_neg hc] at run
      refine told_acted h run h.live rfl rfl ?_ (by simp [State.put, Bridged.journal])
      exact h.grounded.put hv (VirtualEndpoint.calm_calm _ _ _) rfl rfl _

theorem told_reset (h : AtRest n options s l g) :
    Told n options g (g.occur n .reset) [] := by
  have closed := h.grounded.close l
  exact told_acted h (run_reset h.live h.grounded.free.faults h.backed) rfl rfl rfl
    (Grounded.init closed.free s.ended) rfl

theorem told_passed (h : AtRest n options s l g) (ms : Nat) :
    Told n options g (g.occur n (.passed ms)) [] := by
  refine ⟨⟨s, l, h.session, h.live, h.options, h.sink, ?_⟩, by simp [occur, advance, entries]⟩
  refine ⟨⟨h.grounded.free.writes, h.grounded.free.adds, h.grounded.free.faults⟩, fun l' hl' => ?_⟩
  have hb := h.grounded.backed l' hl'
  exact ⟨hb.server, hb.aggregator, hb.members, hb.handles, hb.ids, hb.pending⟩

/-! ## What others do to an endpoint -/

theorem told_put (h : AtRest n options s l g) {handle : Nat} {v v' : VirtualEndpoint}
    (hv : g.engine.endpoints[handle]? = some (.followed v))
    (calm : VirtualEndpoint.Calm options.lockWindow n v')
    (hid : v'.endpoint.id = v.endpoint.id) (htype : v'.endpoint.type = v.endpoint.type)
    (events : List BridgeEvent) :
    Told n options g (g.putEndpoint handle v' (entries n events)) events :=
  ⟨⟨s, l, h.put hv calm hid htype _⟩, rfl⟩

theorem told_written (h : AtRest n options s l g)
    (who id cluster attr : String) (value : Json) :
    Told n options g (g.occur n (.written who id cluster attr value))
      (g.announced n (.written who id cluster attr value)) := by
  cases hm : l.member? id with
  | none => simpa [occur, announced, endpointOf?, handleOf?_eq h, hm] using told_nothing h
  | some m =>
    obtain ⟨hmem, rfl⟩ := member?_eq_some hm
    obtain ⟨v, hv, calm, hid, -⟩ := h.backed.members m hmem
    have events := VirtualEndpoint.writeByOther_calm options.lockWindow n v.endpoint g.engine.now
      cluster attr value
    rw [← calm] at events
    simp only [VirtualEndpoint.writeByOther] at events
    have step : g.occur n (.written who m.id cluster attr value) =
        g.putEndpoint m.handle
          (v.finishWrite g.engine.now cluster attr value false).2.after
          (Bridged.journal (v.finishWrite g.engine.now cluster attr value false).2) := by
      simp only [occur, handleOf?_eq h, hm, Option.map_some, writeByOther, act, run_startWrite hv,
        State.writesHeld_put, h.grounded.free.writes, Bool.false_eq_true, if_false,
        run_finishWrite hv]
      rfl
    have announcement : g.announced n (.written who m.id cluster attr value) =
        if v.endpoint.changes cluster attr value && v.endpoint.type.observes cluster attr then
          [⟨m.id, cluster, attr, value⟩] else [] := by
      simp [announced, endpointOf?, endpointAt?, handleOf?_eq h, hm, hv, Bridged.endpoint]
    rw [step, announcement, events]
    by_cases hc : v.endpoint.hasCluster cluster
    · rw [if_pos hc, ← hid]
      exact told_put h hv (VirtualEndpoint.calm_calm _ _ _) (Endpoint.id_write _ _ _ _)
        (Endpoint.type_write _ _ _ _) _
    · have still : v.endpoint.changes cluster attr value = false := by simp [Endpoint.changes, hc]
      rw [if_neg hc, still]
      exact told_put h hv calm rfl rfl []

theorem told_commanded (h : AtRest n options s l g)
    (id cluster command : String) (args : Json) :
    Told n options g (g.occur n (.commanded id cluster command args))
      (g.announced n (.commanded id cluster command args)) := by
  cases hm : l.member? id with
  | none => simpa [occur, announced, endpointOf?, handleOf?_eq h, hm] using told_nothing h
  | some m =>
    obtain ⟨hmem, rfl⟩ := member?_eq_some hm
    obtain ⟨v, hv, calm, hid, -⟩ := h.backed.members m hmem
    have events := VirtualEndpoint.command_calm options.lockWindow n v.endpoint g.engine.now
      cluster command args
    rw [← calm] at events
    have step : g.occur n (.commanded m.id cluster command args) =
        g.putEndpoint m.handle (v.command g.engine.now cluster command args).2.after
          (Bridged.journal (v.command g.engine.now cluster command args).2) := by
      simp [occur, handleOf?_eq h, hm, act, run_peerCommand hv, putEndpoint, Bridged.command]
    have announcement : g.announced n (.commanded m.id cluster command args) =
        VirtualEndpoint.announced args v.endpoint
          (v.endpoint.type.hooks.filter (·.matches? cluster command)) := by
      simp [announced, endpointOf?, endpointAt?, handleOf?_eq h, hm, hv, Bridged.endpoint,
        VirtualEndpoint.announced, hid]
    rw [step, announcement, events]
    generalize v.endpoint.type.hooks.filter (·.matches? cluster command) = hooks
    cases hooks with
    | nil => exact told_put h hv calm rfl rfl []
    | cons hook rest =>
      obtain ⟨hid', htype'⟩ := VirtualEndpoint.endpoint_runAll args (hook :: rest) v.endpoint
      exact told_put h hv (VirtualEndpoint.calm_calm _ _ _) hid' htype' _

/-! ## Whole courses of things -/

/-- One occurrence tells exactly what it is to tell. -/
theorem occur_spec (h : AtRest n options s l g) (hw : 0 < options.lockWindow) (o : Occurrence) :
    Told n options g (g.occur n o) (g.announced n o) := by
  cases o with
  | made spec => exact told_made h spec
  | pushed id cluster attr value => exact told_pushed h hw id cluster attr value
  | written who id cluster attr value => exact told_written h who id cluster attr value
  | commanded id cluster command args => exact told_commanded h id cluster command args
  | passed ms => exact told_passed h ms
  | reset => exact told_reset h

theorem occurAll_spec (h : AtRest n options s l g) (hw : 0 < options.lockWindow)
    (os : List Occurrence) : Told n options g (g.occurAll n os) (announcedAll n g os) := by
  induction os generalizing g s l with
  | nil => exact told_nothing h
  | cons o os ih =>
    obtain ⟨⟨s', l', seated⟩, journal⟩ := occur_spec h hw o
    obtain ⟨seated', journal'⟩ := ih seated
    refine ⟨seated', ?_⟩
    calc (g.occurAll n (o :: os)).engine.journal
        = (g.occur n o).engine.journal ++ entries n (announcedAll n (g.occur n o) os) := journal'
      _ = g.engine.journal ++ entries n (announcedAll n g (o :: os)) := by
        rw [journal]
        simp [announcedAll, entries]

/-- **The events of a bridge.**  Whatever happens around the endpoints of an
    initialised session, the journal grows by exactly the events that the
    occurrences are to cause, in their order. -/
theorem journal_occurAll (g : Gateway) (free : g.engine.Free) (p : Params) (options : BridgeOptions)
    (hw : 0 < options.lockWindow) (os : List Occurrence) :
    (g.openBridge p options).1 = .ok () ∧
      ((g.openBridge p options).2.occurAll g.sessions.length os).engine.journal =
        (g.openBridge p options).2.engine.journal ++
          (announcedAll g.sessions.length (g.openBridge p options).2 os).map
            fun b => .event g.sessions.length (.ofBridge b) := by
  obtain ⟨done, s, l, seated, -⟩ :=
    openBridge_seated (VirtualEndpoint.Calm options.lockWindow g.sessions.length) free p options
  exact ⟨done, (occurAll_spec seated hw os).2⟩

/-- A door and a lamp.  The caller locks the door and names a cluster that it
    lacks; someone unlocks it; a peer switches the lamp. -/
def hallCourse : List Occurrence :=
  [ .made ⟨"DoorLockDevice", "door", ⟨"Door", "", "", ""⟩, []⟩,
    .made ⟨"OnOffLightDevice", "lamp", ⟨"Lamp", "", "", ""⟩, []⟩,
    .pushed "door" "doorLock" "lockState" (.int 1),
    .pushed "door" "onOff" "onOff" (.bool true),
    .passed 5,
    .written "key" "door" "doorLock" "lockState" (.int 2),
    .commanded "lamp" "onOff" "toggle" .null ]

theorem journal_occurAll_hall :
    (initial.openBridge hall ⟨100, 32⟩).1 = .ok () ∧
      ((initial.openBridge hall ⟨100, 32⟩).2.occurAll 0 hallCourse).engine.journal =
        (initial.openBridge hall ⟨100, 32⟩).2.engine.journal ++
          (announcedAll 0 (initial.openBridge hall ⟨100, 32⟩).2 hallCourse).map
            (fun b => .event 0 (.ofBridge b)) ∧
      (announcedAll 0 (initial.openBridge hall ⟨100, 32⟩).2 hallCourse).map
        (fun b => (b.endpointId, b.attributeName)) = [("door", "lockState"), ("lamp", "onOff")] := by
  have free : initial.engine.Free := ⟨rfl, rfl, rfl⟩
  have first : initial.sessions.length = 0 := rfl
  obtain ⟨done, journal⟩ := journal_occurAll initial free hall ⟨100, 32⟩ (by decide) hallCourse
  rw [first] at journal
  exact ⟨done, journal, by decide +kernel⟩

end Gateway

end HomeGateway
