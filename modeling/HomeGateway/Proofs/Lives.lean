/-
  The lives of connections.

  Connections are set up and taken down stage by stage, while others are, while
  live ones make requests, and while all kinds of things happen around them.
  `Host.Step` lists what can happen; the books of the host are in order all the
  time.

  * `establish_eq`, `enliven_eq`, `close_eq`: what a stage comes to;
  * `step_orderly`, `reaches_orderly`: steps and runs keep the books.
-/
import HomeGateway.Proofs.Books

namespace HomeGateway

open Engine Connection

/-! ## What happens around connections -/

/-- What others than callers do to a gateway. -/
inductive Gateway.Outside (g : Gateway) : Gateway → Prop where
  /-- writes are held up -/
  | holdWrites : Outside g g.holdWrites
  /-- writes are let go -/
  | releaseWrites : Outside g g.releaseWrites
  /-- additions are held up -/
  | holdAdditions : Outside g g.holdAdditions
  /-- additions are let go -/
  | releaseAdditions : Outside g g.releaseAdditions
  /-- someone writes to a bridged endpoint -/
  | write (who : String) (own : Bool) (handle : Nat) (cluster attr : String) (value : Json) :
    Outside g (g.writeByOther who own handle cluster attr value).2
  /-- a peer gives a bridged endpoint a command -/
  | command (handle : Nat) (cluster command : String) (args : Json) :
    Outside g (g.act (peerCommand handle cluster command args)).2
  /-- a commissioner pairs a server node -/
  | paired (k : Nat) : Outside g { g with engine := g.engine.markCommissioned k }
  /-- a device can be paired from now on -/
  | device (d : Device) :
    Outside g { g with engine := { g.engine with devices := g.engine.devices ++ [d] } }
  /-- something happens on a node -/
  | node (r : NodeRef) (f : Node → Except EngineError Node.Step) : Outside g (g.act (onNode r f)).2
  /-- time passes -/
  | passed (ms : Nat) : Outside g (g.advance ms)

theorem keeps_markCommissioned (k : Nat) (e : State) : e.Keeps (e.markCommissioned k) := by
  unfold State.markCommissioned
  cases e.servers[k]? with
  | none => exact .refl e
  | some sv =>
    have windows := keeps_changeServer k e (f := fun sv => { sv with windowOpen := false })
      fun _ => rfl
    exact { windows with
      serverStores := map_modify_of e.serverStores sv.store fun _ => rfl }

theorem Gateway.Outside.keeps {g g' : Gateway} (outside : g.Outside g')
    (hf : g.engine.faults = []) : g.Keeps g' := by
  cases outside with
  | holdWrites => exact ⟨rfl, { State.Keeps.refl g.engine with }⟩
  | releaseWrites => exact keeps_releaseWrites hf
  | holdAdditions => exact ⟨rfl, { State.Keeps.refl g.engine with }⟩
  | releaseAdditions => exact keeps_releaseAdditions hf
  | write who own handle cluster attr value =>
    exact keeps_writeByOther hf who own handle cluster attr value
  | command handle cluster command args => exact keeps_act (steady_peerCommand _ _ _ _) hf
  | paired k => exact ⟨rfl, keeps_markCommissioned k g.engine⟩
  | device d => exact ⟨rfl, { State.Keeps.refl g.engine with }⟩
  | node r f => exact keeps_act (steady_onNode r f) hf
  | passed ms => exact ⟨rfl, { State.Keeps.refl g.engine with }⟩

namespace Host

/-- Only what is said to connections changed. -/
structure Talked (h h' : Host) : Prop where
  /-- the configuration -/
  config : h'.config = h.config
  /-- the gateway -/
  gateway : h'.gateway = h.gateway
  /-- the slots -/
  limiter : h'.limiter = h.limiter
  /-- the identities -/
  identities : h'.identities = h.identities
  /-- the connections that are being set up or taken down -/
  attempts : h'.attempts = h.attempts
  /-- the live connections -/
  links : h'.links.map (fun l => (l.number, l.session)) =
    h.links.map fun l => (l.number, l.session)
  /-- the number of connections -/
  count : h'.count = h.count
  /-- whether the host shuts down -/
  stopping : h'.stopping = h.stopping

/-- A connection whose requests are being worked on. -/
def Working (n : Nat) (h : Host) : Prop :=
  (∃ l ∈ h.links, l.session = n) ∨
    ∃ a ∈ h.attempts, ∃ farewell, a.stage = .leaving n farewell

/-- What can happen to a host. -/
inductive Step (h : Host) : Host → Prop where
  /-- a new connection asks for a slot -/
  | arrive (query : QueryText.Parameters) : Step h (h.arrive query).2
  /-- a connection comes to its next stage -/
  | proceed (c : Nat) : Step h (h.proceed c)
  /-- a live connection is over -/
  | depart (l : Link) (farewell : Option Outcome) (live : l ∈ h.links) :
    Step h (h.depart l farewell)
  /-- the host shuts down -/
  | signal : Step h h.signal
  /-- a caller makes a request -/
  | request (n : Nat) (r : Request) (working : h.Working n) : Step h (h.within (·.handle n r)).2
  /-- the first half of a reset -/
  | close (n : Nat) (s : Bridge.Session) (working : h.Working n)
    (hn : h.gateway.sessions[n]? = some (.bridge s)) :
    Step h (h.within (·.inBridge n s Bridge.close)).2
  /-- the second half of a reset -/
  | init (n : Nat) (s : Bridge.Session) (working : h.Working n)
    (hn : h.gateway.sessions[n]? = some (.bridge s)) :
    Step h (h.within (·.inBridge n s Bridge.init)).2
  /-- others than callers do something -/
  | outside {g : Gateway} (outside : h.gateway.Outside g) : Step h (h.within fun _ => ((), g)).2
  /-- something is said to connections -/
  | talk {h' : Host} (talked : h.Talked h') : Step h h'

/-- What can happen one after the other. -/
inductive Reaches (h : Host) : Host → Prop where
  /-- nothing -/
  | refl : Reaches h h
  /-- one more thing -/
  | tail {h₁ h₂ : Host} (before : Reaches h h₁) (step : Step h₁ h₂) : Reaches h h₂

/-! ## The books -/

/-- The connections that hold a slot. -/
def entries (h : Host) : List Attempt :=
  h.attempts ++ h.links.map fun l => ⟨l.number, .opened l.session⟩

/-- The books are in order, and nothing is left to be told. -/
structure Orderly (max : Nat) (h : Host) : Prop where
  /-- the books -/
  balanced : Balanced max h.count h.limiter h.identities h.gateway h.entries
  /-- the journal is empty -/
  quiet : h.gateway.engine.journal = []

variable {h h' h'' : Host} {max c n : Nat} {stage : Stage}

namespace Talked

theorem refl (h : Host) : h.Talked h :=
  ⟨rfl, rfl, rfl, rfl, rfl, rfl, rfl, rfl⟩

theorem trans (t : h.Talked h') (t' : h'.Talked h'') : h.Talked h'' :=
  ⟨t'.config.trans t.config, t'.gateway.trans t.gateway, t'.limiter.trans t.limiter,
    t'.identities.trans t.identities, t'.attempts.trans t.attempts, t'.links.trans t.links,
    t'.count.trans t.count, t'.stopping.trans t.stopping⟩

theorem entries (t : h.Talked h') : h'.entries = h.entries := by
  have links := congrArg (List.map fun p : Nat × Nat => Attempt.mk p.1 (.opened p.2)) t.links
  rw [List.map_map, List.map_map] at links
  unfold Host.entries
  rw [t.attempts]
  exact congrArg (h.attempts ++ ·) links

theorem orderly (t : h.Talked h') (o : h.Orderly max) : h'.Orderly max where
  balanced := by
    rw [t.count, t.limiter, t.identities, t.gateway, t.entries]
    exact o.balanced
  quiet := by
    rw [t.gateway]
    exact o.quiet

/-- Links change without becoming others. -/
theorem ofMap {f : Link → Link}
    (same : ∀ l ∈ h.links, ((f l).number, (f l).session) = (l.number, l.session)) :
    h.Talked { h with links := h.links.map f } :=
  { Talked.refl h with
    links := by
      show (h.links.map f).map _ = _
      rw [List.map_map]
      exact List.map_congr_left same }

end Talked

theorem talked_reveal (c : Nat) (o : Outcome) (h : Host) : h.Talked (h.reveal c o) :=
  { Talked.refl h with }

theorem talked_changeSession (n : Nat) (h : Host) {f : Link → Link}
    (same : ∀ l, ((f l).number, (f l).session) = (l.number, l.session)) :
    h.Talked (h.changeSession n f) := by
  refine .ofMap fun l _ => ?_
  show ((if l.session = n then f l else l).number, (if l.session = n then f l else l).session) = _
  split
  · exact same l
  · rfl

theorem talked_forward (h : Host) (entry : Entry) : h.Talked (h.forward entry) := by
  cases entry with
  | event sink e => exact talked_changeSession sink h fun _ => rfl
  | answered session r =>
    refine talked_changeSession session h fun l => ?_
    unfold Link.complete
    split <;> rfl
  | notice | news | written => exact { Talked.refl h with }

/-- The journal is handed on. -/
theorem talked_flush (h : Host) :
    Talked { h with gateway := h.gateway.takeJournal.2 } h.flush := by
  have handed : ∀ (entries : List Entry) (h : Host), h.Talked (entries.foldl forward h) := by
    intro entries
    induction entries with
    | nil => exact Talked.refl
    | cons entry entries ih => exact fun h => (talked_forward h entry).trans (ih _)
  exact handed _ _

theorem flush_of_quiet (quiet : h.gateway.engine.journal = []) : h.flush = h := by
  have taken : h.gateway.takeJournal = ([], h.gateway) := by
    refine Prod.ext quiet ?_
    show { h.gateway with engine := { h.gateway.engine with journal := [] } } = h.gateway
    rw [← quiet]
  unfold flush
  rw [taken]
  rfl

/-! ## One entry -/

theorem filter_apart {α : Type} {f : α → Nat} {front back : List α} {x : α}
    (apart : ((front ++ x :: back).map f).Nodup) :
    (front ++ x :: back).filter (f · ≠ f x) = front ++ back := by
  rw [List.map_append, List.map_cons, List.nodup_middle, List.nodup_cons, ← List.map_append] at apart
  have others : ∀ y ∈ front ++ back, f y ≠ f x := fun y hy same =>
    apart.1 (List.mem_map.2 ⟨y, hy, same⟩)
  rw [List.filter_append, List.filter_cons_of_neg (by simp), ← List.filter_append,
    List.filter_eq_self]
  exact fun y hy => decide_eq_true (others y hy)

theorem map_apart {α : Type} {f : α → Nat} {front back : List α} {x y : α}
    (apart : ((front ++ x :: back).map f).Nodup) :
    (front ++ x :: back).map (fun z => if f z = f x then y else z) = front ++ y :: back := by
  rw [List.map_append, List.map_cons, List.nodup_middle, List.nodup_cons, ← List.map_append] at apart
  have others : ∀ z ∈ front ++ back, f z ≠ f x := fun z hz same =>
    apart.1 (List.mem_map.2 ⟨z, hz, same⟩)
  have kept : ∀ zs ⊆ front ++ back, zs.map (fun z => if f z = f x then y else z) = zs := by
    intro zs hzs
    exact (List.map_congr_left fun z hz => if_neg (others z (hzs hz))).trans (List.map_id' zs)
  rw [List.map_append, List.map_cons, if_pos rfl, kept front (List.subset_append_left _ _),
    kept back (List.subset_append_right _ _)]

theorem find?_filter_other {α : Type} {f : α → Nat} {c c' : Nat} (other : c' ≠ c) (xs : List α) :
    (xs.filter (f · ≠ c)).find? (f · = c') = xs.find? (f · = c') := by
  rw [List.find?_filter]
  congr 1
  ext x
  by_cases same : f x = c'
  · simp [same, other]
  · simp [same]

theorem find?_concat_other {α : Type} {f : α → Nat} {c' : Nat} {x : α} (other : c' ≠ f x)
    (xs : List α) : (xs ++ [x]).find? (f · = c') = xs.find? (f · = c') := by
  rw [List.find?_append, List.find?_cons_of_neg (by simp [Ne.symm other])]
  exact Option.or_none

/-- The entry of a connection that is being set up or taken down. -/
theorem stage?_split (hs : h.stage? c = some stage)
    (apart : (h.entries.map (·.number)).Nodup) :
    ∃ rest, h.entries.Perm (⟨c, stage⟩ :: rest) ∧
      (∀ stage', (h.reach c stage').entries.Perm (⟨c, stage'⟩ :: rest)) ∧
      (h.pass c).entries.Perm rest := by
  obtain ⟨a, found, rfl⟩ := Option.map_eq_some_iff.1 hs
  obtain ⟨number, front, back, split, -⟩ := List.find?_eq_some_iff_append.1 found
  obtain rfl : a.number = c := of_decide_eq_true number
  have own : ((front ++ a :: back).map (·.number)).Nodup := by
    rw [← split]
    unfold Host.entries at apart
    rw [List.map_append] at apart
    exact (List.nodup_append.1 apart).1
  refine ⟨front ++ (back ++ h.links.map fun l => ⟨l.number, .opened l.session⟩), ?_, ?_, ?_⟩
  · unfold Host.entries
    rw [split, List.append_assoc, List.cons_append]
    exact List.perm_middle
  · intro stage'
    show (h.attempts.map _ ++ _).Perm _
    rw [split, map_apart own, List.append_assoc, List.cons_append]
    exact List.perm_middle
  · show (h.attempts.filter _ ++ _).Perm _
    rw [split, filter_apart own, List.append_assoc]
    exact .refl _

/-! ## Moves of the host -/

theorem Orderly.split (o : h.Orderly max) (hs : h.stage? c = some stage) :
    ∃ rest, Balanced max h.count h.limiter h.identities h.gateway
        (⟨c, stage⟩ :: rest) ∧
      (∀ stage', (h.reach c stage').entries.Perm (⟨c, stage'⟩ :: rest)) ∧
      (h.pass c).entries.Perm rest := by
  obtain ⟨rest, whole, reach, pass⟩ := stage?_split hs o.balanced.numbers
  exact ⟨rest, o.balanced.perm whole.symm, reach, pass⟩

theorem arrive_orderly (o : h.Orderly max) (query : QueryText.Parameters) :
    (h.arrive query).2.Orderly max := by
  unfold arrive
  dsimp only
  cases slot : h.limiter.acquire? with
  | none =>
    refine (talked_reveal _ _ _).orderly ⟨?_, o.quiet⟩
    exact { o.balanced with
      known := fun a ha => Nat.lt_succ_of_lt (o.balanced.known a ha) }
  | some limiter =>
    refine ⟨(o.balanced.join slot query).perm ?_, o.quiet⟩
    show ((h.attempts ++ [_]) ++ _).Perm (_ :: (h.attempts ++ _))
    rw [List.append_assoc]
    exact List.perm_middle

theorem present_orderly (o : h.Orderly max) {query : QueryText.Parameters}
    (hs : h.stage? c = some (.admitted query)) : (h.present c query).Orderly max := by
  obtain ⟨rest, balanced, reach, -⟩ := o.split hs
  unfold present
  cases SessionParams.ofQuery query with
  | error f =>
    refine ⟨Balanced.perm ?_ (reach .nameless), o.quiet⟩
    exact balanced.stays rfl rfl rfl
  | ok p =>
    refine ⟨Balanced.perm ?_ (reach (.presented p)), o.quiet⟩
    exact balanced.stays rfl rfl rfl

theorem identify_orderly (o : h.Orderly max) {p : SessionParams}
    (hs : h.stage? c = some (.presented p)) : (h.identify c p).Orderly max := by
  obtain ⟨rest, balanced, reach, -⟩ := o.split hs
  unfold identify
  cases reserved : h.identities.reserve p.identity c with
  | error f =>
    refine ⟨Balanced.perm ?_ (reach .nameless), o.quiet⟩
    exact balanced.stays rfl rfl rfl
  | ok identities => exact ⟨(balanced.reserve reserved).perm (reach (.identified p)), o.quiet⟩

/-- The session of a connection can always be initialised. -/
theorem establish_eq (o : h.Orderly max) (c : Nat) (p : SessionParams) :
    ∃ s e, s.identity = p.identity ∧ h.gateway.engine.Spares p.identity e ∧
      ({ h.gateway with engine := e, sessions := h.gateway.sessions ++ [s] } : Gateway).Tidy ∧
      h.establish c p =
        { h with
          gateway := { h.gateway with engine := e, sessions := h.gateway.sessions ++ [s] } }.reach
            c (.opened h.gateway.sessions.length) := by
  have vacant := Gateway.station?_newSession p h.config.bridge h.gateway.sessions.length
  have joined := o.balanced.tidy.joins vacant
  obtain ⟨s, e, run, identity, spares, tidy⟩ :=
    Gateway.initSession_spec joined List.getElem?_concat_length vacant
  rw [Gateway.identity_newSession] at identity spares
  have sessions : (h.gateway.sessions ++ [Gateway.newSession p h.config.bridge
      h.gateway.sessions.length]).set h.gateway.sessions.length s = h.gateway.sessions ++ [s] := by
    rw [List.set_append_right _ _ (Nat.le_refl _), Nat.sub_self]
    rfl
  refine ⟨s, e, identity, spares, ?_, ?_⟩
  · unfold Gateway.put at tidy
    rw [sessions] at tidy
    exact tidy
  · unfold establish
    rw [Gateway.openSession_eq]
    dsimp only
    rw [run]
    unfold Gateway.put
    dsimp only
    rw [sessions]

theorem establish_orderly (o : h.Orderly max) {p : SessionParams}
    (hs : h.stage? c = some (.identified p)) : (h.establish c p).Orderly max := by
  obtain ⟨rest, balanced, reach, -⟩ := o.split hs
  obtain ⟨s, e, identity, spares, tidy, eq⟩ := establish_eq o c p
  rw [eq]
  exact ⟨(balanced.opens rfl identity tidy).perm (reach _), spares.journal.trans o.quiet⟩

theorem enliven_eq (o : h.Orderly max) (c n : Nat) (open' : h.stopping = false) :
    ∃ l : Link, l.number = c ∧ l.session = n ∧
      h.enliven c n = { h.pass c with links := h.links ++ [l] } := by
  refine ⟨(Link.new c n h.config.queueCapacity).hear (.ready readyMessage), rfl, rfl, ?_⟩
  unfold enliven
  rw [if_neg (by rw [open']; exact Bool.false_ne_true)]
  exact flush_of_quiet o.quiet

theorem enliven_orderly (o : h.Orderly max) (hs : h.stage? c = some (.opened n)) :
    (h.enliven c n).Orderly max := by
  obtain ⟨rest, balanced, reach, pass⟩ := o.split hs
  cases stopping : h.stopping with
  | true =>
    unfold enliven
    rw [if_pos stopping]
    refine ⟨Balanced.perm ?_ (reach _), o.quiet⟩
    exact balanced.stays rfl rfl rfl
  | false =>
    obtain ⟨l, rfl, rfl, eq⟩ := enliven_eq o c n stopping
    rw [eq]
    refine ⟨balanced.perm ?_, o.quiet⟩
    show ((h.pass l.number).attempts ++ (h.links ++ [l]).map _).Perm _
    rw [List.map_append, ← List.append_assoc]
    exact List.perm_append_comm.trans (pass.cons _)

/-- What a session leaves behind. -/
theorem close_eq (o : h.Orderly max) (c : Nat) {s : Session} (hn : h.gateway.sessions[n]? = some s)
    (farewell : Option Outcome) :
    ∃ s' e seen, s'.identity = s.identity ∧ s'.station? = none ∧
      h.gateway.engine.Spares s.identity e ∧ ((h.gateway.abandon n).put n s' e).Tidy ∧
      h.close c n farewell =
        { h with gateway := (h.gateway.abandon n).put n s' e, seen := seen }.reach c (.shut n) := by
  have given : (h.gateway.abandon n).Tidy := o.balanced.tidy.of_eq rfl rfl
  obtain ⟨s', e, eq, identity, vacant, spares, tidy⟩ := Gateway.shutdownSession_spec given hn
  unfold close
  dsimp only
  rw [eq, flush_of_quiet (show _ = [] from spares.journal.trans o.quiet)]
  cases farewell with
  | none => exact ⟨s', e, h.seen, identity, vacant, spares, tidy, rfl⟩
  | some outcome =>
    exact ⟨s', e, h.seen ++ [(c, outcome)], identity, vacant, spares, tidy, rfl⟩

theorem close_orderly (o : h.Orderly max) {farewell : Option Outcome}
    (hs : h.stage? c = some (.leaving n farewell)) : (h.close c n farewell).Orderly max := by
  obtain ⟨rest, balanced, reach, -⟩ := o.split hs
  have there := balanced.there _ List.mem_cons_self n rfl
  have hn := List.getElem?_eq_getElem there
  obtain ⟨s', e, seen, identity, vacant, spares, tidy, eq⟩ := close_eq o c hn farewell
  rw [eq]
  refine ⟨Balanced.perm ?_ (reach _), spares.journal.trans o.quiet⟩
  have hn' : (h.gateway.abandon n).sessions[n]? = some h.gateway.sessions[n] := hn
  have works : (h.gateway.abandon n).Works n ((h.gateway.abandon n).put n s' e) :=
    Gateway.works_put hn' identity
  refine balanced.shuts ⟨works.length, works.identity, works.others⟩ ?_ tidy
  intro t (ht : ((h.gateway.abandon n).put n s' e).sessions[n]? = some t)
  rw [Gateway.sessions_put hn', if_pos rfl] at ht
  cases ht
  exact vacant

theorem proceed_orderly (o : h.Orderly max) (c : Nat) : (h.proceed c).Orderly max := by
  unfold proceed
  cases hs : h.stage? c with
  | none => exact o
  | some stage =>
    obtain ⟨rest, balanced, reach, pass⟩ := o.split hs
    cases stage with
    | admitted query => exact present_orderly o hs
    | presented p => exact identify_orderly o hs
    | identified p => exact establish_orderly o hs
    | opened n => exact enliven_orderly o hs
    | leaving n farewell => exact close_orderly o hs
    | shut n => exact ⟨balanced.frees.perm (reach .nameless), o.quiet⟩
    | nameless => exact ⟨balanced.leave.perm pass, o.quiet⟩

theorem depart_orderly (o : h.Orderly max) {l : Link} (live : l ∈ h.links)
    (farewell : Option Outcome) : (h.depart l farewell).Orderly max := by
  obtain ⟨front, back, split⟩ := List.append_of_mem live
  have entries : h.entries.Perm (⟨l.number, .opened l.session⟩ ::
      (h.attempts ++ (front ++ back).map fun l => ⟨l.number, .opened l.session⟩)) := by
    unfold Host.entries
    rw [split, List.map_append, List.map_cons, ← List.append_assoc, List.map_append,
      ← List.append_assoc]
    exact List.perm_middle
  have balanced := o.balanced.perm entries.symm
  have own : ((front ++ l :: back).map (·.number)).Nodup := by
    have numbers := o.balanced.numbers
    unfold Host.entries at numbers
    rw [List.map_append, List.map_map, split] at numbers
    exact (List.nodup_append.1 numbers).2.1
  have moved : Balanced _ _ _ _ _ (⟨l.number, .leaving l.session farewell⟩ :: _) :=
    balanced.stays rfl rfl rfl
  refine ⟨moved.perm ?_, o.quiet⟩
  show ((h.attempts ++ [_]) ++ (h.links.filter _).map _).Perm _
  rw [split, filter_apart own, List.append_assoc]
  exact List.perm_middle

/-- A session at work is that of a connection that may have a station. -/
theorem Working.entry (working : h.Working n) : ∃ a ∈ h.entries, a.stage.serving? = some n := by
  rcases working with ⟨l, live, rfl⟩ | ⟨a, ha, farewell, stage⟩
  · exact ⟨_, List.mem_append_right _ (List.mem_map.2 ⟨l, live, rfl⟩), rfl⟩
  · refine ⟨a, List.mem_append_left _ ha, ?_⟩
    rw [stage]
    rfl

theorem within_orderly {α : Type} {f : Gateway → α × Gateway}
    (balanced : Balanced max h.count h.limiter h.identities (f h.gateway).2
      h.entries) : (h.within f).2.Orderly max := by
  have taken : (f h.gateway).2.Keeps (f h.gateway).2.takeJournal.2 :=
    ⟨rfl, { State.Keeps.refl (f h.gateway).2.engine with }⟩
  exact (talked_flush { h with gateway := (f h.gateway).2 }).orderly ⟨balanced.keeps taken, rfl⟩

/-- The books are kept, whatever happens. -/
theorem step_orderly (o : h.Orderly max) (step : Step h h') : h'.Orderly max := by
  cases step with
  | arrive query => exact arrive_orderly o query
  | proceed c => exact proceed_orderly o c
  | depart l farewell live => exact depart_orderly o live farewell
  | signal => exact ⟨o.balanced, o.quiet⟩
  | request n r working =>
    exact within_orderly
      (o.balanced.serve (Gateway.served_handle o.balanced.tidy n r) working.entry)
  | close n s working hn =>
    refine within_orderly (o.balanced.serve ?_ working.entry)
    rw [Gateway.inBridge_close o.balanced.tidy hn]
    exact ⟨Gateway.tidy_closed o.balanced.tidy hn, Gateway.works_put hn rfl⟩
  | init n s working hn =>
    refine within_orderly (o.balanced.serve ?_ working.entry)
    rw [Gateway.inBridge_init o.balanced.tidy hn]
    exact Gateway.served_renewed o.balanced.tidy hn
  | outside outside =>
    exact within_orderly (o.balanced.keeps (outside.keeps o.balanced.tidy.faults))
  | talk talked => exact talked.orderly o

theorem tidy_initial : Gateway.initial.Tidy where
  faults := rfl
  order := State.inOrder_initial
  real := by
    intro n k s hn
    simp [Gateway.initial] at hn
  owned := by
    intro role k name opened
    cases role
    all_goals simp [State.Open, State.station?, Gateway.initial, State.initial] at opened

theorem initial_orderly (config : ServerConfig) :
    (initial config).Orderly config.maxConnections where
  balanced := {
    max := rfl
    live := rfl
    room := Nat.zero_le _
    numbers := List.nodup_nil
    known := fun _ ha => nomatch ha
    there := fun _ ha => nomatch ha
    apart := fun _ ha => nomatch ha
    distinct := List.nodup_nil
    held := by
      intro i c
      simp [initial, Identities.empty, entries]
    serving := by
      intro n k s hn
      simp [initial, Gateway.initial] at hn
    tidy := tidy_initial }
  quiet := rfl

theorem reaches_orderly (o : h.Orderly max) (run : Reaches h h') : h'.Orderly max := by
  induction run with
  | refl => exact o
  | tail before step ih => exact step_orderly ih step

end Host

end HomeGateway
