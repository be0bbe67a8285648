/-
  Connections are nothing to one another.

  A stage of one connection, whether it is set up, refused or taken down, leaves
  the identities, the sessions and the stations of all others as they are, and
  what is waiting for them.  What it had itself is gone once it is over.

  * `undisturbed_arrive`, `undisturbed_proceed`: what the stages leave alone;
  * `undisturbed_connect`, `undisturbed_finish`: what whole lives leave alone;
  * `kept_of_reaches`: slots, identities and stations at any time.
-/
import HomeGateway.Proofs.Lives

namespace HomeGateway

open Engine Connection

/-- What belongs to an identity is as it was. -/
structure Engine.State.Leaves (i : Identity) (e e' : State) : Prop where
  /-- the bridged endpoints -/
  endpoints : e'.endpoints = e.endpoints
  /-- the devices that can be paired -/
  devices : e'.devices = e.devices
  /-- what was told -/
  journal : e'.journal = e.journal
  /-- what is held up -/
  held : e'.writesHeld = e.writesHeld ∧ e'.addsHeld = e.addsHeld
  /-- its server nodes, their stores and their aggregators -/
  servers : ∀ (k : Nat) (sv : Server), e.servers[k]? = some sv →
    i = ⟨.bridge, sv.config.id⟩ →
    e'.servers[k]? = some sv ∧ e'.serverStores[sv.store]? = e.serverStores[sv.store]? ∧
      ∀ a, sv.aggregator = some a → e'.aggregators[a]? = e.aggregators[a]?
  /-- its controllers and their stores -/
  controllers : ∀ (k : Nat) (c : Controller), e.controllers[k]? = some c →
    i = ⟨.client, c.id⟩ →
    e'.controllers[k]? = some c ∧ e'.controllerStores[c.store]? = e.controllerStores[c.store]?

theorem Engine.State.Leaves.refl (i : Identity) (e : State) : e.Leaves i e :=
  ⟨rfl, rfl, rfl, ⟨rfl, rfl⟩, fun _ _ h _ => ⟨h, rfl, fun _ _ => rfl⟩, fun _ _ h _ => ⟨h, rfl⟩⟩

theorem Engine.State.Leaves.trans {i : Identity} {e e' e'' : State} (h : e.Leaves i e')
    (h' : e'.Leaves i e'') : e.Leaves i e'' where
  endpoints := h'.endpoints.trans h.endpoints
  devices := h'.devices.trans h.devices
  journal := h'.journal.trans h.journal
  held := ⟨h'.held.1.trans h.held.1, h'.held.2.trans h.held.2⟩
  servers := by
    intro k sv hk own
    obtain ⟨there, store, members⟩ := h.servers k sv hk own
    obtain ⟨there', store', members'⟩ := h'.servers k sv there own
    exact ⟨there', store'.trans store, fun a ha => (members' a ha).trans (members a ha)⟩
  controllers := by
    intro k c hk own
    obtain ⟨there, store⟩ := h.controllers k c hk own
    obtain ⟨there', store'⟩ := h'.controllers k c there own
    exact ⟨there', store'.trans store⟩

theorem Engine.State.Spares.leaves {i j : Identity} {e e' : State} (h : e.Spares j e')
    (other : i ≠ j) : e.Leaves i e' where
  endpoints := h.endpoints
  devices := h.devices
  journal := h.journal
  held := h.held
  servers := by
    rintro k sv hk rfl
    exact h.servers k sv hk other
  controllers := by
    rintro k c hk rfl
    exact h.controllers k c hk other

namespace Gateway

/-- The writes of a session that wait. -/
def writesOf (n : Nat) (g : Gateway) : List WaitingWrite :=
  g.writes.filter fun w =>
    match w.writer with
    | .request session _ => session = n
    | .other _ => false

/-- The additions of a session that wait. -/
def additionsOf (n : Nat) (g : Gateway) : List WaitingAddition :=
  g.additions.filter (·.session = n)

variable {g : Gateway} {m n : Nat}

theorem writesOf_abandon (other : m ≠ n) : (g.abandon n).writesOf m = g.writesOf m := by
  unfold abandon writesOf
  rw [List.filter_filter]
  refine List.filter_congr fun w _ => ?_
  cases w.writer with
  | request session r =>
    by_cases same : session = m
    · simp [same, other]
    · simp [same]
  | other who => rfl

theorem additionsOf_abandon (other : m ≠ n) : (g.abandon n).additionsOf m = g.additionsOf m := by
  unfold abandon additionsOf
  rw [List.filter_filter]
  refine List.filter_congr fun a _ => ?_
  by_cases same : a.session = m
  · simp [same, other]
  · simp [same]

end Gateway

namespace Host

/-- Nothing changed for other connections. -/
structure Undisturbed (c : Nat) (h h' : Host) : Prop where
  /-- live ones -/
  links : ∀ c', c' ≠ c → h'.link? c' = h.link? c'
  /-- those that are being set up or taken down -/
  stages : ∀ c', c' ≠ c → h'.stage? c' = h.stage? c'
  /-- their identities -/
  identities : ∀ i c', c' ≠ c → ((i, c') ∈ h'.identities.held ↔ (i, c') ∈ h.identities.held)
  /-- their sessions and what they wait for -/
  sessions : ∀ a ∈ h.entries, a.number ≠ c → ∀ n, a.stage.session? = some n →
    h'.gateway.sessions[n]? = h.gateway.sessions[n]? ∧
      h'.gateway.writesOf n = h.gateway.writesOf n ∧
      h'.gateway.additionsOf n = h.gateway.additionsOf n
  /-- what belongs to them in the engine -/
  engine : ∀ a ∈ h.entries, a.number ≠ c → ∀ i, a.stage.identity? h.gateway = some i →
    h.gateway.engine.Leaves i h'.gateway.engine

variable {h h' h'' : Host} {max c n : Nat} {stage : Stage}

/-- The gateway does not change. -/
theorem Undisturbed.of_gateway (gateway : h'.gateway = h.gateway)
    (links : ∀ c', c' ≠ c → h'.link? c' = h.link? c')
    (stages : ∀ c', c' ≠ c → h'.stage? c' = h.stage? c')
    (identities : ∀ i c', c' ≠ c →
      ((i, c') ∈ h'.identities.held ↔ (i, c') ∈ h.identities.held)) : Undisturbed c h h' where
  links := links
  stages := stages
  identities := identities
  sessions := by
    intro a _ _ n _
    rw [gateway]
    exact ⟨rfl, rfl, rfl⟩
  engine := by
    intro a _ _ i _
    rw [gateway]
    exact .refl i _

theorem stage?_reach {c' : Nat} (other : c' ≠ c) (stage : Stage) (h : Host) :
    (h.reach c stage).stage? c' = h.stage? c' := by
  unfold stage? reach
  dsimp only
  congr 1
  induction h.attempts with
  | nil => rfl
  | cons a as ih =>
    rw [List.map_cons, List.find?_cons, List.find?_cons]
    by_cases own : a.number = c
    · simp [own, Ne.symm other, ih]
    · simp [own, ih]

theorem stage?_pass {c' : Nat} (other : c' ≠ c) (h : Host) :
    (h.pass c).stage? c' = h.stage? c' :=
  congrArg (Option.map Attempt.stage) (find?_filter_other other h.attempts)

theorem stage?_concat {c' : Nat} {a : Attempt} (other : c' ≠ a.number) (h : Host) :
    ({ h with attempts := h.attempts ++ [a] } : Host).stage? c' = h.stage? c' :=
  congrArg (Option.map Attempt.stage) (find?_concat_other other h.attempts)

theorem mem_entries_of_stage? (hs : h.stage? c = some stage) : ⟨c, stage⟩ ∈ h.entries := by
  obtain ⟨a, found, rfl⟩ := Option.map_eq_some_iff.1 hs
  have number : a.number = c := by simpa using List.find?_some found
  subst number
  exact List.mem_append_left _ (List.mem_of_find?_eq_some found)

/-- The numbers of connections that are being set up or taken down, and of live ones. -/
theorem Orderly.apart (o : h.Orderly max) :
    (h.attempts.map (·.number)).Nodup ∧ (h.links.map (·.number)).Nodup := by
  have numbers := o.balanced.numbers
  unfold entries at numbers
  rw [List.map_append, List.map_map] at numbers
  obtain ⟨attempts, links, -⟩ := List.nodup_append.1 numbers
  exact ⟨attempts, links⟩

theorem link?_of_mem (o : h.Orderly max) {l : Link} (live : l ∈ h.links) :
    h.link? l.number = some l :=
  find?_apart o.apart.2 live

/-- Entries of other connections stay. -/
theorem Undisturbed.entry (u : Undisturbed c h h') (o : h.Orderly max) {a : Attempt}
    (ha : a ∈ h.entries) (other : a.number ≠ c) : a ∈ h'.entries := by
  rcases List.mem_append.1 ha with attempt | live
  · have hs : h.stage? a.number = some a.stage := by
      unfold stage?
      rw [find?_apart o.apart.1 attempt]
      rfl
    exact mem_entries_of_stage? ((u.stages a.number other).trans hs)
  · obtain ⟨l, hl, rfl⟩ := List.mem_map.1 live
    have still := (u.links l.number other).trans (link?_of_mem o hl)
    exact List.mem_append_right _ (List.mem_map.2 ⟨l, List.mem_of_find?_eq_some still, rfl⟩)

theorem Undisturbed.trans (u : Undisturbed c h h') (u' : Undisturbed c h' h'')
    (o : h.Orderly max) : Undisturbed c h h'' where
  links := fun c' other => (u'.links c' other).trans (u.links c' other)
  stages := fun c' other => (u'.stages c' other).trans (u.stages c' other)
  identities := fun i c' other => (u'.identities i c' other).trans (u.identities i c' other)
  sessions := by
    intro a ha other n hn
    obtain ⟨session, writes, additions⟩ := u.sessions a ha other n hn
    obtain ⟨session', writes', additions'⟩ := u'.sessions a (u.entry o ha other) other n hn
    exact ⟨session'.trans session, writes'.trans writes, additions'.trans additions⟩
  engine := by
    intro a ha other i hi
    refine (u.engine a ha other i hi).trans (u'.engine a (u.entry o ha other) other i ?_)
    cases hn : a.stage.session? with
    | none => rwa [Stage.identity?_of_none hn]
    | some n =>
      rw [Stage.identity?_of_session? hn] at hi ⊢
      rw [(u.sessions a ha other n hn).1]
      exact hi

/-- Another connection holds another identity. -/
theorem identity_apart (o : h.Orderly max) (hs : h.stage? c = some stage) {i j : Identity}
    (own : stage.identity? h.gateway = some j) {a : Attempt} (ha : a ∈ h.entries)
    (other : a.number ≠ c) (hi : a.stage.identity? h.gateway = some i) : i ≠ j := by
  rintro rfl
  have held := (o.balanced.held i a.number).2 ⟨a, ha, rfl, hi⟩
  have held' := (o.balanced.held i c).2 ⟨_, mem_entries_of_stage? hs, rfl, own⟩
  exact other (congrArg Prod.snd (List.inj_on_of_nodup_map o.balanced.distinct held held' rfl))

theorem undisturbed_reach (stage : Stage) (h : Host) : Undisturbed c h (h.reach c stage) :=
  .of_gateway rfl (fun _ _ => rfl) (fun _ other => stage?_reach other stage h)
    fun _ _ _ => Iff.rfl

theorem undisturbed_present (c : Nat) (query : QueryText.Parameters) (h : Host) :
    Undisturbed c h (h.present c query) := by
  unfold present
  cases SessionParams.ofQuery query with
  | error f =>
    exact .of_gateway rfl (fun _ _ => rfl) (fun _ other => stage?_reach other _ _)
      fun _ _ _ => Iff.rfl
  | ok p => exact undisturbed_reach _ h

theorem undisturbed_identify (c : Nat) (p : SessionParams) (h : Host) :
    Undisturbed c h (h.identify c p) := by
  unfold identify
  cases reserved : h.identities.reserve p.identity c with
  | error f =>
    exact .of_gateway rfl (fun _ _ => rfl) (fun _ other => stage?_reach other _ _)
      fun _ _ _ => Iff.rfl
  | ok identities =>
    refine .of_gateway rfl (fun _ _ => rfl) (fun _ other => stage?_reach other _ _) ?_
    intro i c' other
    obtain ⟨-, rfl⟩ := Identities.reserve_eq_ok_iff.1 reserved
    show (i, c') ∈ _ :: _ ↔ _
    rw [List.mem_cons, Prod.mk.injEq]
    exact or_iff_right fun own => other own.2

theorem undisturbed_establish (o : h.Orderly max) {p : SessionParams}
    (hs : h.stage? c = some (.identified p)) : Undisturbed c h (h.establish c p) := by
  obtain ⟨s, e, -, spares, -, eq⟩ := establish_eq o c p
  rw [eq]
  constructor
  case links => exact fun _ _ => rfl
  case stages => exact fun _ other => stage?_reach other _ _
  case identities => exact fun _ _ _ => Iff.rfl
  case sessions =>
    intro a ha _ n hn
    refine ⟨?_, rfl, rfl⟩
    exact List.getElem?_append_left (o.balanced.there a ha n hn)
  case engine =>
    intro a ha other i hi
    exact spares.leaves (identity_apart o hs rfl ha other hi)

theorem undisturbed_enliven (o : h.Orderly max) (c n : Nat) : Undisturbed c h (h.enliven c n) := by
  cases stopping : h.stopping with
  | true =>
    unfold enliven
    rw [if_pos stopping]
    exact undisturbed_reach _ h
  | false =>
    obtain ⟨l, number, -, eq⟩ := enliven_eq o c n stopping
    rw [eq]
    refine .of_gateway rfl ?_ (fun _ other => stage?_pass other h) fun _ _ _ => Iff.rfl
    intro c' other
    rw [← number] at other
    exact find?_concat_other other h.links

theorem undisturbed_close (o : h.Orderly max) {farewell : Option Outcome}
    (hs : h.stage? c = some (.leaving n farewell)) : Undisturbed c h (h.close c n farewell) := by
  have here := mem_entries_of_stage? hs
  have there := o.balanced.there _ here n rfl
  have hn := List.getElem?_eq_getElem there
  obtain ⟨s', e, seen, -, -, spares, -, eq⟩ := close_eq o c hn farewell
  rw [eq]
  constructor
  case links => exact fun _ _ => rfl
  case stages => exact fun _ other => stage?_reach other _ _
  case identities => exact fun _ _ _ => Iff.rfl
  case sessions =>
    intro a ha other m hm
    have apart : m ≠ n := by
      rintro rfl
      exact other (o.balanced.apart a ha _ here m hm rfl)
    refine ⟨?_, Gateway.writesOf_abandon apart, Gateway.additionsOf_abandon apart⟩
    exact List.getElem?_set_ne (Ne.symm apart)
  case engine =>
    intro a ha other i hi
    have own : (Stage.leaving n farewell).identity? h.gateway =
        some h.gateway.sessions[n].identity := by
      show (h.gateway.sessions[n]?).map _ = _
      rw [hn]
      rfl
    exact spares.leaves (identity_apart o hs own ha other hi)

theorem undisturbed_proceed (o : h.Orderly max) (c : Nat) : Undisturbed c h (h.proceed c) := by
  unfold proceed
  cases hs : h.stage? c with
  | none => exact .of_gateway rfl (fun _ _ => rfl) (fun _ _ => rfl) fun _ _ _ => Iff.rfl
  | some stage =>
    cases stage with
    | admitted query => exact undisturbed_present c query h
    | presented p => exact undisturbed_identify c p h
    | identified p => exact undisturbed_establish o hs
    | opened n => exact undisturbed_enliven o c n
    | leaving n farewell => exact undisturbed_close o hs
    | shut n =>
      refine .of_gateway rfl (fun _ _ => rfl) (fun _ other => stage?_reach other _ _) ?_
      intro i c' other
      show (i, c') ∈ h.identities.held.filter _ ↔ _
      rw [List.mem_filter]
      exact and_iff_left (decide_eq_true other)
    | nameless =>
      exact .of_gateway rfl (fun _ _ => rfl) (fun _ other => stage?_pass other _)
        fun _ _ _ => Iff.rfl

theorem undisturbed_arrive (query : QueryText.Parameters) (h : Host) :
    Undisturbed h.count h (h.arrive query).2 := by
  unfold arrive
  dsimp only
  cases h.limiter.acquire? with
  | none => exact .of_gateway rfl (fun _ _ => rfl) (fun _ _ => rfl) fun _ _ _ => Iff.rfl
  | some limiter =>
    refine .of_gateway rfl (fun _ _ => rfl) ?_ fun _ _ _ => Iff.rfl
    exact fun _ other => stage?_concat other h

theorem undisturbed_depart (l : Link) (farewell : Option Outcome) (h : Host) :
    Undisturbed l.number h (h.depart l farewell) := by
  refine .of_gateway rfl ?_ ?_ fun _ _ _ => Iff.rfl
  · exact fun _ other => find?_filter_other other h.links
  · exact fun _ other => stage?_concat other h

/-- What a connection does by itself is nothing to the others. -/
theorem undisturbed_pursue (o : h.Orderly max) (c n : Nat) : Undisturbed c h (h.pursue c n) := by
  induction n generalizing h with
  | zero => exact .of_gateway rfl (fun _ _ => rfl) (fun _ _ => rfl) fun _ _ _ => Iff.rfl
  | succ n ih => exact (undisturbed_proceed o c).trans (ih (proceed_orderly o c)) o

/-- A new connection is nothing to the others, refused or not. -/
theorem undisturbed_connect (o : h.Orderly max) (query : QueryText.Parameters) :
    Undisturbed h.count h (h.connect query).2 :=
  (undisturbed_arrive query h).trans (undisturbed_pursue (arrive_orderly o query) _ _) o

/-- The end of a connection is nothing to the others. -/
theorem undisturbed_finish (o : h.Orderly max) {l : Link} (live : l ∈ h.links)
    (farewell : Option Outcome) : Undisturbed l.number h (h.finish l farewell) :=
  (undisturbed_depart l farewell h).trans
    (undisturbed_pursue (depart_orderly o live farewell) _ _) o

/-! ## At any time -/

/-- A connection has a station. -/
def Has (role : Role) (k c : Nat) (h : Host) : Prop :=
  ∃ a ∈ h.entries, a.number = c ∧ ∃ (n : Nat) (s : Session), a.stage.session? = some n ∧
    h.gateway.sessions[n]? = some s ∧ s.identity.role = role ∧ s.station? = some k

theorem Orderly.has (o : h.Orderly max) {role : Role} {k : Nat} {name : String}
    (opened : h.gateway.engine.Open role k name) : ∃ c, h.Has role k c := by
  obtain ⟨a, ha, n, s, serving, hn, hk, identity, -⟩ := o.balanced.holder opened
  refine ⟨a.number, a, ha, rfl, n, s, Stage.session?_of_serving? serving, hn, ?_, hk⟩
  rw [identity]

/-- Who has an open station holds its name. -/
theorem Orderly.holds (o : h.Orderly max) {role : Role} {k : Nat} {name : String}
    (opened : h.gateway.engine.Open role k name) (has : h.Has role k c) :
    (⟨role, name⟩, c) ∈ h.identities.held := by
  obtain ⟨a, ha, rfl, n, s, session, hn, rfl, hk⟩ := has
  obtain ⟨closed, station⟩ := o.balanced.tidy.real n k s hn hk
  obtain rfl : s.identity.name = name :=
    congrArg Prod.fst (Option.some.inj (station.symm.trans opened))
  refine (o.balanced.held _ _).2 ⟨a, ha, rfl, ?_⟩
  rw [Stage.identity?_of_session? session, hn]
  rfl

/-- Sessions that do not serve a connection any more have no station. -/
theorem Orderly.left (o : h.Orderly max) {s : Session} (hn : h.gateway.sessions[n]? = some s)
    (idle : ∀ a ∈ h.entries, a.stage.serving? ≠ some n) : s.station? = none := by
  cases hk : s.station? with
  | none => rfl
  | some k =>
    obtain ⟨a, ha, serving⟩ := o.balanced.serving n k s hn hk
    exact absurd serving (idle a ha)

/-- A connection that is not served has no station. -/
theorem Orderly.not_has (o : h.Orderly max)
    (idle : ∀ a ∈ h.entries, a.number = c → a.stage.serving? = none) (role : Role) (k : Nat) :
    ¬ h.Has role k c := by
  rintro ⟨a, ha, rfl, n, s, session, hn, -, hk⟩
  obtain ⟨b, hb, serving⟩ := o.balanced.serving n k s hn hk
  have number := o.balanced.apart b hb a ha n (Stage.session?_of_serving? serving) session
  rw [idle b hb number] at serving
  cases serving

theorem gateway_present (c : Nat) (query : QueryText.Parameters) (h : Host) :
    (h.present c query).gateway = h.gateway := by
  unfold present
  cases SessionParams.ofQuery query <;> rfl

theorem gateway_identify (c : Nat) (p : SessionParams) (h : Host) :
    (h.identify c p).gateway = h.gateway := by
  unfold identify
  cases h.identities.reserve p.identity c <;> rfl

/-- Nothing is left when all connections are gone. -/
theorem Orderly.empty (o : h.Orderly max) (gone : h.entries = []) :
    h.limiter.live = 0 ∧ h.identities.held = [] ∧
      ∀ role k name, ¬ h.gateway.engine.Open role k name := by
  refine ⟨?_, ?_, ?_⟩
  · rw [o.balanced.live, gone]
    rfl
  · rw [List.eq_nil_iff_forall_not_mem]
    rintro ⟨i, c⟩ held
    obtain ⟨a, ha, -⟩ := (o.balanced.held i c).1 held
    rw [gone] at ha
    cases ha
  · intro role k name opened
    obtain ⟨c, a, ha, -⟩ := o.has opened
    rw [gone] at ha
    cases ha

theorem gateway_arrive (query : QueryText.Parameters) (h : Host) :
    (h.arrive query).2.gateway = h.gateway := by
  unfold arrive
  dsimp only
  cases h.limiter.acquire? <;> rfl

/-- What connections hold, and what they are to one another. -/
structure Kept (max : Nat) (h : Host) : Prop where
  /-- as many slots are taken as connections hold one -/
  slots : h.limiter.live = h.entries.length ∧ h.limiter.live ≤ max
  /-- no identity is held twice -/
  distinct : (h.identities.held.map (·.1)).Nodup
  /-- identities are held from when they were reserved until the end -/
  held : ∀ i c, (i, c) ∈ h.identities.held ↔
    ∃ a ∈ h.entries, a.number = c ∧ a.stage.identity? h.gateway = some i
  /-- no name has two open stations of a role -/
  alone : ∀ role k k' name, h.gateway.engine.Open role k name →
    h.gateway.engine.Open role k' name → k = k'
  /-- open stations are had by connections -/
  had : ∀ role k name, h.gateway.engine.Open role k name → ∃ c, h.Has role k c
  /-- and by none that does not hold their name -/
  holder : ∀ role k name, h.gateway.engine.Open role k name → ∀ c, h.Has role k c →
    (⟨role, name⟩, c) ∈ h.identities.held
  /-- who is refused or over has no station -/
  without : ∀ c, (∀ a ∈ h.entries, a.number = c → a.stage.serving? = none) →
    ∀ role k, ¬ h.Has role k c
  /-- and neither has a session of theirs -/
  left : ∀ (n : Nat) (s : Session), h.gateway.sessions[n]? = some s →
    (∀ a ∈ h.entries, a.stage.serving? ≠ some n) → s.station? = none
  /-- who arrives is nothing to the others -/
  arrival : ∀ query, Undisturbed h.count h (h.arrive query).2 ∧
    (h.arrive query).2.gateway = h.gateway
  /-- who finds no free slot is not let in -/
  full : ∀ query, h.limiter.acquire? = none → (h.arrive query).2.entries = h.entries
  /-- who comes to another stage is nothing to the others -/
  stage : ∀ c, Undisturbed c h (h.proceed c)
  /-- who presents parameters or an identity gets no further unless they are good -/
  outside : ∀ c, (∃ query, h.stage? c = some (.admitted query)) ∨
    (∃ p, h.stage? c = some (.presented p)) → (h.proceed c).gateway = h.gateway
  /-- nothing is left when all are over -/
  ended : h.attempts = [] → h.links = [] → h.limiter.live = 0 ∧ h.identities.held = [] ∧
    ∀ role k name, ¬ h.gateway.engine.Open role k name

/-- What a host keeps whose books are in order. -/
theorem Orderly.kept (o : h.Orderly max) : h.Kept max := by
  constructor
  case slots =>
    refine ⟨o.balanced.live, ?_⟩
    rw [← o.balanced.max]
    exact o.balanced.room
  case distinct => exact o.balanced.distinct
  case held => exact o.balanced.held
  case alone => exact fun _ _ _ _ => o.balanced.alone
  case had => exact fun _ _ _ => o.has
  case holder => exact fun _ _ _ opened _ => o.holds opened
  case without => exact fun _ => o.not_has
  case left => exact fun _ _ => o.left
  case arrival => exact fun query => ⟨undisturbed_arrive query h, gateway_arrive query h⟩
  case full =>
    intro query full
    unfold arrive
    dsimp only
    rw [full]
    rfl
  case stage => exact undisturbed_proceed o
  case outside =>
    unfold proceed
    rintro c (⟨query, hs⟩ | ⟨p, hs⟩)
    · rw [hs]
      exact gateway_present c query h
    · rw [hs]
      exact gateway_identify c p h
  case ended =>
    intro attempts links
    refine o.empty ?_
    unfold entries
    rw [attempts, links]
    rfl

/-- Whatever happened to a host. -/
theorem kept_of_reaches {config : ServerConfig} (run : Reaches (initial config) h) :
    h.Kept config.maxConnections :=
  (reaches_orderly (initial_orderly config) run).kept

/-- The parameters of a client. -/
def hallQuery : QueryText.Parameters :=
  [("service", "client"), ("controllerName", "hall"), ("storagePath", "hall"), ("nodeId", "7")]

/-- A host with room for two connections. -/
def smallConfig : ServerConfig :=
  ⟨"127.0.0.1", 5580, 2, 65536, 16, 1000, ⟨100, 32⟩⟩

/-- Two connections want one identity at the same time. -/
def rivals : Host :=
  (((((((initial smallConfig).arrive hallQuery).2.arrive hallQuery).2.proceed 1).proceed 0).proceed
    0).proceed 1).proceed 0

theorem kept_of_reaches_rivals :
    Reaches (initial smallConfig) rivals ∧ rivals.limiter.live = 2 ∧
      rivals.gateway.engine.Open .client 0 "hall" ∧ rivals.Has .client 0 0 ∧
      ¬ rivals.Has .client 0 1 := by
  have run : Reaches (initial smallConfig) rivals :=
    .tail (.tail (.tail (.tail (.tail (.tail (.tail .refl (.arrive _)) (.arrive _)) (.proceed 1))
      (.proceed 0)) (.proceed 0)) (.proceed 1)) (.proceed 0)
  have kept := kept_of_reaches run
  have opened : rivals.gateway.engine.Open .client 0 "hall" := by
    unfold State.Open
    decide +kernel
  have without := kept.without 1 (by decide +kernel) .client 0
  obtain ⟨c, has⟩ := kept.had .client 0 "hall" opened
  have held := kept.holder .client 0 "hall" opened c has
  have holders : rivals.identities.held = [(⟨.client, "hall"⟩, 0)] := by decide +kernel
  rw [holders] at held
  obtain rfl : c = 0 := congrArg Prod.snd (List.mem_singleton.1 held)
  exact ⟨run, by decide +kernel, opened, has, without⟩

end Host

end HomeGateway
