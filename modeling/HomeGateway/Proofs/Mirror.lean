/-
  A mirror of a node.

  From the moment that a device is paired, the session that paired it is told
  whatever changes there.  So the values that it had then, and the events since,
  give every value that is read of it.

  * `Mirrors.read`, `Mirrors.write`: what is read of a node, and what a write does;
  * `mirrors_moves`: a move of a store keeps a mirror; `Minds.after` keeps it in every run;
  * `mirrored`: what is read, written and reported after every run.
-/
import HomeGateway.Proofs.Homes

namespace HomeGateway

open Engine Client Call

namespace Engine

/-! ## Clusters in their place -/

/-- There is a cluster of an id and a name at an endpoint of a number. -/
def RemoteEndpoint.Bears (e : RemoteEndpoint) (number id : Nat) (name : String) : Prop :=
  ∃ row ∈ e.plan, row.1 = number ∧ (id, name) ∈ row.2

section

variable {v : Node} {number id : Nat} {name : String} {c : Cluster}

theorem Node.Has.bears (h : v.Has number c) : v.root.Bears number c.id c.name := by
  obtain ⟨x, hx, hc⟩ := h.found
  obtain ⟨there, rfl⟩ := RemoteEndpoint.lookup?_mem hx
  exact ⟨_, List.mem_map_of_mem there, rfl, List.mem_map.2 ⟨c, List.mem_of_find?_eq_some hc, rfl⟩⟩

theorem RemoteEndpoint.Bears.located (h : v.root.Bears number id name)
    (distinct : v.root.Distinct) : ∃ c, locate number name v = .ok c ∧ c.id = id := by
  obtain ⟨row, hrow, rfl, hc⟩ := h
  obtain ⟨x, hx, rfl⟩ := List.mem_map.1 hrow
  obtain ⟨c, there, same⟩ := List.mem_map.1 hc
  obtain ⟨rfl, rfl⟩ := Prod.mk.inj same
  have spot : v.root.lookup? x.number = some x := find?_apart distinct.numbers hx
  have own : x.cluster? c.name = some c := find?_apart (distinct.names x hx) there
  exact ⟨c, by simp [locate, spot, own], rfl⟩

end

/-! ## A node and its mirror -/

/-- A node whose endpoints are those of another, with values of their own. -/
structure Node.Mirrors (d : RemoteEndpoint) (m : Mirror) (v : Node) : Prop where
  plan : v.root.plan = d.plan
  reading : v.root.reading = m

namespace Node.Mirrors

variable {d : RemoteEndpoint} {m : Mirror} {v : Node} {number id : Nat} {name : String}

/-- What is done with a node changes its mirror as it is told. -/
theorem tells {step : Node.Step} (h : v.Mirrors d m) (distinct : d.Distinct)
    (tells : v.Tells step) : step.1.Mirrors d (m.replay v.id (step.2.map News.event)) where
  plan := tells.plan.trans h.plan
  reading := h.reading ▸ tells.values (distinct.of_plan h.plan)

theorem connect (h : v.Mirrors d m) : v.connect.1.Mirrors d m := by
  have root : v.connect.1.root = v.root := by
    unfold Node.connect
    split <;> rfl
  exact ⟨root ▸ h.plan, root ▸ h.reading⟩

/-- A cluster is found where the mirror has it, and its attributes are those of the mirror. -/
theorem located (h : v.Mirrors d m) (distinct : d.Distinct) (bears : d.Bears number id name) :
    ∃ c, locate number name v = .ok c ∧ c.id = id ∧ ∀ attr, c.read? attr = m number id attr := by
  have own := distinct.of_plan h.plan
  obtain ⟨c, found, rfl⟩ := RemoteEndpoint.Bears.located (v := v)
    (by rwa [RemoteEndpoint.Bears, h.plan]) own
  refine ⟨c, found, rfl, fun attr => ?_⟩
  rw [← h.reading, (has_of_locate found).1.reading own]

theorem of_located (h : v.Mirrors d m) (distinct : d.Distinct) {c : Cluster}
    (found : locate number name v = .ok c) :
    d.Bears number c.id name ∧ ∀ attr, c.read? attr = m number c.id attr := by
  obtain ⟨has, rfl⟩ := has_of_locate found
  refine ⟨?_, fun attr => ?_⟩
  · have bears := has.bears
    rwa [RemoteEndpoint.Bears, h.plan] at bears
  · rw [← h.reading, has.reading (distinct.of_plan h.plan)]

/-- What is read of a node is what the mirror shows. -/
theorem read (h : v.Mirrors d m) (distinct : d.Distinct) (linked : v.connected = true)
    (bears : d.Bears number id name) (attr : String) :
    asking (fun n => do n.readAttribute (← locate number name n) attr) .ofOption v =
      match m number id attr with
      | some value => .ok (v.quiet, .ofOption value)
      | none => .error (.engine (.attributeNotFound attr)) := by
  obtain ⟨c, found, -, reads⟩ := h.located distinct bears
  have run : asking (fun n => do n.readAttribute (← locate number name n) attr) .ofOption v =
      asking (fun n => n.readAttribute c attr) .ofOption v := by
    simp only [asking, found]
    rfl
  rw [run, ← reads]
  simp only [asking, Node.readAttribute, Node.ensureConnected, linked, if_true]
  cases c.read? attr <;> rfl

/-- A write is done and told if the mirror has the attribute, and refused otherwise. -/
theorem write (h : v.Mirrors d m) (distinct : d.Distinct) (linked : v.connected = true)
    (number : Nat) (name attr : String) (value : Json) :
    let wrote := doing (fun n => do
      n.writeAttribute number (← locate number name n) attr value) v
    (∃ id, d.Bears number id name ∧ ∃ v', wrote =
      .ok ((v', [.attributeChanged v.id ⟨⟨none, number, id, attr⟩, value⟩]), .null)) ∨
    ((∀ id, d.Bears number id name → m number id attr = none) ∧ ∃ f, wrote = .error f) := by
  intro wrote
  cases found : locate number name v with
  | error f =>
    refine .inr ⟨fun id bears => ?_, .engine f, ?_⟩
    · obtain ⟨c, located, -⟩ := h.located distinct bears
      cases found.symm.trans located
    · simp only [wrote, doing, found]
      rfl
  | ok c =>
    obtain ⟨bears, reads⟩ := h.of_located distinct found
    have run : wrote = doing (fun n => n.writeAttribute number c attr value) v := by
      simp only [wrote, doing, found]
      rfl
    simp only [doing, Node.writeAttribute, Node.ensureConnected, linked, if_true] at run
    cases known : c.read? attr with
    | none =>
      refine .inr ⟨fun id bears => ?_, .engine (.attributeNotFound attr), ?_⟩
      · obtain ⟨c', located, rfl, reads'⟩ := h.located distinct bears
        cases found.symm.trans located
        rw [← reads', known]
      · simp only [run, known]
        rfl
    | some old =>
      refine .inl ⟨c.id, bears, (v.report number c attr value).1, ?_⟩
      simp only [run, known]
      rfl

end Node.Mirrors

/-! ## A node in its store -/

/-- A task that removes no node of an id does not tell that one was. -/
theorem spared_outcome {t : Task} (telling : ∀ id f, t = .visit id f → Telling f) {id : Nat}
    (spares : t ≠ .remove id) (c : Controller) (devices : List Device) (st : ControllerStore) :
    ∀ w ∈ (t.outcome c devices st).2.news, w.event.state? ≠ some (id, .decommissioned) := by
  intro w hw last
  have own := News.node_of_state? last
  have stays {v : Node} {step : Node.Step} (tells : v.Tells step) (told : w ∈ step.2) : False := by
    refine tells.stays w told ?_
    rw [last, ← own, tells.about w told]
  have comes := comes_outcome t c devices st
  generalize t.outcome c devices st = o at comes hw
  cases comes with
  | still => cases hw
  | paired found =>
    cases List.mem_singleton.1 hw
    cases last
  | removed found =>
    cases List.mem_singleton.1 hw
    exact spares (congrArg _ ((found_kept found).2.2.2.symm.trans own))
  | @refused id' f n m found run => exact stays n.tells_connect hw
  | @done id' f n step v found run =>
    exact stays (n.tells_connect.trans (telling id' f rfl _ _ _ run)) hw

/-- A move of a store that does not remove a node keeps its mirror, as far as its listener is
    told. -/
theorem mirrors_moves {st st' : ControllerStore} {l : Listener} {ws : List News}
    (moves : st.Moves l ws st') (apart : (st.nodes.map (·.id)).Nodup)
    (fresh : ∀ v ∈ st.nodes, v.id ≠ st.nextId) {d : RemoteEndpoint} (distinct : d.Distinct)
    {m : Mirror} {v : Node} (hv : v ∈ st.kept) (h : v.Mirrors d m)
    (spared : ∀ w ∈ ws, w.event.state? ≠ some (v.id, .decommissioned)) :
    ∃ v' ∈ st'.kept, v'.id = v.id ∧ v'.listener = v.listener ∧
      v'.Mirrors d (m.replay v.id (if l = v.listener then ws.map News.event else [])) := by
  have there := (ControllerStore.mem_kept.1 hv).1
  -- nothing is told of the node
  have other (hv' : v ∈ st'.kept) (about : ∀ w ∈ ws, w.node ≠ v.id) : ∃ v' ∈ st'.kept,
      v'.id = v.id ∧ v'.listener = v.listener ∧
        v'.Mirrors d (m.replay v.id (if l = v.listener then ws.map News.event else [])) := by
    refine ⟨v, hv', rfl, rfl, ?_⟩
    split
    · rwa [replay_other about]
    · exact h
  cases moves with
  | still => exact other hv (List.forall_mem_nil _)
  | @told n step hn tells =>
    by_cases own : n.id = v.id
    · obtain rfl := List.inj_on_of_nodup_map apart (ControllerStore.mem_kept.1 hn).1 there own
      refine ⟨step.1, (ControllerStore.mem_kept_told hn tells).2 (.inl rfl), tells.id,
        tells.listener, ?_⟩
      rw [if_pos rfl]
      exact h.tells distinct tells
    · exact other ((ControllerStore.mem_kept_told hn tells).2 (.inr ⟨hv, Ne.symm own⟩))
        fun w hw => tells.about w hw ▸ own
  | @removed n hn =>
    have own : n.id ≠ v.id := by
      intro same
      exact spared _ List.mem_cons_self (by rw [← same]; rfl)
    refine other ((ControllerStore.mem_kept_removed hn).2 ⟨hv, Ne.symm own⟩) fun w hw => ?_
    rwa [List.mem_singleton.1 hw]
  | joined c d =>
    refine other (ControllerStore.mem_kept_joined.2 (.inl hv)) fun w hw => ?_
    rw [List.mem_singleton.1 hw]
    exact Ne.symm (fresh v there)

end Engine

namespace Gateway

variable {g : Gateway} {n k : Nat} {ref : NodeRef} {d : RemoteEndpoint} {st : ControllerStore}
  {v : Node} {es : List Event} {x : Happening} {key : StoreKey} {r : Request} {a : Errand}

/-- A node of a storage is removed. -/
def Removes (g : Gateway) (key : StoreKey) (id : Nat) : Happening → Prop
  | .deed (.asked m r) => g.keyOf? m = some key ∧ Errand.ofRequest r = .ok (.remove id)
  | _ => False

theorem Homely.spared (h : g.Homely) {i id : Nat} (hst : g.engine.controllerStores[i]? = some st)
    (spares : ¬g.Removes st.key id x) :
    ∀ w ∈ g.notices i x, w.event.state? ≠ some (id, .decommissioned) := by
  cases stir : g.stir? x with
  | none =>
    rw [notices, stir]
    exact List.forall_mem_nil _
  | some jw =>
    obtain ⟨j, w⟩ := jw
    rw [notices, stir]
    dsimp only
    split
    · rename_i own
      subst own
      cases x with
      | deed x =>
        cases x with
        | asked m r =>
          obtain ⟨c, st', a, staffed, rfl, asked, rfl⟩ := asked_cases h stir
          cases hst.symm.trans staffed.store
          refine spared_outcome (fun _ _ => tells_task)
            (fun gone => spares ⟨staffed.keyOf?, ?_⟩) _ _ _
          rw [asked]
          cases a <;> cases gone
          rfl
        | _ => cases stir
      | said r endpoint cluster u =>
        obtain ⟨st', v, step, rfl, -, -, said, rfl⟩ := voice_cases stir
        have tells := Utterance.tells said
        intro w hw last
        refine tells.stays w hw ?_
        rw [last, ← tells.about w hw, News.node_of_state? last]
    · exact List.forall_mem_nil _

/-- A node that tells the session that paired it, and its mirror. -/
structure Minds (g : Gateway) (n : Nat) (ref : NodeRef) (d : RemoteEndpoint) (st : ControllerStore)
    (v : Node) (es : List Event) : Prop where
  homely : g.Homely
  session : ∃ s, g.sessions[n]? = some (.client s) ∧ s.controller.isSome
  own : g.keyOf? n = some st.key
  store : g.engine.controllerStores[ref.store]? = some st
  kept : v ∈ st.kept
  id : v.id = ref.id
  listener : v.listener = .sink n
  mirrors : v.Mirrors d (Mirror.replay ref.id d.reading es)

theorem Minds.happen (h : g.Minds n ref d st v es) (distinct : d.Distinct)
    (calm : g.Calm st.key x) (spares : ¬g.Removes st.key ref.id x) :
    ∃ st' v', (g.happen x).Minds n ref d st' v' (es ++ (g.tidings x).heardBy n) ∧
      st'.key = st.key := by
  have home := h.homely
  have there := List.mem_of_getElem? h.store
  obtain ⟨st', l, others, turns⟩ := store_happen home h.store calm.1 calm.2
  obtain ⟨v', kept, same, listener, mirrors⟩ := mirrors_moves turns.moves (home.apart st there)
    (home.fresh there) distinct h.kept h.mirrors (h.id ▸ home.spared h.store spares)
  have key := turns.moves.key
  obtain ⟨s, hn, opened⟩ := h.session
  refine ⟨st', v', ⟨homely_happen home x, ⟨s, calm.session home h.own hn, opened⟩,
    key ▸ keyOf?_happen home x h.own, turns.store, kept, same.trans h.id, listener.trans h.listener,
    ?_⟩, key⟩
  -- whoever else is told works on another storage, so the session hears of this node only
  rw [turns.tidings, Journal.heardBy_append, to_others turns.others h.own, List.append_nil,
    Journal.heardBy_entries, Mirror.replay, List.foldl_append]
  rw [h.id, h.listener] at mirrors
  exact mirrors

theorem Minds.after (h : g.Minds n ref d st v []) (distinct : d.Distinct) (xs : List Happening)
    (calm : g.Throughout (fun g x => g.Calm st.key x ∧ ¬g.Removes st.key ref.id x) xs) :
    ∃ st' v', (g.after xs).Minds n ref d st' v' ((g.chronicle xs).heardBy n) ∧
      st'.key = st.key := by
  refine run_induction (J := [])
    (I := fun g J => ∃ st' v', g.Minds n ref d st' v' (J.heardBy n) ∧ st'.key = st.key) ?_ xs calm
    ⟨st, v, h, rfl⟩
  rintro g J x ⟨calm, spares⟩ ⟨st', v', minds, key⟩
  obtain ⟨st'', v'', minds, key'⟩ := minds.happen distinct (key ▸ calm) (key ▸ spares)
  rw [Journal.heardBy_append]
  exact ⟨st'', v'', minds, key'.trans key⟩

/-- A device that is paired is minded. -/
theorem Staffed.minds (h : g.Homely) {c : Controller} (staffed : g.Staffed n c st)
    {q : Pairing.Request} (asked : Errand.ofRequest r = .ok (.pair q)) {dev : Device}
    {others : List Device} (found : Device.find? q g.engine.devices = .ok (dev, others)) :
    (g.happen (.deed (.asked n r))).Minds n ⟨c.store, st.nextId⟩ dev.root
      (st.joined (dev.node c st)) (dev.node c st) [] := by
  obtain ⟨s, k, hn, hs, -⟩ := staffed.session
  have run : g.happen (.deed (.asked n r)) = g.stirred (some (c.store,
      ⟨others, st.joined (dev.node c st), c.listener, [.stateChanged st.nextId .connected]⟩)) := by
    show (g.handle n r).2 = _
    rw [handle_staffed h staffed asked]
    simp only [Errand.task, Task.outcome, found]
  refine ⟨homely_happen h _, ⟨s, ?_, by simp [hs]⟩, keyOf?_happen h _ staffed.keyOf?, ?_,
    ControllerStore.mem_kept_joined.2 (.inr ⟨rfl, rfl⟩), rfl, staffed.listener, ⟨rfl, rfl⟩⟩
  · rw [run, sessions_stirred, hn]
  · rw [run]
    exact (store_stirred staffed.store _ _).trans (by rw [if_pos rfl])

/-! ## Requests to a minded node -/

/-- A session that works on a store. -/
def Serves (g : Gateway) (m i : Nat) : Prop :=
  ∃ c st, g.desk? m = some (c, st) ∧ c.store = i

theorem Minds.serves (h : g.Minds n ref d st v es) : g.Serves n ref.store := by
  obtain ⟨s, hn, opened⟩ := h.session
  obtain ⟨c, st', staffed⟩ := h.homely.staffed hn opened
  have key := Option.some.inj (staffed.keyOf?.symm.trans h.own)
  exact ⟨c, st', staffed.desk?, h.homely.inj staffed.store h.store key⟩

/-- What a request for a minded node comes to. -/
theorem Minds.asked {m : Nat} (h : g.Minds n ref d st v es) (serves : g.Serves m ref.store)
    (asked : Errand.ofRequest r = .ok a) {f : Node → Except Failure (Node.Step × Json)}
    (visit : a.task = .visit ref.id f) :
    (∀ step j, f v.connect.1 = .ok (step, j) → (g.handle m r).1 = some (.ok r.id j) ∧
      (g.handle m r).2.engine.journal = g.engine.journal ++
        (v.connect.2 ++ step.2).map fun w => .event n w.event) ∧
    ∀ e, f v.connect.1 = .error e → (g.handle m r).1 = some (answer r (.error (.failed e))) ∧
      (g.handle m r).2.engine.journal = g.engine.journal ++
        v.connect.2.map fun w => .event n w.event := by
  obtain ⟨c, st', desk, own⟩ := serves
  have staffed := h.homely.staffed_of_desk? desk
  obtain rfl : st' = st :=
    Option.some.inj (staffed.store.symm.trans (own ▸ h.store))
  have found := h.id ▸ find?_kept (h.homely.apart st' (List.mem_of_getElem? h.store)) h.kept
  rw [handle_staffed h.homely staffed asked]
  refine ⟨fun step j run => ?_, fun e run => ?_⟩
  · simp only [visit, Task.outcome, found, run, h.listener]
    exact ⟨rfl, rfl⟩
  · simp only [visit, Task.outcome, found, run, h.listener, true_and]
    rfl

theorem changes_connect (v : Node) :
    (v.connect.2.map News.event).filterMap Event.change? = [] := by
  unfold Node.connect
  split
  · rfl
  · simp [Node.link]

/-- The values of a node are those that it was paired with and what was told since: they are read,
    and what is written or reported is told once. -/
structure Mirrored (n : Nat) (ref : NodeRef) (d : RemoteEndpoint) (es : List Event) (g : Gateway) :
    Prop where
  serves : g.Serves n ref.store
  reads : ∀ m r number id name attr, g.Serves m ref.store → d.Bears number id name →
    Errand.ofRequest r = .ok (.read ref.id number name attr) →
    (g.handle m r).1 = some (answer r (match Mirror.replay ref.id d.reading es number id attr with
      | some value => .ok (.ofOption value)
      | none => .error (.failed (.engine (.attributeNotFound attr)))))
  writes : ∀ m r number name attr value, g.Serves m ref.store →
    Errand.ofRequest r = .ok (.write ref.id number name attr value) →
    ∃ (response : Response) (told : List Event), (g.handle m r).1 = some response ∧
      (g.handle m r).2.engine.journal = g.engine.journal ++ told.map (.event n) ∧
      ((response.verdict = .success ∧ ∃ id, d.Bears number id name ∧
          told.filterMap Event.change? = [⟨⟨some ref.id, number, id, attr⟩, value⟩]) ∨
        (response.verdict = .error ∧ told.filterMap Event.change? = [] ∧
          ∀ id, d.Bears number id name →
            Mirror.replay ref.id d.reading es number id attr = none))
  reports : ∀ number id name attr value, d.Bears number id name →
    ∃ e, (g.happen (.said ref number name (.report attr value))).engine.journal =
        g.engine.journal ++ [.event n e] ∧
      e.change? = some ⟨⟨some ref.id, number, id, attr⟩, value⟩

theorem Minds.read (h : g.Minds n ref d st v es) (distinct : d.Distinct) {m number id : Nat}
    {name attr : String} (serves : g.Serves m ref.store) (bears : d.Bears number id name)
    (asked : Errand.ofRequest r = .ok (.read ref.id number name attr)) :
    (g.handle m r).1 = some (answer r (match Mirror.replay ref.id d.reading es number id attr with
      | some value => .ok (.ofOption value)
      | none => .error (.failed (.engine (.attributeNotFound attr))))) := by
  obtain ⟨done, refused⟩ := h.asked serves asked rfl
  have read := h.mirrors.connect.read distinct (connected_connect v) bears attr
  cases known : Mirror.replay ref.id d.reading es number id attr with
  | some value =>
    rw [known] at read
    exact (done _ _ read).1
  | none =>
    rw [known] at read
    exact (refused _ read).1

theorem Minds.write (h : g.Minds n ref d st v es) (distinct : d.Distinct) {m number : Nat}
    {name attr : String} {value : Json} (serves : g.Serves m ref.store)
    (asked : Errand.ofRequest r = .ok (.write ref.id number name attr value)) :
    ∃ (response : Response) (told : List Event), (g.handle m r).1 = some response ∧
      (g.handle m r).2.engine.journal = g.engine.journal ++ told.map (.event n) ∧
      ((response.verdict = .success ∧ ∃ id, d.Bears number id name ∧
          told.filterMap Event.change? = [⟨⟨some ref.id, number, id, attr⟩, value⟩]) ∨
        (response.verdict = .error ∧ told.filterMap Event.change? = [] ∧
          ∀ id, d.Bears number id name →
            Mirror.replay ref.id d.reading es number id attr = none)) := by
  obtain ⟨done, refused⟩ := h.asked serves asked rfl
  rcases h.mirrors.connect.write distinct (connected_connect v) number name attr value with
    ⟨id, bears, v', wrote⟩ | ⟨unknown, f, wrote⟩
  · obtain ⟨response, told⟩ := done _ _ wrote
    refine ⟨_, (v.connect.2.map News.event) ++
      [News.event (.attributeChanged v.id ⟨⟨none, number, id, attr⟩, value⟩)], response, ?_,
      .inl ⟨rfl, id, bears, ?_⟩⟩
    · have same : v.connect.1.id = v.id := v.tells_connect.id
      rw [told, same]
      simp
    · rw [List.filterMap_append, changes_connect, h.id]
      simp [named]
  · obtain ⟨response, told⟩ := refused f wrote
    refine ⟨_, v.connect.2.map News.event, response, ?_, .inr ⟨rfl, changes_connect v, unknown⟩⟩
    rw [told, List.map_map]
    rfl

theorem Minds.report (h : g.Minds n ref d st v es) (distinct : d.Distinct) {number id : Nat}
    {name : String} (attr : String) (value : Json) (bears : d.Bears number id name) :
    ∃ e, (g.happen (.said ref number name (.report attr value))).engine.journal =
        g.engine.journal ++ [.event n e] ∧
      e.change? = some ⟨⟨some ref.id, number, id, attr⟩, value⟩ := by
  obtain ⟨c, located, rfl, -⟩ := h.mirrors.located distinct bears
  have said : (Utterance.report attr value).step number name v =
      .ok (v.report number c attr value) := by
    rw [Utterance.step, located]
    rfl
  refine ⟨News.event (.attributeChanged v.id (Node.reported number c attr value)), ?_, ?_⟩
  · have told := journal_said h.homely h.store h.kept said
    rw [h.id, h.listener] at told
    exact told
  · rw [News.change?_attributeChanged, h.id]
    rfl

theorem Minds.mirror (h : g.Minds n ref d st v es) (distinct : d.Distinct) :
    Mirrored n ref d es g where
  serves := h.serves
  reads := fun _ _ _ _ _ _ serves bears asked => h.read distinct serves bears asked
  writes := fun _ _ _ _ _ _ serves asked => h.write distinct serves asked
  reports := fun _ _ _ attr value bears => h.report distinct attr value bears

/-- From the moment that a device is paired, what is told of it mirrors its values, while the
    session lasts and the node is not removed. -/
theorem mirrored (past rest : List Happening) {n : Nat} {c : Controller} {st : ControllerStore}
    (desk : (initial.after past).desk? n = some (c, st)) {r : Request} {q : Pairing.Request}
    (asked : Errand.ofRequest r = .ok (.pair q)) {dev : Device} {others : List Device}
    (found : Device.find? q (initial.after past).engine.devices = .ok (dev, others))
    (distinct : dev.root.Distinct) :
    let g := (initial.after past).happen (.deed (.asked n r))
    g.Throughout (fun g x => g.Calm st.key x ∧ ¬g.Removes st.key st.nextId x) rest →
      ∃ told, (g.after rest).engine.journal = g.engine.journal ++ told ∧
        Mirrored n ⟨c.store, st.nextId⟩ dev.root (told.heardBy n) (g.after rest) := by
  intro g calm
  have home := homely_after homely_initial past
  have minds := (home.staffed_of_desk? desk).minds home asked found
  obtain ⟨st', v', after, -⟩ := minds.after distinct rest calm
  exact ⟨g.chronicle rest, journal_after minds.homely rest, after.mirror distinct⟩

/-- The bulb is paired, disconnected and switched on, and switches itself off. -/
theorem mirrored_bulb :
    let past := arrival ++ [.deed (.initialised 0)]
    let g := (initial.after past).happen (.deed (.asked 0 pairBulb))
    let rest : List Happening :=
      [.deed (.asked 0 (onNodes "disconnectNode" [.ofNat 1])),
        .deed (.asked 0 (onClusters "writeAttribute"
          [.ofNat 1, .ofNat 1, .str "OnOff", .str "onOff", .bool true])),
        .said ⟨0, 1⟩ 1 "OnOff" (.report "onOff" (.bool false))]
    bulb.root.Distinct ∧
      ∃ told, (g.after rest).engine.journal = g.engine.journal ++ told ∧
        Mirrored 0 ⟨0, 1⟩ bulb.root (told.heardBy 0) (g.after rest) := by
  have distinct : bulb.root.Distinct := ⟨by decide, by decide, by decide⟩
  have desk : (initial.after (arrival ++ [.deed (.initialised 0)])).desk? 0 =
      some (⟨"hallway", 1, 0, false, .sink 0⟩, ⟨hallway.controllerConfig.key, [], 1⟩) := rfl
  have asked : Errand.ofRequest pairBulb =
      .ok (.pair (.ofArguments none (some 15) (some 20202021))) := rfl
  have found : Device.find? (.ofArguments none (some 15) (some 20202021))
      (initial.after (arrival ++ [.deed (.initialised 0)])).engine.devices = .ok (bulb, []) := rfl
  refine ⟨distinct, mirrored _ _ desk asked found distinct ⟨⟨⟨id, id⟩, ?_⟩, ⟨⟨id, id⟩, ?_⟩,
    ⟨⟨id, id⟩, id⟩, trivial⟩⟩
  · rintro ⟨-, other⟩
    cases other
  · rintro ⟨-, other⟩
    cases other

end Gateway

end HomeGateway
