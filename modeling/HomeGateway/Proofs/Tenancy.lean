/-
  Sessions one after another on one storage.

  A session that begins while no other works on its storage takes over the
  nodes there: they are disconnected and otherwise as they were left, and from
  then on they tell this session, and no other session of the storage, whatever
  there is to tell, also after the session ended, until the next one begins.

  * `Tuned`: a storage whose nodes tell one session; `Tuned.follows` is the step;
  * `idle_happen`: a storage on which nobody works changes by what devices say;
  * `tenancy`: what a session finds and what it is told.
-/
import HomeGateway.Proofs.Homes

namespace HomeGateway

open Engine Client Call

/-! ## What devices say in between -/

/-- The endpoints of a node after it may have said something. -/
def Engine.Node.spoken (r : NodeRef) (v : Node) : Happening → RemoteEndpoint
  | .said r' endpoint cluster u =>
    if r' = r then
      match u.step endpoint cluster v with
      | .ok step => step.1.root
      | .error _ => v.root
    else v.root
  | .deed _ => v.root

namespace Gateway

variable {g : Gateway} {n i : Nat} {s : Client.Session} {st : ControllerStore} {x : Happening}
  {key : StoreKey}

/-- Only one session works on a storage, and the nodes there tell it. -/
structure Tuned (g : Gateway) (n i : Nat) (st : ControllerStore) : Prop where
  homely : g.Homely
  store : g.engine.controllerStores[i]? = some st
  own : g.keyOf? n = some st.key
  alone : ∀ (m : Nat) t, g.sessions[m]? = some (.client t) →
    t.params.controllerConfig.key = st.key → t.controller.isSome → m = n
  bound : ∀ v ∈ st.kept, v.listener = .sink n

theorem Tuned.hears (t : g.Tuned n i st) {m : Nat} (hears : g.Hears m st) : m = n := by
  rcases hears.source with ⟨v, hv, sink⟩ | ⟨s, hm, opened⟩
  · exact Listener.sink.inj (sink.symm.trans (t.bound v hv))
  · refine t.alone m s hm ?_ opened
    simpa [keyOf?, hm] using hears.key

/-- What happens to a storage that tells one session, and what else is told. -/
structure Follows (g : Gateway) (n i : Nat) (st : ControllerStore) (x : Happening)
    (st' : ControllerStore) (others : Journal) : Prop where
  tuned : (g.happen x).Tuned n i st'
  key : st'.key = st.key
  moves : (∃ l, st.Moves l (g.notices i x) st') ∨
    (g.Ends st.key x ∧ g.notices i x = [] ∧ st' = st.darkened)
  tidings : g.tidings x = (g.notices i x).map (fun w => .event n w.event) ++ others
  others : ∀ entry ∈ others, ∃ m e key, entry = .event m e ∧ g.keyOf? m = some key ∧ key ≠ st.key

/-- Nobody else gets to work on the storage, unless a session of it begins. -/
theorem Tuned.stays (t : g.Tuned n i st) (begins : ¬g.Begins st.key x) {st' : ControllerStore}
    (key : st'.key = st.key) (hst : (g.happen x).engine.controllerStores[i]? = some st')
    (bound : ∀ v ∈ st'.kept, v.listener = .sink n) : (g.happen x).Tuned n i st' := by
  refine ⟨homely_happen t.homely x, hst, key ▸ keyOf?_happen t.homely x t.own, ?_, bound⟩
  intro m s' hm same opened
  obtain ⟨s, before, params, was | rfl⟩ := opened_happen t.homely hm opened
  · exact t.alone m s before (by rw [← params, same, key]) was
  · refine absurd ?_ begins
    show g.keyOf? m = _
    simp [keyOf?, before, ← params, same, key]

theorem Tuned.follows (t : g.Tuned n i st) (begins : ¬g.Begins st.key x) :
    ∃ st' others, g.Follows n i st x st' others := by
  by_cases ends : g.Ends st.key x
  · obtain ⟨m, rfl, -⟩ := ends_cases ends
    rcases store_ended t.homely t.store m with same | ⟨-, dark⟩
    · exact ⟨st, [], t.stays begins rfl same t.bound, rfl, .inl ⟨.recorder, .still _⟩, rfl,
        List.forall_mem_nil _⟩
    · refine ⟨st.darkened, [], t.stays begins rfl dark fun v hv => ?_, rfl, .inr ⟨ends, rfl, rfl⟩,
        rfl, List.forall_mem_nil _⟩
      obtain ⟨y, hy, rfl⟩ := mem_kept_darkened.1 hv
      exact t.bound y hy
  · obtain ⟨st', l, others, turns⟩ := store_happen t.homely t.store begins ends
    have told (some : g.notices i x ≠ []) : l = .sink n := by
      obtain ⟨m, sink, hears⟩ := turns.hears some
      rw [sink, t.hears hears]
    refine ⟨st', others, t.stays begins turns.moves.key turns.store fun v hv => ?_,
      turns.moves.key, .inl ⟨l, turns.moves⟩, ?_, turns.others⟩
    · rcases turns.moves.listener hv with ⟨new, some⟩ | ⟨y, hy, same⟩
      · rw [new, told some]
      · rw [← same, t.bound y hy]
    · rw [turns.tidings]
      congr 1
      by_cases none : g.notices i x = []
      · rw [none]
        rfl
      · rw [told none]
        rfl

/-- A session of whose storage no other session makes use, before it begins. -/
structure Fresh (g : Gateway) (n : Nat) (s : Client.Session) : Prop where
  session : g.sessions[n]? = some (.client s)
  vacant : s.controller = none
  unused : ¬g.Used s.params.controllerConfig.key

/-- What becomes of a session that begins. -/
theorem Fresh.begun (f : g.Fresh n s) (h : g.Homely) : s.sink = n ∧
    (g.initSession n).2 = g.put n (.client (s.begun g.engine)) (s.opened g.engine) := by
  rcases begun_cases h n with ⟨absent, -⟩ | ⟨s', e', hn, sink, run, life⟩
  · cases absent.symm.trans f.session
  cases f.session.symm.trans hn
  rcases life with ⟨-, rfl⟩ | ⟨k, -, -, hs, -⟩
  · exact ⟨sink, run⟩
  · cases f.vacant.symm.trans hs

theorem Fresh.sessions (f : g.Fresh n s) (h : g.Homely) :
    (g.initSession n).2.sessions[n]? = some (.client (s.begun g.engine)) := by
  rw [(f.begun h).2, sessions_put f.session, if_pos rfl]

/-- A session that begins is told, and finds all nodes disconnected. -/
theorem Fresh.tuned (f : g.Fresh n s) (h : g.Homely) : ∃ i st,
    (g.initSession n).2.Tuned n i st ∧ st.key = s.params.controllerConfig.key ∧
      ∀ v ∈ st.kept, v.connected = false := by
  obtain ⟨sink, run⟩ := f.begun h
  have here := f.sessions h
  have home := homely_initialised h n
  obtain ⟨c, st, staffed⟩ := home.staffed here rfl
  have key : st.key = s.params.controllerConfig.key := by
    obtain ⟨s', k, hn', -, -, key⟩ := staffed.session
    cases here.symm.trans hn'
    exact key.symm
  have there : st ∈ (s.opened g.engine).controllerStores := by
    have := List.mem_of_getElem? staffed.store
    rwa [run] at this
  -- the store was there before, or it is new and has no nodes
  have nodes : ∀ v ∈ st.kept, v.listener = .sink n ∧ v.connected = false := by
    rcases State.mem_withController h.keys there with ⟨j, old, hj, rfl⟩ | empty
    · intro v hv
      split at hv
      · rename_i same
        obtain ⟨y, hy, rfl⟩ := mem_kept_bound.1 hv
        exact ⟨congrArg _ sink, h.dark old (List.mem_of_getElem? hj) (same ▸ f.unused) y hy⟩
      · rename_i other
        rw [if_neg other] at key
        exact absurd key other
    · rw [empty]
      exact List.forall_mem_nil _
  refine ⟨c.store, st, ⟨home, staffed.store, staffed.keyOf?, ?_, fun v hv => (nodes v hv).1⟩, key,
    fun v hv => (nodes v hv).2⟩
  intro m t hm same opened
  obtain ⟨t', before, params, was | begun⟩ :=
    opened_happen (x := .deed (.initialised n)) h hm opened
  · refine absurd ⟨m, t', before, was, ?_⟩ f.unused
    rw [← params, same, key]
  · cases begun
    rfl

theorem Tuned.after (t : g.Tuned n i st) (xs : List Happening)
    (calm : g.Throughout (fun g x => ¬g.Begins st.key x) xs) :
    ∃ st', (g.after xs).Tuned n i st' ∧ st'.key = st.key := by
  refine run_induction (J := []) (I := fun g _ => ∃ st', g.Tuned n i st' ∧ st'.key = st.key) ?_ xs
    calm ⟨st, t, rfl⟩
  rintro g - x begins ⟨st', tuned, key⟩
  obtain ⟨st'', others, follows⟩ := tuned.follows (key ▸ begins)
  exact ⟨st'', follows.tuned, follows.key.trans key⟩

/-- All news of the nodes are for the session; whoever else is told works on another storage. -/
theorem Tuned.tells (t : g.Tuned n i st) (begins : ¬g.Begins st.key x) :
    ∃ others, (g.happen x).engine.journal =
        g.engine.journal ++ (g.notices i x).map (fun w => .event n w.event) ++ others ∧
      ∀ entry ∈ others, ∃ m e key, entry = .event m e ∧ g.keyOf? m = some key ∧ key ≠ st.key := by
  obtain ⟨st', others, follows⟩ := t.follows begins
  refine ⟨others, ?_, follows.others⟩
  rw [journal_happen t.homely, follows.tidings, List.append_assoc]

theorem Tuned.said (t : g.Tuned n i st) {v : Node} (hv : v ∈ st.kept) {endpoint : Nat}
    {cluster : String} {u : Utterance} {step : Node.Step}
    (said : u.step endpoint cluster v = .ok step) :
    (g.happen (.said ⟨i, v.id⟩ endpoint cluster u)).engine.journal =
      g.engine.journal ++ step.2.map fun w => .event n w.event := by
  have told := journal_said t.homely t.store hv said
  rwa [t.bound v hv] at told

theorem Fresh.left (f : g.Fresh n s) (h : g.Homely)
    (hst : g.engine.controllerStores[i]? = some st)
    (same : st.key = s.params.controllerConfig.key) :
    (g.initSession n).2.engine.controllerStores[i]? = some (st.bound (.sink n)) := by
  rw [store_begun h hst f.session f.vacant, if_pos same]

/-- The client of the hallway leaves, and comes back. -/
def returning : List Happening :=
  movingIn ++ [.deed (.ended 0), .deed (.opened hallway ⟨250, 32⟩)]

theorem fresh_returning : (initial.after returning).Fresh 1 ⟨hallway, 1, none⟩ where
  session := rfl
  vacant := rfl
  unused := by
    have sessions : (initial.after returning).sessions =
        [.client ⟨hallway, 0, none⟩, .client ⟨hallway, 1, none⟩] := rfl
    rintro ⟨m, s, hm, opened, -⟩
    rw [sessions] at hm
    rcases List.mem_cons.1 (List.mem_of_getElem? hm) with same | same
    · cases same
      cases opened
    · cases List.mem_singleton.1 same
      cases opened

end Gateway

end HomeGateway
