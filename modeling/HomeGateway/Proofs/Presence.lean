/-
  Who is there, by the events.

  The last event about its connection says whether a node of a session is
  connected: from the beginning of the session, when none is, every move of its
  storage tells what it does to connections.  A node that was removed is never
  heard of again, by whichever session.

  * `Followed`: connections are what events say; `followed_moves` is the step;
  * `presence`: what a session lists, after every run;
  * `quieted_after`: nothing comes after a node was removed.
-/
import HomeGateway.Proofs.Tenancy

namespace HomeGateway

open Engine Client Call

/-! ## What a move tells -/

namespace Engine

theorem linkedAfter_false {o : Option NodeState} :
    linkedAfter false o = true ↔ o = some .connected := by
  cases o <;> simp [linkedAfter]

theorem linkedAfter_append (id : Nat) (es es' : List Event) :
    linkedAfter false (lastState? id (es ++ es')) =
      linkedAfter (linkedAfter false (lastState? id es)) (lastState? id es') := by
  rw [lastState?_append]
  cases lastState? id es' <;> rfl

namespace ControllerStore

variable {st st' : ControllerStore} {l : Listener} {ws : List News} {es : List Event} {w : News}
  {v : Node} {id : Nat}

/-- A node is connected if this is the last that events say of its connection. -/
def Followed (st : ControllerStore) (es : List Event) : Prop :=
  ∀ v ∈ st.kept, v.connected = linkedAfter false (lastState? v.id es)

/-- News of other nodes say nothing of a connection. -/
theorem Followed.other (h : v.connected = linkedAfter false (lastState? v.id es))
    (about : ∀ w ∈ ws, w.node ≠ v.id) :
    v.connected = linkedAfter false (lastState? v.id (es ++ ws.map News.event)) := by
  rw [linkedAfter_append, lastState?_other about]
  exact h

theorem followed_moves (h : st.Followed es) (fresh : ∀ v ∈ st.nodes, v.id ≠ st.nextId)
    (moves : st.Moves l ws st') : st'.Followed (es ++ ws.map News.event) := by
  intro v hv
  cases moves with
  | still => simpa using h v hv
  | @told n step hn tells =>
    rcases (mem_kept_told hn tells).1 hv with rfl | ⟨old, other⟩
    · rw [tells.id, linkedAfter_append, ← h n hn]
      exact tells.connected
    · exact Followed.other (h v old) fun w hw => tells.about w hw ▸ Ne.symm other
  | @removed n hn =>
    obtain ⟨old, other⟩ := (mem_kept_removed hn).1 hv
    refine Followed.other (h v old) fun w hw => ?_
    rw [List.mem_singleton.1 hw]
    exact Ne.symm other
  | joined c d =>
    rcases mem_kept_joined.1 hv with old | ⟨rfl, -⟩
    · refine Followed.other (h v old) fun w hw => ?_
      rw [List.mem_singleton.1 hw]
      exact Ne.symm (fresh v (mem_kept.1 old).1)
    · rw [linkedAfter_append]
      simp [lastState?, linkedAfter, Device.node, Node.link, Node.ofDevice]

/-! ## What comes after a node was removed -/

/-- A node of a store that was removed. -/
def Buried (id : Nat) (st : ControllerStore) : Prop :=
  ∃ y ∈ st.nodes, y.id = id ∧ y.removed = true

theorem Buried.not_kept (b : st.Buried id) (apart : (st.nodes.map (·.id)).Nodup)
    (hv : v ∈ st.kept) : v.id ≠ id := by
  obtain ⟨y, hy, rfl, gone⟩ := b
  obtain ⟨there, left⟩ := mem_kept.1 hv
  intro same
  rw [List.inj_on_of_nodup_map apart there hy same, gone] at left
  cases left

theorem Buried.put (b : st.Buried id) (apart : (st.nodes.map (·.id)).Nodup) (hv : v ∈ st.kept)
    {v' : Node} (same : v'.id = v.id) : (st.put v').Buried id := by
  have other := b.not_kept apart hv
  obtain ⟨y, hy, rfl, gone⟩ := b
  exact ⟨y, List.mem_map.2 ⟨y, hy, if_neg (same ▸ Ne.symm other)⟩, rfl, gone⟩

theorem Buried.moves (b : st.Buried id) (apart : (st.nodes.map (·.id)).Nodup)
    (moves : st.Moves l ws st') : st'.Buried id := by
  cases moves with
  | still => exact b
  | told hn tells => exact b.put apart hn tells.id
  | removed hn => exact b.put apart hn rfl
  | joined c d =>
    obtain ⟨y, hy, own, gone⟩ := b
    exact ⟨y, List.mem_append_left _ hy, own, gone⟩

theorem Buried.frame (b : st.Buried id) (same : st'.frame = st.frame) : st'.Buried id := by
  obtain ⟨y, hy, rfl, gone⟩ := b
  have there : y.frame ∈ st.frame.nodes := List.mem_map_of_mem hy
  rw [← same] at there
  obtain ⟨y', hy', eq⟩ := List.mem_map.1 there
  exact ⟨y', hy', show y'.frame.id = y.frame.id by rw [eq],
    (show y'.frame.removed = y.frame.removed by rw [eq]).trans gone⟩

/-- News are of nodes that were not removed, or of a new one. -/
theorem Moves.about (moves : st.Moves l ws st') (hw : w ∈ ws) :
    (∃ v ∈ st.kept, v.id = w.node) ∨ w.node = st.nextId := by
  cases moves with
  | still => cases hw
  | @told n step hn tells => exact .inl ⟨n, hn, (tells.about w hw).symm⟩
  | @removed n hn => exact .inl ⟨n, hn, by rw [List.mem_singleton.1 hw]; rfl⟩
  | joined c d => exact .inr (by rw [List.mem_singleton.1 hw]; rfl)

/-- That a node was removed is told when it is, and nothing else is told then. -/
theorem Moves.last (moves : st.Moves l ws st') (hw : w ∈ ws)
    (last : w.event.state? = some (id, .decommissioned)) : ws = [w] ∧ st'.Buried id := by
  have own := News.node_of_state? last
  cases moves with
  | still => cases hw
  | @told n step hn tells =>
    refine absurd ?_ (tells.stays w hw)
    rw [last, ← own, tells.about w hw]
  | @removed n hn =>
    obtain rfl := List.mem_singleton.1 hw
    obtain rfl : n.id = id := own
    refine ⟨rfl, n.remove.1, List.mem_map.2 ⟨n, (mem_kept.1 hn).1, if_pos rfl⟩, rfl, rfl⟩
  | joined c d =>
    obtain rfl := List.mem_singleton.1 hw
    cases last

/-- Nothing comes of a node after it was removed. -/
def Final (es : List Event) : Prop :=
  es.Pairwise fun e e' => ∀ id, e.state? = some (id, .decommissioned) → e'.node? ≠ some id

/-- The events of a store: nothing comes after a node was removed, and it was. -/
structure Settled (st : ControllerStore) (es : List Event) : Prop where
  final : Final es
  buried : ∀ e ∈ es, ∀ id, e.state? = some (id, .decommissioned) → st.Buried id

theorem settled_moves (h : st.Settled es) (apart : (st.nodes.map (·.id)).Nodup)
    (fresh : ∀ v ∈ st.nodes, v.id ≠ st.nextId) (moves : st.Moves l ws st') :
    st'.Settled (es ++ ws.map News.event) where
  final := by
    refine List.pairwise_append.2 ⟨h.final, ?_, ?_⟩
    · -- whatever tells of a removal comes alone
      by_cases quiet : ∀ w ∈ ws, ∀ id, w.event.state? ≠ some (id, .decommissioned)
      · refine List.pairwise_of_forall_mem_list fun e he e' _ id last => ?_
        obtain ⟨w, hw, rfl⟩ := List.mem_map.1 he
        exact absurd last (quiet w hw id)
      · push Not at quiet
        obtain ⟨w, hw, id, last⟩ := quiet
        rw [(moves.last hw last).1]
        exact List.pairwise_singleton _ _
    · intro e he e' he' id last
      obtain ⟨w, hw, rfl⟩ := List.mem_map.1 he'
      have buried := h.buried e he id last
      rw [News.node?_event, Ne, Option.some.injEq]
      rcases moves.about hw with ⟨v, hv, own⟩ | new
      · exact own ▸ buried.not_kept apart hv
      · obtain ⟨y, hy, rfl, -⟩ := buried
        exact new ▸ Ne.symm (fresh y hy)
  buried := by
    refine List.forall_mem_append.2 ⟨fun e he id last => (h.buried e he id last).moves apart moves,
      fun e he id last => ?_⟩
    obtain ⟨w, hw, rfl⟩ := List.mem_map.1 he
    exact (moves.last hw last).2

end ControllerStore

end Engine

namespace Gateway

variable {g : Gateway} {n i : Nat} {s : Client.Session} {st : ControllerStore} {x : Happening}
  {key : StoreKey} {entries : Journal}

/-- What the sessions of a storage are told. -/
def toldOf (key : StoreKey) (g : Gateway) (entries : Journal) : List Event :=
  entries.filterMap fun
    | .event m e => if g.keyOf? m = some key then some e else none
    | _ => none

/-- Everything that was told was told to sessions. -/
def Known (g : Gateway) (entries : Journal) : Prop :=
  ∀ entry ∈ entries, ∃ m e key, entry = .event m e ∧ g.keyOf? m = some key

theorem toldOf_happen (h : g.Homely) (x : Happening) (known : g.Known entries) :
    (g.happen x).toldOf key entries = g.toldOf key entries := by
  refine List.filterMap_congr fun entry hentry => ?_
  obtain ⟨m, e, key', rfl, own⟩ := known entry hentry
  simp only [own, keyOf?_happen h x own]

theorem Known.happen (h : g.Homely) (known : g.Known entries) (x : Happening) :
    (g.happen x).Known entries := by
  intro entry hentry
  obtain ⟨m, e, key, rfl, own⟩ := known entry hentry
  exact ⟨m, e, key, rfl, keyOf?_happen h x own⟩

theorem toldOf_append (entries' : Journal) : g.toldOf key (entries ++ entries') =
    g.toldOf key entries ++ g.toldOf key entries' :=
  List.filterMap_append

theorem toldOf_news {m : Nat} {key' : StoreKey} (own : g.keyOf? m = some key') (ws : List News) :
    g.toldOf key (ws.map (Listener.sink m).entry) =
      if key' = key then ws.map News.event else [] := by
  simp only [toldOf, List.filterMap_map, Function.comp_def, Listener.entry, own, Option.some.injEq]
  split
  · exact congrFun List.filterMap_eq_map ws
  · exact List.filterMap_none ws

theorem frame_bound (l : Listener) (st : ControllerStore) : (st.bound l).frame = st.frame :=
  frame_changeKept (f := fun v => { v with listener := l }) (fun _ => rfl) st

theorem frame_darkened (st : ControllerStore) : st.darkened.frame = st.frame :=
  frame_changeKept (f := fun v => { v with connected := false }) (fun _ => rfl) st

/-- A session that begins binds nodes and disconnects them, and no more. -/
theorem framed_begun (h : g.Homely) (hst : g.engine.controllerStores[i]? = some st) (m : Nat) :
    ∃ st', (g.initSession m).2.engine.controllerStores[i]? = some st' ∧ st'.key = st.key ∧
      st'.frame = st.frame := by
  rcases begun_cases h m with ⟨-, run⟩ | ⟨s, e', -, -, run, life⟩
  · exact ⟨st, by rwa [run], rfl, rfl⟩
  have opened : ∃ st', (s.opened g.engine).controllerStores[i]? = some st' ∧ st'.key = st.key ∧
      st'.frame = st.frame := by
    refine ⟨_, State.store_withController h.keys hst, ?_⟩
    split
    · exact ⟨rfl, frame_bound _ st⟩
    · exact ⟨rfl, rfl⟩
  obtain ⟨st', hst', key, same⟩ := opened
  rw [run]
  rcases life with ⟨-, rfl⟩ | ⟨k, c, st'', -, -, -, rfl⟩
  · exact ⟨st', hst', key, same⟩
  · refine ⟨_, State.store_withoutController hst', ?_⟩
    split
    · exact ⟨key, (frame_darkened st').trans same⟩
    · exact ⟨key, same⟩

/-- A store makes a move, or its nodes stay the same. -/
theorem store_framed (h : g.Homely) (hst : g.engine.controllerStores[i]? = some st)
    (x : Happening) : ∃ st', (g.happen x).engine.controllerStores[i]? = some st' ∧
      st'.key = st.key ∧ ((∃ l, st.Moves l (g.notices i x) st') ∨ st'.frame = st.frame) := by
  by_cases begins : g.Begins st.key x
  · obtain ⟨m, rfl, -⟩ := begins_cases begins
    obtain ⟨st', hst', key, same⟩ := framed_begun h hst m
    exact ⟨st', hst', key, .inr same⟩
  by_cases ends : g.Ends st.key x
  · obtain ⟨m, rfl, -⟩ := ends_cases ends
    rcases store_ended h hst m with same | ⟨-, after⟩
    · exact ⟨st, same, rfl, .inr rfl⟩
    · exact ⟨st.darkened, after, rfl, .inr (frame_darkened st)⟩
  obtain ⟨st', l, others, turns⟩ := store_happen h hst begins ends
  exact ⟨st', turns.store, turns.moves.key, .inl ⟨l, turns.moves⟩⟩

/-- A node of a storage that was removed. -/
def Buried (g : Gateway) (key : StoreKey) (id : Nat) : Prop :=
  ∃ (i : Nat) (st : ControllerStore), g.engine.controllerStores[i]? = some st ∧ st.key = key ∧
    st.Buried id

/-- Whoever was removed stays so. -/
theorem Buried.happen (h : g.Homely) {id : Nat} (buried : g.Buried key id) (x : Happening) :
    (g.happen x).Buried key id := by
  obtain ⟨i, st, hst, own, buried⟩ := buried
  obtain ⟨st', hst', same, ⟨l, moves⟩ | frame⟩ := store_framed h hst x
  · exact ⟨i, st', hst', same.trans own,
      buried.moves (h.apart st (List.mem_of_getElem? hst)) moves⟩
  · exact ⟨i, st', hst', same.trans own, buried.frame frame⟩

/-- What was told of a storage: nothing comes after a node was removed, and it was. -/
structure Mourns (g : Gateway) (key : StoreKey) (es : List Event) : Prop where
  final : ControllerStore.Final es
  buried : ∀ e ∈ es, ∀ id, e.state? = some (id, .decommissioned) → g.Buried key id

variable {es : List Event} {st' : ControllerStore} {l : Listener} {ws : List News}

theorem Mourns.happen (m : g.Mourns key es) (h : g.Homely) (x : Happening) :
    (g.happen x).Mourns key es :=
  ⟨m.final, fun e he id last => (m.buried e he id last).happen h x⟩

theorem Mourns.settled (m : g.Mourns st.key es) (h : g.Homely)
    (hst : g.engine.controllerStores[i]? = some st) : st.Settled es where
  final := m.final
  buried := by
    intro e he id last
    obtain ⟨j, st', hst', key, buried⟩ := m.buried e he id last
    obtain rfl := h.inj hst' hst key
    cases hst.symm.trans hst'
    exact buried

theorem Mourns.moves (m : g.Mourns st.key es) (h : g.Homely)
    (hst : g.engine.controllerStores[i]? = some st) (moves : st.Moves l ws st')
    (after : (g.happen x).engine.controllerStores[i]? = some st') :
    (g.happen x).Mourns st.key (es ++ ws.map News.event) := by
  have there := List.mem_of_getElem? hst
  have settled := ControllerStore.settled_moves (m.settled h hst) (h.apart st there)
    (h.fresh there) moves
  exact ⟨settled.final, fun e he id last =>
    ⟨i, st', after, moves.key, settled.buried e he id last⟩⟩

/-- Sessions were told, and every storage mourns by what they were told. -/
structure Quieted (g : Gateway) : Prop where
  homely : g.Homely
  known : g.Known g.engine.journal
  mourns : ∀ key, g.Mourns key (g.toldOf key g.engine.journal)

theorem Quieted.stirred (q : g.Quieted) {w : Stir} (stir : g.stir? x = some (i, w)) :
    (g.happen x).Known (g.tidings x) ∧
      ∀ key, (g.happen x).Mourns key
        ((g.happen x).toldOf key (g.engine.journal ++ g.tidings x)) := by
  have home := q.homely
  obtain ⟨st, hst, moves, m, sink, hears⟩ := home.moves stir
  have own := keyOf?_happen home x hears.key
  have after : (g.happen x).engine.controllerStores[i]? = some w.store := by
    rw [happen_stir home stir]
    exact (store_stirred hst i w).trans (by rw [if_pos rfl])
  -- sessions keep their storages, so what was told is told of the same ones
  simp only [tidings, stir, sink, toldOf_append, toldOf_happen home x q.known, toldOf_news own]
  refine ⟨fun entry hentry => ?_, fun key => ?_⟩
  · obtain ⟨news, -, rfl⟩ := List.mem_map.1 hentry
    exact ⟨m, news.event, st.key, rfl, own⟩
  · by_cases same : st.key = key
    · subst same
      rw [if_pos rfl]
      exact (q.mourns st.key).moves home hst moves after
    · rw [if_neg same, List.append_nil]
      exact (q.mourns key).happen home x

theorem Quieted.happen (q : g.Quieted) (x : Happening) : (g.happen x).Quieted := by
  have home := q.homely
  have told : (g.happen x).Known (g.tidings x) ∧
      ∀ key, (g.happen x).Mourns key
        ((g.happen x).toldOf key (g.engine.journal ++ g.tidings x)) := by
    cases stir : g.stir? x with
    | none =>
      simp only [tidings, stir, List.append_nil, toldOf_happen home x q.known]
      exact ⟨List.forall_mem_nil _, fun key => (q.mourns key).happen home x⟩
    | some iw => exact q.stirred stir
  refine ⟨homely_happen home x, ?_, ?_⟩
  · rw [journal_happen home]
    exact List.forall_mem_append.2 ⟨q.known.happen home x, told.1⟩
  · rw [journal_happen home]
    exact told.2

theorem quieted_initial : initial.Quieted :=
  ⟨homely_initial, List.forall_mem_nil _, fun _ => ⟨List.Pairwise.nil, List.forall_mem_nil _⟩⟩

/-- After every run, nothing comes of a node after it was removed. -/
theorem quieted_after (q : g.Quieted) (xs : List Happening) : (g.after xs).Quieted := by
  induction xs generalizing g with
  | nil => exact q
  | cons x xs ih => exact ih (q.happen x)

/-! ## What a session lists -/

/-- What a session is told of its storage. -/
theorem Follows.heardBy {st' : ControllerStore} {others : Journal}
    (f : g.Follows n i st x st' others) (own : g.keyOf? n = some st.key) :
    (g.tidings x).heardBy n = (g.notices i x).map News.event := by
  have told := Journal.heardBy_entries n (.sink n) (g.notices i x)
  rw [if_pos rfl] at told
  rw [f.tidings, Journal.heardBy_append, to_others f.others own, List.append_nil]
  exact told

/-- A session that works on its storage, which is followed by its events. -/
structure Watches (g : Gateway) (n i : Nat) (s : Client.Session) (st : ControllerStore)
    (es : List Event) : Prop where
  session : g.sessions[n]? = some (.client s)
  tuned : g.Tuned n i st
  followed : st.Followed es

theorem Watches.happen {es : List Event} (w : g.Watches n i s st es) (calm : g.Calm st.key x) :
    ∃ st', (g.happen x).Watches n i s st' (es ++ (g.tidings x).heardBy n) ∧ st'.key = st.key := by
  obtain ⟨st', others, f⟩ := w.tuned.follows calm.1
  have home := w.tuned.homely
  refine ⟨st', ⟨calm.session home w.tuned.own w.session, f.tuned, ?_⟩, f.key⟩
  rw [f.heardBy w.tuned.own]
  rcases f.moves with ⟨l, moves⟩ | ⟨ends, -⟩
  · exact ControllerStore.followed_moves w.followed
      (home.fresh (List.mem_of_getElem? w.tuned.store)) moves
  · exact absurd ends calm.2

theorem Watches.after (w : g.Watches n i s st []) (xs : List Happening)
    (calm : g.Throughout (Calm st.key) xs) :
    ∃ st', (g.after xs).Watches n i s st' ((g.chronicle xs).heardBy n) ∧ st'.key = st.key := by
  refine run_induction (J := [])
    (I := fun g J => ∃ st', g.Watches n i s st' (J.heardBy n) ∧ st'.key = st.key) ?_ xs calm
    ⟨st, w, rfl⟩
  rintro g J x calm ⟨st', watches, key⟩
  obtain ⟨st'', watches, key'⟩ := watches.happen (key ▸ calm)
  rw [Journal.heardBy_append]
  exact ⟨st'', watches, key'.trans key⟩

/-- What a session lists is what it was told: of the nodes that it has, those are connected of
    which it was told so last. -/
structure Shows (n : Nat) (es : List Event) (g : Gateway) : Prop where
  shows : ∀ r r', Errand.ofRequest r = .ok .list → Errand.ofRequest r' = .ok .sessions →
    ∃ ids infos, (g.handle n r).1 = some (.ok r.id (.arr ids)) ∧
      (g.handle n r').1 = some (.ok r'.id (.arr infos)) ∧
      ∀ id, id ∈ infos.filterMap (natField "peerNodeId") ↔
        id ∈ ids.filterMap Json.nat? ∧ lastState? id es = some .connected

theorem peers_live (c : Controller) (st : ControllerStore) :
    (st.live c).filterMap (natField "peerNodeId") = (st.kept.filter (·.connected)).map (·.id) := by
  rw [ControllerStore.live, List.filterMap_map, ← List.filterMap_eq_map]
  refine List.filterMap_congr fun v _ => ?_
  simp [natField, Json.ofPairs, Fields.ofList, Json.get?, Fields.get?_insert_self,
    Fields.get?_insert_of_ne]

theorem Watches.shows {es : List Event} (w : g.Watches n i s st es) (opened : s.controller.isSome) :
    g.Shows n es := by
  obtain ⟨c, st', staffed⟩ := w.tuned.homely.staffed w.session opened
  obtain rfl : st' = st := by
    have key := Option.some.inj (staffed.keyOf?.symm.trans w.tuned.own)
    have same := w.tuned.homely.inj staffed.store w.tuned.store key
    exact Option.some.inj (staffed.store.symm.trans (same ▸ w.tuned.store))
  refine ⟨fun r r' list sessions => ⟨(st'.kept.map (·.id)).map .ofNat, st'.live c, ?_, ?_,
    fun id => ?_⟩⟩
  · rw [handle_staffed w.tuned.homely staffed list]
    rfl
  · rw [handle_staffed w.tuned.homely staffed sessions]
    rfl
  · have ids : ((st'.kept.map (·.id)).map Json.ofNat).filterMap Json.nat? =
        st'.kept.map (·.id) := by
      rw [List.filterMap_map]
      exact List.filterMap_some
    rw [peers_live, ids]
    constructor
    · intro there
      obtain ⟨v, hv, rfl⟩ := List.mem_map.1 there
      obtain ⟨hv, linked⟩ := List.mem_filter.1 hv
      refine ⟨List.mem_map_of_mem hv, ?_⟩
      rw [w.followed v hv] at linked
      exact linkedAfter_false.1 linked
    · rintro ⟨there, last⟩
      obtain ⟨v, hv, rfl⟩ := List.mem_map.1 there
      refine List.mem_map_of_mem (List.mem_filter.2 ⟨hv, ?_⟩)
      exact (w.followed v hv).trans (linkedAfter_false.2 last)

/-- The nodes of a session that begins are followed from then on. -/
theorem Fresh.watches (f : g.Fresh n s) (h : g.Homely) : ∃ i st,
    (g.happen (.deed (.initialised n))).Watches n i (s.begun g.engine) st [] ∧
      st.key = s.params.controllerConfig.key := by
  obtain ⟨i, st, tuned, key, dark⟩ := f.tuned h
  exact ⟨i, st, ⟨f.sessions h, tuned, dark⟩, key⟩

/-- From the beginning of a session to its end, it shows as connected those of its nodes of which
    it was told so last; and nothing is ever told of a node after it was removed. -/
theorem presence (past rest : List Happening) {n : Nat} {s : Client.Session}
    (fresh : (initial.after past).Fresh n s) :
    let g := (initial.after past).happen (.deed (.initialised n))
    let key := s.params.controllerConfig.key
    g.Throughout (Calm key) rest →
      ∃ told, (g.after rest).engine.journal = g.engine.journal ++ told ∧
        (g.after rest).Shows n (told.heardBy n) ∧
        ∀ later, let g' := (g.after rest).after later
          ControllerStore.Final (g'.toldOf key g'.engine.journal) := by
  intro g key calm
  have quieted := quieted_after quieted_initial past
  obtain ⟨i, st, watches, own⟩ := fresh.watches quieted.homely
  obtain ⟨st', after, -⟩ := watches.after rest (own ▸ calm)
  exact ⟨g.chronicle rest, journal_after watches.tuned.homely rest, after.shows rfl, fun later =>
    ((quieted_after (quieted_after (quieted.happen _) rest) later).mourns key).final⟩

/-- The client that comes back removes the bulb. -/
theorem presence_hallway :
    let g := (initial.after returning).happen (.deed (.initialised 1))
    let rest : List Happening :=
      [.deed (.asked 1 (onNodes "reconnectNode" [.ofNat 1])),
        .deed (.asked 1 (onNodes "removeNode" [.ofNat 1]))]
    (initial.after returning).Fresh 1 ⟨hallway, 1, none⟩ ∧
      g.Throughout (Calm hallway.controllerConfig.key) rest ∧
      ∃ told, (g.after rest).engine.journal = g.engine.journal ++ told ∧
        (g.after rest).Shows 1 (told.heardBy 1) ∧
        ∀ later, let g' := (g.after rest).after later
          ControllerStore.Final (g'.toldOf hallway.controllerConfig.key g'.engine.journal) := by
  have calm : ((initial.after returning).happen (.deed (.initialised 1))).Throughout
      (Calm hallway.controllerConfig.key)
      [.deed (.asked 1 (onNodes "reconnectNode" [.ofNat 1])),
        .deed (.asked 1 (onNodes "removeNode" [.ofNat 1]))] :=
    ⟨⟨id, id⟩, ⟨id, id⟩, trivial⟩
  exact ⟨fresh_returning, calm, presence returning _ fresh_returning calm⟩

end Gateway

end HomeGateway
