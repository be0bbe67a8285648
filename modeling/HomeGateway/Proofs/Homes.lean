/-
  What stays so in a home.

  Sessions that begin bind the nodes of their storage, and sessions that end
  disconnect them; everything else moves one store at most and is told to
  sessions of its storage only.

  * `homely_after`: homes stay homes in every run;
  * `journal_happen`: what is told;
  * `store_happen`, `store_begun`, `store_ended`: what a store comes to.
-/
import HomeGateway.Proofs.Happenings

namespace HomeGateway

open Engine Client Call

namespace Engine

/-- A store whose nodes tell someone else from now on. -/
def ControllerStore.bound (l : Listener) (st : ControllerStore) : ControllerStore :=
  st.changeKept fun v => { v with listener := l }

/-- A store whose nodes have lost their sessions. -/
def ControllerStore.darkened (st : ControllerStore) : ControllerStore :=
  st.changeKept fun v => { v with connected := false }

theorem mem_kept_changeKept {st : ControllerStore} {f : Node → Node}
    (keeps : ∀ v, (f v).removed = v.removed) {v' : Node} :
    v' ∈ (st.changeKept f).kept ↔ ∃ v ∈ st.kept, v' = f v := by
  simp only [ControllerStore.mem_kept, ControllerStore.changeKept, List.mem_map]
  constructor
  · rintro ⟨⟨v, hv, rfl⟩, left⟩
    cases gone : v.removed with
    | true => simp [gone] at left
    | false => exact ⟨v, ⟨hv, gone⟩, by simp⟩
  · rintro ⟨v, ⟨hv, left⟩, rfl⟩
    exact ⟨⟨v, hv, by simp [left]⟩, (keeps v).trans left⟩

theorem mem_kept_bound {st : ControllerStore} {l : Listener} {v' : Node} :
    v' ∈ (st.bound l).kept ↔ ∃ v ∈ st.kept, v' = { v with listener := l } :=
  mem_kept_changeKept (f := fun v => { v with listener := l }) fun _ => rfl

theorem mem_kept_darkened {st : ControllerStore} {v' : Node} :
    v' ∈ st.darkened.kept ↔ ∃ v ∈ st.kept, v' = { v with connected := false } :=
  mem_kept_changeKept (f := fun v => { v with connected := false }) fun _ => rfl

namespace State

variable {e : State} {keyOf : Nat → Option StoreKey} {used used' : StoreKey → Prop} {i k : Nat}
  {st st' : ControllerStore} {w : Stir} {c : Controller} {config : ControllerConfig} {l : Listener}

/-! ### Stores of controllers that come and go -/

/-- The place of a storage among the stores that are ready. -/
theorem readyFile_eq (keys : (e.controllerStores.map (·.key)).Nodup) {key : StoreKey}
    (hst : e.controllerStores[i]? = some st) : (e.readyFile key).2 = i ↔ st.key = key := by
  obtain ⟨own, stays⟩ := readyFile_spec key e
  constructor
  · rintro rfl
    rw [stays _ st hst, Option.map_some, Option.some.injEq] at own
    exact own
  · intro same
    unfold readyFile
    cases found : e.controllerStores.findIdx? (·.key = key) with
    | none => simpa [same] using List.findIdx?_eq_none_iff.1 found st (List.mem_of_getElem? hst)
    | some j =>
      obtain ⟨lt, holds, -⟩ := List.findIdx?_eq_some_iff_getElem.1 found
      refine (List.getElem?_inj (by rwa [List.length_map]) keys).1 ?_
      rw [List.getElem?_map, List.getElem?_map, hst, List.getElem?_eq_getElem lt]
      simpa [same] using holds

/-- A store after a controller was made. -/
theorem store_withController (keys : (e.controllerStores.map (·.key)).Nodup)
    (hst : e.controllerStores[i]? = some st) :
    (e.withController config l).controllerStores[i]? =
      some (if st.key = config.key then st.bound l else st) := by
  have place : (e.readyFile config.key).2 = i ↔ st.key = config.key := readyFile_eq keys hst
  show ((e.readyFile config.key).1.modify (e.readyFile config.key).2 _)[i]? = _
  rw [List.getElem?_modify, (readyFile_spec config.key e).2 i st hst]
  by_cases own : st.key = config.key
  · simp [own, place.2 own, ControllerStore.bound]
  · simp [own, mt place.1 own]

/-- A store after a controller was closed. -/
theorem store_withoutController (hst : e.controllerStores[i]? = some st) :
    (e.withoutController k c).controllerStores[i]? =
      some (if i = c.store then st.darkened else st) := by
  show (e.controllerStores.modify c.store _)[i]? = _
  rw [List.getElem?_modify, hst]
  by_cases own : i = c.store
  · simp [own, ControllerStore.darkened]
  · simp [own, Ne.symm own]

/-- A store after a controller was made is one that was there, or it has no nodes. -/
theorem mem_withController (keys : (e.controllerStores.map (·.key)).Nodup)
    (h : st' ∈ (e.withController config l).controllerStores) : (∃ (i : Nat) (st : ControllerStore),
      e.controllerStores[i]? = some st ∧ st' = if st.key = config.key then st.bound l else st) ∨
      st'.kept = [] := by
  obtain ⟨i, hi⟩ := List.mem_iff_getElem?.1 h
  by_cases lt : i < e.controllerStores.length
  · have hst := List.getElem?_eq_getElem lt
    rw [store_withController keys hst] at hi
    exact .inl ⟨i, _, hst, (Option.some.inj hi).symm⟩
  · right
    unfold withController readyFile at hi
    cases found : e.controllerStores.findIdx? (·.key = config.key) with
    | some n =>
      simp only [found, List.getElem?_modify, List.getElem?_eq_none (Nat.le_of_not_lt lt)] at hi
      cases hi
    | none =>
      -- only the new store comes after those that were there
      simp only [found, List.getElem?_modify] at hi
      obtain ⟨new, hnew, rfl⟩ := Option.map_eq_some_iff.1 hi
      rw [List.getElem?_append_right (Nat.le_of_not_lt lt)] at hnew
      rw [List.mem_singleton.1 (List.mem_of_getElem? hnew)]
      split <;> rfl

theorem mem_withoutController (h : st' ∈ (e.withoutController k c).controllerStores) :
    ∃ (i : Nat) (st : ControllerStore), e.controllerStores[i]? = some st ∧
      st' = if i = c.store then st.darkened else st := by
  obtain ⟨i, hi⟩ := List.mem_iff_getElem?.1 h
  have lt : i < e.controllerStores.length := by
    have := (List.getElem?_eq_some_iff.1 hi).1
    rwa [withoutController, List.length_modify] at this
  rw [store_withoutController (List.getElem?_eq_getElem lt)] at hi
  exact ⟨i, _, List.getElem?_eq_getElem lt, (Option.some.inj hi).symm⟩

/-! ### Wires and lights -/

theorem mem_stirred (h : st' ∈ (e.stirred i w).controllerStores) :
    st' ∈ e.controllerStores ∨ st' = w.store :=
  List.mem_or_eq_of_mem_set h

theorem Wired.stirred (h : e.Wired keyOf) (hst : e.controllerStores[i]? = some st)
    (moves : st.Moves w.listener w.news w.store)
    (heard : ∃ m, w.listener = .sink m ∧ keyOf m = some st.key) : (e.stirred i w).Wired keyOf := by
  intro st' hst' v hv
  rcases mem_stirred hst' with old | rfl
  · exact h st' old v hv
  · rw [moves.key]
    rcases moves.listener hv with ⟨new, -⟩ | ⟨x, hx, same⟩
    · rwa [new]
    · rw [← same]
      exact h st (List.mem_of_getElem? hst) x hx

theorem Dark.stirred (h : e.Dark used) (hst : e.controllerStores[i]? = some st)
    (key : w.store.key = st.key)
    (lit : used st.key ∨ ∀ v ∈ w.store.kept, ∃ x ∈ st.kept, v.connected = x.connected) :
    (e.stirred i w).Dark used := by
  intro st' hst' unused v hv
  rcases mem_stirred hst' with old | rfl
  · exact h st' old unused v hv
  · rw [key] at unused
    obtain ⟨x, hx, same⟩ := lit.resolve_left unused v hv
    exact same.trans (h st (List.mem_of_getElem? hst) unused x hx)

theorem Wired.withController (h : e.Wired keyOf) (keys : (e.controllerStores.map (·.key)).Nodup)
    {n : Nat} (own : keyOf n = some config.key) :
    (e.withController config (.sink n)).Wired keyOf := by
  intro st' hst' v hv
  rcases mem_withController keys hst' with ⟨i, st, hst, rfl⟩ | empty
  · have old := h st (List.mem_of_getElem? hst)
    split at hv
    · rename_i same
      obtain ⟨x, -, rfl⟩ := mem_kept_bound.1 hv
      rw [if_pos same]
      exact ⟨n, rfl, same ▸ own⟩
    · rename_i other
      rw [if_neg other]
      exact old v hv
  · rw [empty] at hv
    cases hv

theorem Wired.withoutController (h : e.Wired keyOf) : (e.withoutController k c).Wired keyOf := by
  intro st' hst' v hv
  obtain ⟨i, st, hst, rfl⟩ := mem_withoutController hst'
  have old := h st (List.mem_of_getElem? hst)
  split at hv
  · rename_i same
    obtain ⟨x, hx, rfl⟩ := mem_kept_darkened.1 hv
    rw [if_pos same]
    exact old x hx
  · rename_i other
    rw [if_neg other]
    exact old v hv

theorem Dark.withController (h : e.Dark used) (keys : (e.controllerStores.map (·.key)).Nodup)
    (l : Listener) : (e.withController config l).Dark used := by
  intro st' hst' unused v hv
  rcases mem_withController keys hst' with ⟨i, st, hst, rfl⟩ | empty
  · have old := h st (List.mem_of_getElem? hst)
    split at hv
    · rename_i same
      rw [if_pos same] at unused
      obtain ⟨x, hx, rfl⟩ := mem_kept_bound.1 hv
      exact old unused x hx
    · rename_i other
      rw [if_neg other] at unused
      exact old unused v hv
  · rw [empty] at hv
    cases hv

/-- The nodes of a controller that is closed lose their sessions, so its storage need not be in
    use any more. -/
theorem Dark.withoutController (h : e.Dark used) (hst : e.controllerStores[c.store]? = some st)
    (keys : (e.controllerStores.map (·.key)).Nodup)
    (still : ∀ key, used key → key = st.key ∨ used' key) :
    (e.withoutController k c).Dark used' := by
  intro st' hst' unused v hv
  obtain ⟨j, old, hj, rfl⟩ := mem_withoutController hst'
  split at hv
  · obtain ⟨x, -, rfl⟩ := mem_kept_darkened.1 hv
    rfl
  · rename_i other
    rw [if_neg other] at unused
    refine h old (List.mem_of_getElem? hj) (fun was => ?_) v hv
    rcases still _ was with same | is
    · refine other ((List.getElem?_inj ?_ keys).1 ?_)
      · rw [List.length_map]
        exact (List.getElem?_eq_some_iff.1 hj).1
      · rw [List.getElem?_map, List.getElem?_map, hj, hst, Option.map_some, Option.map_some, same]
    · exact unused is

end State

/-! ## What a session is told -/

namespace Journal

/-- The events for a session. -/
def heardBy (n : Nat) (entries : Journal) : List Event :=
  entries.filterMap fun
    | .event m e => if m = n then some e else none
    | _ => none

theorem heardBy_append (n : Nat) (entries entries' : Journal) :
    Journal.heardBy n (entries ++ entries') = entries.heardBy n ++ entries'.heardBy n :=
  List.filterMap_append

theorem heardBy_entries (n : Nat) (l : Listener) (ws : List News) :
    Journal.heardBy n (ws.map l.entry) = if l = .sink n then ws.map News.event else [] := by
  rw [Journal.heardBy, List.filterMap_map]
  cases l with
  | recorder => exact List.filterMap_none ws
  | sink m =>
    by_cases own : m = n
    · subst own
      rw [if_pos rfl, ← List.filterMap_eq_map]
      exact List.filterMap_congr fun w _ => if_pos rfl
    · rw [if_neg fun same => own (Listener.sink.inj same), ← List.filterMap_none ws]
      exact List.filterMap_congr fun w _ => if_neg own

end Journal

end Engine

/-! ## Every run -/

namespace Gateway

variable {g : Gateway} {n m i k : Nat} {s s' : Client.Session} {c : Controller} {e' : State}
  {st : ControllerStore}

theorem keyOf?_put (hn : g.sessions[n]? = some (.client s)) (s' : Client.Session)
    (params : s'.params = s.params) (e' : State) (m : Nat) :
    (g.put n (.client s') e').keyOf? m = g.keyOf? m := by
  unfold keyOf?
  rw [sessions_put hn]
  by_cases own : m = n
  · simp [own, hn, params]
  · rw [if_neg own]

theorem keyOf?_opened (p : Client.Params) (options : BridgeOptions) {key : StoreKey}
    (old : g.keyOf? m = some key) :
    (g.openSession (.client p) options).2.keyOf? m = some key := by
  have lt : m < g.sessions.length := by
    by_contra ge
    simp [keyOf?, List.getElem?_eq_none (Nat.le_of_not_lt ge)] at old
  simpa [keyOf?, openSession, List.getElem?_append_left lt] using old

/-- A storage stays in use while its sessions keep controllers. -/
theorem used_put (hn : g.sessions[n]? = some (.client s)) (s' : Client.Session)
    (params : s'.params = s.params) {key : StoreKey} (used : g.Used key)
    (open_ : s'.controller.isSome ∨ s.params.controllerConfig.key ≠ key) :
    (g.put n (.client s') e').Used key := by
  obtain ⟨m, t, hm, opened, rfl⟩ := used
  by_cases own : m = n
  · subst own
    cases hn.symm.trans hm
    refine ⟨m, s', ?_, open_.resolve_right fun other => other rfl, by rw [params]⟩
    rw [sessions_put hn, if_pos rfl]
  · refine ⟨m, t, ?_, opened, rfl⟩
    rw [sessions_put hn, if_neg own, hm]

/-- The beginning of a session: it gets a controller, and an earlier one is closed. -/
theorem begun_cases (h : g.Homely) (n : Nat) :
    (g.sessions[n]? = none ∧ (g.initSession n).2 = g) ∨
    ∃ s e', g.sessions[n]? = some (.client s) ∧ s.sink = n ∧
      (g.initSession n).2 = g.put n (.client (s.begun g.engine)) e' ∧
      ((s.controller = none ∧ e' = s.opened g.engine) ∨ ∃ k c st, s.controller = some k ∧
        g.engine.Desk k c st ∧ st.key = s.params.controllerConfig.key ∧
        e' = (s.opened g.engine).withoutController k c) := by
  cases hn : g.sessions[n]? with
  | none => exact .inl ⟨rfl, by simp [initSession, inSession, hn]⟩
  | some t =>
    obtain ⟨s, rfl, sink⟩ := h.manned.clients n t hn
    cases hs : s.controller with
    | none =>
      refine .inr ⟨s, _, rfl, sink, ?_, .inl ⟨hs, rfl⟩⟩
      simp only [initSession, inSession, hn, inClient, run_init h.manned.faults hs]
      rfl
    | some k =>
      obtain ⟨c, st, desk, -, key⟩ := h.manned.desk hn k hs
      refine .inr ⟨s, _, rfl, sink, ?_, .inr ⟨k, c, st, hs, desk, key, rfl⟩⟩
      simp only [initSession, inSession, hn, inClient,
        run_init_again h.manned.faults hs desk.controller]
      rfl

/-- The end of a session: its controller is closed. -/
theorem ended_cases (h : g.Homely) (n : Nat) :
    ((∀ s, g.sessions[n]? = some (.client s) → s.controller = none) ∧ g.shutdownSession n = g) ∨
    ∃ s k c st, g.sessions[n]? = some (.client s) ∧ s.controller = some k ∧
      g.engine.Desk k c st ∧ st.key = s.params.controllerConfig.key ∧
      g.shutdownSession n = g.put n (.client s.ended) (g.engine.withoutController k c) := by
  cases hn : g.sessions[n]? with
  | none => exact .inl ⟨nofun, by simp [shutdownSession, inSession, hn]⟩
  | some t =>
    obtain ⟨s, rfl, -⟩ := h.manned.clients n t hn
    cases hs : s.controller with
    | none =>
      refine .inl ⟨fun t ht => by cases ht; exact hs, ?_⟩
      have same : s.ended = s := by simp [Session.ended, ← hs]
      simp only [shutdownSession, inSession, hn, inClient, run_shutdown_vacant hs, same]
      exact put_self hn
    | some k =>
      obtain ⟨c, st, desk, -, key⟩ := h.manned.desk hn k hs
      refine .inr ⟨s, k, c, st, rfl, hs, desk, key, ?_⟩
      simp only [shutdownSession, inSession, hn, inClient,
        run_shutdown h.manned.faults hs desk.controller]
      rfl

theorem Homely.stirred (h : g.Homely) {x : Happening} {w : Stir} (stir : g.stir? x = some (i, w))
    (manned : (g.stirred (some (i, w))).Manned)
    (ledger : ∃ L : Ledger, L.Holds (g.stirred (some (i, w))).engine)
    (lit : ∀ st, g.engine.controllerStores[i]? = some st →
      g.Used st.key ∨ ∀ v ∈ w.store.kept, ∃ y ∈ st.kept, v.connected = y.connected) :
    (g.stirred (some (i, w))).Homely := by
  obtain ⟨st, hst, moves, m, sink, hears⟩ := h.moves stir
  exact ⟨manned, ledger, h.wired.stirred hst moves ⟨m, sink, hears.key⟩,
    h.dark.stirred hst moves.key (lit st hst)⟩

theorem homely_opened (h : g.Homely) (p : Client.Params) (options : BridgeOptions) :
    (g.openSession (.client p) options).2.Homely := by
  refine ⟨kept_opened h.manned p options, h.ledger, ?_, ?_⟩
  · intro st hst v hv
    obtain ⟨m, listener, key⟩ := h.wired st hst v hv
    exact ⟨m, listener, keyOf?_opened p options key⟩
  · intro st hst unused
    refine h.dark st hst fun ⟨m, t, hm, opened, key⟩ => unused ⟨m, t, ?_, opened, key⟩
    exact (List.getElem?_append_left (List.getElem?_eq_some_iff.1 hm).1).trans hm

theorem homely_initialised (h : g.Homely) (n : Nat) : (g.initSession n).2.Homely := by
  obtain ⟨L, holds⟩ := h.ledger
  obtain ⟨manned, ledger⟩ := kept_initialised h.manned holds n
  rcases begun_cases h n with ⟨-, same⟩ | ⟨s, e', hn, sink, run, life⟩
  · rwa [same]
  rw [run] at manned ledger ⊢
  have own : g.keyOf? n = some s.params.controllerConfig.key := by simp [keyOf?, hn]
  have wired : (s.opened g.engine).Wired (g.keyOf? ·) := by
    unfold Session.opened
    rw [sink]
    exact h.wired.withController h.keys own
  have dark : (s.opened g.engine).Dark g.Used := h.dark.withController h.keys _
  have used (key : StoreKey) (was : g.Used key) :
      (g.put n (.client (s.begun g.engine)) e').Used key :=
    used_put hn (s.begun g.engine) rfl was (.inl rfl)
  have keys := keyOf?_put hn (s.begun g.engine) rfl e'
  refine ⟨manned, ⟨L, ledger⟩, ?_, ?_⟩
  · simp only [keys]
    rcases life with ⟨-, rfl⟩ | ⟨k, c, st, -, -, -, rfl⟩
    · exact wired
    · exact wired.withoutController
  · rcases life with ⟨-, rfl⟩ | ⟨k, c, st, -, desk, -, rfl⟩
    · exact fun st hst unused => dark st hst fun key => unused (used _ key)
    · have apart : ((s.opened g.engine).controllerStores.map (·.key)).Nodup :=
        (holds_withController holds _ _).keys
      exact dark.withoutController (State.store_withController h.keys desk.store) apart
        fun key was => .inr (used key was)

theorem homely_ended (h : g.Homely) (n : Nat) : (g.shutdownSession n).Homely := by
  obtain ⟨L, holds⟩ := h.ledger
  obtain ⟨manned, ledger⟩ := kept_ended h.manned holds n
  rcases ended_cases h n with ⟨-, same⟩ | ⟨s, k, c, st, hn, hs, desk, key, run⟩
  · rwa [same]
  rw [run] at manned ledger ⊢
  refine ⟨manned, ⟨L, ledger⟩, ?_, ?_⟩
  · simp only [keyOf?_put hn s.ended rfl]
    exact h.wired.withoutController
  · refine h.dark.withoutController desk.store h.keys fun key' was => ?_
    by_cases own : s.params.controllerConfig.key = key'
    · exact .inl (own.symm.trans key.symm)
    · exact .inr (used_put hn s.ended rfl was (.inr own))

theorem homely_asked (h : g.Homely) (n : Nat) (r : Request) : (g.handle n r).2.Homely := by
  obtain ⟨L, holds⟩ := h.ledger
  obtain ⟨manned, ledger⟩ := kept_asked h.manned holds n r
  rw [handle_stir h] at manned ledger ⊢
  cases stir : g.stir? (.deed (.asked n r)) with
  | none => exact h
  | some iw =>
    obtain ⟨i, w⟩ := iw
    rw [stir] at manned ledger
    refine h.stirred stir manned ⟨_, ledger⟩ fun st hst => .inl ?_
    obtain ⟨c, st', a, staffed, rfl, -, -⟩ := asked_cases h stir
    cases hst.symm.trans staffed.store
    exact staffed.used

/-- What a device says moves no device and no node. -/
theorem unmoved_voice (h : g.Homely) {r : NodeRef} {endpoint : Nat} {cluster : String}
    {u : Utterance} {w : Stir} (voice : g.voice? r endpoint cluster u = some (i, w)) :
    g.engine.Unmoved (g.engine.stirred i w) := by
  obtain ⟨st, v, step, rfl, hst, found, said, rfl⟩ := voice_cases voice
  refine ⟨rfl, rfl, ?_, id⟩
  obtain ⟨lt, rfl⟩ := List.getElem?_eq_some_iff.1 hst
  show (g.engine.controllerStores.set r.store _).map _ = _
  rw [List.map_set, frame_put (h.apart _ (List.getElem_mem lt)) (found_kept found).2.1
    (Utterance.tells said).frame, ← List.map_set, List.set_getElem_self]

theorem homely_said (h : g.Homely) (r : NodeRef) (endpoint : Nat) (cluster : String)
    (u : Utterance) : (g.happen (.said r endpoint cluster u)).Homely := by
  obtain ⟨L, holds⟩ := h.ledger
  rw [said_stir h]
  cases voice : g.voice? r endpoint cluster u with
  | none => exact h
  | some iw =>
    obtain ⟨i, w⟩ := iw
    have unmoved := unmoved_voice h voice
    have keys := congrArg (List.map ControllerStore.key) unmoved.stores
    rw [List.map_map, List.map_map] at keys
    refine h.stirred (x := .said r endpoint cluster u) voice ?_
      ⟨L, holds.frames unmoved.devices unmoved.stores⟩ fun st hst => .inr fun v hv => ?_
    · exact ⟨h.manned.faults, h.manned.clients,
        fun n s k hn hk => (h.manned.desks n s k hn hk).same unmoved.controllers keys,
        h.manned.apart⟩
    · obtain ⟨st', x, step, rfl, hst', found, said, rfl⟩ := voice_cases voice
      cases hst.symm.trans hst'
      obtain ⟨kept, hx, -, -⟩ := found_kept found
      rcases (ControllerStore.mem_kept_put hx (Utterance.tells said).id).1 hv with ⟨rfl, -⟩ | old
      · exact ⟨x, kept, Utterance.connected_step said⟩
      · exact ⟨v, old.1, rfl⟩

theorem homely_happen (h : g.Homely) (x : Happening) : (g.happen x).Homely := by
  cases x with
  | said r endpoint cluster u => exact homely_said h r endpoint cluster u
  | deed x =>
    cases x with
    | opened p options => exact homely_opened h p options
    | initialised n => exact homely_initialised h n
    | asked n r => exact homely_asked h n r
    | ended n => exact homely_ended h n
    | added d =>
      obtain ⟨L, holds⟩ := h.ledger
      obtain ⟨manned, holds⟩ := kept_deed h.manned holds (.added d)
      exact ⟨manned, ⟨_, holds⟩, h.wired, h.dark⟩

theorem homely_initial : initial.Homely where
  manned := manned_initial
  ledger := ⟨_, Ledger.holds_empty⟩
  wired _ hst := nomatch hst
  dark _ hst := nomatch hst

theorem homely_after (h : g.Homely) (xs : List Happening) : (g.after xs).Homely := by
  induction xs generalizing g with
  | nil => exact h
  | cons x xs ih => exact ih (homely_happen h x)

/-! ## What is told, and what a store comes to -/

theorem journal_happen (h : g.Homely) (x : Happening) :
    (g.happen x).engine.journal = g.engine.journal ++ g.tidings x := by
  have stirs (run : g.happen x = g.stirred (g.stir? x)) :
      (g.happen x).engine.journal = g.engine.journal ++ g.tidings x := by
    rw [run, tidings]
    cases g.stir? x with
    | none => exact (List.append_nil _).symm
    | some iw => rfl
  cases x with
  | said r endpoint cluster u => exact stirs (said_stir h r endpoint cluster u)
  | deed x =>
    cases x with
    | opened | added => exact (List.append_nil _).symm
    | asked n r => exact stirs (handle_stir h n r)
    | initialised n =>
      refine Eq.trans ?_ (List.append_nil _).symm
      show (g.initSession n).2.engine.journal = _
      rcases begun_cases h n with ⟨-, run⟩ | ⟨s, e', -, -, run, ⟨-, rfl⟩ | ⟨k, c, st, -, -, -, rfl⟩⟩
      all_goals rw [run]
      all_goals rfl
    | ended n =>
      refine Eq.trans ?_ (List.append_nil _).symm
      show (g.shutdownSession n).engine.journal = _
      rcases ended_cases h n with ⟨-, run⟩ | ⟨s, k, c, st, -, -, -, -, run⟩
      all_goals rw [run]
      rfl

/-- What a device says is told to whoever listens to its node. -/
theorem journal_said (h : g.Homely) (hst : g.engine.controllerStores[i]? = some st) {v : Node}
    (hv : v ∈ st.kept) {endpoint : Nat} {cluster : String} {u : Utterance} {step : Node.Step}
    (said : u.step endpoint cluster v = .ok step) :
    (g.happen (.said ⟨i, v.id⟩ endpoint cluster u)).engine.journal =
      g.engine.journal ++ step.2.map v.listener.entry := by
  have found := find?_kept (h.apart st (List.mem_of_getElem? hst)) hv
  rw [journal_happen h, tidings, stir?]
  simp [voice?, hst, found, said, Except.toOption]

theorem journal_after (h : g.Homely) (xs : List Happening) :
    (g.after xs).engine.journal = g.engine.journal ++ g.chronicle xs := by
  induction xs generalizing g with
  | nil => exact (List.append_nil _).symm
  | cons x xs ih =>
    refine (ih (homely_happen h x)).trans ?_
    rw [journal_happen h, List.append_assoc]
    rfl

/-- A store after a session of its storage began. -/
theorem store_begun (h : g.Homely) (hst : g.engine.controllerStores[i]? = some st)
    (hn : g.sessions[n]? = some (.client s)) (vacant : s.controller = none) :
    (g.initSession n).2.engine.controllerStores[i]? =
      some (if st.key = s.params.controllerConfig.key then st.bound (.sink n) else st) := by
  rcases begun_cases h n with ⟨absent, -⟩ | ⟨s', e', hn', sink, run, life⟩
  · cases absent.symm.trans hn
  cases hn.symm.trans hn'
  rw [run, ← sink]
  rcases life with ⟨-, rfl⟩ | ⟨k, -, -, hs, -⟩
  · exact State.store_withController h.keys hst
  · cases vacant.symm.trans hs

/-- The beginning of a session leaves the stores of other storages alone. -/
theorem store_begun_other (h : g.Homely) (hst : g.engine.controllerStores[i]? = some st)
    (other : g.keyOf? n ≠ some st.key) :
    (g.initSession n).2.engine.controllerStores[i]? = some st := by
  rcases begun_cases h n with ⟨-, run⟩ | ⟨s, e', hn, -, run, life⟩
  · rwa [run]
  have apart : st.key ≠ s.params.controllerConfig.key := by
    rintro same
    simp [keyOf?, hn, same] at other
  have opened : (s.opened g.engine).controllerStores[i]? = some st :=
    (State.store_withController h.keys hst).trans (by rw [if_neg apart])
  rw [run]
  rcases life with ⟨-, rfl⟩ | ⟨k, c, st', -, desk, key, rfl⟩
  · exact opened
  · refine (State.store_withoutController opened).trans ?_
    rw [if_neg]
    rintro rfl
    cases hst.symm.trans desk.store
    exact apart key

/-- A store after a session ended. -/
theorem store_ended (h : g.Homely) (hst : g.engine.controllerStores[i]? = some st) (n : Nat) :
    (g.shutdownSession n).engine.controllerStores[i]? = some st ∨
      (g.keyOf? n = some st.key ∧
        (g.shutdownSession n).engine.controllerStores[i]? = some st.darkened) := by
  rcases ended_cases h n with ⟨-, run⟩ | ⟨s, k, c, st', hn, hs, desk, key, run⟩
  · exact .inl (by rwa [run])
  rw [run]
  have after := State.store_withoutController (k := k) (c := c) hst
  by_cases own : i = c.store
  · subst own
    cases hst.symm.trans desk.store
    rw [if_pos rfl] at after
    exact .inr ⟨by simp [keyOf?, hn, key], after⟩
  · rw [if_neg own] at after
    exact .inl after

theorem happen_stir (h : g.Homely) {x : Happening} {iw : Nat × Stir} (stir : g.stir? x = some iw) :
    g.happen x = g.stirred (some iw) := by
  rw [← stir]
  cases x with
  | said r endpoint cluster u => exact said_stir h r endpoint cluster u
  | deed x =>
    cases x with
    | asked n r => exact handle_stir h n r
    | _ => cases stir

theorem store_stirred (hst : g.engine.controllerStores[i]? = some st) (j : Nat) (w : Stir) :
    (g.engine.stirred j w).controllerStores[i]? = some (if j = i then w.store else st) := by
  have lt := (List.getElem?_eq_some_iff.1 hst).1
  show (g.engine.controllerStores.set j w.store)[i]? = _
  by_cases own : j = i
  · subst own
    rw [if_pos rfl, List.getElem?_set_self lt]
  · rw [if_neg own, List.getElem?_set_ne own, hst]

/-- What is done to a store, if anything, and who is told. -/
structure Turns (g : Gateway) (i : Nat) (st : ControllerStore) (x : Happening)
    (st' : ControllerStore) (l : Listener) (others : Journal) : Prop where
  store : (g.happen x).engine.controllerStores[i]? = some st'
  moves : st.Moves l (g.notices i x) st'
  hears : g.notices i x ≠ [] → ∃ m, l = .sink m ∧ g.Hears m st
  tidings : g.tidings x = (g.notices i x).map l.entry ++ others
  others : ∀ entry ∈ others, ∃ m e key, entry = .event m e ∧ g.keyOf? m = some key ∧ key ≠ st.key

/-- What is told to sessions of other storages. -/
theorem to_others {others : Journal} {key : StoreKey}
    (apart : ∀ entry ∈ others, ∃ m e key', entry = .event m e ∧ g.keyOf? m = some key' ∧ key' ≠ key)
    (own : g.keyOf? n = some key) : others.heardBy n = [] := by
  refine List.filterMap_eq_nil_iff.2 fun entry hentry => ?_
  obtain ⟨m, e, key', rfl, own', other⟩ := apart entry hentry
  refine if_neg ?_
  rintro rfl
  exact other (Option.some.inj (own'.symm.trans own))

theorem Turns.still {x : Happening} (idle : g.stir? x = none)
    (store : (g.happen x).engine.controllerStores[i]? = some st) (l : Listener) :
    g.Turns i st x st l [] := by
  have none : g.notices i x = [] := by rw [notices, idle]
  refine ⟨store, none ▸ .still l, fun some => absurd none some, ?_, List.forall_mem_nil _⟩
  rw [none, Gateway.tidings, idle]
  rfl

/-- A storage that no session of which begins or ends makes a move at most; what is told besides
    is for sessions of other storages. -/
theorem store_happen (h : g.Homely) (hst : g.engine.controllerStores[i]? = some st) {x : Happening}
    (begins : ¬g.Begins st.key x) (ends : ¬g.Ends st.key x) :
    ∃ st' l others, g.Turns i st x st' l others := by
  have stirs (run : g.happen x = g.stirred (g.stir? x)) :
      ∃ st' l others, g.Turns i st x st' l others := by
    cases stir : g.stir? x with
    | none =>
      rw [stir] at run
      exact ⟨st, .recorder, [], .still stir (run ▸ hst) _⟩
    | some jw =>
      obtain ⟨j, w⟩ := jw
      obtain ⟨st', hst', moves, m, sink, hears⟩ := h.moves stir
      have store := store_stirred hst j w
      rw [stir] at run
      by_cases own : j = i
      · subst own
        cases hst.symm.trans hst'
        have news : g.notices j x = w.news := by simp [notices, stir]
        rw [if_pos rfl] at store
        refine ⟨w.store, w.listener, [], run ▸ store, news ▸ moves, fun _ => ⟨m, sink, hears⟩, ?_,
          List.forall_mem_nil _⟩
        rw [Gateway.tidings, stir, news, List.append_nil]
      · have news : g.notices i x = [] := by simp [notices, stir, own]
        rw [if_neg own] at store
        refine ⟨st, .recorder, w.news.map w.listener.entry, run ▸ store, news ▸ .still _,
          fun some => absurd news some, ?_, ?_⟩
        · rw [Gateway.tidings, stir, news]
          rfl
        · intro entry hentry
          obtain ⟨news, -, rfl⟩ := List.mem_map.1 hentry
          rw [sink]
          exact ⟨m, news.event, st'.key, rfl, hears.key, fun same => own (h.inj hst' hst same)⟩
  cases x with
  | said r endpoint cluster u => exact stirs (said_stir h r endpoint cluster u)
  | deed x =>
    cases x with
    | opened | added => exact ⟨st, .recorder, [], .still rfl hst _⟩
    | asked n r => exact stirs (handle_stir h n r)
    | initialised n => exact ⟨st, .recorder, [], .still rfl (store_begun_other h hst begins) _⟩
    | ended n =>
      refine ⟨st, .recorder, [], .still rfl ?_ _⟩
      exact (store_ended h hst n).resolve_right fun both => ends both.1

/-! ## Sessions -/

theorem sessions_stirred (o : Option (Nat × Stir)) : (g.stirred o).sessions = g.sessions := by
  cases o <;> rfl

/-- A session is as it was, unless it begins or ends or was not there before. -/
theorem session_cases (h : g.Homely) (x : Happening) (m : Nat) :
    (g.happen x).sessions[m]? = g.sessions[m]? ∨
    (∃ s s', g.sessions[m]? = some (.client s) ∧ (g.happen x).sessions[m]? = some (.client s') ∧
      s'.params = s.params ∧
      (x = .deed (.initialised m) ∨ (x = .deed (.ended m) ∧ s'.controller = none))) ∨
    (g.sessions[m]? = none ∧ ∃ s', (g.happen x).sessions[m]? = some (.client s') ∧
      s'.controller = none) := by
  have same {g' : Gateway} (run : g' = g) : g'.sessions[m]? = g.sessions[m]? := by rw [run]
  cases x with
  | said r endpoint cluster u => exact .inl (by rw [said_stir h, sessions_stirred])
  | deed x =>
    cases x with
    | added => exact .inl rfl
    | opened p options =>
      show (g.sessions ++ [_])[m]? = _ ∨ _
      rcases Nat.lt_trichotomy m g.sessions.length with lt | rfl | gt
      · exact .inl (List.getElem?_append_left lt)
      · exact .inr (.inr ⟨List.getElem?_eq_none (Nat.le_refl _), _,
          List.getElem?_concat_length, rfl⟩)
      · refine .inl ?_
        rw [List.getElem?_eq_none, List.getElem?_eq_none (Nat.le_of_lt gt)]
        rw [List.length_append, List.length_singleton]
        omega
    | asked n r =>
      left
      show (g.handle n r).2.sessions[m]? = _
      rw [handle_stir h, sessions_stirred]
    | initialised n =>
      show (g.initSession n).2.sessions[m]? = _ ∨
        (∃ s s', _ ∧ (g.initSession n).2.sessions[m]? = _ ∧ _) ∨ _
      rcases begun_cases h n with ⟨-, run⟩ | ⟨s, e', hn, -, run, -⟩
      · exact .inl (same run)
      · rw [run, sessions_put hn]
        by_cases own : m = n
        · subst own
          exact .inr (.inl ⟨s, s.begun g.engine, hn, if_pos rfl, rfl, .inl rfl⟩)
        · exact .inl (if_neg own)
    | ended n =>
      show (g.shutdownSession n).sessions[m]? = _ ∨
        (∃ s s', _ ∧ (g.shutdownSession n).sessions[m]? = _ ∧ _) ∨ _
      rcases ended_cases h n with ⟨-, run⟩ | ⟨s, k, c, st, hn, -, -, -, run⟩
      · exact .inl (same run)
      · rw [run, sessions_put hn]
        by_cases own : m = n
        · subst own
          exact .inr (.inl ⟨s, s.ended, hn, if_pos rfl, rfl, .inr ⟨rfl, rfl⟩⟩)
        · exact .inl (if_neg own)

theorem session_happen (h : g.Homely) {x : Happening} (begins : x ≠ .deed (.initialised n))
    (ends : x ≠ .deed (.ended n)) {t : HomeGateway.Session} (hn : g.sessions[n]? = some t) :
    (g.happen x).sessions[n]? = some t := by
  rcases session_cases h x n with same | ⟨_, _, -, -, -, begun | ⟨ended, -⟩⟩ | ⟨absent, -⟩
  · rw [same, hn]
  · exact absurd begun begins
  · exact absurd ended ends
  · cases hn.symm.trans absent

theorem keyOf?_happen (h : g.Homely) (x : Happening) {key : StoreKey}
    (own : g.keyOf? n = some key) : (g.happen x).keyOf? n = some key := by
  unfold keyOf? at own ⊢
  rcases session_cases h x n with same | ⟨s, s', hn, hn', params, -⟩ | ⟨absent, -⟩
  · rwa [same]
  · rw [hn] at own
    simpa [hn', params] using own
  · simp [absent] at own

/-- Only a session that begins gets a controller. -/
theorem opened_happen (h : g.Homely) {x : Happening}
    (hn : (g.happen x).sessions[n]? = some (.client s')) (opened : s'.controller.isSome) :
    ∃ s, g.sessions[n]? = some (.client s) ∧
      s'.params = s.params ∧ (s.controller.isSome ∨ x = .deed (.initialised n)) := by
  rcases session_cases h x n with same | ⟨s, t, before, after, params, life⟩ | ⟨-, t, after, vacant⟩
  · exact ⟨s', same ▸ hn, rfl, .inl opened⟩
  · cases hn.symm.trans after
    refine ⟨s, before, params, .inr ?_⟩
    refine life.resolve_right fun ended => ?_
    simp [ended.2] at opened
  · cases hn.symm.trans after
    simp [vacant] at opened

/-- No session of a storage begins or ends. -/
def Calm (key : StoreKey) (g : Gateway) (x : Happening) : Prop :=
  ¬g.Begins key x ∧ ¬g.Ends key x

theorem Calm.session {x : Happening} {key : StoreKey} (calm : g.Calm key x) (h : g.Homely)
    (own : g.keyOf? n = some key) {t : HomeGateway.Session} (hn : g.sessions[n]? = some t) :
    (g.happen x).sessions[n]? = some t := by
  refine session_happen h ?_ ?_ hn
  · rintro rfl
    exact calm.1 own
  · rintro rfl
    exact calm.2 own

end Gateway

end HomeGateway
