/-
  Bridges that share a gateway.

  The engine keeps everything of all sessions in the same lists, and bridges
  with one storage path have their stores in one directory.  What belongs to a
  bridge is found under its id alone, under its id and its path, or under a
  number that only its session has; so bridges of different ids never come
  across each other, and each of them says what it would say if it were alone.

  * `State.Shelters`: nothing changed that belongs to a session;
  * `Touches.shelters`: a session leaves alone what belongs to another;
  * `Hosts.voice`: what a session says, its lodge says;
  * `voice_alone`: a session says the same with and without others.
-/
import HomeGateway.Proofs.Dealings

namespace HomeGateway

open Device Engine Bridge

/-! ## What belongs to a session -/

namespace Engine

/-- Nothing changed that belongs to session `m` or to a bridge of this id. -/
structure State.Shelters (m : Nat) (id : String) (e e' : State) : Prop where
  /-- the time -/
  now : e'.now = e.now
  /-- nothing is held up -/
  free : e.Free → e'.Free
  /-- which endpoints tell the session -/
  handles : e'.handlesFor m = e.handlesFor m
  /-- these endpoints -/
  endpoints : ∀ h ∈ e.handlesFor m, e'.endpoints[h]? = e.endpoints[h]?
  /-- which server node of the bridge is the newest -/
  newest : e'.newestServer? id = e.newestServer? id
  /-- the server nodes of the bridge and their aggregators -/
  servers : ∀ (k : Nat) (sv : Server), e.servers[k]? = some sv → sv.config.id = id →
    e'.servers[k]? = some sv ∧ ∀ a, sv.aggregator = some a → e'.aggregators[a]? = e.aggregators[a]?
  /-- which stores of the bridge are in use -/
  stores : ∀ key : StoreKey, key.id = id → e'.serverStore? key = e.serverStore? key
  /-- what they keep -/
  status : ∀ key : StoreKey, key.id = id → e'.status? key = e.status? key

namespace State.Shelters

variable {m : Nat} {id id' : String} {e e' e'' : State}

theorem refl (m : Nat) (id : String) (e : State) : e.Shelters m id e :=
  ⟨rfl, fun free => free, rfl, fun _ _ => rfl, rfl, fun _ _ hk _ => ⟨hk, fun _ _ => rfl⟩,
    fun _ _ => rfl, fun _ _ => rfl⟩

theorem trans (h : e.Shelters m id e') (h' : e'.Shelters m id e'') : e.Shelters m id e'' where
  now := h'.now.trans h.now
  free := fun free => h'.free (h.free free)
  handles := h'.handles.trans h.handles
  endpoints := fun k hk => (h'.endpoints k (h.handles.symm ▸ hk)).trans (h.endpoints k hk)
  newest := h'.newest.trans h.newest
  servers := by
    intro k sv hk own
    obtain ⟨same, members⟩ := h.servers k sv hk own
    obtain ⟨same', members'⟩ := h'.servers k sv same own
    exact ⟨same', fun a ha => (members' a ha).trans (members a ha)⟩
  stores := fun key own => (h'.stores key own).trans (h.stores key own)
  status := fun key own => (h'.status key own).trans (h.status key own)

/-- Only what belongs to another bridge changed, among server nodes. -/
theorem of_spares (spares : e.Spares ⟨.bridge, id'⟩ e') (other : id ≠ id') (now : e'.now = e.now)
    (newest : e'.newestServer? id = e.newestServer? id)
    (stores : ∀ key : StoreKey, key.id = id → e'.serverStore? key = e.serverStore? key)
    (status : ∀ key : StoreKey, key.id = id → e'.status? key = e.status? key) :
    e.Shelters m id e' where
  now := now
  free := fun free => ⟨spares.held.1.trans free.writes, spares.held.2.trans free.adds,
    spares.faults.trans free.faults⟩
  handles := handlesFor_congr (by rw [spares.endpoints])
  endpoints := fun _ _ => by rw [spares.endpoints]
  newest := newest
  servers := by
    intro k sv hk own
    have apart : (⟨.bridge, sv.config.id⟩ : Identity) ≠ ⟨.bridge, id'⟩ := fun same =>
      other (own.symm.trans (congrArg Identity.name same))
    obtain ⟨same, -, members⟩ := spares.servers k sv hk apart
    exact ⟨same, members⟩
  stores := stores
  status := status

end State.Shelters

end Engine

namespace Bridge

variable {n m : Nat} {s s' : Session} {e e' : State} {v : Lodge} {id : String}

/-- What is housed is so still if nothing of it changed. -/
theorem Houses.sheltered (h : Houses m s e v) (shelters : e.Shelters m s.params.uniqueId e') :
    Houses m s e' v := by
  obtain ⟨now, free, handles, endpoints, newest, servers, stores, status⟩ := shelters
  rw [h.params] at newest servers stores status
  have kept {x : VirtualEndpoint} {k : Nat} (hk : e.endpoints[k]? = some (.followed x))
      (aims : Aims m x) : e'.endpoints[k]? = some (.followed x) :=
    (endpoints k (State.mem_handlesFor.2 ⟨x, hk, aims⟩)).trans hk
  refine ⟨h.sink, h.params, h.options, h.clearNext, ⟨free h.grounded.free, fun l hl => ?_⟩,
    now.trans h.now, ⟨?_, ?_⟩, (status _ rfl).trans h.kept, ?_, ?_, ?_⟩
  · obtain ⟨y, -, stands⟩ := h.stays hl
    obtain ⟨sv, clear, hsv, config, -⟩ := stands.server
    have hb := h.grounded.backed l hl
    obtain ⟨_, hsv', aggregator⟩ := hb.server
    cases hsv.symm.trans hsv'
    obtain ⟨same, members⟩ := servers _ sv hsv (by rw [config]; rfl)
    refine ⟨⟨sv, same, aggregator⟩, (members _ aggregator).trans hb.aggregator, fun member hm => ?_,
      hb.handles, hb.ids, hb.pending⟩
    obtain ⟨x, hx, aims, named⟩ := hb.members member hm
    exact ⟨x, kept hx aims, aims, named⟩
  · rw [handles]
    exact h.stock.length
  · intro i k number
    rw [handles] at number
    obtain ⟨x, hx, there⟩ := h.at number
    exact ⟨x, hx, kept there rfl⟩
  · intro k own
    obtain ⟨sv, hsv, key, used, vacant⟩ := h.stored k (newest.symm.trans own)
    obtain ⟨same, -⟩ := servers k sv hsv (congrArg StoreKey.id key)
    exact ⟨sv, same, key, (stores _ rfl).trans used, vacant⟩
  · exact fun none => h.unstored (newest.symm.trans none)
  · refine h.stayed fun l y _ stands => ?_
    obtain ⟨sv, clear, hsv, config, rest⟩ := stands.server
    obtain ⟨same, -⟩ := servers _ sv hsv (by rw [config]; rfl)
    refine ⟨newest.trans stands.newest, ⟨sv, clear, same, config, rest⟩, ?_⟩
    rw [handles]
    exact stands.members

/-! ## What a session leaves alone -/

theorem shelters_withoutServer (order : e.InOrder) {k : Nat} {sv : Server}
    (hk : e.servers[k]? = some sv) (other : id ≠ sv.config.id) :
    e.Shelters m id (e.withoutServer k) :=
  .of_spares (sets_withoutServer order hk).spares other rfl
    (newestServer?_modify (f := .shut) rfl (fun _ => rfl) id) (fun _ _ => rfl) fun _ _ => rfl

theorem shelters_opened (order : e.InOrder) (s : Session) (other : id ≠ s.params.uniqueId) :
    e.Shelters m id (s.opened e) := by
  have stores : (s.opened e).serverStores =
      (e.readyStore (s.params.serverConfig s.clearNext)).1 := rfl
  have apart (key : StoreKey) (own : key.id = id) :
      key ≠ (s.params.serverConfig s.clearNext).key := fun same =>
    other (own.symm.trans (congrArg StoreKey.id same))
  refine .of_spares (sets_opened order s).spares other rfl ?_
    (fun key own => serverStore?_ready_of_ne stores (apart key own))
    fun key own => status?_ready_of_ne stores (apart key own)
  rw [State.newestServer?_concat rfl, if_neg]
  exact fun same => other same.symm

theorem shelters_closed (order : e.InOrder) (real : s.Real e) (other : id ≠ s.params.uniqueId) :
    e.Shelters m id (s.closed e) := by
  unfold Session.closed
  cases hl : s.live with
  | none => exact .refl m id e
  | some l =>
    obtain ⟨sv, hk, own⟩ := real l hl
    exact shelters_withoutServer order hk (own.symm ▸ other)

theorem inOrder_closed (order : e.InOrder) (s : Session) : (s.closed e).InOrder := by
  unfold Session.closed
  cases s.live with
  | none => exact order
  | some l => exact order.withoutServer l.server

theorem shelters_grown (order : e.InOrder) {l : Live} {sv : Server}
    (hk : e.servers[l.server]? = some sv) (aggregator : sv.aggregator = some l.aggregator)
    (other : id ≠ sv.config.id) (apart : m ≠ n) (d : Definition) (window : Nat) :
    e.Shelters m id (l.grown d window n e) where
  now := rfl
  free := fun free => ⟨free.writes, free.adds, free.faults⟩
  handles := by
    have elsewhere : ¬ (Bridged.followed (.make window n d)).sink? = some m := fun same =>
      apart (Option.some.inj same).symm
    rw [State.handlesFor_concat (b := .followed (.make window n d)) rfl, if_neg elsewhere,
      List.append_nil]
  endpoints := by
    intro h hh
    obtain ⟨x, hx, -⟩ := State.mem_handlesFor.1 hh
    exact List.getElem?_append_left (List.getElem?_eq_some_iff.1 hx).1
  newest := rfl
  servers := by
    intro k sv' hk' own
    refine ⟨hk', fun a ha => List.getElem?_set_ne ?_⟩
    -- no two server nodes share an aggregator
    rintro rfl
    cases order.apart _ _ _ _ _ hk hk' aggregator ha
    cases hk.symm.trans hk'
    exact other own.symm
  stores := fun _ _ => rfl
  status := fun _ _ => rfl

theorem shelters_put {h : Nat} {x x' : VirtualEndpoint}
    (there : e.endpoints[h]? = some (.followed x)) (aims : Aims n x) (aims' : Aims n x')
    (apart : m ≠ n) (told : Journal) : e.Shelters m id (e.put h (.followed x') told) where
  now := rfl
  free := fun free => ⟨free.writes, free.adds, free.faults⟩
  handles := by
    have sink : (Bridged.followed x').sink? = (Bridged.followed x).sink? :=
      congrArg some (aims'.trans aims.symm)
    exact State.handlesFor_put there sink told
  endpoints := by
    intro k hk
    refine List.getElem?_set_ne ?_
    rintro rfl
    obtain ⟨z, hz, own⟩ := State.mem_handlesFor.1 hk
    cases there.symm.trans hz
    exact apart (own.symm.trans aims)
  newest := rfl
  servers := fun _ _ hk _ => ⟨hk, fun _ _ => rfl⟩
  stores := fun _ _ => rfl
  status := fun _ _ => rfl

theorem shelters_changeServer {k : Nat} {sv : Server} (hk : e.servers[k]? = some sv)
    (other : id ≠ sv.config.id) {f : Server → Server} (frame : ∀ sv, (f sv).frame = sv.frame) :
    e.Shelters m id (e.changeServer k f) where
  now := rfl
  free := fun free => ⟨free.writes, free.adds, free.faults⟩
  handles := rfl
  endpoints := fun _ _ => rfl
  newest := newestServer?_modify rfl (fun sv => (Server.of_frame (frame sv)).1) id
  servers := by
    intro k' sv' hk' own
    refine ⟨?_, fun _ _ => rfl⟩
    show (e.servers.modify k f)[k']? = _
    rw [List.getElem?_modify_ne, hk']
    rintro rfl
    cases hk.symm.trans hk'
    exact other own.symm
  stores := fun _ _ => rfl
  status := fun _ _ => rfl

theorem shelters_markCommissioned {k : Nat} {sv : Server} (hk : e.servers[k]? = some sv)
    (own : (e.serverStores[sv.store]?).map (·.key) = some sv.config.key)
    (other : id ≠ sv.config.id) : e.Shelters m id (e.markCommissioned k) := by
  have frame (sv : Server) : ({ sv with windowOpen := false } : Server).frame = sv.frame := rfl
  have changed : e.Shelters m id (e.changeServer k fun sv => { sv with windowOpen := false }) :=
    shelters_changeServer hk other frame
  have status (key : StoreKey) (mine : key.id = id) :
      (e.markCommissioned k).status? key = e.status? key :=
    status?_markCommissioned_of_ne hk own fun same =>
      other (mine.symm.trans (congrArg StoreKey.id same.symm))
  have stores (key : StoreKey) := serverStore?_markCommissioned k key e
  rw [markCommissioned_eq hk] at status stores ⊢
  exact { changed with
    free := fun free => ⟨free.writes, free.adds, free.faults⟩
    stores := fun key _ => stores key
    status := status }

theorem Houses.newestOwn (h : Houses n s e v) {k : Nat}
    (newest : e.newestServer? s.params.uniqueId = some k) :
    ∃ sv, e.servers[k]? = some sv ∧ sv.config.id = s.params.uniqueId ∧
      (e.serverStores[sv.store]?).map (·.key) = some sv.config.key := by
  rw [h.params] at newest ⊢
  obtain ⟨sv, hsv, key, used, -⟩ := h.stored k newest
  obtain ⟨st, hst, same⟩ := serverStore?_eq_some used
  refine ⟨sv, hsv, congrArg StoreKey.id key, ?_⟩
  rw [hst, Option.map_some, same, key]

/-- A session leaves alone what belongs to another. -/
theorem Touches.shelters (touches : Touches n s e s' e') (h : Houses n s e v) (order : e.InOrder)
    (apart : m ≠ n) (other : id ≠ s.params.uniqueId) : e.Shelters m id e' := by
  cases touches with
  | still => exact .refl m id e
  | ended => exact shelters_closed order h.real other
  | renewed =>
    exact (shelters_closed order h.real other).trans
      (shelters_opened (inOrder_closed order s) s.ended other)
  | @joined l live d window =>
    obtain ⟨sv, hsv, aggregator⟩ := (h.grounded.backed l live).server
    obtain ⟨_, hsv', own⟩ := h.real l live
    cases hsv.symm.trans hsv'
    exact shelters_grown order hsv aggregator (own.symm ▸ other) apart d window
  | put there aims aims' told => exact shelters_put there aims aims' apart told
  | @switched l live f frame =>
    obtain ⟨sv, hsv, own⟩ := h.real l live
    exact shelters_changeServer hsv (own.symm ▸ other) frame
  | paired newest =>
    obtain ⟨sv, hsv, own, store⟩ := h.newestOwn newest
    exact shelters_markCommissioned hsv store (own.symm ▸ other)

/-- A session leaves everything in order. -/
theorem Touches.inOrder (touches : Touches n s e s' e') (h : Houses n s e v) (order : e.InOrder) :
    e'.InOrder := by
  cases touches with
  | still => exact order
  | ended => exact inOrder_closed order s
  | renewed => exact inOrder_opened (inOrder_closed order s) s.ended
  | joined => exact order.keeps ⟨rfl, rfl, rfl, rfl, List.length_set, rfl⟩
  | put => exact order.keeps ⟨rfl, rfl, rfl, rfl, rfl, rfl⟩
  | switched _ frame => exact order.keeps (keeps_changeServer _ e frame)
  | @paired k newest =>
    obtain ⟨sv, hsv, -⟩ := h.newestOwn newest
    rw [markCommissioned_eq hsv]
    exact order.keeps ⟨map_modify_of e.servers k fun _ => rfl,
      map_modify_of e.serverStores sv.store fun _ => rfl, rfl, rfl, rfl, rfl⟩

theorem Touches.params (touches : Touches n s e s' e') : s'.params = s.params := by
  cases touches <;> rfl

/-- What was told does not matter. -/
theorem Houses.told (h : Houses n s e v) (told : Journal) :
    Houses n s { e with journal := told } v := by
  have timed := h.timed v.now told
  rw [← h.now] at timed
  have same : ({ v with now := e.now } : Lodge) = v := by rw [h.now]
  rwa [same] at timed

theorem houses_new (p : Params) (options : BridgeOptions) (n : Nat) :
    Houses n (.new p options n) .initial (.new p options) :=
  ⟨rfl, rfl, rfl, rfl, ⟨⟨rfl, rfl, rfl⟩, nofun⟩, rfl, ⟨rfl, nofun⟩, rfl, nofun, fun _ => rfl, .none⟩

end Bridge

/-! ## Scenes -/

/-- What happens in a gateway with several bridges. -/
inductive Scene where
  /-- something happens around a session -/
  | deal (n : Nat) (d : Deal)
  /-- time passes -/
  | passed (ms : Nat)

/-- A scene without the other sessions, session `n` being the first; there may be nothing left. -/
def Scene.alone? (n : Nat) : Scene → Option Scene
  | .deal m d => if m = n then some (.deal 0 d) else none
  | .passed ms => some (.passed ms)

/-- Which session is told something, and what. -/
def Engine.Entry.said? : Entry → Option (Nat × Said)
  | .event sink e => some (sink, .event e)
  | .answered session r => some (session, .response r)
  | .notice _ | .news _ | .written .. => none

namespace Gateway

/-- A gateway right after sessions of bridges were opened. -/
def opened (guests : List (Params × BridgeOptions)) : Gateway :=
  guests.foldl (fun g guest => (g.openSession (.bridge guest.1) guest.2).2) initial

/-- What is said in a scene, by the number of the session, and the gateway afterwards. -/
def play (scene : Scene) (g : Gateway) : List (Nat × Said) × Gateway :=
  match scene with
  | .deal n d =>
    let (said, g) := g.deal n d
    let (told, g) := g.takeJournal
    (told.filterMap Entry.said? ++ said.map (n, ·), g)
  | .passed ms => ([], g.advance ms)

/-- What is said in several scenes, in its order. -/
def playAll : Gateway → List Scene → List (Nat × Said)
  | _, [] => []
  | g, scene :: rest => (g.play scene).1 ++ (g.play scene).2.playAll rest

/-- What session `n` says in several scenes: its responses and its events, and how it ended what
    others did to its endpoints. -/
def voice (n : Nat) (g : Gateway) (scenes : List Scene) : List Said :=
  ((g.playAll scenes).filter (·.1 = n)).map (·.2)

end Gateway

/-- What a lodge says in several scenes; those of session `n` are its own. -/
def Lodge.voice (n : Nat) : Lodge → List Scene → List Said
  | _, [] => []
  | v, .passed ms :: rest => (v.passed ms).voice n rest
  | v, .deal m d :: rest =>
    if m = n then
      (v.deal d).1.map (fun b => .event (.ofBridge b)) ++ (v.deal d).2.1 ++
        (v.deal d).2.2.voice n rest
    else v.voice n rest

theorem Lodge.voice_filterMap (n : Nat) (v : Lodge) (scenes : List Scene) :
    v.voice 0 (scenes.filterMap (·.alone? n)) = v.voice n scenes := by
  induction scenes generalizing v with
  | nil => rfl
  | cons scene rest ih =>
    cases scene with
    | passed ms => exact ih (v.passed ms)
    | deal m d =>
      by_cases own : m = n
      · have first : (Scene.deal m d).alone? n = some (.deal 0 d) := if_pos own
        rw [List.filterMap_cons_some first, voice, voice, if_pos rfl, if_pos own, ih]
      · have gone : (Scene.deal m d).alone? n = none := if_neg own
        rw [List.filterMap_cons_none gone, voice, if_neg own, ih]

theorem said_entries (n : Nat) (events : List BridgeEvent) :
    (Gateway.entries n events).filterMap Entry.said? =
      (events.map fun b => Said.event (.ofBridge b)).map (n, ·) := by
  unfold Gateway.entries
  rw [List.filterMap_map, List.map_map, ← List.filterMap_eq_map]
  rfl

/-! ## Several bridges -/

/-- A gateway houses several lodges of bridges with different ids. -/
structure Hosts (vs : List Lodge) (g : Gateway) : Prop where
  /-- there are no other sessions -/
  count : g.sessions.length = vs.length
  /-- each session has its lodge -/
  houses : ∀ (n : Nat) (v : Lodge), vs[n]? = some v →
    ∃ s, g.sessions[n]? = some (.bridge s) ∧ Houses n s g.engine v
  /-- the ids differ -/
  apart : ∀ (m n : Nat) (v w : Lodge), vs[m]? = some v → vs[n]? = some w →
    v.params.uniqueId = w.params.uniqueId → m = n
  /-- everything is in order -/
  order : g.engine.InOrder
  /-- nothing is left to be told -/
  quiet : g.engine.journal = []

namespace Hosts

variable {vs : List Lodge} {g : Gateway} {n : Nat} {v : Lodge}

theorem passed (h : Hosts vs g) (ms : Nat) : Hosts (vs.map (·.passed ms)) (g.advance ms) where
  count := h.count.trans (List.length_map _).symm
  houses := by
    intro n v hv
    rw [List.getElem?_map] at hv
    obtain ⟨w, hw, rfl⟩ := Option.map_eq_some_iff.1 hv
    obtain ⟨s, here, housed⟩ := h.houses n w hw
    have timed := housed.timed (w.now + ms) g.engine.journal
    refine ⟨s, here, ?_⟩
    rw [← housed.now] at timed
    unfold Lodge.passed
    rw [← housed.now]
    exact timed
  apart := by
    intro m n v w hv hw same
    rw [List.getElem?_map] at hv hw
    obtain ⟨v', hv', rfl⟩ := Option.map_eq_some_iff.1 hv
    obtain ⟨w', hw', rfl⟩ := Option.map_eq_some_iff.1 hw
    exact h.apart m n v' w' hv' hw' same
  order := h.order.keeps ⟨rfl, rfl, rfl, rfl, rfl, rfl⟩
  quiet := h.quiet

theorem params_set {v' w : Lodge} (hv : vs[n]? = some v) (params : v'.params = v.params) {m : Nat}
    (hw : (vs.set n v')[m]? = some w) : ∃ w', vs[m]? = some w' ∧ w'.params = w.params := by
  by_cases own : n = m
  · subst own
    rw [List.getElem?_set_self (List.getElem?_eq_some_iff.1 hv).1] at hw
    cases hw
    exact ⟨v, hv, params.symm⟩
  · rw [List.getElem?_set_ne own] at hw
    exact ⟨w, hw, rfl⟩

/-- A session does something, and its lodge becomes another. -/
theorem becomes (h : Hosts vs g) (hv : vs[n]? = some v) {s s' : Bridge.Session} {e' : State}
    {v' : Lodge} (housed : Houses n s g.engine v) (touches : Touches n s g.engine s' e')
    (housed' : Houses n s' e' v') : Hosts (vs.set n v') (g.acted n s' e').takeJournal.2 := by
  have lt := (List.getElem?_eq_some_iff.1 hv).1
  have params : v'.params = v.params :=
    housed'.params.symm.trans (touches.params.trans housed.params)
  refine ⟨?_, ?_, ?_, ?_, rfl⟩
  · exact List.length_set.trans (h.count.trans List.length_set.symm)
  · intro m w hw
    by_cases own : n = m
    · subst own
      rw [List.getElem?_set_self lt] at hw
      cases hw
      exact ⟨s', List.getElem?_set_self (h.count.symm ▸ lt), housed'.told []⟩
    · -- the bridge of the other session has another id, so nothing of it changed
      rw [List.getElem?_set_ne own] at hw
      obtain ⟨t, there, other⟩ := h.houses m w hw
      have names : t.params.uniqueId ≠ s.params.uniqueId := fun same =>
        own (h.apart n m v w hv hw (by rw [← housed.params, ← other.params, same]))
      have shelters := touches.shelters housed h.order (Ne.symm own) names
      exact ⟨t, (List.getElem?_set_ne own).trans there, (other.sheltered shelters).told []⟩
  · intro m k w w' hw hw' same
    obtain ⟨x, hx, name⟩ := params_set hv params hw
    obtain ⟨x', hx', name'⟩ := params_set hv params hw'
    exact h.apart m k x x' hx hx' (by rw [name, name', same])
  · exact (touches.inOrder housed h.order).keeps ⟨rfl, rfl, rfl, rfl, rfl, rfl⟩

/-- Something happens around a session. -/
theorem dealt (h : Hosts vs g) (hv : vs[n]? = some v) (d : Deal) :
    (g.play (.deal n d)).1 =
        ((v.deal d).1.map (fun b => Said.event (.ofBridge b)) ++ (v.deal d).2.1).map (n, ·) ∧
      Hosts (vs.set n (v.deal d).2.2) (g.play (.deal n d)).2 := by
  obtain ⟨s, here, housed⟩ := h.houses n v hv
  obtain ⟨s', e', run, touches, housed', told⟩ := Gateway.deals here housed d
  rw [h.quiet, List.nil_append] at told
  unfold Gateway.play
  dsimp only
  rw [run]
  refine ⟨?_, h.becomes hv housed touches housed'⟩
  rw [List.map_append, ← said_entries, ← told]
  rfl

/-- Around a session that does not exist nothing happens. -/
theorem unknown (h : Hosts vs g) (hv : vs[n]? = none) (d : Deal) :
    g.play (.deal n d) = ([], g) := by
  have none : g.sessions[n]? = none := by
    rw [List.getElem?_eq_none_iff] at hv ⊢
    rwa [h.count]
  have still : g.deal n d = ([], g) := by
    unfold Gateway.deal
    rw [none]
  unfold Gateway.play
  dsimp only
  rw [still]
  unfold Gateway.takeJournal
  rw [h.quiet]
  refine Prod.ext rfl ?_
  show ({ g with engine := { g.engine with journal := [] } } : Gateway) = g
  rw [← h.quiet]

/-- What a session says, its lodge says. -/
theorem voice (h : Hosts vs g) (hv : vs[n]? = some v) (scenes : List Scene) :
    g.voice n scenes = v.voice n scenes := by
  induction scenes generalizing g vs v with
  | nil => rfl
  | cons scene rest ih =>
    have first : g.voice n (scene :: rest) =
        ((g.play scene).1.filter (·.1 = n)).map (·.2) ++ (g.play scene).2.voice n rest := by
      show (List.filter _ (_ ++ _)).map _ = _
      rw [List.filter_append, List.map_append]
      rfl
    rw [first]
    cases scene with
    | passed ms =>
      have hv' : (vs.map (·.passed ms))[n]? = some (v.passed ms) := by
        rw [List.getElem?_map, hv]
        rfl
      exact ih (h.passed ms) hv'
    | deal m d =>
      -- what is said around the session is its own, and nothing else is
      rw [Lodge.voice]
      by_cases own : m = n
      · subst own
        obtain ⟨said, after⟩ := h.dealt hv d
        have hv' := List.getElem?_set_self (a := (v.deal d).2.2) (List.getElem?_eq_some_iff.1 hv).1
        rw [if_pos rfl, said, ih after hv', List.filter_map, List.filter_eq_self.2, List.map_map]
        · exact congrArg (· ++ _) (List.map_id _)
        · exact fun _ _ => decide_eq_true rfl
      · rw [if_neg own]
        cases hw : vs[m]? with
        | none =>
          rw [h.unknown hw]
          exact ih h hv
        | some w =>
          obtain ⟨said, after⟩ := h.dealt hw d
          rw [said, ih after ((List.getElem?_set_ne own).trans hv), List.filter_map,
            List.filter_eq_nil_iff.2]
          · rfl
          · exact fun _ _ => by simpa using own

end Hosts

namespace Gateway

theorem opened_foldl (guests : List (Params × BridgeOptions)) (g : Gateway) :
    guests.foldl (fun g guest => (g.openSession (.bridge guest.1) guest.2).2) g =
      { g with sessions := g.sessions ++ guests.mapIdx fun n guest =>
          .bridge (.new guest.1 guest.2 (g.sessions.length + n)) } := by
  induction guests generalizing g with
  | nil => rw [List.foldl_nil, List.mapIdx_nil, List.append_nil]
  | cons guest rest ih =>
    rw [List.foldl_cons, ih, List.mapIdx_cons]
    unfold openSession
    simp only [List.length_append, List.length_singleton, List.append_assoc, List.singleton_append,
      Nat.add_zero, Nat.add_assoc, Nat.add_comm 1]

theorem hosts_opened {guests : List (Params × BridgeOptions)}
    (apart : (guests.map (·.1.uniqueId)).Nodup) :
    Hosts (guests.map fun guest => .new guest.1 guest.2) (opened guests) := by
  have sessions : (opened guests).sessions =
      guests.mapIdx fun n guest => .bridge (.new guest.1 guest.2 n) := by
    unfold opened
    rw [opened_foldl]
    simp only [initial, List.nil_append, List.length_nil, Nat.zero_add]
  have engine : (opened guests).engine = .initial := by
    unfold opened
    rw [opened_foldl]
    rfl
  refine ⟨?_, ?_, ?_, ?_, ?_⟩
  · rw [sessions, List.length_mapIdx, List.length_map]
  · intro n v hv
    rw [List.getElem?_map] at hv
    obtain ⟨guest, hguest, rfl⟩ := Option.map_eq_some_iff.1 hv
    refine ⟨.new guest.1 guest.2 n, ?_, engine ▸ houses_new guest.1 guest.2 n⟩
    rw [sessions, List.getElem?_mapIdx, hguest]
    rfl
  · intro m n v w hv hw same
    rw [List.getElem?_map] at hv hw
    obtain ⟨x, hx, rfl⟩ := Option.map_eq_some_iff.1 hv
    obtain ⟨x', hx', rfl⟩ := Option.map_eq_some_iff.1 hw
    have lt : m < (guests.map (·.1.uniqueId)).length :=
      (List.length_map _).symm ▸ (List.getElem?_eq_some_iff.1 hx).1
    refine (List.getElem?_inj lt apart).1 ?_
    rw [List.getElem?_map, List.getElem?_map, hx, hx', Option.map_some, Option.map_some]
    exact congrArg some same
  · rw [engine]
    exact State.inOrder_initial
  · rw [engine]
    rfl

/-- **Bridges do not disturb one another.**  Each of several bridges with different ids on one
    engine says, whatever happens around all of them and wherever they keep their state, what
    it says if only its own scenes happen, at the same times, on an engine of its own. -/
theorem voice_alone {guests : List (Params × BridgeOptions)}
    (apart : (guests.map (·.1.uniqueId)).Nodup) {n : Nat} {guest : Params × BridgeOptions}
    (there : guests[n]? = some guest) (scenes : List Scene) :
    (opened guests).voice n scenes =
      (opened [guest]).voice 0 (scenes.filterMap (·.alone? n)) := by
  have lodge : (guests.map fun guest => Lodge.new guest.1 guest.2)[n]? =
      some (.new guest.1 guest.2) := by
    rw [List.getElem?_map, there]
    rfl
  have single : ([guest].map (·.1.uniqueId)).Nodup := List.nodup_singleton _
  rw [(hosts_opened apart).voice lodge, (hosts_opened single).voice rfl, Lodge.voice_filterMap]

/-- A bridge with the same storage path as that of the hall. -/
def attic : Params :=
  { hall with uniqueId := "attic", deviceName := "attic", port := 5541 }

/-- Both bridges get a door; one of them is paired, and someone opens the door of the other. -/
def doors : List Scene :=
  [ .deal 0 .initialised, .deal 1 .initialised,
    .deal 0 (.asked ⟨"1", "bridge", "addEndpoint", [.str "DoorLockDevice", .str "door"]⟩),
    .deal 1 (.asked ⟨"1", "bridge", "addEndpoint", [.str "DoorLockDevice", .str "door"]⟩),
    .deal 1 (.asked ⟨"2", "bridge", "startBridge", []⟩), .deal 0 .paired, .passed 5,
    .deal 1 (.written "peer" false (.named "door") "doorLock" "lockState" (.int 2)),
    .deal 0 .closed,
    .deal 1 (.asked ⟨"3", "bridge", "getCommissioningState", []⟩) ]

/-- The bridges of a house. -/
def house : List (Params × BridgeOptions) :=
  [(hall, ⟨100, 32⟩), (attic, ⟨100, 32⟩)]

theorem voice_alone_attic :
    (house.map (·.1.uniqueId)).Nodup ∧ house[1]? = some (attic, ⟨100, 32⟩) ∧
      (opened house).voice 1 doors =
        (opened [(attic, ⟨100, 32⟩)]).voice 0 (doors.filterMap (·.alone? 1)) ∧
      ((opened house).voice 1 doors).length = 6 := by
  have apart : (house.map (·.1.uniqueId)).Nodup := by decide
  exact ⟨apart, rfl, voice_alone apart rfl doors, by decide +kernel⟩

end Gateway

end HomeGateway
