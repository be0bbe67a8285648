/-
  A session of a bridge in a gateway that it shares.

  The gateway gives numbers to everything, and others may have things between
  those of a session.  It houses a lodge if what it keeps under the numbers of
  the session is what the lodge has.  Whatever a session does to the engine has
  a counterpart that is done to the lodge, and the gateway houses what becomes
  of it.

  * `Houses`: a session and the engine have what a lodge has;
  * `Touches`: what a session may do to the engine;
  * `Houses.renewed`, `Houses.joined`, `Houses.put`: a server node and endpoints;
  * `Houses.framed`: the server node is switched, or paired;
  * `Houses.touched`: something happens to an endpoint.
-/
import HomeGateway.Proofs.Eras
import HomeGateway.Proofs.Lodges
import HomeGateway.Proofs.Turns
import Mathlib.Data.List.Forall2
import Mathlib.Data.Option.NAry

namespace HomeGateway

open Device Engine Bridge

/-! ## What the engine has of a lodge -/

/-- The engine keeps the endpoints that were ever made for session `n`. -/
structure Engine.State.Stocks (n : Nat) (made : List VirtualEndpoint) (e : State) : Prop where
  /-- as many as were made -/
  length : made.length = (e.handlesFor n).length
  /-- each of them under its number -/
  each : ∀ (i h : Nat), (e.handlesFor n)[i]? = some h →
    ∃ x, made[i]? = some x ∧ e.endpoints[h]? = some (.followed (x.aimed n))

namespace Bridge

/-- A member of a session is one of a stay. -/
def Member.Stands (handles : List Nat) (m m' : Member) : Prop :=
  m'.id = m.id ∧ m'.type = m.type ∧ handles[m'.handle]? = some m.handle

/-- An initialised session and the engine have what a stay has. -/
structure Live.Stands (n : Nat) (p : Params) (e : State) (l : Live) (y : Stay) : Prop where
  /-- the server node is the newest of its id -/
  newest : e.newestServer? p.uniqueId = some l.server
  /-- the server node -/
  server : ∃ sv clear, e.servers[l.server]? = some sv ∧ sv.config = p.serverConfig clear ∧
    sv.closed = false ∧ sv.online = y.online ∧ sv.windowOpen = y.windowOpen
  /-- the endpoints -/
  members : List.Forall₂ (Member.Stands (e.handlesFor n)) l.members y.members

/-- The events of an endpoint go to a sink. -/
def Aims (n : Nat) (x : VirtualEndpoint) : Prop :=
  x.follower.sink = n

/-- Session `n` and the engine have what a lodge has. -/
structure Houses (n : Nat) (s : Session) (e : State) (v : Lodge) : Prop where
  /-- its events go to its own sink -/
  sink : s.sink = n
  /-- what the caller said -/
  params : s.params = v.params
  /-- how virtual devices behave -/
  options : s.options = v.options
  /-- whether the next server node clears the storage -/
  clearNext : s.clearNext = v.clearNext
  /-- the session and the engine agree -/
  grounded : Grounded (Aims n) s e
  /-- the time -/
  now : e.now = v.now
  /-- the endpoints that were ever made -/
  stock : e.Stocks n v.made
  /-- what is kept -/
  kept : e.status? v.params.key = v.kept
  /-- the newest server node uses what is kept; it has no endpoints if the session is closed -/
  stored : ∀ k, e.newestServer? v.params.uniqueId = some k → ∃ sv, e.servers[k]? = some sv ∧
    sv.config.key = v.params.key ∧ e.serverStore? v.params.key = some sv.store ∧
      (s.live = none → sv.aggregator = none)
  /-- nothing is kept without a server node -/
  unstored : e.newestServer? v.params.uniqueId = none → v.kept = none
  /-- what there is of an initialised session -/
  stay : Option.Rel (Live.Stands n v.params e) s.live v.stay

/-- What session `n` may do to itself and the engine. -/
inductive Touches (n : Nat) (s : Session) (e : State) : Session → State → Prop where
  /-- nothing -/
  | still : Touches n s e s e
  /-- it closes its server node -/
  | ended : Touches n s e s.ended (s.closed e)
  /-- it begins anew -/
  | renewed : Touches n s e (s.ended.begun (s.closed e)) (s.ended.opened (s.closed e))
  /-- it makes an endpoint -/
  | joined {l : Live} (live : s.live = some l) (d : Definition) (window : Nat) :
    Touches n s e (s.joined l d e) (l.grown d window n e)
  /-- an endpoint whose events go to it changes -/
  | put {h : Nat} {x x' : VirtualEndpoint} (there : e.endpoints[h]? = some (.followed x))
    (aims : Aims n x) (aims' : Aims n x') (told : Journal) :
    Touches n s e s (e.put h (.followed x') told)
  /-- it switches its server node -/
  | switched {l : Live} (live : s.live = some l) {f : Server → Server}
    (frame : ∀ sv, (f sv).frame = sv.frame) : Touches n s e s (e.changeServer l.server f)
  /-- its newest server node is paired -/
  | paired {k : Nat} (newest : e.newestServer? s.params.uniqueId = some k) :
    Touches n s e s (e.markCommissioned k)

variable {n : Nat} {s : Session} {e e' : State} {v : Lodge} {l : Live} {y : Stay}

/-! ### What stands where -/

theorem find?_stands {handles : List Nat} {ms ms' : List Member}
    (stand : List.Forall₂ (Member.Stands handles) ms ms') (id : String) :
    Option.Rel (Member.Stands handles) (ms.find? (·.id = id)) (ms'.find? (·.id = id)) := by
  induction stand with
  | nil => exact .none
  | @cons m m' _ _ head _ ih =>
    rw [List.find?_cons, List.find?_cons, head.1]
    by_cases same : m.id = id
    · rw [decide_eq_true same]
      exact .some head
    · rw [decide_eq_false same]
      exact ih

/-- The numbers of the endpoints under which members stand may grow. -/
theorem stands_append {handles : List Nat} (more : List Nat) {m m' : Member}
    (stands : Member.Stands handles m m') : Member.Stands (handles ++ more) m m' := by
  obtain ⟨id, type, handle⟩ := stands
  refine ⟨id, type, ?_⟩
  rw [List.getElem?_append_left (List.getElem?_eq_some_iff.1 handle).1, handle]

theorem Houses.stays (h : Houses n s e v) (hl : s.live = some l) :
    ∃ y, v.stay = some y ∧ l.Stands n v.params e y := by
  have stay := h.stay
  rw [hl] at stay
  cases hy : v.stay with
  | none =>
    rw [hy] at stay
    cases stay
  | some y =>
    rw [hy] at stay
    cases stay with
    | some stands => exact ⟨y, rfl, stands⟩

theorem Houses.standing (h : Houses n s e v) (hl : s.live = some l) (hy : v.stay = some y) :
    l.Stands n v.params e y := by
  obtain ⟨_, hy', stands⟩ := h.stays hl
  cases hy.symm.trans hy'
  exact stands

theorem Houses.vacant (h : Houses n s e v) (hl : s.live = none) : v.stay = none := by
  have stay := h.stay
  rw [hl] at stay
  cases hy : v.stay with
  | none => rfl
  | some y =>
    rw [hy] at stay
    cases stay

/-- What there is of an initialised session is there still. -/
theorem Houses.stayed (h : Houses n s e v)
    (stands : ∀ l y, s.live = some l → l.Stands n v.params e y → l.Stands n v.params e' y) :
    Option.Rel (Live.Stands n v.params e') s.live v.stay := by
  cases hl : s.live with
  | none =>
    rw [h.vacant hl]
    exact .none
  | some l =>
    obtain ⟨y, hy, there⟩ := h.stays hl
    rw [hy]
    exact .some (stands l y hl there)

/-- What an endpoint is that was once made. -/
theorem Houses.at (h : Houses n s e v) {i handle : Nat}
    (number : (e.handlesFor n)[i]? = some handle) :
    ∃ x, v.made[i]? = some x ∧ e.endpoints[handle]? = some (.followed (x.aimed n)) :=
  h.stock.each i handle number

/-- What the newest server node says of what is kept. -/
theorem Houses.commissioned (h : Houses n s e v) {k : Nat}
    (newest : e.newestServer? v.params.uniqueId = some k) {sv : Server}
    (hsv : e.servers[k]? = some sv) :
    v.kept = some (e.commissioned sv) := by
  obtain ⟨_, hsv', key, used, -⟩ := h.stored k newest
  cases hsv.symm.trans hsv'
  obtain ⟨st, hst, -⟩ := serverStore?_eq_some used
  rw [← h.kept]
  unfold State.status? State.commissioned
  rw [used, Option.bind_some, hst]
  rfl

theorem closed_of_live (hl : s.live = some l) (hb : l.Backed (Aims n) e) :
    s.closed e = l.closed e := by
  obtain ⟨sv, hsv, aggregator⟩ := hb.server
  unfold Session.closed Live.closed State.withoutServer
  rw [hl]
  dsimp only
  rw [hsv, Option.bind_some, aggregator]

theorem newestServer?_modify {k : Nat} {f : Server → Server}
    (servers : e'.servers = e.servers.modify k f) (config : ∀ sv, (f sv).config = sv.config)
    (id : String) : e'.newestServer? id = e.newestServer? id := by
  refine State.newestServer?_congr ?_ id
  rw [servers]
  exact map_modify_of e.servers k fun sv => congrArg ServerNodeConfig.id (config sv)

/-- A session and the engine agree as long as what the engine keeps for it is the same. -/
theorem Grounded.same {Fit : VirtualEndpoint → Prop} (h : Grounded Fit s e) (free : e'.Free)
    (servers : e'.servers = e.servers) (aggregators : e'.aggregators = e.aggregators)
    (endpoints : e'.endpoints = e.endpoints) : Grounded Fit s e' where
  free := free
  backed := by
    intro l hl
    obtain ⟨server, aggregator, members, handles, ids, pending⟩ := h.backed l hl
    refine ⟨servers ▸ server, aggregators ▸ aggregator, fun m hm => ?_, handles, ids, pending⟩
    unfold Member.Kept
    rw [endpoints]
    exact members m hm

/-! ### What becomes of what is housed -/

/-- The session closes its server node. -/
theorem Houses.ended (h : Houses n s e v) : Houses n s.ended (s.closed e) v.ended := by
  cases hl : s.live with
  | none =>
    have same : s.ended = s := by
      unfold Session.ended
      rw [← hl]
    have still : s.closed e = e := by
      unfold Session.closed
      rw [hl]
    have same' : v.ended = v := by
      unfold Lodge.ended
      rw [← h.vacant hl]
    rw [same, still, same']
    exact h
  | some l =>
    have hb := h.grounded.backed l hl
    obtain ⟨y, -, stands⟩ := h.stays hl
    rw [closed_of_live hl hb]
    have newest : (l.closed e).newestServer? v.params.uniqueId =
        e.newestServer? v.params.uniqueId :=
      newestServer?_modify (f := .shut) rfl (fun _ => rfl) _
    refine ⟨h.sink, h.params, h.options, h.clearNext, h.grounded.close l, h.now,
      ⟨h.stock.length, h.stock.each⟩, h.kept, ?_, ?_, .none⟩
    · intro k own
      have own' : e.newestServer? v.params.uniqueId = some k := newest.symm.trans own
      obtain ⟨sv, hsv, key, used, -⟩ := h.stored k own'
      cases stands.newest.symm.trans own'
      refine ⟨sv.shut, ?_, key, used, fun _ => rfl⟩
      show (e.servers.modify l.server .shut)[l.server]? = _
      rw [List.getElem?_modify_eq, hsv]
      rfl
    · intro none
      exact h.unstored (newest.symm.trans none)

/-- The session gets a server node. -/
theorem Houses.opened (h : Houses n s e v) :
    Houses n (s.begun e) (s.opened e) v.renewed := by
  have key : (s.params.serverConfig s.clearNext).key = v.params.key := by
    rw [h.params]
    rfl
  have stores : (s.opened e).serverStores =
      (e.readyStore (s.params.serverConfig s.clearNext)).1 := rfl
  have newest : (s.opened e).newestServer? v.params.uniqueId = some e.servers.length := by
    rw [State.newestServer?_concat rfl, if_pos]
    exact congrArg Params.uniqueId h.params
  have new : (s.opened e).servers[e.servers.length]? = some _ := List.getElem?_concat_length
  refine ⟨h.sink, h.params, h.options, rfl, Grounded.init h.grounded.free s, h.now,
    ⟨h.stock.length, h.stock.each⟩, ?_, ?_, ?_, .some ⟨newest, ?_, .nil⟩⟩
  · have status := status?_ready stores
    rw [key, h.kept] at status
    rw [Lodge.renewed, ← h.clearNext]
    exact status
  · intro k own
    cases newest.symm.trans own
    refine ⟨_, new, key, ?_, nofun⟩
    have used := serverStore?_ready stores
    rw [key] at used
    exact used
  · intro none
    cases newest.symm.trans none
  · exact ⟨_, s.clearNext, new, congrArg (·.serverConfig s.clearNext) h.params, rfl, rfl, rfl⟩

/-- The session begins anew. -/
theorem Houses.renewed (h : Houses n s e v) :
    Houses n (s.ended.begun (s.closed e)) (s.ended.opened (s.closed e)) v.renewed :=
  h.ended.opened

/-- The session makes an endpoint. -/
theorem Houses.joined (h : Houses n s e v) (hl : s.live = some l) (hy : v.stay = some y)
    {spec : Spec} {d : Definition} (ht : l.taken spec.id = false)
    (hd : spec.definition s.options.maxLabel = .ok d) :
    Houses n (s.joined l d e) (l.grown d s.options.lockWindow n e) (v.joined y d) := by
  have stands := h.standing hl hy
  have grounded := h.grounded.made hl ht hd h.sink
  rw [h.sink] at grounded
  have handles : (l.grown d s.options.lockWindow n e).handlesFor n =
      e.handlesFor n ++ [e.endpoints.length] :=
    (State.handlesFor_concat rfl).trans (congrArg _ (if_pos rfl))
  refine ⟨h.sink, h.params, h.options, h.clearNext, grounded, h.now, ⟨?_, ?_⟩, h.kept, ?_,
    h.unstored, .some ⟨stands.newest, stands.server, ?_⟩⟩
  · rw [handles, List.length_append, ← h.stock.length]
    exact List.length_append
  · -- the new endpoint stands last, and the others stand where they stood
    intro i handle number
    rw [handles] at number
    rcases Nat.lt_or_ge i (e.handlesFor n).length with lt | ge
    · rw [List.getElem?_append_left lt] at number
      obtain ⟨x, hx, there⟩ := h.at number
      refine ⟨x, ?_, ?_⟩
      · exact (List.getElem?_append_left (List.getElem?_eq_some_iff.1 hx).1).trans hx
      · exact (List.getElem?_append_left (List.getElem?_eq_some_iff.1 there).1).trans there
    · rw [List.getElem?_append_right ge] at number
      have last := (List.getElem?_eq_some_iff.1 number).1
      have same : i = v.made.length := by
        rw [h.stock.length]
        simp only [List.length_singleton] at last
        omega
      have first : i - (e.handlesFor n).length = 0 := by
        rw [← h.stock.length, same, Nat.sub_self]
      rw [first] at number
      cases number
      rw [same]
      refine ⟨_, List.getElem?_concat_length, ?_⟩
      rw [← h.options]
      exact List.getElem?_concat_length
  · intro k own
    obtain ⟨sv, hsv, key, used, -⟩ := h.stored k own
    exact ⟨sv, hsv, key, used, nofun⟩
  · rw [handles]
    refine List.rel_append (stands.members.imp fun _ _ => stands_append _)
      (.cons ⟨rfl, rfl, ?_⟩ .nil)
    rw [h.stock.length]
    exact List.getElem?_concat_length

/-- An endpoint comes to another state. -/
theorem Houses.put (h : Houses n s e v) {i handle : Nat}
    (number : (e.handlesFor n)[i]? = some handle) {x x' : VirtualEndpoint}
    (hx : v.made[i]? = some x) (id : x'.endpoint.id = x.endpoint.id)
    (type : x'.endpoint.type = x.endpoint.type) (told : Journal) :
    Houses n s (e.put handle (.followed (x'.aimed n)) told)
      { v with made := v.made.set i x' } := by
  obtain ⟨_, hx', there⟩ := h.at number
  cases hx.symm.trans hx'
  have sink : (Bridged.followed (x'.aimed n)).sink? = (Bridged.followed (x.aimed n)).sink? := rfl
  have handles : (e.put handle (.followed (x'.aimed n)) told).handlesFor n = e.handlesFor n :=
    State.handlesFor_put there sink told
  have lt := (List.getElem?_eq_some_iff.1 there).1
  have aims : Aims n (x'.aimed n) := rfl
  refine ⟨h.sink, h.params, h.options, h.clearNext, h.grounded.put there aims id type told, h.now,
    ⟨?_, ?_⟩, h.kept, h.stored, h.unstored, ?_⟩
  · rw [handles, ← h.stock.length]
    exact List.length_set
  · intro j handle' number'
    rw [handles] at number'
    obtain ⟨z, hz, there'⟩ := h.at number'
    by_cases same : i = j
    · subst same
      cases number.symm.trans number'
      exact ⟨x', List.getElem?_set_self (List.getElem?_eq_some_iff.1 hx).1,
        List.getElem?_set_self lt⟩
    · -- no two of the numbers are those of one endpoint
      have apart : handle ≠ handle' := by
        rintro rfl
        exact same ((List.getElem?_inj (List.getElem?_eq_some_iff.1 number).1
          (State.nodup_handlesFor n e)).1 (number.trans number'.symm))
      exact ⟨z, (List.getElem?_set_ne same).trans hz, (List.getElem?_set_ne apart).trans there'⟩
  · refine h.stayed fun l y _ stands => ⟨stands.newest, stands.server, ?_⟩
    rw [handles]
    exact stands.members

/-! ### Switching the server node -/

theorem sameAggregators_modify (servers : List Server) (k : Nat) {f : Server → Server}
    (frame : ∀ sv, (f sv).frame = sv.frame) : SameAggregators servers (servers.modify k f) := by
  intro j sv hsv
  obtain ⟨sv', hsv', same⟩ := getElem?_of_map_eq (map_modify_of servers k frame).symm hsv
  exact ⟨sv', hsv', (Server.of_frame same).2.2.symm⟩

/-- What there is if a server node is switched and something else is kept. -/
theorem Houses.framed (h : Houses n s e v) {k : Nat} {f : Server → Server}
    (frame : ∀ sv, (f sv).frame = sv.frame) {stores : List ServerStore} {kept : Option Bool}
    {stay : Option Stay}
    (used : ∀ key, ({ e.changeServer k f with serverStores := stores } : State).serverStore? key =
      e.serverStore? key)
    (status : ({ e.changeServer k f with serverStores := stores } : State).status? v.params.key =
      kept)
    (unstored : v.kept = none → kept = none)
    (stays : Option.Rel (Live.Stands n v.params { e.changeServer k f with serverStores := stores })
      s.live stay) :
    Houses n s { e.changeServer k f with serverStores := stores }
      { v with kept := kept, stay := stay } := by
  have config (sv : Server) : (f sv).config = sv.config := (Server.of_frame (frame sv)).1
  have newest : ({ e.changeServer k f with serverStores := stores } : State).newestServer?
      v.params.uniqueId = e.newestServer? v.params.uniqueId :=
    newestServer?_modify rfl config _
  have tended := h.grounded.tended (sameAggregators_modify e.servers k frame)
  have free := h.grounded.free
  refine ⟨h.sink, h.params, h.options, h.clearNext,
    tended.same ⟨free.writes, free.adds, free.faults⟩ rfl rfl rfl, h.now,
    ⟨h.stock.length, h.stock.each⟩, status, ?_, ?_, stays⟩
  · intro j own
    obtain ⟨sv, hsv, key, store, vacant⟩ := h.stored j (newest.symm.trans own)
    obtain ⟨sv', hsv', same⟩ := getElem?_of_map_eq (map_modify_of e.servers k frame).symm hsv
    obtain ⟨config, store', aggregator⟩ := Server.of_frame same
    refine ⟨sv', hsv', ?_, ?_, fun none => aggregator.symm.trans (vacant none)⟩
    · rw [← config, key]
    · rw [used, store, store']
  · intro none
    exact unstored (h.unstored (newest.symm.trans none))

theorem Live.Stands.switched (stands : l.Stands n v.params e y) {f : Server → Server}
    (frame : ∀ sv, (f sv).frame = sv.frame) {online windowOpen : Bool}
    (turns : ∀ sv, sv.online = y.online → sv.windowOpen = y.windowOpen →
      (f sv).online = online ∧ (f sv).windowOpen = windowOpen) (stores : List ServerStore) :
    l.Stands n v.params { e.changeServer l.server f with serverStores := stores }
      { y with online := online, windowOpen := windowOpen } where
  newest := (newestServer?_modify rfl (fun sv => (Server.of_frame (frame sv)).1) _).trans
    stands.newest
  server := by
    obtain ⟨sv, clear, hsv, config, closed, was, wasOpen⟩ := stands.server
    have closed' : (f sv).closed = sv.closed :=
      (congrArg Server.closed (frame sv) : (f sv).frame.closed = sv.frame.closed)
    refine ⟨f sv, clear, ?_, (Server.of_frame (frame sv)).1.trans config, closed'.trans closed,
      turns sv was wasOpen⟩
    show (e.servers.modify l.server f)[l.server]? = _
    rw [List.getElem?_modify_eq, hsv]
    rfl
  members := stands.members

/-- The session switches its server node. -/
theorem Houses.switched (h : Houses n s e v) (hl : s.live = some l) (hy : v.stay = some y)
    {f : Server → Server} (frame : ∀ sv, (f sv).frame = sv.frame) {online windowOpen : Bool}
    (turns : ∀ sv, sv.online = y.online → sv.windowOpen = y.windowOpen →
      (f sv).online = online ∧ (f sv).windowOpen = windowOpen) :
    Houses n s (e.changeServer l.server f) (v.switched y online windowOpen) := by
  have stands := h.standing hl hy
  refine h.framed frame (fun _ => rfl) h.kept id ?_
  rw [hl]
  exact .some (stands.switched frame turns e.serverStores)

/-- The newest server node of the bridge is paired. -/
theorem Houses.paired (h : Houses n s e v) {k : Nat}
    (newest : e.newestServer? s.params.uniqueId = some k) :
    Houses n s (e.markCommissioned k) v.paired := by
  rw [h.params] at newest
  obtain ⟨sv, hsv, key, used, -⟩ := h.stored k newest
  have known : v.kept.isSome := by
    rw [h.commissioned newest hsv]
    rfl
  have status := status?_markCommissioned hsv (key.symm ▸ used)
  have inUse := fun key => serverStore?_markCommissioned k key e
  rw [markCommissioned_eq hsv] at status inUse ⊢
  obtain ⟨kept, hkept⟩ := Option.isSome_iff_exists.1 known
  have frame (sv : Server) : ({ sv with windowOpen := false } : Server).frame = sv.frame := rfl
  refine h.framed frame inUse ?_ ?_ ?_
  · rw [← key, status, hkept]
    rfl
  · rw [hkept]
    nofun
  · cases hl : s.live with
    | none =>
      rw [h.vacant hl]
      exact .none
    | some l =>
      obtain ⟨y, hy, stands⟩ := h.stays hl
      cases stands.newest.symm.trans newest
      rw [hy]
      exact .some (stands.switched frame (fun _ online _ => ⟨online, rfl⟩) _)

/-- Nobody can pair what has no server node. -/
theorem Houses.unpaired (h : Houses n s e v) (none : e.newestServer? s.params.uniqueId = none) :
    v.paired = v := by
  rw [h.params] at none
  have vacant : v.stay = .none := by
    cases hl : s.live with
    | none => exact h.vacant hl
    | some l =>
      obtain ⟨y, -, stands⟩ := h.stays hl
      cases none.symm.trans stands.newest
  have unkept := h.unstored none
  cases v
  cases vacant
  cases unkept
  rfl

/-! ### Time -/

/-- Time passes, and something is told or taken away. -/
theorem Houses.timed (h : Houses n s e v) (t : Nat) (told : Journal) :
    Houses n s { e with now := t, journal := told } { v with now := t } :=
  have free := h.grounded.free
  ⟨h.sink, h.params, h.options, h.clearNext,
    h.grounded.same ⟨free.writes, free.adds, free.faults⟩ rfl rfl rfl, rfl,
    ⟨h.stock.length, h.stock.each⟩, h.kept, h.stored, h.unstored,
    h.stayed fun _ _ _ stands => ⟨stands.newest, stands.server, stands.members⟩⟩

/-! ### What happens to an endpoint -/

/-- Something that can happen to an endpoint, wherever its events go. -/
structure Stirs (f : VirtualEndpoint → Except EngineError Unit × Reaction) : Prop where
  /-- nothing depends on where they go -/
  aimed : ∀ n x, f (x.aimed n) = ((f x).1, (f x).2.aimed n)
  /-- the endpoint keeps its id -/
  id : ∀ x, (f x).2.after.endpoint.id = x.endpoint.id
  /-- it keeps its type -/
  type : ∀ x, (f x).2.after.endpoint.type = x.endpoint.type

theorem named_finishWrite (now : Nat) (cluster attr : String) (value : Json) (locked : Bool)
    (x : VirtualEndpoint) :
    (x.finishWrite now cluster attr value locked).2.after.endpoint.id = x.endpoint.id ∧
      (x.finishWrite now cluster attr value locked).2.after.endpoint.type = x.endpoint.type := by
  unfold VirtualEndpoint.finishWrite
  rw [Endpoint.set_eq]
  by_cases hc : x.endpoint.hasCluster cluster = true
  · rw [if_pos hc]
    exact ⟨Endpoint.id_write _ _ _ _, Endpoint.type_write _ _ _ _⟩
  · rw [if_neg hc]
    cases locked <;> exact ⟨rfl, rfl⟩

theorem stirs_write (now : Nat) (cluster attr : String) (value : Json) :
    Stirs (·.write now cluster attr value) where
  aimed := fun _ x => x.write_aimed cluster attr value
  id := fun x => by rw [(endpoint_write now x cluster attr value).2, Endpoint.id_write]
  type := fun x => by rw [(endpoint_write now x cluster attr value).2, Endpoint.type_write]

theorem stirs_writeByOther (now : Nat) (cluster attr : String) (value : Json) :
    Stirs (·.writeByOther now cluster attr value) where
  aimed := fun _ x => x.finishWrite_aimed cluster attr value false
  id := fun x => (named_finishWrite now cluster attr value false x).1
  type := fun x => (named_finishWrite now cluster attr value false x).2

theorem stirs_command (now : Nat) (cluster command : String) (args : Json) :
    Stirs (·.command now cluster command args) := by
  have named (x : VirtualEndpoint) :
      (x.command now cluster command args).2.after.endpoint.id = x.endpoint.id ∧
        (x.command now cluster command args).2.after.endpoint.type = x.endpoint.type := by
    unfold VirtualEndpoint.command Endpoint.invoke
    cases x.endpoint.type.hooks.filter (·.matches? cluster command) with
    | nil => exact ⟨rfl, rfl⟩
    | cons hook rest => exact VirtualEndpoint.endpoint_runAll args (hook :: rest) x.endpoint
  exact ⟨fun _ x => x.command_aimed cluster command args, fun x => (named x).1,
    fun x => (named x).2⟩

/-- Something happens to an endpoint that was once made. -/
theorem Houses.touched (h : Houses n s e v)
    {f : VirtualEndpoint → Except EngineError Unit × Reaction} (stirs : Stirs f) {i handle : Nat}
    (number : (e.handlesFor n)[i]? = some handle) :
    ∃ x, e.endpoints[handle]? = some (.followed x) ∧ (f x).1 = (v.touched i f).1 ∧
      Bridged.journal (f x).2 = Gateway.entries n (v.touched i f).2.1 ∧
      Touches n s e s
        (e.put handle (.followed (f x).2.after) (Bridged.journal (f x).2)) ∧
      Houses n s (e.put handle (.followed (f x).2.after) (Bridged.journal (f x).2))
        (v.touched i f).2.2 := by
  obtain ⟨x, hx, there⟩ := h.at number
  have comes : v.touched i f =
      ((f x).1, (f x).2.events, { v with made := v.made.set i (f x).2.after }) := by
    unfold Lodge.touched
    rw [hx]
  rw [comes]
  have aims : Aims n (x.aimed n) := rfl
  have aims' : Aims n ((f x).2.after.aimed n) := rfl
  refine ⟨x.aimed n, there, ?_⟩
  rw [stirs.aimed]
  exact ⟨rfl, rfl, .put there aims aims' _, h.put number hx (stirs.id x) (stirs.type x) _⟩

end Bridge

end HomeGateway
