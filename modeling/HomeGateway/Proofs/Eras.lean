/-
  What server nodes keep in their storage.

  An era of a storage lasts until a server node is made that clears it.  Server
  nodes of one era share a store, for good; those of different eras share none,
  even if they have the same key.

  * `State.era?`: the era of a server node;
  * `readyStore_cases`: the store of a new server node;
  * `State.Dated`: stores and eras agree; `Dated.marks` and `Dated.founds` keep it;
  * `Dated.commissioned_iff`: which server nodes say that they were paired;
  * `status?_ready`: what is kept under a key.
-/
import HomeGateway.Proofs.Holdings
import HomeGateway.Proofs.Hush

namespace HomeGateway

/-- The storage of a bridge. -/
def Bridge.Params.key (p : Bridge.Params) : Engine.StoreKey :=
  ⟨.ofString p.storagePath, p.uniqueId⟩

namespace Engine

/-! ## Eras -/

/-- How often server nodes that were made cleared the storage of a key. -/
def clearings (key : StoreKey) (configs : List ServerNodeConfig) : Nat :=
  configs.countP fun c => c.key = key && c.clearStorage

/-- The era of a server node: its key, and how often the storage had been cleared once the
    node was made. -/
def State.era? (k : Nat) (e : State) : Option (StoreKey × Nat) :=
  (e.configs[k]?).map fun c => (c.key, clearings c.key (e.configs.take (k + 1)))

/-- The present era of a storage. -/
def State.today (key : StoreKey) (e : State) : StoreKey × Nat :=
  (key, clearings key e.configs)

theorem clearings_concat (key : StoreKey) (configs : List ServerNodeConfig)
    (c : ServerNodeConfig) :
    clearings key (configs ++ [c]) =
      clearings key configs + if c.key = key ∧ c.clearStorage = true then 1 else 0 := by
  unfold clearings
  rw [List.countP_append, List.countP_singleton]
  simp only [Bool.and_eq_true, decide_eq_true_eq]

theorem clearings_take_le (key : StoreKey) (configs : List ServerNodeConfig) (n : Nat) :
    clearings key (configs.take n) ≤ clearings key configs :=
  (List.take_sublist n configs).countP_le

section

variable {e e' : State} {k : Nat} {sv : Server}

theorem config_of_server (hk : e.servers[k]? = some sv) : e.configs[k]? = some sv.config := by
  unfold State.configs
  rw [List.getElem?_map, hk]
  rfl

theorem era?_of_server (hk : e.servers[k]? = some sv) :
    e.era? k = some (sv.config.key, clearings sv.config.key (e.configs.take (k + 1))) := by
  unfold State.era?
  rw [config_of_server hk]
  rfl

/-- What is made later changes no era. -/
theorem era?_concat {c : ServerNodeConfig} (grown : e'.configs = e.configs ++ [c])
    (lt : k < e.configs.length) : e'.era? k = e.era? k := by
  unfold State.era?
  rw [grown, List.getElem?_append_left lt, List.take_append_of_le_length lt]

/-- A new server node belongs to the present era. -/
theorem era?_new {c : ServerNodeConfig} (grown : e'.configs = e.configs ++ [c]) :
    e'.era? e.configs.length = some (e'.today c.key) := by
  have whole : (e.configs ++ [c]).take (e.configs.length + 1) = e.configs ++ [c] :=
    List.take_of_length_le (Nat.le_of_eq List.length_append)
  unfold State.era? State.today
  rw [grown, List.getElem?_concat_length, whole]
  rfl

end

/-! ## The store of a new server node -/

theorem serverStore?_eq_none {key : StoreKey} {e : State} :
    e.serverStore? key = none ↔ ∀ st ∈ e.serverStores, st.key = key → st.dropped = true := by
  unfold State.serverStore?
  rw [List.findIdx?_eq_none_iff]
  simp only [Bool.and_eq_false_imp, decide_eq_true_eq, Bool.not_eq_false']

theorem serverStore?_clearServerStore (key : StoreKey) (e : State) :
    (e.clearServerStore key).serverStore? key = none := by
  rw [serverStore?_eq_none]
  intro st cleared own
  obtain ⟨old, -, rfl⟩ := List.mem_map.1 cleared
  split at own
  · rename_i same
    rw [if_pos same]
  · rename_i other
    exact absurd own other

/-- A store as a new server node finds it: dropped if it is cleared. -/
def ServerStore.foundBy (config : ServerNodeConfig) (st : ServerStore) : ServerStore :=
  if config.clearStorage = true ∧ st.key = config.key then { st with dropped := true } else st

section

variable {config : ServerNodeConfig} {st : ServerStore}

@[simp] theorem key_foundBy : (st.foundBy config).key = st.key := by
  unfold ServerStore.foundBy
  split <;> rfl

@[simp] theorem commissioned_foundBy : (st.foundBy config).commissioned = st.commissioned := by
  unfold ServerStore.foundBy
  split <;> rfl

theorem foundBy_of_ne (other : st.key ≠ config.key) : st.foundBy config = st :=
  if_neg fun both => other both.2

theorem foundBy_of_gentle (gentle : config.clearStorage = false) : st.foundBy config = st :=
  if_neg fun both => Bool.false_ne_true (gentle.symm.trans both.1)

/-- A store is dropped only by a server node of its key that clears the storage. -/
theorem clears_of_foundBy (drops : (st.foundBy config).dropped ≠ st.dropped) :
    config.clearStorage = true ∧ st.key = config.key := by
  unfold ServerStore.foundBy at drops
  split at drops
  · assumption
  · exact absurd rfl drops

end

/-- The stores that a new server node finds. -/
def State.found (config : ServerNodeConfig) (e : State) : List ServerStore :=
  e.serverStores.map (·.foundBy config)

theorem found_of_clear {config : ServerNodeConfig} (clear : config.clearStorage = true)
    (e : State) : e.found config = (e.clearServerStore config.key).serverStores := by
  refine List.map_congr_left fun st _ => ?_
  unfold ServerStore.foundBy
  simp only [clear, true_and]

theorem found_of_gentle {config : ServerNodeConfig} (gentle : config.clearStorage = false)
    (e : State) : e.found config = e.serverStores := by
  unfold State.found
  rw [List.map_congr_left fun st _ => foundBy_of_gentle gentle, List.map_id']

/-- A new server node takes over the store of its key that is in use, or gets a new one. -/
theorem readyStore_cases (config : ServerNodeConfig) (e : State) :
    (config.clearStorage = false ∧ ∃ i st, e.serverStore? config.key = some i ∧
      e.readyStore config = (e.serverStores, i) ∧
      e.serverStores[i]? = some st ∧ st.key = config.key ∧ st.dropped = false) ∨
    (e.readyStore config = (e.found config ++ [⟨config.key, false, false⟩],
        e.serverStores.length) ∧
      ∀ st ∈ e.found config, st.key = config.key → st.dropped = true) := by
  cases clear : config.clearStorage with
  | true =>
    have none := serverStore?_clearServerStore config.key e
    have found := found_of_clear clear e
    refine .inr ⟨?_, ?_⟩
    · unfold State.readyStore
      rw [clear, if_pos rfl]
      dsimp only
      rw [none, found]
      exact congrArg (Prod.mk _) (List.length_map _)
    · rw [found]
      exact serverStore?_eq_none.1 none
  | false =>
    have found := found_of_gentle clear e
    cases used : e.serverStore? config.key with
    | some i =>
      have ready : e.readyStore config = (e.serverStores, i) := by
        unfold State.readyStore
        rw [clear, if_neg Bool.false_ne_true]
        dsimp only
        rw [used]
      obtain ⟨lt, holds, -⟩ := List.findIdx?_eq_some_iff_getElem.1 used
      simp only [Bool.and_eq_true, decide_eq_true_eq, Bool.not_eq_true'] at holds
      exact .inl ⟨rfl, i, e.serverStores[i], rfl, ready, List.getElem?_eq_getElem lt, holds⟩
    | none =>
      refine .inr ⟨?_, ?_⟩
      · unfold State.readyStore
        rw [clear, if_neg Bool.false_ne_true]
        dsimp only
        rw [used, found]
      · rw [found]
        exact serverStore?_eq_none.1 used

/-! ## What is kept under a key -/

/-- Whether what is kept under a key says that a server node was paired; perhaps nothing is. -/
def State.status? (key : StoreKey) (e : State) : Option Bool :=
  (e.serverStore? key).bind fun i => (e.serverStores[i]?).map (·.commissioned)

theorem serverStore?_found {config : ServerNodeConfig} {key : StoreKey} (other : key ≠ config.key)
    (e : State) :
    (e.found config).findIdx? (fun st => st.key = key && !st.dropped) = e.serverStore? key := by
  unfold State.found State.serverStore?
  rw [List.findIdx?_map]
  refine congrArg (List.findIdx? · e.serverStores) (funext fun st => ?_)
  by_cases same : st.key = config.key
  · have apart : st.key ≠ key := fun own => other (own.symm.trans same)
    simp only [Function.comp, key_foundBy, apart, decide_false, Bool.false_and]
  · simp only [Function.comp, foundBy_of_ne same]

section

variable {config : ServerNodeConfig} {e e' : State}
  (stores : e'.serverStores = (e.readyStore config).1)
include stores

/-- The store that is ready for a new server node is the one in use from now on. -/
theorem serverStore?_ready : e'.serverStore? config.key = some (e.readyStore config).2 := by
  unfold State.serverStore?
  rw [stores]
  rcases readyStore_cases config e with ⟨-, i, st, used, ready, -⟩ | ⟨ready, gone⟩
  · rw [ready]
    exact used
  · have none :
        (e.found config).findIdx? (fun st => st.key = config.key && !st.dropped) = none := by
      rw [List.findIdx?_eq_none_iff]
      simpa using gone
    rw [ready, List.findIdx?_append, none, List.findIdx?_singleton]
    simp [State.found]

theorem serverStore?_ready_of_ne {key : StoreKey} (other : key ≠ config.key) :
    e'.serverStore? key = e.serverStore? key := by
  unfold State.serverStore?
  rw [stores]
  rcases readyStore_cases config e with ⟨-, i, st, -, ready, -⟩ | ⟨ready, -⟩
  · rw [ready]
  · rw [ready, List.findIdx?_append, serverStore?_found other, List.findIdx?_singleton]
    simp [other.symm, State.serverStore?]

/-- A new server node finds what is kept under its key, unless it clears the storage. -/
theorem status?_ready :
    e'.status? config.key = some (!config.clearStorage && (e.status? config.key).getD false) := by
  unfold State.status?
  rw [serverStore?_ready stores, Option.bind_some, stores]
  rcases readyStore_cases config e with ⟨gentle, i, st, used, ready, hst, -⟩ | ⟨ready, gone⟩
  · rw [ready, hst, used, Option.bind_some, hst, gentle]
    rfl
  · have new : (e.found config ++ [⟨config.key, false, false⟩])[e.serverStores.length]? =
        some ⟨config.key, false, false⟩ := by
      rw [← show (e.found config).length = e.serverStores.length from List.length_map _]
      exact List.getElem?_concat_length
    rw [ready, new]
    cases clear : config.clearStorage with
    | true => rfl
    | false =>
      have none : e.serverStore? config.key = none := by
        rw [serverStore?_eq_none, ← found_of_gentle clear e]
        exact gone
      rw [none]
      rfl

theorem status?_ready_of_ne {key : StoreKey} (other : key ≠ config.key) :
    e'.status? key = e.status? key := by
  unfold State.status?
  rw [serverStore?_ready_of_ne stores other]
  cases used : e.serverStore? key with
  | none => rfl
  | some i =>
    obtain ⟨st, hst, key'⟩ := serverStore?_eq_some used
    have kept := (readyStore_spec config e).2.1 i st hst (key'.symm ▸ other)
    rw [Option.bind_some, Option.bind_some, stores, kept, hst]

end

section

variable {e : State} {k : Nat} {sv : Server}

theorem markCommissioned_eq (hk : e.servers[k]? = some sv) : e.markCommissioned k =
    { e.changeServer k (fun sv => { sv with windowOpen := false }) with
      serverStores :=
        e.serverStores.modify sv.store fun st => { st with commissioned := true } } := by
  unfold State.markCommissioned
  rw [hk]

theorem serverStore?_markCommissioned (k : Nat) (key : StoreKey) (e : State) :
    (e.markCommissioned k).serverStore? key = e.serverStore? key := by
  cases hk : e.servers[k]? with
  | none =>
    unfold State.markCommissioned
    rw [hk]
  | some sv =>
    have frames := map_modify_of e.serverStores sv.store
      (g := fun st : ServerStore => decide (st.key = key) && !st.dropped)
      (f := fun st => { st with commissioned := true }) fun _ => rfl
    have same := congrArg (List.findIdx? id) frames
    rw [List.findIdx?_map, List.findIdx?_map] at same
    rw [markCommissioned_eq hk]
    exact same

/-- A server node of another key is paired. -/
theorem status?_markCommissioned_of_ne {key : StoreKey} (hk : e.servers[k]? = some sv)
    (own : (e.serverStores[sv.store]?).map (·.key) = some sv.config.key)
    (other : sv.config.key ≠ key) : (e.markCommissioned k).status? key = e.status? key := by
  unfold State.status?
  rw [serverStore?_markCommissioned]
  cases used : e.serverStore? key with
  | none => rfl
  | some i =>
    obtain ⟨st, hst, key'⟩ := serverStore?_eq_some used
    have apart : sv.store ≠ i := by
      rintro rfl
      rw [hst] at own
      exact other ((Option.some.inj own).symm.trans key')
    rw [Option.bind_some, Option.bind_some, markCommissioned_eq hk]
    exact congrArg _ (List.getElem?_modify_ne _ _ apart)

/-- A server node is paired whose store is in use. -/
theorem status?_markCommissioned (hk : e.servers[k]? = some sv)
    (used : e.serverStore? sv.config.key = some sv.store) :
    (e.markCommissioned k).status? sv.config.key = some true := by
  obtain ⟨st, hst, -⟩ := serverStore?_eq_some used
  unfold State.status?
  rw [serverStore?_markCommissioned, used, Option.bind_some, markCommissioned_eq hk]
  show ((List.modify _ _ _)[sv.store]?).map _ = _
  rw [List.getElem?_modify_eq, hst]
  rfl

end

/-! ## Stores and eras -/

/-- What a server node has for good. -/
def Server.lease (sv : Server) : ServerNodeConfig × Nat :=
  (sv.config, sv.store)

/-- The stores belong to the eras of the server nodes, and say which of these, by their
    numbers, were paired. -/
structure State.Dated (paired : List Nat) (e : State) : Prop where
  /-- server nodes that were paired exist -/
  known : ∀ j ∈ paired, j < e.servers.length
  /-- a server node has a store of its key, which is in use for the time of its era -/
  stored : ∀ (k : Nat) (sv : Server), e.servers[k]? = some sv →
    ∃ st, e.serverStores[sv.store]? = some st ∧ st.key = sv.config.key ∧
      (st.dropped = false ↔ e.era? k = some (e.today sv.config.key))
  /-- server nodes have the same store if they are of the same era -/
  shared : ∀ (j k : Nat) (sv sv' : Server), e.servers[j]? = some sv → e.servers[k]? = some sv' →
    (sv.store = sv'.store ↔ e.era? j = e.era? k)
  /-- every store was made for a server node -/
  used : ∀ i < e.serverStores.length,
    ∃ (k : Nat) (sv : Server), e.servers[k]? = some sv ∧ sv.store = i
  /-- a store says whether one of its server nodes was paired -/
  marked : ∀ (i : Nat) (st : ServerStore), e.serverStores[i]? = some st →
    (st.commissioned = true ↔
      ∃ j ∈ paired, ∃ sv : Server, e.servers[j]? = some sv ∧ sv.store = i)

namespace State.Dated

variable {paired : List Nat} {e e' : State} {k : Nat} {sv : Server}

theorem initial : State.initial.Dated [] where
  known := nofun
  stored := nofun
  shared := fun _ _ _ _ hj => nomatch hj
  used := nofun
  marked := nofun

/-- A server node says that it was paired if one of its era was. -/
theorem commissioned_iff (h : e.Dated paired) (hk : e.servers[k]? = some sv) :
    e.commissioned sv = true ↔ ∃ j ∈ paired, e.era? j = e.era? k := by
  obtain ⟨st, hst, -, -⟩ := h.stored k sv hk
  have said : e.commissioned sv = st.commissioned := by
    unfold State.commissioned
    rw [hst]
  rw [said, h.marked sv.store st hst]
  refine exists_congr fun j => and_congr_right fun hj => ?_
  constructor
  · rintro ⟨sv', hj', same⟩
    exact (h.shared j k sv' sv hj' hk).1 same
  · intro same
    have hj' := List.getElem?_eq_getElem (h.known j hj)
    exact ⟨_, hj', (h.shared j k _ sv hj' hk).2 same⟩

/-! ### What keeps it -/

/-- Server nodes keep what they have for good, and stores are in use as before. -/
theorem of_leases {paired' : List Nat} (h : e.Dated paired)
    (leases : e'.servers.map Server.lease = e.servers.map Server.lease)
    (frames : e'.serverStores.map (fun st => (st.key, st.dropped)) =
      e.serverStores.map fun st => (st.key, st.dropped))
    (known : ∀ j ∈ paired', j < e.servers.length)
    (marked : ∀ (i : Nat) (st : ServerStore), e'.serverStores[i]? = some st →
      (st.commissioned = true ↔
        ∃ j ∈ paired', ∃ sv : Server, e.servers[j]? = some sv ∧ sv.store = i)) :
    e'.Dated paired' := by
  have configs : e'.configs = e.configs := by
    have := congrArg (List.map Prod.fst) leases
    rw [List.map_map, List.map_map] at this
    exact this
  have era (k : Nat) : e'.era? k = e.era? k := by
    unfold State.era?
    rw [configs]
  have today (key : StoreKey) : e'.today key = e.today key := by
    unfold State.today
    rw [configs]
  have back {k : Nat} {sv : Server} (hk : e'.servers[k]? = some sv) :
      ∃ sv₀, e.servers[k]? = some sv₀ ∧ sv.config = sv₀.config ∧ sv.store = sv₀.store := by
    obtain ⟨sv₀, hk₀, lease⟩ := getElem?_of_map_eq leases hk
    exact ⟨sv₀, hk₀, congrArg Prod.fst lease, congrArg Prod.snd lease⟩
  have forth {k : Nat} {sv : Server} (hk : e.servers[k]? = some sv) :
      ∃ sv₁, e'.servers[k]? = some sv₁ ∧ sv₁.store = sv.store := by
    obtain ⟨sv₁, hk₁, lease⟩ := getElem?_of_map_eq leases.symm hk
    exact ⟨sv₁, hk₁, (congrArg Prod.snd lease).symm⟩
  have servers : e'.servers.length = e.servers.length := by simpa using congrArg List.length leases
  have stores : e'.serverStores.length = e.serverStores.length := by
    simpa using congrArg List.length frames
  refine ⟨servers ▸ known, ?_, ?_, ?_, ?_⟩
  · intro k sv hk
    obtain ⟨sv₀, hk₀, config, store⟩ := back hk
    obtain ⟨st, hst, key, inUse⟩ := h.stored k sv₀ hk₀
    obtain ⟨st₁, hst₁, frame⟩ := getElem?_of_map_eq frames.symm hst
    rw [config, store, era, today]
    have dropped : st.dropped = st₁.dropped := congrArg Prod.snd frame
    exact ⟨st₁, hst₁, (congrArg Prod.fst frame).symm.trans key, dropped ▸ inUse⟩
  · intro j k sv sv' hj hk
    obtain ⟨sv₀, hj₀, -, store⟩ := back hj
    obtain ⟨sv₁, hk₁, -, store'⟩ := back hk
    rw [store, store', era, era]
    exact h.shared j k sv₀ sv₁ hj₀ hk₁
  · intro i hi
    obtain ⟨k, sv, hk, store⟩ := h.used i (stores ▸ hi)
    obtain ⟨sv₁, hk₁, store₁⟩ := forth hk
    exact ⟨k, sv₁, hk₁, store₁.trans store⟩
  · intro i st hi
    rw [marked i st hi]
    refine exists_congr fun j => and_congr_right fun _ => ⟨?_, ?_⟩
    · rintro ⟨sv, hj, store⟩
      obtain ⟨sv₁, hj₁, store₁⟩ := forth hj
      exact ⟨sv₁, hj₁, store₁.trans store⟩
    · rintro ⟨sv, hj, store⟩
      obtain ⟨sv₀, hj₀, -, store₀⟩ := back hj
      exact ⟨sv₀, hj₀, store₀.symm.trans store⟩

theorem same (h : e.Dated paired)
    (leases : e'.servers.map Server.lease = e.servers.map Server.lease)
    (stores : e'.serverStores = e.serverStores) : e'.Dated paired :=
  h.of_leases leases (congrArg _ stores) h.known fun i st hi => h.marked i st (stores ▸ hi)

/-- A commissioner pairs a server node. -/
theorem marks (h : e.Dated paired) (hk : e.servers[k]? = some sv) :
    (e.markCommissioned k).Dated (k :: paired) := by
  rw [markCommissioned_eq hk]
  refine h.of_leases (map_modify_of e.servers k fun _ => rfl)
    (map_modify_of e.serverStores sv.store fun _ => rfl) ?_ fun i st hi => ?_
  · intro j hj
    rcases List.mem_cons.1 hj with rfl | hj
    · exact (List.getElem?_eq_some_iff.1 hk).1
    · exact h.known j hj
  · have hi' : (e.serverStores.modify sv.store _)[i]? = some st := hi
    rw [List.getElem?_modify] at hi'
    obtain ⟨old, hold, rfl⟩ := Option.map_eq_some_iff.1 hi'
    rw [List.exists_mem_cons_iff]
    by_cases own : sv.store = i
    · rw [if_pos own]
      exact ⟨fun _ => .inl ⟨sv, hk, own⟩, fun _ => rfl⟩
    · rw [if_neg own, h.marked i old hold]
      refine ⟨.inr, fun marked => marked.resolve_left ?_⟩
      rintro ⟨sv', hk', store⟩
      cases hk.symm.trans hk'
      exact own store

/-! ### A new server node -/

section

variable (servers : e'.servers = e.servers ++ [sv])
include servers

theorem configs_grown : e'.configs = e.configs ++ [sv.config] := by
  unfold State.configs
  rw [servers, List.map_append]
  rfl

theorem today_grown (key : StoreKey) : e'.today key =
    (key, clearings key e.configs +
      if sv.config.key = key ∧ sv.config.clearStorage = true then 1 else 0) := by
  unfold State.today
  rw [configs_grown servers, clearings_concat]

theorem era?_grown (lt : k < e.servers.length) : e'.era? k = e.era? k :=
  era?_concat (configs_grown servers) ((List.length_map _).symm ▸ lt)

theorem era?_newest : e'.era? e.servers.length = some (e'.today sv.config.key) := by
  have new := era?_new (configs_grown servers)
  rwa [show e.configs.length = e.servers.length from List.length_map _] at new

theorem grown_cases {x : Server} (hk : e'.servers[k]? = some x) :
    (k < e.servers.length ∧ e.servers[k]? = some x) ∨ (k = e.servers.length ∧ x = sv) := by
  rw [servers] at hk
  rcases Nat.lt_trichotomy k e.servers.length with lt | rfl | gt
  · rw [List.getElem?_append_left lt] at hk
    exact .inl ⟨lt, hk⟩
  · rw [List.getElem?_concat_length] at hk
    exact .inr ⟨rfl, (Option.some.inj hk).symm⟩
  · have := (List.getElem?_eq_some_iff.1 hk).1
    rw [List.length_append, List.length_singleton] at this
    omega

theorem getElem?_grown {x : Server} (hk : e.servers[k]? = some x) : e'.servers[k]? = some x := by
  rw [servers, List.getElem?_append_left (List.getElem?_eq_some_iff.1 hk).1, hk]

/-- Which of the server nodes of a store were paired is as before. -/
theorem marked_grown (h : e.Dated paired) (i : Nat) :
    (∃ j ∈ paired, ∃ x : Server, e'.servers[j]? = some x ∧ x.store = i) ↔
      ∃ j ∈ paired, ∃ x : Server, e.servers[j]? = some x ∧ x.store = i := by
  refine exists_congr fun j => and_congr_right fun hj => ?_
  rw [servers, List.getElem?_append_left (h.known j hj)]

/-- The new server node takes over the store in use. -/
theorem takes_over (h : e.Dated paired) {st : ServerStore} (gentle : sv.config.clearStorage = false)
    (stores : e'.serverStores = e.serverStores) (hst : e.serverStores[sv.store]? = some st)
    (key : st.key = sv.config.key) (inUse : st.dropped = false) : e'.Dated paired := by
  have today (key : StoreKey) : e'.today key = e.today key := by
    rw [today_grown servers, gentle, if_neg fun clears => Bool.false_ne_true clears.2]
    rfl
  -- the server node for which the store was made is of the present era
  obtain ⟨first, sv₀, hfirst, store₀⟩ := h.used sv.store (List.getElem?_eq_some_iff.1 hst).1
  have present : e.era? first = some (e.today sv.config.key) := by
    obtain ⟨st₀, hst₀, key₀, now⟩ := h.stored first sv₀ hfirst
    rw [store₀] at hst₀
    cases hst.symm.trans hst₀
    rw [now.1 inUse, ← key₀, key]
  have joins {k : Nat} {x : Server} (hk : e.servers[k]? = some x) :
      x.store = sv.store ↔ e.era? k = some (e.today sv.config.key) := by
    rw [← store₀, h.shared k first x sv₀ hk hfirst, present]
  refine ⟨?_, ?_, ?_, ?_, ?_⟩
  · intro j hj
    rw [servers, List.length_append]
    exact Nat.lt_add_right _ (h.known j hj)
  · intro k x hk
    rw [stores, today]
    rcases grown_cases servers hk with ⟨lt, old⟩ | ⟨rfl, rfl⟩
    · rw [era?_grown servers lt]
      exact h.stored k x old
    · exact ⟨st, hst, key, iff_of_true inUse (by rw [era?_newest servers, today])⟩
  · intro j k x y hj hk
    rcases grown_cases servers hj with ⟨lt, old⟩ | ⟨rfl, rfl⟩
    · rcases grown_cases servers hk with ⟨lt', old'⟩ | ⟨rfl, rfl⟩
      · rw [era?_grown servers lt, era?_grown servers lt']
        exact h.shared j k x y old old'
      · rw [era?_grown servers lt, era?_newest servers, today]
        exact joins old
    · rcases grown_cases servers hk with ⟨lt', old'⟩ | ⟨rfl, rfl⟩
      · rw [era?_newest servers, era?_grown servers lt', today, eq_comm, joins old', eq_comm]
      · exact iff_of_true rfl rfl
  · intro i hi
    obtain ⟨k, x, hk, store⟩ := h.used i (stores ▸ hi)
    exact ⟨k, x, getElem?_grown servers hk, store⟩
  · intro i st' hi
    rw [marked_grown servers h]
    exact h.marked i st' (stores ▸ hi)

/-- If no store of its key is in use, no earlier server node of the key is of the era that
    begins. -/
theorem past (h : e.Dated paired)
    (gone : ∀ st ∈ e.found sv.config, st.key = sv.config.key → st.dropped = true) {x : Server}
    (hk : e.servers[k]? = some x) (same : x.config.key = sv.config.key) :
    e.era? k ≠ some (e'.today sv.config.key) := by
  intro present
  rw [today_grown servers] at present
  cases clear : sv.config.clearStorage with
  | true =>
    rw [era?_of_server hk, if_pos ⟨rfl, clear⟩, same] at present
    have count := congrArg Prod.snd (Option.some.inj present)
    have := clearings_take_le sv.config.key e.configs (k + 1)
    dsimp only at count
    omega
  | false =>
    obtain ⟨st, hst, key, now⟩ := h.stored k x hk
    rw [if_neg fun clears => Bool.false_ne_true (clear.symm.trans clears.2)] at present
    have dropped : st.dropped = true :=
      gone st (found_of_gentle clear e ▸ List.mem_of_getElem? hst) (key.trans same)
    rw [now.2 (same ▸ present)] at dropped
    cases dropped

/-- The new server node gets a new store, and the stores of its key are no longer in use. -/
theorem settles (h : e.Dated paired) (store : sv.store = e.serverStores.length)
    (stores : e'.serverStores = e.found sv.config ++ [⟨sv.config.key, false, false⟩])
    (gone : ∀ st ∈ e.found sv.config, st.key = sv.config.key → st.dropped = true) :
    e'.Dated paired := by
  have length : (e.found sv.config).length = e.serverStores.length := List.length_map _
  have new : e'.serverStores[e.serverStores.length]? = some ⟨sv.config.key, false, false⟩ := by
    rw [stores, ← length]
    exact List.getElem?_concat_length
  have old {i : Nat} {st : ServerStore} (hi : e.serverStores[i]? = some st) :
      e'.serverStores[i]? = some (st.foundBy sv.config) := by
    have lt := (List.getElem?_eq_some_iff.1 hi).1
    rw [stores, List.getElem?_append_left (length.symm ▸ lt), State.found, List.getElem?_map, hi]
    rfl
  have older {k : Nat} {x : Server} (hk : e.servers[k]? = some x) :
      x.store < e.serverStores.length := by
    obtain ⟨st, hst, -⟩ := h.stored k x hk
    exact (List.getElem?_eq_some_iff.1 hst).1
  have apart {k : Nat} {x : Server} (hk : e.servers[k]? = some x) :
      x.store ≠ sv.store ∧ e.era? k ≠ some (e'.today sv.config.key) := by
    refine ⟨fun same => ?_, fun present => ?_⟩
    · have := older hk
      omega
    · refine h.past servers gone hk ?_ present
      rw [era?_of_server hk, today_grown servers] at present
      exact congrArg Prod.fst (Option.some.inj present)
  refine ⟨?_, ?_, ?_, ?_, ?_⟩
  · intro j hj
    rw [servers, List.length_append]
    exact Nat.lt_add_right _ (h.known j hj)
  · intro k x hk
    rcases grown_cases servers hk with ⟨lt, hk⟩ | ⟨rfl, rfl⟩
    · obtain ⟨st, hst, key, now⟩ := h.stored k x hk
      refine ⟨_, old hst, key_foundBy.trans key, ?_⟩
      rw [era?_grown servers lt]
      by_cases same : x.config.key = sv.config.key
      · refine iff_of_false ?_ (same ▸ (apart hk).2)
        rw [gone _ (List.mem_map_of_mem (List.mem_of_getElem? hst))
          (key_foundBy.trans (key.trans same))]
        exact Bool.noConfusion
      · rw [foundBy_of_ne (key.symm ▸ same), now, today_grown servers,
          if_neg fun both => same both.1.symm]
        rfl
    · rw [store]
      exact ⟨_, new, rfl, iff_of_true rfl (era?_newest servers)⟩
  · intro j k x y hj hk
    rcases grown_cases servers hj with ⟨lt, hj⟩ | ⟨rfl, rfl⟩
    · rcases grown_cases servers hk with ⟨lt', hk⟩ | ⟨rfl, rfl⟩
      · rw [era?_grown servers lt, era?_grown servers lt']
        exact h.shared j k x y hj hk
      · rw [era?_grown servers lt, era?_newest servers]
        exact iff_of_false (apart hj).1 (apart hj).2
    · rcases grown_cases servers hk with ⟨lt', hk⟩ | ⟨rfl, rfl⟩
      · rw [era?_newest servers, era?_grown servers lt']
        exact iff_of_false (apart hk).1.symm (apart hk).2.symm
      · exact iff_of_true rfl rfl
  · intro i hi
    rw [stores, List.length_append, List.length_singleton, length] at hi
    rcases Nat.lt_succ_iff_lt_or_eq.1 hi with lt | rfl
    · obtain ⟨k, x, hk, own⟩ := h.used i lt
      exact ⟨k, x, getElem?_grown servers hk, own⟩
    · exact ⟨e.servers.length, sv, by rw [servers, List.getElem?_concat_length], store⟩
  · intro i st hi
    rw [marked_grown servers h]
    rcases Nat.lt_trichotomy i e.serverStores.length with lt | rfl | gt
    · have hst := List.getElem?_eq_getElem lt
      cases hi.symm.trans (old hst)
      rw [commissioned_foundBy]
      exact h.marked i _ hst
    · cases hi.symm.trans new
      refine iff_of_false Bool.false_ne_true ?_
      rintro ⟨j, -, x, hj, own⟩
      have := older hj
      omega
    · have := (List.getElem?_eq_some_iff.1 hi).1
      rw [stores, List.length_append, List.length_singleton, length] at this
      omega

/-- A server node is made. -/
theorem founds (h : e.Dated paired) (store : sv.store = (e.readyStore sv.config).2)
    (stores : e'.serverStores = (e.readyStore sv.config).1) : e'.Dated paired := by
  rcases readyStore_cases sv.config e with
    ⟨gentle, i, st, -, ready, hst, key, inUse⟩ | ⟨ready, gone⟩
  · rw [ready] at store stores
    exact h.takes_over servers gentle stores (by rw [store]; exact hst) key inUse
  · rw [ready] at store stores
    exact h.settles servers store stores gone

end

end State.Dated

end Engine

end HomeGateway
