/-
  Running actions of the engine and of its users.

  An action is a function of the state that it changes.  The first lemmas run
  the pieces that actions are made of; the others say what the operations on
  server nodes and bridged endpoints come to in an engine that holds nothing up
  and in which no fault is armed.

  * `Act.run_bind`, `Use.run_bind`: one action after the other;
  * `run_createServer`, `run_addAggregator`, `run_closeServer`: a server node;
  * `run_addEndpoint`: an endpoint that joins an aggregator;
  * `run_startWrite`, `run_finishWrite`, `run_peerCommand`: what happens to it;
  * `Act.Within`, `Use.Within`: what an action never leaves.
-/
import HomeGateway.Bridge.Session
import Mathlib.Order.Defs.Unbundled

namespace HomeGateway.Engine

open HomeGateway Bridge

variable {α β σ : Type}

/-! ## Pieces of actions -/

namespace Act

@[simp] theorem run_bind (x : Act α) (f : α → Act β) (s : State) :
    (x >>= f) s = match x s with
      | (.ok a, s) => f a s
      | (.error m, s) => (.error m, s) := by
  simp only [bind, ExceptT.bind, ExceptT.mk, StateT.bind]
  rcases x s with ⟨_ | _, _⟩ <;> rfl

@[simp] theorem run_map (f : α → β) (x : Act α) (s : State) :
    (f <$> x) s = match x s with
      | (.ok a, s) => (.ok (f a), s)
      | (.error m, s) => (.error m, s) := by
  rw [map_eq_pure_bind, run_bind]
  rfl

@[simp] theorem run_pure (a : α) (s : State) : (pure a : Act α) s = (.ok a, s) := rfl

@[simp] theorem run_get (s : State) : (get : Act State) s = (.ok s, s) := rfl

@[simp] theorem run_set (t s : State) : (set t : Act Unit) s = (.ok (), t) := rfl

@[simp] theorem run_modify (f : State → State) (s : State) :
    (modify f : Act Unit) s = (.ok (), f s) := rfl

@[simp] theorem run_throw (m : Mishap) (s : State) : (throw m : Act α) s = (.error m, s) := rfl

@[simp] theorem run_fail (e : EngineError) (s : State) :
    (fail e : Act α) s = (.error (.failed (.engine e)), s) := rfl

@[simp] theorem run_attempt (a : Act α) (s : State) : attempt a s = (.ok (a s).1, (a s).2) := rfl

@[simp] theorem run_ite (c : Prop) [Decidable c] (x y : Act α) (s : State) :
    (if c then x else y) s = if c then x s else y s := by
  split <;> rfl

end Act

@[simp] theorem run_tell (entries : Journal) (s : State) :
    tell entries s = (.ok (), { s with journal := s.journal ++ entries }) := rfl

namespace Use

@[simp] theorem run_bind (x : Use σ α) (f : α → Use σ β) (p : σ × State) :
    (x >>= f) p = match x p with
      | (.ok a, p) => f a p
      | (.error m, p) => (.error m, p) := by
  simp only [bind, ExceptT.bind, ExceptT.mk, StateT.bind]
  rcases x p with ⟨_ | _, _⟩ <;> rfl

@[simp] theorem run_map (f : α → β) (x : Use σ α) (p : σ × State) :
    (f <$> x) p = match x p with
      | (.ok a, p) => (.ok (f a), p)
      | (.error m, p) => (.error m, p) := by
  rw [map_eq_pure_bind, run_bind]
  rfl

@[simp] theorem run_pure (a : α) (p : σ × State) : (pure a : Use σ α) p = (.ok a, p) := rfl

@[simp] theorem run_throw (m : Mishap) (p : σ × State) :
    (throw m : Use σ α) p = (.error m, p) := rfl

@[simp] theorem run_fail (f : Failure) (p : σ × State) :
    (fail f : Use σ α) p = (.error (.failed f), p) := rfl

@[simp] theorem run_own (p : σ × State) : (own : Use σ σ) p = (.ok p.1, p) := rfl

@[simp] theorem run_change (f : σ → σ) (p : σ × State) :
    change f p = (.ok (), f p.1, p.2) := rfl

@[simp] theorem run_act (a : Act α) (p : σ × State) :
    engine a p = ((a p.2).1, p.1, (a p.2).2) := rfl

@[simp] theorem run_ite (c : Prop) [Decidable c] (x y : Use σ α) (p : σ × State) :
    (if c then x else y) p = if c then x p else y p := by
  split <;> rfl

end Use

/-! ## Engines that hold nothing up -/

/-- Nothing is held up and no fault is armed. -/
structure State.Free (s : State) : Prop where
  /-- writes go through -/
  writes : s.writesHeld = false
  /-- additions go through -/
  adds : s.addsHeld = false
  /-- nothing breaks -/
  faults : s.faults = []

@[simp] theorem run_trip {s : State} (h : s.faults = []) (spot : Spot) :
    trip spot s = (.ok (), s) := by
  simp [trip, h]

/-! ## Server nodes -/

/-- The stores of server nodes, the one of a new node being ready, and its number. -/
def State.readyStore (config : ServerNodeConfig) (s : State) : List ServerStore × Nat :=
  let s := if config.clearStorage then s.clearServerStore config.key else s
  match s.serverStore? config.key with
  | some i => (s.serverStores, i)
  | none => (s.serverStores ++ [⟨config.key, false, false⟩], s.serverStores.length)

/-- A server node right after it was made. -/
def Server.fresh (config : ServerNodeConfig) (store : Nat) (aggregator : Option Nat) : Server :=
  ⟨config, store, false, false, false, aggregator⟩

/-- A server node after it was closed. -/
def Server.shut (sv : Server) : Server :=
  { sv with online := false, closed := true, windowOpen := false, aggregator := none }

theorem run_openServerStore (key : StoreKey) (s : State) :
    openServerStore key s = match s.serverStore? key with
      | some i => (.ok i, s)
      | none => (.ok s.serverStores.length,
          { s with serverStores := s.serverStores ++ [⟨key, false, false⟩] }) := by
  simp only [openServerStore, Act.run_bind, Act.run_get]
  cases s.serverStore? key <;> rfl

theorem run_createServer (config : ServerNodeConfig) {s : State} (h : s.faults = []) :
    createServer config s = (.ok s.servers.length,
      { s with
        serverStores := (s.readyStore config).1
        servers := s.servers ++ [.fresh config (s.readyStore config).2 none] }) := by
  simp only [createServer, Act.run_bind, run_trip h, Act.run_ite, Act.run_modify, Act.run_pure,
    State.readyStore]
  by_cases hc : config.clearStorage
  · simp only [hc, if_true, run_openServerStore]
    cases (s.clearServerStore config.key).serverStore? config.key <;> rfl
  · simp only [hc, Bool.false_eq_true, if_false, run_openServerStore]
    cases s.serverStore? config.key <;> rfl

theorem run_theServer {s : State} {n : Nat} {sv : Server} (h : s.servers[n]? = some sv) :
    theServer n s = (.ok sv, s) := by
  simp [theServer, h]

theorem run_addAggregator {s : State} {n : Nat} {sv : Server} (h : s.faults = [])
    (hn : s.servers[n]? = some sv) (hc : sv.closed = false) (ha : sv.aggregator = none) :
    Engine.addAggregator n s = (.ok s.aggregators.length,
      { s with
        aggregators := s.aggregators ++ [[]]
        servers := s.servers.modify n fun sv =>
          { sv with aggregator := some s.aggregators.length } }) := by
  simp [Engine.addAggregator, h, run_theServer hn, hc, ha, State.changeServer]

theorem run_closeServer {s : State} {n : Nat} {sv : Server} (h : s.faults = [])
    (hn : s.servers[n]? = some sv) :
    closeServer n s = (.ok (),
      { s with
        servers := s.servers.modify n .shut
        aggregators := match sv.aggregator with
          | some a => s.aggregators.set a []
          | none => s.aggregators }) := by
  simp only [closeServer, Act.run_bind, run_trip h, run_theServer hn, Act.run_modify]
  cases sv.aggregator <;> rfl

/-- A server node that is not closed comes on the network. -/
theorem run_startServer {s : State} {n : Nat} {sv : Server} (h : s.faults = [])
    (hn : s.servers[n]? = some sv) (hc : sv.closed = false) :
    startServer n s = (.ok (), s.changeServer n fun sv' =>
      { sv' with online := true, windowOpen := !s.commissioned sv }) := by
  simp [startServer, run_trip h, run_theServer hn, hc]

theorem run_openWindow {s : State} {n : Nat} {sv : Server} (hn : s.servers[n]? = some sv) :
    openWindow n s =
      if sv.online then (.ok (), s.changeServer n fun sv => { sv with windowOpen := true })
      else (.error (.failed (.engine (.invalidState "Server node is not online"))), s) := by
  cases online : sv.online <;> simp [openWindow, run_theServer hn, online]

/-! ## Bridged endpoints -/

theorem run_addEndpoint {s : State} {a : Nat} {members : List Nat} {b : Bridged} (h : s.faults = [])
    (ha : s.aggregators[a]? = some members)
    (hb : s.endpointAmong? b.endpoint.id members = none) :
    Engine.addEndpoint a b s = (.ok s.endpoints.length,
      { s with
        endpoints := s.endpoints ++ [b]
        aggregators := s.aggregators.set a (members ++ [s.endpoints.length]) }) := by
  simp [Engine.addEndpoint, h, ha, hb]

/-- The state with an endpoint put in the place of another, after something was told. -/
def State.put (s : State) (e : Nat) (b : Bridged) (entries : Journal) : State :=
  { s with endpoints := s.endpoints.set e b, journal := s.journal ++ entries }

@[simp] theorem State.writesHeld_put (s : State) (e : Nat) (b : Bridged) (entries : Journal) :
    (s.put e b entries).writesHeld = s.writesHeld := rfl

theorem run_startWrite {s : State} {e : Nat} {b : Bridged} (he : s.endpoints[e]? = some b)
    (own : Bool) (cluster attr : String) (value : Json) :
    startWrite own e cluster attr value s =
      (.ok ⟨e, cluster, attr, value, (b.startWrite s.now own cluster attr value).2⟩,
        s.put e (b.startWrite s.now own cluster attr value).1 []) := by
  simp [startWrite, he, State.put]

/-- The outcome of an action that ends with an outcome of the engine. -/
def outcome (r : Except EngineError Unit) : Except Mishap Unit :=
  r.mapError fun e => .failed (.engine e)

theorem run_ofExcept (r : Except EngineError Unit) (s : State) :
    Act.ofExcept r s = (outcome r, s) := by
  cases r <;> rfl

/-- A write of an endpoint that does not wait. -/
def write (now : Nat) (own : Bool) (cluster attr : String) (value : Json) (b : Bridged) :
    Except EngineError Unit × Bridged × Journal :=
  let (b, locked) := b.startWrite now own cluster attr value
  b.finishWrite now cluster attr value locked

/-- A write that was just started comes to its end. -/
theorem run_finishWrite {s : State} {e : Nat} {b : Bridged} (he : s.endpoints[e]? = some b)
    (own : Bool) (cluster attr : String) (value : Json) :
    finishWrite ⟨e, cluster, attr, value, (b.startWrite s.now own cluster attr value).2⟩
        (s.put e (b.startWrite s.now own cluster attr value).1 []) =
      (outcome (write s.now own cluster attr value b).1,
        s.put e (write s.now own cluster attr value b).2.1
          (write s.now own cluster attr value b).2.2) := by
  have hlt := (List.getElem?_eq_some_iff.1 he).1
  simp [finishWrite, hlt, run_ofExcept, write, State.put]

theorem run_peerCommand {s : State} {e : Nat} {b : Bridged} (he : s.endpoints[e]? = some b)
    (cluster command : String) (args : Json) :
    peerCommand e cluster command args s =
      (outcome (b.command s.now cluster command args).1,
        s.put e (b.command s.now cluster command args).2.1
          (b.command s.now cluster command args).2.2) := by
  simp [peerCommand, he, run_ofExcept, State.put]

/-! ## What actions never leave -/

/-- The states before and after an action are related, whatever it does. -/
def Act.Within (R : State → State → Prop) (a : Act α) : Prop :=
  ∀ s, R s (a s).2

namespace Act.Within

variable {R : State → State → Prop}

/-- What an action does may depend on the state that it finds. -/
theorem get_bind {f : State → Act β} (hf : ∀ s, R s (f s s).2) : (get >>= f : Act β).Within R :=
  hf

theorem ite {c : Prop} [Decidable c] {x y : Act α} (hx : x.Within R) (hy : y.Within R) :
    (if c then x else y).Within R := by
  split
  · exact hx
  · exact hy

variable [IsPreorder State R]

theorem bind {x : Act α} {f : α → Act β} (hx : x.Within R) (hf : ∀ a, (f a).Within R) :
    (x >>= f).Within R := by
  intro s
  have first := hx s
  rw [run_bind]
  generalize x s = run at first
  rcases run with ⟨_ | a, s'⟩
  · exact first
  · exact trans_of R first (hf a s')

theorem pure (a : α) : (Pure.pure a : Act α).Within R :=
  fun s => refl_of R s

theorem fail (e : EngineError) : (Act.fail e : Act α).Within R :=
  fun s => refl_of R s

/-- What comes after a failure is not done. -/
theorem fail_bind (e : EngineError) (f : α → Act β) : (Act.fail e >>= f).Within R :=
  fun s => refl_of R s

theorem ofExcept (r : Except EngineError α) : (Act.ofExcept r).Within R := by
  cases r with
  | ok a => exact pure a
  | error e => exact fail e

end Act.Within

/-- The states before and after an action are related, and of what it yields something is true
    afterwards. -/
def Act.Yields (R : State → State → Prop) (Q : α → State → Prop) (a : Act α) : Prop :=
  ∀ s, R s (a s).2 ∧ ∀ x, (a s).1 = .ok x → Q x (a s).2

theorem Act.Yields.bind {R : State → State → Prop} [IsPreorder State R] {Q : β → State → Prop}
    {x : Act α} {f : α → Act β} (hx : x.Within R) (hf : ∀ a, (f a).Yields R Q) :
    (x >>= f).Yields R Q := by
  intro s
  have first := hx s
  rw [run_bind]
  generalize x s = run at first
  rcases run with ⟨_ | a, s'⟩
  · exact ⟨first, nofun⟩
  · exact ⟨trans_of R first (hf a s').1, (hf a s').2⟩

/-- The same of what a user does, with its own state. -/
def Use.Within (R : σ × State → σ × State → Prop) (a : Use σ α) : Prop :=
  ∀ p, R p (a p).2

namespace Use.Within

variable {R : σ × State → σ × State → Prop} [IsPreorder (σ × State) R]

theorem bind {x : Use σ α} {f : α → Use σ β} (hx : x.Within R) (hf : ∀ a, (f a).Within R) :
    (x >>= f).Within R := by
  intro p
  have first := hx p
  rw [run_bind]
  generalize x p = run at first
  rcases run with ⟨_ | a, p'⟩
  · exact first
  · exact trans_of R first (hf a p')

theorem pure (a : α) : (Pure.pure a : Use σ α).Within R :=
  fun p => refl_of R p

theorem throw (m : Mishap) : (throw m : Use σ α).Within R :=
  fun p => refl_of R p

theorem fail (f : Failure) : (Use.fail f : Use σ α).Within R :=
  throw _

theorem own : (Use.own : Use σ σ).Within R :=
  fun p => refl_of R p

end Use.Within

end HomeGateway.Engine
