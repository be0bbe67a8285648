/-
  A session of a bridge on its own.

  A lodge is all that a session of a bridge has to do with: its endpoints, its
  server node, what that keeps, and the time.  It has no numbers that others
  give out, and knows nothing of other sessions.

  * `Lodge`, `Lodge.deal`: what a session comes to, and what it lets others know;
  * `write_aimed`, `command_aimed`: an endpoint does not care where its events go;
  * `handlesFor_concat`, `newestServer?_concat`: where the engine keeps what is a session's.
-/
import HomeGateway.Proofs.Roster

namespace HomeGateway

open Device Engine Bridge

/-! ## Where events go -/

namespace Bridge

/-- A follower whose events go elsewhere. -/
def Follower.aimed (n : Nat) (m : Follower) : Follower :=
  { m with sink := n }

/-- An endpoint whose events go elsewhere. -/
def VirtualEndpoint.aimed (n : Nat) (x : VirtualEndpoint) : VirtualEndpoint :=
  { x with follower := x.follower.aimed n }

/-- What comes of an endpoint whose events go elsewhere. -/
def Reaction.aimed (n : Nat) (r : Reaction) : Reaction :=
  ⟨r.after.aimed n, r.events⟩

variable {n now : Nat}

theorem Follower.hear_aimed (m : Follower) (notice : Notice) :
    (m.aimed n).hear now notice = ((m.hear now notice).1.aimed n, (m.hear now notice).2) := by
  cases notice <;> rfl

theorem Follower.hearAll_aimed (m : Follower) (notices : List Notice) :
    (m.aimed n).hearAll now notices =
      ((m.hearAll now notices).1.aimed n, (m.hearAll now notices).2) := by
  induction notices generalizing m with
  | nil => rfl
  | cons notice rest ih =>
    simp only [Follower.hearAll, Follower.hear_aimed, ih]

namespace VirtualEndpoint

theorem hear_aimed (x : VirtualEndpoint) (e : Endpoint) (notices : List Notice) :
    (x.aimed n).hear now e notices = (x.hear now e notices).aimed n := by
  simp only [hear, aimed, Follower.hearAll_aimed, Reaction.aimed]

theorem startWrite_aimed (x : VirtualEndpoint) (cluster attr : String) (value : Json) :
    (x.aimed n).startWrite now cluster attr value =
      ((x.startWrite now cluster attr value).1.aimed n,
        (x.startWrite now cluster attr value).2) := by
  unfold startWrite
  rw [apply_ite Prod.fst, apply_ite Prod.snd]
  show (if x.endpoint.holds cluster attr value then _ else _) = _
  split <;> rfl

theorem finishWrite_aimed (x : VirtualEndpoint) (cluster attr : String) (value : Json)
    (locked : Bool) : (x.aimed n).finishWrite now cluster attr value locked =
      ((x.finishWrite now cluster attr value locked).1,
        (x.finishWrite now cluster attr value locked).2.aimed n) := by
  have same : (x.aimed n).endpoint = x.endpoint := rfl
  simp only [finishWrite, same]
  cases x.endpoint.set cluster attr value with
  | ok changed => simp only [hear_aimed]
  | error f => cases locked <;> rfl

theorem write_aimed (x : VirtualEndpoint) (cluster attr : String) (value : Json) :
    (x.aimed n).write now cluster attr value =
      ((x.write now cluster attr value).1, (x.write now cluster attr value).2.aimed n) := by
  simp only [write, startWrite_aimed, finishWrite_aimed]

theorem command_aimed (x : VirtualEndpoint) (cluster name : String) (args : Json) :
    (x.aimed n).command now cluster name args =
      ((x.command now cluster name args).1, (x.command now cluster name args).2.aimed n) := by
  have same : (x.aimed n).endpoint = x.endpoint := rfl
  simp only [command, same]
  cases x.endpoint.invoke cluster name args with
  | ok changed => simp only [hear_aimed]
  | error f => rfl

end VirtualEndpoint

/-- Whose sink is told of an endpoint, if it is that of a session. -/
def Bridged.sink? : Bridged → Option Nat
  | .recorded _ => none
  | .followed x => some x.follower.sink

end Bridge

/-! ## Where the engine keeps what is a session's -/

namespace Engine.State

variable {e e' : State} {n h : Nat} {id : String}

/-- The numbers of the endpoints whose events go to a sink, in the order of their making. -/
def handlesFor (n : Nat) (e : State) : List Nat :=
  (List.range e.endpoints.length).filter fun h => (e.endpoints[h]?).bind Bridged.sink? = some n

theorem mem_handlesFor : h ∈ e.handlesFor n ↔
    ∃ x, e.endpoints[h]? = some (.followed x) ∧ x.follower.sink = n := by
  unfold handlesFor
  rw [List.mem_filter, List.mem_range, decide_eq_true_eq]
  constructor
  · rintro ⟨-, aims⟩
    obtain ⟨b, hb, sink⟩ := Option.bind_eq_some_iff.1 aims
    cases b with
    | recorded ep => cases sink
    | followed x => exact ⟨x, hb, Option.some.inj sink⟩
  · rintro ⟨x, hx, rfl⟩
    exact ⟨(List.getElem?_eq_some_iff.1 hx).1, by rw [hx]; rfl⟩

theorem nodup_handlesFor (n : Nat) (e : State) : (e.handlesFor n).Nodup :=
  List.nodup_range.filter _

/-- Where an endpoint is kept does not change as long as its events go where they went. -/
theorem handlesFor_congr (sinks : e'.endpoints.map Bridged.sink? = e.endpoints.map Bridged.sink?) :
    e'.handlesFor n = e.handlesFor n := by
  have length : e'.endpoints.length = e.endpoints.length := by
    simpa using congrArg List.length sinks
  have same (h : Nat) : (e'.endpoints[h]?).bind Bridged.sink? =
      (e.endpoints[h]?).bind Bridged.sink? := by
    have there := congrArg (fun sinks => (sinks[h]?).bind id) sinks
    simpa only [List.getElem?_map, Option.bind_map, Function.id_comp] using there
  unfold handlesFor
  rw [length]
  simp only [same]

theorem handlesFor_concat {b : Bridged} (grown : e'.endpoints = e.endpoints ++ [b]) :
    e'.handlesFor n = e.handlesFor n ++ if b.sink? = some n then [e.endpoints.length] else [] := by
  unfold handlesFor
  rw [grown, List.length_append, List.length_singleton, List.range_succ, List.filter_append]
  congr 1
  · refine List.filter_congr fun h hh => ?_
    rw [List.getElem?_append_left (List.mem_range.1 hh)]
  · rw [List.filter_singleton, List.getElem?_concat_length, Option.bind_some]
    split <;> simp_all

/-- An endpoint comes to another state, and its events go where they went. -/
theorem handlesFor_put {b b' : Bridged} (there : e.endpoints[h]? = some b)
    (sink : b'.sink? = b.sink?) (told : Journal) :
    (e.put h b' told).handlesFor n = e.handlesFor n := by
  refine handlesFor_congr ?_
  show (e.endpoints.set h b').map _ = _
  rw [List.map_set, sink]
  refine List.ext_getElem? fun k => ?_
  by_cases same : h = k
  · subst same
    rw [List.getElem?_set_self, List.getElem?_map, there]
    · rfl
    · rw [List.length_map]
      exact (List.getElem?_eq_some_iff.1 there).1
  · rw [List.getElem?_set_ne same]

theorem newestServer?_congr
    (names : e'.servers.map (·.config.id) = e.servers.map (·.config.id)) (id : String) :
    e'.newestServer? id = e.newestServer? id := by
  have length : e'.servers.length = e.servers.length := by simpa using congrArg List.length names
  unfold newestServer?
  rw [length]
  congr 1
  funext k
  have same := congrArg (·[k]?) names
  simp only [List.getElem?_map] at same
  cases hk : e.servers[k]? with
  | none =>
    rw [hk] at same
    rw [Option.map_eq_none_iff.1 same]
  | some sv =>
    rw [hk] at same
    obtain ⟨sv', hk', named⟩ := Option.map_eq_some_iff.1 same
    rw [hk']
    dsimp only at named ⊢
    rw [named]

theorem newestServer?_concat {sv : Server} (grown : e'.servers = e.servers ++ [sv]) (id : String) :
    e'.newestServer? id =
      if sv.config.id = id then some e.servers.length else e.newestServer? id := by
  unfold newestServer?
  rw [grown, List.length_append, List.length_singleton, List.range_succ, List.reverse_append,
    List.reverse_singleton, List.singleton_append, List.find?_cons, List.getElem?_concat_length]
  show (match decide (sv.config.id = id) with | true => _ | false => _) = _
  by_cases named : sv.config.id = id
  · rw [if_pos named, decide_eq_true named]
  · rw [if_neg named, decide_eq_false named]
    dsimp only
    rw [← List.head?_filter, ← List.head?_filter, List.filter_congr]
    intro k hk
    rw [List.getElem?_append_left (List.mem_range.1 (List.mem_reverse.1 hk))]

end Engine.State

/-! ## What a session comes to -/

/-- How a peer names an endpoint. -/
inductive Naming where
  /-- the one of an id, in the newest server node of the bridge -/
  | named (id : String)
  /-- one that was once made, counted from the first; it may be gone -/
  | numbered (i : Nat)

/-- What happens around a session of a bridge. -/
inductive Deal where
  /-- it is initialised -/
  | initialised
  /-- it is closed -/
  | closed
  /-- it is shut down -/
  | shut
  /-- its caller asks for something -/
  | asked (r : Request)
  /-- a commissioner pairs its newest server node -/
  | paired
  /-- someone writes to an endpoint of it; the caller may be `own` -/
  | written (who : String) (own : Bool) (place : Naming) (cluster attr : String) (value : Json)
  /-- a peer gives an endpoint of it a command -/
  | commanded (place : Naming) (cluster command : String) (args : Json)

/-- What a session lets others know. -/
inductive Said where
  /-- an event -/
  | event (e : Event)
  /-- a response to a request -/
  | response (r : Response)
  /-- how something ended that was no request -/
  | result (r : Except Mishap Unit)

/-- An initialised session by itself. -/
structure Stay where
  /-- whether the server node is on the network -/
  online : Bool
  /-- whether it can be commissioned -/
  windowOpen : Bool
  /-- the endpoints; `handle` counts those that were ever made -/
  members : List Member

/-- The endpoint of an id. -/
def Stay.member? (id : String) (y : Stay) : Option Member :=
  y.members.find? (·.id = id)

/-- A session of a bridge by itself. -/
structure Lodge where
  /-- what the caller said of its bridge -/
  params : Params
  /-- how its virtual devices behave -/
  options : BridgeOptions
  /-- whether the next server node clears the storage -/
  clearNext : Bool
  /-- the time -/
  now : Nat
  /-- whether what is kept says that a server node was paired; nothing may be kept yet -/
  kept : Option Bool
  /-- the endpoints that were ever made -/
  made : List VirtualEndpoint
  /-- what there is once it is initialised -/
  stay : Option Stay

namespace Lodge

/-- Before the session is initialised. -/
def new (p : Params) (options : BridgeOptions) : Lodge :=
  ⟨p, options, p.resetStorage, 0, none, [], none⟩

/-- The session begins anew; only its first server node clears the storage. -/
def renewed (v : Lodge) : Lodge :=
  { v with
    clearNext := false
    kept := some (!v.clearNext && v.kept.getD false)
    stay := some ⟨false, false, []⟩ }

/-- The session has no server node. -/
def ended (v : Lodge) : Lodge :=
  { v with stay := none }

/-- One more endpoint is made. -/
def joined (y : Stay) (d : Definition) (v : Lodge) : Lodge :=
  { v with
    made := v.made ++ [.make v.options.lockWindow 0 d]
    stay := some { y with members := y.members ++ [⟨d.id, d.type, v.made.length⟩] } }

/-- The newest server node is paired. -/
def paired (v : Lodge) : Lodge :=
  { v with
    kept := v.kept.map fun _ => true
    stay := v.stay.map fun y => { y with windowOpen := false } }

/-- The server node is switched. -/
def switched (y : Stay) (online windowOpen : Bool) (v : Lodge) : Lodge :=
  { v with stay := some { y with online := online, windowOpen := windowOpen } }

/-- Something happens to an endpoint: how it ends, the events, and what there is afterwards. -/
def touched (i : Nat) (f : VirtualEndpoint → Except EngineError Unit × Reaction) (v : Lodge) :
    Except EngineError Unit × List BridgeEvent × Lodge :=
  match v.made[i]? with
  | some x => ((f x).1, (f x).2.events, { v with made := v.made.set i (f x).2.after })
  | none => (.ok (), [], v)

/-- The endpoints with their attributes. -/
def roster (y : Stay) (v : Lodge) : Roster :=
  y.members.map fun m =>
    ⟨m.id, m.type, ((v.made[m.handle]?).map (·.endpoint.state)).getD []⟩

/-- How the server node can be paired. -/
def commissioning (y : Stay) (v : Lodge) : CommissioningState :=
  ⟨v.kept.getD false, y.windowOpen, (v.params.serverConfig false).codes⟩

/-- What comes of what the caller of an initialised session asks for. -/
def answerIn (y : Stay) (v : Lodge) : Ask → Except Failure Json × List BridgeEvent × Lodge
  | .make spec =>
    if (y.member? spec.id).isSome then (.error (.duplicateEndpoint spec.id), [], v)
    else
      match spec.definition v.options.maxLabel with
      | .error f => (.error f, [], v)
      | .ok d => (.ok .null, [], v.joined y d)
  | .write id cluster attr value =>
    match y.member? id with
    | none => (.ok .null, [], v)
    | some m =>
      let (r, after) := v.touched m.handle (·.write v.now cluster attr value)
      ((r.mapError .engine).map fun _ => .null, after)
  | .reset => (.ok .null, [], v.renewed)
  | .list => (.ok (v.roster y).toJson, [], v)
  | .start => (.ok .null, [], v.switched y true !(v.kept.getD false))
  | .pairing => (.ok (pairingOf (v.commissioning y)), [], v)
  | .openWindow =>
    if y.online then (.ok .null, [], v.switched y true true)
    else (.error (.engine (.invalidState "Server node is not online")), [], v)
  | .closeWindow => (.ok .null, [], v.switched y y.online false)

/-- What comes of what the caller asks for. -/
def answer (a : Ask) (v : Lodge) : Except Failure Json × List BridgeEvent × Lodge :=
  match v.stay, a with
  | some y, a => v.answerIn y a
  | none, .reset => (.ok .null, [], v.renewed)
  | none, _ => (.error (.notInitialized "Bridge"), [], v)

/-- The number of an endpoint that a peer names. -/
def place? (v : Lodge) : Naming → Option Nat
  | .named id => (v.stay.bind (·.member? id)).map (·.handle)
  | .numbered i => if i < v.made.length then some i else none

/-- What comes of what someone else does to an endpoint. -/
def visited (place : Naming) (f : VirtualEndpoint → Except EngineError Unit × Reaction)
    (v : Lodge) : List BridgeEvent × List Said × Lodge :=
  match v.place? place with
  | some i =>
    let (r, events, after) := v.touched i f
    (events, [.result (outcome r)], after)
  | none => ([], [], v)

/-- What comes of what happens around the session: the events, what else is said, and the session
    afterwards. -/
def deal (v : Lodge) : Deal → List BridgeEvent × List Said × Lodge
  | .initialised => ([], [.result (.ok ())], v.renewed)
  | .closed => ([], [.result (.ok ())], v.ended)
  | .shut => ([], [], v.ended)
  | .asked r =>
    match Ask.ofRequest r with
    | .error f => ([], [.response (reply r (.error f))], v)
    | .ok a =>
      let (result, events, after) := v.answer a
      (events, [.response (reply r result)], after)
  | .paired => ([], [], v.paired)
  | .written _ own place cluster attr value =>
    v.visited place fun x =>
      if own then x.write v.now cluster attr value else x.writeByOther v.now cluster attr value
  | .commanded place cluster command args =>
    v.visited place fun x => x.command v.now cluster command args

/-- Time passes. -/
def passed (ms : Nat) (v : Lodge) : Lodge :=
  { v with now := v.now + ms }

end Lodge

end HomeGateway
