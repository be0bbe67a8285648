/-
  Whether a server can run with what was loaded.

  Settings that have a zero where a server needs a number are refused.  A queue
  also has a greatest capacity, and nothing checks that one: a file may ask for
  more than can be had.  Nothing else can, since the default is small and no
  variable of the environment sets the capacity.

  * `Json.part?`, `lookRecord_part`: a record, be it an object or an array, read part by part;
  * `capacity_ofValue`, `capacity?_overlay`: the capacity in a value, and over the defaults;
  * `capacity_load`: the capacity that is loaded;
  * `serves_load`: whether a server can run with what was loaded.
-/
import HomeGateway.Proofs.Layers
import HomeGateway.Proofs.RoundTrips

namespace HomeGateway

open Json

/-- The greatest capacity that a queue can have. -/
def greatestCapacity : Nat := Width.counts.max >>> 3

/-- No number that a server needs is zero. -/
structure ServerConfig.Given (c : ServerConfig) : Prop where
  port : c.port ≠ 0
  maxConnections : c.maxConnections ≠ 0
  queueCapacity : c.queueCapacity ≠ 0
  maxLabel : 1 ≤ c.bridge.maxLabel

/-- A server can run with a configuration. -/
structure ServerConfig.Serves (c : ServerConfig) : Prop extends c.Given where
  /-- every connection has its queue -/
  queue : c.queueCapacity ≤ greatestCapacity

namespace Json

/-! ## Parts of a record -/

/-- A part of a record: in an object under its name, in an array in its place. -/
def part? (i : Nat) (name : String) : Json → Option Json
  | .obj fs => Fields.get? name fs
  | .arr items => items[i]?
  | _ => none

/-- The capacity in the settings of a server. -/
def queueCapacity? (server : Json) : Option Nat :=
  (server.part? 4 "outboundQueueCapacity").bind nat?

/-- The capacity in a settings file. -/
def capacity? (file : Json) : Option Nat :=
  (file.part? 0 "server").bind queueCapacity?

section

variable {v w : Json} {i : Nat} {name : String}

theorem Ordered.part? (h : v.Ordered) (found : v.part? i name = some w) : w.Ordered := by
  cases h with
  | arr each => exact each w (List.mem_of_getElem? found)
  | obj sorted each => exact each _ (Fields.mem_of_get? found)
  | null | bool | int | float | str => cases found

theorem getElem?_ofItems (items : List Json) (i : Nat) :
    (Document.ofItems items)[i]? = items[i]?.map Document.ofJson := by
  induction items generalizing i with
  | nil => rfl
  | cons v items ih =>
    cases i with
    | zero => rfl
    | succ i => exact ih i

theorem mem_ofFields {fs : Fields} {doc : Document} :
    (some name, doc) ∈ Document.ofFields fs ↔ ∃ v, (name, v) ∈ fs ∧ doc = .ofJson v := by
  induction fs with
  | nil => simp [Document.ofFields]
  | cons p fs ih =>
    obtain ⟨k, v⟩ := p
    simp only [Document.ofFields, List.mem_cons, Prod.mk.injEq, Option.some.injEq, ih]
    grind

/-- The pieces of the document of a value are its parts. -/
theorem piece_ofJson (ordered : v.Ordered) {piece : Option Document}
    (h : (Document.ofJson v).Piece i name piece) :
    piece = (v.part? i name).map Document.ofJson := by
  cases v with
  | null | bool | int | float | str => cases h
  | arr items =>
    cases h with
    | item => exact getElem?_ofItems items i
  | obj fs =>
    cases h with
    | member there =>
      obtain ⟨v, held, rfl⟩ := mem_ofFields.1 there
      rw [Json.part?, (Fields.get?_eq_some ordered.sorted).2 held]
      rfl
    | missing none_ =>
      have absent : Fields.get? name fs = none := Fields.get?_eq_none fun p hp same =>
        none_ _ (mem_ofFields.2 ⟨p.2, same ▸ hp, rfl⟩)
      rw [Json.part?, absent]
      rfl

/-- A field of a record is read of the part of its name. -/
theorem lookRecord_part {title : String} {fields : List Field} {r : Reading} {u : Json}
    (names : (fields.map (·.name)).Nodup) (ordered : v.Ordered)
    (read : lookRecord title fields r (.ofJson v) = .ok u) {f : Field}
    (place : fields[i]? = some f) : ∃ inner w, u.get? f.name = some w ∧
      f.Comes inner ((v.part? i f.name).map Document.ofJson) w := by
  obtain ⟨inner, -, done, rfl, each⟩ := lookRecord_ok names read
  obtain ⟨w, piece, present, stands, comes⟩ := each i f place
  exact ⟨inner, w, present, piece_ofJson ordered stands ▸ comes⟩

theorem lookWhole_ofJson {k : Width} {r : Reading} (read : lookWhole k r (.ofJson v) = .ok w) :
    w = v := by
  cases v with
  | int i =>
    simp only [Document.ofJson, lookWhole] at read
    split at read <;> cases read
    rfl
  | null | bool | float | str | arr | obj => cases read

end

/-! ## Laying over keeps the order -/

mutual

theorem ordered_layOver : ∀ (above : Json) {below : Json}, above.Ordered → below.Ordered →
    (layOver above below).Ordered
  | .obj above, .obj _, ordered, ordered' => by
    cases ordered with
    | obj _ each => exact ordered_layFieldsOver above each ordered'
  | .obj _, .null, ordered, _ | .obj _, .bool _, ordered, _ | .obj _, .int _, ordered, _
  | .obj _, .float _, ordered, _ | .obj _, .str _, ordered, _ | .obj _, .arr _, ordered, _
  | .null, _, ordered, _ | .bool _, _, ordered, _ | .int _, _, ordered, _
  | .float _, _, ordered, _ | .str _, _, ordered, _ | .arr _, _, ordered, _ => ordered
termination_by structural above => above

theorem ordered_layFieldsOver : ∀ (above : List (String × Json)) {below : Fields},
    (∀ p ∈ above, p.2.Ordered) → Ordered (.obj below) → Ordered (.obj (layFieldsOver above below))
  | [], _, _, ordered => ordered
  | (k, v) :: rest, below, each, ordered => by
    obtain ⟨first, later⟩ := List.forall_mem_cons.1 each
    rw [layFieldsOver]
    refine ordered_layFieldsOver rest later ?_
    split
    · exact ordered
    · cases ordered with
      | obj sorted each =>
        refine .obj (Fields.sorted_insert sorted _ _) fun p hp => ?_
        rcases Fields.mem_insert hp with rfl | hp
        · dsimp only
          split
          · exact first
          · rename_i w present
            exact ordered_layOver v first (each _ (Fields.mem_of_get? present))
        · exact each p hp
termination_by structural above => above

end

end Json

namespace Settings

variable {file : Option String} {env : Environment} {s : Settings} {v : Json}

/-! ## The capacity that is loaded -/

/-- A settings file asks for a capacity. -/
def AsksFor (file : Option String) (n : Nat) : Prop :=
  ∃ t v, file = some t ∧ parse t = .ok v ∧ v.capacity? = some n

theorem ordered_default : default.toJson.Ordered :=
  (sound_toJson ⟨⟨by decide, by decide, by decide, by decide⟩, by decide, by decide⟩ 0).ordered

/-- The capacity of server settings is the one in their value, or the default. -/
theorem capacity_server {x : ServerSettings} {r : Reading} {u : Json} (ordered : v.Ordered)
    (read : ServerSettings.shape.look r (.ofJson v) = .ok u)
    (means : ServerSettings.ofJson? u = some x) : x.outboundQueueCapacity =
      v.queueCapacity?.getD ServerSettings.default.outboundQueueCapacity := by
  have read : lookRecord "ServerSettings" (lookFields (Shape.specs ServerSettings.shape)) r
      (.ofJson v) = .ok u := read
  -- The capacity is the last of five fields; in an array nothing but its place tells which it is.
  obtain ⟨inner, w, present, comes⟩ := lookRecord_part (by decide) ordered read (i := 4) rfl
  have number : w.nat? = some x.outboundQueueCapacity := by
    simp only [ServerSettings.ofJson?, Option.bind_eq_bind, Option.bind_eq_some_iff] at means
    obtain ⟨_, -, _, -, _, -, _, -, n, ⟨w', there, number⟩, same⟩ := means
    cases same
    cases there.symm.trans present
    exact number
  dsimp only at comes
  unfold queueCapacity?
  cases part : v.part? 4 "outboundQueueCapacity" with
  | none =>
    rw [part] at comes
    cases comes
    exact (Option.some.inj number).symm
  | some d =>
    rw [part] at comes
    have same : w = d := lookWhole_ofJson (k := .counts) (r := inner) comes
    rw [Option.bind_some, ← same, number, Option.getD_some]

/-- The capacity of settings is the one in their value, or the default. -/
theorem capacity_ofValue (ordered : v.Ordered) (read : ofValue v = .ok s) :
    s.server.outboundQueueCapacity =
      v.capacity?.getD ServerSettings.default.outboundQueueCapacity := by
  unfold ofValue at read
  split at read
  · cases read
  · rename_i u look
    split at read <;> cases read
    rename_i means
    have look : lookRecord "GatewaySettings" (lookFields (Shape.specs shape)) .ofValue (.ofJson v) =
        .ok u := look
    obtain ⟨inner, w, present, comes⟩ := lookRecord_part (by decide) ordered look (i := 0) rfl
    have server : ServerSettings.ofJson? w = some s.server := by
      simp only [ofJson?, Option.bind_eq_bind, Option.bind_eq_some_iff] at means
      obtain ⟨_, ⟨w', there, server⟩, _, -, _, -, same⟩ := means
      cases same
      cases there.symm.trans present
      exact server
    dsimp only at comes
    unfold capacity?
    cases part : v.part? 0 "server" with
    | none =>
      -- A missing server is its default as it stands; no capacity is looked for in it.
      rw [part] at comes
      cases comes
      exact congrArg _ (Option.some.inj server).symm
    | some g =>
      rw [part] at comes
      exact capacity_server (ordered.part? part) comes server

/-- Settings of a server laid over the defaults have their own capacity, or the default. -/
theorem queueCapacity?_layOver (ordered : v.Ordered) :
    (layOver v ServerSettings.default.toJson).queueCapacity?.getD
        ServerSettings.default.outboundQueueCapacity =
      v.queueCapacity?.getD ServerSettings.default.outboundQueueCapacity := by
  cases v with
  | null | bool | int | float | str | arr => rfl
  | obj fs =>
    have laid : (layOver (.obj fs) ServerSettings.default.toJson).queueCapacity? = _ :=
      congrArg (·.bind nat?) (get?_layFieldsOver ordered.sorted
        (contents ServerSettings.default.toJson) "outboundQueueCapacity")
    rw [laid, queueCapacity?, part?]
    cases Fields.get? "outboundQueueCapacity" fs with
    | none => rfl
    | some w => cases w <;> rfl

/-- A file laid over the defaults has its own capacity, or the default. -/
theorem capacity?_overlay (ordered : v.Ordered) :
    (overlay default.toJson v).capacity?.getD ServerSettings.default.outboundQueueCapacity =
      v.capacity?.getD ServerSettings.default.outboundQueueCapacity := by
  cases v with
  | null | bool | int | float | str | arr => rfl
  | obj fs =>
    have laid : (overlay default.toJson (.obj fs)).capacity? = _ :=
      congrArg (·.bind queueCapacity?)
        (get?_layFieldsOver ordered.sorted (contents default.toJson) "server")
    rw [laid, capacity?, part?]
    cases found : Fields.get? "server" fs with
    | none => rfl
    | some server =>
      have ordered := ordered.get? found
      cases server with
      | null => rfl
      | bool | int | float | str | arr | obj => exact queueCapacity?_layOver ordered

theorem load_ok (loaded : load file env = .ok s) : ∃ v s₀, merged file = .ok v ∧
    ofValue v = .ok s₀ ∧ s = s₀.withEnvironment env ∧ s.Runnable := by
  unfold load at loaded
  split at loaded
  · cases loaded
  · rename_i v merged
    split at loaded
    · cases loaded
    · rename_i s₀ read
      unfold validate at loaded
      split at loaded <;> cases loaded
      rename_i objection
      exact ⟨v, s₀, merged, read, rfl, objection_eq_none.1 objection⟩

/-- The capacity that is loaded is the one that the file asks for, or the default. -/
theorem capacity_load (loaded : load file env = .ok s) :
    (∀ n, AsksFor file n → s.server.outboundQueueCapacity = n) ∧
      ((∀ n, ¬AsksFor file n) →
        s.server.outboundQueueCapacity = ServerSettings.default.outboundQueueCapacity) := by
  obtain ⟨m, s₀, laid, read, rfl, -⟩ := load_ok loaded
  cases file with
  | none =>
    cases laid
    have capacity : s₀.server.outboundQueueCapacity = _ := capacity_ofValue ordered_default read
    refine ⟨?_, fun _ => capacity⟩
    rintro n ⟨_, _, same, -⟩
    cases same
  | some t =>
    simp only [merged] at laid
    split at laid <;> cases laid
    rename_i v parsed
    have ordered := (sound_parse parsed).ordered
    have capacity : s₀.server.outboundQueueCapacity = v.capacity?.getD _ :=
      (capacity_ofValue (ordered_layOver v ordered ordered_default) read).trans
        (capacity?_overlay ordered)
    constructor
    · rintro n ⟨_, v', same, parsed', asks⟩
      cases same
      cases parsed'.symm.trans parsed
      exact capacity.trans (by rw [asks, Option.getD_some])
    · intro silent
      have none_ : v.capacity? = none :=
        Option.eq_none_iff_forall_ne_some.2 fun n asks => silent n ⟨t, v, rfl, parsed, asks⟩
      exact capacity.trans (by rw [none_, Option.getD_none])

/-! ## Serving -/

/-- What was loaded has no zeros, and a server can run with it unless the file asks for too great a
    capacity. -/
theorem serves_load (loaded : load file env = .ok s) : (ServerConfig.ofSettings s).Given ∧
    ((ServerConfig.ofSettings s).Serves ↔ ∀ n, AsksFor file n → n ≤ greatestCapacity) := by
  obtain ⟨-, -, -, -, -, port, connections, capacity, label⟩ := load_ok loaded
  obtain ⟨asked, unasked⟩ := capacity_load loaded
  have given : (ServerConfig.ofSettings s).Given :=
    ⟨port, connections, capacity, Nat.one_le_iff_ne_zero.2 label⟩
  refine ⟨given, fun serves n asks => asked n asks ▸ serves.queue, fun within => ⟨given, ?_⟩⟩
  by_cases asks : ∃ n, AsksFor file n
  · obtain ⟨n, asks⟩ := asks
    exact (asked n asks).trans_le (within n asks)
  · exact (unasked (not_exists.1 asks)).trans_le (by decide)

/-- A file that asks for the greatest capacity. -/
def largestFile : String :=
  "\x7b\"server\": \x7b\"outboundQueueCapacity\": 2305843009213693951\x7d\x7d"

/-- A file that asks for one more. -/
def overlargeFile : String :=
  "\x7b\"server\": \x7b\"outboundQueueCapacity\": 2305843009213693952\x7d\x7d"

/-- The default settings but for the capacity. -/
def withCapacity (n : Nat) : Settings :=
  { default with server := { ServerSettings.default with outboundQueueCapacity := n } }

/-- The greatest capacity is loaded, and a server can run with it. -/
theorem serves_load_largest :
    load (some largestFile) (fun _ => none) = .ok (withCapacity greatestCapacity) ∧
      (ServerConfig.ofSettings (withCapacity greatestCapacity)).Serves := by
  have loaded : load (some largestFile) (fun _ => none) = .ok (withCapacity greatestCapacity) := by
    decide +kernel
  have parsed : parse largestFile = .ok (.obj [("server",
      .obj [("outboundQueueCapacity", .int 2305843009213693951)])]) := by cbv
  refine ⟨loaded, (serves_load loaded).2.2 ?_⟩
  rintro n ⟨_, _, same, parsed', asks⟩
  cases same
  cases parsed.symm.trans parsed'
  cases asks
  exact le_refl _

/-- One more is loaded as well, and no server can run with it. -/
theorem serves_load_overlarge : ¬∀ file env s, load file env = .ok s →
    (ServerConfig.ofSettings s).Serves := by
  intro all
  have serves := all (some overlargeFile) (fun _ => none) (withCapacity (greatestCapacity + 1))
    (by decide +kernel)
  exact absurd serves.queue (by decide)

end Settings

end HomeGateway
