/-
  Messages read what they write.

  A message can be written as a text and read again, with the fields of its
  objects in any order.  What is read is what was written, but that an optional
  result or an optional datum that is `null` is none afterwards; and whatever is
  read at all, of a text in any form, is read again as it is.

  * `Returns`, `RoundTrips`: what is asked of a reading and a writing, of any type;
  * `RoundTrips.of_look`: the part that is the same for all types;
  * `Request.roundTrips`, `Response.roundTrips`, `Event.roundTrips`, `Frame.roundTrips`.
-/
import HomeGateway.Message.Frame
import HomeGateway.Proofs.Spelling
import HomeGateway.Proofs.Records
import HomeGateway.Proofs.Pieces

namespace HomeGateway

open Json

/-! ## Writing and reading again -/

/-- The text of a value, the fields of its objects in any order. -/
def Json.Spelling (v : Json) (t : String) : Prop :=
  ∃ w : Json, w.Arranges v ∧ t = w.render

/-- Each floating-point number in a value is read back from its own text. -/
def Json.Exact (v : Json) : Prop :=
  ∀ d, .float d ∈ v.numbers → parse (render (.float d)) = .ok (.float d)

/-- The text of a value is read as `y`, in whichever order its fields stand. -/
structure Returns {α : Type} (read : String → Except Problem α) (v : Json) (y : α) : Prop where
  /-- its own text is one of them -/
  spelling : v.Spelling v.render
  /-- all of them are read alike -/
  read : ∀ t, v.Spelling t → read t = .ok y

/-- What is written is read again, once it is settled; what was read is read again as it is. -/
structure RoundTrips {α : Type} (read : String → Except Problem α) (toJson : α → Json)
    (InRange : α → Prop) (settle : α → α) : Prop where
  /-- a value that nests no deeper than a text may -/
  decodes : ∀ x, InRange x → (toJson x).Sound maxDepth → (toJson x).Exact →
    Returns read (toJson x) (settle x)
  /-- whatever was read -/
  again : ∀ t x, read t = .ok x → (toJson x).Exact → Returns read (toJson x) x

section

variable {α : Type} {shape : Shape} {ofJson? : Json → Option α} {toJson : α → Json}
  {InRange : α → Prop} {settle : α → α}

theorem Json.Sound.spelt {v : Json} {n : Nat} (sound : v.Sound n) (exact_ : v.Exact) :
    ∀ a ∈ v.numbers, a.Spelt := by
  intro a ha
  cases sound.scalars a ha with
  | int least greatest => exact spells_intChars least greatest
  | float d => exact spells_floatText (exact_ d ha)
  | null | bool | str => trivial

theorem readAs_render {v w u : Json} {x : α} (arranges : w.Arranges v) (sound : v.Sound maxDepth)
    (exact_ : v.Exact) (reads : Reads shape.look v u) (means : ofJson? u = some x) :
    readAs shape ofJson? w.render = .ok x := by
  have outlined : outline w.render = ⟨.ofJson w, true⟩ :=
    outline_render fun a ha => sound.spelt exact_ a (arranges.numbers ha)
  have room : Reading.ofText.Allows w.depth := by
    rintro _ ⟨⟩
    exact arranges.depth_le.trans sound.depth
  have look := reads .ofText w arranges room
  simp only [readAs, Shape.readText, outlined, look, if_true, means]

theorem look_of_readAs {t : String} {x : α} (read : readAs shape ofJson? t = .ok x) :
    ∃ u, shape.look .ofText (outline t).document = .ok u ∧ ofJson? u = some x := by
  simp only [readAs, Shape.readText] at read
  split at read
  · cases read
  · rename_i u look
    split at read <;> cases read
    rename_i means
    split at look
    · cases look
    · rename_i u' look'
      split at look <;> cases look
      exact ⟨_, look', means⟩

/-- A type returns from its texts if its shape takes what the type writes, and if what the shape
    takes can be written. -/
theorem RoundTrips.of_look
    (reads : ∀ x, InRange x → ∃ u, Reads shape.look (toJson x) u ∧ ofJson? u = some (settle x))
    (yields : Yields shape.look maxDepth fun u => ∀ x, ofJson? u = some x →
      InRange x ∧ (toJson x).Sound maxDepth ∧ settle x = x) :
    RoundTrips (readAs shape ofJson?) toJson InRange settle := by
  have decodes (x : α) (inRange : InRange x) (sound : (toJson x).Sound maxDepth)
      (exact_ : (toJson x).Exact) : Returns (readAs shape ofJson?) (toJson x) (settle x) := by
    refine ⟨⟨_, sound.ordered.arranges, rfl⟩, ?_⟩
    rintro _ ⟨w, arranges, rfl⟩
    obtain ⟨u, reads, means⟩ := reads x inRange
    exact readAs_render arranges sound exact_ reads means
  refine ⟨decodes, fun t x read exact_ => ?_⟩
  obtain ⟨u, look, means⟩ := look_of_readAs read
  obtain ⟨inRange, sound, settled⟩ := yields .ofText _ u (.inl rfl) (plain_outline t) look x means
  have back := decodes x inRange sound exact_
  rwa [settled] at back

end

/-! ## Requests -/

namespace Request

theorem sorted_fields (a b c d : Json) :
    Fields.Sorted [("args", a), ("function", b), ("id", c), ("namespace", d)] :=
  .cons (by decide) (.cons (by decide) (.cons (by decide) (.single _)))

theorem reads (x : Request) : ∃ u, Reads shape.look x.toJson u ∧ ofJson? u = some x := by
  have look : Reads shape.look x.toJson x.toJson := reads_record (sorted_fields _ _ _ _)
    (by simp [lookFields, needed, defaulted]) <| by
      refine List.forall_mem_cons.2 ⟨⟨_, rfl, reads_text x.id⟩, List.forall_mem_cons.2
        ⟨⟨_, rfl, reads_text x.space⟩, List.forall_mem_cons.2 ⟨⟨_, rfl, reads_text x.function⟩,
        List.forall_mem_cons.2 ⟨⟨_, rfl, ?_⟩, List.forall_mem_nil _⟩⟩⟩⟩
      exact reads_withDefault rfl (reads_list x.args)
  exact ⟨_, look, rfl⟩

theorem yields (n : Nat) : Yields shape.look (n + 2) fun u => ∀ x, ofJson? u = some x →
    x.toJson.Sound (n + 2) := by
  intro r doc u bounds plain read x means
  have names : ((lookFields shape.specs).map (·.name)).Nodup := by decide
  have none_ : Sound (n + 1) (.arr []) ∧ ∃ vs, Json.arr [] = .arr vs :=
    ⟨.arr (List.forall_mem_nil _), [], rfl⟩
  obtain ⟨_, id?, id, rfl⟩ :=
    yields_field names (i := 0) rfl yields_text no_default r doc u bounds plain read
  obtain ⟨_, space?, space, rfl⟩ :=
    yields_field names (i := 1) rfl yields_text no_default r doc u bounds plain read
  obtain ⟨_, function?, function, rfl⟩ :=
    yields_field names (i := 2) rfl yields_text no_default r doc u bounds plain read
  obtain ⟨_, args?, sound, args, rfl⟩ :=
    yields_field names (i := 3) rfl (yields_withDefault none_ yields_list)
      (fun _ same => Option.some.inj same ▸ none_) r doc u bounds plain read
  simp only [ofJson?, id?, space?, function?, args?] at means
  cases means
  exact .obj (sorted_fields _ _ _ _) (List.forall_mem_cons.2 ⟨sound, List.forall_mem_cons.2
    ⟨.text _, List.forall_mem_cons.2 ⟨.text _, List.forall_mem_singleton.2
    (.text _)⟩⟩⟩)

theorem roundTrips : RoundTrips Request.read toJson (fun _ => True) fun x => x :=
  .of_look (fun x _ => reads x) ((yields 125).imp fun _ h x means => ⟨trivial, h x means, rfl⟩)

end Request

/-! ## Responses -/

/-- An optional value, if it is not null. -/
def Json.unlessNull (v : Option Json) : Option Json :=
  v.filter fun v => !v.isNull

theorem Fields.get?_append (fs gs : Fields) (name : String) :
    Fields.get? name (fs ++ gs) = (fs.get? name).or (Fields.get? name gs) := by
  induction fs with
  | nil => rfl
  | cons p fs ih =>
    simp only [List.cons_append, Fields.get?]
    split
    · rfl
    · exact ih

theorem get?_optionalField (k name : String) (v : Option Json) :
    Fields.get? name (optionalField k v) = if k = name then v else none := by
  cases v <;> simp [optionalField, Fields.get?]

theorem presentField_eq {name : String} {u v : Json} (h : u.get? name = some v) :
    presentField name u = unlessNull (some v) := by
  simp only [presentField, h]
  cases v <;> rfl

theorem unlessNull_ofOption (v : Option Json) : unlessNull (some (ofOption v)) = unlessNull v := by
  cases v <;> rfl

theorem ofOption_unlessNull (v : Json) : ofOption (unlessNull (some v)) = v := by
  cases v <;> rfl

theorem unlessNull_unlessNull (v : Option Json) : unlessNull (unlessNull v) = unlessNull v := by
  simp [unlessNull, Option.filter_filter]

theorem sublist_optionalField (k : String) (v : Option Json) :
    (optionalField k v).Sublist [(k, ofOption v)] := by
  cases v with
  | none => exact List.nil_sublist _
  | some v => exact List.Sublist.refl _

/-- Fields may be left out. -/
theorem Json.Sound.sublist {fs us : Fields} {n : Nat} (h : Sound n (.obj us))
    (sub : fs.Sublist us) : Sound n (.obj fs) where
  ordered := by
    cases h.ordered with
    | obj sorted each => exact .obj (sorted.sublist sub) fun p hp => each p (sub.subset hp)
  scalars a ha := by
    obtain ⟨p, hp, inside⟩ := mem_fieldsNumbers.1 ha
    exact h.scalars a (mem_fieldsNumbers.2 ⟨p, sub.subset hp, inside⟩)
  depth := by
    have deep : fieldsDepth us + 1 ≤ n := h.depth
    have each := fieldsDepth_le.1 (Nat.le_refl (fieldsDepth us))
    exact (Nat.succ_le_succ (fieldsDepth_le.2 fun p hp => each p (sub.subset hp))).trans deep

namespace Response

/-- A response whose result is not null. -/
def settled (x : Response) : Response :=
  { x with result := unlessNull x.result }

/-- The normal form of a response. -/
def normal (x : Response) : Fields :=
  [("error", ofOption (x.error.map .str)), ("id", .str x.id), ("result", ofOption x.result),
    ("type", .str x.verdict.name)]

theorem sorted_normal (x : Response) : x.normal.Sorted :=
  .cons (by decide) (.cons (by decide) (.cons (by decide) (.single _)))

theorem get?_toJson (x : Response) :
    x.toJson.get? "type" = some (.str x.verdict.name) ∧ x.toJson.get? "id" = some (.str x.id) ∧
      x.toJson.get? "result" = x.result ∧ x.toJson.get? "error" = x.error.map .str := by
  simp [toJson, Json.get?, Fields.get?_append, get?_optionalField, Fields.get?]

theorem ofName?_name (v : Verdict) : Verdict.ofName? v.name = some v := by
  cases v <;> rfl

theorem reads (x : Response) :
    ∃ u, Reads shape.look x.toJson u ∧ ofJson? u = some x.settled := by
  obtain ⟨type?, id?, result?, error?⟩ := x.get?_toJson
  have verdict : x.verdict.name ∈ [Verdict.success.name, Verdict.error.name] := by
    cases x.verdict <;> decide
  have text : ∀ v, x.error.map Json.str = some v → v.isNull = false → Reads lookText v v := by
    intro v given _
    obtain ⟨e, -, rfl⟩ := Option.map_eq_some_iff.1 given
    exact reads_text e
  have look : Reads shape.look x.toJson (.obj x.normal) := reads_record (sorted_normal x)
    (by simp [normal, lookFields, needed, absent]) (List.forall_mem_cons.2
      ⟨⟨_, rfl, gets_of_eq type? (reads_name verdict)⟩, List.forall_mem_cons.2
      ⟨⟨_, rfl, gets_of_eq id? (reads_text x.id)⟩, List.forall_mem_cons.2
      ⟨⟨_, rfl, gets_absent result? fun v _ _ => reads_any v⟩, List.forall_mem_singleton.2
      ⟨_, rfl, gets_absent error? text⟩⟩⟩⟩)
  refine ⟨_, look, ?_⟩
  have present : presentField "result" (.obj x.normal) = unlessNull x.result :=
    (presentField_eq rfl).trans (unlessNull_ofOption _)
  have error : presentField "error" (.obj x.normal) = unlessNull (x.error.map .str) :=
    (presentField_eq rfl).trans (unlessNull_ofOption _)
  have kept : unlessNull (x.error.map .str) >>= text? = x.error := by cases x.error <;> rfl
  have named : (Json.obj x.normal).get? "type" = some (.str x.verdict.name) := rfl
  have own : (Json.obj x.normal).get? "id" = some (.str x.id) := rfl
  simp only [ofJson?, present, error, kept, named, own, Option.bind_eq_bind, Option.bind_some,
    text?, ofName?_name]
  rfl

theorem settled_eq {x : Response} (h : unlessNull x.result = x.result) : x.settled = x := by
  obtain ⟨verdict, id, result, error⟩ := x
  exact congrArg (Response.mk verdict id · error) h

theorem sublist_toJson (x : Response) :
    ∃ fs : Fields, x.toJson = .obj fs ∧ fs.Sublist x.normal :=
  ⟨_, rfl, (((sublist_optionalField _ _).append (.refl _)).append
    (sublist_optionalField _ _)).append (.refl _)⟩

theorem yields (n : Nat) : Yields shape.look (n + 1) fun u => ∀ x, ofJson? u = some x →
    x.toJson.Sound (n + 1) ∧ x.settled = x := by
  intro r doc u bounds plain read x means
  have names : ((lookFields shape.specs).map (·.name)).Nodup := by decide
  obtain ⟨_, type?, kind, -, rfl⟩ :=
    yields_field names (i := 0) rfl yields_name no_default r doc u bounds plain read
  obtain ⟨_, id?, id, rfl⟩ :=
    yields_field names (i := 1) rfl yields_text no_default r doc u bounds plain read
  obtain ⟨result, result?, resultSound⟩ :=
    yields_field names (i := 2) rfl (yields_optional yields_any)
      null_default r doc u bounds plain read
  obtain ⟨error, error?, errorText⟩ :=
    yields_field names (i := 3) rfl (yields_optional yields_text)
      null_default r doc u bounds plain read
  simp only [ofJson?, type?, id?, presentField_eq result?, presentField_eq error?] at means
  obtain ⟨verdict, -, same⟩ := Option.bind_eq_some_iff.1 means
  cases same
  refine ⟨?_, settled_eq (unlessNull_unlessNull (some result))⟩
  obtain ⟨fs, same, sub⟩ := sublist_toJson
    ⟨verdict, id, unlessNull (some result), unlessNull (some error) >>= text?⟩
  have errorSound : Sound n (ofOption ((unlessNull (some error) >>= text?).map .str)) := by
    rcases errorText with rfl | ⟨e, rfl⟩
    · exact .scalar .null
    · exact .text e
  have resultSound : Sound n (ofOption (unlessNull (some result))) := by
    rw [ofOption_unlessNull]
    rcases resultSound with rfl | sound
    · exact .scalar .null
    · exact sound
  rw [same]
  exact Sound.sublist (.obj (sorted_normal _) (List.forall_mem_cons.2 ⟨errorSound,
    List.forall_mem_cons.2 ⟨.text _, List.forall_mem_cons.2 ⟨resultSound,
    List.forall_mem_singleton.2 (.text _)⟩⟩⟩)) sub

theorem roundTrips : RoundTrips Response.read toJson (fun _ => True) settled :=
  .of_look (fun x _ => reads x) ((yields 126).imp fun _ h x means => ⟨trivial, h x means⟩)

end Response

/-! ## Events -/

namespace Event

/-- An event whose datum is not null. -/
def settled (x : Event) : Event :=
  { x with data := unlessNull x.data }

/-- The normal form of an event. -/
def normal (x : Event) : Fields :=
  [("data", ofOption x.data), ("type", .str x.kind)]

theorem sorted_normal (x : Event) : x.normal.Sorted :=
  .cons (by decide) (.single _)

theorem get?_toJson (x : Event) :
    x.toJson.get? "type" = some (.str x.kind) ∧ x.toJson.get? "data" = x.data := by
  simp [toJson, Json.get?, Fields.get?_append, get?_optionalField, Fields.get?]

theorem reads (x : Event) : ∃ u, Reads shape.look x.toJson u ∧ ofJson? u = some x.settled := by
  obtain ⟨type?, data?⟩ := x.get?_toJson
  have look : Reads shape.look x.toJson (.obj x.normal) := reads_record (sorted_normal x)
    (by simp [normal, lookFields, needed, absent]) (List.forall_mem_cons.2
      ⟨⟨_, rfl, gets_of_eq type? (reads_text x.kind)⟩, List.forall_mem_singleton.2
      ⟨_, rfl, gets_absent data? fun v _ _ => reads_any v⟩⟩)
  refine ⟨_, look, ?_⟩
  have present : presentField "data" (.obj x.normal) = unlessNull x.data :=
    (presentField_eq rfl).trans (unlessNull_ofOption _)
  have kind : (Json.obj x.normal).get? "type" = some (.str x.kind) := rfl
  simp only [ofJson?, present, kind]
  rfl

theorem settled_eq {x : Event} (h : unlessNull x.data = x.data) : x.settled = x := by
  obtain ⟨kind, data⟩ := x
  exact congrArg (Event.mk kind) h

theorem yields (n : Nat) : Yields shape.look (n + 1) fun u => ∀ x, ofJson? u = some x →
    x.toJson.Sound (n + 1) ∧ x.settled = x := by
  intro r doc u bounds plain read x means
  have names : ((lookFields shape.specs).map (·.name)).Nodup := by decide
  obtain ⟨_, type?, kind, rfl⟩ :=
    yields_field names (i := 0) rfl yields_text no_default r doc u bounds plain read
  obtain ⟨data, data?, dataSound⟩ :=
    yields_field names (i := 1) rfl (yields_optional yields_any)
      null_default r doc u bounds plain read
  simp only [ofJson?, type?, presentField_eq data?] at means
  cases means
  refine ⟨?_, settled_eq (unlessNull_unlessNull (some data))⟩
  have dataSound : Sound n (ofOption (unlessNull (some data))) := by
    rw [ofOption_unlessNull]
    rcases dataSound with rfl | sound
    · exact .scalar .null
    · exact sound
  exact Sound.sublist (.obj (sorted_normal ⟨kind, unlessNull (some data)⟩) (List.forall_mem_cons.2
    ⟨dataSound, List.forall_mem_singleton.2 (.text _)⟩))
    ((sublist_optionalField _ _).append (.refl _))

theorem roundTrips : RoundTrips Event.read toJson (fun _ => True) settled :=
  .of_look (fun x _ => reads x) ((yields 126).imp fun _ h x means => ⟨trivial, h x means⟩)

end Event

namespace BridgeEvent

theorem sorted_fields (a b c d : Json) : Fields.Sorted
    [("attributeName", a), ("clusterName", b), ("data", c), ("endpointId", d)] :=
  .cons (by decide) (.cons (by decide) (.cons (by decide) (.single _)))

theorem reads (x : BridgeEvent) : ∃ u, Reads shape.look x.toJson u ∧ ofJson? u = some x := by
  have look : Reads shape.look x.toJson x.toJson := reads_record (sorted_fields _ _ _ _)
    (by simp [lookFields, needed]) (List.forall_mem_cons.2
      ⟨⟨_, rfl, reads_text x.endpointId⟩, List.forall_mem_cons.2
      ⟨⟨_, rfl, reads_text x.clusterName⟩, List.forall_mem_cons.2
      ⟨⟨_, rfl, reads_text x.attributeName⟩, List.forall_mem_singleton.2
      ⟨_, rfl, reads_any x.data⟩⟩⟩⟩)
  exact ⟨_, look, rfl⟩

theorem yields (n : Nat) : Yields shape.look (n + 1) fun u => ∀ x, ofJson? u = some x →
    x.toJson.Sound (n + 1) := by
  intro r doc u bounds plain read x means
  have names : ((lookFields shape.specs).map (·.name)).Nodup := by decide
  obtain ⟨_, endpointId?, endpointId, rfl⟩ :=
    yields_field names (i := 0) rfl yields_text no_default r doc u bounds plain read
  obtain ⟨_, clusterName?, clusterName, rfl⟩ :=
    yields_field names (i := 1) rfl yields_text no_default r doc u bounds plain read
  obtain ⟨_, attributeName?, attributeName, rfl⟩ :=
    yields_field names (i := 2) rfl yields_text no_default r doc u bounds plain read
  obtain ⟨data, data?, sound⟩ :=
    yields_field names (i := 3) rfl yields_any no_default r doc u bounds plain read
  simp only [ofJson?, endpointId?, clusterName?, attributeName?, data?] at means
  cases means
  exact .obj (sorted_fields _ _ _ _) (List.forall_mem_cons.2 ⟨.text _,
    List.forall_mem_cons.2 ⟨.text _, List.forall_mem_cons.2 ⟨sound,
    List.forall_mem_singleton.2 (.text _)⟩⟩⟩)

theorem roundTrips : RoundTrips BridgeEvent.read toJson (fun _ => True) fun x => x :=
  .of_look (fun x _ => reads x) ((yields 126).imp fun _ h x means => ⟨trivial, h x means, rfl⟩)

end BridgeEvent

/-! ## Frames -/

namespace Frame

/-- A frame whose message is settled. -/
def settled : Frame → Frame
  | .response r => .response r.settled
  | .event e => .event e.settled

theorem sorted_fields (a b : Json) : Fields.Sorted [("message", a), ("type", b)] :=
  .cons (by decide) (.single _)

theorem ofPairs_fields (a b : Json) :
    ofPairs [("type", a), ("message", b)] = .obj [("message", b), ("type", a)] := by
  have before : "message" < "type" := by decide
  simp [ofPairs, Fields.ofList, Fields.insert, before]

/-- What looks at the messages of the two kinds of frame. -/
def cases : Cases :=
  lookCases [("response", Response.shape), ("event", Event.shape)]

theorem reads_message {kind : String} {v u : Json} (known : kind ∈ cases.map (·.1))
    (h : Reads (caseLook cases (.str kind)) v u) :
    Reads shape.look (.obj [("message", v), ("type", .str kind)])
      (.obj [("message", u), ("type", .str kind)]) := by
  have apart : "type" ≠ "message" := by decide
  have look := reads_tagged "Frame" apart known h
  rwa [ofPairs_fields, ofPairs_fields] at look

theorem reads (x : Frame) : ∃ u, Reads shape.look x.toJson u ∧ ofJson? u = some x.settled := by
  cases x with
  | response r =>
    obtain ⟨u, reads, means⟩ := r.reads
    exact ⟨_, reads_message (by decide) reads, congrArg (Option.map Frame.response) means⟩
  | event e =>
    obtain ⟨u, reads, means⟩ := e.reads
    exact ⟨_, reads_message (by decide) reads, congrArg (Option.map Frame.event) means⟩

/-- What is so of the message of a frame of a kind. -/
def Messages (n : Nat) (kind : String) (u : Json) : Prop :=
  (kind = "response" ∧ ∀ x, Response.ofJson? u = some x →
      x.toJson.Sound (n + 1) ∧ x.settled = x) ∨
    kind = "event" ∧ ∀ x, Event.ofJson? u = some x → x.toJson.Sound (n + 1) ∧ x.settled = x

theorem yields (n : Nat) : Yields shape.look (n + 2) fun u => ∀ x, ofJson? u = some x →
    x.toJson.Sound (n + 2) ∧ x.settled = x := by
  intro r doc u bounds plain read x means
  have each : ∀ c ∈ cases, Yields c.2 (n + 1) (Messages n c.1) :=
    List.forall_mem_cons.2 ⟨(Response.yields n).imp fun _ h => .inl ⟨rfl, h⟩,
      List.forall_mem_singleton.2 ((Event.yields n).imp fun _ h => .inr ⟨rfl, h⟩)⟩
  obtain ⟨kind, -, u, rfl, message⟩ := yields_tagged each r doc u bounds plain read
  rw [ofPairs_fields] at means
  rcases message with ⟨rfl, response⟩ | ⟨rfl, event⟩
  · obtain ⟨y, parsed, rfl⟩ := Option.map_eq_some_iff.1 means
    obtain ⟨sound, settled⟩ := response y parsed
    exact ⟨.obj (sorted_fields _ _) (List.forall_mem_cons.2 ⟨sound, List.forall_mem_singleton.2
      (.text _)⟩), congrArg Frame.response settled⟩
  · obtain ⟨y, parsed, rfl⟩ := Option.map_eq_some_iff.1 means
    obtain ⟨sound, settled⟩ := event y parsed
    exact ⟨.obj (sorted_fields _ _) (List.forall_mem_cons.2 ⟨sound, List.forall_mem_singleton.2
      (.text _)⟩), congrArg Frame.event settled⟩

theorem roundTrips : RoundTrips Frame.read toJson (fun _ => True) settled :=
  .of_look (fun x _ => reads x) ((yields 125).imp fun _ h x means => ⟨trivial, h x means⟩)

end Frame

end HomeGateway
