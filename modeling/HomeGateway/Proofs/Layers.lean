/-
  Where a setting comes from.

  Every setting has a place in the file, a default and perhaps a variable of the
  environment.  It is what an acceptable variable says, else what the file says,
  else the default; whatever else stands in the file or in a variable matters to
  no setting.

  * `Setting`, `Setting.Gives`: the layers of a setting;
  * `get?_layFieldsOver`, `look_record`: laying fields over fields, and reading a record;
  * `load_layered`: what settings are loaded, or why none are.
-/
import HomeGateway.Settings.Load
import HomeGateway.Proofs.Records
import HomeGateway.Proofs.Pieces

namespace HomeGateway

open Json

/-! ## The layers of a setting -/

/-- A whole number of a width. -/
def Json.whole? (w : Width) (v : Json) : Option Nat :=
  v.nat?.filter (· ≤ w.max)

/-- A variable that is a text. -/
def MeansText (s t : String) : Prop :=
  s ≠ "" ∧ t = s

/-- A variable that is a number between two bounds: decimal digits, perhaps after a plus sign, with
    blanks around them. -/
def MeansNumber (least greatest : Nat) (s : String) (n : Nat) : Prop :=
  ∃ digits, ((Text.trim s).toList = digits ∨ (Text.trim s).toList = '+' :: digits) ∧
    digits ≠ [] ∧ (∀ c ∈ digits, Text.isDigit c) ∧ Text.digitsValue digits = n ∧
    least ≤ n ∧ n ≤ greatest

/-- A variable that is a flag: a word in letters of either case, with blanks around it. -/
def MeansFlag (s : String) (b : Bool) : Prop :=
  (Text.trim s).toLower ∈
    if b then ["true", "1", "yes", "on"] else ["false", "0", "no", "off"]

/-- A setting. -/
structure Setting (α : Type) where
  /-- its group in the file -/
  group : String
  /-- its name in the group -/
  name : String
  /-- the values of its type -/
  read : Json → Option α
  /-- its value if nothing is said about it -/
  default : α
  /-- its variable, if it has one -/
  variableName : Option String
  /-- the values of the variable that are acceptable, and what they mean -/
  Means : String → α → Prop

namespace Setting

variable {α : Type}

/-- What the file has in the place of a setting. -/
def entry? (x : Setting α) (file : Json) : Option Json :=
  (file.get? x.group).bind (·.get? x.name)

/-- The environment has an acceptable value. -/
def FromEnv (x : Setting α) (env : Settings.Environment) (a : α) : Prop :=
  ∃ name s, x.variableName = some name ∧ env name = some s ∧ x.Means s a

/-- In the place of a setting there is nothing, or `null`, or a value of its type. -/
def Fits (x : Setting α) (file : Json) : Prop :=
  ∀ v, x.entry? file = some v → v = .null ∨ ∃ a, x.read v = some a

/-- What a setting is: what the environment says, else what the file says, else the default. -/
inductive Gives (x : Setting α) (file : Json) (env : Settings.Environment) : α → Prop where
  | environment {a : α} (stated : x.FromEnv env a) : x.Gives file env a
  | file {v : Json} {a : α} (silent : ∀ b, ¬x.FromEnv env b) (present : x.entry? file = some v)
    (typed : x.read v = some a) : x.Gives file env a
  | default (silent : ∀ b, ¬x.FromEnv env b)
    (absent : x.entry? file = none ∨ x.entry? file = some .null) : x.Gives file env x.default

/-- Two files and two environments are alike to a setting. -/
def Alike (x : Setting α) (file file' : Json) (env env' : Settings.Environment) : Prop :=
  x.entry? file' = x.entry? file ∧ ∀ a, x.FromEnv env' a ↔ x.FromEnv env a

/-! ### The settings -/

/-- A setting without a variable. -/
def unnamed (group name : String) (read : Json → Option α) (default : α) : Setting α :=
  ⟨group, name, read, default, none, fun _ _ => False⟩

def host : Setting String :=
  ⟨"server", "host", text?, ServerSettings.default.host, some "MGW_HOST", MeansText⟩

def port : Setting Nat :=
  ⟨"server", "port", whole? .bits16, ServerSettings.default.port, some "MGW_PORT",
    MeansNumber 1 65535⟩

def maxConnections : Setting Nat :=
  ⟨"server", "maxConnections", whole? .counts, ServerSettings.default.maxConnections,
    some "MGW_MAX_CONNECTIONS", MeansNumber 1 100000⟩

def maxMessageSize : Setting Nat :=
  unnamed "server" "maxMessageSize" (whole? .counts) ServerSettings.default.maxMessageSize

def outboundQueueCapacity : Setting Nat :=
  unnamed "server" "outboundQueueCapacity" (whole? .counts)
    ServerSettings.default.outboundQueueCapacity

def updateLockWindowMs : Setting Nat :=
  ⟨"bridge", "updateLockWindowMs", whole? .bits64, BridgeSettings.default.updateLockWindowMs,
    some "MGW_UPDATE_LOCK_MS", MeansNumber 0 60000⟩

def displayFieldMaxLength : Setting Nat :=
  unnamed "bridge" "displayFieldMaxLength" (whole? .counts)
    BridgeSettings.default.displayFieldMaxLength

def level : Setting String :=
  ⟨"logging", "level", text?, LoggingSettings.default.level, some "MGW_LOG_LEVEL", MeansText⟩

def json : Setting Bool :=
  ⟨"logging", "json", bool?, LoggingSettings.default.json, some "MGW_LOG_JSON", MeansFlag⟩

end Setting

namespace Settings

/-- A file with groups and settings of their types; whatever else it holds is of no account. -/
structure Fits (file : Json) : Prop where
  groups : ∀ g ∈ ["server", "bridge", "logging"], ∀ v, file.get? g = some v →
    v = .null ∨ ∃ fs, v = .obj fs
  host : Setting.host.Fits file
  port : Setting.port.Fits file
  maxConnections : Setting.maxConnections.Fits file
  maxMessageSize : Setting.maxMessageSize.Fits file
  outboundQueueCapacity : Setting.outboundQueueCapacity.Fits file
  updateLockWindowMs : Setting.updateLockWindowMs.Fits file
  displayFieldMaxLength : Setting.displayFieldMaxLength.Fits file
  level : Setting.level.Fits file
  json : Setting.json.Fits file

/-- Every setting is what its layers give. -/
structure Layered (file : Json) (env : Environment) (s : Settings) : Prop where
  host : Setting.host.Gives file env s.server.host
  port : Setting.port.Gives file env s.server.port
  maxConnections : Setting.maxConnections.Gives file env s.server.maxConnections
  maxMessageSize : Setting.maxMessageSize.Gives file env s.server.maxMessageSize
  outboundQueueCapacity :
    Setting.outboundQueueCapacity.Gives file env s.server.outboundQueueCapacity
  updateLockWindowMs : Setting.updateLockWindowMs.Gives file env s.bridge.updateLockWindowMs
  displayFieldMaxLength :
    Setting.displayFieldMaxLength.Gives file env s.bridge.displayFieldMaxLength
  level : Setting.level.Gives file env s.logging.level
  json : Setting.json.Gives file env s.logging.json

/-- Two files and two environments are alike to every setting. -/
structure Alike (file file' : Json) (env env' : Environment) : Prop where
  host : Setting.host.Alike file file' env env'
  port : Setting.port.Alike file file' env env'
  maxConnections : Setting.maxConnections.Alike file file' env env'
  maxMessageSize : Setting.maxMessageSize.Alike file file' env env'
  outboundQueueCapacity : Setting.outboundQueueCapacity.Alike file file' env env'
  updateLockWindowMs : Setting.updateLockWindowMs.Alike file file' env env'
  displayFieldMaxLength : Setting.displayFieldMaxLength.Alike file file' env env'
  level : Setting.level.Alike file file' env env'
  json : Setting.json.Alike file file' env env'

/-- A server can run with the settings. -/
def Runnable (s : Settings) : Prop :=
  s.server.port ≠ 0 ∧ s.server.maxConnections ≠ 0 ∧ s.server.outboundQueueCapacity ≠ 0 ∧
    s.bridge.displayFieldMaxLength ≠ 0

end Settings

/-! ## The environment -/

namespace Setting

variable {α : Type} {x : Setting α} {file file' : Json} {env env' : Settings.Environment}

/-- What the environment says of a setting, if it says one thing at most. -/
def Picks (x : Setting α) (env : Settings.Environment) (said : Option α) : Prop :=
  ∀ a, x.FromEnv env a ↔ said = some a

/-- An environment that has no acceptable value says nothing. -/
theorem Picks.silent {said : Option α} (picks : x.Picks env said)
    (silent : ∀ b, ¬x.FromEnv env b) : said = none :=
  Option.eq_none_iff_forall_ne_some.2 fun b same => silent b ((picks b).2 same)

theorem picks_none (unnamed : x.variableName = none) (env : Settings.Environment) :
    x.Picks env none := by
  refine fun a => ⟨?_, nofun⟩
  rintro ⟨name, s, named, -⟩
  cases unnamed.symm.trans named

/-- What is read of a variable is what it says, if reading it finds its meaning. -/
theorem picks_some {name : String} (named : x.variableName = some name) {read : String → Option α}
    (means : ∀ s a, x.Means s a ↔ read s = some a) (env : Settings.Environment) :
    x.Picks env (env name >>= read) := by
  intro a
  simp only [FromEnv, named, Option.bind_eq_bind, Option.bind_eq_some_iff, ← means]
  constructor
  · rintro ⟨_, s, same, set, meant⟩
    cases same
    exact ⟨s, set, meant⟩
  · rintro ⟨s, set, meant⟩
    exact ⟨name, s, rfl, set, meant⟩

theorem meansText_iff (s t : String) :
    MeansText s t ↔ (if s = "" then none else some s) = some t := by
  unfold MeansText
  by_cases empty : s = ""
  · simp [empty]
  · simp [empty, eq_comm]

/-- A number is what is left of its text without a plus sign. -/
theorem dropPlus_iff {cs ds : List Char} (digits : ∀ c ∈ ds, Text.isDigit c) :
    (cs = ds ∨ cs = '+' :: ds) ↔ Text.dropPlus cs = ds := by
  constructor
  · rintro (rfl | rfl)
    · unfold Text.dropPlus
      split
      · exact absurd (digits '+' List.mem_cons_self) (by decide)
      · rfl
    · rfl
  · unfold Text.dropPlus
    split
    · rintro rfl
      exact .inr rfl
    · exact .inl

theorem meansNumber_iff {w : Width} {least greatest : Nat} (fits : greatest ≤ w.max) (s : String)
    (n : Nat) : MeansNumber least greatest s n ↔
      Settings.readRange w least greatest (Text.trim s) = some n := by
  unfold MeansNumber Settings.readRange Text.readUnsigned
  dsimp only
  constructor
  · rintro ⟨ds, shape, some_, digits, rfl, least, greatest⟩
    obtain rfl := (dropPlus_iff digits).1 shape
    rw [if_pos ⟨some_, List.all_eq_true.2 digits, greatest.trans fits⟩]
    exact if_pos ⟨least, greatest⟩
  · intro read
    split at read
    · rename_i m number
      obtain ⟨given, value⟩ := Option.ite_none_right_eq_some.1 number
      obtain ⟨within, same⟩ := Option.ite_none_right_eq_some.1 read
      have digits := List.all_eq_true.1 given.2.1
      rw [← Option.some.inj value] at within same
      rw [← Option.some.inj same]
      exact ⟨_, (dropPlus_iff digits).2 rfl, given.1, digits, rfl, within⟩
    · cases read

theorem meansFlag_iff (s : String) (b : Bool) :
    MeansFlag s b ↔ Settings.readFlag (Text.trim s) = some b := by
  unfold MeansFlag Settings.readFlag
  generalize (Text.trim s).toLower = word
  dsimp only
  by_cases on : word = "true" ∨ word = "1" ∨ word = "yes" ∨ word = "on"
  · rw [if_pos on]
    cases b
    · rcases on with rfl | rfl | rfl | rfl <;> decide
    · simpa using on
  · rw [if_neg on]
    cases b
    · by_cases off : word = "false" ∨ word = "0" ∨ word = "no" ∨ word = "off"
      · rw [if_pos off]
        simpa using off
      · rw [if_neg off]
        simpa using off
    · simpa using on

theorem picks_text {name : String} (x : Setting String) (named : x.variableName = some name)
    (text : x.Means = MeansText) (env : Settings.Environment) :
    x.Picks env (env.text name) := by
  have picks := picks_some named (fun s t => text ▸ meansText_iff s t) env
  have same : env.text name = env name >>= fun s => if s = "" then none else some s := by
    unfold Settings.Environment.text
    cases env name with
    | none => rfl
    | some s => by_cases empty : s = "" <;> simp [empty]
  exact same ▸ picks

theorem picks_word {name : String} (named : x.variableName = some name)
    {read : String → Option α} (means : ∀ s a, x.Means s a ↔ read (Text.trim s) = some a)
    (env : Settings.Environment) : x.Picks env (env.word name read) :=
  picks_some named means env

/-- The environment comes before the file, and the file before the default. -/
theorem gives_picked {said : Option α} (picks : x.Picks env said) (fits : x.Fits file)
    (null : x.read .null = none) :
    x.Gives file env (said.getD (((x.entry? file).bind x.read).getD x.default)) := by
  cases said with
  | some a => exact .environment ((picks a).2 rfl)
  | none =>
    have silent (b : α) : ¬x.FromEnv env b := fun stated => nomatch (picks b).1 stated
    cases entry : x.entry? file with
    | none => exact .default silent (.inl entry)
    | some v =>
      rcases fits v entry with rfl | ⟨a, typed⟩
      · rw [Option.bind_some, null]
        exact .default silent (.inr entry)
      · rw [Option.bind_some, typed]
        exact .file silent entry typed

/-- The layers give one value only. -/
theorem Gives.unique {said : Option α} (picks : x.Picks env said) (null : x.read .null = none)
    {a b : α} (ha : x.Gives file env a) (hb : x.Gives file env b) : a = b := by
  have value {a : α} (h : x.Gives file env a) :
      a = said.getD (((x.entry? file).bind x.read).getD x.default) := by
    cases h with
    | environment stated =>
      rw [(picks a).1 stated]
      rfl
    | file silent present typed => simp [picks.silent silent, present, typed]
    | default silent absent =>
      rcases absent with absent | absent <;> simp [picks.silent silent, absent, null]
  exact (value ha).trans (value hb).symm

theorem Gives.alike {a : α} (h : x.Gives file env a) (alike : x.Alike file file' env env') :
    x.Gives file' env' a := by
  have silent (none : ∀ b, ¬x.FromEnv env b) (b : α) : ¬x.FromEnv env' b :=
    fun stated => none b ((alike.2 b).1 stated)
  cases h with
  | environment stated => exact .environment ((alike.2 a).2 stated)
  | file none present typed => exact .file (silent none) (alike.1.trans present) typed
  | default none absent => exact .default (silent none) (alike.1.symm ▸ absent)

end Setting

/-! ## Laying fields over fields -/

namespace Json

theorem sorted_layFieldsOver {above below : Fields} (sorted : below.Sorted) :
    (layFieldsOver above below).Sorted := by
  induction above generalizing below with
  | nil => exact sorted
  | cons p rest ih =>
    obtain ⟨k, v⟩ := p
    rw [layFieldsOver]
    split
    · exact ih sorted
    · exact ih (Fields.sorted_insert sorted _ _)

/-- A field after others were laid over it. -/
theorem get?_layFieldsOver {above : Fields} (sorted : above.Sorted) (below : Fields)
    (name : String) : (layFieldsOver above below).get? name =
      match above.get? name with
      | none => below.get? name
      | some v => if v.isNull then below.get? name
        else some (match below.get? name with
          | none => v
          | some w => layOver v w) := by
  induction above generalizing below with
  | nil => rfl
  | cons p rest ih =>
    obtain ⟨k, v⟩ := p
    obtain ⟨later, first⟩ := sorted.head
    rw [layFieldsOver, ih later, Fields.get?]
    by_cases own : k = name
    · subst own
      rw [first, if_pos rfl]
      dsimp only
      split
      · rfl
      · exact Fields.get?_insert_self k _ below
    · rw [if_neg own]
      cases v.isNull with
      | true => rfl
      | false =>
        simp only [Bool.false_eq_true, if_false, Fields.get?_insert_of_ne _ _ (Ne.symm own)]

/-! ## Reading a record -/

/-- What looks at a leaf finds a value of a type, and takes it as it is. -/
structure Takes {α : Type} (s : Shape) (read : Json → Option α) : Prop where
  look : ∀ v a, read v = some a → s.look .ofValue (.ofJson v) = .ok v
  plain : ∀ v a, read v = some a → ∀ w, layOver v w = v ∧ v.isNull = false

theorem takes_text : Takes .text text? where
  look := by
    intro v a typed
    cases v <;> cases typed
    rfl
  plain := by
    intro v a typed w
    cases v <;> cases typed
    exact ⟨rfl, rfl⟩

theorem takes_flag : Takes .flag bool? where
  look := by
    intro v a typed
    cases v <;> cases typed
    rfl
  plain := by
    intro v a typed w
    cases v <;> cases typed
    exact ⟨rfl, rfl⟩

theorem nat?_eq_some {v : Json} {n : Nat} : v.nat? = some n ↔ v = .ofNat n := by
  constructor
  · intro h
    unfold nat? at h
    split at h <;> cases h
    rfl
  · rintro rfl
    rfl

theorem whole?_eq_some {w : Width} {v : Json} {n : Nat} :
    whole? w v = some n ↔ v = .ofNat n ∧ n ≤ w.max := by
  simp [whole?, Option.filter_eq_some_iff, nat?_eq_some]

theorem takes_whole (w : Width) : Takes (.whole w) (whole? w) where
  look := by
    intro v n typed
    obtain ⟨rfl, fits⟩ := whole?_eq_some.1 typed
    exact if_pos ⟨Int.natCast_nonneg n, Int.ofNat_le.2 fits⟩
  plain := by
    intro v n typed w
    obtain ⟨rfl, -⟩ := whole?_eq_some.1 typed
    exact ⟨rfl, rfl⟩

/-- A record whose fields are read under their names. -/
theorem look_record {title : String} (specs : List (String × Shape × Option Json))
    (norm : String → Json) {fs : Fields} (sorted : fs.Sorted)
    (reads : ∀ spec ∈ specs, ∃ v, fs.get? spec.1 = some v ∧
      spec.2.1.look .ofValue (.ofJson v) = .ok (norm spec.1)) :
    ∃ done : Fields,
      (Shape.record title specs).look .ofValue (.ofJson (.obj fs)) = .ok (.obj done) ∧
      ∀ spec ∈ specs, done.get? spec.1 = some (norm spec.1) := by
  have fields : ∀ f ∈ lookFields specs,
      (∃ v, fs.get? f.name = some v ∧ f.look .ofValue (.ofJson v) = .ok (norm f.name)) ∨
      fs.get? f.name = none ∧ f.default? = some (norm f.name) := by
    intro f hf
    obtain ⟨spec, hspec, rfl⟩ := mem_lookFields hf
    exact .inl (reads spec hspec)
  have entered : Reading.ofValue.enter = .ok .ofValue := rfl
  obtain ⟨done, look, -, holds⟩ := lookRecord_ofFields title entered sorted.names fields
  exact ⟨done, look, fun spec hspec => by rw [holds, if_pos ⟨_, lookFields_mem hspec, rfl⟩]⟩

/-- The fields of a group in a file; none if it is absent or null. -/
def groupFields (file : Json) (group : String) : Fields :=
  match file.get? group with
  | some (.obj fs) => fs
  | _ => []

theorem Ordered.groupFields {file : Json} (h : file.Ordered) (group : String) :
    (file.groupFields group).Sorted := by
  unfold Json.groupFields
  split
  · rename_i fs found
    exact (h.get? found).sorted
  · exact List.Pairwise.nil

end Json

/-! ## Groups of settings -/

namespace Setting

variable {α : Type} {x : Setting α} {file : Json}

/-- What a file says of a setting, or the default. -/
def inFile (x : Setting α) (file : Json) : α :=
  ((x.entry? file).bind x.read).getD x.default

theorem entry?_eq (x : Setting α) (file : Json) :
    x.entry? file = (file.groupFields x.group).get? x.name := by
  unfold entry? groupFields
  cases found : file.get? x.group with
  | none => rfl
  | some v => cases v <;> rfl

/-- A field of the type of a setting, with what the file says or the default. -/
structure Holds (x : Setting α) (file : Json) (s : Shape) (fs : Fields) (v : Json) : Prop where
  found : fs.get? x.name = some v
  look : s.look .ofValue (.ofJson v) = .ok v
  read : x.read v = some (x.inFile file)

/-- The group of a file laid over a group of defaults holds each setting. -/
theorem holds_laid {s : Shape} (takes : Takes s x.read) {w : Json} (below : Fields)
    (present : below.get? x.name = some w) (typed : x.read w = some x.default)
    (ordered : file.Ordered) (fits : x.Fits file) :
    ∃ v, x.Holds file s (layFieldsOver (file.groupFields x.group) below) v := by
  have entry := x.entry?_eq file
  have laid := get?_layFieldsOver (ordered.groupFields x.group) below x.name
  have null : x.read .null = none := by
    cases read : x.read .null with
    | none => rfl
    | some a => cases (takes.plain _ _ read .null).2
  rw [← entry] at laid
  cases at_ : x.entry? file with
  | none =>
    rw [at_] at laid
    exact ⟨w, laid.trans present, takes.look w _ typed, by simp [inFile, at_, typed]⟩
  | some v =>
    rw [at_] at laid
    rcases fits v at_ with rfl | ⟨a, read⟩
    · exact ⟨w, laid.trans present, takes.look w _ typed, by simp [inFile, at_, null, typed]⟩
    · obtain ⟨laidOver, some_⟩ := takes.plain v a read w
      refine ⟨v, ?_, takes.look v a read, by simp [inFile, at_, read]⟩
      simp only [laid, some_, Bool.false_eq_true, if_false, present, laidOver]

/-- The value of a field that is there. -/
def valueAt (fs : Fields) (name : String) : Json :=
  (fs.get? name).getD .null

theorem Holds.reads {s : Shape} {fs : Fields} {v : Json} (h : x.Holds file s fs v) :
    ∃ v, fs.get? x.name = some v ∧ s.look .ofValue (.ofJson v) = .ok (valueAt fs x.name) :=
  ⟨v, h.found, by rw [valueAt, h.found]; exact h.look⟩

/-- What was read of a group says what the file says. -/
theorem Holds.said {s : Shape} {fs : Fields} {v : Json} (h : x.Holds file s fs v) {done : Fields}
    (present : done.get? x.name = some (valueAt fs x.name)) {read : Json → Option α}
    (reads : ∀ v a, x.read v = some a → read v = some a) :
    ((Json.obj done).get? x.name >>= read) = some (x.inFile file) := by
  rw [Json.get?, present, valueAt, h.found]
  exact reads v _ h.read

end Setting

namespace Settings

variable {file : Json}

theorem nat?_of_whole? {w : Width} (v : Json) (n : Nat) (h : whole? w v = some n) :
    v.nat? = some n :=
  (Option.filter_eq_some_iff.1 h).1

/-- The fields of an object. -/
def contents (v : Json) : Fields :=
  v.fields?.getD []

/-- A group of a file laid over the defaults of the group. -/
def laid (file : Json) (group : String) (default : Json) : Fields :=
  layFieldsOver (file.groupFields group) (contents default)

/-- The server settings of a file. -/
theorem look_server (ordered : file.Ordered) (fits : Fits file) :
    ∃ v, ServerSettings.shape.look .ofValue
        (.ofJson (.obj (laid file "server" ServerSettings.default.toJson))) = .ok v ∧
      ServerSettings.ofJson? v = some ⟨Setting.host.inFile file, Setting.port.inFile file,
        Setting.maxConnections.inFile file, Setting.maxMessageSize.inFile file,
        Setting.outboundQueueCapacity.inFile file⟩ := by
  let below := contents ServerSettings.default.toJson
  have sorted : Fields.Sorted below := by
    unfold Fields.Sorted
    decide
  obtain ⟨_, host⟩ := Setting.holds_laid takes_text below rfl rfl ordered fits.host
  obtain ⟨_, port⟩ := Setting.holds_laid (takes_whole .bits16) below rfl rfl ordered fits.port
  obtain ⟨_, connections⟩ :=
    Setting.holds_laid (takes_whole .counts) below rfl rfl ordered fits.maxConnections
  obtain ⟨_, size⟩ :=
    Setting.holds_laid (takes_whole .counts) below rfl rfl ordered fits.maxMessageSize
  obtain ⟨_, capacity⟩ :=
    Setting.holds_laid (takes_whole .counts) below rfl rfl ordered fits.outboundQueueCapacity
  obtain ⟨done, look, present⟩ := look_record (Shape.specs ServerSettings.shape)
    (Setting.valueAt (laid file "server" ServerSettings.default.toJson))
    (sorted_layFieldsOver sorted) <| by
      exact List.forall_mem_cons.2 ⟨host.reads, List.forall_mem_cons.2 ⟨port.reads,
        List.forall_mem_cons.2 ⟨connections.reads, List.forall_mem_cons.2 ⟨size.reads,
        List.forall_mem_cons.2 ⟨capacity.reads, List.forall_mem_nil _⟩⟩⟩⟩⟩
  refine ⟨.obj done, look, ?_⟩
  simp only [Shape.specs, ServerSettings.shape, defaulted, List.forall_mem_cons] at present
  obtain ⟨h, p, c, m, q, -⟩ := present
  have host := host.said h fun _ _ => id
  have port := port.said p nat?_of_whole?
  have connections := connections.said c nat?_of_whole?
  have size := size.said m nat?_of_whole?
  have capacity := capacity.said q nat?_of_whole?
  simp only [Setting.host, Setting.port, Setting.maxConnections, Setting.maxMessageSize,
    Setting.outboundQueueCapacity, Setting.unnamed] at host port connections size capacity
  simp only [ServerSettings.ofJson?, host, port, connections, size, capacity]
  rfl

/-- The bridge settings of a file. -/
theorem look_bridge (ordered : file.Ordered) (fits : Fits file) :
    ∃ v, BridgeSettings.shape.look .ofValue
        (.ofJson (.obj (laid file "bridge" BridgeSettings.default.toJson))) = .ok v ∧
      BridgeSettings.ofJson? v = some ⟨Setting.updateLockWindowMs.inFile file,
        Setting.displayFieldMaxLength.inFile file⟩ := by
  let below := contents BridgeSettings.default.toJson
  have sorted : Fields.Sorted below := by
    unfold Fields.Sorted
    decide
  obtain ⟨_, window⟩ :=
    Setting.holds_laid (takes_whole .bits64) below rfl rfl ordered fits.updateLockWindowMs
  obtain ⟨_, length⟩ :=
    Setting.holds_laid (takes_whole .counts) below rfl rfl ordered fits.displayFieldMaxLength
  obtain ⟨done, look, present⟩ := look_record (Shape.specs BridgeSettings.shape)
    (Setting.valueAt (laid file "bridge" BridgeSettings.default.toJson))
    (sorted_layFieldsOver sorted) <| by
      exact List.forall_mem_cons.2 ⟨window.reads,
        List.forall_mem_cons.2 ⟨length.reads, List.forall_mem_nil _⟩⟩
  refine ⟨.obj done, look, ?_⟩
  simp only [Shape.specs, BridgeSettings.shape, defaulted, List.forall_mem_cons] at present
  have window := window.said present.1 nat?_of_whole?
  have length := length.said present.2.1 nat?_of_whole?
  simp only [Setting.updateLockWindowMs, Setting.displayFieldMaxLength, Setting.unnamed]
    at window length
  simp only [BridgeSettings.ofJson?, window, length]
  rfl

/-- The log settings of a file. -/
theorem look_logging (ordered : file.Ordered) (fits : Fits file) :
    ∃ v, LoggingSettings.shape.look .ofValue
        (.ofJson (.obj (laid file "logging" LoggingSettings.default.toJson))) = .ok v ∧
      LoggingSettings.ofJson? v = some ⟨Setting.level.inFile file, Setting.json.inFile file⟩ := by
  let below := contents LoggingSettings.default.toJson
  have sorted : Fields.Sorted below := by
    unfold Fields.Sorted
    decide
  obtain ⟨_, level⟩ := Setting.holds_laid takes_text below rfl rfl ordered fits.level
  obtain ⟨_, json⟩ := Setting.holds_laid takes_flag below rfl rfl ordered fits.json
  obtain ⟨done, look, present⟩ := look_record (Shape.specs LoggingSettings.shape)
    (Setting.valueAt (laid file "logging" LoggingSettings.default.toJson))
    (sorted_layFieldsOver sorted) <| by
      exact List.forall_mem_cons.2 ⟨level.reads,
        List.forall_mem_cons.2 ⟨json.reads, List.forall_mem_nil _⟩⟩
  refine ⟨.obj done, look, ?_⟩
  simp only [Shape.specs, LoggingSettings.shape, defaulted, List.forall_mem_cons] at present
  have level := level.said present.1 fun _ _ => id
  have json := json.said present.2.1 fun _ _ => id
  simp only [Setting.level, Setting.json] at level json
  simp only [LoggingSettings.ofJson?, level, json]
  rfl

/-- The settings of a file, without the environment. -/
def ofFile (file : Json) : Settings where
  server := ⟨Setting.host.inFile file, Setting.port.inFile file,
    Setting.maxConnections.inFile file, Setting.maxMessageSize.inFile file,
    Setting.outboundQueueCapacity.inFile file⟩
  bridge := ⟨Setting.updateLockWindowMs.inFile file, Setting.displayFieldMaxLength.inFile file⟩
  logging := ⟨Setting.level.inFile file, Setting.json.inFile file⟩

/-- A group of a file that is laid over the defaults. -/
theorem get?_group {fs : Fields} (sorted : fs.Sorted) {g : String} {below d : Fields}
    (group : ∀ v, fs.get? g = some v → v = .null ∨ ∃ gs, v = .obj gs)
    (present : below.get? g = some (.obj d)) :
    (layFieldsOver fs below).get? g = some (.obj (laid (.obj fs) g (.obj d))) := by
  rw [get?_layFieldsOver sorted, laid, groupFields, Json.get?, present]
  cases found : fs.get? g with
  | none => rfl
  | some v =>
    rcases group v found with rfl | ⟨gs, rfl⟩
    · rfl
    · rfl

theorem ofValue_overlay {fs : Fields} (ordered : Ordered (.obj fs)) (fits : Fits (.obj fs)) :
    ofValue (overlay default.toJson (.obj fs)) = .ok (ofFile (.obj fs)) := by
  have sorted : Fields.Sorted (contents default.toJson) := by
    unfold Fields.Sorted
    decide
  obtain ⟨server, lookServer, readServer⟩ := look_server ordered fits
  obtain ⟨bridge, lookBridge, readBridge⟩ := look_bridge ordered fits
  obtain ⟨logging, lookLogging, readLogging⟩ := look_logging ordered fits
  have group (g : String) (hg : g ∈ ["server", "bridge", "logging"]) {d : Fields}
      (present : (contents default.toJson).get? g = some (.obj d)) :=
    get?_group ordered.sorted (fits.groups g hg) present
  let norm (name : String) : Json :=
    if name = "server" then server else if name = "bridge" then bridge else logging
  have laid : (layFieldsOver fs (contents default.toJson)).Sorted := sorted_layFieldsOver sorted
  obtain ⟨done, look, present⟩ := look_record (Shape.specs shape) norm laid <| by
      exact List.forall_mem_cons.2 ⟨⟨_, group "server" (by decide) rfl, lookServer⟩,
        List.forall_mem_cons.2 ⟨⟨_, group "bridge" (by decide) rfl, lookBridge⟩,
        List.forall_mem_cons.2 ⟨⟨_, group "logging" (by decide) rfl, lookLogging⟩,
        List.forall_mem_nil _⟩⟩⟩
  simp only [Shape.specs, shape, defaulted, List.forall_mem_cons] at present
  obtain ⟨server?, bridge?, logging?, -⟩ := present
  have read : ofJson? (.obj done) = some (ofFile (.obj fs)) := by
    have names : norm "server" = server ∧ norm "bridge" = bridge ∧ norm "logging" = logging :=
      ⟨rfl, rfl, rfl⟩
    rw [names.1] at server?
    rw [names.2.1] at bridge?
    rw [names.2.2] at logging?
    simp only [ofJson?, Json.get?, server?, bridge?, logging?, Option.bind_eq_bind,
      Option.bind_some, readServer, readBridge, readLogging]
    rfl
  have merged : shape.readValue (overlay default.toJson (.obj fs)) = .ok (.obj done) := look
  simp only [ofValue, merged, read]

/-! ## The environment over the file -/

section

variable {env env' : Environment} {file' : Json} {s s' : Settings}

theorem picks_host (env : Environment) : Setting.host.Picks env (env.text "MGW_HOST") :=
  Setting.picks_text _ rfl rfl env

theorem picks_port (env : Environment) :
    Setting.port.Picks env (env.word "MGW_PORT" (readRange .bits16 1 65535)) :=
  Setting.picks_word rfl (Setting.meansNumber_iff (by decide)) env

theorem picks_maxConnections (env : Environment) : Setting.maxConnections.Picks env
    (env.word "MGW_MAX_CONNECTIONS" (readRange .counts 1 100000)) :=
  Setting.picks_word rfl (Setting.meansNumber_iff (by decide)) env

theorem picks_updateLockWindowMs (env : Environment) : Setting.updateLockWindowMs.Picks env
    (env.word "MGW_UPDATE_LOCK_MS" (readRange .bits64 0 60000)) :=
  Setting.picks_word rfl (Setting.meansNumber_iff (by decide)) env

theorem picks_level (env : Environment) : Setting.level.Picks env (env.text "MGW_LOG_LEVEL") :=
  Setting.picks_text _ rfl rfl env

theorem picks_json (env : Environment) :
    Setting.json.Picks env (env.word "MGW_LOG_JSON" readFlag) :=
  Setting.picks_word rfl Setting.meansFlag_iff env

/-- The file with the environment over it: every setting is what its layers give. -/
theorem layered_ofFile (fits : Fits file) (env : Environment) :
    Layered file env ((ofFile file).withEnvironment env) where
  host := Setting.gives_picked (picks_host env) fits.host rfl
  port := Setting.gives_picked (picks_port env) fits.port rfl
  maxConnections := Setting.gives_picked (picks_maxConnections env) fits.maxConnections rfl
  maxMessageSize := Setting.gives_picked (Setting.picks_none rfl env) fits.maxMessageSize rfl
  outboundQueueCapacity :=
    Setting.gives_picked (Setting.picks_none rfl env) fits.outboundQueueCapacity rfl
  updateLockWindowMs :=
    Setting.gives_picked (picks_updateLockWindowMs env) fits.updateLockWindowMs rfl
  displayFieldMaxLength :=
    Setting.gives_picked (Setting.picks_none rfl env) fits.displayFieldMaxLength rfl
  level := Setting.gives_picked (picks_level env) fits.level rfl
  json := Setting.gives_picked (picks_json env) fits.json rfl

/-- The layers give one value to every setting. -/
theorem Layered.unique (h : Layered file env s) (h' : Layered file env s') : s = s' := by
  obtain ⟨⟨_, _, _, _, _⟩, ⟨_, _⟩, ⟨_, _⟩⟩ := s
  obtain ⟨⟨_, _, _, _, _⟩, ⟨_, _⟩, ⟨_, _⟩⟩ := s'
  obtain rfl := Setting.Gives.unique (picks_host env) rfl h.host h'.host
  obtain rfl := Setting.Gives.unique (picks_port env) rfl h.port h'.port
  obtain rfl :=
    Setting.Gives.unique (picks_maxConnections env) rfl h.maxConnections h'.maxConnections
  obtain rfl := Setting.Gives.unique (Setting.picks_none rfl env) rfl h.maxMessageSize
    h'.maxMessageSize
  obtain rfl := Setting.Gives.unique (Setting.picks_none rfl env) rfl h.outboundQueueCapacity
    h'.outboundQueueCapacity
  obtain rfl := Setting.Gives.unique (picks_updateLockWindowMs env) rfl h.updateLockWindowMs
    h'.updateLockWindowMs
  obtain rfl := Setting.Gives.unique (Setting.picks_none rfl env) rfl h.displayFieldMaxLength
    h'.displayFieldMaxLength
  obtain rfl := Setting.Gives.unique (picks_level env) rfl h.level h'.level
  obtain rfl := Setting.Gives.unique (picks_json env) rfl h.json h'.json
  rfl

theorem Layered.alike (h : Layered file env s) (alike : Alike file file' env env') :
    Layered file' env' s where
  host := h.host.alike alike.host
  port := h.port.alike alike.port
  maxConnections := h.maxConnections.alike alike.maxConnections
  maxMessageSize := h.maxMessageSize.alike alike.maxMessageSize
  outboundQueueCapacity := h.outboundQueueCapacity.alike alike.outboundQueueCapacity
  updateLockWindowMs := h.updateLockWindowMs.alike alike.updateLockWindowMs
  displayFieldMaxLength := h.displayFieldMaxLength.alike alike.displayFieldMaxLength
  level := h.level.alike alike.level
  json := h.json.alike alike.json

theorem objection_eq_none : s.objection = none ↔ s.Runnable := by
  unfold objection Runnable
  grind

end

/-! ## Loading -/

theorem load_eq {t : String} {fs : Fields} (parsed : parse t = .ok (.obj fs))
    (fits : Fits (.obj fs)) (env : Environment) :
    load (some t) env = ((ofFile (.obj fs)).withEnvironment env).validate := by
  simp only [load, merged, parsed, ofValue_overlay (sound_parse parsed).ordered fits]

/-- Every setting that is loaded is what its layers give, and whatever is alike to every setting is
    loaded alike; settings with which no server can run are refused, and no others. -/
theorem load_layered {t : String} {file : Fields} (parsed : parse t = .ok (.obj file))
    (fits : Fits (.obj file)) (env : Environment) :
    (∃ s, (∀ s', Layered (.obj file) env s' ↔ s' = s) ∧
      (s.Runnable → load (some t) env = .ok s) ∧
      (¬s.Runnable → ∃ reason, load (some t) env = .error (.invalidValue reason))) ∧
    ∀ t' file' env', parse t' = .ok (.obj file') → Fits (.obj file') →
      Alike (.obj file) (.obj file') env env' → load (some t') env' = load (some t) env := by
  have layered := layered_ofFile fits env
  have loaded := load_eq parsed fits env
  generalize (ofFile (.obj file)).withEnvironment env = s at layered loaded
  refine ⟨⟨s, fun s' => ⟨fun h => h.unique layered, fun h => h ▸ layered⟩, fun runs => ?_,
    fun stuck => ?_⟩, fun t' file' env' parsed' fits' alike => ?_⟩
  · rw [loaded, validate, objection_eq_none.2 runs]
  · cases objection : s.objection with
    | none => exact absurd (objection_eq_none.1 objection) stuck
    | some reason => exact ⟨reason, by rw [loaded, validate, objection]⟩
  · have same := (layered_ofFile fits' env').unique (layered.alike alike)
    rw [load_eq parsed' fits' env', loaded, same]

/-- A file that sets the port and the level, has no host, and holds things that are no settings. -/
def mixedFile : String :=
  "\x7b\"server\": \x7b\"port\": 9100, \"host\": null, \"colour\": [1]\x7d, \"bridge\": null, " ++
    "\"logging\": \x7b\"level\": \"warn\"\x7d, \"hall\": \x7b\"port\": 0\x7d\x7d"

/-- What the file holds. -/
def mixedFields : Fields :=
  [("bridge", .null), ("hall", .obj [("port", .int 0)]), ("logging", .obj [("level", .str "warn")]),
    ("server", .obj [("colour", .arr [.int 1]), ("host", .null), ("port", .int 9100)])]

/-- An environment with two acceptable variables and two that are not. -/
def mixedEnvironment : Environment := fun name =>
  [("MGW_PORT", " +7000 "), ("MGW_MAX_CONNECTIONS", "0"), ("MGW_LOG_JSON", "Yes"),
    ("MGW_LOG_LEVEL", "")].lookup name

/-- The port and the flag are those of the environment, the level is that of the file. -/
theorem load_layered_mixed :
    parse mixedFile = .ok (.obj mixedFields) ∧ Fits (.obj mixedFields) ∧
      ∃ s, Layered (.obj mixedFields) mixedEnvironment s ∧
        load (some mixedFile) mixedEnvironment = .ok s ∧
        s = ⟨⟨"0.0.0.0", 7000, 64, 1048576, 1024⟩, ⟨100, 32⟩, ⟨"warn", true⟩⟩ := by
  have parsed : parse mixedFile = .ok (.obj mixedFields) := by cbv
  have fits : Fits (.obj mixedFields) := by
    refine ⟨?_, ?_, ?_, ?_, ?_, ?_, ?_, ?_, ?_, ?_⟩
    · intro g hg v entry
      simp only [List.mem_cons, List.not_mem_nil, or_false] at hg
      rcases hg with rfl | rfl | rfl <;> cases entry
      · exact .inr ⟨_, rfl⟩
      · exact .inl rfl
      · exact .inr ⟨_, rfl⟩
    all_goals
      intro v entry
      cases entry
    · exact .inl rfl
    · exact .inr ⟨9100, rfl⟩
    · exact .inr ⟨"warn", rfl⟩
  have value : load (some mixedFile) mixedEnvironment =
      .ok ⟨⟨"0.0.0.0", 7000, 64, 1048576, 1024⟩, ⟨100, 32⟩, ⟨"warn", true⟩⟩ :=
    (load_eq parsed fits mixedEnvironment).trans (by decide +kernel)
  obtain ⟨⟨s, only, runs, stuck⟩, -⟩ := load_layered parsed fits mixedEnvironment
  by_cases runnable : s.Runnable
  · have loaded := runs runnable
    exact ⟨parsed, fits, s, (only s).2 rfl, loaded, Except.ok.inj (loaded.symm.trans value)⟩
  · obtain ⟨reason, refused⟩ := stuck runnable
    cases value.symm.trans refused

end Settings

end HomeGateway
