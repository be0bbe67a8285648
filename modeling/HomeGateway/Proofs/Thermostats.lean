/-
  Thermostats.

  A thermostat heats if its caller gave it a temperature to heat to, and cools if it
  was given one to cool to; one that was given neither cannot be made.  What it was
  given is looked up in the caller's attributes, while what it keeps comes from the
  merged ones.  The two agree, because a temperature that counts stands in an object,
  and the merge goes on inside it.

  * `get?_eraseAll`, `sorted_eraseAll`: fields without some of them;
  * `mem_dropped`, `Fitted`: what a thermostat keeps, and with which values;
  * `fitted_fit`, `configureIn_asked`: a mode fits the attributes to what the caller asked for;
  * `configureIn_thermostat`: what becomes of the merged attributes.
-/
import HomeGateway.Device.Configuration
import HomeGateway.Proofs.Arrangements
import HomeGateway.Proofs.Merging

namespace HomeGateway

/-! ## Fields without some of them -/

namespace Fields

variable {fs : Fields} {name : String}

/-- Take several fields away. -/
def eraseAll (names : List String) (fs : Fields) : Fields :=
  names.foldl (fun fs name => fs.erase name) fs

theorem get?_eraseAll (names : List String) (fs : Fields) (name : String) :
    (fs.eraseAll names).get? name = if name ∈ names then none else fs.get? name := by
  induction names generalizing fs with
  | nil => rfl
  | cons other names ih =>
    have step : (fs.eraseAll (other :: names)).get? name =
        if name ∈ names then none else (fs.erase other).get? name := ih (fs.erase other)
    rw [step]
    by_cases same : name = other
    · subst same
      simp [get?_erase_self]
    · simp [get?_erase_of_ne fs same, same]

theorem erase_eq_filter (name : String) (fs : Fields) :
    fs.erase name = fs.filter fun p => p.1 ≠ name := by
  induction fs with
  | nil => rfl
  | cons p fs ih => by_cases same : p.1 = name <;> simp [erase, same, ih]

theorem sorted_erase (h : fs.Sorted) (name : String) : (fs.erase name).Sorted := by
  rw [erase_eq_filter]
  exact h.filter _

theorem sorted_eraseAll (h : fs.Sorted) (names : List String) : (fs.eraseAll names).Sorted := by
  induction names generalizing fs with
  | nil => exact h
  | cons other names ih =>
    have rest : ((fs.erase other).eraseAll names).Sorted := ih (sorted_erase h other)
    exact rest

theorem mem_names : name ∈ fs.map Prod.fst ↔ (fs.get? name).isSome = true := by
  induction fs with
  | nil => simp [get?]
  | cons p fs ih =>
    by_cases same : p.1 = name
    · simp [get?, same]
    · rw [List.map_cons, List.mem_cons, ih, get?, if_neg same, or_iff_right (Ne.symm same)]

end Fields

namespace Device

namespace Thermostat

variable {o os : Fields} {name : String} {m : Mode}

/-! ## What the caller asks for -/

/-- The caller gave an attribute of the thermostat a value other than `null`. -/
def Asks (o : Fields) (attr : String) : Prop :=
  ∃ os v, o.get? "thermostat" = some (.obj os) ∧ Fields.get? attr os = some v ∧ v ≠ .null

theorem given_iff {attr : String} : given o attr = true ↔ Asks o attr := by
  unfold given Asks leaf?
  cases o.get? "thermostat" with
  | none => simp
  | some v =>
    cases v with
    | obj os =>
      cases found : Fields.get? attr os with
      | none => simp [Json.get?, found]
      | some w => cases w <;> simp [Json.get?, found, Json.isNull]
    | _ => simp [Json.get?]

instance (o : Fields) (attr : String) : Decidable (Asks o attr) :=
  decidable_of_iff _ given_iff

/-- The caller asks for a thermostat that heats. -/
abbrev Heats (o : Fields) : Prop :=
  Asks o "occupiedHeatingSetpoint"

/-- The caller asks for a thermostat that cools. -/
abbrev Cools (o : Fields) : Prop :=
  Asks o "occupiedCoolingSetpoint"

theorem ofOverrides?_eq_some (h : Mode.ofOverrides? o = some m) :
    (Heats o ↔ m ≠ .cooling) ∧ (Cools o ↔ m ≠ .heating) := by
  rw [Heats, Cools, ← given_iff, ← given_iff]
  unfold Mode.ofOverrides? at h
  split at h <;> cases h <;> simp [*]

theorem ofOverrides?_eq_none : Mode.ofOverrides? o = none ↔ ¬Heats o ∧ ¬Cools o := by
  rw [Heats, Cools, ← given_iff, ← given_iff]
  unfold Mode.ofOverrides?
  split <;> simp [*]

/-- What the caller asks for stands in an object. -/
theorem exists_given (h : Heats o ∨ Cools o) : ∃ os, o.get? "thermostat" = some (.obj os) := by
  rcases h with ⟨os, -, given, -⟩ | ⟨os, -, given, -⟩
  · exact ⟨os, given⟩
  · exact ⟨os, given⟩

/-! ## What a thermostat keeps -/

/-- The default attributes of a thermostat. -/
def standard : Fields :=
  ((DeviceType.thermostat.defaults.get? "thermostat").bind Json.fields?).getD []

theorem get?_defaults :
    DeviceType.thermostat.defaults.get? "thermostat" = some (.obj standard) := by
  have there : ((DeviceType.thermostat.defaults.get? "thermostat").bind Json.fields?).isSome := by
    decide +kernel
  obtain ⟨fs, found⟩ := Option.isSome_iff_exists.1 there
  obtain ⟨v, value, fields⟩ := Option.bind_eq_some_iff.1 found
  rw [standard, found, value]
  cases v <;> cases fields
  rfl

theorem sorted_standard : standard.Sorted := by
  unfold Fields.Sorted
  decide +kernel

/-- No default attribute is an object, so the caller's value replaces it. -/
theorem choose_standard {d : Json} (h : standard.get? name = some d) (v : Option Json) :
    choose d v = v.getD d := by
  have table : ∀ p ∈ standard, p.2.fields?.isNone := by decide +kernel
  cases v with
  | none => exact choose_none d
  | some w => exact choose_other (.inl (Option.isNone_iff_eq_none.1 (table _ (Fields.mem_of_get? h))))

/-- A thermostat that heats or cools, or does both, keeps an attribute. -/
def Keeps (heats cools : Prop) (name : String) : Prop :=
  (name ∈ heatingAttributes → heats) ∧ (name ∈ coolingAttributes → cools) ∧
    (name = "minSetpointDeadBand" → heats ∧ cools)

theorem mem_dropped (m : Mode) (name : String) :
    name ∈ m.dropped ↔ ¬Keeps (m ≠ .cooling) (m ≠ .heating) name := by
  cases m <;> simp [Mode.dropped, Keeps] <;> tauto

/-- The attributes of a thermostat that does what the caller asks for. -/
structure Fitted (o attrs : Fields) : Prop where
  /-- no attribute comes twice -/
  once : (attrs.map Prod.fst).Nodup
  /-- which attributes there are -/
  names : ∀ name, name ∈ attrs.map Prod.fst ↔
    name = "controlSequenceOfOperation" ∨
      name ∈ standard.map Prod.fst ∧ Keeps (Heats o) (Cools o) name
  /-- how it operates -/
  sequence : attrs.get? "controlSequenceOfOperation" =
    some (.ofNat (if Heats o then if Cools o then 4 else 2 else 0))
  /-- the caller's values, and the defaults where there is none -/
  values : ∀ name d, standard.get? name = some d → Keeps (Heats o) (Cools o) name →
    attrs.get? name = some ((leaf? o "thermostat" name).getD d)

/-- What the caller asks a thermostat to do, as the features of its cluster. -/
def abilities (o : Fields) : List Feature :=
  ((if Heats o then ["Heating"] else []) ++ (if Cools o then ["Cooling"] else []) ++
    (if Heats o ∧ Cools o then ["AutoMode"] else [])).map (Feature.mk "thermostat")

/-! ## The merged attributes, fitted -/

theorem get?_fit (m : Mode) (attrs : Fields) (name : String) :
    (m.fit attrs).get? name =
      if name = "controlSequenceOfOperation" then some (.ofNat m.sequence)
      else if name ∈ m.dropped then none else attrs.get? name := by
  have fit : m.fit attrs =
      (attrs.eraseAll m.dropped).insert "controlSequenceOfOperation" (.ofNat m.sequence) := rfl
  rw [fit]
  split
  · rename_i same
    rw [same, Fields.get?_insert_self]
  · rename_i other
    rw [Fields.get?_insert_of_ne _ _ other, Fields.get?_eraseAll]

/-- A mode fits the merged attributes to what the caller asked for. -/
theorem fitted_fit (mode : Mode.ofOverrides? o = some m)
    (given : o.get? "thermostat" = some (.obj os)) : Fitted o (m.fit (merge standard os)) := by
  obtain ⟨heats, cools⟩ := ofOverrides?_eq_some mode
  have kept (name : String) : name ∉ m.dropped ↔ Keeps (Heats o) (Cools o) name := by
    rw [mem_dropped, not_not, heats, cools]
  have unlisted : standard.get? "controlSequenceOfOperation" = none :=
    Option.isNone_iff_eq_none.1 (by decide +kernel)
  refine ⟨?once, ?names, ?sequence, ?values⟩
  case once =>
    have names : ((merge standard os).map Prod.fst).Pairwise (· < ·) := by
      rw [keys_merge]
      exact List.pairwise_map.2 sorted_standard
    have sorted : Fields.Sorted (merge standard os) := List.pairwise_map.1 names
    exact (Fields.sorted_insert (Fields.sorted_eraseAll sorted _) _ _).names
  case names =>
    intro name
    rw [Fields.mem_names, get?_fit, ← keys_merge _ os, Fields.mem_names, ← kept]
    by_cases first : name = "controlSequenceOfOperation"
    · simp [first]
    · by_cases gone : name ∈ m.dropped <;> simp [first, gone]
  case sequence =>
    rw [get?_fit, if_pos rfl]
    cases m <;> simp_all [Mode.sequence]
  case values =>
    intro name d default keeps
    have other : name ≠ "controlSequenceOfOperation" := by
      rintro rfl
      rw [unlisted] at default
      cases default
    rw [get?_fit, if_neg other, if_neg ((kept name).2 keeps), get?_merge, default, Option.map_some,
      choose_standard default, leaf?, given]
    rfl

/-- What the caller asks for is done, and only the cluster of the thermostat is fitted to it. -/
theorem configureIn_asked (asked : Heats o ∨ Cools o) :
    let merged : Fields := merge DeviceType.thermostat.defaults o
    ∃ attrs tree, configureIn .thermostat o merged = (.ok (abilities o), tree) ∧
      tree.get? "thermostat" = some (.obj attrs) ∧ Fitted o attrs ∧
      ∀ cluster ≠ "thermostat", tree.get? cluster = merged.get? cluster := by
  intro merged
  obtain ⟨os, given⟩ := exists_given asked
  cases mode : Mode.ofOverrides? o with
  | none => exact absurd asked (not_or.2 (ofOverrides?_eq_none.1 mode))
  | some m =>
    have cluster : merged.get? "thermostat" = some (.obj (merge standard os)) := by
      rw [get?_merge, get?_defaults, Option.map_some, given, choose_obj]
    have features : m.features.map (Feature.mk "thermostat") = abilities o := by
      obtain ⟨heats, cools⟩ := ofOverrides?_eq_some mode
      cases m <;> simp_all [Mode.features, abilities]
    refine ⟨m.fit (merge standard os), m.fitTree merged, ?_, ?_, fitted_fit mode given, ?_⟩
    · simp only [configureIn, configure, mode, features]
    · rw [Mode.fitTree, cluster, Fields.get?_insert_self]
    · intro name other
      rw [Mode.fitTree, cluster, Fields.get?_insert_of_ne _ _ other]

/-- **What becomes of a thermostat.**  It cannot be made, and its merged attributes stay, if its
    caller gave it nothing to heat to and nothing to cool to.  Otherwise its cluster is fitted to
    what the caller asked for, and the other clusters stay. -/
theorem configureIn_thermostat (o : Fields) :
    let merged : Fields := merge DeviceType.thermostat.defaults o
    (configureIn .thermostat o merged = (.error .thermostatConfiguration, merged) ↔
        ¬Heats o ∧ ¬Cools o) ∧
      (Heats o ∨ Cools o → ∃ attrs tree,
        configureIn .thermostat o merged = (.ok (abilities o), tree) ∧
          tree.get? "thermostat" = some (.obj attrs) ∧ Fitted o attrs ∧
          ∀ cluster ≠ "thermostat", tree.get? cluster = merged.get? cluster) := by
  intro merged
  refine ⟨⟨fun failed => not_or.1 fun asked => ?_, fun nothing => ?_⟩, configureIn_asked⟩
  · obtain ⟨attrs, tree, made, -⟩ := configureIn_asked asked
    rw [failed] at made
    cases made
  · simp only [configureIn, configure, ofOverrides?_eq_none.2 nothing]

/-- A thermostat that heats: nothing to cool to, no upper limit, and two attributes of which one is
    its own affair and the other unknown. -/
def radiator : Fields :=
  [ ("fan", .obj [("fanMode", .int 1)]),
    ("thermostat", .obj
      [ ("controlSequenceOfOperation", .int 9), ("maxHeatSetpointLimit", .null),
        ("occupiedCoolingSetpoint", .null), ("occupiedHeatingSetpoint", .int 2000),
        ("valvePosition", .int 50) ]) ]

theorem configureIn_thermostat_radiator :
    (Heats radiator ∨ Cools radiator) ∧ ∃ attrs tree : Fields,
      configureIn .thermostat radiator (merge DeviceType.thermostat.defaults radiator) =
          (.ok [⟨"thermostat", "Heating"⟩], tree) ∧
        tree.get? "thermostat" = some (.obj attrs) ∧
        attrs.get? "controlSequenceOfOperation" = some (.ofNat 2) ∧
        attrs.get? "maxHeatSetpointLimit" = some .null ∧
        "occupiedCoolingSetpoint" ∉ attrs.map Prod.fst ∧ "valvePosition" ∉ attrs.map Prod.fst := by
  have heats : Heats radiator := by decide +kernel
  have rests : ¬Cools radiator := by decide +kernel
  obtain ⟨d, default⟩ : ∃ d, standard.get? "maxHeatSetpointLimit" = some d :=
    Option.isSome_iff_exists.1 (by decide +kernel)
  obtain ⟨attrs, tree, made, there, fitted, -⟩ :=
    (configureIn_thermostat radiator).2 (.inl heats)
  have features : abilities radiator = [⟨"thermostat", "Heating"⟩] := by
    simp [abilities, heats, rests]
  refine ⟨.inl heats, attrs, tree, features ▸ made, there, ?_, ?_, ?_, ?_⟩
  · rw [fitted.sequence, if_pos heats, if_neg rests]
  · exact fitted.values _ d default
      ⟨fun _ => heats, fun cold => absurd cold (by decide), fun band => absurd band (by decide)⟩
  · intro there
    rcases (fitted.names _).1 there with same | ⟨-, keeps⟩
    · exact absurd same (by decide)
    · exact rests (keeps.2.1 (by decide))
  · intro there
    rcases (fitted.names _).1 there with same | ⟨known, -⟩
    · exact absurd same (by decide)
    · exact absurd known (by decide +kernel)

end Thermostat

end Device

end HomeGateway
