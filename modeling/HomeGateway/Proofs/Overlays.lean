/-
  Laws of laying values over one another.

  Of two objects, each name goes by one rule: `null` above counts as nothing,
  what only one side has stays as it is, with every `null` inside it, and what
  both have is laid over in turn.  A value that is laid over once more finds
  itself below, or what it made of the value there, and changes nothing.

  * `Joins`: the fields of two objects, name by name;
  * `layFieldsOver_eq_self`: when fields change nothing;
  * `overlay_self`, `overlay_overlay`: values that are laid over again;
  * `overlay_laws`: what comes of any two values.
-/
import HomeGateway.Proofs.Arrangements
import HomeGateway.Proofs.Layers

namespace HomeGateway.Json

open HomeGateway

variable {t s v w : Json} {below above joined : Fields}

theorem isNull_iff : v.isNull = true ↔ v = .null := by
  cases v <;> simp [isNull]

theorem fields?_eq_some {fs : Fields} : v.fields? = some fs ↔ v = .obj fs := by
  cases v <;> simp [fields?]

/-- Unless both values are objects, the one above is taken. -/
theorem overlay_other (other : t.fields? = none ∨ s.fields? = none) : overlay t s = s := by
  rcases other with h | h
  · cases t <;> cases s <;> simp [overlay, layOver, fields?] at h ⊢
  · cases s <;> simp [overlay, layOver, fields?] at h ⊢

theorem overlay_obj (below above : Fields) :
    overlay (.obj below) (.obj above) = .obj (layFieldsOver above below) := by
  simp [overlay, layOver]

/-! ## Two objects -/

/-- The fields of an object over those of another. -/
structure Joins (below above joined : Fields) : Prop where
  /-- they are in order, each name once -/
  sorted : joined.Sorted
  /-- no name below is lost -/
  kept : ∀ k, below.has k = true → joined.has k = true
  /-- a name that is missing above, or is `null` there, is as it is below -/
  passed : ∀ k, above.get? k = none ∨ above.get? k = some .null → joined.get? k = below.get? k
  /-- a name that only the object above has is as it is there -/
  added : ∀ k v, above.get? k = some v → v ≠ .null → below.get? k = none →
    joined.get? k = some v
  /-- a name that both have holds the one value over the other -/
  merged : ∀ k v w, above.get? k = some v → v ≠ .null → below.get? k = some w →
    joined.get? k = some (overlay w v)

theorem get?_layFieldsOver_null (sorted : above.Sorted) {k : String}
    (passed : above.get? k = none ∨ above.get? k = some .null) :
    (layFieldsOver above below).get? k = below.get? k := by
  rw [get?_layFieldsOver sorted]
  rcases passed with h | h <;> simp [h, isNull]

theorem get?_layFieldsOver_some (sorted : above.Sorted) {k : String}
    (h : above.get? k = some v) (hn : v ≠ .null) :
    (layFieldsOver above below).get? k =
      some (match below.get? k with
        | none => v
        | some w => overlay w v) := by
  have full : v.isNull = false := Bool.eq_false_iff.2 fun null => hn (isNull_iff.1 null)
  rw [get?_layFieldsOver sorted, h]
  simp only [full, Bool.false_eq_true, if_false]
  rfl

theorem joins_layFieldsOver (hb : below.Sorted) (ha : above.Sorted) :
    Joins below above (layFieldsOver above below) where
  sorted := sorted_layFieldsOver hb
  kept := by
    intro k there
    unfold Fields.has at there ⊢
    rw [get?_layFieldsOver ha]
    split
    · exact there
    · split
      · exact there
      · rfl
  passed k := get?_layFieldsOver_null ha
  added k v h hn absent := by rw [get?_layFieldsOver_some ha h hn, absent]
  merged k v w h hn present := by rw [get?_layFieldsOver_some ha h hn, present]

/-- The rule leaves no choice. -/
theorem Joins.unique {joined' : Fields} (h : Joins below above joined)
    (h' : Joins below above joined') : joined' = joined := by
  refine Fields.ext h'.sorted h.sorted fun k => ?_
  by_cases passed : above.get? k = none ∨ above.get? k = some .null
  · rw [h'.passed k passed, h.passed k passed]
  · obtain ⟨absent, null⟩ := not_or.1 passed
    obtain ⟨v, hv⟩ := Option.ne_none_iff_exists'.1 absent
    have hn : v ≠ .null := fun same => null (same ▸ hv)
    cases hw : below.get? k with
    | none => rw [h'.added k v hv hn hw, h.added k v hv hn hw]
    | some w => rw [h'.merged k v w hv hn hw, h.merged k v w hv hn hw]

/-! ## Once more -/

/-- Fields change nothing if each that is not `null` finds a value that it does not change. -/
theorem layFieldsOver_eq_self (hb : below.Sorted) (ha : above.Sorted)
    (own : ∀ k v, above.get? k = some v → v ≠ .null →
      ∃ w, below.get? k = some w ∧ overlay w v = w) : layFieldsOver above below = below := by
  have joins : Joins below above below := by
    refine ⟨hb, fun _ => id, fun _ _ => rfl, fun k v hv hn absent => ?_,
      fun k v w hv hn present => ?_⟩
    · obtain ⟨w, present, -⟩ := own k v hv hn
      cases absent.symm.trans present
    · obtain ⟨w', present', same⟩ := own k v hv hn
      cases present.symm.trans present'
      exact present.trans (congrArg some same.symm)
  exact joins.unique (joins_layFieldsOver hb ha)

/-- A value over itself: here a `null` is what is below, too. -/
theorem overlay_self (h : v.Ordered) : overlay v v = v := by
  induction h with
  | null | bool | int | float | str | arr => exact overlay_other (.inl rfl)
  | @obj fs sorted _ ih =>
    have own : ∀ k v, fs.get? k = some v → v ≠ .null →
        ∃ w, fs.get? k = some w ∧ overlay w v = w :=
      fun k v hv _ => ⟨v, hv, ih _ (Fields.mem_of_get? hv)⟩
    rw [overlay_obj, layFieldsOver_eq_self sorted sorted own]

/-- A value that is laid over for the second time changes nothing. -/
theorem overlay_overlay (ht : t.Ordered) (hs : s.Ordered) :
    overlay (overlay t s) s = overlay t s := by
  induction hs generalizing t with
  | null | bool | int | float | str | arr => rw [overlay_other (.inr rfl), overlay_other (.inr rfl)]
  | @obj above ha each ih =>
    cases isObject : t.fields? with
    | none => rw [overlay_other (.inl isObject), overlay_self (.obj ha each)]
    | some below =>
      obtain rfl := fields?_eq_some.1 isObject
      rw [overlay_obj, overlay_obj]
      refine congrArg Json.obj
        (layFieldsOver_eq_self (sorted_layFieldsOver ht.sorted) ha ?_)
      -- Below is now what the first time made: the value above, or the one over what was there.
      intro k v hv hn
      have above := each _ (Fields.mem_of_get? hv)
      refine ⟨_, get?_layFieldsOver_some ha hv hn, ?_⟩
      cases hw : below.get? k with
      | none => exact overlay_self above
      | some w => exact ih _ (Fields.mem_of_get? hv) (ht.get? hw)

/-- **Laying one value over another.**  Whatever the values are, to lay the same one over the result
    changes nothing. Two objects give the one object that goes name by name; of any other two
    values the one above is taken, also if it is `null`. -/
theorem overlay_laws (ht : t.Ordered) (hs : s.Ordered) :
    overlay (overlay t s) s = overlay t s ∧
      (t.fields? = none ∨ s.fields? = none → overlay t s = s) ∧
      ∀ below above, t.fields? = some below → s.fields? = some above →
        ∃ joined, overlay t s = .obj joined ∧ ∀ fs, Joins below above fs ↔ fs = joined := by
  refine ⟨overlay_overlay ht hs, overlay_other, fun below above isObject isObject' => ?_⟩
  obtain rfl := fields?_eq_some.1 isObject
  obtain rfl := fields?_eq_some.1 isObject'
  have joins := joins_layFieldsOver ht.sorted hs.sorted
  exact ⟨_, overlay_obj below above, fun fs => ⟨joins.unique, fun same => same ▸ joins⟩⟩

/-- Settings that come with a gateway. -/
def shipped : Fields :=
  [("bridge", .obj [("window", .int 250)]), ("logging", .null), ("port", .int 5540)]

/-- Settings of one home, with a `null` over a number, over a `null`, and where nothing is below. -/
def ofHome : Fields :=
  [("bridge", .obj [("labels", .obj [("size", .null)]), ("window", .null)]),
    ("logging", .obj [("level", .null)]), ("port", .null)]

/-- The settings of the home over those that came with the gateway. -/
def combined : Fields :=
  [("bridge", .obj [("labels", .obj [("size", .null)]), ("window", .int 250)]),
    ("logging", .obj [("level", .null)]), ("port", .int 5540)]

/-- The home's settings count once, however often they are laid over; `null` alone takes the place
    of all settings. -/
theorem overlay_laws_combined :
    (Json.obj shipped).Ordered ∧ (Json.obj ofHome).Ordered ∧ Joins shipped ofHome combined ∧
      overlay (overlay (.obj shipped) (.obj ofHome)) (.obj ofHome) = .obj combined ∧
      overlay (.obj shipped) .null = .null := by
  have single {k : String} {v : Json} (hv : v.Ordered) : (Json.obj [(k, v)]).Ordered :=
    .obj (.single _) (List.forall_mem_singleton.2 hv)
  have below : (Json.obj shipped).Ordered :=
    .obj (.cons (by decide) (.cons (by decide) (.single _)))
      (by simpa [shipped] using ⟨single (.int 250), .null, .int 5540⟩)
  have bridge : (Json.obj [("labels", .obj [("size", .null)]), ("window", .null)]).Ordered :=
    .obj (.cons (by decide) (.single _)) (by simpa using ⟨single .null, .null⟩)
  have above : (Json.obj ofHome).Ordered :=
    .obj (.cons (by decide) (.cons (by decide) (.single _)))
      (by simpa [ofHome] using ⟨bridge, single .null, .null⟩)
  have laid : overlay (.obj shipped) (.obj ofHome) = .obj combined := rfl
  obtain ⟨again, -, objects⟩ := overlay_laws below above
  obtain ⟨joined, laid', joins⟩ := objects _ _ rfl rfl
  exact ⟨below, above, (joins _).2 (Json.obj.inj (laid.symm.trans laid')), again.trans laid,
    (overlay_laws below .null).2.1 (.inr rfl)⟩

end HomeGateway.Json
