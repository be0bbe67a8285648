/-
  Slips in a typed pairing code.

  The ten elements that digits stand for are a group, and a row that ends in
  its check digit has the product zero.  A wrong digit changes one factor of
  the product, so it is always found.  Two neighbours that change places are
  found unless both orders give the same product; this happens to six pairs of
  digits, in two places of a code.

  * `product_eq_times`, `product_append`: the product of a row, taken apart;
  * `checkDigit_eq_iff`: the check digit makes the product zero;
  * `eq_of_product_wrong`, `product_swapped_iff`: what changes the product;
  * `decodeManual?_slip`: the slips with which a code is refused.
-/
import HomeGateway.Proofs.PairingCodes

namespace HomeGateway.Pairing

open Text

/-! ## The group -/

namespace CheckDigit

/-- A row of digits. -/
abbrev Digits (ds : List Nat) : Prop :=
  ∀ d ∈ ds, d < 10

theorem times_lt {a b : Nat} (ha : a < 10) (hb : b < 10) : times a b < 10 := by
  have all : ∀ a < 10, ∀ b < 10, times a b < 10 := by decide
  exact all a ha b hb

theorem zero_times {a : Nat} (ha : a < 10) : times 0 a = a := by
  have all : ∀ a < 10, times 0 a = a := by decide
  exact all a ha

theorem times_assoc {a b c : Nat} (ha : a < 10) (hb : b < 10) (hc : c < 10) :
    times (times a b) c = times a (times b c) := by
  have all : ∀ a < 10, ∀ b < 10, ∀ c < 10, times (times a b) c = times a (times b c) := by
    decide +kernel
  exact all a ha b hb c hc

theorem times_left_cancel {a b c : Nat} (ha : a < 10) (hb : b < 10) (hc : c < 10)
    (h : times a b = times a c) : b = c := by
  have all : ∀ a < 10, ∀ b < 10, ∀ c < 10, times a b = times a c → b = c := by decide +kernel
  exact all a ha b hb c hc h

theorem times_right_cancel {a b c : Nat} (ha : a < 10) (hb : b < 10) (hc : c < 10)
    (h : times a c = times b c) : a = b := by
  have all : ∀ a < 10, ∀ b < 10, ∀ c < 10, times a c = times b c → a = b := by decide +kernel
  exact all a ha b hb c hc h

theorem inverse_eq_iff {a d : Nat} (ha : a < 10) (hd : d < 10) :
    inverses.getD a 0 = d ↔ times d a = 0 := by
  have all : ∀ a < 10, ∀ d < 10, inverses.getD a 0 = d ↔ times d a = 0 := by decide +kernel
  exact all a ha d hd

/-! ## The permutations -/

theorem permute_mod (position d : Nat) : permute (position % 8) d = permute position d := by
  rw [permute, permute, Nat.mod_mod]

theorem permute_zero {d : Nat} (hd : d < 10) : permute 0 d = d := by
  have all : ∀ d < 10, permute 0 d = d := by decide
  exact all d hd

theorem permute_lt (position : Nat) {d : Nat} (hd : d < 10) : permute position d < 10 := by
  have all : ∀ p < 8, ∀ d < 10, permute p d < 10 := by decide
  exact permute_mod position d ▸ all _ (Nat.mod_lt _ (by decide)) d hd

theorem permute_injective (position : Nat) {c d : Nat} (hc : c < 10) (hd : d < 10)
    (h : permute position c = permute position d) : c = d := by
  have all : ∀ p < 8, ∀ c < 10, ∀ d < 10, permute p c = permute p d → c = d := by decide +kernel
  rw [← permute_mod position c, ← permute_mod position d] at h
  exact all _ (Nat.mod_lt _ (by decide)) c hc d hd h

/-- Two different digits that count the same in either order: the place of the right one, counted
    from the right, and the digits. -/
def blindSpots : List (Nat × Nat × Nat) :=
  [(3, 1, 6), (3, 1, 8), (3, 2, 6), (4, 0, 8), (4, 3, 6), (4, 5, 6)]

/-- Two digits that may change places unnoticed, the right one in this place from the right. -/
def Confusable (place c d : Nat) : Prop :=
  (place, c, d) ∈ blindSpots ∨ (place, d, c) ∈ blindSpots

instance (place c d : Nat) : Decidable (Confusable place c d) :=
  inferInstanceAs (Decidable (_ ∨ _))

/-- Within the length of a code, the blind spots are all there are. -/
theorem permute_swapped_iff {place c d : Nat} (hplace : place < 10) (hc : c < 10) (hd : d < 10)
    (other : c ≠ d) :
    times (permute place c) (permute (place + 1) d) =
      times (permute place d) (permute (place + 1) c) ↔ Confusable place c d := by
  have all : ∀ p < 10, ∀ c < 10, ∀ d < 10, c ≠ d →
      (times (permute p c) (permute (p + 1) d) = times (permute p d) (permute (p + 1) c) ↔
        Confusable p c d) := by
    decide +kernel
  exact all place hplace c hc d hd other

/-! ## The product of a row -/

theorem product_lt {ds : List Nat} (digits : Digits ds) {acc : Nat} (hacc : acc < 10)
    (position : Nat) : product acc position ds < 10 := by
  induction ds generalizing acc position with
  | nil => exact hacc
  | cons d ds ih =>
    obtain ⟨hd, later⟩ := List.forall_mem_cons.1 digits
    exact ih later (times_lt hacc (permute_lt position hd)) (position + 1)

theorem product_eq_times {ds : List Nat} (digits : Digits ds) {acc : Nat} (hacc : acc < 10)
    (position : Nat) : product acc position ds = times acc (product 0 position ds) := by
  induction ds generalizing acc position with
  | nil =>
    have all : ∀ a < 10, a = times a 0 := by decide
    exact all acc hacc
  | cons d ds ih =>
    obtain ⟨hd, later⟩ := List.forall_mem_cons.1 digits
    have hp := permute_lt position hd
    rw [product, product, ih later (times_lt hacc hp), zero_times hp, ih later hp,
      times_assoc hacc hp (product_lt later (by decide) _)]

theorem product_append (acc position : Nat) (xs ys : List Nat) :
    product acc position (xs ++ ys) =
      product (product acc position xs) (position + xs.length) ys := by
  induction xs generalizing acc position with
  | nil => rfl
  | cons x xs ih =>
    rw [List.cons_append, product, ih, product, List.length_cons, Nat.add_assoc,
      Nat.add_comm 1 xs.length]

/-- What went before can be told from the product. -/
theorem eq_of_product_eq {ds : List Nat} (digits : Digits ds) {a b : Nat} (ha : a < 10)
    (hb : b < 10) {position : Nat} (h : product a position ds = product b position ds) : a = b := by
  rw [product_eq_times digits ha, product_eq_times digits hb] at h
  exact times_right_cancel ha hb (product_lt digits (by decide) _) h

section

variable {xs ys : List Nat} {c d acc position : Nat}

/-- Another digit in one place gives another product. -/
theorem eq_of_product_wrong (hx : Digits xs) (hc : c < 10) (hd : d < 10) (hy : Digits ys)
    (hacc : acc < 10)
    (h : product acc position (xs ++ c :: ys) = product acc position (xs ++ d :: ys)) : c = d := by
  rw [product_append, product_append, product, product] at h
  have hp := product_lt hx hacc position
  have factor :=
    eq_of_product_eq hy (times_lt hp (permute_lt _ hc)) (times_lt hp (permute_lt _ hd)) h
  exact permute_injective _ hc hd (times_left_cancel hp (permute_lt _ hc) (permute_lt _ hd) factor)

/-- Two neighbours the other way round give the same product only if they count the same. -/
theorem product_swapped_iff (hx : Digits xs) (hc : c < 10) (hd : d < 10) (hy : Digits ys)
    (hacc : acc < 10) (position : Nat) :
    product acc position (xs ++ c :: d :: ys) = product acc position (xs ++ d :: c :: ys) ↔
      times (permute (position + xs.length) c) (permute (position + xs.length + 1) d) =
        times (permute (position + xs.length) d) (permute (position + xs.length + 1) c) := by
  have hp := product_lt hx hacc position
  rw [product_append, product_append]
  generalize position + xs.length = place
  have hcd := times_lt (permute_lt place hc) (permute_lt (place + 1) hd)
  have hdc := times_lt (permute_lt place hd) (permute_lt (place + 1) hc)
  simp only [product]
  rw [times_assoc hp (permute_lt _ hc) (permute_lt _ hd),
    times_assoc hp (permute_lt _ hd) (permute_lt _ hc)]
  constructor
  · intro h
    exact times_left_cancel hp hcd hdc (eq_of_product_eq hy (times_lt hp hcd) (times_lt hp hdc) h)
  · intro h
    rw [h]

end

/-- A row whose product, the rightmost digit first, is zero. -/
def Balanced (ds : List Nat) : Prop :=
  product 0 0 ds.reverse = 0

/-- The check digit is the digit that makes the product zero. -/
theorem checkDigit_eq_iff {ds : List Nat} (digits : Digits ds) {k : Nat} (hk : k < 10) :
    checkDigit ds = k ↔ Balanced (ds ++ [k]) := by
  have row : Digits ds.reverse := fun d hd => digits d (List.mem_reverse.1 hd)
  have rest := product_lt row (by decide : 0 < 10) 1
  rw [checkDigit, inverse_eq_iff rest hk, Balanced, List.reverse_append, List.reverse_singleton,
    List.singleton_append, product, permute_zero hk, zero_times hk, product_eq_times row hk]

end CheckDigit

open CheckDigit

/-! ## Slips -/

/-- A row of digits typed with one slip. -/
inductive Slip : List Char → List Char → Prop where
  /-- one digit is another one -/
  | wrong (before after : List Char) {c d : Char} (digit : isDigit d = true) (other : d ≠ c) :
    Slip (before ++ c :: after) (before ++ d :: after)
  /-- two different neighbours have changed places -/
  | swapped (before after : List Char) {c d : Char} (other : d ≠ c) :
    Slip (before ++ c :: d :: after) (before ++ d :: c :: after)

theorem digitValue_injective {c d : Char} (hc : isDigit c = true) (hd : isDigit d = true)
    (h : digitValue c = digitValue d) : c = d := by
  rw [isDigit_iff] at hc hd
  have hc' : digitValue c = c.toNat - 48 := rfl
  have hd' : digitValue d = d.toNat - 48 := rfl
  have same : c.toNat = d.toNat := by omega
  exact Char.ext (UInt32.toNat_inj.1 same)

/-- After a slip there are digits still. -/
theorem Slip.digits {cs ds : List Char} (slip : Slip cs ds) (all : ∀ c ∈ cs, isDigit c = true) :
    ∀ d ∈ ds, isDigit d = true := by
  cases slip with
  | wrong before after digit other =>
    rw [List.forall_mem_append, List.forall_mem_cons] at all ⊢
    exact ⟨all.1, digit, all.2.2⟩
  | swapped before after other =>
    rw [List.forall_mem_append, List.forall_mem_cons, List.forall_mem_cons] at all ⊢
    exact ⟨all.1, all.2.2.1, all.2.1, all.2.2.2⟩

theorem digits_map_digitValue {cs : List Char} (all : ∀ c ∈ cs, isDigit c = true) :
    Digits (cs.map digitValue) := by
  intro d hd
  obtain ⟨c, hc, rfl⟩ := List.mem_map.1 hd
  exact digitValue_lt (all c hc)

/-- A slip that is not seen: two neighbours in a blind spot. -/
inductive Unseen : List Char → List Char → Prop where
  /-- they have changed places -/
  | swapped (before after : List Char) {c d : Char}
    (blind : Confusable after.length (digitValue d) (digitValue c)) :
    Unseen (before ++ c :: d :: after) (before ++ d :: c :: after)

theorem Slip.length_eq {cs ds : List Char} (slip : Slip cs ds) : ds.length = cs.length := by
  cases slip <;> simp

section

variable {before after : List Char} {c d : Char}

/-- The product runs from right to left, so what comes after a slip is multiplied first. -/
theorem digits_reverse {cs : List Char} (all : ∀ c ∈ cs, isDigit c = true) :
    Digits (cs.map digitValue).reverse :=
  fun d hd => digits_map_digitValue all d (List.mem_reverse.1 hd)

/-- A row with a wrong digit is not balanced. -/
theorem not_balanced_wrong (all : ∀ x ∈ before ++ c :: after, isDigit x = true)
    (digit : isDigit d = true) (other : d ≠ c)
    (balanced : Balanced ((before ++ c :: after).map digitValue)) :
    ¬Balanced ((before ++ d :: after).map digitValue) := by
  intro slipped
  have same := balanced.trans slipped.symm
  rw [List.forall_mem_append, List.forall_mem_cons] at all
  obtain ⟨first, hc, last⟩ := all
  simp only [List.map_append, List.map_cons, List.reverse_append, List.reverse_cons,
    List.append_assoc, List.singleton_append] at same
  have value := eq_of_product_wrong (digits_reverse last) (digitValue_lt hc) (digitValue_lt digit)
    (digits_reverse first) (by decide) same
  exact other (digitValue_injective digit hc value.symm)

/-- A row with two neighbours the other way round is balanced only if they are in a blind spot. -/
theorem balanced_swapped_iff (all : ∀ x ∈ before ++ c :: d :: after, isDigit x = true)
    (short : after.length < 10) (other : d ≠ c)
    (balanced : Balanced ((before ++ c :: d :: after).map digitValue)) :
    Balanced ((before ++ d :: c :: after).map digitValue) ↔
      Confusable after.length (digitValue d) (digitValue c) := by
  rw [List.forall_mem_append, List.forall_mem_cons, List.forall_mem_cons] at all
  obtain ⟨first, hc, hd, last⟩ := all
  have apart : digitValue d ≠ digitValue c := fun h => other (digitValue_injective hd hc h)
  have products := product_swapped_iff (digits_reverse last) (digitValue_lt hd)
    (digitValue_lt hc) (digits_reverse first) (by decide : 0 < 10) 0
  rw [List.length_reverse, List.length_map, Nat.zero_add,
    permute_swapped_iff short (digitValue_lt hd) (digitValue_lt hc) apart] at products
  unfold CheckDigit.Balanced at balanced ⊢
  simp only [List.map_append, List.map_cons, List.reverse_append, List.reverse_cons,
    List.append_assoc, List.cons_append, List.nil_append] at balanced ⊢
  rw [← products, balanced, eq_comm]

end

/-! ## Codes -/

theorem balanced_allDigits (passcode discriminator : Nat) :
    Balanced (allDigits passcode discriminator) :=
  (checkDigit_eq_iff (manualDigits_lt passcode discriminator) (checkDigit_lt _)).1 rfl

/-- A row of digits is read as a code if there are eleven of them and they are balanced. -/
theorem decodeManual?_eq_none_iff {text : String} (all : ∀ c ∈ text.toList, isDigit c = true)
    (length : text.toList.length = 11) :
    decodeManual? text = none ↔ ¬Balanced (text.toList.map digitValue) := by
  have digits := digits_map_digitValue all
  have eleven : (text.toList.map digitValue).length = 11 := (List.length_map _).trans length
  unfold decodeManual?
  rw [List.filter_eq_self.2 all]
  generalize text.toList.map digitValue = row at digits eleven
  obtain ⟨ten, k, rfl⟩ :=
    (List.eq_nil_or_concat row).resolve_left (by rintro rfl; cases eleven)
  simp only [List.concat_eq_append, List.length_append, List.length_singleton] at eleven digits ⊢
  have first : Digits ten := fun d hd => digits d (List.mem_append_left _ hd)
  have last : k < 10 := digits k (List.mem_append_right _ List.mem_cons_self)
  rw [← checkDigit_eq_iff first last, List.take_left' (by omega), List.getLast?_concat]
  simp only [ite_eq_right_iff, reduceCtorEq, imp_false, not_and, Option.some.injEq]
  exact ⟨fun h same => h (by omega) same.symm, fun h _ same => h same.symm⟩

/-- A manual code with one wrong digit, or with two different neighbours the other way round, is no
    manual code, unless it is two neighbours in a blind spot.  The check digit may be among them. -/
theorem decodeManual?_slip {passcode discriminator : Nat} {text : String}
    (slip : Slip (manualCode passcode discriminator).toList text.toList) :
    decodeManual? text = none ↔
      ¬Unseen (manualCode passcode discriminator).toList text.toList := by
  have code : ∀ c ∈ (manualCode passcode discriminator).toList, isDigit c = true :=
    fun c => isDigit_of_mem_manualCode passcode discriminator
  have balanced := balanced_allDigits passcode discriminator
  have length : (manualCode passcode discriminator).toList.length = 11 := by
    rw [toList_manualCode, List.length_map, allDigits, List.length_append, length_manualDigits,
      List.length_singleton]
  rw [← values_manualCode] at balanced
  rw [decodeManual?_eq_none_iff (slip.digits code) (slip.length_eq.trans length), not_iff_not]
  generalize (manualCode passcode discriminator).toList = cs at slip code balanced length
  generalize text.toList = ds at slip
  constructor
  · intro slipped
    cases slip with
    | wrong before after digit other =>
      exact absurd slipped (not_balanced_wrong code digit other balanced)
    | swapped before after other =>
      have short : after.length < 10 := by
        simp only [List.length_append, List.length_cons] at length
        omega
      exact .swapped before after ((balanced_swapped_iff code short other balanced).1 slipped)
  · rintro ⟨before, after, blind⟩
    have short : after.length < 10 := by
      simp only [List.length_append, List.length_cons] at length
      omega
    have other : ∀ {c d : Char}, Confusable after.length (digitValue d) (digitValue c) → d ≠ c := by
      rintro c d blind rfl
      have apart : ∀ spot ∈ blindSpots, spot.2.1 ≠ spot.2.2 := by decide
      rcases blind with spot | spot <;> exact apart _ spot rfl
    exact (balanced_swapped_iff code short (other blind) balanced).2 blind

/-- A wrong digit, and the check digit before its neighbour. -/
theorem decodeManual?_slip_reference :
    manualCode 20202021 3840 = "34970112332" ∧
      Slip "34970112332".toList "34970812332".toList ∧
      (decodeManual? "34970812332" = none ↔ ¬Unseen "34970112332".toList "34970812332".toList) ∧
      Slip "34970112332".toList "34970112323".toList ∧
      (decodeManual? "34970112323" = none ↔ ¬Unseen "34970112332".toList "34970112323".toList) ∧
      decodeManual? "34970812332" = none ∧ decodeManual? "34970112323" = none := by
  have code : manualCode 20202021 3840 = "34970112332" := by decide +kernel
  have wrong : Slip "34970112332".toList "34970812332".toList :=
    Slip.wrong ['3', '4', '9', '7', '0'] ['1', '2', '3', '3', '2'] (by decide) (by decide)
  have swapped : Slip "34970112332".toList "34970112323".toList :=
    Slip.swapped ['3', '4', '9', '7', '0', '1', '1', '2', '3'] [] (by decide)
  have first := decodeManual?_slip (code ▸ wrong)
  have second := decodeManual?_slip (code ▸ swapped)
  rw [code] at first second
  exact ⟨code, wrong, first, swapped, second, by decide +kernel, by decide +kernel⟩

/-- Two neighbours of a code change places, and it reads as the code of another device. -/
theorem decodeManual?_unseen :
    ¬∀ (passcode discriminator : Nat) (text : String),
        Slip (manualCode passcode discriminator).toList text.toList →
        decodeManual? text = none := by
  intro always
  have code : manualCode 26214401 3840 = "34915316007" := by decide +kernel
  have swapped : Slip "34915316007".toList "34915361007".toList :=
    Slip.swapped ['3', '4', '9', '1', '5', '3'] ['0', '0', '7'] (by decide)
  have refused := always 26214401 3840 "34915361007" (code ▸ swapped)
  revert refused
  decide +kernel

end HomeGateway.Pairing
