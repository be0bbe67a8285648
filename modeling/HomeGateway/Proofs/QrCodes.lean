/-
  What a QR code holds.

  A QR code is its mark and nineteen letters.  The letters, five at a time and
  four at the end, are the digits of a number each, and its bytes in turn; the
  eleven bytes together are one number, whose bits are the fields.  No step
  loses a bit, so the fields can be read back from the code, and two codes are
  the same only if their fields are.

  * `unpackFields` undoes `packFields`, if each field fits its width;
  * `ungroup_group`: bytes can be read back from their letters;
  * `Holds`: a text is a code with some fields;
  * `qrCode_holds`: the fields of a code, and when two codes are the same.
-/
import HomeGateway.Proofs.PairingCodes

namespace HomeGateway.Pairing

/-! ## Fields -/

/-- Fields of some widths, from the lowest bit of a number on. -/
def unpackFields : List Nat → Nat → List Nat
  | [], _ => []
  | width :: rest, n => n % 2 ^ width :: unpackFields rest (n / 2 ^ width)

theorem packFields_cons (value width : Nat) (rest : List (Nat × Nat)) :
    packFields ((value, width) :: rest) = value % 2 ^ width + 2 ^ width * packFields rest := rfl

theorem unpackFields_packFields (fields : List (Nat × Nat)) :
    unpackFields (fields.map (·.2)) (packFields fields) = fields.map fun f => f.1 % 2 ^ f.2 := by
  induction fields with
  | nil => rfl
  | cons f rest ih =>
    obtain ⟨value, width⟩ := f
    have pos : 0 < 2 ^ width := Nat.two_pow_pos width
    have low : value % 2 ^ width < 2 ^ width := Nat.mod_lt value pos
    rw [List.map_cons, List.map_cons, unpackFields, packFields_cons, Nat.add_mul_mod_self_left,
      Nat.mod_mod, Nat.add_mul_div_left _ _ pos, Nat.div_eq_of_lt low, Nat.zero_add, ih]

theorem packFields_lt (fields : List (Nat × Nat)) :
    packFields fields < 2 ^ (fields.map (·.2)).sum := by
  induction fields with
  | nil => decide
  | cons f rest ih =>
    obtain ⟨value, width⟩ := f
    have low : value % 2 ^ width < 2 ^ width := Nat.mod_lt value (Nat.two_pow_pos width)
    rw [packFields_cons, List.map_cons, List.sum_cons, Nat.pow_add]
    calc value % 2 ^ width + 2 ^ width * packFields rest
        < 2 ^ width * (packFields rest + 1) := by rw [Nat.mul_succ]; omega
      _ ≤ 2 ^ width * 2 ^ (rest.map (·.2)).sum := Nat.mul_le_mul_left _ ih

/-! ## Bytes -/

theorem ofBytes_cons (b : Nat) (bytes : List Nat) :
    ofBytes (b :: bytes) = b + 256 * ofBytes bytes := rfl

theorem bytesOf_succ (count n : Nat) :
    bytesOf (count + 1) n = n % 256 :: bytesOf count (n / 256) := by
  rw [bytesOf, List.range_succ_eq_map, List.map_cons, List.map_map]
  refine congrArg₂ List.cons (by rw [Nat.pow_eq, Nat.pow_zero, Nat.div_one]) ?_
  refine List.map_congr_left fun i _ => ?_
  rw [Function.comp_apply, Nat.pow_eq, Nat.pow_eq, Nat.pow_succ', Nat.div_div_eq_div_mul]

theorem length_bytesOf (count n : Nat) : (bytesOf count n).length = count := by
  rw [bytesOf, List.length_map, List.length_range]

theorem lt_of_mem_bytesOf {count n b : Nat} (h : b ∈ bytesOf count n) : b < 256 := by
  obtain ⟨i, -, rfl⟩ := List.mem_map.1 h
  exact Nat.mod_lt _ (by decide)

theorem ofBytes_bytesOf (count n : Nat) : ofBytes (bytesOf count n) = n % 256 ^ count := by
  induction count generalizing n with
  | zero => rw [Nat.pow_zero, Nat.mod_one]; rfl
  | succ count ih => rw [bytesOf_succ, ofBytes_cons, ih, Nat.pow_succ', Nat.mod_mul]

section

variable {bytes : List Nat} (small : ∀ b ∈ bytes, b < 256)

include small

theorem ofBytes_lt : ofBytes bytes < 256 ^ bytes.length := by
  induction bytes with
  | nil => decide
  | cons b bytes ih =>
    obtain ⟨first, later⟩ := List.forall_mem_cons.1 small
    have := ih later
    rw [ofBytes_cons, List.length_cons, Nat.pow_succ]
    omega

theorem bytesOf_ofBytes : bytesOf bytes.length (ofBytes bytes) = bytes := by
  induction bytes with
  | nil => rfl
  | cons b bytes ih =>
    obtain ⟨first, later⟩ := List.forall_mem_cons.1 small
    rw [List.length_cons, bytesOf_succ, ofBytes_cons, Nat.add_mul_mod_self_left,
      Nat.mod_eq_of_lt first, Nat.add_mul_div_left _ _ (by decide), Nat.div_eq_of_lt first,
      Nat.zero_add, ih later]

end

/-! ## Letters -/

theorem length_letters (count n : Nat) : (letters count n).length = count := by
  induction count generalizing n with
  | zero => rfl
  | succ count ih => rw [letters, List.length_cons, ih]

theorem idxOf_alphabet {k : Nat} (h : k < 38) : alphabet.idxOf (alphabet.getD k '0') = k := by
  have all : ∀ k < 38, alphabet.idxOf (alphabet.getD k '0') = k := by decide
  exact all k h

theorem letterValue_letters (count n : Nat) :
    letterValue (letters count n) = n % 38 ^ count := by
  induction count generalizing n with
  | zero => rw [Nat.pow_zero, Nat.mod_one]; rfl
  | succ count ih =>
    calc letterValue (letters (count + 1) n)
        = alphabet.idxOf (alphabet.getD (n % 38) '0') + 38 * letterValue (letters count (n / 38)) :=
          rfl
      _ = n % 38 ^ (count + 1) := by
        rw [idxOf_alphabet (Nat.mod_lt n (by decide)), ih, Nat.pow_succ', Nat.mod_mul]

theorem length_group (bytes : List Nat) :
    (group bytes).length = 5 * (bytes.length / 3) + 2 * (bytes.length % 3) := by
  induction bytes using group.induct with
  | case1 a b c rest ih =>
    rw [group, List.length_append, length_letters, ih]
    simp only [List.length_cons, letterCount, if_true]
    omega
  | case2 | case3 =>
    rw [group, length_letters]
    simp [letterCount]
  | case4 => rfl

section

variable {bytes : List Nat} (small : ∀ b ∈ bytes, b < 256)

include small

/-- Bytes can be read back from letters that have room for them. -/
theorem bytesOf_letterValue {width count : Nat} (length : bytes.length = width)
    (room : 256 ^ width ≤ 38 ^ count) :
    bytesOf width (letterValue (letters count (ofBytes bytes))) = bytes := by
  subst length
  rw [letterValue_letters, Nat.mod_eq_of_lt ((ofBytes_lt small).trans_le room),
    bytesOf_ofBytes small]

theorem ungroup_group : ungroup (group bytes) = bytes := by
  induction bytes using group.induct with
  | case1 a b c rest ih =>
    have front : ∀ x ∈ [a, b, c], x < 256 := fun x hx => small x (List.mem_append_left rest hx)
    have back : ∀ x ∈ rest, x < 256 := fun x hx => small x (List.mem_append_right [a, b, c] hx)
    calc ungroup (group (a :: b :: c :: rest))
        = bytesOf 3 (letterValue (letters 5 (ofBytes [a, b, c]))) ++ ungroup (group rest) := rfl
      _ = [a, b, c] ++ ungroup (group rest) :=
        congrArg (· ++ _) (bytesOf_letterValue front rfl (by decide))
      _ = [a, b, c] ++ rest := by rw [ih back]
  | case2 a b =>
    calc ungroup (group [a, b])
        = bytesOf 2 (letterValue (letters 4 (ofBytes [a, b]))) := rfl
      _ = [a, b] := bytesOf_letterValue small rfl (by decide)
  | case3 a =>
    calc ungroup (group [a])
        = bytesOf 1 (letterValue (letters 2 (ofBytes [a]))) := rfl
      _ = [a] := bytesOf_letterValue small rfl (by decide)
  | case4 => rfl

end

/-! ## Codes -/

/-- The letters after the mark of a code. -/
def lettersOf (code : String) : List Char :=
  code.toList.drop qrMark.toList.length

/-- The widths of the fields: the version, the vendor, the product, the flow, the ways to find
    the device, the discriminator, the passcode and the padding. -/
def fieldWidths : List Nat := [3, 16, 16, 2, 8, 12, 27, 4]

/-- A text is a QR code, and its bytes hold some fields. -/
structure Holds (code : String) (fields : List Nat) : Prop where
  /-- it starts with the mark -/
  marked : qrMark.toList <+: code.toList
  /-- nineteen letters come after it -/
  count : (lettersOf code).length = 19
  /-- they are of the alphabet -/
  known : ∀ c ∈ lettersOf code, c ∈ alphabet
  /-- they are eleven bytes -/
  bytes : (ungroup (lettersOf code)).length = 11 ∧ ∀ b ∈ ungroup (lettersOf code), b < 256
  /-- the bits of these are the fields -/
  fields : unpackFields fieldWidths (ofBytes (ungroup (lettersOf code))) = fields

section

variable (vendorId productId discriminator passcode : Nat)

theorem toList_qrCode :
    (qrCode vendorId productId discriminator passcode).toList = qrMark.toList ++
      group (bytesOf 11 (qrPayload vendorId productId discriminator passcode)) := by
  rw [qrCode, String.toList_append, String.toList_ofList]

theorem lettersOf_qrCode :
    lettersOf (qrCode vendorId productId discriminator passcode) =
      group (bytesOf 11 (qrPayload vendorId productId discriminator passcode)) := by
  rw [lettersOf, toList_qrCode, List.drop_left]

/-- All bits of the fields are among the bytes. -/
theorem unpackFields_qrPayload :
    unpackFields fieldWidths
        (ofBytes (bytesOf 11 (qrPayload vendorId productId discriminator passcode))) =
      [0, vendorId % 2 ^ 16, productId % 2 ^ 16, 0, onNetwork, discriminator % 2 ^ 12,
        passcode % 2 ^ 27, 0] := by
  have fits : qrPayload vendorId productId discriminator passcode < 2 ^ fieldWidths.sum :=
    packFields_lt _
  have whole : 2 ^ fieldWidths.sum = 256 ^ 11 := by decide
  rw [ofBytes_bytesOf, Nat.mod_eq_of_lt (whole ▸ fits)]
  exact unpackFields_packFields [(0, 3), (vendorId, 16), (productId, 16), (0, 2), (onNetwork, 8),
    (discriminator, 12), (passcode, 27), (0, 4)]

theorem holds_qrCode :
    Holds (qrCode vendorId productId discriminator passcode)
      [0, vendorId % 2 ^ 16, productId % 2 ^ 16, 0, onNetwork, discriminator % 2 ^ 12,
        passcode % 2 ^ 27, 0] := by
  have small : ∀ b ∈ bytesOf 11 (qrPayload vendorId productId discriminator passcode), b < 256 :=
    fun _ => lt_of_mem_bytesOf
  refine ⟨?_, ?_, ?_, ?_, ?_⟩
  · rw [toList_qrCode]
    exact List.prefix_append _ _
  · rw [lettersOf_qrCode, length_group, length_bytesOf]
  · rw [lettersOf_qrCode]
    exact fun c => mem_group
  · rw [lettersOf_qrCode, ungroup_group small]
    exact ⟨length_bytesOf _ _, small⟩
  · rw [lettersOf_qrCode, ungroup_group small, unpackFields_qrPayload]

end

section

variable {vendorId productId : Nat} (discriminator passcode : Nat)

/-- A QR code is its mark and nineteen letters of the alphabet, and these are eleven bytes that
    hold the version 0, the vendor, the product, the flow 0, the way over the network, the lower
    twelve bits of the discriminator, the lower twenty-seven of the passcode and the padding 0.
    So two codes are the same exactly if these agree. -/
theorem qrCode_holds (hv : vendorId < 2 ^ 16) (hp : productId < 2 ^ 16) :
    Holds (qrCode vendorId productId discriminator passcode)
        [0, vendorId, productId, 0, 4, discriminator % 2 ^ 12, passcode % 2 ^ 27, 0] ∧
      ∀ vendorId' productId' discriminator' passcode' : Nat, vendorId' < 2 ^ 16 →
        productId' < 2 ^ 16 →
        (qrCode vendorId productId discriminator passcode =
            qrCode vendorId' productId' discriminator' passcode' ↔
          vendorId = vendorId' ∧ productId = productId' ∧
            discriminator % 2 ^ 12 = discriminator' % 2 ^ 12 ∧
            passcode % 2 ^ 27 = passcode' % 2 ^ 27) := by
  have holds {v p : Nat} (d c : Nat) (hv : v < 2 ^ 16) (hp : p < 2 ^ 16) :
      Holds (qrCode v p d c) [0, v, p, 0, 4, d % 2 ^ 12, c % 2 ^ 27, 0] := by
    have := holds_qrCode v p d c
    rwa [Nat.mod_eq_of_lt hv, Nat.mod_eq_of_lt hp] at this
  refine ⟨holds discriminator passcode hv hp, fun v' p' d' c' hv' hp' => ⟨fun same => ?_, ?_⟩⟩
  · have read := (holds discriminator passcode hv hp).fields
    rw [same, (holds d' c' hv' hp').fields] at read
    simp only [List.cons.injEq, and_true, true_and] at read
    obtain ⟨vendor, product, found, pass⟩ := read
    exact ⟨vendor.symm, product.symm, found.symm, pass.symm⟩
  · rintro ⟨rfl, rfl, found, pass⟩
    simp only [qrCode, qrPayload, packFields, Nat.pow_eq, found, pass]

end

/-- Only the lower bits of a discriminator and of a passcode are in a code. -/
theorem qrCode_holds_lower_bits :
    Holds (qrCode 0xFFF1 0x8000 3840 20202021) [0, 0xFFF1, 0x8000, 0, 4, 3840, 20202021, 0] ∧
      qrCode 0xFFF1 0x8000 3840 20202021 =
        qrCode 0xFFF1 0x8000 (3840 + 2 ^ 12) (20202021 + 2 ^ 27) ∧
      qrCode 0xFFF1 0x8000 3840 20202021 ≠ qrCode 0xFFF1 0x8001 3840 20202021 := by
  obtain ⟨holds, same⟩ := qrCode_holds 3840 20202021 (show 0xFFF1 < 2 ^ 16 by decide)
    (show 0x8000 < 2 ^ 16 by decide)
  refine ⟨holds, (same _ _ _ _ (by decide) (by decide)).2 (by decide), fun equal => ?_⟩
  exact absurd ((same _ _ _ _ (by decide) (by decide)).1 equal).2.1 (by decide)

end HomeGateway.Pairing
