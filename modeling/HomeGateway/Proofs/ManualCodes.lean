/-
  Manual codes that are written and manual codes that are read.

  A manual code has room for all that is written into it: each of its three
  numbers fits its digits.  But the digits have room for more, and a code is
  read whatever its numbers are, so some codes are read that are never written:
  those with a number that does not fit its bits.

  * `Strewn`: a code with other characters put anywhere into it;
  * `manualCode_strewn`: what is written can be read;
  * `padded_valueOf`: a row of digits is the number that it shows, padded;
  * `allDigits_of_fits`: if the numbers fit, what is read is what was written;
  * `decodeManual?_fitting`: which of the codes that are read are written.
-/
import HomeGateway.Proofs.Slips
import Mathlib.Data.Nat.Digits.Lemmas

namespace HomeGateway.Pairing

open Text CheckDigit

/-! ## Codes among other characters -/

/-- A row of characters with others than digits put anywhere between, before and after them. -/
inductive Strewn : List Char → List Char → Prop where
  /-- nothing is left to come -/
  | done : Strewn [] []
  /-- a character of the row -/
  | own {cs text : List Char} (c : Char) (rest : Strewn cs text) : Strewn (c :: cs) (c :: text)
  /-- a character put into it -/
  | other {cs text : List Char} (c : Char) (mark : isDigit c = false) (rest : Strewn cs text) :
    Strewn cs (c :: text)

theorem Strewn.filter_isDigit {cs text : List Char} (h : Strewn cs text)
    (digits : ∀ c ∈ cs, isDigit c = true) : text.filter isDigit = cs := by
  induction h with
  | done => rfl
  | own c rest ih =>
    obtain ⟨first, later⟩ := List.forall_mem_cons.1 digits
    rw [List.filter_cons_of_pos first, ih later]
  | other c mark rest ih => rw [List.filter_cons_of_neg (by simp [mark]), ih digits]

/-- The digits of a text, with all that is put between them. -/
theorem strewn_filter (text : List Char) : Strewn (text.filter isDigit) text := by
  induction text with
  | nil => exact .done
  | cons c text ih =>
    by_cases digit : isDigit c = true
    · rw [List.filter_cons_of_pos digit]
      exact .own c ih
    · rw [List.filter_cons_of_neg digit]
      exact .other c (Bool.eq_false_iff.2 digit) ih

/-- A manual code is eleven digits.  By itself, and with any other characters put into it, it says
    the upper four bits of the discriminator and the lower twenty-seven of the passcode. -/
theorem manualCode_strewn (passcode discriminator : Nat) :
    (manualCode passcode discriminator).toList.length = 11 ∧
      (∀ c ∈ (manualCode passcode discriminator).toList, isDigit c = true) ∧
      decodeManual? (manualCode passcode discriminator) =
        some ⟨discriminator / 2 ^ 8 % 2 ^ 4, passcode % 2 ^ 27⟩ ∧
      ∀ text : String, Strewn (manualCode passcode discriminator).toList text.toList →
        decodeManual? text = some ⟨discriminator / 2 ^ 8 % 2 ^ 4, passcode % 2 ^ 27⟩ := by
  have digits : ∀ c ∈ (manualCode passcode discriminator).toList, isDigit c = true := fun c =>
    isDigit_of_mem_manualCode passcode discriminator
  refine ⟨?_, digits, decodeManual?_manualCode passcode discriminator, fun text strewn => ?_⟩
  · rw [toList_manualCode, List.length_map, allDigits, List.length_append, length_manualDigits,
      List.length_singleton]
  · exact decodeManual?_of_digits (strewn.filter_isDigit digits)

/-- The code of all bits, in brackets, with a gap, a dash and a digit of another script. -/
theorem manualCode_strewn_widest :
    manualCode 4294967295 65535 = "36553581918" ∧
      Strewn "36553581918".toList "(3655-358 1918３)".toList ∧
      decodeManual? "(3655-358 1918３)" = some ⟨15, 134217727⟩ := by
  have code : manualCode 4294967295 65535 = "36553581918" := by decide +kernel
  have digits : "(3655-358 1918３)".toList.filter isDigit = "36553581918".toList := by
    decide +kernel
  have strewn : Strewn "36553581918".toList "(3655-358 1918３)".toList :=
    digits ▸ strewn_filter _
  exact ⟨code, strewn,
    (manualCode_strewn 4294967295 65535).2.2.2 "(3655-358 1918３)" (code ▸ strewn)⟩

/-! ## Rows of digits and their numbers -/

theorem valueOf_eq_ofDigits (ds : List Nat) : valueOf ds = Nat.ofDigits 10 ds.reverse := by
  rw [Nat.ofDigits_eq_foldr, List.foldr_reverse, valueOf]
  refine congrArg (fun f => List.foldl f 0 ds) ?_
  funext n d
  rw [Nat.mul_comm, Nat.add_comm]
  rfl

section

variable {ds ds' : List Nat}

theorem reverse_lt (digits : Digits ds) : Digits ds.reverse := fun d hd =>
  digits d (List.mem_reverse.1 hd)

theorem valueOf_lt (digits : Digits ds) : valueOf ds < 10 ^ ds.length := by
  rw [valueOf_eq_ofDigits, ← List.length_reverse]
  exact Nat.ofDigits_lt_base_pow_length (by decide) (reverse_lt digits)

theorem eq_of_valueOf_eq (length : ds.length = ds'.length) (digits : Digits ds)
    (digits' : Digits ds') (same : valueOf ds = valueOf ds') : ds = ds' := by
  rw [valueOf_eq_ofDigits, valueOf_eq_ofDigits] at same
  refine List.reverse_injective (Nat.ofDigits_inj_of_len_eq (by decide) ?_ (reverse_lt digits)
    (reverse_lt digits') same)
  rw [List.length_reverse, List.length_reverse, length]

/-- A row of digits is its number, padded to its length. -/
theorem padded_valueOf {width : Nat} (pos : 0 < width) (length : ds.length = width)
    (digits : Digits ds) : (padded width (valueOf ds)).map digitValue = ds := by
  have fits : valueOf ds < 10 ^ width := length ▸ valueOf_lt digits
  refine eq_of_valueOf_eq ?_ ?_ digits (valueOf_padded _ _)
  · rw [List.length_map, length_padded pos fits, length]
  · exact digits_map_digitValue fun c hc => isDigit_of_mem_padded hc

end

theorem digitChar_digitValue {c : Char} (hc : isDigit c = true) : digitChar (digitValue c) = c := by
  have lt := digitValue_lt hc
  exact digitValue_injective (isDigit_digitChar lt) hc (digitValue_digitChar lt)

/-! ## Codes whose numbers fit -/

/-- Each number in a row of eleven digits fits the bits that it holds. -/
def Fits (ds : List Nat) : Prop :=
  (chunks ds).first < 2 ^ 2 ∧ (chunks ds).second < 2 ^ 16 ∧ (chunks ds).third < 2 ^ 13

instance (ds : List Nat) : Decidable (Fits ds) :=
  inferInstanceAs (Decidable (_ ∧ _ ∧ _))

theorem fits_allDigits (passcode discriminator : Nat) :
    Fits (allDigits passcode discriminator) := by
  simp only [Fits, chunks_allDigits]
  omega

/-- The digits of a text. -/
def digitsOf (text : String) : List Char :=
  text.toList.filter isDigit

/-- Their values. -/
def valuesOf (text : String) : List Nat :=
  (digitsOf text).map digitValue

theorem isDigit_of_mem_digitsOf {text : String} {c : Char} (h : c ∈ digitsOf text) :
    isDigit c = true :=
  (List.mem_filter.1 h).2

theorem digits_valuesOf (text : String) : Digits (valuesOf text) :=
  digits_map_digitValue fun _ => isDigit_of_mem_digitsOf

section

variable {text other : String} {m : ManualPayload} {passcode discriminator : Nat}

/-- The digits of a text are those of a code if their values are. -/
theorem digitsOf_eq_iff :
    digitsOf text = (manualCode passcode discriminator).toList ↔
      valuesOf text = allDigits passcode discriminator := by
  constructor
  · intro same
    rw [valuesOf, same, values_manualCode]
  · intro same
    rw [toList_manualCode, ← same, valuesOf, List.map_map]
    refine ((List.map_congr_left fun c hc => ?_).trans (List.map_id _)).symm
    exact digitChar_digitValue (isDigit_of_mem_digitsOf hc)

theorem decodeManual?_eq_some_iff :
    decodeManual? text = some m ↔ (valuesOf text).length = 11 ∧
      (valuesOf text).getLast? = some (checkDigit ((valuesOf text).take 10)) ∧
      manualPayload (valuesOf text) = m := by
  have unfolded : decodeManual? text =
      if (valuesOf text).length = 11 ∧
          (valuesOf text).getLast? = some (checkDigit ((valuesOf text).take 10)) then
        some (manualPayload (valuesOf text))
      else none := rfl
  rw [unfolded]
  split
  · rename_i h
    rw [Option.some.injEq]
    exact ⟨fun same => ⟨h.1, h.2, same⟩, fun same => same.2.2⟩
  · rename_i h
    simp only [reduceCtorEq, false_iff]
    exact fun all => h ⟨all.1, all.2.1⟩

/-- The ten digits before the check digit, if their numbers fit. -/
theorem manualDigits_of_fits {ds : List Nat} (length : ds.length = 11) (digits : Digits ds)
    (fits : Fits ds) :
    manualDigits (manualPayload ds).passcode ((manualPayload ds).short * 0x100) = ds.take 10 := by
  obtain ⟨first, second, third⟩ := fits
  have short : (manualPayload ds).short = 4 * (chunks ds).first + (chunks ds).second / 0x4000 := by
    have bits := Nat.two_pow_add_eq_or_of_lt (i := 2)
      (show (chunks ds).second / 0x4000 < 2 ^ 2 by omega) (chunks ds).first
    have whole : (chunks ds).first % 4 = (chunks ds).first := Nat.mod_eq_of_lt first
    simp only [manualPayload_eq]
    rw [whole, Nat.mul_comm _ 4]
    exact bits.symm
  have passcode : (manualPayload ds).passcode =
      (chunks ds).third * 0x4000 + (chunks ds).second % 0x4000 := rfl
  have front : (manualPayload ds).short * 0x100 / 0x100 % 0x10 / 4 = (chunks ds).first := by
    omega
  have middle : (manualPayload ds).short * 0x100 / 0x100 % 0x10 % 4 * 0x4000 +
      (manualPayload ds).passcode % 0x4000 = (chunks ds).second := by omega
  have back : (manualPayload ds).passcode / 0x4000 % 0x2000 = (chunks ds).third := by omega
  have part (k n : Nat) : Digits ((ds.drop k).take n) := fun d hd =>
    digits d (List.mem_of_mem_drop (List.mem_of_mem_take hd))
  have size (k n : Nat) (h : k + n ≤ 11) : ((ds.drop k).take n).length = n := by
    rw [List.length_take, List.length_drop, length]
    omega
  calc manualDigits (manualPayload ds).passcode ((manualPayload ds).short * 0x100)
      = (padded 1 (chunks ds).first).map digitValue ++
          (padded 5 (chunks ds).second).map digitValue ++
          (padded 4 (chunks ds).third).map digitValue := by
        rw [manualDigits_eq, front, middle, back]
    _ = (ds.drop 0).take 1 ++ (ds.drop 1).take 5 ++ (ds.drop 6).take 4 := by
        rw [← padded_valueOf (by decide) (size 0 1 (by decide)) (part 0 1),
          ← padded_valueOf (by decide) (size 1 5 (by decide)) (part 1 5),
          ← padded_valueOf (by decide) (size 6 4 (by decide)) (part 6 4)]
        rfl
    _ = ds.take 10 := by
        rw [List.drop_zero, ← List.take_add, ← List.take_add]

/-- If its numbers fit, a code that is read is the one that is written for what it says. -/
theorem allDigits_of_fits (read : decodeManual? text = some m) (fits : Fits (valuesOf text)) :
    allDigits m.passcode (m.short * 0x100) = valuesOf text := by
  obtain ⟨length, last, rfl⟩ := decodeManual?_eq_some_iff.1 read
  obtain ⟨k, one⟩ : ∃ k, (valuesOf text).drop 10 = [k] :=
    List.length_eq_one_iff.1 (by rw [List.length_drop, length])
  have row : (valuesOf text).take 10 ++ [k] = valuesOf text := one ▸ List.take_append_drop 10 _
  have own : (valuesOf text).getLast? = some k := by rw [← row, List.getLast?_concat]
  have check : checkDigit ((valuesOf text).take 10) = k := Option.some.inj (last.symm.trans own)
  rw [allDigits, manualDigits_of_fits length (digits_valuesOf text) fits, check, row]

/-- A code that is read is the one that is written for what it says, and is written at all, exactly
    if its numbers fit; two such codes that say the same are the same. -/
theorem decodeManual?_fitting (read : decodeManual? text = some m) :
    (digitsOf text = (manualCode m.passcode (m.short * 0x100)).toList ↔ Fits (valuesOf text)) ∧
      ((∃ passcode discriminator, digitsOf text = (manualCode passcode discriminator).toList) ↔
        Fits (valuesOf text)) ∧
      (decodeManual? other = some m → Fits (valuesOf text) → Fits (valuesOf other) →
        digitsOf text = digitsOf other) := by
  have own {t : String} (read : decodeManual? t = some m) (fits : Fits (valuesOf t)) :
      digitsOf t = (manualCode m.passcode (m.short * 0x100)).toList :=
    digitsOf_eq_iff.2 (allDigits_of_fits read fits).symm
  have written {p d : Nat} (same : digitsOf text = (manualCode p d).toList) :
      Fits (valuesOf text) := by
    rw [digitsOf_eq_iff.1 same]
    exact fits_allDigits p d
  refine ⟨⟨written, own read⟩, ⟨?_, fun fits => ⟨_, _, own read fits⟩⟩, ?_⟩
  · rintro ⟨p, d, same⟩
    exact written same
  · intro read' fits fits'
    rw [own read fits, own read' fits']

end

/-- Two codes that say the same; the second number of the first is 82469, which takes seventeen
    bits. -/
theorem decodeManual?_fitting_twins :
    decodeManual? "38246912333" = some ⟨13, 20202021⟩ ∧
      decodeManual? "3169-331-2339" = some ⟨13, 20202021⟩ ∧
      (digitsOf "38246912333" = (manualCode 20202021 (13 * 0x100)).toList ↔
        Fits (valuesOf "38246912333")) ∧
      (digitsOf "3169-331-2339" = (manualCode 20202021 (13 * 0x100)).toList ↔
        Fits (valuesOf "3169-331-2339")) ∧
      ¬Fits (valuesOf "38246912333") ∧ Fits (valuesOf "3169-331-2339") := by
  have wide : decodeManual? "38246912333" = some ⟨13, 20202021⟩ := by decide +kernel
  have code : decodeManual? "3169-331-2339" = some ⟨13, 20202021⟩ := by decide +kernel
  exact ⟨wide, code, (@decodeManual?_fitting _ "" _ wide).1,
    (@decodeManual?_fitting _ "" _ code).1, by decide +kernel, by decide +kernel⟩

/-- A code is read that is never written. -/
theorem decodeManual?_unwritten :
    ¬∀ (text : String) (m : ManualPayload), decodeManual? text = some m →
        digitsOf text = (manualCode m.passcode (m.short * 0x100)).toList := by
  intro always
  have same := always "38246912333" ⟨13, 20202021⟩ (by decide +kernel)
  revert same
  decide +kernel

end HomeGateway.Pairing
