/-
  What a pairing code says of a device.

  A manual code is read by its digits alone, so characters put between them or
  around them do not matter; it says the upper four bits of the discriminator
  and the lower twenty-seven bits of the passcode.  Blanks around a code are no
  part of it.

  * `decodeManual?_of_digits`: what the digits of a manual code say;
  * `ofArguments_manual`, `ofArguments_qr`: a typed code as a request;
  * `answers_manual`, `answers_qr`: the devices that the code of a device means;
  * `find?_append`, `find?_first`: the first of them.
-/
import HomeGateway.Engine.Node
import Mathlib.Data.List.Basic
import Mathlib.Data.List.TakeWhile
import Mathlib.Data.Nat.Digits.Defs

namespace HomeGateway

open Text

/-! ## Digits -/

namespace Text

theorem digitValue_digitChar {d : Nat} (h : d < 10) : digitValue (digitChar d) = d := by
  have all : ∀ d < 10, digitValue (digitChar d) = d := by decide
  exact all d h

theorem isDigit_digitChar {d : Nat} (h : d < 10) : isDigit (digitChar d) = true := by
  have all : ∀ d < 10, isDigit (digitChar d) = true := by decide
  exact all d h

theorem isDigit_iff {c : Char} : isDigit c = true ↔ 48 ≤ c.toNat ∧ c.toNat ≤ 57 := by
  simp only [isDigit, Bool.and_eq_true, decide_eq_true_eq]
  exact Iff.rfl

theorem digitValue_lt {c : Char} (h : isDigit c = true) : digitValue c < 10 := by
  rw [isDigit_iff] at h
  have : digitValue c = c.toNat - 48 := rfl
  omega

theorem not_isBlank_of_isDigit {c : Char} (h : isDigit c = true) : isBlank c = false := by
  rw [isDigit_iff] at h
  simp only [isBlank, blankRanges, List.any_cons, List.any_nil, Bool.or_false, Bool.or_eq_false_iff,
    Bool.and_eq_false_iff, decide_eq_false_iff_not]
  omega

theorem isDigit_of_mem_toDigits {n : Nat} {c : Char} (h : c ∈ Nat.toDigits 10 n) :
    isDigit c = true := by
  have := Nat.isDigit_of_mem_toDigits (by decide) (by decide) h
  simp only [Char.isDigit, Bool.and_eq_true, decide_eq_true_eq] at this
  exact isDigit_iff.2 this

theorem isDigit_of_mem_padded {width n : Nat} {c : Char} (h : c ∈ padded width n) :
    isDigit c = true := by
  rcases List.mem_append.1 h with zero | digit
  · rw [List.eq_of_mem_replicate zero]
    decide
  · exact isDigit_of_mem_toDigits digit

theorem length_padded {width n : Nat} (pos : 0 < width) (h : n < 10 ^ width) :
    (padded width n).length = width := by
  have := (Nat.length_toDigits_le_iff (by decide) pos).2 h
  rw [padded, List.length_append, List.length_replicate]
  omega

/-! ## Trimming -/

theorem trimChars_around {before inner after : List Char} (hb : ∀ c ∈ before, isBlank c = true)
    (ha : ∀ c ∈ after, isBlank c = true) (first : ∀ c, inner.head? = some c → isBlank c = false)
    (last : ∀ c, inner.getLast? = some c → isBlank c = false) :
    trimChars (before ++ inner ++ after) = inner := by
  have drop : ∀ {l : List Char}, (∀ c, l.head? = some c → isBlank c = false) →
      l.dropWhile isBlank = l := by
    intro l hl
    cases l with
    | nil => rfl
    | cons c l => exact List.dropWhile_cons_of_neg (by rw [hl c rfl]; exact Bool.false_ne_true)
  unfold trimChars
  cases inner with
  | nil =>
    have blank : ∀ c ∈ before ++ [] ++ after, isBlank c = true := by
      intro c hc
      rw [List.append_nil] at hc
      exact (List.mem_append.1 hc).elim (hb c) (ha c)
    rw [List.dropWhile_eq_nil_iff.2 blank]
    rfl
  | cons c inner =>
    have front : (c :: inner ++ after).dropWhile isBlank = c :: inner ++ after := drop first
    rw [List.append_assoc, List.dropWhile_append_of_pos hb, front, List.reverse_append,
      List.dropWhile_append_of_pos fun x hx => ha x (List.mem_reverse.1 hx), drop,
      List.reverse_reverse]
    intro x hx
    rw [List.head?_reverse] at hx
    exact last x hx

end Text

namespace Pairing

/-! ## Manual codes -/

theorem valueOf_padded (width n : Nat) : valueOf ((padded width n).map digitValue) = n := by
  have digits :
      valueOf ((padded width n).map digitValue) = Nat.ofDigitChars 10 (padded width n) 0 := by
    rw [Nat.ofDigitChars_eq_foldl, valueOf, List.foldl_map]
    refine congrArg (fun f => List.foldl f 0 (padded width n)) ?_
    funext m c
    rw [Nat.mul_comm]
    rfl
  rw [digits, padded, Nat.ofDigitChars_append, Nat.ofDigitChars_replicate_zero, Nat.mul_zero,
    Nat.ofDigitChars_ten_toDigits]

theorem checkDigit_lt (digits : List Nat) : CheckDigit.checkDigit digits < 10 := by
  have all : ∀ d ∈ CheckDigit.inverses, d < 10 := by decide
  unfold CheckDigit.checkDigit
  rw [List.getD_eq_getElem?_getD]
  cases h : CheckDigit.inverses[CheckDigit.product 0 1 digits.reverse]? with
  | none => decide
  | some d => exact all d (List.mem_of_getElem? h)

/-- The numbers that the digits of a manual code hold. -/
structure Chunks where
  /-- the first digit -/
  first : Nat
  /-- the next five -/
  second : Nat
  /-- the four after those -/
  third : Nat

/-- The numbers in a row of eleven digits; the last digit is in none. -/
def chunks (digits : List Nat) : Chunks :=
  ⟨valueOf (digits.take 1), valueOf ((digits.drop 1).take 5), valueOf ((digits.drop 6).take 4)⟩

theorem manualPayload_eq (digits : List Nat) :
    manualPayload digits =
      ⟨(chunks digits).first % 4 * 4 ||| (chunks digits).second / 0x4000,
        (chunks digits).third * 0x4000 + (chunks digits).second % 0x4000⟩ := rfl

theorem chunks_append {xs ys zs rest : List Nat} (hx : xs.length = 1) (hy : ys.length = 5)
    (hz : zs.length = 4) :
    chunks (xs ++ ys ++ zs ++ rest) = ⟨valueOf xs, valueOf ys, valueOf zs⟩ := by
  have past : xs.drop 6 = [] := List.drop_eq_nil_of_le (by omega)
  simp [chunks, List.drop_append, hx, hy, hz, past]

section

variable (passcode discriminator : Nat)

/-- The three numbers that a manual code holds, and their widths. -/
theorem manualDigits_eq :
    manualDigits passcode discriminator =
      (padded 1 (discriminator / 0x100 % 0x10 / 4)).map digitValue ++
      (padded 5 (discriminator / 0x100 % 0x10 % 4 * 0x4000 + passcode % 0x4000)).map digitValue ++
      (padded 4 (passcode / 0x4000 % 0x2000)).map digitValue := by
  simp only [manualDigits, shortDiscriminator, List.map_append]

theorem length_manualDigits : (manualDigits passcode discriminator).length = 10 := by
  rw [manualDigits_eq, List.length_append, List.length_append, List.length_map, List.length_map,
    List.length_map, length_padded (by decide) (by omega), length_padded (by decide) (by omega),
    length_padded (by decide) (by omega)]

theorem manualDigits_lt : ∀ d ∈ manualDigits passcode discriminator, d < 10 := by
  intro d hd
  rw [manualDigits, List.mem_map] at hd
  obtain ⟨c, hc, rfl⟩ := hd
  refine digitValue_lt ?_
  rcases List.mem_append.1 hc with hc | hc
  · exact (List.mem_append.1 hc).elim isDigit_of_mem_padded isDigit_of_mem_padded
  · exact isDigit_of_mem_padded hc

/-- The eleven digits of a manual code. -/
def allDigits : List Nat :=
  manualDigits passcode discriminator ++
    [CheckDigit.checkDigit (manualDigits passcode discriminator)]

theorem allDigits_lt : ∀ d ∈ allDigits passcode discriminator, d < 10 := by
  intro d hd
  rcases List.mem_append.1 hd with hd | hd
  · exact manualDigits_lt passcode discriminator d hd
  · rw [List.mem_singleton.1 hd]
    exact checkDigit_lt _

theorem toList_manualCode :
    (manualCode passcode discriminator).toList =
      (allDigits passcode discriminator).map digitChar := by
  rw [manualCode, String.toList_ofList]
  rfl

theorem isDigit_of_mem_manualCode {c : Char} (h : c ∈ (manualCode passcode discriminator).toList) :
    isDigit c = true := by
  rw [toList_manualCode, List.mem_map] at h
  obtain ⟨d, hd, rfl⟩ := h
  exact isDigit_digitChar (allDigits_lt passcode discriminator d hd)

theorem values_manualCode :
    (manualCode passcode discriminator).toList.map digitValue =
      allDigits passcode discriminator := by
  rw [toList_manualCode, List.map_map]
  refine (List.map_congr_left fun d hd => ?_).trans (List.map_id _)
  exact digitValue_digitChar (allDigits_lt passcode discriminator d hd)

/-- The numbers in a manual code. -/
theorem chunks_allDigits :
    chunks (allDigits passcode discriminator) =
      ⟨discriminator / 0x100 % 0x10 / 4,
        discriminator / 0x100 % 0x10 % 4 * 0x4000 + passcode % 0x4000,
        passcode / 0x4000 % 0x2000⟩ := by
  rw [allDigits, manualDigits_eq, chunks_append
    ((List.length_map _).trans (length_padded (by decide) (by omega)))
    ((List.length_map _).trans (length_padded (by decide) (by omega)))
    ((List.length_map _).trans (length_padded (by decide) (by omega))),
    valueOf_padded, valueOf_padded, valueOf_padded]

/-- The fields of a manual code can be read back. -/
theorem manualPayload_allDigits :
    manualPayload (allDigits passcode discriminator) =
      ⟨shortDiscriminator discriminator, passcode % 2 ^ 27⟩ := by
  simp only [manualPayload_eq, chunks_allDigits, ManualPayload.mk.injEq]
  have low : (discriminator / 0x100 % 0x10 % 4 * 0x4000 + passcode % 0x4000) / 0x4000 =
      discriminator / 0x100 % 0x10 % 4 := by omega
  have bits := Nat.two_pow_add_eq_or_of_lt (i := 2)
    (show discriminator / 0x100 % 0x10 % 4 < 2 ^ 2 by omega) (discriminator / 0x100 % 0x10 / 4)
  have high : discriminator / 0x100 % 0x10 / 4 % 4 = discriminator / 0x100 % 0x10 / 4 := by omega
  rw [low, high, Nat.mul_comm _ 4, ← bits, shortDiscriminator]
  constructor <;> omega

end

/-- A manual code says the upper four bits of the discriminator and the lower
    twenty-seven of the passcode, whatever stands around and between its digits. -/
theorem decodeManual?_of_digits {text : String} {passcode discriminator : Nat}
    (h : text.toList.filter isDigit = (manualCode passcode discriminator).toList) :
    decodeManual? text = some ⟨shortDiscriminator discriminator, passcode % 2 ^ 27⟩ := by
  have digits : (text.toList.filter isDigit).map digitValue = allDigits passcode discriminator := by
    rw [h, values_manualCode]
  have ten := length_manualDigits passcode discriminator
  have length : (allDigits passcode discriminator).length = 11 := by
    rw [allDigits, List.length_append, ten, List.length_singleton]
  have checked : (allDigits passcode discriminator).getLast? =
      some (CheckDigit.checkDigit ((allDigits passcode discriminator).take 10)) := by
    rw [allDigits, List.getLast?_concat, List.take_left' ten]
  unfold decodeManual?
  rw [digits, if_pos ⟨length, checked⟩, manualPayload_allDigits]

/-- The code itself. -/
theorem decodeManual?_manualCode (passcode discriminator : Nat) :
    decodeManual? (manualCode passcode discriminator) =
      some ⟨shortDiscriminator discriminator, passcode % 2 ^ 27⟩ :=
  decodeManual?_of_digits
    (List.filter_eq_self.2 fun _ hc => isDigit_of_mem_manualCode passcode discriminator hc)

/-- A row of characters with spaces and dashes put between them. -/
inductive Spread : List Char → List Char → Prop where
  /-- nothing is put after the last -/
  | last (c : Char) : Spread [c] [c]
  /-- any number of them after another one -/
  | next {cs text : List Char} (c : Char) (gap : List Char)
      (marks : ∀ g ∈ gap, g = ' ' ∨ g = '-') (rest : Spread cs text) :
      Spread (c :: cs) (c :: (gap ++ text))

namespace Spread

variable {cs text : List Char}

theorem self : ∀ {cs : List Char}, cs ≠ [] → Spread cs cs
  | [c], _ => .last c
  | c :: d :: cs, _ => .next c [] (fun _ hg => nomatch hg) (self (List.cons_ne_nil d cs))

theorem filter_isDigit (h : Spread cs text) (digits : ∀ c ∈ cs, isDigit c = true) :
    text.filter isDigit = cs := by
  induction h with
  | last c => rw [List.filter_cons_of_pos (digits c List.mem_cons_self), List.filter_nil]
  | next c gap marks rest ih =>
    have skipped : gap.filter isDigit = [] := by
      rw [List.filter_eq_nil_iff]
      intro g hg
      rcases marks g hg with rfl | rfl <;> decide
    rw [List.filter_cons_of_pos (digits c List.mem_cons_self), List.filter_append, skipped,
      List.nil_append, ih fun x hx => digits x (List.mem_cons_of_mem _ hx)]

theorem ne_nil (h : Spread cs text) : cs ≠ [] ∧ text ≠ [] := by
  cases h <;> exact ⟨List.cons_ne_nil _ _, List.cons_ne_nil _ _⟩

theorem head? (h : Spread cs text) : text.head? = cs.head? := by
  cases h <;> rfl

theorem getLast? (h : Spread cs text) : text.getLast? = cs.getLast? := by
  induction h with
  | last c => rfl
  | next c gap marks rest ih =>
    obtain ⟨codes, filled⟩ := rest.ne_nil
    rw [← List.cons_append, List.getLast?_append_of_ne_nil _ filled, ih, ← List.singleton_append,
      List.getLast?_append_of_ne_nil _ codes]

end Spread

/-! ## QR codes -/

theorem mem_letters : ∀ {count n : Nat} {c : Char}, c ∈ letters count n → c ∈ alphabet
  | count + 1, n, c, h => by
    rcases List.mem_cons.1 h with rfl | rest
    · have lt : n % 38 < alphabet.length := Nat.mod_lt n (by decide)
      rw [List.getD_eq_getElem?_getD, List.getElem?_eq_getElem lt]
      exact List.getElem_mem lt
    · exact mem_letters rest

theorem mem_group {bytes : List Nat} {c : Char} (h : c ∈ group bytes) : c ∈ alphabet := by
  induction bytes using group.induct with
  | case1 x y z rest ih =>
    rw [group, List.mem_append] at h
    exact h.elim mem_letters ih
  | case2 | case3 => exact mem_letters h
  | case4 => cases h

theorem not_isBlank_of_mem_qrCode {vendorId productId discriminator passcode : Nat} {c : Char}
    (h : c ∈ (qrCode vendorId productId discriminator passcode).toList) : isBlank c = false := by
  have mark : ∀ c ∈ qrMark.toList, isBlank c = false := by
    have all : qrMark.toList.all (!isBlank ·) = true := by decide
    simpa using all
  have letter : ∀ c ∈ alphabet, isBlank c = false := by
    have all : alphabet.all (!isBlank ·) = true := by decide
    simpa using all
  rw [qrCode, String.toList_append, String.toList_ofList, List.mem_append] at h
  exact h.elim (mark c) fun hc => letter c (mem_group hc)

/-! ## Typed codes -/

section

variable {before inner after : List Char} (hb : ∀ c ∈ before, isBlank c = true)
  (ha : ∀ c ∈ after, isBlank c = true) (short passcode : Option Nat)

include hb ha

/-- A code is typed with blanks around it. -/
theorem ofArguments_code {code : String} (some_code : code ≠ "")
    (first : ∀ c, code.toList.head? = some c → isBlank c = false)
    (last : ∀ c, code.toList.getLast? = some c → isBlank c = false) :
    Request.ofArguments (some (String.ofList (before ++ code.toList ++ after))) short passcode =
      if qrMark.toList.isPrefixOf code.toList then .qr code else .manual code := by
  have trimmed : trim (String.ofList (before ++ code.toList ++ after)) = code := by
    rw [trim, String.toList_ofList, trimChars_around hb ha first last, String.ofList_toList]
  simp only [Request.ofArguments, Option.map_some, trimmed]
  rw [Option.filter_some, if_pos (decide_eq_true some_code)]

theorem ofArguments_qr (vendorId productId discriminator pass : Nat) :
    Request.ofArguments (some (String.ofList (before ++
        (qrCode vendorId productId discriminator pass).toList ++ after))) short passcode =
      .qr (qrCode vendorId productId discriminator pass) := by
  have marked :
      qrMark.toList.isPrefixOf (qrCode vendorId productId discriminator pass).toList = true := by
    rw [qrCode, String.toList_append, List.isPrefixOf_iff_prefix]
    exact List.prefix_append _ _
  have filled : qrCode vendorId productId discriminator pass ≠ "" := by
    intro empty
    rw [empty] at marked
    exact absurd marked (by decide)
  rw [ofArguments_code hb ha short passcode filled
    (fun c hc => not_isBlank_of_mem_qrCode (List.mem_of_mem_head? hc))
    (fun c hc => not_isBlank_of_mem_qrCode (List.mem_of_getLast? hc)), if_pos marked]

theorem ofArguments_manual {pass discriminator : Nat}
    (spread : Spread (manualCode pass discriminator).toList inner) :
    Request.ofArguments (some (String.ofList (before ++ inner ++ after))) short passcode =
      .manual (String.ofList inner) := by
  have digit : ∀ c ∈ (manualCode pass discriminator).toList, isDigit c = true := fun c hc =>
    isDigit_of_mem_manualCode pass discriminator hc
  have first : ∀ c, inner.head? = some c → isDigit c = true := fun c hc =>
    digit c (List.mem_of_mem_head? (spread.head? ▸ hc))
  have last : ∀ c, inner.getLast? = some c → isDigit c = true := fun c hc =>
    digit c (List.mem_of_getLast? (spread.getLast? ▸ hc))
  obtain ⟨c, rest, rfl⟩ := List.exists_cons_of_ne_nil spread.ne_nil.2
  have unmarked : qrMark.toList.isPrefixOf (c :: rest) = false := by
    have other : ('M' == c) = false := by
      rw [beq_eq_false_iff_ne]
      rintro rfl
      exact absurd (first 'M' rfl) (by decide)
    show ('M' == c && _) = false
    rw [other, Bool.false_and]
  have code := @ofArguments_code before after hb ha short passcode (String.ofList (c :: rest))
  rw [String.toList_ofList] at code
  rw [code ?_ (fun x hx => not_isBlank_of_isDigit (first x hx))
    (fun x hx => not_isBlank_of_isDigit (last x hx)),
    if_neg (by rw [unmarked]; exact Bool.false_ne_true)]
  intro empty
  have := congrArg String.toList empty
  rw [String.toList_ofList] at this
  cases this

end

end Pairing

/-! ## Devices -/

namespace Engine.Device

open Pairing

variable {devices : List Device} {d : Device} {r : Pairing.Request}

theorem exists_first {p : Device → Bool} (there : ∃ x ∈ devices, p x = true) :
    ∃ front found back, devices = front ++ found :: back ∧ p found = true ∧
      ∀ x ∈ front, p x = false := by
  obtain ⟨found, first⟩ := Option.isSome_iff_exists.1 (List.find?_isSome.2 there)
  obtain ⟨own, front, back, split, before⟩ := List.find?_eq_some_iff_append.1 first
  exact ⟨front, found, back, split, own, by simpa using before⟩

/-- Devices that a request does not mean are passed over. -/
theorem find?_append {front : List Device} (passed : ∀ x ∈ front, x.answers r = .ok false) :
    find? r (front ++ devices) =
      (find? r devices).map fun found => (found.1, front ++ found.2) := by
  induction front with
  | nil =>
    rw [List.nil_append]
    cases find? r devices <;> rfl
  | cons x front ih =>
    simp only [List.forall_mem_cons] at passed
    rw [List.cons_append, find?, passed.1, ih passed.2]
    cases find? r devices <;> rfl

/-- The first device that a request means, where it makes sense for all devices. -/
theorem find?_first {means : Device → Bool} (answers : ∀ x ∈ devices, x.answers r = .ok (means x))
    (hd : d ∈ devices) (own : means d = true) :
    ∃ front found back, devices = front ++ found :: back ∧ means found = true ∧
      (∀ x ∈ front, means x = false) ∧ find? r devices = .ok (found, front ++ back) := by
  obtain ⟨front, found, back, rfl, meant, before⟩ := exists_first ⟨d, hd, own⟩
  simp only [List.forall_mem_append, List.forall_mem_cons] at answers
  have passed : ∀ x ∈ front, x.answers r = .ok false := by
    intro x hx
    rw [answers.1 x hx, before x hx]
  refine ⟨front, found, back, rfl, meant, before, ?_⟩
  rw [find?_append passed, find?, answers.2.1, meant]
  rfl

/-- Whether two devices have the same passcode and the same upper bits of the
    discriminator. -/
def sameManual (d x : Device) : Bool :=
  x.discriminator / 0x100 = d.discriminator / 0x100 && x.passcode = d.passcode

/-- Whether two devices have the same QR code. -/
def sameQr (d x : Device) : Bool :=
  x.codes.qr = d.codes.qr

theorem answers_manual {text : String} (narrow : d.discriminator < 2 ^ 12)
    (small : d.passcode < 2 ^ 27)
    (digits : text.toList.filter isDigit = (manualCode d.passcode d.discriminator).toList)
    (x : Device) : x.answers (.manual text) = .ok (d.sameManual x) := by
  have short : shortDiscriminator d.discriminator = d.discriminator / 0x100 := by
    rw [shortDiscriminator]
    omega
  simp only [answers, decodeManual?_of_digits digits, short, Nat.mod_eq_of_lt small, sameManual,
    Discriminator.selects]
  exact congrArg Except.ok
    (congrArg₂ and (decide_eq_decide.2 eq_comm) (decide_eq_decide.2 eq_comm))

theorem answers_qr (x : Device) : x.answers (.qr d.codes.qr) = .ok (d.sameQr x) := by
  simp only [answers, sameQr]
  exact congrArg Except.ok (decide_eq_decide.2 eq_comm)

end Engine.Device

end HomeGateway
