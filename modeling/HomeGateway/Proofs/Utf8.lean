/-
  Reading text as UTF-8.

  `decode` is put beside the encoding of characters that the language itself
  has: it reads exactly the rows of bytes that some text is encoded to, and it
  reads that text.

  * `step_encode`, `encode_of_step`: one character, in both directions;
  * `decode_iff`: whole texts;
  * `reading_binary`: bytes as a message.
-/
import HomeGateway.Connection.Link

namespace HomeGateway.Text.Utf8

/-! ## Lead bytes -/

theorem lead_one {b : Nat} (h : b < 0x80) : lead b = some (b, []) := by
  unfold lead
  rw [if_pos h]

theorem lead_two {b : Nat} (h : 0xc2 ≤ b) (h' : b < 0xe0) :
    lead b = some (b - 0xc0, [continuation]) := by
  unfold lead
  rw [if_neg (by omega), if_neg (by omega), if_pos h']

/-- The first continuation byte is bounded below where shorter forms exist, and above where
    surrogates lie. -/
theorem lead_three {b : Nat} (h : 0xe0 ≤ b) (h' : b < 0xf0) :
    lead b = some (b - 0xe0,
      [(if b = 0xe0 then 0xa0 else 0x80, if b = 0xed then 0x9f else 0xbf), continuation]) := by
  unfold lead
  rw [if_neg (by omega), if_neg (by omega), if_neg (by omega)]
  by_cases h₁ : b = 0xe0
  · subst h₁
    rfl
  · rw [if_neg h₁, if_neg h₁]
    by_cases h₂ : b = 0xed
    · subst h₂
      rfl
    · rw [if_neg h₂, if_neg h₂, if_pos h']
      rfl

/-- The first continuation byte is bounded below where shorter forms exist, and above where the
    code points end. -/
theorem lead_four {b : Nat} (h : 0xf0 ≤ b) (h' : b < 0xf5) :
    lead b = some (b - 0xf0,
      [(if b = 0xf0 then 0x90 else 0x80, if b = 0xf4 then 0x8f else 0xbf), continuation,
        continuation]) := by
  obtain rfl | rfl | rfl | rfl | rfl : b = 0xf0 ∨ b = 0xf1 ∨ b = 0xf2 ∨ b = 0xf3 ∨ b = 0xf4 := by
    omega
  all_goals rfl

theorem lead_none {b : Nat} (h : 0x80 ≤ b ∧ b < 0xc2 ∨ 0xf5 ≤ b) : lead b = none := by
  unfold lead
  rw [if_neg (by omega)]
  by_cases h₁ : b < 0xc2
  · rw [if_pos h₁]
  · rw [if_neg h₁, if_neg (by omega), if_neg (by omega), if_neg (by omega), if_neg (by omega),
      if_neg (by omega), if_neg (by omega), if_neg (by omega)]

/-! ## Continuation bytes -/

theorem follow_cons {value seen lo hi : Nat} {more : List (Nat × Nat)} {b : UInt8}
    (rest : List UInt8) (h : lo ≤ b.toNat ∧ b.toNat ≤ hi) :
    follow value seen ((lo, hi) :: more) (b :: rest) =
      follow (value * 64 + (b.toNat - 0x80)) (seen + 1) more rest := by
  rw [follow, if_pos h]

theorem follow_eq_char {value seen lo hi : Nat} {more : List (Nat × Nat)} {bytes rest : List UInt8}
    {c : Char} (h : follow value seen ((lo, hi) :: more) bytes = .char c rest) :
    ∃ b bs, bytes = b :: bs ∧ lo ≤ b.toNat ∧ b.toNat ≤ hi ∧
      follow (value * 64 + (b.toNat - 0x80)) (seen + 1) more bs = .char c rest := by
  cases bytes with
  | nil => cases h
  | cons b bs =>
    unfold follow at h
    split at h
    · rename_i range
      exact ⟨b, bs, rfl, range.1, range.2, h⟩
    · cases h

theorem of_le_ite {c : Prop} [Decidable c] {a b n : Nat} (h : (if c then a else b) ≤ n)
    (hab : b ≤ a) : b ≤ n ∧ (c → a ≤ n) := by
  by_cases hc : c
  · rw [if_pos hc] at h
    exact ⟨Nat.le_trans hab h, fun _ => h⟩
  · rw [if_neg hc] at h
    exact ⟨h, fun hc' => absurd hc' hc⟩

theorem of_ite_le {c : Prop} [Decidable c] {a b n : Nat} (h : n ≤ if c then a else b)
    (hab : a ≤ b) : n ≤ b ∧ (c → n ≤ a) := by
  by_cases hc : c
  · rw [if_pos hc] at h
    exact ⟨Nat.le_trans h hab, fun _ => h⟩
  · rw [if_neg hc] at h
    exact ⟨h, fun hc' => absurd hc' hc⟩

/-! ## Characters -/

/-- The numbers that stand for characters: surrogates do not. -/
def Scalar (v : Nat) : Prop :=
  v < 0xd800 ∨ 0xdfff < v ∧ v < 0x110000

theorem scalar_toNat (c : Char) : Scalar c.toNat := c.valid

theorem toNat_ofNat {v : Nat} (h : Scalar v) : (Char.ofNat v).toNat = v := by
  have valid : v.isValidChar := h
  unfold Char.ofNat
  rw [dif_pos valid]
  rfl

/-- The bytes of a code point. -/
def bytesOf (v : Nat) : List UInt8 :=
  if v ≤ 0x7f then [UInt8.ofNat v]
  else if v ≤ 0x7ff then [UInt8.ofNat (v / 64 % 0x20 + 0xc0), UInt8.ofNat (v % 0x40 + 0x80)]
  else if v ≤ 0xffff then
    [UInt8.ofNat (v / 4096 % 0x10 + 0xe0), UInt8.ofNat (v / 64 % 0x40 + 0x80),
      UInt8.ofNat (v % 0x40 + 0x80)]
  else
    [UInt8.ofNat (v / 262144 % 0x08 + 0xf0), UInt8.ofNat (v / 4096 % 0x40 + 0x80),
      UInt8.ofNat (v / 64 % 0x40 + 0x80), UInt8.ofNat (v % 0x40 + 0x80)]

theorem utf8EncodeChar_eq (c : Char) : String.utf8EncodeChar c = bytesOf c.toNat := rfl

theorem toNat_byte {n : Nat} (h : n < 256) : (UInt8.ofNat n).toNat = n := by
  rw [UInt8.toNat_ofNat']
  exact Nat.mod_eq_of_lt h

/-- The bytes of a code point are read as its character. -/
theorem step_bytesOf {v : Nat} (h : Scalar v) (rest : List UInt8) :
    ∃ b bs, bytesOf v = b :: bs ∧ step b (bs ++ rest) = .char (Char.ofNat v) rest := by
  unfold Scalar at h
  unfold bytesOf
  split
  · refine ⟨_, _, rfl, ?_⟩
    unfold step
    rw [toNat_byte (by omega), lead_one (by omega)]
    rfl
  split
  · refine ⟨_, _, rfl, ?_⟩
    have b₁ : (UInt8.ofNat (v % 64 + 128)).toNat = v % 64 + 128 := toNat_byte (by omega)
    unfold step
    rw [toNat_byte (by omega), lead_two (by omega) (by omega)]
    simp only [List.cons_append, List.nil_append, continuation]
    rw [follow_cons _ (by omega), b₁, follow]
    exact congrArg (fun n => Step.char (Char.ofNat n) rest) (by omega)
  split
  · refine ⟨_, _, rfl, ?_⟩
    have b₁ : (UInt8.ofNat (v / 64 % 64 + 128)).toNat = v / 64 % 64 + 128 := toNat_byte (by omega)
    have b₂ : (UInt8.ofNat (v % 64 + 128)).toNat = v % 64 + 128 := toNat_byte (by omega)
    unfold step
    rw [toNat_byte (by omega), lead_three (by omega) (by omega)]
    simp only [List.cons_append, List.nil_append, continuation]
    rw [follow_cons _ (by rw [b₁]; split <;> split <;> omega), b₁, follow_cons _ (by omega), b₂, follow]
    exact congrArg (fun n => Step.char (Char.ofNat n) rest) (by omega)
  · refine ⟨_, _, rfl, ?_⟩
    have b₁ : (UInt8.ofNat (v / 4096 % 64 + 128)).toNat = v / 4096 % 64 + 128 :=
      toNat_byte (by omega)
    have b₂ : (UInt8.ofNat (v / 64 % 64 + 128)).toNat = v / 64 % 64 + 128 := toNat_byte (by omega)
    have b₃ : (UInt8.ofNat (v % 64 + 128)).toNat = v % 64 + 128 := toNat_byte (by omega)
    unfold step
    rw [toNat_byte (by omega), lead_four (by omega) (by omega)]
    simp only [List.cons_append, List.nil_append, continuation]
    rw [follow_cons _ (by rw [b₁]; split <;> split <;> omega), b₁, follow_cons _ (by omega), b₂,
      follow_cons _ (by omega), b₃, follow]
    exact congrArg (fun n => Step.char (Char.ofNat n) rest) (by omega)

theorem eq_byte {b : UInt8} {n : Nat} (h : b.toNat = n) : UInt8.ofNat n = b := by
  subst h
  exact UInt8.ofNat_toNat

/-- What is read as a character are the bytes of a code point. -/
theorem bytesOf_of_step {b : UInt8} {bytes rest : List UInt8} {c : Char}
    (h : step b bytes = .char c rest) :
    ∃ v, Scalar v ∧ c = Char.ofNat v ∧ b :: bytes = bytesOf v ++ rest := by
  have hb := b.toNat_lt
  unfold step at h
  by_cases h₁ : b.toNat < 0x80
  · rw [lead_one h₁] at h
    simp only [follow, Step.char.injEq] at h
    obtain ⟨rfl, rfl⟩ := h
    refine ⟨b.toNat, .inl (by omega), rfl, ?_⟩
    unfold bytesOf
    rw [if_pos (by omega), eq_byte rfl]
    rfl
  by_cases h₂ : b.toNat < 0xc2
  · rw [lead_none (.inl ⟨by omega, h₂⟩)] at h
    cases h
  by_cases h₃ : b.toNat < 0xe0
  · rw [lead_two (by omega) h₃] at h
    simp only [continuation] at h
    obtain ⟨b₁, bs, rfl, lo, hi, h⟩ := follow_eq_char h
    simp only [follow, Step.char.injEq] at h
    obtain ⟨rfl, rfl⟩ := h
    refine ⟨_, .inl ?_, rfl, ?_⟩
    · omega
    · unfold bytesOf
      rw [if_neg (by omega), if_pos (by omega), eq_byte (b := b) (by omega),
        eq_byte (b := b₁) (by omega)]
      rfl
  by_cases h₄ : b.toNat < 0xf0
  · rw [lead_three (by omega) h₄] at h
    simp only [continuation] at h
    obtain ⟨b₁, bs, rfl, lo₁, hi₁, h⟩ := follow_eq_char h
    obtain ⟨b₂, bs, rfl, lo₂, hi₂, h⟩ := follow_eq_char h
    simp only [follow, Step.char.injEq] at h
    obtain ⟨rfl, rfl⟩ := h
    obtain ⟨lo, long⟩ := of_le_ite lo₁ (by omega)
    obtain ⟨hi, plain⟩ := of_ite_le hi₁ (by omega)
    refine ⟨_, ?_, rfl, ?_⟩
    · unfold Scalar
      omega
    · unfold bytesOf
      rw [if_neg (by omega), if_neg (by omega), if_pos (by omega),
        eq_byte (b := b) (by omega), eq_byte (b := b₁) (by omega), eq_byte (b := b₂) (by omega)]
      rfl
  by_cases h₅ : b.toNat < 0xf5
  · rw [lead_four (by omega) h₅] at h
    simp only [continuation] at h
    obtain ⟨b₁, bs, rfl, lo₁, hi₁, h⟩ := follow_eq_char h
    obtain ⟨b₂, bs, rfl, lo₂, hi₂, h⟩ := follow_eq_char h
    obtain ⟨b₃, bs, rfl, lo₃, hi₃, h⟩ := follow_eq_char h
    simp only [follow, Step.char.injEq] at h
    obtain ⟨rfl, rfl⟩ := h
    obtain ⟨lo, long⟩ := of_le_ite lo₁ (by omega)
    obtain ⟨hi, low⟩ := of_ite_le hi₁ (by omega)
    refine ⟨_, ?_, rfl, ?_⟩
    · unfold Scalar
      omega
    · unfold bytesOf
      rw [if_neg (by omega), if_neg (by omega), if_neg (by omega),
        eq_byte (b := b) (by omega), eq_byte (b := b₁) (by omega), eq_byte (b := b₂) (by omega),
        eq_byte (b := b₃) (by omega)]
      rfl
  · rw [lead_none (.inr (by omega))] at h
    cases h

/-! ## Texts -/

/-- The bytes of characters. -/
def encode (cs : List Char) : List UInt8 :=
  cs.flatMap String.utf8EncodeChar

theorem step_encode (c : Char) (rest : List UInt8) :
    ∃ b bs, String.utf8EncodeChar c = b :: bs ∧ step b (bs ++ rest) = .char c rest := by
  obtain ⟨b, bs, bytes, read⟩ := step_bytesOf (scalar_toNat c) rest
  rw [Char.ofNat_toNat] at read
  exact ⟨b, bs, bytes, read⟩

theorem encode_of_step {b : UInt8} {bytes rest : List UInt8} {c : Char}
    (h : step b bytes = .char c rest) : b :: bytes = String.utf8EncodeChar c ++ rest := by
  obtain ⟨v, scalar, rfl, same⟩ := bytesOf_of_step h
  rw [utf8EncodeChar_eq, toNat_ofNat scalar]
  exact same

theorem decodeFrom_encode (index : Nat) (acc cs : List Char) :
    decodeFrom index acc (encode cs) = .ok (acc.reverse ++ cs) := by
  induction cs generalizing index acc with
  | nil => simp [encode, decodeFrom]
  | cons c cs ih =>
    obtain ⟨b, bs, bytes, read⟩ := step_encode c (encode cs)
    have front : encode (c :: cs) = b :: (bs ++ encode cs) := by
      rw [encode, List.flatMap_cons, bytes]
      rfl
    rw [front, decodeFrom]
    split
    · rename_i read'
      rw [read] at read'
      cases read'
      rw [ih]
      simp
    · rename_i read'
      rw [read] at read'
      cases read'
    · rename_i read'
      rw [read] at read'
      cases read'

theorem encode_of_decodeFrom {index : Nat} {acc cs : List Char} {bytes : List UInt8}
    (h : decodeFrom index acc bytes = .ok cs) : ∃ ds, cs = acc.reverse ++ ds ∧ bytes = encode ds := by
  induction index, acc, bytes using decodeFrom.induct with
  | case1 index acc =>
    rw [decodeFrom] at h
    cases h
    exact ⟨[], by simp, rfl⟩
  | case2 index acc b bytes c rest read ih =>
    rw [decodeFrom] at h
    split at h
    · rename_i read'
      rw [read] at read'
      cases read'
      obtain ⟨ds, hcs, hrest⟩ := ih h
      refine ⟨c :: ds, by simp [hcs], ?_⟩
      rw [encode_of_step read, hrest]
      rfl
    · cases h
    · cases h
  | case3 index acc b bytes n rest read =>
    rw [decodeFrom] at h
    split at h
    · rename_i read'
      rw [read] at read'
      cases read'
    · cases h
    · cases h
  | case4 index acc b bytes read =>
    rw [decodeFrom] at h
    split at h
    · rename_i read'
      rw [read] at read'
      cases read'
    · cases h
    · cases h

/-- The bytes of a text. -/
def bytes (s : String) : List UInt8 :=
  s.toUTF8.data.toList

theorem bytes_eq_encode (s : String) : bytes s = encode s.toList := by
  unfold bytes encode
  show s.toByteArray.data.toList = _
  rw [← String.utf8Encode_toList, List.utf8Encode, List.toList_data_toByteArray]

theorem length_bytes (s : String) : (bytes s).length = s.utf8ByteSize := by
  unfold bytes
  exact Array.length_toList

/-- Bytes are read as a text exactly if they are its bytes. -/
theorem decode_iff {row : List UInt8} {s : String} : decode row = .ok s ↔ row = bytes s := by
  rw [bytes_eq_encode]
  unfold decode
  constructor
  · intro h
    cases hd : decodeFrom 0 [] row with
    | error m =>
      rw [hd] at h
      cases h
    | ok cs =>
      rw [hd] at h
      cases h
      obtain ⟨ds, rfl, hrow⟩ := encode_of_decodeFrom hd
      rw [String.toList_ofList]
      exact hrow
  · rintro rfl
    rw [decodeFrom_encode]
    simp [Except.map]

end HomeGateway.Text.Utf8

namespace HomeGateway.Connection

open HomeGateway Text

/-- Bytes that hold a text are read as that text is. -/
theorem reading_binary (limit : Nat) (s : String) :
    (Inbound.binary (Utf8.bytes s)).reading limit = (Inbound.text s).reading limit := by
  simp only [Inbound.reading]
  rw [Utf8.length_bytes, Utf8.decode_iff.2 rfl]

end HomeGateway.Connection
