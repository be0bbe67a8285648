/-
  Reasons that are cut to the limit of a close.

  A close has room for so many bytes of a reason.  In the bytes of a longer one
  the way goes back from the limit, one byte at a time, to the start of a
  character.  No character has more than four bytes, so at most three are given
  up, and what is left is the longest front that has room.

  * `Boundary`, `boundary_encode`: where the bytes of a text can be cut;
  * `lastBoundary`, `cutBytes`: the way back in a row of bytes;
  * `prefix_cutChars`, `lt_size_cutChars`: how much of a text is kept;
  * `cutBytes_bytes`: cutting the bytes is cutting the text;
  * `outcome_cut`: the reason of a close.
-/
import HomeGateway.Gateway.Host
import HomeGateway.Proofs.Utf8

namespace HomeGateway

namespace Text.Utf8

variable {cs front : List Char} {row : List UInt8} {i k limit n : Nat} {s : String}

/-! ## Sizes -/

@[simp] theorem size_nil : size [] = 0 := rfl

@[simp] theorem size_cons (c : Char) (cs : List Char) : size (c :: cs) = c.utf8Size + size cs := rfl

theorem encode_cons (c : Char) (cs : List Char) :
    encode (c :: cs) = String.utf8EncodeChar c ++ encode cs := List.flatMap_cons

theorem encode_append (front back : List Char) :
    encode (front ++ back) = encode front ++ encode back := List.flatMap_append

theorem length_encode (cs : List Char) : (encode cs).length = size cs := by
  induction cs with
  | nil => rfl
  | cons c cs ih =>
    rw [encode_cons, List.length_append, String.length_utf8EncodeChar, ih, size_cons]

theorem size_toList (s : String) : size s.toList = s.utf8ByteSize := by
  rw [← length_encode, ← bytes_eq_encode, length_bytes]

theorem size_mono (h : front <+: cs) : size front ≤ size cs := by
  obtain ⟨back, rfl⟩ := h
  rw [← length_encode, ← length_encode, encode_append, List.length_append]
  exact Nat.le_add_right _ _

/-- A front of a text is a front of its bytes. -/
theorem take_encode (h : front <+: cs) : (encode cs).take (size front) = encode front := by
  obtain ⟨back, rfl⟩ := h
  rw [encode_append, ← length_encode, List.take_left]

/-! ## Boundaries -/

/-- A byte goes on with a character. -/
def Continues (b : UInt8) : Prop :=
  0x80 ≤ b.toNat ∧ b.toNat ≤ 0xbf

instance (b : UInt8) : Decidable (Continues b) :=
  inferInstanceAs (Decidable (_ ∧ _))

/-- A row of bytes can be cut before a byte that does not go on with a character, and at its end. -/
def Boundary (row : List UInt8) (i : Nat) : Prop :=
  i = row.length ∨ ∃ b ∈ row[i]?, ¬Continues b

instance (row : List UInt8) (i : Nat) : Decidable (Boundary row i) :=
  inferInstanceAs (Decidable (_ ∨ _))

theorem continues_ofNat {n : Nat} (small : n < 256) :
    Continues (UInt8.ofNat n) ↔ 0x80 ≤ n ∧ n ≤ 0xbf := by
  rw [Continues, toNat_byte small]

/-- The first byte of a character does not go on with one, and all others do. -/
theorem utf8EncodeChar_cons (c : Char) : ∃ b bs, String.utf8EncodeChar c = b :: bs ∧
    ¬Continues b ∧ ∀ b' ∈ bs, Continues b' := by
  have scalar := scalar_toNat c
  unfold Scalar at scalar
  have lead {n : Nat} (h : n < 0x80 ∨ 0xc0 ≤ n ∧ n < 256) : ¬Continues (UInt8.ofNat n) := by
    rw [continues_ofNat (by omega)]
    omega
  have tail (n : Nat) : Continues (UInt8.ofNat (n % 0x40 + 0x80)) := by
    rw [continues_ofNat (by omega)]
    omega
  have none := List.forall_mem_nil Continues
  rw [utf8EncodeChar_eq, bytesOf]
  split
  · exact ⟨_, _, rfl, lead (by omega), none⟩
  · split
    · exact ⟨_, _, rfl, lead (by omega), List.forall_mem_cons.2 ⟨tail _, none⟩⟩
    · split
      · exact ⟨_, _, rfl, lead (by omega),
          List.forall_mem_cons.2 ⟨tail _, List.forall_mem_cons.2 ⟨tail _, none⟩⟩⟩
      · exact ⟨_, _, rfl, lead (by omega), List.forall_mem_cons.2
          ⟨tail _, List.forall_mem_cons.2 ⟨tail _, List.forall_mem_cons.2 ⟨tail _, none⟩⟩⟩⟩

/-- Within a character there is no place to cut; after it the places are those of the rest. -/
theorem boundary_char {b : UInt8} {bs : List UInt8} (first : ¬Continues b)
    (others : ∀ b' ∈ bs, Continues b') :
    Boundary (b :: (bs ++ row)) i ↔ i = 0 ∨ bs.length < i ∧ Boundary row (i - (bs.length + 1)) := by
  cases i with
  | zero => simp [Boundary, first]
  | succ i =>
    by_cases inside : i < bs.length
    · have goes : Continues bs[i] := others _ (List.getElem_mem inside)
      have byte : (b :: (bs ++ row))[i + 1]? = some bs[i] := by
        rw [List.getElem?_cons_succ, List.getElem?_append_left inside,
          List.getElem?_eq_getElem inside]
      have ends : i + 1 ≠ (b :: (bs ++ row)).length := by
        rw [List.length_cons, List.length_append]
        omega
      have before : ¬bs.length < i + 1 := by omega
      simp only [Boundary, byte, ends, before, goes, Option.mem_some_iff, exists_eq_left',
        not_true_eq_false, or_self, Nat.add_one_ne_zero, false_and]
    · have past : bs.length ≤ i := Nat.le_of_not_lt inside
      have ends : i + 1 = (b :: (bs ++ row)).length ↔ i - bs.length = row.length := by
        rw [List.length_cons, List.length_append]
        omega
      simp only [Boundary, ends, List.getElem?_cons_succ, List.getElem?_append_right past,
        Nat.add_sub_add_right, Nat.lt_succ_of_le past, true_and, Nat.add_one_ne_zero, false_or]

/-- The bytes of a text can be cut exactly where a front of the text ends. -/
theorem boundary_encode : Boundary (encode cs) i ↔ ∃ front, front <+: cs ∧ size front = i := by
  induction cs generalizing i with
  | nil => simp [Boundary, encode, eq_comm]
  | cons c cs ih =>
    obtain ⟨b, bs, char, first, others⟩ := utf8EncodeChar_cons c
    have width : c.utf8Size = bs.length + 1 := by
      rw [← String.length_utf8EncodeChar, char, List.length_cons]
    -- A front is empty, or it is the first character and a front of the others.
    rw [encode_cons, char, List.cons_append, boundary_char first others, ih]
    constructor
    · rintro (rfl | ⟨past, front, pre, same⟩)
      · exact ⟨[], List.nil_prefix, rfl⟩
      · exact ⟨c :: front, List.cons_prefix_cons.2 ⟨rfl, pre⟩, by rw [size_cons]; omega⟩
    · rintro ⟨front, pre, rfl⟩
      cases front with
      | nil => exact .inl rfl
      | cons d front =>
        obtain ⟨rfl, later⟩ := List.cons_prefix_cons.1 pre
        exact .inr ⟨by rw [size_cons]; omega, front, later, by rw [size_cons]; omega⟩

/-! ## The way back -/

/-- The last place up to an index where a row can be cut, found by going back one byte at a time;
    nothing if the way goes on beyond the first byte. -/
def lastBoundary (row : List UInt8) : Nat → Option Nat
  | 0 => if Boundary row 0 then some 0 else none
  | i + 1 => if Boundary row (i + 1) then some (i + 1) else lastBoundary row i

/-- A row of bytes that is cut to a limit, if the way back from there ends. -/
def cutBytes (limit : Nat) (row : List UInt8) : Option (List UInt8) :=
  if row.length ≤ limit then some row else (lastBoundary row limit).map row.take

theorem lastBoundary_of_greatest (within : k ≤ i) (boundary : Boundary row k)
    (greatest : ∀ j, k < j → j ≤ i → ¬Boundary row j) : lastBoundary row i = some k := by
  induction i with
  | zero =>
    obtain rfl := Nat.le_zero.1 within
    rw [lastBoundary, if_pos boundary]
  | succ i ih =>
    rcases Nat.lt_or_eq_of_le within with less | rfl
    · rw [lastBoundary, if_neg (greatest (i + 1) less (Nat.le_refl _))]
      exact ih (Nat.le_of_lt_succ less) fun j past le => greatest j past (Nat.le_succ_of_le le)
    · rw [lastBoundary, if_pos boundary]

/-! ## What is kept -/

/-- No front that has room is longer. -/
theorem prefix_cutChars (h : front <+: cs) (room : size front ≤ limit) :
    front <+: cutChars limit cs := by
  induction cs generalizing front limit with
  | nil => exact h
  | cons c cs ih =>
    cases front with
    | nil => exact List.nil_prefix
    | cons d front =>
      obtain ⟨rfl, pre⟩ := List.cons_prefix_cons.1 h
      rw [size_cons] at room
      rw [cutChars, if_pos (by omega)]
      exact List.cons_prefix_cons.2 ⟨rfl, ih pre (by omega)⟩

theorem cutChars_of_le (room : size cs ≤ limit) : cutChars limit cs = cs := by
  have kept := cutChars_prefix limit cs
  have all : cs <+: cutChars limit cs := prefix_cutChars (List.prefix_refl cs) room
  exact kept.eq_of_length (Nat.le_antisymm kept.length_le all.length_le)

/-- Less than one character is given up. -/
theorem lt_size_cutChars (beyond : limit < size cs) : limit < size (cutChars limit cs) + 4 := by
  induction cs generalizing limit with
  | nil => cases beyond
  | cons c cs ih =>
    rw [size_cons] at beyond
    rw [cutChars]
    split
    · have rest := @ih (limit - c.utf8Size) (by omega)
      rw [size_cons]
      omega
    · have most := c.utf8Size_le_four
      rw [size_nil]
      omega

theorem lastBoundary_encode (limit : Nat) (cs : List Char) :
    lastBoundary (encode cs) limit = some (size (cutChars limit cs)) := by
  refine lastBoundary_of_greatest (size_cutChars_le limit cs)
    (boundary_encode.2 ⟨_, cutChars_prefix limit cs, rfl⟩) fun j past within boundary => ?_
  obtain ⟨front, pre, rfl⟩ := boundary_encode.1 boundary
  exact Nat.not_le_of_lt past (size_mono (prefix_cutChars pre within))

/-- To cut the bytes of a text is to cut the text. -/
theorem cutBytes_bytes (limit : Nat) (s : String) :
    cutBytes limit (bytes s) = some (bytes (cut limit s)) := by
  rw [bytes_eq_encode, bytes_eq_encode, cut, String.toList_ofList, cutBytes, length_encode]
  by_cases room : size s.toList ≤ limit
  · rw [if_pos room, cutChars_of_le room]
  · have kept := cutChars_prefix limit s.toList
    rw [if_neg room, lastBoundary_encode, Option.map_some, take_encode kept]

end Text.Utf8

namespace Close

open Text.Utf8

/-- What is kept of a reason that is cut to a limit. -/
structure Keeps (limit : Nat) (reason kept : String) : Prop where
  /-- it is found in the bytes of the reason, and the way back to it ends -/
  found : cutBytes limit (bytes reason) = some (bytes kept)
  /-- it is a front of the reason -/
  front : kept.toList <+: reason.toList
  /-- it has room -/
  room : kept.utf8ByteSize ≤ limit
  /-- no other front that has room is longer -/
  longest : ∀ other : String, other.toList <+: reason.toList → other.utf8ByteSize ≤ limit →
    other.toList <+: kept.toList
  /-- a reason that has room is kept as it is -/
  whole : reason.utf8ByteSize ≤ limit → kept = reason
  /-- of a longer one there is room for less than another character -/
  full : limit < reason.utf8ByteSize → limit ≤ kept.utf8ByteSize + 3

theorem keeps_cut (limit : Nat) (reason : String) : Keeps limit reason (cut limit reason) := by
  have chars : (cut limit reason).toList = cutChars limit reason.toList := String.toList_ofList
  refine ⟨cutBytes_bytes limit reason, ?_, ?_, fun other pre room => ?_, fun room => ?_,
    fun beyond => ?_⟩
  · rw [chars]
    exact cutChars_prefix limit reason.toList
  · rw [← size_toList, chars]
    exact size_cutChars_le limit reason.toList
  · rw [chars]
    exact prefix_cutChars pre (size_toList other ▸ room)
  · rw [cut, cutChars_of_le (size_toList reason ▸ room), String.ofList_toList]
  · rw [← size_toList] at beyond ⊢
    rw [chars]
    exact Nat.le_of_lt_succ (lt_size_cutChars beyond)

/-- **The reason of a close.**  Whatever the reason is, the way back from its 123rd byte ends
    between two characters, and the longest front that has room is kept: the reason itself, or at
    least 120 bytes of it. -/
theorem outcome_cut (code : Nat) (reason : String) :
    ∃ kept, outcome code reason = .close code kept ∧ Keeps 123 reason kept :=
  ⟨_, rfl, keeps_cut 123 reason⟩

/-- A hundred letters of two bytes; the limit falls between the bytes of one. -/
example : outcome refused (String.ofList (List.replicate 100 'é')) =
    .close refused (String.ofList (List.replicate 61 'é')) := by
  simp only [outcome, cut, String.toList_ofList]
  rfl

end Close

end HomeGateway
