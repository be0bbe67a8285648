/-
  Text as UTF-8 bytes.

  `step` reads one character: a lead byte fixes the number of continuation
  bytes and the range of the first of them, every further one lies in
  `80`–`bf`.  A row of bytes that breaks off this grammar is malformed from
  its lead byte on, for as many bytes as were still well formed (the maximal
  subpart); a row that ends too early is incomplete.

  * `decode` reads a whole text or says where it is malformed;
  * `decodeLossy` reads any bytes, one replacement character for each
    malformed part;
  * `cut limit s` is the longest prefix of `s` with at most `limit` bytes.
-/

namespace HomeGateway.Text.Utf8

/-! ## One character -/

/-- What the front of a row of bytes holds. -/
inductive Step where
  /-- a character and the bytes after it -/
  | char (c : Char) (rest : List UInt8)
  /-- `count` bytes that start no character, and the bytes after them -/
  | malformed (count : Nat) (rest : List UInt8)
  /-- the start of a character that the bytes do not finish -/
  | incomplete

/-- The range of an ordinary continuation byte. -/
def continuation : Nat × Nat := (0x80, 0xbf)

/-- For a lead byte: its share of the code point and the ranges of the
    continuation bytes it calls for. -/
def lead (b : Nat) : Option (Nat × List (Nat × Nat)) :=
  if b < 0x80 then some (b, [])
  else if b < 0xc2 then none
  else if b < 0xe0 then some (b - 0xc0, [continuation])
  else if b = 0xe0 then some (0, [(0xa0, 0xbf), continuation])
  else if b = 0xed then some (b - 0xe0, [(0x80, 0x9f), continuation])
  else if b < 0xf0 then some (b - 0xe0, [continuation, continuation])
  else if b = 0xf0 then some (0, [(0x90, 0xbf), continuation, continuation])
  else if b < 0xf4 then some (b - 0xf0, [continuation, continuation, continuation])
  else if b = 0xf4 then some (4, [(0x80, 0x8f), continuation, continuation])
  else none

/-- Read the continuation bytes of a character of which `seen` bytes are read
    and whose bits so far are `value`. -/
def follow (value seen : Nat) : List (Nat × Nat) → List UInt8 → Step
  | [], rest => .char (Char.ofNat value) rest
  | _ :: _, [] => .incomplete
  | (lo, hi) :: more, b :: rest =>
    if lo ≤ b.toNat ∧ b.toNat ≤ hi then
      follow (value * 64 + (b.toNat - 0x80)) (seen + 1) more rest
    else
      .malformed seen (b :: rest)

/-- Read the character that the byte `b` begins. -/
def step (b : UInt8) (rest : List UInt8) : Step :=
  match lead b.toNat with
  | none => .malformed 1 rest
  | some (value, ranges) => follow value 1 ranges rest

theorem length_follow {ranges : List (Nat × Nat)} {value seen : Nat} {bytes rest : List UInt8} :
    (∀ c, follow value seen ranges bytes = .char c rest → rest.length ≤ bytes.length) ∧
    (∀ n, follow value seen ranges bytes = .malformed n rest → rest.length ≤ bytes.length) := by
  induction ranges generalizing value seen bytes with
  | nil => simp +contextual [follow]
  | cons r more ih =>
    cases bytes with
    | nil => simp [follow]
    | cons b bs =>
      simp only [follow]
      split
      · obtain ⟨h₁, h₂⟩ := @ih (value * 64 + (b.toNat - 0x80)) (seen + 1) bs
        exact ⟨fun c h => Nat.le_succ_of_le (h₁ c h), fun n h => Nat.le_succ_of_le (h₂ n h)⟩
      · constructor
        · intro c h; cases h
        · intro n h; cases h; exact Nat.le_refl _

theorem length_step {b : UInt8} {bytes rest : List UInt8} :
    (∀ c, step b bytes = .char c rest → rest.length ≤ bytes.length) ∧
    (∀ n, step b bytes = .malformed n rest → rest.length ≤ bytes.length) := by
  unfold step
  split
  · constructor
    · intro c h; cases h
    · intro n h; cases h; exact Nat.le_refl _
  · exact length_follow

/-! ## Whole texts -/

/-- Where a row of bytes stops being text. -/
inductive Malformed where
  /-- `count` bytes from `index` on start no character -/
  | sequence (count index : Nat)
  /-- the bytes end inside the character that starts at `index` -/
  | incomplete (index : Nat)
deriving DecidableEq, Repr

/-- The wording of a malformed text. -/
def Malformed.message : Malformed → String
  | .sequence count index =>
    "invalid utf-8 sequence of " ++ toString count ++ " bytes from index " ++ toString index
  | .incomplete index => "incomplete utf-8 byte sequence from index " ++ toString index

/-- Read all bytes, with `index` bytes and the characters `acc` (last first)
    already read. -/
def decodeFrom (index : Nat) (acc : List Char) : List UInt8 → Except Malformed (List Char)
  | [] => .ok acc.reverse
  | b :: bytes =>
    match _h : step b bytes with
    | .char c rest => decodeFrom (index + c.utf8Size) (c :: acc) rest
    | .malformed count _ => .error (.sequence count index)
    | .incomplete => .error (.incomplete index)
termination_by bytes => bytes.length
decreasing_by exact Nat.lt_succ_of_le (length_step.1 _ _h)

/-- The text that the bytes hold, or where they are malformed. -/
def decode (bytes : List UInt8) : Except Malformed String :=
  (decodeFrom 0 [] bytes).map String.ofList

/-- The character that stands for a malformed part. -/
def replacement : Char := Char.ofNat 0xfffd

/-- Read any bytes, with the characters `acc` (last first) already read. -/
def decodeLossyFrom (acc : List Char) : List UInt8 → List Char
  | [] => acc.reverse
  | b :: bytes =>
    match _h : step b bytes with
    | .char c rest => decodeLossyFrom (c :: acc) rest
    | .malformed _ rest => decodeLossyFrom (replacement :: acc) rest
    | .incomplete => (replacement :: acc).reverse
termination_by bytes => bytes.length
decreasing_by
  · exact Nat.lt_succ_of_le (length_step.1 _ _h)
  · exact Nat.lt_succ_of_le (length_step.2 _ _h)

/-- The text that the bytes hold, with a replacement character for each
    malformed part. -/
def decodeLossy (bytes : List UInt8) : String :=
  String.ofList (decodeLossyFrom [] bytes)

/-! ## Lengths and cuts in bytes -/

/-- The number of bytes of a row of characters. -/
def size (cs : List Char) : Nat :=
  cs.foldr (fun c n => c.utf8Size + n) 0

/-- The longest front of `cs` with at most `limit` bytes. -/
def cutChars : Nat → List Char → List Char
  | _, [] => []
  | limit, c :: cs => if c.utf8Size ≤ limit then c :: cutChars (limit - c.utf8Size) cs else []

/-- The longest prefix of `s` with at most `limit` bytes. -/
def cut (limit : Nat) (s : String) : String :=
  String.ofList (cutChars limit s.toList)

theorem cutChars_prefix (limit : Nat) (cs : List Char) : cutChars limit cs <+: cs := by
  induction cs generalizing limit with
  | nil => simp [cutChars]
  | cons c cs ih =>
    simp only [cutChars]
    split
    · exact List.cons_prefix_cons.2 ⟨rfl, ih _⟩
    · exact List.nil_prefix

theorem size_cutChars_le (limit : Nat) (cs : List Char) : size (cutChars limit cs) ≤ limit := by
  induction cs generalizing limit with
  | nil => simp [cutChars, size]
  | cons c cs ih =>
    simp only [cutChars]
    split
    · have := ih (limit - c.utf8Size)
      simp only [size, List.foldr_cons] at this ⊢
      omega
    · simp [size]

end HomeGateway.Text.Utf8
