/-
  Reading what was written.

  The automaton that reads the text of a value comes to the document of the
  value, wherever in a text the value stands.  Only the end of a number is not
  its own: it is seen at the comma or the bracket after it, or at the end of the
  text.  So `State.Ready` says that a value is read but for that.

  A whole number of 64 bits is read back as it was written.  Of a floating-point
  number this depends on its digits, so it is asked of each.

  * `Numeral.Spells`: what the characters of a number are;
  * `spells_intChars`, `spells_floatText`: numbers that are read back;
  * `ready_chars`, `put_itemsChars`, `put_fieldsChars`: one value, the rest of an array, the rest
    of an object;
  * `outline_render`: the text of a value.
-/
import HomeGateway.Json.Reader
import HomeGateway.Proofs.PairingCodes
import HomeGateway.Proofs.Arrangements

namespace HomeGateway

/-! ## Digits -/

namespace Text

theorem digitsValue_toDigits (n : Nat) : digitsValue (Nat.toDigits 10 n) = n := by
  have fold : digitsValue (Nat.toDigits 10 n) = Nat.ofDigitChars 10 (Nat.toDigits 10 n) 0 := by
    rw [Nat.ofDigitChars_eq_foldl, digitsValue]
    refine congrArg (fun f => List.foldl f 0 (Nat.toDigits 10 n)) ?_
    funext m c
    rw [Nat.mul_comm]
    rfl
  rw [fold, Nat.ofDigitChars_ten_toDigits]

/-- A positive number does not begin with a zero. -/
theorem toDigits_eq_cons {n : Nat} (pos : 0 < n) :
    ∃ c rest, Nat.toDigits 10 n = c :: rest ∧ c ≠ '0' := by
  induction n using Nat.strongRecOn with
  | ind n ih =>
    by_cases small : n < 10
    · refine ⟨_, [], Nat.toDigits_of_lt_base small, ?_⟩
      have digits : ∀ d < 10, 0 < d → d.digitChar ≠ '0' := by decide
      exact digits n small pos
    · obtain ⟨c, rest, digits, first⟩ := ih (n / 10) (by omega) (by omega)
      exact ⟨c, _, by rw [Nat.toDigits_of_base_le (by decide) (by omega), digits]; rfl, first⟩

end Text

namespace Json

open Document

/-! ## Numbers -/

namespace Numeral

variable {n m : Numeral} {cs : List Char} {c : Char} {v : Json}

/-- The number after more characters, if all of them belong to it. -/
def follow (n : Numeral) : List Char → Option Numeral
  | [] => some n
  | c :: cs =>
    match n.feed c with
    | .more m => m.follow cs
    | .ended => none
    | .wrong => none

/-- The characters are a number. -/
def Spells (cs : List Char) (v : Json) : Prop :=
  ∃ c rest n m, cs = c :: rest ∧ start? c = some n ∧ n.follow rest = some m ∧ m.complete ∧
    m.document = .leaf v

/-- What may follow a number in a text ends it. -/
theorem feed_ended (complete : n.complete) (hc : c = ',' ∨ c = ']' ∨ c = '\x7d') :
    n.feed c = .ended := by
  unfold Numeral.complete at complete
  rcases hc with rfl | rfl | rfl <;> unfold feed <;> split <;> simp_all [tail, Text.isDigit]

/-- Digits continue the digits before the point. -/
theorem follow_digits (whole : n.phase = .whole) (digits : ∀ c ∈ cs, Text.isDigit c) :
    n.follow cs = some { n with whole := cs.reverse ++ n.whole } := by
  induction cs generalizing n with
  | nil => rfl
  | cons c cs ih =>
    obtain ⟨digit, digits⟩ := List.forall_mem_cons.1 digits
    have fed : n.feed c = .more { n with whole := c :: n.whole } := by simp [feed, whole, digit]
    simp only [follow, fed, ih (n := { n with whole := c :: n.whole }) whole digits,
      List.reverse_cons, List.append_assoc, List.singleton_append]

/-- The digits of a positive number, after the first of them was read. -/
theorem follow_toDigits {n : Nat} (pos : 0 < n) (negative : Bool) :
    ∃ c rest m, Nat.toDigits 10 n = c :: rest ∧ c ≠ '0' ∧ Text.isDigit c ∧
      follow ⟨.whole, negative, [c], [], false, [], false⟩ rest = some m ∧ m.complete ∧
      ∀ v, wholeOf? negative (Nat.toDigits 10 n) = some v → m.document = .leaf v := by
  obtain ⟨c, rest, begins, first⟩ := Text.toDigits_eq_cons pos
  have digits : ∀ d ∈ c :: rest, Text.isDigit d :=
    fun d hd => Text.isDigit_of_mem_toDigits (begins ▸ hd)
  obtain ⟨digit, digits⟩ := List.forall_mem_cons.1 digits
  refine ⟨c, rest, _, begins, first, digit, follow_digits rfl digits, rfl, fun v value => ?_⟩
  rw [begins] at value
  simp [document, Numeral.complete, value]

end Numeral

open Numeral

theorem wholeOf?_toDigits {n : Nat} (fits : n ≤ maxWord) :
    wholeOf? false (Nat.toDigits 10 n) = some (.int n) := by
  simp [wholeOf?, Text.digitsValue_toDigits, fits]

theorem wholeOf?_toDigits_neg {n : Nat} (pos : 0 < n) (fits : n ≤ lowestMagnitude) :
    wholeOf? true (Nat.toDigits 10 n) = some (.int (-n)) := by
  simp [wholeOf?, Text.digitsValue_toDigits, pos, fits]

/-- A whole number of 64 bits is written as one. -/
theorem spells_intChars {i : Int} (least : -lowestMagnitude ≤ i) (greatest : i ≤ maxWord) :
    Spells (intChars i) (.int i) := by
  rcases Int.lt_trichotomy i 0 with negative | rfl | positive
  · have pos : 0 < i.natAbs := Int.natAbs_pos.2 (ne_of_lt negative)
    obtain ⟨c, rest, m, begins, first, digit, followed, complete, means⟩ :=
      follow_toDigits pos true
    refine ⟨'-', c :: rest, _, m, ?_, rfl, ?_, complete, means _ ?_⟩
    · rw [intChars, if_pos negative, begins]
    · simpa [follow, Numeral.feed, first, digit] using followed
    · rw [wholeOf?_toDigits_neg pos (by omega), show -(i.natAbs : Int) = i by omega]
  · let zero : Numeral := ⟨.zero, false, ['0'], [], false, [], false⟩
    exact ⟨'0', [], zero, zero, rfl, rfl, rfl, rfl, rfl⟩
  · have pos : 0 < i.natAbs := Int.natAbs_pos.2 (ne_of_gt positive)
    obtain ⟨c, rest, m, begins, first, digit, followed, complete, means⟩ :=
      follow_toDigits pos false
    refine ⟨c, rest, _, m, ?_, ?_, followed, complete, means _ ?_⟩
    · rw [intChars, if_neg (by omega), begins]
    · have dash : c ≠ '-' := fun same => absurd (same ▸ digit) (by decide)
      simp [start?, dash, first, digit]
    · rw [wholeOf?_toDigits (by omega), show (i.natAbs : Int) = i by omega]

/-! ## Floating-point numbers -/

/-- A character of a number as it is written. -/
def Numeric (c : Char) : Prop :=
  Text.isDigit c ∨ c ∈ ['-', '+', '.', 'e']

theorem Numeric.not_isGap {c : Char} (h : Numeric c) : isGap c = false := by
  by_contra gap
  simp only [isGap, Bool.not_eq_false, Bool.or_eq_true, decide_eq_true_eq] at gap
  unfold Numeric at h
  rcases gap with ((rfl | rfl) | rfl) | rfl <;> revert h <;> decide

theorem numeric_toDigits {n : Nat} {c : Char} (h : c ∈ Nat.toDigits 10 n) : Numeric c :=
  .inl (Text.isDigit_of_mem_toDigits h)

theorem numeric_replicate {n : Nat} {c : Char} (h : c ∈ List.replicate n '0') : Numeric c :=
  List.eq_of_mem_replicate h ▸ .inl (by decide)

theorem numeric_pointAfter {n : Nat} {digits : List Char} (numeric : ∀ c ∈ digits, Numeric c) :
    ∀ c ∈ Double.pointAfter n digits, Numeric c := by
  intro c hc
  unfold Double.pointAfter at hc
  split at hc
  · simp only [List.mem_append, List.mem_cons, List.not_mem_nil, or_false] at hc
    rcases hc with (digit | zero) | rfl | rfl
    · exact numeric c digit
    · exact numeric_replicate zero
    · exact .inr (by decide)
    · exact .inl (by decide)
  · rcases List.mem_append.1 hc with before | after
    · exact numeric c (List.mem_of_mem_take before)
    · rcases List.mem_cons.1 after with rfl | after
      · exact .inr (by decide)
      · exact numeric c (List.mem_of_mem_drop after)

theorem numeric_set {layout : Double.Layout} {digits : List Char} {first : Int}
    (numeric : ∀ c ∈ digits, Numeric c) : ∀ c ∈ layout.set digits first, Numeric c := by
  intro c hc
  unfold Double.Layout.set at hc
  split at hc
  · split at hc
    · exact numeric_pointAfter numeric c hc
    · simp only [List.cons_append, List.mem_cons, List.mem_append] at hc
      rcases hc with rfl | rfl | zero | digit
      · exact .inl (by decide)
      · exact .inr (by decide)
      · exact numeric_replicate zero
      · exact numeric c digit
  · simp only [List.mem_append, List.mem_cons] at hc
    rcases hc with mantissa | rfl | rfl | power
    · split at mantissa
      · exact numeric c mantissa
      · exact numeric_pointAfter numeric c mantissa
    · exact .inr (by decide)
    · split <;> exact .inr (by decide)
    · exact numeric_toDigits power

theorem numeric_shortest {m : Nat} {c : Char} (hc : c ∈ (Double.shortest m).1) : Numeric c := by
  have kept := (List.dropWhile_sublist _).mem (List.mem_reverse.1 hc)
  exact numeric_toDigits (List.mem_reverse.1 kept)

theorem numeric_floatText (d : Double) : ∀ c ∈ (floatText d).toList, Numeric c := by
  have sign : ∀ c ∈ (if d.isNegative then ['-'] else []), Numeric c := by
    split
    · exact List.forall_mem_singleton.2 (.inr (by decide))
    · exact List.forall_mem_nil _
  intro c hc
  unfold floatText Double.Layout.render at hc
  dsimp only at hc
  split at hc <;> rw [String.toList_ofList, List.mem_append] at hc
  · rcases hc with dash | zero
    · exact sign c dash
    · exact (List.forall_mem_cons.2 ⟨.inl (by decide), List.forall_mem_cons.2 ⟨.inr (by decide),
        List.forall_mem_singleton.2 (.inl (by decide))⟩⟩ : ∀ c ∈ ['0', '.', '0'], Numeric c) c zero
  · rcases hc with dash | digits
    · exact sign c dash
    · exact numeric_set (fun _ => numeric_shortest) c digits

namespace State

theorem foldl_stopped {st : State} (stopped : st.mode = .stopped) (cs : List Char) :
    (cs.foldl feed st).mode = .stopped := by
  induction cs generalizing st with
  | nil => exact stopped
  | cons c cs ih => exact ih (by rw [feed, stopped]; exact stopped)

/-- Nothing but blanks may come after the outermost value. -/
theorem feedNext_alone {result : Option Document} {c : Char} (h : isGap c = false) :
    (feedNext ⟨.next, [], result⟩ c).mode = .stopped := by
  simp only [feedNext, h, Bool.false_eq_true, if_false]
  split <;> rfl

/-- A number that is alone in its text is either followed to its end, or the text is broken. -/
theorem foldl_number {n : Numeral} {cs : List Char} (numeric : ∀ c ∈ cs, Numeric c) :
    (∃ m, n.follow cs = some m ∧ cs.foldl feed ⟨.number n, [], none⟩ = ⟨.number m, [], none⟩) ∨
      (cs.foldl feed ⟨.number n, [], none⟩).mode = .stopped := by
  induction cs generalizing n with
  | nil => exact .inl ⟨n, rfl, rfl⟩
  | cons c cs ih =>
    obtain ⟨own, numeric⟩ := List.forall_mem_cons.1 numeric
    rw [List.foldl_cons]
    cases fed : n.feed c with
    | more m =>
      have one : feed ⟨.number n, [], none⟩ c = ⟨.number m, [], none⟩ := by simp only [feed, fed]
      rw [one, Numeral.follow, fed]
      exact ih numeric
    | wrong =>
      refine .inr (foldl_stopped ?_ cs)
      simp only [feed, fed]
      rfl
    | ended =>
      refine .inr (foldl_stopped ?_ cs)
      simp only [feed, fed]
      exact feedNext_alone own.not_isGap

/-- A number begins where a value is wanted. -/
theorem feedValue_start {st : State} {c : Char} {n : Numeral} (h : Numeral.start? c = some n)
    (orEnd : Bool) : st.feedValue orEnd c = { st with mode := .number n } := by
  have other {d : Char} (none : Numeral.start? d = none) : c ≠ d := fun same =>
    nomatch (same ▸ h).symm.trans none
  have gap : isGap c = false := by
    simp [isGap, other (d := ' ') rfl, other (d := '\t') rfl, other (d := '\n') rfl,
      other (d := '\r') rfl]
  simp only [feedValue, gap, Bool.false_eq_true, if_false, other (d := '[') rfl,
    other (d := '\x7b') rfl, other (d := '"') rfl, other (d := 't') rfl, other (d := 'f') rfl,
    other (d := 'n') rfl, h]

end State

/-- A text that breaks is none. -/
theorem parse_of_stopped {t : String} (stopped : (t.toList.foldl State.feed State.start).mode =
    .stopped) (v : Json) : parse t ≠ .ok v := by
  have finish : (t.toList.foldl State.feed State.start).finish.mode = .stopped := by
    unfold State.finish State.halt
    simp only [stopped]
  simp only [parse, outline, finish]
  split <;> simp

/-- A text that is a number is read as its document. -/
theorem value_of_number {t : String} {m : Numeral} {v : Json}
    (last : t.toList.foldl State.feed State.start = ⟨.number m, [], none⟩)
    (read : parse t = .ok v) : m.complete ∧ m.document.value (some maxDepth) = .ok v := by
  by_cases complete : m.complete
  · have finish : State.finish ⟨.number m, [], none⟩ = ⟨.next, [], some m.document⟩ := by
      simp only [State.finish, complete, if_true]
      rfl
    simp only [parse, outline, last, finish, Option.getD_some, if_true] at read
    split at read
    · cases read
    · exact ⟨complete, by rwa [← Except.ok.inj read]⟩
  · have finish : State.finish ⟨.number m, [], none⟩ = ⟨.stopped, [], some .broken⟩ := by
      simp only [State.finish, complete]
      rfl
    simp only [parse, outline, last, finish] at read
    cases read

theorem value_leaf {room : Room} {doc : Document} {d : Double}
    (read : doc.value room = .ok (.float d)) : doc = .leaf (.float d) := by
  cases doc with
  | leaf v => exact congrArg _ (Except.ok.inj read)
  | unreadable | broken => cases read
  | arr items closed =>
    simp only [Document.value] at read
    repeat' split at read
    all_goals cases read
  | obj members closed =>
    simp only [Document.value] at read
    repeat' split at read
    all_goals cases read

/-- A floating-point number that is read back is written as a number. -/
theorem spells_floatText {d : Double} (back : parse (render (.float d)) = .ok (.float d)) :
    Spells (floatText d).toList (.float d) := by
  have numeric := numeric_floatText d
  have broken (stopped : ((floatText d).toList.foldl State.feed State.start).mode = .stopped) :
      False :=
    parse_of_stopped (t := render (.float d)) (by rwa [render, String.toList_ofList, chars]) _ back
  cases begins : (floatText d).toList with
  | nil =>
    rw [render, chars, begins] at back
    cases back
  | cons c rest =>
    rw [begins] at broken numeric
    obtain ⟨first, numeric⟩ := List.forall_mem_cons.1 numeric
    cases started : start? c with
    | none =>
      refine (broken (State.foldl_stopped ?_ rest)).elim
      rcases first with digit | sign
      · simp only [start?, digit, if_true] at started
        repeat' split at started
        all_goals cases started
      · simp only [List.mem_cons, List.not_mem_nil, or_false] at sign
        rcases sign with rfl | rfl | rfl | rfl
        · cases started
        all_goals rfl
    | some n =>
      have one : State.feed State.start c = ⟨.number n, [], none⟩ := State.feedValue_start started _
      rw [List.foldl_cons, one] at broken
      rcases State.foldl_number numeric with ⟨m, followed, last⟩ | stopped
      · have all : (render (.float d)).toList.foldl State.feed State.start =
            ⟨.number m, [], none⟩ := by
          rw [render, String.toList_ofList, chars, begins, List.foldl_cons, one, last]
        obtain ⟨complete, value⟩ := value_of_number all back
        exact ⟨c, rest, n, m, rfl, started, followed, complete, value_leaf value⟩
      · exact (broken stopped).elim

/-- A number is written so that it is read back. -/
def Spelt : Json → Prop
  | .int i => Spells (intChars i) (.int i)
  | .float d => Spells (floatText d).toList (.float d)
  | _ => True

/-! ## Texts -/

theorem escapeControl_eq {c : Char} (control : c.toNat < 0x20) : escapeControl c =
    ['\\', 'u', '0', '0', Nat.digitChar (c.toNat / 16), Nat.digitChar (c.toNat % 16)] := by
  have all : ∀ n < 0x20, ['\\', 'u'] ++ List.replicate (4 - (Nat.toDigits 16 n).length) '0' ++
      Nat.toDigits 16 n =
        ['\\', 'u', '0', '0', Nat.digitChar (n / 16), Nat.digitChar (n % 16)] := by
    decide
  exact all _ control

theorem hexValue?_digitChar {n : Nat} (h : n < 16) : Text.hexValue? (Nat.digitChar n) = some n := by
  have all : ∀ n < 16, Text.hexValue? (Nat.digitChar n) = some n := by decide
  exact all n h

namespace State

variable {st : State} {stack : List Open} {result : Option Document}

/-- A character as it is written in a text is read as itself. -/
theorem foldl_escapeChar {s : Span} (whole : s.high = none) (c : Char) :
    (escapeChar c).foldl feed ⟨.text s, stack, result⟩ =
      ⟨.text { s with acc := c :: s.acc }, stack, result⟩ := by
  have push : s.push c = { s with acc := c :: s.acc } := by simp [Span.push, Span.unpaired, whole]
  have short {d : Char} (escape : shortEscape? d = some c) (letter : d ≠ 'u') :
      ['\\', d].foldl feed ⟨.text s, stack, result⟩ =
        ⟨.text { s with acc := c :: s.acc }, stack, result⟩ := by
    simp [feed, feedText, feedEscape, escape, letter, push]
  unfold escapeChar
  split
  · exact short rfl (by decide)
  · exact short rfl (by decide)
  · exact short rfl (by decide)
  · exact short rfl (by decide)
  · exact short rfl (by decide)
  · exact short rfl (by decide)
  · exact short rfl (by decide)
  · split
    · rename_i control
      have high : Text.hexValue? (Nat.digitChar (c.toNat / 16)) = some (c.toNat / 16) :=
        hexValue?_digitChar (by omega)
      have low : Text.hexValue? (Nat.digitChar (c.toNat % 16)) = some (c.toNat % 16) :=
        hexValue?_digitChar (by omega)
      have zero : Text.hexValue? '0' = some 0 := rfl
      have unit : s.pushUnit (c.toNat / 16 * 16 + c.toNat % 16) = s.push c := by
        rw [show c.toNat / 16 * 16 + c.toNat % 16 = c.toNat by omega]
        have plain : (0xdc00 ≤ c.toNat && c.toNat ≤ 0xdfff) = false := by simp; omega
        have first : (0xd800 ≤ c.toNat && c.toNat ≤ 0xdbff) = false := by simp; omega
        simp [Span.pushUnit, plain, first, whole, Char.ofNat_toNat]
      rw [escapeControl_eq control]
      simp [feed, feedText, feedEscape, feedHex, zero, high, low, unit, push]
    · rename_i quote slash _ _ _ _ _ plain
      simp only [List.foldl_cons, List.foldl_nil, feed, feedText, if_neg quote, if_neg slash,
        if_neg plain, push]

theorem foldl_escaped {s : Span} (whole : s.high = none) (cs : List Char) :
    (cs.flatMap escapeChar).foldl feed ⟨.text s, stack, result⟩ =
      ⟨.text { s with acc := cs.reverse ++ s.acc }, stack, result⟩ := by
  induction cs generalizing s with
  | nil => rfl
  | cons c cs ih =>
    rw [List.flatMap_cons, List.foldl_append, foldl_escapeChar whole c,
      ih (s := { s with acc := c :: s.acc }) whole]
    simp

/-- Only the containers matter to where a value is put. -/
theorem put_mode (st : State) (mode : Mode) (doc : Document) :
    ({ st with mode := mode }).put doc = st.put doc :=
  rfl

/-- What comes between the quotes of a text, and the quotes. -/
theorem foldl_textChars {isName : Bool}
    (quote : st.feed '"' = ⟨.text ⟨isName, [], true, none⟩, st.stack, st.result⟩) (t : String) :
    (textChars t).foldl feed st =
      endText ⟨.text ⟨isName, t.toList.reverse, true, none⟩, st.stack, st.result⟩
        ⟨isName, t.toList.reverse, true, none⟩ := by
  have escaped := @foldl_escaped st.stack st.result ⟨isName, [], true, none⟩ rfl t.toList
  rw [textChars, List.cons_append, List.foldl_cons, quote, List.foldl_append, escaped]
  simp [feed, feedText]

theorem text?_reverse (isName : Bool) (t : String) :
    Span.text? ⟨isName, t.toList.reverse, true, none⟩ = some t := by
  simp [Span.text?, Span.unpaired]

/-- A text where a value is wanted. -/
theorem foldl_value_text {orEnd : Bool} (mode : st.mode = .value orEnd) (t : String) :
    (textChars t).foldl feed st = st.put (.leaf (.str t)) := by
  have quote : st.feed '"' = { st with mode := .text ⟨false, [], true, none⟩ } := by
    simp [feed, mode, feedValue, isGap]
  rw [foldl_textChars quote]
  simp only [endText, text?_reverse, Bool.false_eq_true, if_false, put_mode]

/-- A text where the name of a field is wanted. -/
theorem foldl_name_text {orEnd : Bool} {members : List (Option String × Document)}
    {name : Option String} (t : String) :
    (textChars t).foldl feed ⟨.name orEnd, .obj members name :: stack, result⟩ =
      ⟨.colon, .obj members (some t) :: stack, result⟩ := by
  have quote : feed ⟨.name orEnd, .obj members name :: stack, result⟩ '"' =
      ⟨.text ⟨true, [], true, none⟩, .obj members name :: stack, result⟩ := by
    simp [feed, feedName, isGap]
  rw [foldl_textChars quote]
  simp only [endText, text?_reverse, if_true]

/-! ## Values -/

/-- A document was read where the state wants a value, but for the end of a number. -/
def Ready (st : State) (doc : Document) (after : State) : Prop :=
  after = st.put doc ∨
    ∃ n, after = { st with mode := .number n } ∧ n.complete ∧ n.document = doc

variable {doc : Document} {after : State} {c : Char}

/-- What may come after a value finds the value in its place. -/
theorem Ready.feed (h : st.Ready doc after) (hc : c = ',' ∨ c = ']' ∨ c = '\x7d') :
    after.feed c = (st.put doc).feedNext c := by
  rcases h with rfl | ⟨n, rfl, complete, rfl⟩
  · have next : (st.put doc).mode = .next := by
      unfold put
      split <;> rfl
    rw [State.feed, next]
  · simp only [State.feed, n.feed_ended complete hc, put_mode]

/-- The end of the text finds the value in its place. -/
theorem Ready.finish (h : start.Ready doc after) : after.finish = ⟨.next, [], some doc⟩ := by
  rcases h with rfl | ⟨n, rfl, complete, rfl⟩
  · rfl
  · simp only [State.finish, complete, if_true]
    rfl

/-- A number where a value is wanted. -/
theorem ready_number {orEnd : Bool} (mode : st.mode = .value orEnd) {cs : List Char} {v : Json}
    (spells : Spells cs v) : st.Ready (.leaf v) (cs.foldl State.feed st) := by
  obtain ⟨c, rest, n, m, rfl, started, followed, complete, means⟩ := spells
  have one : st.feed c = { st with mode := .number n } := by
    rw [State.feed, mode]
    exact feedValue_start started orEnd
  have all (rest : List Char) : ∀ {n : Numeral}, n.follow rest = some m →
      rest.foldl State.feed { st with mode := .number n } = { st with mode := .number m } := by
    induction rest with
    | nil => exact fun same => by rw [Option.some.inj same]; rfl
    | cons c rest ih =>
      intro n followed
      rw [Numeral.follow] at followed
      split at followed
      · rename_i fed
        simp only [List.foldl_cons, State.feed, fed]
        exact ih followed
      · cases followed
      · cases followed
  refine .inr ⟨m, ?_, complete, means⟩
  rw [List.foldl_cons, one, all rest followed]

/-- Where a value is wanted, an array or an object may begin. -/
theorem feed_open {orEnd : Bool} (mode : st.mode = .value orEnd) :
    st.feed '[' = ⟨.value true, .arr [] :: st.stack, st.result⟩ ∧
      st.feed '\x7b' = ⟨.name true, .obj [] none :: st.stack, st.result⟩ := by
  simp [feed, mode, feedValue, isGap]

section

variable {mode : Mode} {items : List Document} {members : List (Option String × Document)}
  {name : Option String}

/-- After an item there may be another, or the array ends. -/
theorem Ready.item (h : State.Ready ⟨mode, .arr items :: stack, result⟩ doc after) :
    after.feed ',' = ⟨.value false, .arr (doc :: items) :: stack, result⟩ ∧
      after.feed ']' = State.put ⟨mode, stack, result⟩ (.arr (doc :: items).reverse true) :=
  ⟨h.feed (.inl rfl), h.feed (.inr (.inl rfl))⟩

/-- After a field there may be another, or the object ends. -/
theorem Ready.field (h : State.Ready ⟨mode, .obj members name :: stack, result⟩ doc after) :
    after.feed ',' = ⟨.name false, .obj ((name, doc) :: members) none :: stack, result⟩ ∧
      after.feed '\x7d' =
        State.put ⟨mode, stack, result⟩ (.obj ((name, doc) :: members).reverse true) :=
  ⟨h.feed (.inl rfl), h.feed (.inr (.inr rfl))⟩

/-- The name of a field and the colon after it. -/
theorem foldl_name {orEnd : Bool} (k : String) :
    (textChars k ++ [':']).foldl State.feed ⟨.name orEnd, .obj members name :: stack, result⟩ =
      ⟨.value false, .obj members (some k) :: stack, result⟩ := by
  rw [List.foldl_append, foldl_name_text]
  rfl

end

mutual

/-- A value where one is wanted. -/
theorem ready_chars : ∀ (w : Json) (st : State) {orEnd : Bool}, st.mode = .value orEnd →
    (∀ a ∈ w.numbers, a.Spelt) → st.Ready (ofJson w) (w.chars.foldl State.feed st)
  | .null, st, _, mode, _ => .inl <| by
    simp [chars, State.feed, mode, feedValue, isGap, put_mode, ofJson]
  | .bool true, st, _, mode, _ => .inl <| by
    simp [chars, State.feed, mode, feedValue, isGap, put_mode, ofJson]
  | .bool false, st, _, mode, _ => .inl <| by
    simp [chars, State.feed, mode, feedValue, isGap, put_mode, ofJson]
  | .int i, st, _, mode, spelt => ready_number mode (spelt _ (List.mem_singleton_self _))
  | .float d, st, _, mode, spelt => ready_number mode (spelt _ (List.mem_singleton_self _))
  | .str s, st, _, mode, _ => .inl (foldl_value_text mode s)
  | .arr [], st, _, mode, _ => .inl <| by
    rw [chars, List.foldl_cons, (feed_open mode).1]
    rfl
  | .arr (x :: xs), st, _, mode, spelt => .inl <| by
    have first := ready_chars x ⟨.value true, .arr [] :: st.stack, st.result⟩ rfl
      fun a ha => spelt a (List.mem_append_left _ ha)
    rw [chars, List.foldl_cons, (feed_open mode).1, List.foldl_append,
      put_itemsChars xs first fun a ha => spelt a (List.mem_append_right _ ha)]
    rfl
  | .obj [], st, _, mode, _ => .inl <| by
    rw [chars, List.foldl_cons, (feed_open mode).2]
    rfl
  | .obj ((k, x) :: fs), st, _, mode, spelt => .inl <| by
    have first := ready_chars x ⟨.value false, .obj [] (some k) :: st.stack, st.result⟩ rfl
      fun a ha => spelt a (List.mem_append_left _ ha)
    have split : textChars k ++ ':' :: (chars x ++ fieldsChars fs) =
        (textChars k ++ [':']) ++ (chars x ++ fieldsChars fs) := by simp
    rw [chars, List.foldl_cons, (feed_open mode).2, split, List.foldl_append, foldl_name,
      List.foldl_append, put_fieldsChars fs first fun a ha => spelt a (List.mem_append_right _ ha)]
    rfl
termination_by structural w => w

/-- The items after the first, and the end of the array. -/
theorem put_itemsChars : ∀ (xs : List Json) {mode : Mode} {items : List Document}
    {stack : List Open} {result : Option Document} {doc : Document} {after : State},
    State.Ready ⟨mode, .arr items :: stack, result⟩ doc after →
    (∀ a ∈ itemsNumbers xs, a.Spelt) → (itemsChars xs).foldl State.feed after =
      State.put ⟨mode, stack, result⟩ (.arr (items.reverse ++ doc :: ofItems xs) true)
  | [], mode, items, stack, result, doc, after, ready, _ => by
    rw [itemsChars, List.foldl_cons, ready.item.2, List.reverse_cons]
    rfl
  | x :: xs, mode, items, stack, result, doc, after, ready, spelt => by
    have next := ready_chars x ⟨.value false, .arr (doc :: items) :: stack, result⟩ rfl
      fun a ha => spelt a (List.mem_append_left _ ha)
    rw [itemsChars, List.foldl_cons, ready.item.1, List.foldl_append,
      put_itemsChars xs next fun a ha => spelt a (List.mem_append_right _ ha), List.reverse_cons,
      List.append_assoc]
    rfl
termination_by structural xs => xs

/-- The fields after the first, and the end of the object. -/
theorem put_fieldsChars : ∀ (fs : List (String × Json)) {mode : Mode}
    {members : List (Option String × Document)} {name : Option String} {stack : List Open}
    {result : Option Document} {doc : Document} {after : State},
    State.Ready ⟨mode, .obj members name :: stack, result⟩ doc after →
    (∀ a ∈ fieldsNumbers fs, a.Spelt) → (fieldsChars fs).foldl State.feed after =
      State.put ⟨mode, stack, result⟩ (.obj (members.reverse ++ (name, doc) :: ofFields fs) true)
  | [], mode, members, name, stack, result, doc, after, ready, _ => by
    rw [fieldsChars, List.foldl_cons, ready.field.2, List.reverse_cons]
    rfl
  | (k, x) :: fs, mode, members, name, stack, result, doc, after, ready, spelt => by
    have next := ready_chars x
      ⟨.value false, .obj ((name, doc) :: members) (some k) :: stack, result⟩ rfl
      fun a ha => spelt a (List.mem_append_left _ ha)
    have split : textChars k ++ ':' :: (chars x ++ fieldsChars fs) =
        (textChars k ++ [':']) ++ (chars x ++ fieldsChars fs) := by simp
    rw [fieldsChars, List.foldl_cons, ready.field.1, split, List.foldl_append, foldl_name,
      List.foldl_append, put_fieldsChars fs next fun a ha => spelt a (List.mem_append_right _ ha),
      List.reverse_cons, List.append_assoc]
    rfl
termination_by structural fs => fs

end

end State

/-- The text of a value is read as its document. -/
theorem outline_render {w : Json} (spelt : ∀ a ∈ w.numbers, a.Spelt) :
    outline w.render = ⟨ofJson w, true⟩ := by
  have finish := (State.ready_chars w .start rfl spelt).finish
  rw [outline, render, String.toList_ofList, finish]
  rfl

end Json

end HomeGateway
