/-
  Which notice uses up which lock.

  A history lists what is asked of the locks of an endpoint, and when.  It tells
  by itself which lock each call uses up: the oldest one of its attribute and
  value that is alive and that no call before has used up.  In this account no
  lock is ever forgotten; the locks themselves forget those that are dead, of
  all attributes, whenever a lock is made or used up.

  * `Matches`: which lock each call of a history uses up;
  * `ledger`: an account kept call by call, and `ledger_eq`, `matches_used`: it
    is the one that the history tells;
  * `live_after`: the locks that are alive are those of the account;
  * `answers_alike`: what is asked of one attribute is answered as if nothing
    had been asked of the others;
  * `explains_history`: every answer to the calls of a history.
-/
import HomeGateway.Proofs.Expected

namespace HomeGateway.Bridge.UpdateLocks

open HomeGateway

/-! ## Histories -/

/-- What is asked of the locks. -/
inductive Operation where
  /-- expect the echo of a write -/
  | lock (key : String) (value : Json)
  /-- a notice: is it an expected echo? -/
  | consume (key : String) (value : Json)
  /-- give up the lock of a write -/
  | release (key : String) (value : Json)
  /-- is an echo of the attribute expected? -/
  | isLocked (key : String)

namespace Operation

/-- The attribute that is asked about. -/
def key : Operation → String
  | lock key _ | consume key _ | release key _ | isLocked key => key

/-- The lock that an operation makes. -/
def makes? (window now : Nat) : Operation → Option Lock
  | lock key value => some ⟨key, value, now + window⟩
  | _ => none

/-- The attribute and value of which an operation uses up a lock. -/
def uses? : Operation → Option (String × Json)
  | consume key value | release key value => some (key, value)
  | _ => none

end Operation

/-- The answer to an operation, if it has one, and the locks afterwards. -/
def perform (now : Nat) (u : UpdateLocks) : Operation → Option Bool × UpdateLocks
  | .lock key value => (none, u.lock now key value)
  | .consume key value => (some (u.consume now key value).1, (u.consume now key value).2)
  | .release key value => (none, u.release now key value)
  | .isLocked key => (some (u.isLocked now key), u)

/-- An operation and the time at which it is asked for. -/
structure Call where
  /-- the time -/
  time : Nat
  /-- what is asked -/
  op : Operation

/-- The answers to the calls of a history, one by one. -/
def answers (u : UpdateLocks) : List Call → List (Option Bool)
  | [] => []
  | c :: rest => (u.perform c.time c.op).1 :: answers (u.perform c.time c.op).2 rest

/-- The locks after a history. -/
def after (u : UpdateLocks) (h : List Call) : UpdateLocks :=
  h.foldl (fun u c => (u.perform c.time c.op).2) u

/-- Time does not run backwards. -/
def Ordered (h : List Call) : Prop :=
  h.Pairwise fun c d => c.time ≤ d.time

/-! ## What a history tells -/

section

variable (window : Nat) (h : List Call) (used : Nat → Option Nat)

/-- The lock that the call in position `i` makes. -/
def made? (i : Nat) : Option Lock :=
  (h[i]?).bind fun c => c.op.makes? window c.time

/-- The lock made in position `i`, if no call before position `j` uses it up.  It may be dead. -/
def standing? (j i : Nat) : Option Lock :=
  if ∀ j' < j, used j' ≠ some i then made? window h i else none

/-- The call in position `j` may use up the lock made in position `i`: it was made before, it
    stands, it is of the attribute and value of the call, and it is alive. -/
def MayUse (j i : Nat) : Prop :=
  i < j ∧ ∃ c key value l, h[j]? = some c ∧ c.op.uses? = some (key, value) ∧
    standing? window h used j i = some l ∧ l.expects key value = true ∧ l.live c.time = true

/-- Each call uses up the oldest lock that it may. -/
def Matches : Prop :=
  ∀ j i, used j = some i ↔
    MayUse window h used j i ∧ ∀ i' < i, ¬MayUse window h used j i'

/-- What a history tells of the answers to its calls and of the locks in between. -/
structure Explains : Prop where
  /-- which lock each call uses up -/
  oldest : Matches window h used
  /-- no lock is used up twice -/
  once : ∀ j j' i, used j = some i → used j' = some i → j = j'
  /-- a notice is an expected echo if it uses up a lock -/
  consumed : ∀ j t key value, h[j]? = some ⟨t, .consume key value⟩ →
    ((empty window).answers h)[j]? = some (some (used j).isSome)
  /-- its lock was made before, less than the window ago, for the same attribute and value -/
  echoed : ∀ j t key value, h[j]? = some ⟨t, .consume key value⟩ →
    ((empty window).answers h)[j]? = some (some true) →
    ∃ i s v, used j = some i ∧ i < j ∧ h[i]? = some ⟨s, .lock key v⟩ ∧ v.same value = true ∧
      s ≤ t ∧ t - s < window
  /-- an echo is expected if a lock of the attribute stands and is alive -/
  locked : ∀ j t key, h[j]? = some ⟨t, .isLocked key⟩ →
    ∃ b, ((empty window).answers h)[j]? = some (some b) ∧
      (b = true ↔ ∃ i < j, ∃ l, standing? window h used j i = some l ∧ l.key = key ∧
        l.live t = true)
  /-- the locks that are alive are those that stand -/
  kept : ∀ j t, (∀ c ∈ h.take j, c.time ≤ t) →
    ((empty window).after (h.take j)).locks.filter (·.live t) =
      ((List.range j).filterMap (standing? window h used j)).filter (·.live t)

end

/-! ## The account of a history -/

/-- A lock in the account. -/
structure Entry where
  /-- the position of the call that made it -/
  made : Nat
  /-- the lock -/
  lock : Lock

/-- Whether a lock in the account is alive and of an attribute and value. -/
def Entry.fits (now : Nat) (key : String) (value : Json) (e : Entry) : Bool :=
  e.lock.expects key value && e.lock.live now

/-- The account after the call in position `j`. -/
def note (window j : Nat) (c : Call) (es : List Entry) : List Entry :=
  match c.op.uses? with
  | some (key, value) => es.eraseP (·.fits c.time key value)
  | none => es ++ ((c.op.makes? window c.time).map (Entry.mk j)).toList

section

variable (window : Nat) (h : List Call)

/-- The account before the call in position `j`. -/
def ledger : Nat → List Entry
  | 0 => []
  | j + 1 =>
    match h[j]? with
    | some c => note window j c (ledger j)
    | none => ledger j

/-- The entry of the account that the call in position `j` uses up. -/
def taken? (j : Nat) : Option Entry :=
  (h[j]?).bind fun c => c.op.uses?.bind fun use =>
    (ledger window h j).find? (·.fits c.time use.1 use.2)

/-- The position in which it was made. -/
def used (j : Nat) : Option Nat :=
  (taken? window h j).map Entry.made

end

section

variable {window : Nat} {h : List Call} {j i : Nat} {c : Call} {es : List Entry}

theorem makes?_of_uses {op : Operation} {use : String × Json} (hu : op.uses? = some use)
    (now : Nat) : op.makes? window now = none := by
  cases op with
  | lock | isLocked => cases hu
  | consume | release => rfl

theorem ledger_succ (hc : h[j]? = some c) :
    ledger window h (j + 1) = note window j c (ledger window h j) := by
  simp only [ledger, hc]

theorem ledger_succ_none (hc : h[j]? = none) :
    ledger window h (j + 1) = ledger window h j := by
  simp only [ledger, hc]

theorem sublist_note : (note window j c es).Sublist
    (es ++ ((c.op.makes? window c.time).map (Entry.mk j)).toList) := by
  unfold note
  split
  · exact List.eraseP_sublist.trans (List.sublist_append_left _ _)
  · exact List.Sublist.refl _

/-- Entries stand in the order in which they were made, and were made before. -/
theorem ledger_sorted (j : Nat) :
    (ledger window h j).Pairwise (fun e e' => e.made < e'.made) ∧
      ∀ e ∈ ledger window h j, e.made < j := by
  induction j with
  | zero => exact ⟨.nil, fun _ he => nomatch he⟩
  | succ j ih =>
    obtain ⟨sorted, before⟩ := ih
    cases hc : h[j]? with
    | none =>
      rw [ledger_succ_none hc]
      exact ⟨sorted, fun e he => Nat.lt_succ_of_lt (before e he)⟩
    | some c =>
      rw [ledger_succ hc]
      have new : ∀ e ∈ ((c.op.makes? window c.time).map (Entry.mk j)).toList, e.made = j := by
        simp only [Option.mem_toList, Option.map_eq_some_iff]
        rintro e ⟨l, -, rfl⟩
        rfl
      have grown : (ledger window h j ++
          ((c.op.makes? window c.time).map (Entry.mk j)).toList).Pairwise
            (fun e e' => e.made < e'.made) := by
        refine List.pairwise_append.2 ⟨sorted, ?_, fun e he e' he' => new e' he' ▸ before e he⟩
        cases c.op.makes? window c.time with
        | none => exact .nil
        | some l => exact List.pairwise_singleton ..
      refine ⟨grown.sublist sublist_note, fun e he => ?_⟩
      rcases List.mem_append.1 (sublist_note.subset he) with old | own
      · exact Nat.lt_succ_of_lt (before e old)
      · rw [new e own]
        exact Nat.lt_succ_self j

/-- In a row of entries in order, the first with a property is the oldest. -/
theorem find?_eq_oldest {p : Entry → Bool} {e : Entry}
    (sorted : es.Pairwise fun e e' => e.made < e'.made) :
    es.find? p = some e ↔ e ∈ es ∧ p e = true ∧ ∀ e' ∈ es, p e' = true → e.made ≤ e'.made := by
  induction es with
  | nil => simp
  | cons x rest ih =>
    obtain ⟨first, later⟩ := List.pairwise_cons.1 sorted
    by_cases hx : p x = true
    · rw [List.find?_cons_of_pos hx]
      constructor
      · intro same
        cases same
        refine ⟨List.mem_cons_self, hx, fun e' he' _ => ?_⟩
        rcases List.mem_cons.1 he' with rfl | there
        · exact Nat.le_refl _
        · exact Nat.le_of_lt (first e' there)
      · rintro ⟨there, -, least⟩
        rcases List.mem_cons.1 there with rfl | there
        · rfl
        · have := first e there
          have := least x List.mem_cons_self hx
          omega
    · rw [List.find?_cons_of_neg hx, ih later]
      constructor
      · rintro ⟨there, he, least⟩
        refine ⟨List.mem_cons_of_mem _ there, he, fun e' he' own => ?_⟩
        rcases List.mem_cons.1 he' with rfl | there'
        · exact absurd own hx
        · exact least e' there' own
      · rintro ⟨there, he, least⟩
        rcases List.mem_cons.1 there with rfl | there
        · exact absurd he hx
        · exact ⟨there, he, fun e' he' => least e' (List.mem_cons_of_mem _ he')⟩

/-- Taking out the first entry with a property leaves those made elsewhere. -/
theorem eraseP_eq_filter {p : Entry → Bool}
    (sorted : es.Pairwise fun e e' => e.made < e'.made) :
    es.eraseP p = es.filter fun e => (es.find? p).map Entry.made ≠ some e.made := by
  induction es with
  | nil => rfl
  | cons x rest ih =>
    obtain ⟨first, later⟩ := List.pairwise_cons.1 sorted
    by_cases hx : p x = true
    · have others : rest.filter (fun e => decide (some x.made ≠ some e.made)) = rest := by
        refine List.filter_eq_self.2 fun e he => ?_
        have := first e he
        simp only [ne_eq, Option.some.injEq, decide_eq_true_eq]
        omega
      rw [List.eraseP_cons_of_pos hx, List.find?_cons_of_pos hx, Option.map_some,
        List.filter_cons_of_neg (by simp), others]
    · have kept : (rest.find? p).map Entry.made ≠ some x.made := by
        intro same
        obtain ⟨e, found, made⟩ := Option.map_eq_some_iff.1 same
        have := first e (List.mem_of_find?_eq_some found)
        omega
      rw [List.eraseP_cons_of_neg hx, List.find?_cons_of_neg hx, List.filter_cons,
        if_pos (decide_eq_true kept), ih later]

theorem taken?_eq_some {e : Entry} :
    taken? window h j = some e ↔ ∃ c use, h[j]? = some c ∧ c.op.uses? = some use ∧
      (ledger window h j).find? (·.fits c.time use.1 use.2) = some e := by
  simp only [taken?, Option.bind_eq_some_iff]
  constructor
  · rintro ⟨c, hc, use, hu, found⟩
    exact ⟨c, use, hc, hu, found⟩
  · rintro ⟨c, use, hc, hu, found⟩
    exact ⟨c, hc, use, hu, found⟩

theorem used_lt (hj : used window h j = some i) : i < j := by
  obtain ⟨e, found, rfl⟩ := Option.map_eq_some_iff.1 hj
  obtain ⟨c, use, -, -, found⟩ := taken?_eq_some.1 found
  exact (ledger_sorted j).2 e (List.mem_of_find?_eq_some found)

/-- A call takes the entry that it uses up out of the account, and adds the lock that it makes. -/
theorem ledger_step (j : Nat) :
    ledger window h (j + 1) =
      (ledger window h j).filter (fun e => used window h j ≠ some e.made) ++
        ((made? window h j).map (Entry.mk j)).toList := by
  cases hc : h[j]? with
  | none => simp [ledger_succ_none hc, made?, used, taken?, hc]
  | some c =>
    rw [ledger_succ hc]
    cases hu : c.op.uses? with
    | none => simp [note, made?, used, taken?, hc, hu]
    | some use =>
      simp only [note, made?, used, taken?, hc, hu, Option.bind_some, makes?_of_uses hu,
        Option.map_none, Option.toList_none, List.append_nil]
      exact eraseP_eq_filter (ledger_sorted j).1

theorem standing?_succ (used : Nat → Option Nat) :
    standing? window h used (j + 1) i =
      if used j = some i then none else standing? window h used j i := by
  simp only [standing?, Nat.forall_lt_succ_right]
  by_cases hj : used j = some i <;> simp [hj]

/-- The account is the one that the history tells. -/
theorem ledger_eq (j : Nat) :
    ledger window h j = (List.range j).filterMap fun i =>
      (standing? window h (used window h) j i).map (Entry.mk i) := by
  induction j with
  | zero => rfl
  | succ j ih =>
    have earlier : (ledger window h j).filter (fun e => used window h j ≠ some e.made) =
        (List.range j).filterMap fun i =>
          (standing? window h (used window h) (j + 1) i).map (Entry.mk i) := by
      rw [ih, List.filter_filterMap]
      refine List.filterMap_congr fun i _ => ?_
      rw [standing?_succ]
      by_cases hj : used window h j = some i
      · cases standing? window h (used window h) j i <;> simp [hj]
      · cases standing? window h (used window h) j i <;> simp [hj]
    have own : standing? window h (used window h) (j + 1) j = made? window h j := by
      refine if_pos fun j' hj' same => ?_
      have := used_lt same
      omega
    rw [ledger_step, earlier, List.range_succ, List.filterMap_append]
    simp only [List.filterMap_cons, List.filterMap_nil, own]
    cases made? window h j <;> rfl

theorem mem_ledger {e : Entry} :
    e ∈ ledger window h j ↔
      e.made < j ∧ standing? window h (used window h) j e.made = some e.lock := by
  simp only [ledger_eq, List.mem_filterMap, List.mem_range, Option.map_eq_some_iff]
  constructor
  · rintro ⟨i, hi, l, hl, rfl⟩
    exact ⟨hi, hl⟩
  · rintro ⟨hi, hl⟩
    exact ⟨e.made, hi, e.lock, hl, rfl⟩

theorem mayUse_iff :
    MayUse window h (used window h) j i ↔ ∃ c use, h[j]? = some c ∧ c.op.uses? = some use ∧
      ∃ e ∈ ledger window h j, e.fits c.time use.1 use.2 = true ∧ e.made = i := by
  simp only [MayUse, Entry.fits, Bool.and_eq_true]
  constructor
  · rintro ⟨hi, c, key, value, l, hc, hu, hl, expects, live⟩
    exact ⟨c, (key, value), hc, hu, ⟨i, l⟩, mem_ledger.2 ⟨hi, hl⟩, ⟨expects, live⟩, rfl⟩
  · rintro ⟨c, use, hc, hu, e, he, ⟨expects, live⟩, rfl⟩
    obtain ⟨hi, hl⟩ := mem_ledger.1 he
    exact ⟨hi, c, use.1, use.2, e.lock, hc, hu, hl, expects, live⟩

/-- Each call uses up the oldest entry of the account that it may. -/
theorem matches_used : Matches window h (used window h) := by
  intro j i
  simp only [used, Option.map_eq_some_iff, taken?_eq_some]
  constructor
  · rintro ⟨e, ⟨c, use, hc, hu, found⟩, rfl⟩
    obtain ⟨there, fits, least⟩ := (find?_eq_oldest (ledger_sorted j).1).1 found
    refine ⟨mayUse_iff.2 ⟨c, use, hc, hu, e, there, fits, rfl⟩, fun i' older may => ?_⟩
    obtain ⟨c', use', hc', hu', e', there', fits', rfl⟩ := mayUse_iff.1 may
    cases hc.symm.trans hc'
    cases hu.symm.trans hu'
    have := least e' there' fits'
    omega
  · rintro ⟨may, none_older⟩
    obtain ⟨c, use, hc, hu, e, there, fits, rfl⟩ := mayUse_iff.1 may
    refine ⟨e, ⟨c, use, hc, hu, (find?_eq_oldest (ledger_sorted j).1).2 ⟨there, fits, ?_⟩⟩, rfl⟩
    intro e' there' fits'
    by_contra older
    exact none_older e'.made (by omega) (mayUse_iff.2 ⟨c, use, hc, hu, e', there', fits', rfl⟩)

/-- A history leaves no choice. -/
theorem Matches.unique {f g : Nat → Option Nat} (hf : Matches window h f)
    (hg : Matches window h g) : f = g := by
  funext j
  induction j using Nat.strongRecOn with
  | ind j ih =>
    have stands (i : Nat) : standing? window h f j i = standing? window h g j i := by
      have same : (∀ j' < j, f j' ≠ some i) ↔ ∀ j' < j, g j' ≠ some i :=
        forall₂_congr fun j' hj' => by rw [ih j' hj']
      simp only [standing?, same]
    refine Option.ext fun i => ?_
    rw [hf j i, hg j i]
    simp only [MayUse, stands]

/-- A lock that was used up no longer stands. -/
theorem Matches.once {used : Nat → Option Nat} (oldest : Matches window h used) {j' : Nat}
    (hj : used j = some i) (hj' : used j' = some i) : j = j' := by
  have later : ∀ {j j' : Nat}, used j = some i → used j' = some i → ¬j < j' := by
    intro j j' hj hj' lt
    obtain ⟨⟨-, c, key, value, l, -, -, stands, -⟩, -⟩ := (oldest j' i).1 hj'
    rw [standing?, if_neg (fun unused => unused j lt hj)] at stands
    cases stands
  have := later hj hj'
  have := later hj' hj
  omega

end

/-! ## The locks and the account -/

section

variable {window now t : Nat} {u : UpdateLocks} {h : List Call}

/-- What is alive later is alive now. -/
theorem filter_live_later (later : now ≤ t) (ls : List Lock) :
    (ls.filter (·.live now)).filter (·.live t) = ls.filter (·.live t) := by
  rw [List.filter_filter]
  refine List.filter_congr fun l _ => ?_
  simp only [Lock.live, Bool.and_eq_left_iff_imp, decide_eq_true_eq]
  omega

theorem window_perform (op : Operation) : (u.perform now op).2.window = u.window := by
  cases op <;> rfl

theorem window_after (h : List Call) : (u.after h).window = u.window := by
  induction h generalizing u with
  | nil => rfl
  | cons c rest ih => exact ih.trans (window_perform c.op)

theorem Ordered.past (ordered : Ordered h) {j : Nat} {c : Call} (hc : h[j]? = some c) :
    ∀ d ∈ h.take j, d.time ≤ c.time := by
  have taken : h.take (j + 1) = h.take j ++ [c] := by
    rw [List.take_add_one, hc]
    rfl
  have both : (h.take j ++ [c]).Pairwise fun c d => c.time ≤ d.time :=
    taken ▸ ordered.sublist (List.take_sublist _ _)
  exact fun d hd => (List.pairwise_append.1 both).2.2 d hd c List.mem_cons_self

/-- If the locks that are alive are those of the account, they still are after a call. -/
theorem live_perform {j : Nat} {es : List Entry} {c : Call}
    (agree : u.locks.filter (·.live c.time) = (es.map Entry.lock).filter (·.live c.time)) :
    (u.perform c.time c.op).2.locks.filter (·.live c.time) =
      ((note u.window j c es).map Entry.lock).filter (·.live c.time) := by
  have consumed (key : String) (value : Json) :
      (u.consume c.time key value).2.locks.filter (·.live c.time) =
        ((es.eraseP (·.fits c.time key value)).map Entry.lock).filter (·.live c.time) := by
    calc (u.consume c.time key value).2.locks.filter (·.live c.time)
        = ((u.locks.filter (·.live c.time)).eraseP (·.expects key value)).filter
            (·.live c.time) := rfl
      _ = (((es.map Entry.lock).filter (·.live c.time)).eraseP (·.expects key value)).filter
            (·.live c.time) := by rw [agree]
      _ = ((es.map Entry.lock).eraseP fun l => l.expects key value && l.live c.time).filter
            (·.live c.time) := by
        rw [List.eraseP_filter, filter_live_later (Nat.le_refl c.time)]
      _ = ((es.eraseP (·.fits c.time key value)).map Entry.lock).filter (·.live c.time) := by
        rw [List.eraseP_map]
        rfl
  obtain ⟨now, op⟩ := c
  cases op with
  | lock key value =>
    simp only [perform, lock, purge, note, Operation.uses?, Operation.makes?, Option.map_some,
      Option.toList_some, List.map_append, List.map_cons, List.map_nil, List.filter_append,
      filter_live_later (Nat.le_refl now)]
    rw [agree]
  | consume key value | release key value => exact consumed key value
  | isLocked => simpa [perform, note, Operation.uses?, Operation.makes?] using agree

/-- After any calls, the locks that are alive are those of the account. -/
theorem live_after (ordered : Ordered h) (j : Nat) (past : ∀ c ∈ h.take j, c.time ≤ t) :
    ((empty window).after (h.take j)).locks.filter (·.live t) =
      ((ledger window h j).map Entry.lock).filter (·.live t) := by
  induction j generalizing t with
  | zero => rfl
  | succ j ih =>
    rw [List.take_add_one] at past ⊢
    cases hc : h[j]? with
    | none =>
      rw [ledger_succ_none hc, Option.toList_none, List.append_nil]
      exact ih fun c hin => past c (List.mem_append_left _ hin)
    | some c =>
      rw [hc] at past
      have now_past : c.time ≤ t := past c (List.mem_append_right _ List.mem_cons_self)
      have step := live_perform (j := j) (ih (ordered.past hc))
      rw [window_after] at step
      rw [ledger_succ hc, after, Option.toList_some, List.foldl_append]
      rw [← filter_live_later now_past, ← filter_live_later now_past (List.map _ _)]
      exact congrArg (List.filter (·.live t)) step

/-! ## Answers -/

theorem getElem?_answers (h : List Call) (j : Nat) :
    (u.answers h)[j]? =
      (h[j]?).map fun c => ((u.after (h.take j)).perform c.time c.op).1 := by
  induction h generalizing u j with
  | nil => rfl
  | cons c rest ih =>
    cases j with
    | zero => rfl
    | succ j => exact ih j

theorem isLocked_iff {key : String} :
    u.isLocked now key = true ↔ ∃ l ∈ u.locks.filter (·.live now), l.key = key := by
  simp only [isLocked, List.any_eq_true, List.mem_filter, Bool.and_eq_true, decide_eq_true_eq]
  constructor
  · rintro ⟨l, hl, same, live⟩
    exact ⟨l, ⟨hl, live⟩, same⟩
  · rintro ⟨l, ⟨hl, live⟩, same⟩
    exact ⟨l, hl, same, live⟩

/-- A notice is an expected echo if the account has an entry for it. -/
theorem any_expects (es : List Entry) (now : Nat) (key : String) (value : Json) :
    ((es.map Entry.lock).filter (·.live now)).any (·.expects key value) =
      (es.find? (·.fits now key value)).isSome := by
  rw [Bool.eq_iff_iff, List.find?_isSome]
  simp only [List.any_eq_true, List.mem_filter, List.mem_map, Entry.fits, Bool.and_eq_true]
  constructor
  · rintro ⟨l, ⟨⟨e, he, rfl⟩, live⟩, expects⟩
    exact ⟨e, he, expects, live⟩
  · rintro ⟨e, he, expects, live⟩
    exact ⟨e.lock, ⟨⟨e, he, rfl⟩, live⟩, expects⟩

/-- The locks that the account has are those that stand. -/
theorem lock_ledger (j : Nat) :
    (ledger window h j).map Entry.lock =
      (List.range j).filterMap (standing? window h (used window h) j) := by
  rw [ledger_eq, List.map_filterMap]
  refine List.filterMap_congr fun i _ => ?_
  rw [Option.map_map]
  exact Option.map_id'

theorem consumed_of_ordered (ordered : Ordered h) {j : Nat} {key : String} {value : Json}
    (hc : h[j]? = some ⟨t, .consume key value⟩) :
    ((empty window).answers h)[j]? = some (some (used window h j).isSome) := by
  have found : used window h j =
      ((ledger window h j).find? (·.fits t key value)).map Entry.made := by
    simp only [used, taken?, hc, Option.bind_some, Operation.uses?]
  rw [getElem?_answers, hc, found, Option.isSome_map, ← any_expects,
    ← live_after ordered j (ordered.past hc)]
  rfl

theorem locked_of_ordered (ordered : Ordered h) {j : Nat} {key : String}
    (hc : h[j]? = some ⟨t, .isLocked key⟩) :
    ∃ b, ((empty window).answers h)[j]? = some (some b) ∧
      (b = true ↔ ∃ i < j, ∃ l, standing? window h (used window h) j i = some l ∧ l.key = key ∧
        l.live t = true) := by
  refine ⟨((empty window).after (h.take j)).isLocked t key, ?_, ?_⟩
  · rw [getElem?_answers, hc]
    rfl
  · rw [isLocked_iff, live_after ordered j (ordered.past hc), lock_ledger]
    simp only [List.mem_filter, List.mem_filterMap, List.mem_range]
    constructor
    · rintro ⟨l, ⟨⟨i, hi, hl⟩, live⟩, same⟩
      exact ⟨i, hi, l, hl, same, live⟩
    · rintro ⟨i, hi, l, hl, same, live⟩
      exact ⟨l, ⟨⟨i, hi, hl⟩, live⟩, same⟩

/-- The lock that a call uses up was made before, and is of the attribute and value of the call. -/
theorem MayUse.origin (ordered : Ordered h) {used : Nat → Option Nat} {j i : Nat} {key : String}
    {value : Json} {op : Operation} (may : MayUse window h used j i)
    (hc : h[j]? = some ⟨t, op⟩) (hu : op.uses? = some (key, value)) :
    ∃ s v, h[i]? = some ⟨s, .lock key v⟩ ∧ v.same value = true ∧ s ≤ t ∧ t - s < window := by
  obtain ⟨hi, c, k, w, l, hc', hu', stands, expects, live⟩ := may
  cases hc.symm.trans hc'
  cases hu.symm.trans hu'
  have made : made? window h i = some l := by
    unfold standing? at stands
    split at stands
    · exact stands
    · cases stands
  obtain ⟨⟨s, op'⟩, hlock, makes⟩ := Option.bind_eq_some_iff.1 made
  have before : s ≤ t := by
    have earlier : (h.take j)[i]? = some ⟨s, op'⟩ := by rw [List.getElem?_take_of_lt hi, hlock]
    exact ordered.past hc ⟨s, op'⟩ (List.mem_of_getElem? earlier)
  cases op' with
  | lock key' v =>
    cases makes
    simp only [Lock.expects, Bool.and_eq_true, decide_eq_true_eq] at expects
    obtain ⟨rfl, same⟩ := expects
    have alive : t < s + window := of_decide_eq_true live
    exact ⟨s, v, hlock, same, before, by omega⟩
  | consume | release | isLocked => cases makes

end

/-! ## One attribute -/

section

variable {window now t : Nat} {key : String} {u u' : UpdateLocks} {op : Operation}

/-- The locks of an attribute that are alive. -/
def pending (now : Nat) (key : String) (u : UpdateLocks) : List Lock :=
  u.locks.filter fun l => l.key = key && l.live now

theorem pending_later (later : now ≤ t) (u : UpdateLocks) :
    u.pending t key = (u.pending now key).filter (·.live t) := by
  simp only [pending, List.filter_filter]
  refine List.filter_congr fun l _ => ?_
  rw [Bool.eq_iff_iff]
  simp only [Lock.live, Bool.and_eq_true, decide_eq_true_eq]
  constructor
  · rintro ⟨same, live⟩
    exact ⟨live, same, by omega⟩
  · rintro ⟨live, same, -⟩
    exact ⟨same, live⟩

theorem isLocked_eq_pending (u : UpdateLocks) :
    u.isLocked now key = !(u.pending now key).isEmpty := by
  rw [Bool.eq_iff_iff, Bool.not_eq_true', List.isEmpty_eq_false_iff_exists_mem]
  simp only [isLocked, pending, List.any_eq_true, List.mem_filter]

theorem consume_fst_eq_pending (value : Json) (u : UpdateLocks) :
    (u.consume now key value).1 = (u.pending now key).any (·.value.same value) := by
  simp only [consume, purge, pending, List.any_filter, Lock.expects]
  refine congrArg (List.any u.locks) (funext fun l => ?_)
  rw [Bool.and_left_comm, Bool.and_assoc]

theorem pending_lock (k : String) (value : Json) (u : UpdateLocks) :
    (u.lock now k value).pending now key = u.pending now key ++
      [⟨k, value, now + u.window⟩].filter fun l => l.key = key && l.live now := by
  simp only [pending, lock, purge, List.filter_append, List.filter_filter, Bool.and_assoc,
    Bool.and_self]

theorem pending_consume_self (value : Json) (u : UpdateLocks) :
    (u.consume now key value).2.pending now key =
      (u.pending now key).eraseP (·.value.same value) := by
  simp only [consume, purge, pending, List.eraseP_filter, List.filter_filter, Lock.expects]
  refine congrArg₂ List.filter (funext fun l => ?_)
    (congrArg (List.eraseP · u.locks) (funext fun l => ?_))
  · rw [Bool.and_assoc, Bool.and_self]
  · rw [Bool.and_left_comm, Bool.and_assoc]

theorem pending_consume_of_ne {k : String} (other : k ≠ key) (value : Json) (u : UpdateLocks) :
    (u.consume now k value).2.pending now key = u.pending now key := by
  have apart : ∀ l : Lock, l.expects k value = true →
      (decide (l.key = key) && l.live now) = false := by
    intro l expects
    simp only [Lock.expects, Bool.and_eq_true, decide_eq_true_eq] at expects
    rw [expects.1, decide_eq_false other, Bool.false_and]
  simp only [consume, purge, pending]
  rw [filter_eraseP_of_forall apart, List.filter_filter]
  refine List.filter_congr fun l _ => ?_
  rw [Bool.and_assoc, Bool.and_self]

/-- A call about another attribute leaves the locks of an attribute. -/
theorem pending_perform_of_ne (other : op.key ≠ key) (u : UpdateLocks) :
    (u.perform now op).2.pending now key = u.pending now key := by
  cases op with
  | lock k value =>
    have apart : decide (k = key) = false := decide_eq_false other
    simp [perform, pending_lock, apart]
  | consume k value | release k value => exact pending_consume_of_ne other value u
  | isLocked => rfl

/-- The answer to a call, and the locks of its attribute afterwards, hang on the locks of that
    attribute alone. -/
theorem perform_alike (same : u.window = u'.window)
    (alike : u.pending now op.key = u'.pending now op.key) :
    (u.perform now op).1 = (u'.perform now op).1 ∧
      (u.perform now op).2.pending now op.key = (u'.perform now op).2.pending now op.key := by
  cases op with
  | lock k value =>
    refine ⟨rfl, ?_⟩
    simp only [perform, Operation.key, pending_lock] at alike ⊢
    rw [alike, same]
  | consume k value =>
    simp only [perform, Operation.key, consume_fst_eq_pending, pending_consume_self] at alike ⊢
    rw [alike]
    exact ⟨rfl, rfl⟩
  | release k value =>
    refine ⟨rfl, ?_⟩
    simp only [perform, release, Operation.key, pending_consume_self] at alike ⊢
    rw [alike]
  | isLocked k =>
    simp only [perform, Operation.key, isLocked_eq_pending] at alike ⊢
    exact ⟨by rw [alike], alike⟩

/-- Two sets of locks that agree on an attribute give the same answers about it, even if one of them
    hears of the calls about that attribute only. -/
theorem answers_alike {h : List Call} (ordered : Ordered h) (future : ∀ c ∈ h, now ≤ c.time)
    (same : u.window = u'.window) (alike : u.pending now key = u'.pending now key) :
    ((h.zip (u.answers h)).filter fun p => p.1.op.key = key).map Prod.snd =
      u'.answers (h.filter fun c => c.op.key = key) := by
  induction h generalizing now u u' with
  | nil => rfl
  | cons c rest ih =>
    obtain ⟨first, later⟩ := List.pairwise_cons.1 ordered
    obtain ⟨soon, -⟩ := List.forall_mem_cons.1 future
    have now_alike : u.pending c.time key = u'.pending c.time key := by
      rw [pending_later soon u, pending_later soon u', alike]
    rw [answers, List.zip_cons_cons]
    by_cases about : c.op.key = key
    · subst about
      obtain ⟨answer, after⟩ := perform_alike same now_alike
      rw [List.filter_cons, List.filter_cons, if_pos (decide_eq_true rfl),
        if_pos (decide_eq_true rfl), List.map_cons, answers, answer]
      refine congrArg _ (ih later first ?_ after)
      rw [window_perform, window_perform, same]
    · rw [List.filter_cons_of_neg (by simpa using about),
        List.filter_cons_of_neg (by simpa using about)]
      refine ih later first ((window_perform c.op).trans same) ?_
      rw [pending_perform_of_ne about, now_alike]

end

/-! ## Every answer -/

section

variable {window : Nat} {h : List Call}

/-- What is answered to calls at times that do not run backwards is what their history tells, and
    what is asked of one attribute is answered as if nothing had been asked of the others. -/
theorem explains_history (ordered : Ordered h) :
    (∃! used, Explains window h used) ∧
      ∀ key, ((h.zip ((empty window).answers h)).filter fun p => p.1.op.key = key).map Prod.snd =
        (empty window).answers (h.filter fun c => c.op.key = key) := by
  have oldest : Matches window h (used window h) := matches_used
  refine ⟨⟨used window h, ?_, fun f hf => hf.oldest.unique oldest⟩, fun key =>
    answers_alike ordered (fun _ _ => Nat.zero_le _) rfl rfl⟩
  exact
    { oldest := oldest
      once := fun j j' i => oldest.once
      consumed := fun j t key value hc => consumed_of_ordered ordered hc
      echoed := by
        intro j t key value hc answered
        rw [consumed_of_ordered ordered hc, Option.some.injEq, Option.some.injEq] at answered
        obtain ⟨i, hi⟩ := Option.isSome_iff_exists.1 answered
        have may := ((oldest j i).1 hi).1
        obtain ⟨s, v, origin⟩ := may.origin ordered hc rfl
        exact ⟨i, s, v, hi, may.1, origin⟩
      locked := fun j t key hc => locked_of_ordered ordered hc
      kept := by
        intro j t past
        rw [live_after ordered j past, lock_ledger] }

/-- A value is locked twice, another attribute in between; notices come before and after the first
    lock is dead, and one of a value that was not written. -/
def crossing : List Call :=
  [ ⟨0, .lock "onOff.onOff" (.bool true)⟩,
    ⟨10, .lock "levelControl.currentLevel" (.int 1)⟩,
    ⟨20, .lock "onOff.onOff" (.bool true)⟩,
    ⟨99, .isLocked "onOff.onOff"⟩,
    ⟨105, .consume "onOff.onOff" (.bool true)⟩,
    ⟨105, .consume "onOff.onOff" (.bool true)⟩,
    ⟨109, .consume "levelControl.currentLevel" (.int 2)⟩,
    ⟨109, .isLocked "levelControl.currentLevel"⟩,
    ⟨110, .isLocked "levelControl.currentLevel"⟩,
    ⟨110, .consume "levelControl.currentLevel" (.int 1)⟩ ]

/-- The first notice uses up the second lock, since the first is dead by then. -/
theorem explains_history_crossing :
    Ordered crossing ∧
      (empty 100).answers crossing = [none, none, none, some true, some true, some false,
        some false, some true, some false, some false] ∧
      (∃! used, Explains 100 crossing used) ∧
      ∀ key, ((crossing.zip ((empty 100).answers crossing)).filter
          fun p => p.1.op.key = key).map Prod.snd =
        (empty 100).answers (crossing.filter fun c => c.op.key = key) := by
  have ordered : Ordered crossing := by
    unfold Ordered crossing
    decide
  exact ⟨ordered, by decide +kernel, explains_history ordered⟩

end

end HomeGateway.Bridge.UpdateLocks
