/-
  What is read from the arguments of a function.

  It is looked at first how many arguments there are, and then they are read one
  after the other.  So what is so of all that is read follows from what is so of
  each of them.

  * `ok_of_bind`, `map_eq_ok`: readers that succeed;
  * `whole_le`, `optional_ok`: one argument;
  * `Gives`, `Gives.bind`, `gives_next`: what is so of whatever is read;
  * `padded_cons`, `arguments_eq_ok`, `Gives.arguments`: the arguments of a function.
-/
import HomeGateway.Call.Arguments

namespace HomeGateway

/-! ## Readers that may fail -/

theorem ok_of_bind {ε α β : Type} {x : Except ε α} {f : α → Except ε β} {b : β}
    (h : x >>= f = .ok b) : ∃ a, x = .ok a ∧ f a = .ok b := by
  cases x with
  | error e => cases h
  | ok a => exact ⟨a, rfl, h⟩

theorem map_eq_ok {ε α β : Type} {x : Except ε α} {f : α → β} {b : β} :
    x.map f = .ok b ↔ ∃ a, x = .ok a ∧ f a = b := by
  cases x <;> simp [Except.map]

namespace Call

variable {α β : Type} {r : Reading α} {P : α → Prop} {Q : β → Prop} {a : Argument α} {x : α}
  {v : Json}

/-! ## One argument -/

theorem whole_le {w : Json.Width} {n : Nat} (h : whole w v = .ok n) : n ≤ w.max := by
  unfold whole ofShape at h
  cases v with
  | int i =>
    by_cases within : 0 ≤ i ∧ i ≤ w.max
    · have read : (Json.Shape.whole w).readValue (.int i) = .ok (.int i) := if_pos within
      obtain ⟨m, rfl⟩ := Int.eq_ofNat_of_zero_le within.1
      rw [read] at h
      cases h
      exact Int.ofNat_le.1 within.2
    · have read : (Json.Shape.whole w).readValue (.int i) = .error _ := if_neg within
      rw [read] at h
      cases h
  | null | bool | float | str | arr | obj => cases h

theorem optional_ok (h : Call.optional a v = .ok (some x)) : a v = .ok x := by
  unfold Call.optional at h
  split at h
  · cases h
  · cases read : a v with
    | error p => simp [read] at h
    | ok y =>
      rw [read] at h
      cases h
      rfl

/-! ## One after the other -/

/-- An argument that is left out is read as `null`. -/
theorem next_eq (a : Argument α) (args : List Json) :
    next a args = (a (args.headD .null)).map (·, args.tail) := by
  cases args <;> rfl

/-- Whatever is read has a property. -/
def Gives (r : Reading α) (P : α → Prop) : Prop :=
  ∀ args x left, r args = .ok (x, left) → P x

theorem gives_pure (h : P x) : Gives (pure x) P := by
  intro args y left read
  cases read
  exact h

theorem gives_next (h : ∀ v x, a v = .ok x → P x) : Gives (next a) P := by
  intro args x left read
  rw [next_eq] at read
  obtain ⟨y, own, same⟩ := map_eq_ok.1 read
  cases same
  exact h _ _ own

theorem Gives.bind {f : α → Reading β} (h : Gives r P) (hf : ∀ x, P x → Gives (f x) Q) :
    Gives (r >>= f) Q := by
  intro args y left read
  obtain ⟨⟨x, more⟩, first, read⟩ := ok_of_bind (show r args >>= _ = _ from read)
  exact hf x (h args x more first) more y left read

/-- It does not matter what is read first. -/
theorem gives_bind {f : α → Reading β} (h : ∀ x, Gives (f x) Q) : Gives (r >>= f) Q :=
  Gives.bind (fun _ _ _ _ => trivial) fun x (_ : True) => h x

/-! ## All arguments -/

section

variable {function : String} {required arity : Nat} {args : List Json}

/-- Only their number decides whether arguments fit. -/
theorem padded_cons (function : String) (required arity : Nat) (rest : List Json) :
    (∃ f, ∀ v, padded function required arity (v :: rest) = .error f) ∨
    ∃ more, ∀ v, padded function required arity (v :: rest) = .ok (v :: more) := by
  unfold padded
  simp only [List.length_cons]
  split
  · exact .inl ⟨_, fun _ => rfl⟩
  · split
    · exact .inl ⟨_, fun _ => rfl⟩
    · exact .inr ⟨_, fun _ => rfl⟩

theorem arguments_eq_ok (h : arguments function required arity r args = .ok x) :
    ∃ all left, padded function required arity args = .ok all ∧ r all = .ok (x, left) := by
  unfold arguments at h
  cases fits : padded function required arity args with
  | error f => simp [fits] at h
  | ok all =>
    cases read : r all with
    | error p => simp [fits, read] at h
    | ok y =>
      simp only [fits, read] at h
      cases h
      exact ⟨all, y.2, rfl, read⟩

theorem Gives.arguments (h : Gives r P)
    (read : arguments function required arity r args = .ok x) : P x := by
  obtain ⟨all, left, -, read⟩ := arguments_eq_ok read
  exact h all x left read

end

end Call

end HomeGateway
