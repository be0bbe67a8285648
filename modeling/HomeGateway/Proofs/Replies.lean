/-
  The response that a message gets.

  A text is a frame, and so are bytes that hold a text; whether the response to
  a frame is there at once depends on the session.  Bytes that hold no text are
  answered at once.

  * `taken_frame`: what becomes of a frame;
  * `addressed_of_answers`: the id of a response.
-/
import HomeGateway.Connection.Link
import HomeGateway.Proofs.Utf8

namespace HomeGateway.Connection

open HomeGateway Call

/-! ## Messages and their responses -/

/-- A message that gets no response. -/
def Inbound.isControl : Inbound → Bool
  | .text _ | .binary _ => false
  | .ping _ | .pong _ | .close => true

/-- Whether the loop goes on after a message. -/
def Reading.goesOn : Reading → Bool
  | .closed | .broken => false
  | _ => true

/-- The response to a frame, given how its request ends if it ends at once. -/
def response? (ready : Option (Except Mishap Json)) (frame : String) : Option Response :=
  match request frame with
  | .ok q => ready.map (answer q)
  | .error refused => some refused

/-- What becomes of a message, given how its request ends if it ends at once. -/
def Reading.taken (ready : Option (Except Mishap Json)) : Reading → Taken
  | .frame s => .ofFrame s (response? ready s)
  | .refused r => .answered r
  | _ => .ignored

/-- Whether the response to a message is there at once. -/
def Taken.isAnswer : Taken → Bool
  | .answered _ => true
  | _ => false

/-- A response to a message. -/
def Answers (limit : Nat) (m : Inbound) (r : Response) : Prop :=
  match m.reading limit with
  | .frame s =>
    match request s with
    | .ok q => ∃ outcome, r = answer q outcome
    | .error refused => r = refused
  | .refused refused => r = refused
  | _ => False

/-- The text in a message; bytes hold one if they encode it. -/
def Inbound.Holds : Inbound → String → Prop
  | .text s, t => s = t
  | .binary row, t => row = Text.Utf8.bytes t
  | _, _ => False

/-- The response to a message has the id of its request, and that to a message
    without a request is an error with an empty id. -/
structure Addressed (m : Inbound) (r : Response) : Prop where
  /-- the message is a text or bytes -/
  control : m.isControl = false
  /-- it holds a request -/
  request : ∀ s q, m.Holds s → Request.read s = .ok q → r.id = q.id
  /-- it holds none -/
  none : (∀ s q, m.Holds s → Request.read s ≠ .ok q) → r.id = "" ∧ r.verdict = .error

/-! ## What becomes of a message -/

variable {limit : Nat}

theorem taken_frame (ready : Option (Except Mishap Json)) (s : String) :
    (∃ q outcome, request s = .ok q ∧ (Reading.frame s).taken ready = .answered (answer q outcome)) ∨
    (∃ refused, request s = .error refused ∧
      (Reading.frame s).taken ready = .answered refused) ∨
    ∃ q, request s = .ok q ∧ (Reading.frame s).taken ready = .awaited q := by
  show _ ∨ (∃ refused, _ ∧ Taken.ofFrame s (response? ready s) = _) ∨
    ∃ q, _ ∧ Taken.ofFrame s (response? ready s) = _
  unfold response?
  cases hrequest : request s with
  | error refused => exact .inr (.inl ⟨refused, rfl, rfl⟩)
  | ok q =>
    cases ready with
    | some outcome =>
      refine .inl ⟨q, outcome, rfl, ?_⟩
      simp only [Reading.taken, response?, hrequest, Option.map_some, Taken.ofFrame]
    | none =>
      refine .inr (.inr ⟨q, rfl, ?_⟩)
      simp only [Option.map_none, Taken.ofFrame, hrequest]

theorem answers_of_taken {m : Inbound} {ready : Option (Except Mishap Json)} {r : Response}
    (h : (m.reading limit).taken ready = .answered r) :
    Answers limit m r ∧ (m.reading limit).goesOn = true := by
  unfold Answers
  cases hread : m.reading limit with
  | frame s =>
    rw [hread] at h
    refine ⟨?_, rfl⟩
    rcases taken_frame ready s with ⟨q, o, hrequest, eq⟩ | ⟨e, hrequest, eq⟩ | ⟨q, hrequest, eq⟩
    all_goals
      rw [eq] at h
      cases h
    · simp only [hrequest]
      exact ⟨o, rfl⟩
    · simp only [hrequest]
  | refused e =>
    rw [hread] at h
    cases h
    exact ⟨rfl, rfl⟩
  | pong | nothing | closed | broken =>
    rw [hread] at h
    cases h

theorem request_of_taken {m : Inbound} {ready : Option (Except Mishap Json)} {q : Request}
    (h : (m.reading limit).taken ready = .awaited q) :
    ∃ s, m.reading limit = .frame s ∧ request s = .ok q := by
  cases hread : m.reading limit with
  | frame s =>
    rw [hread] at h
    rcases taken_frame ready s with ⟨q, o, hrequest, eq⟩ | ⟨e, hrequest, eq⟩ | ⟨q, hrequest, eq⟩
    all_goals
      rw [eq] at h
      cases h
    exact ⟨s, rfl, hrequest⟩
  | refused | pong | nothing | closed | broken =>
    rw [hread] at h
    cases h

theorem reading_cases {m : Inbound} (h : m.isControl = false) (limit : Nat) :
    (∃ s, m.reading limit = .frame s) ∨ (∃ r, m.reading limit = .refused r) ∨
    m.reading limit = .broken := by
  cases m with
  | ping | pong | close => cases h
  | text s =>
    simp only [Inbound.reading]
    split
    · exact .inr (.inr rfl)
    · exact .inl ⟨s, rfl⟩
  | binary row =>
    simp only [Inbound.reading]
    split
    · exact .inr (.inr rfl)
    · split
      · exact .inl ⟨_, rfl⟩
      · exact .inr (.inl ⟨_, rfl⟩)

/-- Only a message that gets no response is ignored and lets the loop go on. -/
theorem isControl_of_taken {m : Inbound} {ready : Option (Except Mishap Json)}
    (h : (m.reading limit).taken ready = .ignored) (goesOn : (m.reading limit).goesOn = true) :
    m.isControl = true := by
  rw [← Bool.not_eq_false]
  intro answered
  rcases reading_cases answered limit with ⟨s, hread⟩ | ⟨r, hread⟩ | hread
  all_goals rw [hread] at h goesOn
  · rcases taken_frame ready s with ⟨q, o, -, eq⟩ | ⟨e, -, eq⟩ | ⟨q, -, eq⟩
    all_goals
      rw [eq] at h
      cases h
  · cases h
  · cases goesOn

/-! ## The id of a response -/

theorem holds_of_frame {m : Inbound} {s : String} (h : m.reading limit = .frame s) :
    m.isControl = false ∧ ∀ t, m.Holds t ↔ s = t := by
  unfold Inbound.reading at h
  cases m with
  | text t =>
    simp only at h
    split at h
    · cases h
    · cases h
      exact ⟨rfl, fun _ => Iff.rfl⟩
  | binary row =>
    simp only at h
    split at h
    · cases h
    · cases hd : Text.Utf8.decode row with
      | error e =>
        rw [hd] at h
        cases h
      | ok t =>
        rw [hd] at h
        cases h
        refine ⟨rfl, fun u => ?_⟩
        show row = Text.Utf8.bytes u ↔ _
        rw [← Text.Utf8.decode_iff, hd]
        exact ⟨fun eq => Except.ok.inj eq, congrArg _⟩
  | ping n =>
    simp only at h
    split at h
    all_goals cases h
  | pong n =>
    simp only at h
    split at h
    all_goals cases h
  | close => cases h

theorem holds_of_refused {m : Inbound} {r : Response} (h : m.reading limit = .refused r) :
    m.isControl = false ∧ (∀ t, ¬m.Holds t) ∧ r.id = "" ∧ r.verdict = .error := by
  unfold Inbound.reading at h
  cases m with
  | text t =>
    simp only at h
    split at h
    all_goals cases h
  | binary row =>
    simp only at h
    split at h
    · cases h
    · cases hd : Text.Utf8.decode row with
      | ok t =>
        rw [hd] at h
        cases h
      | error e =>
        rw [hd] at h
        cases h
        refine ⟨rfl, ?_, rfl, rfl⟩
        intro t hholds
        rw [Text.Utf8.decode_iff.2 hholds] at hd
        cases hd
  | ping n =>
    simp only at h
    split at h
    all_goals cases h
  | pong n =>
    simp only at h
    split at h
    all_goals cases h
  | close => cases h

theorem addressed_of_answers {m : Inbound} {r : Response} (h : Answers limit m r) :
    Addressed m r := by
  unfold Answers at h
  cases hread : m.reading limit with
  | frame s =>
    obtain ⟨control, holds⟩ := holds_of_frame hread
    rw [hread] at h
    simp only [request] at h
    cases hrequest : Request.read s with
    | ok q =>
      rw [hrequest] at h
      obtain ⟨outcome, rfl⟩ := h
      refine ⟨control, ?_, ?_⟩
      · intro t q' hholds hq'
        cases (holds t).1 hholds
        rw [hrequest] at hq'
        cases hq'
        cases outcome
        all_goals rfl
      · intro none
        exact absurd hrequest (none s q ((holds s).2 rfl))
    | error e =>
      rw [hrequest] at h
      simp only at h
      subst h
      refine ⟨control, ?_, fun _ => ⟨rfl, rfl⟩⟩
      intro t q hholds hq
      cases (holds t).1 hholds
      rw [hrequest] at hq
      cases hq
  | refused e =>
    rw [hread] at h
    obtain ⟨control, missing, id, verdict⟩ := holds_of_refused hread
    cases h
    exact ⟨control, fun t _ hholds => absurd hholds (missing t), fun _ => ⟨id, verdict⟩⟩
  | pong | nothing | closed | broken =>
    rw [hread] at h
    cases h

end HomeGateway.Connection
