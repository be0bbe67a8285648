/-
  The responses to the messages of a connection.

  What a run of the loop keeps says where every response is.  When nothing is
  under way each of them was queued.

  * `responses_of_reaches`: each message gets its one response, in time;
  * `take_taken`: a host takes a frame as the loop does.
-/
import HomeGateway.Gateway.Host
import HomeGateway.Proofs.ReadLoop

namespace HomeGateway.Connection

open HomeGateway Call

namespace Loop

variable {limit : Nat} {l : Loop}

/-! ## Bytes and texts -/

/-- Bytes that hold a text are taken as that text is. -/
theorem read_holds {m : Inbound} {s : String} (h : m.Holds s) (ready : Option (Except Mishap Json))
    (cut : Bool) (l : Loop) :
    (l.read limit m ready cut).link = (l.read limit (.text s) ready cut).link ∧
      (l.read limit m ready cut).running = (l.read limit (.text s) ready cut).running := by
  have same : m.reading limit = (Inbound.text s).reading limit := by
    cases m with
    | text t =>
      rw [show t = s from h]
    | binary row =>
      rw [show row = Text.Utf8.bytes s from h]
      exact reading_binary limit s
    | ping | pong | close => cases h
  unfold Loop.read
  rw [same]
  cases ((Inbound.text s).reading limit).taken ready with
  | answered r => cases cut <;> exact ⟨rfl, rfl⟩
  | awaited q => exact ⟨rfl, rfl⟩
  | ignored => exact ⟨rfl, rfl⟩

/-! ## Queued responses -/

theorem countP_queued_le (h : Placed limit l) (i : Nat) : l.queued.countP (·.isFor i) ≤ 1 := by
  have := h.once i
  unfold count packets at this
  rw [List.countP_append] at this
  omega

/-- Nothing waits where no request is in flight and the reader does not pause. -/
theorem count_of_idle (free : l.link.paused = false) (idle : l.busy = false) (i : Nat) :
    l.count i = l.queued.countP (·.isFor i) := by
  unfold busy at idle
  obtain ⟨done, rest⟩ := Bool.or_eq_false_iff.1 idle
  have inFlight : l.link.inFlight = [] := by simpa using done
  have waiting : l.link.outbound.waiting = [] := by
    rw [List.eq_nil_iff_forall_not_mem]
    intro p hp
    have paused := List.any_eq_false.1 rest p hp
    rw [not_pausing_of_free free hp] at paused
    exact paused rfl
  unfold count packets
  rw [inFlight, waiting, List.append_nil]
  rfl

/-- **The responses of the loop.**  Whatever happened since a connection began:
    no message got more than one response, and pings, pongs and closes got none;
    every response answers a message that was read and has the id that it is to
    have; when nothing is under way every other message got its response; a
    response that was there at once came before those to all later messages; and
    bytes that hold a text are taken as that text. -/
theorem responses_of_reaches {limit number session capacity : Nat} {l : Loop}
    (run : Reaches limit (.new number session capacity) l) :
    (∀ i, l.queued.countP (·.isFor i) ≤ 1) ∧
      (∀ i h, l.past[i]? = some h → h.message.isControl = true →
        l.queued.countP (·.isFor i) = 0) ∧
      (∀ p ∈ l.queued, ∀ r, p.frame = .response r →
        ∃ i h, p.isFor i = true ∧ l.past[i]? = some h ∧ Addressed h.message r) ∧
      (∀ p ∈ l.queued, ∀ i, p.isFor i = true → ∃ r, p.frame = .response r) ∧
      (l.running = true → l.link.outbound.alive = true → l.link.paused = false → l.busy = false →
        ∀ i h, l.past[i]? = some h → h.message.isControl = false →
          l.queued.countP (·.isFor i) = 1) ∧
      (∀ before p after, l.queued = before ++ p :: after → ∀ i j h, p.isFor j = true →
        l.past[i]? = some h → h.atOnce = true → i < j → ∃ q ∈ before, q.isFor i = true) ∧
      ∀ m s, m.Holds s → ∀ ready cut,
        (l.read limit m ready cut).link = (l.read limit (.text s) ready cut).link ∧
          (l.read limit m ready cut).running = (l.read limit (.text s) ready cut).running := by
  have sound := reaches_sound (sound_new limit number session capacity) run
  refine ⟨countP_queued_le sound.toPlaced, ?_, ?_, ?_, ?_, ?_, ?_⟩
  · intro i h hi control
    rw [List.countP_eq_zero]
    intro p hp hfor
    obtain ⟨h', r, hi', -, answers⟩ := sound.answers p (List.mem_append_left _ hp) i hfor
    rw [hi] at hi'
    cases hi'
    rw [(addressed_of_answers answers).control] at control
    cases control
  · intro p hp r hframe
    have hp : p ∈ l.packets := List.mem_append_left _ hp
    obtain ⟨i, hfor⟩ := sound.addressed p hp r hframe
    obtain ⟨h, r', hi, hframe', answers⟩ := sound.answers p hp i hfor
    rw [hframe] at hframe'
    cases hframe'
    exact ⟨i, h, hfor, hi, addressed_of_answers answers⟩
  · intro p hp i hfor
    obtain ⟨h, r, -, hframe, -⟩ := sound.answers p (List.mem_append_left _ hp) i hfor
    exact ⟨r, hframe⟩
  · intro running alive free idle i h hi control
    rw [← count_of_idle free idle]
    exact sound.kept running alive i h hi control
  · intro before p after split i j h hfor hi hatOnce hlt
    exact sound.ordered before p after split j hfor i h hi hatOnce hlt
  · intro m s hholds ready cut
    exact read_holds hholds ready cut l

/-- A text that is no request, a ping, and a request that has to wait were read. -/
def asked : Loop :=
  (((new 0 0 1).read 64 (.text "?") none false).read 64 (.ping 4) none false).read 64
    (.text "\x7b\"id\":\"a\",\"namespace\":\"b\",\"function\":\"c\"\x7d") none false

theorem inFlight_asked : asked.link.inFlight ≠ [] := by
  rw [ne_eq, ← List.isEmpty_iff, Bool.not_eq_true]
  decide +kernel

/-- The request was worked out, and room was made for its response. -/
def replied : Loop :=
  (asked.finish (asked.link.inFlight.head inFlight_asked) (.ok .null)).send

theorem responses_of_reaches_replied :
    Reaches 64 (.new 0 0 1) replied ∧
      replied.queued.map (·.answers) = [some 0, some 2] ∧
      ∀ i h, replied.past[i]? = some h → h.message.isControl = false →
        replied.queued.countP (·.isFor i) = 1 := by
  have greeted : Reaches 64 (.new 0 0 1) asked := by
    refine .tail (.tail (.tail .refl (.read _ none false ?_ ?_)) (.read _ none false ?_ ?_))
      (.read _ none false ?_ ?_)
    all_goals decide +kernel
  have run : Reaches 64 (.new 0 0 1) replied :=
    .tail (.tail greeted (.finish (.ok .null) (List.head_mem inFlight_asked))) .send
  obtain ⟨-, -, -, -, settled, -⟩ := responses_of_reaches run
  refine ⟨run, by decide +kernel, settled ?_ ?_ ?_ ?_⟩
  all_goals decide +kernel

end Loop

end HomeGateway.Connection

namespace HomeGateway

open Connection Call

variable {g : Gateway} {n : Nat}

theorem handle_answer (live : n < g.sessions.length) (q : Request) :
    ∃ ready : Option (Except Mishap Json), (g.handle n q).1 = ready.map (answer q) := by
  unfold Gateway.handle
  rw [List.getElem?_eq_getElem live]
  cases g.sessions[n] with
  | bridge s =>
    show ∃ ready, (g.handleBridge n s q).1 = _
    unfold Gateway.handleBridge
    split
    · rename_i f _
      exact ⟨some (.error (.failed f)), rfl⟩
    · split
      · rename_i m _ _
        exact ⟨some (.error m), rfl⟩
      · rename_i v _ _
        exact ⟨some (.ok v), rfl⟩
      · exact ⟨none, rfl⟩
      · exact ⟨none, rfl⟩
  | client s =>
    show ∃ ready, (g.handleClient n s q).1 = _
    unfold Gateway.handleClient
    split
    · rename_i f _
      exact ⟨some (.error (.failed f)), rfl⟩
    · exact ⟨some _, rfl⟩

/-- A session answers a frame as the loop supposes. -/
theorem handleText_response? (live : n < g.sessions.length) (frame : String) :
    ∃ ready, (g.handleText n frame).1 = response? ready frame := by
  unfold Gateway.handleText response?
  cases request frame with
  | ok q => exact handle_answer live q
  | error refused => exact ⟨none, rfl⟩

/-- A host takes a frame as the loop does, once its session has worked on it. -/
theorem Host.take_taken {h : Host} {l : Link} (live : l.session < h.gateway.sessions.length)
    (frame : String) : ∃ ready, h.take l frame =
      (h.within (·.handleText l.session frame)).2.taken l.number
        ((Reading.frame frame).taken ready) := by
  obtain ⟨ready, hready⟩ := handleText_response? live frame
  have answered : (h.within (·.handleText l.session frame)).1 = response? ready frame := hready
  refine ⟨ready, ?_⟩
  unfold Host.take
  generalize h.within (·.handleText l.session frame) = w at answered ⊢
  obtain ⟨response, after⟩ := w
  cases answered
  rfl

end HomeGateway
