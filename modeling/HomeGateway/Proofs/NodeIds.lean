/-
  How the id of a node is understood.

  A node id is a number of sixty-four bits, or a text of one: ASCII digits,
  perhaps after a plus sign, with blanks around them.  A function of a client
  reads the node first, and uses nothing of that argument but the number.

  * `NodeId.Denotes`, `NodeId.read_iff`: the values that are ids, and of which node;
  * `Picks`, `Picks.bind`: readings that begin with a node;
  * `Addresses`, `addresses_ofRequest`: the functions that are given a node first;
  * `node_understood`: a node, however its id is written.
-/
import HomeGateway.Proofs.Queries
import HomeGateway.Proofs.Refusals

namespace HomeGateway

open Json

/-! ## Texts with blanks around them -/

namespace Text

/-- What is dropped at the ends of a text are blanks. -/
theorem trimChars_split (cs : List Char) : ∃ front back, cs = front ++ trimChars cs ++ back ∧
    (∀ c ∈ front, isBlank c) ∧ ∀ c ∈ back, isBlank c := by
  refine ⟨cs.takeWhile isBlank, ((cs.dropWhile isBlank).reverse.takeWhile isBlank).reverse, ?_,
    fun c hc => List.mem_takeWhile_imp hc,
    fun c hc => List.mem_takeWhile_imp (List.mem_reverse.1 hc)⟩
  rw [trimChars, List.append_assoc, ← List.reverse_append, List.takeWhile_append_dropWhile,
    List.reverse_reverse, List.takeWhile_append_dropWhile]

end Text

namespace Call

variable {v : Json} {n : Nat}

/-! ## Node ids -/

/-- A value is the id of a node. -/
inductive NodeId.Denotes : Json → Nat → Prop where
  /-- as a number -/
  | number {n : Nat} (fits : n < 2 ^ 64) : Denotes (.ofNat n) n
  /-- as a text of digits; leading zeros do not matter -/
  | text {front sign digits back : List Char} {n : Nat} (before : ∀ c ∈ front, Text.isBlank c)
    (plus : sign = [] ∨ sign = ['+']) (filled : digits ≠ [])
    (decimal : ∀ c ∈ digits, Text.isDigit c) (after : ∀ c ∈ back, Text.isBlank c)
    (value : Text.digitsValue digits = n) (fits : n < 2 ^ 64) :
    Denotes (.str (String.ofList (front ++ (sign ++ digits) ++ back))) n

namespace NodeId

/-- Neither end of a signed row of digits is blank. -/
theorem trimChars_signed {front sign digits back : List Char} (before : ∀ c ∈ front, Text.isBlank c)
    (plus : sign = [] ∨ sign = ['+']) (decimal : ∀ c ∈ digits, Text.isDigit c)
    (after : ∀ c ∈ back, Text.isBlank c) :
    Text.trimChars (front ++ (sign ++ digits) ++ back) = sign ++ digits := by
  have inked : ∀ c ∈ sign ++ digits, Text.isBlank c = false := by
    intro c hc
    rcases List.mem_append.1 hc with hc | hc
    · rcases plus with rfl | rfl
      · cases hc
      · rw [List.mem_singleton.1 hc]
        decide
    · exact Text.not_isBlank_of_isDigit (decimal c hc)
  exact Text.trimChars_around before after (fun c hc => inked c (List.mem_of_mem_head? hc))
    fun c hc => inked c (List.mem_of_getLast? hc)

theorem ofText?_iff {s : String} : ofText? s = some n ↔ Denotes (.str s) n := by
  rw [ofText?, Connection.readUnsigned_iff]
  constructor
  · rintro ⟨digits, inner, filled, decimal, value, -, most⟩
    obtain ⟨front, back, split, before, after⟩ := Text.trimChars_split s.toList
    rw [Text.trim, String.toList_ofList] at inner
    have fits : n < 2 ^ 64 := Nat.lt_of_le_of_lt most (by decide)
    have signed : ∃ sign, (sign = [] ∨ sign = ['+']) ∧ Text.trimChars s.toList = sign ++ digits :=
      inner.elim (fun h => ⟨[], .inl rfl, h⟩) fun h => ⟨['+'], .inr rfl, h⟩
    obtain ⟨sign, plus, inner⟩ := signed
    rw [← String.ofList_toList (s := s), split, inner]
    exact .text before plus filled decimal after value fits
  · intro means
    cases means with
    | @text front sign digits back _ before plus filled decimal after value fits =>
      refine ⟨digits, ?_, filled, decimal, value, Nat.zero_le n, Nat.le_of_lt_succ fits⟩
      rw [Text.trim, String.toList_ofList, String.toList_ofList,
        trimChars_signed before plus decimal after]
      exact plus.imp (fun h => by rw [h, List.nil_append]) fun h => by rw [h]; rfl

theorem read_iff : read v = .ok n ↔ Denotes v n := by
  cases v with
  | int i =>
    constructor
    · intro h
      rw [read] at h
      split at h
      · rename_i within
        cases h
        have whole : Json.int i = .ofNat i.toNat := by rw [ofNat, Int.toNat_of_nonneg within.1]
        rw [whole]
        refine .number ?_
        have most : i ≤ (2 ^ 64 - 1 : Int) := within.2
        omega
      · cases h
    · intro means
      cases means with
      | number fits =>
        have most : (n : Int) ≤ (Width.bits64.max : Int) := Int.ofNat_le.2 (Nat.le_of_lt_succ fits)
        rw [read, if_pos ⟨Int.natCast_nonneg n, most⟩, Int.toNat_natCast]
  | str s =>
    rw [← ofText?_iff, read]
    cases ofText? s <;> simp
  | null | bool | float | arr | obj =>
    exact ⟨fun h => (by cases h), fun means => (by cases means)⟩

end NodeId

/-! ## Readings that begin with a node -/

section

variable {α β : Type} {node : α → Nat}

/-- A reading begins with a node, and says which. -/
def Picks (r : Reading α) (node : α → Nat) : Prop :=
  ∃ rest : Nat → Reading α, r = (next NodeId.read >>= rest) ∧
    ∀ id, Gives (rest id) fun x => node x = id

theorem picks_node : Picks Client.readNode id :=
  ⟨pure, (bind_pure _).symm, fun _ => gives_pure rfl⟩

/-- What is read after the node does not change which it is. -/
theorem Picks.bind {r : Reading α} {f : α → Reading β} {node' : β → Nat} (h : Picks r node)
    (hf : ∀ x, Gives (f x) fun y => node' y = node x) : Picks (r >>= f) node' := by
  obtain ⟨rest, rfl, names⟩ := h
  refine ⟨fun id => rest id >>= f, bind_assoc _ _ _, fun id => (names id).bind fun x own => ?_⟩
  exact own ▸ hf x

/-- One thing more is read after what began with the node. -/
theorem Picks.fst {r : Reading α} (h : Picks r node) (more : Reading β) :
    Picks (do return (← r, ← more)) fun x => node x.1 :=
  h.bind fun _ => gives_bind fun _ => gives_pure rfl

theorem picks_window : Picks Client.readWindow Prod.fst :=
  picks_node.bind fun _ => gives_bind fun _ => gives_pure rfl

theorem picks_spot : Picks Client.readSpot Prod.fst :=
  picks_node.bind fun _ =>
    gives_bind fun _ => gives_bind fun _ => gives_bind fun _ => gives_pure rfl

end

end Call

namespace Client

open Call

variable {α : Type}

/-- What is asked for with a value in front is about the node that the value is the id of, and it is
    the same for every id of that node. -/
structure Addresses (read : Json → Except Failure Errand) : Prop where
  same : ∀ {v v' id}, NodeId.read v = .ok id → NodeId.read v' = .ok id → read v = read v'
  node : ∀ {v a}, read v = .ok a → ∃ id, NodeId.read v = .ok id ∧ a.node? = some id

theorem addresses_error (f : Failure) : Addresses fun _ => .error f :=
  ⟨fun _ _ => rfl, nofun⟩

theorem addresses_arguments {r : Reading α} {node : α → Nat} (picks : Picks r node)
    {errand : α → Errand} (named : ∀ x, (errand x).node? = some (node x)) (function : String)
    (required arity : Nat) (rest : List Json) :
    Addresses fun v => (arguments function required arity r (v :: rest)).map errand := by
  obtain ⟨later, rfl, names⟩ := picks
  have run (v : Json) (more : List Json) : (next NodeId.read >>= later) (v :: more) =
      (NodeId.read v >>= fun id => later id more) := by
    show (NodeId.read v).map (·, more) >>= _ = _
    cases NodeId.read v <;> rfl
  have split := padded_cons function required arity rest
  constructor
  · intro v v' id own own'
    rcases split with ⟨f, misfits⟩ | ⟨more, fits⟩
    · simp only [arguments, misfits]
    · simp only [arguments, fits, run, own, own']
  · intro v a asked
    obtain ⟨x, read, rfl⟩ := map_eq_ok.1 asked
    obtain ⟨all, left, fits, read⟩ := arguments_eq_ok read
    rcases split with ⟨f, misfits⟩ | ⟨more, fits'⟩
    · cases (misfits v).symm.trans fits
    · cases (fits' v).symm.trans fits
      rw [run] at read
      obtain ⟨id, own, last⟩ := ok_of_bind read
      exact ⟨id, own, (named x).trans (congrArg some (names id more x left last))⟩

/-- Functions that take no arguments are given one too many. -/
theorem addresses_noArguments (function : String) (errand : Unit → Errand) (rest : List Json) :
    Addresses fun v => (noArguments function (v :: rest)).map errand :=
  ⟨fun _ _ => rfl, nofun⟩

theorem addresses_ofNodes {function : String} (other : function ≠ "pairNode") (rest : List Json) :
    Addresses fun v => Errand.ofNodes (v :: rest) function := by
  unfold Errand.ofNodes
  split
  · exact addresses_noArguments _ _ rest
  · exact addresses_arguments picks_node (fun _ => rfl) _ 1 1 rest
  · exact absurd rfl other
  · exact addresses_arguments picks_node (fun _ => rfl) _ 1 1 rest
  · exact addresses_arguments picks_node (fun _ => rfl) _ 1 1 rest
  · exact addresses_arguments picks_node (fun _ => rfl) _ 1 1 rest
  · exact addresses_arguments picks_node (fun _ => rfl) _ 1 1 rest
  · exact addresses_arguments (picks_node.fst _) (fun _ => rfl) _ 2 2 rest
  · exact addresses_noArguments _ _ rest
  · exact addresses_arguments picks_window (fun _ => rfl) _ 1 2 rest
  · exact addresses_arguments picks_window (fun _ => rfl) _ 1 2 rest
  · exact addresses_error _

theorem addresses_ofClusters (function : String) (rest : List Json) :
    Addresses fun v => Errand.ofClusters (v :: rest) function := by
  unfold Errand.ofClusters
  split
  · exact addresses_arguments (picks_spot.fst _) (fun _ => rfl) _ 4 5 rest
  · exact addresses_arguments (picks_spot.fst _) (fun _ => rfl) _ 5 5 rest
  · exact addresses_arguments picks_spot (fun _ => rfl) _ 4 4 rest
  · exact addresses_error _

/-- Every function of a client is given a node first, but for the one that pairs a device. -/
theorem addresses_ofRequest {r : Request}
    (other : ¬(r.space = "nodes" ∧ r.function = "pairNode")) (rest : List Json) :
    Addresses fun v => Errand.ofRequest { r with args := v :: rest } := by
  unfold Errand.ofRequest
  by_cases nodes : r.space = "nodes"
  · simp only [nodes, if_true]
    exact addresses_ofNodes (fun pairs => other ⟨nodes, pairs⟩) rest
  · simp only [nodes, if_false]
    by_cases clusters : r.space = "clusters"
    · simp only [clusters, if_true]
      exact addresses_ofClusters r.function rest
    · simp only [clusters, if_false]
      exact addresses_error _

end Client

namespace Gateway

open Client Call

variable {g : Gateway} {n : Nat} {s : Client.Session}

/-- Arguments that ask for the same do the same. -/
theorem handle_congr (hn : g.sessions[n]? = some (.client s)) {r : Request} {args : List Json}
    (same : Errand.ofRequest { r with args := args } = Errand.ofRequest r) :
    g.handle n { r with args := args } = g.handle n r := by
  cases asked : Errand.ofRequest r with
  | error f => rw [handle_misread hn asked, handle_misread hn (same.trans asked)]
  | ok a =>
    rw [handle_errand hn asked, handle_errand hn (same.trans asked)]
    rfl

/-- **How a node is named.**  A value is the id of a node if it is a number of sixty-four bits, or a
    text of one with blanks around it.  A request whose first argument is a node is about that
    node, and it makes no sense if that argument is no id.  What comes of the request is the same,
    however the id is written. -/
theorem node_understood :
    (∀ v id, NodeId.read v = .ok id ↔ NodeId.Denotes v id) ∧
      ∀ (g : Gateway) n s, g.sessions[n]? = some (.client s) →
        ∀ (r : Request) v rest, r.args = v :: rest →
          ¬(r.space = "nodes" ∧ r.function = "pairNode") →
          (∀ a, Errand.ofRequest r = .ok a → ∃ id, NodeId.Denotes v id ∧ a.node? = some id) ∧
            ((∀ id, ¬NodeId.Denotes v id) →
              ∃ message, g.handle n r = (some (.fail r.id message), g)) ∧
            ∀ id v', NodeId.Denotes v id → NodeId.Denotes v' id →
              g.handle n { r with args := v' :: rest } = g.handle n r := by
  refine ⟨fun v id => NodeId.read_iff, fun g n s hn r v rest args other => ?_⟩
  obtain ⟨same, node⟩ := addresses_ofRequest other rest
  have whole : { r with args := v :: rest } = r := by rw [← args]
  have node : ∀ a, Errand.ofRequest r = .ok a → ∃ id, NodeId.Denotes v id ∧ a.node? = some id := by
    intro a asked
    obtain ⟨id, read, named⟩ := node (whole.symm ▸ asked)
    exact ⟨id, NodeId.read_iff.1 read, named⟩
  refine ⟨node, fun none => ?_, fun id v' means means' => ?_⟩
  · cases asked : Errand.ofRequest r with
    | error f => exact ⟨f.message, handle_misread hn asked⟩
    | ok a =>
      obtain ⟨id, means, -⟩ := node a asked
      exact absurd means (none id)
  · refine handle_congr hn ?_
    rw [same (NodeId.read_iff.2 means') (NodeId.read_iff.2 means), whole]

/-- The bulb is named by a text with zeros and blanks; a sign that stands apart names nothing. -/
theorem node_understood_bulb :
    let g := initial.after movingIn
    let lamp v := onClusters "readAttribute" [v, .ofNat 1, .str "OnOff", .str "onOff"]
    (g.handle 0 (lamp (.ofNat 1))).1 = some (.ok "readAttribute" (.bool false)) ∧
      g.handle 0 (lamp (.str "\u00a0+0001\n")) = g.handle 0 (lamp (.ofNat 1)) ∧
      ∃ message, g.handle 0 (lamp (.str "+ 1")) = (some (.fail "readAttribute" message), g) := by
  obtain ⟨read, named⟩ := node_understood
  have hn : (initial.after movingIn).sessions[0]? = some (.client ⟨hallway, 0, some 0⟩) := rfl
  have number : NodeId.Denotes (.ofNat 1) 1 := .number (by decide)
  have padded : NodeId.Denotes (.str "\u00a0+0001\n") 1 :=
    @NodeId.Denotes.text ['\u00a0'] ['+'] ['0', '0', '0', '1'] ['\n'] 1 (List.all_eq_true.1 rfl)
      (.inr rfl) (by decide) (List.all_eq_true.1 rfl) (List.all_eq_true.1 rfl) rfl (by decide)
  have apart : ∀ id, ¬NodeId.Denotes (.str "+ 1") id := by
    intro id means
    cases (read _ _).2 means
  have lamp v := named _ 0 _ hn (onClusters "readAttribute"
    [v, .ofNat 1, .str "OnOff", .str "onOff"]) v _ rfl (by simp [onClusters])
  exact ⟨rfl, (lamp (.ofNat 1)).2.2 1 _ number padded, (lamp (.str "+ 1")).2.1 apart⟩

end Gateway

end HomeGateway
