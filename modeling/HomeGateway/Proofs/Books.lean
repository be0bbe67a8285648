/-
  The books of a host: who holds a slot, an identity and a session.

  A live connection holds what one holds that was just set up, so both are
  entered alike, in any order.  Each move of a connection changes its own entry
  and nothing else; there is one lemma for each.

  * `Balanced`: slots, identities, sessions and stations agree with the entries;
  * `Balanced.join`, …, `Balanced.leave`: the moves of a connection;
  * `Balanced.serve`, `Balanced.keeps`: what happens in the gateway meanwhile.
-/
import HomeGateway.Gateway.Host
import HomeGateway.Proofs.Holdings
import Mathlib.Data.List.Nodup

namespace HomeGateway

open Engine Connection

/-! ## What a connection holds -/

namespace Stage

/-- The session of a connection. -/
def session? : Stage → Option Nat
  | .opened n | .leaving n _ | .shut n => some n
  | _ => none

/-- The session of a connection, while it may have a station. -/
def serving? : Stage → Option Nat
  | .opened n | .leaving n _ => some n
  | _ => none

/-- The identity that a connection holds. -/
def identity? (g : Gateway) : Stage → Option Identity
  | .identified p => some p.identity
  | .opened n | .leaving n _ | .shut n => (g.sessions[n]?).map (·.identity)
  | _ => none

end Stage

/-- Everything agrees with the entries of the connections. -/
structure Balanced (max count : Nat) (limiter : Limiter) (identities : Identities) (g : Gateway)
    (entries : List Attempt) : Prop where
  /-- there are as many slots as there are to be -/
  max : limiter.max = max
  /-- a slot is taken for each entry -/
  live : limiter.live = entries.length
  /-- there is room for all of them -/
  room : limiter.live ≤ limiter.max
  /-- connections have numbers of their own -/
  numbers : (entries.map (·.number)).Nodup
  /-- numbers are counted -/
  known : ∀ a ∈ entries, a.number < count
  /-- sessions exist -/
  there : ∀ a ∈ entries, ∀ n, a.stage.session? = some n → n < g.sessions.length
  /-- connections have sessions of their own -/
  apart : ∀ a ∈ entries, ∀ b ∈ entries, ∀ n, a.stage.session? = some n →
    b.stage.session? = some n → a.number = b.number
  /-- identities are held once -/
  distinct : (identities.held.map (·.1)).Nodup
  /-- identities are held by those who reserved them -/
  held : ∀ i c, (i, c) ∈ identities.held ↔
    ∃ a ∈ entries, a.number = c ∧ a.stage.identity? g = some i
  /-- stations are those of connections -/
  serving : ∀ (n k : Nat) (s : Session), g.sessions[n]? = some s → s.station? = some k →
    ∃ a ∈ entries, a.stage.serving? = some n
  /-- the gateway is tidy -/
  tidy : g.Tidy

theorem Stage.identity?_of_works {g g' : Gateway} {n : Nat} (works : g.Works n g') (stage : Stage) :
    stage.identity? g' = stage.identity? g := by
  cases stage with
  | opened m | leaving m | shut m => exact works.identity m
  | admitted | presented | identified | nameless => rfl

theorem Stage.identity?_append {g g' : Gateway} {s : Session}
    (sessions : g'.sessions = g.sessions ++ [s]) {stage : Stage}
    (there : ∀ n, stage.session? = some n → n < g.sessions.length) :
    stage.identity? g' = stage.identity? g := by
  cases stage with
  | opened m | leaving m | shut m =>
    show (g'.sessions[m]?).map _ = (g.sessions[m]?).map _
    rw [sessions, List.getElem?_append_left (there m rfl)]
  | admitted | presented | identified | nameless => rfl

/-- Who has a session has its identity. -/
theorem Stage.identity?_of_session? {g : Gateway} {n : Nat} {stage : Stage}
    (session : stage.session? = some n) :
    stage.identity? g = (g.sessions[n]?).map (·.identity) := by
  cases stage with
  | opened m | leaving m | shut m =>
    cases session
    rfl
  | admitted | presented | identified | nameless => cases session

/-- What identity a connection has without a session does not depend on the gateway. -/
theorem Stage.identity?_of_none {stage : Stage} (session : stage.session? = none)
    (g g' : Gateway) : stage.identity? g' = stage.identity? g := by
  cases stage with
  | opened m | leaving m | shut m => cases session
  | admitted | presented | identified | nameless => rfl

theorem Stage.session?_of_serving? {n : Nat} {stage : Stage} (serving : stage.serving? = some n) :
    stage.session? = some n := by
  cases stage with
  | opened m | leaving m => exact serving
  | admitted | presented | identified | shut | nameless => cases serving

namespace Balanced

variable {max count c n : Nat} {limiter : Limiter} {identities : Identities} {g g' : Gateway}
  {entries entries' rest : List Attempt} {stage stage' : Stage}

/-- The order of the entries does not matter. -/
theorem perm (h : Balanced max count limiter identities g entries)
    (same : entries'.Perm entries) : Balanced max count limiter identities g entries' where
  max := h.max
  live := h.live.trans same.length_eq.symm
  room := h.room
  numbers := (same.map _).nodup_iff.2 h.numbers
  known := fun a ha => h.known a (same.mem_iff.1 ha)
  there := fun a ha => h.there a (same.mem_iff.1 ha)
  apart := fun a ha b hb => h.apart a (same.mem_iff.1 ha) b (same.mem_iff.1 hb)
  distinct := h.distinct
  held := by
    intro i c
    rw [h.held i c]
    constructor
    · rintro ⟨a, ha, rest⟩
      exact ⟨a, same.mem_iff.2 ha, rest⟩
    · rintro ⟨a, ha, rest⟩
      exact ⟨a, same.mem_iff.1 ha, rest⟩
  serving := by
    intro n k s hn hk
    obtain ⟨a, ha, rest⟩ := h.serving n k s hn hk
    exact ⟨a, same.mem_iff.2 ha, rest⟩
  tidy := h.tidy

/-! ## The moves of a connection -/

/-- A connection takes a slot. -/
theorem join (h : Balanced max count limiter identities g entries) {limiter' : Limiter}
    (slot : limiter.acquire? = some limiter') (query : QueryText.Parameters) :
    Balanced max (count + 1) limiter' identities g (⟨count, .admitted query⟩ :: entries) where
  max := by
    unfold Limiter.acquire? at slot
    split at slot
    · cases slot
      exact h.max
    · cases slot
  live := by
    rw [(Limiter.live_acquire slot).1, h.live]
    rfl
  room := (Limiter.live_acquire slot).2
  numbers := by
    rw [List.map_cons, List.nodup_cons]
    refine ⟨?_, h.numbers⟩
    intro known
    obtain ⟨a, ha, same⟩ := List.mem_map.1 known
    exact Nat.ne_of_lt (h.known a ha) same
  known := by
    intro a ha
    rcases List.mem_cons.1 ha with rfl | old
    · exact Nat.lt_succ_self count
    · exact Nat.lt_succ_of_lt (h.known a old)
  there := by
    intro a ha n hn
    rcases List.mem_cons.1 ha with rfl | old
    · cases hn
    · exact h.there a old n hn
  apart := by
    intro a ha b hb n hn hn'
    rcases List.mem_cons.1 ha with rfl | old
    · cases hn
    · rcases List.mem_cons.1 hb with rfl | old'
      · cases hn'
      · exact h.apart a old b old' n hn hn'
  distinct := h.distinct
  held := by
    intro i c
    rw [h.held i c]
    constructor
    · rintro ⟨a, ha, rest⟩
      exact ⟨a, List.mem_cons_of_mem _ ha, rest⟩
    · rintro ⟨a, ha, number, identity⟩
      rcases List.mem_cons.1 ha with rfl | old
      · cases identity
      · exact ⟨a, old, number, identity⟩
  serving := by
    intro n k s hn hk
    obtain ⟨a, ha, rest⟩ := h.serving n k s hn hk
    exact ⟨a, List.mem_cons_of_mem _ ha, rest⟩
  tidy := h.tidy

/-- The others are numbered differently. -/
theorem other (h : Balanced max count limiter identities g (⟨c, stage⟩ :: rest)) {a : Attempt}
    (ha : a ∈ rest) : a.number ≠ c := by
  have apart := (List.nodup_cons.1 h.numbers).1
  intro same
  exact apart (List.mem_map.2 ⟨a, ha, same⟩)

/-- What a connection holds. -/
theorem held_self (h : Balanced max count limiter identities g (⟨c, stage⟩ :: rest))
    (i : Identity) : (i, c) ∈ identities.held ↔ stage.identity? g = some i := by
  rw [h.held]
  constructor
  · rintro ⟨a, ha, number, identity⟩
    rcases List.mem_cons.1 ha with rfl | old
    · exact identity
    · exact absurd number (h.other old)
  · intro identity
    exact ⟨⟨c, stage⟩, List.mem_cons_self, rfl, identity⟩

/-- A connection comes to another stage, maybe with another identity or session. -/
theorem moves (h : Balanced max count limiter identities g (⟨c, stage⟩ :: rest))
    {identities' : Identities} (distinct : (identities'.held.map (·.1)).Nodup)
    (held : ∀ i c', (i, c') ∈ identities'.held ↔
      (c' = c ∧ stage'.identity? g' = some i) ∨ (c' ≠ c ∧ (i, c') ∈ identities.held))
    (same : ∀ a ∈ rest, a.stage.identity? g' = a.stage.identity? g)
    (grows : g.sessions.length ≤ g'.sessions.length)
    (session : ∀ n, stage'.session? = some n →
      n < g'.sessions.length ∧ (stage.session? = some n ∨ g.sessions.length ≤ n))
    (serving : ∀ (n k : Nat) (s : Session), g'.sessions[n]? = some s → s.station? = some k →
      stage'.serving? = some n ∨ ∃ a ∈ rest, a.stage.serving? = some n)
    (tidy : g'.Tidy) : Balanced max count limiter identities' g' (⟨c, stage'⟩ :: rest) where
  max := h.max
  live := h.live
  room := h.room
  numbers := h.numbers
  known := by
    intro a ha
    rcases List.mem_cons.1 ha with rfl | old
    · exact h.known ⟨c, stage⟩ List.mem_cons_self
    · exact h.known a (List.mem_cons_of_mem _ old)
  there := by
    intro a ha n hn
    rcases List.mem_cons.1 ha with rfl | old
    · exact (session n hn).1
    · exact Nat.lt_of_lt_of_le (h.there a (List.mem_cons_of_mem _ old) n hn) grows
  apart := by
    have clash : ∀ b ∈ rest, ∀ n, stage'.session? = some n → b.stage.session? = some n →
        c = b.number := by
      intro b hb n hn hn'
      have hb := List.mem_cons_of_mem ⟨c, stage⟩ hb
      rcases (session n hn).2 with had | new
      · exact h.apart ⟨c, stage⟩ List.mem_cons_self b hb n had hn'
      · have := h.there b hb n hn'
        omega
    intro a ha b hb n hn hn'
    rcases List.mem_cons.1 ha with rfl | old
    · rcases List.mem_cons.1 hb with rfl | old'
      · rfl
      · exact clash b old' n hn hn'
    · rcases List.mem_cons.1 hb with rfl | old'
      · exact (clash a old n hn' hn).symm
      · exact h.apart a (List.mem_cons_of_mem _ old) b (List.mem_cons_of_mem _ old') n hn hn'
  distinct := distinct
  held := by
    intro i c'
    rw [held]
    constructor
    · rintro (⟨rfl, identity⟩ | ⟨apart, old⟩)
      · exact ⟨⟨c', stage'⟩, List.mem_cons_self, rfl, identity⟩
      · obtain ⟨a, ha, number, identity⟩ := (h.held i c').1 old
        rcases List.mem_cons.1 ha with rfl | ha
        · exact absurd number.symm apart
        · exact ⟨a, List.mem_cons_of_mem _ ha, number, (same a ha).trans identity⟩
    · rintro ⟨a, ha, rfl, identity⟩
      rcases List.mem_cons.1 ha with rfl | old
      · exact .inl ⟨rfl, identity⟩
      · refine .inr ⟨h.other old, (h.held i a.number).2 ?_⟩
        exact ⟨a, List.mem_cons_of_mem _ old, rfl, (same a old).symm.trans identity⟩
  serving := by
    intro n k s hn hk
    rcases serving n k s hn hk with own | ⟨a, ha, others⟩
    · exact ⟨⟨c, stage'⟩, List.mem_cons_self, own⟩
    · exact ⟨a, List.mem_cons_of_mem _ ha, others⟩
  tidy := tidy

/-- The entries of a connection that keeps its identity. -/
theorem held_kept (h : Balanced max count limiter identities g (⟨c, stage⟩ :: rest))
    (identity : stage'.identity? g' = stage.identity? g) (i : Identity) (c' : Nat) :
    (i, c') ∈ identities.held ↔
      (c' = c ∧ stage'.identity? g' = some i) ∨ (c' ≠ c ∧ (i, c') ∈ identities.held) := by
  rw [identity, ← h.held_self i]
  by_cases same : c' = c
  · subst same
    simp
  · simp [same]

/-- The stations are those of the other connections and of this one. -/
theorem serving_cases (h : Balanced max count limiter identities g (⟨c, stage⟩ :: rest)) {k : Nat}
    {s : Session} (hn : g.sessions[n]? = some s) (hk : s.station? = some k) :
    stage.serving? = some n ∨ ∃ a ∈ rest, a.stage.serving? = some n := by
  obtain ⟨a, ha, serving⟩ := h.serving n k s hn hk
  rcases List.mem_cons.1 ha with rfl | old
  · exact .inl serving
  · exact .inr ⟨a, old, serving⟩

/-- A connection comes to a stage at which it holds the same. -/
theorem stays (h : Balanced max count limiter identities g (⟨c, stage⟩ :: rest))
    (session : stage'.session? = stage.session?) (serving : stage'.serving? = stage.serving?)
    (identity : stage'.identity? g = stage.identity? g) :
    Balanced max count limiter identities g (⟨c, stage'⟩ :: rest) := by
  refine h.moves h.distinct (h.held_kept identity) (fun _ _ => rfl) (Nat.le_refl _) ?_ ?_ h.tidy
  · intro n hn
    rw [session] at hn
    exact ⟨h.there ⟨c, stage⟩ List.mem_cons_self n hn, .inl hn⟩
  · intro n k s hn hk
    rw [serving]
    exact h.serving_cases hn hk

/-- A connection reserves its identity. -/
theorem reserve {p : SessionParams} {identities' : Identities}
    (h : Balanced max count limiter identities g (⟨c, .presented p⟩ :: rest))
    (reserved : identities.reserve p.identity c = .ok identities') :
    Balanced max count limiter identities' g (⟨c, .identified p⟩ :: rest) := by
  obtain ⟨free, rfl⟩ := Identities.reserve_eq_ok_iff.1 reserved
  refine h.moves ?_ ?_ (fun _ _ => rfl) (Nat.le_refl _) (fun _ hn => nomatch hn) ?_ h.tidy
  · rw [List.map_cons, List.nodup_cons]
    refine ⟨?_, h.distinct⟩
    intro held
    obtain ⟨entry, hentry, same⟩ := List.mem_map.1 held
    exact List.any_eq_false.1 free entry hentry (decide_eq_true same)
  · intro i c'
    have none : (i, c) ∉ identities.held := by
      rw [h.held_self]
      rintro ⟨⟩
    rw [List.mem_cons, Prod.mk.injEq]
    constructor
    · rintro (⟨rfl, rfl⟩ | old)
      · exact .inl ⟨rfl, rfl⟩
      · refine .inr ⟨?_, old⟩
        rintro rfl
        exact none old
    · rintro (⟨rfl, identity⟩ | ⟨-, old⟩)
      · cases identity
        exact .inl ⟨rfl, rfl⟩
      · exact .inr old
  · intro n k s hn hk
    rcases h.serving_cases hn hk with own | others
    · cases own
    · exact .inr others

/-- A connection opens its session. -/
theorem opens {p : SessionParams} {s : Session}
    (h : Balanced max count limiter identities g (⟨c, .identified p⟩ :: rest))
    (sessions : g'.sessions = g.sessions ++ [s]) (identity : s.identity = p.identity)
    (tidy : g'.Tidy) :
    Balanced max count limiter identities g' (⟨c, .opened g.sessions.length⟩ :: rest) := by
  have length : g'.sessions.length = g.sessions.length + 1 := by
    rw [sessions, List.length_append, List.length_singleton]
  refine h.moves h.distinct (h.held_kept ?_) ?_ (by omega) ?_ ?_ tidy
  · show (g'.sessions[g.sessions.length]?).map _ = some p.identity
    rw [sessions, List.getElem?_concat_length, Option.map_some, identity]
  · intro a ha
    exact Stage.identity?_append sessions (h.there a (List.mem_cons_of_mem _ ha))
  · rintro n ⟨⟩
    exact ⟨by omega, .inr (Nat.le_refl _)⟩
  · intro n k t hn hk
    by_cases new : n = g.sessions.length
    · exact .inl (congrArg some new.symm)
    · have lt := (List.getElem?_eq_some_iff.1 hn).1
      rw [sessions, List.getElem?_append_left (by omega)] at hn
      rcases h.serving_cases hn hk with own | others
      · cases own
      · exact .inr others

/-- A connection shuts its session down. -/
theorem shuts {farewell : Option Outcome}
    (h : Balanced max count limiter identities g (⟨c, .leaving n farewell⟩ :: rest))
    (works : g.Works n g') (vacant : ∀ s, g'.sessions[n]? = some s → s.station? = none)
    (tidy : g'.Tidy) :
    Balanced max count limiter identities g' (⟨c, .shut n⟩ :: rest) := by
  refine h.moves h.distinct (h.held_kept ?_) ?_ (Nat.le_of_eq works.length.symm) ?_ ?_ tidy
  · exact Stage.identity?_of_works works (.leaving n farewell)
  · exact fun a _ => Stage.identity?_of_works works a.stage
  · rintro m ⟨⟩
    rw [works.length]
    exact ⟨h.there _ List.mem_cons_self n rfl, .inl rfl⟩
  · intro m k s hm hk
    by_cases own : m = n
    · subst own
      rw [vacant s hm] at hk
      cases hk
    · have seat := works.others m own
      rw [hm] at seat
      obtain ⟨s₀, hm₀, same⟩ := Option.map_eq_some_iff.1 seat.symm
      have hk₀ : s₀.station? = some k := (congrArg Prod.snd same).trans hk
      rcases h.serving_cases hm₀ hk₀ with had | others
      · exact absurd (Option.some.inj had).symm own
      · exact .inr others

/-- A connection gives its identity up. -/
theorem frees (h : Balanced max count limiter identities g (⟨c, .shut n⟩ :: rest)) :
    Balanced max count limiter (identities.release c) g (⟨c, .nameless⟩ :: rest) := by
  refine h.moves ?_ ?_ (fun _ _ => rfl) (Nat.le_refl _) (fun _ hn => nomatch hn) ?_ h.tidy
  · exact (List.filter_sublist.map _).nodup h.distinct
  · intro i c'
    show (i, c') ∈ identities.held.filter _ ↔ _
    rw [List.mem_filter]
    constructor
    · rintro ⟨held, apart⟩
      exact .inr ⟨of_decide_eq_true apart, held⟩
    · rintro (⟨-, identity⟩ | ⟨apart, held⟩)
      · cases identity
      · exact ⟨held, decide_eq_true apart⟩
  · intro m k s hm hk
    rcases h.serving_cases hm hk with own | others
    · cases own
    · exact .inr others

/-- A connection gives its slot back. -/
theorem leave (h : Balanced max count limiter identities g (⟨c, .nameless⟩ :: rest)) :
    Balanced max count limiter.release identities g rest where
  max := h.max
  live := by
    rw [Limiter.live_release, h.live]
    rfl
  room := Nat.le_trans (Nat.sub_le _ _) h.room
  numbers := (List.nodup_cons.1 h.numbers).2
  known := fun a ha => h.known a (List.mem_cons_of_mem _ ha)
  there := fun a ha => h.there a (List.mem_cons_of_mem _ ha)
  apart := fun a ha b hb => h.apart a (List.mem_cons_of_mem _ ha) b (List.mem_cons_of_mem _ hb)
  distinct := h.distinct
  held := by
    intro i c'
    rw [h.held]
    constructor
    · rintro ⟨a, ha, number, identity⟩
      rcases List.mem_cons.1 ha with rfl | old
      · cases identity
      · exact ⟨a, old, number, identity⟩
    · rintro ⟨a, ha, both⟩
      exact ⟨a, List.mem_cons_of_mem _ ha, both⟩
  serving := by
    intro m k s hm hk
    rcases h.serving_cases hm hk with own | others
    · cases own
    · exact others
  tidy := h.tidy

/-! ## The gateway meanwhile -/

/-- A session that may have a station works. -/
theorem serve (h : Balanced max count limiter identities g entries) (served : Gateway.Served n g g')
    (own : ∃ a ∈ entries, a.stage.serving? = some n) :
    Balanced max count limiter identities g' entries where
  max := h.max
  live := h.live
  room := h.room
  numbers := h.numbers
  known := h.known
  there := by
    rw [served.works.length]
    exact h.there
  apart := h.apart
  distinct := h.distinct
  held := by
    intro i c
    rw [h.held]
    simp only [Stage.identity?_of_works served.works]
  serving := by
    intro m k s hm hk
    by_cases same : m = n
    · exact same ▸ own
    · have seat := served.works.others m same
      rw [hm] at seat
      obtain ⟨s₀, hm₀, eq⟩ := Option.map_eq_some_iff.1 seat.symm
      exact h.serving m k s₀ hm₀ ((congrArg Prod.snd eq).trans hk)
  tidy := served.tidy

/-- No station is made or closed. -/
theorem keeps (h : Balanced max count limiter identities g entries) (keeps : g.Keeps g') :
    Balanced max count limiter identities g' entries where
  max := h.max
  live := h.live
  room := h.room
  numbers := h.numbers
  known := h.known
  there := by
    rw [(keeps.works 0).length]
    exact h.there
  apart := h.apart
  distinct := h.distinct
  held := by
    intro i c
    rw [h.held]
    simp only [Stage.identity?_of_works (keeps.works 0)]
  serving := by
    intro m k s hm hk
    obtain ⟨s₀, hm₀, eq⟩ := getElem?_of_map_eq keeps.seats hm
    exact h.serving m k s₀ hm₀ ((congrArg Prod.snd eq).symm.trans hk)
  tidy := keeps.tidy h.tidy

/-! ## The stations of connections -/

/-- An open station is that of one connection, which holds its identity. -/
theorem holder (h : Balanced max count limiter identities g entries) {role : Role} {k : Nat}
    {name : String} (opened : g.engine.Open role k name) :
    ∃ a ∈ entries, ∃ n s, a.stage.serving? = some n ∧ g.sessions[n]? = some s ∧
      s.station? = some k ∧ s.identity = ⟨role, name⟩ ∧
      (⟨role, name⟩, a.number) ∈ identities.held := by
  obtain ⟨n, s, hn, hk, identity⟩ := h.tidy.owned role k name opened
  obtain ⟨a, ha, serving⟩ := h.serving n k s hn hk
  refine ⟨a, ha, n, s, serving, hn, hk, identity, (h.held _ _).2 ⟨a, ha, rfl, ?_⟩⟩
  rw [Stage.identity?_of_session? (Stage.session?_of_serving? serving), hn, Option.map_some,
    identity]

/-- No name has two open stations of a role. -/
theorem alone (h : Balanced max count limiter identities g entries) {role : Role} {k k' : Nat}
    {name : String} (opened : g.engine.Open role k name) (opened' : g.engine.Open role k' name) :
    k = k' := by
  obtain ⟨a, ha, n, s, serving, hn, hk, -, held⟩ := h.holder opened
  obtain ⟨b, hb, m, t, serving', hm, hk', -, held'⟩ := h.holder opened'
  have number : a.number = b.number :=
    congrArg Prod.snd (List.inj_on_of_nodup_map h.distinct held held' rfl)
  obtain rfl : a = b := List.inj_on_of_nodup_map h.numbers ha hb number
  rw [serving] at serving'
  cases serving'
  rw [hn] at hm
  cases hm
  rw [hk] at hk'
  exact Option.some.inj hk'

end Balanced

end HomeGateway
