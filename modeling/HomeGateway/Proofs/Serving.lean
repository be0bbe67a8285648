/-
  What a server does with its host.

  A server lets connections in and lets them leave, reads and writes until there
  is nothing to do, and stops.  Each of these is a number of steps, so whatever
  holds after all runs holds whenever the server looks at its host; and each takes
  a connection through all of its stages, so none is on its way in between.

  * `carries_connect`, `carries_leave`, `carries_stop`: connections come and go;
  * `carries_settle`: messages are read and frames are written;
  * `kept_of_operated`: slots, identities and stations between any two operations;
  * `ended_of_operated`: nothing is left of a server once it was stopped.
-/
import HomeGateway.Proofs.Isolation

namespace HomeGateway

open Engine Connection Call

/-- How many stages a connection has before it, with the one at which it is. -/
@[simp]
def Stage.ahead : Stage → Nat
  | .admitted _ => 7
  | .presented _ => 6
  | .identified _ => 5
  | .opened _ => 4
  | .leaving .. => 3
  | .shut _ => 2
  | .nameless => 1

namespace Host

variable {h h' h'' : Host} {max c n : Nat} {l : Link} {stage : Stage}

/-! ## Runs that leave nobody on the way -/

theorem Reaches.trans (run : Reaches h h') (run' : Reaches h' h'') : Reaches h h'' := by
  induction run' with
  | refl => exact run
  | tail before step ih => exact .tail ih step

theorem Step.reaches (step : Step h h') : Reaches h h' :=
  .tail .refl step

/-- A run after which no connection is being set up or taken down, if none was before. -/
structure Carries (h h' : Host) : Prop where
  /-- what happens one after the other -/
  run : Reaches h h'
  /-- nobody stays on the way -/
  rest : h.attempts = [] → h'.attempts = []

theorem Carries.refl (h : Host) : h.Carries h :=
  ⟨.refl, id⟩

theorem Carries.trans (first : h.Carries h') (second : h'.Carries h'') : h.Carries h'' :=
  ⟨first.run.trans second.run, fun idle => second.rest (first.rest idle)⟩

theorem Talked.carries (talked : h.Talked h') : h.Carries h' :=
  ⟨Step.reaches (.talk talked), talked.attempts.trans⟩

theorem Talked.numbers (talked : h.Talked h') :
    h'.links.map (·.number) = h.links.map (·.number) := by
  have numbers := congrArg (List.map Prod.fst) talked.links
  rw [List.map_map, List.map_map] at numbers
  exact numbers

theorem carries_within {α : Type} {f : Gateway → α × Gateway} (step : Step h (h.within f).2) :
    h.Carries (h.within f).2 :=
  ⟨step.reaches, (talked_flush { h with gateway := (f h.gateway).2 }).attempts.trans⟩

/-! ## One connection on its way -/

/-- How a connection comes to its next stage, as far as the host sees it. -/
inductive Advances (c : Nat) (h h' : Host) : Stage → Prop where
  /-- it has fewer stages before it -/
  | goesOn {stage : Stage} (stage' : Stage) (less : stage'.ahead < stage.ahead)
    (attempts : h'.attempts = (h.reach c stage').attempts)
    (numbers : h'.links.map (·.number) = h.links.map (·.number))
    (stopping : h'.stopping = h.stopping) : Advances c h h' stage
  /-- it becomes live -/
  | lives {n : Nat} (running : h.stopping = false) (attempts : h'.attempts = (h.pass c).attempts) :
    Advances c h h' (.opened n)
  /-- it is gone -/
  | ends (attempts : h'.attempts = (h.pass c).attempts)
    (numbers : h'.links.map (·.number) = h.links.map (·.number))
    (stopping : h'.stopping = h.stopping) : Advances c h h' .nameless

theorem advances_enliven (c n : Nat) (h : Host) : h.Advances c (h.enliven c n) (.opened n) := by
  unfold enliven
  split
  · exact .goesOn (.leaving n _) (by simp) rfl rfl rfl
  next running => exact .lives (Bool.eq_false_iff.2 running) (talked_flush _).attempts

theorem advances_close (c n : Nat) (farewell : Option Outcome) (h : Host) :
    h.Advances c (h.close c n farewell) (.leaving n farewell) := by
  have flushed := talked_flush { h with gateway := (h.gateway.abandon n).shutdownSession n }
  have attempts := congrArg (List.map fun a => if a.number = c then ⟨c, .shut n⟩ else a)
    flushed.attempts
  cases farewell
  all_goals exact .goesOn (.shut n) (by simp) attempts flushed.numbers flushed.stopping

theorem advances_proceed (hs : h.stage? c = some stage) : h.Advances c (h.proceed c) stage := by
  unfold proceed
  rw [hs]
  cases stage with
  | admitted query =>
    show h.Advances c (h.present c query) _
    unfold present
    cases SessionParams.ofQuery query
    all_goals exact .goesOn _ (by simp) rfl rfl rfl
  | presented p =>
    show h.Advances c (h.identify c p) _
    unfold identify
    cases h.identities.reserve p.identity c
    all_goals exact .goesOn _ (by simp) rfl rfl rfl
  | identified p =>
    show h.Advances c (h.establish c p) _
    unfold establish
    dsimp only
    split
    all_goals exact .goesOn _ (by simp) rfl rfl rfl
  | opened n => exact advances_enliven c n h
  | leaving n farewell => exact advances_close c n farewell h
  | shut n => exact .goesOn .nameless (by simp) rfl rfl rfl
  | nameless => exact .ends rfl rfl rfl

theorem proceed_of_stage?_eq_none (hs : h.stage? c = none) : h.proceed c = h := by
  unfold proceed
  rw [hs]

/-- Nobody is on the way but one connection with at most so many stages before it. -/
def Alone (c ahead : Nat) (h : Host) : Prop :=
  h.attempts = [] ∨ ∃ stage : Stage, h.attempts = [⟨c, stage⟩] ∧ stage.ahead ≤ ahead

theorem Alone.mono {m : Nat} (alone : h.Alone c n) (le : n ≤ m) : h.Alone c m :=
  alone.imp id fun ⟨stage, lone, bound⟩ => ⟨stage, lone, Nat.le_trans bound le⟩

theorem proceed_of_idle (idle : h.attempts = []) (c : Nat) : h.proceed c = h :=
  proceed_of_stage?_eq_none (by simp [stage?, idle])

theorem stage?_of_lone (lone : h.attempts = [⟨c, stage⟩]) : h.stage? c = some stage := by
  simp [stage?, lone]

theorem attempts_reach (lone : h.attempts = [⟨c, stage⟩]) (stage' : Stage) :
    (h.reach c stage').attempts = [⟨c, stage'⟩] := by
  simp [reach, lone]

theorem attempts_pass (lone : h.attempts = [⟨c, stage⟩]) : (h.pass c).attempts = [] := by
  simp [pass, lone]

/-- Each stage leaves one less. -/
theorem alone_proceed (alone : h.Alone c (n + 1)) : (h.proceed c).Alone c n := by
  rcases alone with idle | ⟨stage, lone, bound⟩
  · rw [proceed_of_idle idle]
    exact .inl idle
  · cases advances_proceed (stage?_of_lone lone) with
    | goesOn stage' less attempts =>
      exact .inr ⟨stage', attempts.trans (attempts_reach lone stage'), by omega⟩
    | lives _ attempts => exact .inl (attempts.trans (attempts_pass lone))
    | ends attempts => exact .inl (attempts.trans (attempts_pass lone))

/-- Who has had all stages is not on the way any more. -/
theorem attempts_pursue (alone : h.Alone c n) : (h.pursue c n).attempts = [] := by
  induction n generalizing h with
  | zero =>
    rcases alone with idle | ⟨stage, -, bound⟩
    · exact idle
    · cases stage
      all_goals simp at bound
  | succ n ih => exact ih (alone_proceed alone)

/-- Who has left, and has at most three stages before it, does not become live again. -/
theorem numbers_proceed (left : h.Alone c 3) :
    (h.proceed c).links.map (·.number) = h.links.map (·.number) := by
  rcases left with idle | ⟨stage, lone, bound⟩
  · rw [proceed_of_idle idle]
  · cases advances_proceed (stage?_of_lone lone) with
    | goesOn _ _ _ numbers => exact numbers
    | lives => simp at bound
    | ends _ numbers => exact numbers

theorem numbers_pursue (left : h.Alone c 3) (n : Nat) :
    (h.pursue c n).links.map (·.number) = h.links.map (·.number) := by
  induction n generalizing h with
  | zero => rfl
  | succ n ih =>
    exact (ih ((alone_proceed left).mono (by decide))).trans (numbers_proceed left)

theorem alone_arrive (idle : h.attempts = []) (query : QueryText.Parameters) :
    (h.arrive query).2.Alone h.count Stage.count := by
  unfold arrive
  dsimp only
  cases h.limiter.acquire? with
  | none => exact .inl idle
  | some limiter => exact .inr ⟨.admitted query, by rw [idle]; rfl, Nat.le_refl _⟩

theorem alone_depart (idle : h.attempts = []) (l : Link) (farewell : Option Outcome) :
    (h.depart l farewell).Alone l.number 3 :=
  .inr ⟨.leaving l.session farewell, by rw [depart, idle]; rfl, Nat.le_refl _⟩

theorem attempts_finish (idle : h.attempts = []) (l : Link) (farewell : Option Outcome) :
    (h.finish l farewell).attempts = [] :=
  attempts_pursue ((alone_depart idle l farewell).mono (by decide))

theorem numbers_finish (idle : h.attempts = []) (l : Link) (farewell : Option Outcome) :
    (h.finish l farewell).links.map (·.number) =
      (h.links.map (·.number)).filter (· ≠ l.number) := by
  rw [List.filter_map]
  exact numbers_pursue (alone_depart idle l farewell) _

/-! ## Connections come and go -/

theorem reaches_pursue (c n : Nat) (h : Host) : Reaches h (h.pursue c n) := by
  induction n generalizing h with
  | zero => exact .refl
  | succ n ih => exact (Step.proceed c).reaches.trans (ih _)

theorem carries_connect (query : QueryText.Parameters) (h : Host) :
    h.Carries (h.connect query).2 where
  run := (Step.arrive query).reaches.trans (reaches_pursue _ _ _)
  rest idle := attempts_pursue (alone_arrive idle query)

/-- A link is that of a live connection, as it is now or as it was before. -/
def Serves (l : Link) (h : Host) : Prop :=
  (l.number, l.session) ∈ h.links.map fun l => (l.number, l.session)

theorem serves_of_link? (hl : h.link? c = some l) : h.Serves l :=
  List.mem_map.2 ⟨l, List.mem_of_find?_eq_some hl, rfl⟩

theorem Talked.serves (talked : h.Talked h') (serves : h.Serves l) : h'.Serves l := by
  unfold Serves
  rw [talked.links]
  exact serves

theorem Serves.working (serves : h.Serves l) : h.Working l.session := by
  obtain ⟨l', live, same⟩ := List.mem_map.1 serves
  exact .inl ⟨l', live, congrArg Prod.snd same⟩

theorem carries_finish (serves : h.Serves l) (farewell : Option Outcome) :
    h.Carries (h.finish l farewell) := by
  refine ⟨?_, fun idle => attempts_finish idle l farewell⟩
  obtain ⟨l', live, same⟩ := List.mem_map.1 serves
  have departs : h.depart l farewell = h.depart l' farewell := by
    unfold depart
    rw [show l.number = l'.number from (congrArg Prod.fst same).symm,
      show l.session = l'.session from (congrArg Prod.snd same).symm]
  unfold finish
  rw [departs]
  exact (Step.depart l' farewell live).reaches.trans (reaches_pursue _ _ _)

theorem carries_leave (c : Nat) (h : Host) : h.Carries (h.leave c) := by
  unfold leave
  cases hl : h.link? c with
  | none => exact .refl h
  | some l => exact carries_finish (serves_of_link? hl) none

/-- One connection after the other is over. -/
theorem carries_foldl_finish (farewell : Option Outcome) {ls : List Link} (o : h.Orderly max)
    (live : ∀ l ∈ ls, h.link? l.number = some l) (apart : (ls.map (·.number)).Nodup) :
    h.Carries (ls.foldl (fun h l => h.finish l farewell) h) := by
  induction ls generalizing h with
  | nil => exact .refl h
  | cons l ls ih =>
    rw [List.map_cons, List.nodup_cons] at apart
    have own := live l List.mem_cons_self
    have one := carries_finish (serves_of_link? own) farewell
    refine one.trans (ih (reaches_orderly o one.run) ?_ apart.2)
    intro l' rest
    have other : l'.number ≠ l.number := by
      intro same
      exact apart.1 (List.mem_map.2 ⟨l', rest, same⟩)
    have undisturbed := undisturbed_finish o (List.mem_of_find?_eq_some own) farewell
    rw [undisturbed.links l'.number other]
    exact live l' (List.mem_cons_of_mem _ rest)

theorem carries_signalled (o : h.Orderly max) : h.signal.Carries h.stop := by
  have o' := step_orderly o .signal
  exact carries_foldl_finish _ o' (fun l live => link?_of_mem o' live) o'.apart.2

theorem carries_stop (o : h.Orderly max) : h.Carries h.stop :=
  Carries.trans ⟨Step.signal.reaches, id⟩ (carries_signalled o)

/-- Of the live connections those stay that are not over. -/
theorem mem_numbers_foldl_finish (farewell : Option Outcome) {ls : List Link}
    (idle : h.attempts = []) {k : Nat}
    (stays : k ∈ (ls.foldl (fun h l => h.finish l farewell) h).links.map (·.number)) :
    k ∈ h.links.map (·.number) ∧ k ∉ ls.map (·.number) := by
  induction ls generalizing h with
  | nil => exact ⟨stays, List.not_mem_nil⟩
  | cons l ls ih =>
    obtain ⟨there, others⟩ := ih (attempts_finish idle l farewell) stays
    rw [numbers_finish idle, List.mem_filter, decide_eq_true_eq] at there
    exact ⟨there.1, fun here => (List.mem_cons.1 here).elim there.2 others⟩

/-- A host that was stopped has no live connection. -/
theorem links_stop (idle : h.attempts = []) : h.stop.links = [] := by
  rw [List.eq_nil_iff_forall_not_mem]
  intro l live
  have stays : l.number ∈ h.stop.links.map (·.number) := List.mem_map_of_mem live
  obtain ⟨there, ended⟩ := mem_numbers_foldl_finish _ (h := h.signal) idle stays
  exact ended there

/-! ## Messages are read and frames are written -/

theorem talked_changeLink {f : Link → Link}
    (same : ∀ l ∈ h.links, l.number = c → ((f l).number, (f l).session) = (l.number, l.session)) :
    h.Talked (h.changeLink c f) := by
  refine .ofMap fun l live => ?_
  by_cases own : l.number = c
  · rw [if_pos own]
    exact same l live own
  · rw [if_neg own]

theorem talked_receive (c : Nat) (messages : List Inbound) (h : Host) :
    h.Talked (h.receive c messages) :=
  talked_changeLink fun _ _ _ => rfl

theorem talked_keep (c : Nat) (messages : List Inbound) (h : Host) :
    h.Talked (h.changeLink c fun l => { l with inbox := messages }) :=
  talked_changeLink fun _ _ _ => rfl

theorem talked_takeSeen (h : Host) : h.Talked h.takeSeen.2.2 :=
  { Talked.refl h with }

theorem talked_taken (c : Nat) (t : Taken) (h : Host) : h.Talked (h.taken c t).2 := by
  refine talked_changeLink fun l _ _ => ?_
  cases t <;> rfl

theorem talked_write (o : h.Orderly max) (c : Nat) : h.Talked (h.write c) := by
  have revealed : ∀ (frames : List Frame) (h : Host),
      h.Talked (frames.foldl (fun h f => h.reveal c (.frame f)) h) := by
    intro frames
    induction frames with
    | nil => exact Talked.refl
    | cons f frames ih => exact fun h => (talked_reveal c _ h).trans (ih _)
  unfold write
  cases hl : h.link? c with
  | none => exact .refl h
  | some l =>
    refine Talked.trans (talked_changeLink ?_) (revealed _ _)
    rintro l' live rfl
    rw [link?_of_mem o live] at hl
    cases hl
    rfl

/-- Whatever a session does, its connection stays. -/
theorem serves_within {α : Type} (f : Gateway → α × Gateway) (serves : h.Serves l) :
    (h.within f).2.Serves l :=
  (talked_flush { h with gateway := (f h.gateway).2 }).serves serves

theorem carries_handleText (o : h.Orderly max) (working : h.Working n) (frame : String) :
    h.Carries (h.within (·.handleText n frame)).2 := by
  cases hq : request frame with
  | ok q =>
    have handled : (fun g : Gateway => g.handleText n frame) = (·.handle n q) := by
      unfold Gateway.handleText
      rw [hq]
    rw [handled]
    exact carries_within (.request n q working)
  | error refused =>
    have still : (h.within (·.handleText n frame)).2 = h.flush := by
      unfold within Gateway.handleText
      rw [hq]
    rw [still, flush_of_quiet o.quiet]
    exact .refl h

theorem carries_take (o : h.Orderly max) (serves : h.Serves l) (frame : String) :
    h.Carries (h.take l frame).2 ∧ (h.take l frame).2.Serves l := by
  have talked := talked_taken l.number (.ofFrame frame (h.within (·.handleText l.session frame)).1)
    (h.within (·.handleText l.session frame)).2
  refine ⟨?_, talked.serves (serves_within _ serves)⟩
  exact (carries_handleText o serves.working frame).trans talked.carries

theorem carries_breakOff (o : h.Orderly max) (serves : h.Serves l) :
    h.Carries (h.breakOff l) := by
  unfold breakOff
  dsimp only
  split
  · have talked := talked_write o l.number
    exact talked.carries.trans (carries_finish (talked.serves serves) _)
  · exact carries_finish serves _

/-- The reader goes on only if its connection stays. -/
theorem carries_readOne (o : h.Orderly max) (serves : h.Serves l) (m : Inbound) :
    h.Carries (h.readOne l m).2 ∧ ((h.readOne l m).1 = true → (h.readOne l m).2.Serves l) := by
  have talks : ∀ t h', h.Talked h' → h.Carries (h'.taken l.number t).2 ∧
      ((h'.taken l.number t).1 = true → (h'.taken l.number t).2.Serves l) := by
    intro t h' talked
    have told := talked.trans (talked_taken l.number t h')
    exact ⟨told.carries, fun _ => told.serves serves⟩
  unfold readOne
  cases m.reading h.config.maxMessageSize with
  | frame s =>
    obtain ⟨run, stays⟩ := carries_take o serves s
    exact ⟨run, fun _ => stays⟩
  | refused r => exact talks (.answered r) h (.refl h)
  | pong n => exact talks .ignored _ (talked_reveal l.number (.pong n) h)
  | nothing => exact talks .ignored h (.refl h)
  | closed => exact ⟨carries_finish serves none, fun more => absurd more Bool.false_ne_true⟩
  | broken =>
    dsimp only
    exact ⟨carries_breakOff o serves, fun more => absurd more Bool.false_ne_true⟩

theorem carries_read (o : h.Orderly max) (serves : h.Serves l) (messages : List Inbound) :
    h.Carries (h.read l messages) := by
  induction messages generalizing h with
  | nil => exact (talked_keep l.number [] h).carries
  | cons m rest ih =>
    obtain ⟨one, stays⟩ := carries_readOne o serves m
    unfold read
    cases hread : h.readOne l m with
    | mk more h' =>
      rw [hread] at one stays
      cases more with
      | true => exact one.trans (ih (reaches_orderly o one.run) (stays rfl))
      | false => exact one.trans (talked_keep l.number rest h').carries

theorem carries_turns (o : h.Orderly max) (n c : Nat) : h.Carries (turns n c h) := by
  induction n generalizing h with
  | zero => exact .refl h
  | succ n ih =>
    unfold turns
    cases hl : h.link? c with
    | none => exact .refl h
    | some l =>
      have reads : h.Carries (if l.paused then h else h.read l l.inbox) := by
        split
        · exact .refl h
        · exact carries_read o (serves_of_link? hl) l.inbox
      have writes := reads.trans (talked_write (reaches_orderly o reads.run) c).carries
      exact writes.trans (ih (reaches_orderly o writes.run))

theorem carries_settle (o : h.Orderly max) : h.Carries h.settle := by
  unfold settle
  induction h.links.map (·.number) generalizing h with
  | nil => exact .refl h
  | cons c cs ih =>
    have one : h.Carries (h.settleLink c) := by
      unfold settleLink
      cases h.link? c with
      | none => exact .refl h
      | some l => exact carries_turns o _ c
    exact one.trans (ih (reaches_orderly o one.run))

theorem carries_advance (o : h.Orderly max) (ms : Nat) :
    h.Carries { h with gateway := h.gateway.advance ms } := by
  have passes := carries_within (h := h) (.outside (.passed ms))
  have quiet : ({ h with gateway := h.gateway.advance ms } : Host).gateway.engine.journal = [] :=
    o.quiet
  exact flush_of_quiet quiet ▸ passes

/-! ## A server at work -/

/-- What a server has its host do. -/
inductive Operation where
  /-- let a connection in -/
  | connect (query : QueryText.Parameters)
  /-- take messages from a caller, back to back -/
  | receive (c : Nat) (messages : List Inbound)
  /-- read and write until there is nothing to do -/
  | settle
  /-- hand over what callers saw -/
  | takeSeen
  /-- let time pass -/
  | advance (ms : Nat)
  /-- let a caller leave -/
  | leave (c : Nat)
  /-- end all connections, and let no more in -/
  | stop

/-- A host after an operation. -/
def operate (h : Host) : Operation → Host
  | .connect query => (h.connect query).2
  | .receive c messages => h.receive c messages
  | .settle => h.settle
  | .takeSeen => h.takeSeen.2.2
  | .advance ms => { h with gateway := h.gateway.advance ms }
  | .leave c => h.leave c
  | .stop => h.stop

/-- What becomes of a host while a server is at work, and others do what they do in between. -/
inductive Operated (h : Host) : Host → Prop where
  /-- nothing -/
  | refl : Operated h h
  /-- one more operation -/
  | operate {h' : Host} (before : Operated h h') (x : Operation) : Operated h (h'.operate x)
  /-- others than callers do something -/
  | outside {h' : Host} {g : Gateway} (before : Operated h h') (outside : h'.gateway.Outside g) :
    Operated h (h'.within fun _ => ((), g)).2

theorem carries_operate (o : h.Orderly max) (x : Operation) : h.Carries (h.operate x) := by
  cases x with
  | connect query => exact carries_connect query h
  | receive c messages => exact (talked_receive c messages h).carries
  | settle => exact carries_settle o
  | takeSeen => exact (talked_takeSeen h).carries
  | advance ms => exact carries_advance o ms
  | leave c => exact carries_leave c h
  | stop => exact carries_stop o

theorem Operated.carries (o : h.Orderly max) (run : Operated h h') : h.Carries h' := by
  induction run with
  | refl => exact .refl h
  | operate before x ih => exact ih.trans (carries_operate (reaches_orderly o ih.run) x)
  | outside before outside ih => exact ih.trans (carries_within (.outside outside))

/-- What a host of a server keeps between any two operations. -/
theorem kept_of_operated {config : ServerConfig} (run : Operated (initial config) h) :
    h.Kept config.maxConnections ∧ h.attempts = [] := by
  have o := initial_orderly config
  have carries := run.carries o
  exact ⟨(reaches_orderly o carries.run).kept, carries.rest rfl⟩

/-! ## After the end -/

/-- A host that shuts down goes on doing so, and nobody becomes live any more. -/
structure Closing (h h' : Host) : Prop where
  stopping : h.stopping = true → h'.stopping = true
  gone : h.stopping = true → h.links = [] → h'.links = []

theorem Closing.of_numbers (stopping : h'.stopping = h.stopping)
    (numbers : h'.links.map (·.number) = h.links.map (·.number)) : h.Closing h' where
  stopping := stopping.trans
  gone _ gone := by
    rw [gone] at numbers
    exact List.map_eq_nil_iff.1 numbers

theorem Closing.trans (first : h.Closing h') (second : h'.Closing h'') : h.Closing h'' where
  stopping stops := second.stopping (first.stopping stops)
  gone stops gone := second.gone (first.stopping stops) (first.gone stops gone)

theorem Talked.closing (talked : h.Talked h') : h.Closing h' :=
  .of_numbers talked.stopping talked.numbers

theorem closing_proceed (c : Nat) (h : Host) : h.Closing (h.proceed c) := by
  cases hs : h.stage? c with
  | none =>
    rw [proceed_of_stage?_eq_none hs]
    exact .of_numbers rfl rfl
  | some stage =>
    cases advances_proceed hs with
    | goesOn _ _ _ numbers stopping => exact .of_numbers stopping numbers
    | lives running =>
      have never (stops : h.stopping = true) : False := Bool.noConfusion (running.symm.trans stops)
      exact ⟨fun stops => (never stops).elim, fun stops => (never stops).elim⟩
    | ends _ numbers stopping => exact .of_numbers stopping numbers

theorem closing_within {α : Type} (f : Gateway → α × Gateway) (h : Host) :
    h.Closing (h.within f).2 := by
  have flushed := (talked_flush { h with gateway := (f h.gateway).2 }).closing
  exact ⟨flushed.stopping, flushed.gone⟩

theorem Step.closing (step : Step h h') : h.Closing h' := by
  cases step with
  | arrive query =>
    unfold Host.arrive
    dsimp only
    cases h.limiter.acquire?
    all_goals exact .of_numbers rfl rfl
  | proceed c => exact closing_proceed c h
  | depart l farewell live =>
    refine ⟨id, fun _ gone => ?_⟩
    rw [gone] at live
    cases live
  | signal => exact ⟨fun _ => rfl, fun _ => id⟩
  | request | close | init | outside => exact closing_within _ h
  | talk talked => exact talked.closing

theorem Reaches.closing (run : Reaches h h') : h.Closing h' := by
  induction run with
  | refl => exact .of_numbers rfl rfl
  | tail before step ih => exact ih.trans step.closing

/-- Once a server was stopped nothing is left of it, and nothing comes back. -/
theorem ended_of_operated {config : ServerConfig} (run : Operated (initial config) h)
    (run' : Operated h.stop h') :
    h'.links = [] ∧ h'.attempts = [] ∧ h'.limiter.live = 0 ∧ h'.identities.held = [] ∧
      ∀ role k name, ¬ h'.gateway.engine.Open role k name := by
  obtain ⟨-, idle⟩ := kept_of_operated run
  have o := reaches_orderly (initial_orderly config) (run.carries (initial_orderly config)).run
  have o' := reaches_orderly o (carries_stop o).run
  have stops : h.stop.stopping = true := (carries_signalled o).run.closing.stopping rfl
  have after := run'.carries o'
  have gone := after.run.closing.gone stops (links_stop idle)
  have rested := after.rest ((carries_stop o).rest idle)
  exact ⟨gone, rested, (reaches_orderly o' after.run).kept.ended rested gone⟩

example :
    let config : ServerConfig := ⟨"127.0.0.1", 5580, 2, 65536, 16, 1000, ⟨100, 32⟩⟩
    let query : QueryText.Parameters :=
      [("service", "client"), ("controllerName", "hall"), ("storagePath", "hall"), ("nodeId", "7")]
    let h := ((initial config).connect query).2.settle
    h.limiter.live = 1 ∧ (h.stop.connect query).2.limiter.live = 0 := by
  decide +kernel

end Host

end HomeGateway
