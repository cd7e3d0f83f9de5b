import DrainGuard.Proofs.Lifecycle.Account

/-!
# The timetable of a shutdown

With a console that takes the same time for every line and an agent that takes the same time for
every backup, the clock of a run is known in advance.

- **Pace** (`Guard.Steady`): the console and the agent take these times in every world that the acts
  of the guard lead to, so all that the guard enacts is on pace (`Enacts.onPace`).
- **Timetable** (`Guard.duties`, `reached`, `elapsedOf`): when each line is due, how many of them
  are sent, and how long the run takes. This depends on the look-up, on the command that failed, on
  how often the process was found alive and on whether there was a backup after a fault.
- **Runs** (`Guard.Punctual`): the sends of a run and its clock are those of the timetable. Every
  course is punctual (`Course.punctual`), and so is a run that still waits for the exit.
- **All runs** (`drainWithin_punctual`).
-/

namespace DrainGuard

variable {σ : Type} {L B : Nat}

/-! ## Pace -/

/-- In the worlds that acts lead to, every line takes `L` milliseconds and every backup `B`. -/
structure Guard.Steady (g : Guard σ) (W : σ → Prop) (L B : Nat) : Prop where
  send : ∀ line w, W w → (g.channel.send line w).1.2 = L ∧ W (g.channel.send line w).2
  locate : ∀ w, W w → W (g.channel.locate w).2
  alive : ∀ pid w, W w → W (g.channel.alive pid w).2
  invoke : ∀ mode w, W w → (g.archiver.invoke mode w).1.2 = B ∧ W (g.archiver.invoke mode w).2

/-- A line takes `L` milliseconds and a backup `B`. -/
def Act.OnPace (L B : Nat) : Act → Prop
  | sent _ _ ms => ms = L
  | archived _ _ ms => ms = B
  | located _ | checked _ _ | slept _ => True

/-- All acts of a guard of steady pace are on pace. -/
theorem Guard.Enacts.onPace {g : Guard σ} {W : σ → Prop} {s s₁ : Session σ} {as : List Act}
    (h : g.Enacts s as s₁) (hg : g.Steady W L B) (hw : W s.world) : ∀ a ∈ as, a.OnPace L B := by
  induction h with
  | nil s => exact fun _ ha => nomatch ha
  | sent line h ih =>
    obtain ⟨hms, hw₁⟩ := hg.send line _ hw
    exact List.forall_mem_cons.mpr ⟨hms, ih hw₁⟩
  | located h ih => exact List.forall_mem_cons.mpr ⟨trivial, ih (hg.locate _ hw)⟩
  | checked pid h ih => exact List.forall_mem_cons.mpr ⟨trivial, ih (hg.alive pid _ hw)⟩
  | archived mode h ih =>
    obtain ⟨hms, hw₁⟩ := hg.invoke mode _ hw
    exact List.forall_mem_cons.mpr ⟨hms, ih hw₁⟩
  | slept ms h ih => exact List.forall_mem_cons.mpr ⟨trivial, ih hw⟩

/-! ## The timetable -/

namespace Event

/-- How many looks found a process alive. -/
def aliveLooks (es : List Event) : Nat := (checks es).countP fun (_, _, alive) => alive

/-- The first command that drains the server and fails. -/
def failing? (es : List Event) : Option ConsoleCommand := (fault? es).map fun (c, _, _) => c

end Event

/-- The lines that drain a server, each with the milliseconds from the begin of the run to it. -/
def Guard.duties (g : Guard σ) (trigger : Trigger) (L : Nat) : List (Nat × String) :=
  let W := g.timings.warningDelay
  let G := g.timings.graceDelay
  [0, L].zip ((warnings trigger g.timings.warningDelaySecs).map Broadcast.command) ++
    [(2 * L + W, savingNews.command), (3 * L + W, ConsoleCommand.saveOff.text),
      (4 * L + W + G, ConsoleCommand.saveAll.text), (5 * L + W + 2 * G, stoppingNews.command),
      (6 * L + W + 2 * G, ConsoleCommand.stop.text)]

/-- How many of them are sent, by what the look-up answered and by the command that failed. -/
def reached : Except Failure (Option Nat) → Option ConsoleCommand → Nat
  | .ok (some _), some .saveOff => 4
  | .ok (some _), some .saveAll => 5
  | .ok (some _), _ => 7
  | .ok none, _ | .error _, _ => 0

/-- The milliseconds from the begin of a run to its end, by what the look-up answered, by the
command that failed, by the number of looks that found the process alive, and by whether there was a
backup. -/
def elapsedOf (T : ShutdownSettings) (L B : Nat) (located : Except Failure (Option Nat))
    (failing : Option ConsoleCommand) (looks : Nat) (archived : Bool) : Nat :=
  let W := T.warningDelay
  let G := T.graceDelay
  let P := T.exitPollIntervalMillis
  match located, failing with
  | .error _, _ => 2 * L
  | .ok none, _ => 2 * L + B
  | .ok (some _), none => 9 * L + W + 2 * G + looks * P + B
  | .ok (some _), some c =>
    (match c with
      | .saveOff => 6 * L + W
      | .saveAll => 7 * L + W + G
      | _ => 9 * L + W + 2 * G) + if archived then B else 0

/-- When the lines of a run were sent and when it was over: it began at `t` and came to `t₁`. -/
structure Guard.Punctual (g : Guard σ) (trigger : Trigger) (L B t : Nat)
    (located : Except Failure (Option Nat)) (es : List Event) (report : Option Report) (t₁ : Nat) :
    Prop where
  /-- Up to the command that fails, every line is sent when it is due. A run that has ended has sent
  two more in its last moments. -/
  sends : ∃ conclusion, Event.sends es =
      ((g.duties trigger L).take (reached located (Event.failing? es))).map
        (fun q => (t + q.1, q.2)) ++ conclusion ∧
    (report = none → conclusion = []) ∧
    (report ≠ none → ∃ t₂ news, t₁ = t₂ + 2 * L ∧
      conclusion = [(t₂, ConsoleCommand.saveOn.text), (t₂ + L, news)])
  /-- The first line tells the players how many seconds they have. -/
  warned : ∀ pid, located = .ok (some pid) → ∃ line v front,
    (Event.sends es).head? = some (t, line) ∧ Broadcast.Decodes line v ∧
      v.get "text" = .str (front ++ toString g.timings.warningDelaySecs ++ " seconds!")
  elapsed : report ≠ none → t₁ = t + elapsedOf g.timings L B located (Event.failing? es)
    (Event.aliveLooks es) (!(Event.backups es).isEmpty)
  /-- A run that has not ended was told to stop and has been waiting since. -/
  waiting : report = none → t₁ = t + (7 * L + g.timings.warningDelay + 2 * g.timings.graceDelay +
    Event.aliveLooks es * g.timings.exitPollIntervalMillis)

/-! ## Sends and looks of acts -/

namespace Event

variable {es fs : List Event}

/-- What is sent after the commands that drain the server is not among them. -/
theorem failing?_append (h : ∀ o ∈ orders fs, o.1 ∉ drainage) :
    failing? (es ++ fs) = failing? es := by
  induction es with
  | nil =>
    have hf : fault? fs = none := fault?_eq_none fun o ho hd => absurd hd (h o ho)
    rw [List.nil_append, failing?, hf]
    rfl
  | cons e es ih =>
    rw [List.cons_append, failing?, failing?, fault?, fault?]
    cases e.failure? with
    | some cf => rfl
    | none => exact ih

theorem aliveLooks_append : aliveLooks (es ++ fs) = aliveLooks es + aliveLooks fs := by
  simp [aliveLooks]

end Event

namespace Act

variable (pid pause looks t : Nat)

theorem total_watched : total (watched pid pause looks) = looks * pause := by
  induction looks with
  | zero => simp [watched]
  | succ k ih =>
    rw [watched, total_cons, total_cons, ih, Nat.succ_mul]
    exact (Nat.zero_add _).trans (Nat.add_comm _ _)

theorem sends_watched : Event.sends (events t (watched pid pause looks)) = [] := by
  have hl := lines_events t (watched pid pause looks)
  rw [line?_watched] at hl
  exact List.map_eq_nil_iff.mp hl

theorem aliveLooks_watched : Event.aliveLooks (events t (watched pid pause looks)) = looks := by
  induction looks generalizing t with
  | zero => rfl
  | succ k ih =>
    rw [watched, events_checked, events_slept, Event.aliveLooks, Event.checks_cons]
    exact (List.countP_cons_of_pos rfl).trans (congrArg (· + 1) (ih _))

end Act

namespace Guard

variable {g : Guard σ} {trigger : Trigger} {pid t : Nat} {c : ConsoleCommand} {p : Progress}
  {as : List Act} {located : Except Failure (Option Nat)}

/-- When a command that drains the server is sent. -/
def commandTime (T : ShutdownSettings) (L : Nat) : ConsoleCommand → Nat
  | .saveOff => 3 * L + T.warningDelay
  | .saveAll => 4 * L + T.warningDelay + T.graceDelay
  | _ => 6 * L + T.warningDelay + 2 * T.graceDelay

/-- The lines up to a command that drains the server are sent when they are due. -/
theorem Before.timed (h : Before g trigger pid c p as) (hp : ∀ a ∈ as, a.OnPace L B) (t : Nat) :
    Act.total as = commandTime g.timings L c ∧
      Event.sends (Act.events t as) ++ [(t + commandTime g.timings L c, c.text)] =
        ((g.duties trigger L).take (reached (.ok (some pid)) (some c))).map
          fun q => (t + q.1, q.2) := by
  induction h with
  | saveOff r₁ r₂ r₃ =>
    obtain ⟨front, hw⟩ := warnings_eq trigger g.timings.warningDelaySecs
    simp only [warningActs, hw, List.zipWith_cons_cons, List.zipWith_nil_left, List.cons_append,
      List.nil_append, List.forall_mem_cons, Act.said, Act.OnPace] at hp ⊢
    obtain ⟨-, h₁, h₂, -, h₃, -⟩ := hp
    simp only [h₁, h₂, h₃, duties, hw]
    refine ⟨?_, ?_⟩
    · simp only [Act.total_cons, Act.total_nil, Act.span, commandTime]
      omega
    · simp only [Act.events_located, Act.events_sent, Act.events_slept, Act.events_nil,
        Event.sends_cons, Event.sends_nil, List.append_nil, List.cons_append, List.nil_append,
        commandTime, reached, List.map_cons, List.map_nil, List.zip_cons_cons, List.zip_nil_right,
        List.take_succ_cons, List.take_zero, List.cons.injEq, Prod.mk.injEq, and_true, true_and]
      omega
  | @saveAll p as h ms ih =>
    obtain ⟨has, hbs⟩ := List.forall_mem_append.mp hp
    obtain ⟨htotal, hsends⟩ := ih has
    have hms : ms = L := hbs _ List.mem_cons_self
    refine ⟨?_, ?_⟩
    · rw [Act.total_append, htotal, hms]
      simp only [Act.ordered, Act.total_cons, Act.total_nil, Act.span, commandTime]
      omega
    · rw [Act.events_append, Event.sends_append, htotal]
      exact congrArg (· ++ [_]) hsends
  | @stop p as h ms r ih =>
    obtain ⟨has, hbs⟩ := List.forall_mem_append.mp hp
    obtain ⟨htotal, hsends⟩ := ih has
    have hms : ms = L := hbs (.ordered .saveAll ⟨.ok (), ms⟩) List.mem_cons_self
    have hr : r.ms = L := hbs (.said stoppingNews r) (by simp)
    have hnews : t + commandTime g.timings L .saveAll + ms + g.timings.graceDelay =
        t + (5 * L + g.timings.warningDelay + 2 * g.timings.graceDelay) := by
      rw [hms, commandTime]
      omega
    refine ⟨?_, ?_⟩
    · rw [Act.total_append, htotal]
      simp only [Act.ordered, Act.said, Act.total_cons, Act.total_nil, Act.span, commandTime, hms,
        hr]
      omega
    · have hlast := congrArg (· ++ [(t + commandTime g.timings L .saveAll + ms +
        g.timings.graceDelay, stoppingNews.command),
        (t + commandTime g.timings L .stop, ConsoleCommand.stop.text)]) hsends
      rw [Act.events_append, Event.sends_append, htotal, List.append_assoc]
      simp only [List.append_assoc] at hlast
      refine hlast.trans ?_
      rw [hnews]
      rfl

/-! ## Courses -/

theorem conclusion_sends (p : Progress) {r₁ r₂ : Reply}
    (hp : ∀ a ∈ closing p r₁ r₂, a.OnPace L B) (t : Nat) :
    Act.total (closing p r₁ r₂) = 2 * L ∧ Event.sends (Act.events t (closing p r₁ r₂)) =
      [(t, ConsoleCommand.saveOn.text), (t + L, (outcome p).command)] := by
  have h₁ : r₁.ms = L := hp (.ordered .saveOn r₁) List.mem_cons_self
  have h₂ : r₂.ms = L := hp (.said (outcome p) r₂) (List.mem_cons_of_mem _ List.mem_cons_self)
  refine ⟨?_, ?_⟩
  · simp only [closing, Act.ordered, Act.said, Act.total_cons, Act.total_nil, Act.span, h₁, h₂]
    omega
  · rw [← h₁]
    rfl

theorem Punctual.of_times {es : List Event} {report : Option Report} {t₁ : Nat}
    (conclusion : List (Nat × String))
    (hsends : Event.sends es = ((g.duties trigger L).take
      (reached located (Event.failing? es))).map (fun q => (t + q.1, q.2)) ++ conclusion)
    (hnone : report = none → conclusion = [] ∧ t₁ = t + (7 * L + g.timings.warningDelay +
      2 * g.timings.graceDelay + Event.aliveLooks es * g.timings.exitPollIntervalMillis))
    (hsome : report ≠ none → (∃ t₂ news, t₁ = t₂ + 2 * L ∧
        conclusion = [(t₂, ConsoleCommand.saveOn.text), (t₂ + L, news)]) ∧
      t₁ = t + elapsedOf g.timings L B located (Event.failing? es) (Event.aliveLooks es)
        (!(Event.backups es).isEmpty)) :
    g.Punctual trigger L B t located es report t₁ where
  sends := ⟨conclusion, hsends, fun h => (hnone h).1, fun h => (hsome h).1⟩
  warned := by
    rintro pid rfl
    obtain ⟨n, hn⟩ : ∃ n, reached (.ok (some pid)) (Event.failing? es) = n + 1 := by
      cases Event.failing? es with
      | none => exact ⟨6, rfl⟩
      | some c => cases c <;> exact ⟨_, rfl⟩
    obtain ⟨front, hw⟩ := warnings_eq trigger g.timings.warningDelaySecs
    have hhead : (Event.sends es).head? =
        some (t, (Broadcast.warning (front ++ toString g.timings.warningDelaySecs ++
          " seconds!")).command) := by
      rw [hsends, hn, duties, hw]
      rfl
    refine ⟨_, _, "[Server] " ++ front, hhead, Broadcast.decodes_warning _, ?_⟩
    rw [Broadcast.payload_text]
    simp only [String.append_assoc]
  elapsed h := (hsome h).2
  waiting h := (hnone h).2

/-- A run that has ended, by what is done before its conclusion. -/
theorem Punctual.of_ended {r₁ r₂ : Reply} (failing : Option ConsoleCommand)
    (hp : ∀ a ∈ closing p r₁ r₂, a.OnPace L B) (hf : Event.failing? (Act.events t as) = failing)
    (hsends : Event.sends (Act.events t as) =
      ((g.duties trigger L).take (reached located failing)).map fun q => (t + q.1, q.2))
    (htotal : Act.total as + 2 * L = elapsedOf g.timings L B located failing
      (Event.aliveLooks (Act.events t as)) (!(Event.backups (Act.events t as)).isEmpty)) :
    g.Punctual trigger L B t located (Act.events t (as ++ closing p r₁ r₂)) (some p.report)
      (t + Act.total (as ++ closing p r₁ r₂)) := by
  obtain ⟨hend, hlast⟩ := conclusion_sends p hp (t + Act.total as)
  have hc : Event.Closes r₁.answer (Act.events (t + Act.total as) (closing p r₁ r₂)) :=
    closes_closing p r₁ r₂ _
  have hfailing : Event.failing? (Act.events t (as ++ closing p r₁ r₂)) = failing := by
    rw [Act.events_append, Event.failing?_append hc.not_mem_drainage, hf]
  refine .of_times [(t + Act.total as, ConsoleCommand.saveOn.text),
    (t + Act.total as + L, (outcome p).command)] ?_ nofun fun _ => ⟨⟨_, _, ?_, rfl⟩, ?_⟩
  · rw [hfailing, Act.events_append, Event.sends_append, hsends, hlast]
  · rw [Act.total_append, hend, Nat.add_assoc]
  · have hlooks : Event.aliveLooks (Act.events (t + Act.total as) (closing p r₁ r₂)) = 0 := by
      rw [Event.aliveLooks, hc.checks]
      rfl
    rw [hfailing, Act.total_append, hend, htotal, Act.events_append, Event.aliveLooks_append,
      hlooks, Event.backups_append, hc.backups, List.append_nil]
    rfl

/-- A run in which a command failed, by what is done between the fault and the conclusion. -/
theorem Before.punctual_fault {p₁ : Progress} {after : List Act} {ms : Nat} {r₁ r₂ : Reply}
    (h : Before g trigger pid c p as) (f : Failure)
    (hp : ∀ a ∈ as ++ .ordered c ⟨.error f, ms⟩ :: after, a.OnPace L B)
    (hcl : ∀ a ∈ closing p₁ r₁ r₂, a.OnPace L B)
    (hsends : ∀ t, Event.sends (Act.events t after) = []) (archived : Bool)
    (hbackups : ∀ t, (!(Event.backups (Act.events t after)).isEmpty) = archived)
    (htotal : Act.total after = if archived then B else 0) (t : Nat) :
    g.Punctual trigger L B t (.ok (some pid))
      (Act.events t (as ++ .ordered c ⟨.error f, ms⟩ :: after ++ closing p₁ r₁ r₂))
      (some p₁.report)
      (t + Act.total (as ++ .ordered c ⟨.error f, ms⟩ :: after ++ closing p₁ r₁ r₂)) := by
  obtain ⟨has, hrest⟩ := List.forall_mem_append.mp hp
  have hms : ms = L := hrest (.ordered c ⟨.error f, ms⟩) List.mem_cons_self
  obtain ⟨htime, hlines⟩ := h.timed has t
  have ho := h.opens t
  refine .of_ended (some c) hcl ?_ ?_ ?_
  · rw [Act.events_append]
    exact congrArg (Option.map _) ho.fault?_error
  · rw [Act.events_append, Event.sends_append, htime, Act.ordered, Act.events_sent,
      Event.sends_cons, hsends, List.append_nil]
    exact hlines
  · have hb : (!(Event.backups (Act.events t (as ++ .ordered c ⟨.error f, ms⟩ :: after))).isEmpty) =
        archived := by
      rw [Act.events_append, Event.backups_append, ho.backups]
      exact hbackups _
    rw [Act.total_append, htime, hb, Act.total_cons, htotal]
    cases c <;> simp only [elapsedOf, commandTime, Act.ordered, Act.span, hms] <;> omega

/-- A server that was told to stop and has been watched since, on pace. -/
structure Stopped (g : Guard σ) (trigger : Trigger) (L t : Nat) (pid looks : Nat) (as : List Act) :
    Prop where
  total : Act.total as = 7 * L + g.timings.warningDelay + 2 * g.timings.graceDelay +
    looks * g.timings.exitPollIntervalMillis
  sends : Event.sends (Act.events t as) =
    ((g.duties trigger L).take (reached (.ok (some pid)) none)).map fun q => (t + q.1, q.2)
  failing : Event.failing? (Act.events t as) = none
  looks : Event.aliveLooks (Act.events t as) = looks
  backups : Event.backups (Act.events t as) = []

theorem Before.stopped (h : Before g trigger pid .stop p as) {ms looks : Nat}
    (hp : ∀ a ∈ as ++ stoppedActs g pid ms looks, a.OnPace L B) (t : Nat) :
    Stopped g trigger L t pid looks (as ++ stoppedActs g pid ms looks) := by
  obtain ⟨hbs, hstop⟩ := List.forall_mem_append.mp hp
  have hms : ms = L := hstop (.ordered .stop ⟨.ok (), ms⟩) List.mem_cons_self
  obtain ⟨htime, hlines⟩ := h.timed hbs t
  have ho := h.opens t
  have hw := watches_watched pid g.timings.exitPollIntervalMillis looks (t + Act.total as + ms)
  have hevents : Act.events t (as ++ stoppedActs g pid ms looks) = Act.events t as ++
      .sent (t + Act.total as) ConsoleCommand.stop.text (.ok ()) ::
        Act.events (t + Act.total as + ms)
          (Act.watched pid g.timings.exitPollIntervalMillis looks) := Act.events_append ..
  constructor
  case total =>
    rw [Act.total_append, htime, stoppedActs, Act.total_cons, Act.total_watched]
    simp only [Act.ordered, Act.span, commandTime, hms]
    omega
  case sends =>
    rw [hevents, Event.sends_append, Event.sends_cons, Act.sends_watched, List.append_nil, htime]
    exact hlines
  case failing =>
    have hf : Event.fault? (Act.events t (as ++ stoppedActs g pid ms looks)) = none := by
      rw [hevents]
      refine ho.fault?_stop fun o hm => ?_
      rw [hw.orders] at hm
      cases hm
    rw [Event.failing?, hf]
    rfl
  case looks =>
    have hopen : Event.aliveLooks (Act.events t as) = 0 := by
      rw [Event.aliveLooks, ho.checks]
      rfl
    rw [hevents, Event.aliveLooks_append, hopen, Nat.zero_add]
    exact Act.aliveLooks_watched ..
  case backups =>
    rw [hevents, Event.backups_append, ho.backups]
    exact hw.backups

/-- The course of a run that has ended is on time if all its acts are on pace. -/
theorem Course.punctual (h : Course g trigger located p as) {r₁ r₂ : Reply}
    (hp : ∀ a ∈ as ++ closing p r₁ r₂, a.OnPace L B) (t : Nat) :
    g.Punctual trigger L B t located (Act.events t (as ++ closing p r₁ r₂)) (some p.report)
      (t + Act.total (as ++ closing p r₁ r₂)) := by
  obtain ⟨has, hcl⟩ := List.forall_mem_append.mp hp
  cases h with
  | lookupFailed f =>
    refine .of_ended none hcl rfl rfl ?_
    simp [Act.span, elapsedOf]
  | absent o ms =>
    have hms : ms = B := has (.archived .preShutdown o ms) (by simp)
    refine .of_ended none hcl rfl rfl ?_
    simp [Act.span, elapsedOf, hms, Nat.add_comm]
  | alive h f ms =>
    exact h.punctual_fault f has hcl (fun _ => rfl) false (fun _ => rfl) rfl t
  | salvaged h f ms o bms =>
    have hbms : bms = B := has (.archived .preShutdown o bms) (by simp)
    exact h.punctual_fault f has hcl (fun _ => rfl) true (fun _ => rfl)
      (by simp [Act.span, hbms]) t
  | @clean pid p as h ms looks o bms =>
    obtain ⟨hstop, hlast⟩ := List.forall_mem_append.mp has
    have hbms : bms = B := hlast (.archived .preShutdown o bms) (by simp)
    obtain ⟨htotal, hsends, hfailing, hlooks, hbackups⟩ := h.stopped hstop t
    refine .of_ended none hcl ?_ ?_ ?_
    · rw [Act.events_append, Event.failing?_append (by simp), hfailing]
    · rw [Act.events_append, Event.sends_append, hsends]
      exact List.append_nil _
    · rw [Act.total_append, htotal, Act.events_append, Event.aliveLooks_append, hlooks]
      show _ + (0 + (bms + 0)) + 2 * L = elapsedOf g.timings L B _ none (looks + 0) _
      rw [hbms, elapsedOf, Nat.add_zero looks]
      omega

/-- A run that waits for the exit is on time so far. -/
theorem Before.punctual_waiting (h : Before g trigger pid .stop p as) {ms looks : Nat}
    (hp : ∀ a ∈ as ++ stoppedActs g pid ms looks, a.OnPace L B) (t : Nat) :
    g.Punctual trigger L B t (.ok (some pid)) (Act.events t (as ++ stoppedActs g pid ms looks)) none
      (t + Act.total (as ++ stoppedActs g pid ms looks)) := by
  obtain ⟨htotal, hsends, hfailing, hlooks, -⟩ := h.stopped hp t
  refine .of_times [] ?_ (fun _ => ⟨rfl, ?_⟩) fun hr => absurd rfl hr
  · rw [hfailing, hsends, List.append_nil]
  · rw [hlooks, htotal]

/-! ## All runs -/

/-- A guard whose console and agent keep a steady pace keeps the timetable, whatever fails. It is
not over only if all looks that it had patience for found the server alive. -/
theorem drainWithin_punctual {g : Guard σ} {W : σ → Prop} (hg : g.Steady W L B)
    (trigger : Trigger) (patience : Nat) {s : Session σ} (hw : W s.world) :
    ∃ r s₁ es, g.drainWithin trigger patience s = (r, s₁) ∧ s₁.events = s.events ++ es ∧
      g.Punctual trigger L B s.clock (g.channel.locate s.world).1 es r s₁.clock ∧
      (r = none → Event.aliveLooks es = patience) := by
  rcases drainWithin_enacts g trigger patience s with
    ⟨p, as, r₁, r₂, s₁, hc, hr, he⟩ | ⟨pid, p, as, ms, s₁, hl, hb, hr, he⟩
  · refine ⟨_, s₁, _, hr, he.plays.events, ?_, nofun⟩
    rw [he.plays.clock]
    exact hc.punctual (he.onPace hg hw) s.clock
  · have hp := he.onPace hg hw
    refine ⟨_, s₁, _, hr, he.plays.events, ?_, fun _ => (hb.stopped hp s.clock).looks⟩
    rw [he.plays.clock, hl]
    exact hb.punctual_waiting hp s.clock

/-- A console that takes 20 milliseconds for a line, a server that is gone at the third look, and an
agent that takes half a second. -/
def measured : Guard Script × Session Script :=
  (⟨Script.channel "script", ⟨fun _ w => ((.success, 500), w)⟩, {}⟩,
    ⟨{ process := .ok (some 7), alive := [true, true], sendMillis := 20 }, 0, []⟩)

theorem drainWithin_punctual_measured :
    measured.1.Steady (fun w => w.sendMillis = 20) 20 500 ∧
      ∃ r s₁ es, measured.1.drainWithin .operator 5 measured.2 = (some r, s₁) ∧
        s₁.clock = 9 * 20 + 30000 + 2 * 15000 + 2 * 1000 + 500 ∧
        s₁.events = measured.2.events ++ es ∧
        measured.1.Punctual .operator 20 500 0 (.ok (some 7)) es (some r) s₁.clock := by
  have hg : measured.1.Steady (fun w => w.sendMillis = 20) 20 500 :=
    ⟨fun _ _ hw => ⟨hw, hw⟩, fun _ hw => hw, fun _ _ hw => hw, fun _ _ hw => ⟨rfl, hw⟩⟩
  obtain ⟨r, s₁, es, hr, he, hp, -⟩ := drainWithin_punctual (s := measured.2) hg .operator 5 rfl
  have hend : (measured.1.drainWithin .operator 5 measured.2).1.isSome ∧
      (measured.1.drainWithin .operator 5 measured.2).2.clock =
        9 * 20 + 30000 + 2 * 15000 + 2 * 1000 + 500 := by decide +kernel
  rw [hr] at hend
  obtain ⟨r, rfl⟩ := Option.isSome_iff_exists.mp hend.1
  exact ⟨hg, r, s₁, es, hr, hend.2, he, hp⟩

end Guard

end DrainGuard
