import DrainGuard.Proofs.Lifecycle.Log

/-!
# The commands of a shutdown

What a run sends to the server beside its messages to the players, and how every run ends.

- **Commands** (`Commanded`): the commands that drain the server up to the first that fails
  (`uptoFailure`), and `save-on` after them.
- **Ends** (`Ended`): the last two sends are `save-on` and the message about the outcome; a backup
  has finished before them.
- **`save-on`** (`Guard.withSaveOn`): a guard whose console answers it in another way goes on in the
  same way up to there (`proceed_withSaveOn`), so it comes to the same report and the same message.
- **All runs that end** (`drain_commanded`).
-/

namespace DrainGuard

/-- Commands that are sent until one of them fails, with their answers. -/
def uptoFailure (answer : ConsoleCommand → Except Failure Unit) :
    List ConsoleCommand → List (ConsoleCommand × Except Failure Unit)
  | [] => []
  | c :: cs => match answer c with
    | .ok () => (c, .ok ()) :: uptoFailure answer cs
    | .error f => [(c, .error f)]

/-- The commands that there are to send, by what the look-up answered. -/
def toDrain : Except Failure (Option Nat) → List ConsoleCommand
  | .ok (some _) => drainage
  | _ => []

/-- The commands of a run, by what the look-up answered. -/
structure Commanded (located : Except Failure (Option Nat)) (es : List Event) : Prop where
  /-- The commands that drain a server that was located, up to the first that fails, and then
  `save-on`. -/
  orders : ∃ answer saveOn,
    Event.orders es = uptoFailure answer (toDrain located) ++ [(.saveOn, saveOn)]
  /-- All other lines are messages to the players. -/
  console : Event.console es = (Event.orders es).map fun o => o.1.text
  /-- No command is sent twice. -/
  once : ((Event.orders es).map Prod.fst).Nodup
  /-- A command that drains the server is sent only after all before it were delivered. -/
  inOrder : ∀ c ∈ drainage, ∀ before t answer after, es = before ++ .sent t c.text answer :: after →
    Event.orders before = delivered (drainage.takeWhile (· ≠ c))

/-- A log ends with `save-on` and the message about the outcome. -/
structure Ended (p : Progress) (before : List Event) (t : Nat) (es : List Event) : Prop where
  ending : ∃ t₁ answer answer₁, es = before ++ [.sent t ConsoleCommand.saveOn.text answer,
    .sent t₁ (Guard.outcome p).command answer₁]
  /-- What was archived before has finished. -/
  archived : ∀ start finish mode o, .archived start finish mode o ∈ before → finish ≤ t

theorem delivered_eq_uptoFailure (cs : List ConsoleCommand) :
    delivered cs = uptoFailure (fun _ => .ok ()) cs := by
  induction cs with
  | nil => rfl
  | cons c cs ih => exact congrArg ((c, .ok ()) :: ·) ih

/-- Commands up to one that fails. -/
theorem delivered_takeWhile_eq_uptoFailure {c : ConsoleCommand} (f : Failure)
    {cs : List ConsoleCommand} (h : c ∈ cs) : delivered (cs.takeWhile (· ≠ c)) ++ [(c, .error f)] =
      uptoFailure (fun d => if d = c then .error f else .ok ()) cs := by
  induction cs with
  | nil => cases h
  | cons d cs ih =>
    by_cases hd : d = c
    · simp [uptoFailure, hd, delivered]
    · have hc : c ∈ cs := (List.mem_cons.mp h).resolve_left fun e => hd e.symm
      simp only [uptoFailure, hd, ↓reduceIte, ← ih hc]
      simp [delivered, hd]

theorem map_fst_uptoFailure (answer : ConsoleCommand → Except Failure Unit)
    (cs : List ConsoleCommand) : (uptoFailure answer cs).map Prod.fst <+: cs := by
  induction cs with
  | nil => exact List.nil_prefix
  | cons c cs ih =>
    rw [uptoFailure]
    split
    · exact List.prefix_cons_inj c |>.mpr ih
    · exact ⟨cs, rfl⟩

theorem mem_of_mem_uptoFailure {answer : ConsoleCommand → Except Failure Unit}
    {cs : List ConsoleCommand} {o : ConsoleCommand × Except Failure Unit}
    (h : o ∈ uptoFailure answer cs) : o.1 ∈ cs :=
  (map_fst_uptoFailure answer cs).subset (List.mem_map_of_mem h)

theorem mem_of_uptoFailure_split {answer : ConsoleCommand → Except Failure Unit}
    {cs : List ConsoleCommand} {o : ConsoleCommand × Except Failure Unit}
    {before after tail : List (ConsoleCommand × Except Failure Unit)} (ht : ∀ x ∈ tail, x.1 ≠ o.1)
    (h : uptoFailure answer cs ++ tail = before ++ o :: after) : o.1 ∈ cs := by
  have hm : o ∈ uptoFailure answer cs ++ tail := by
    rw [h]
    exact List.mem_append_right _ List.mem_cons_self
  rcases List.mem_append.mp hm with hm | hm
  · exact mem_of_mem_uptoFailure hm
  · exact absurd rfl (ht o hm)

/-- All commands before one that was sent were delivered. -/
theorem eq_delivered_of_uptoFailure {answer : ConsoleCommand → Except Failure Unit}
    {cs : List ConsoleCommand} {o : ConsoleCommand × Except Failure Unit}
    {before after tail : List (ConsoleCommand × Except Failure Unit)} (hn : cs.Nodup)
    (ht : ∀ x ∈ tail, x.1 ≠ o.1) (h : uptoFailure answer cs ++ tail = before ++ o :: after) :
    before = delivered (cs.takeWhile (· ≠ o.1)) := by
  induction cs generalizing before with
  | nil => cases mem_of_uptoFailure_split ht h
  | cons d cs ih =>
    obtain ⟨hd, hn⟩ := List.nodup_cons.mp hn
    rw [uptoFailure] at h
    cases before with
    | nil =>
      have hc : d = o.1 := by
        split at h <;> rw [← List.head_eq_of_cons_eq h]
      simp [hc, delivered]
    | cons x before =>
      split at h <;> rw [List.cons_append, List.cons_append, List.cons.injEq] at h
      · obtain ⟨rfl, h⟩ := h
        have hdc : d ≠ o.1 := fun e => hd (e ▸ mem_of_uptoFailure_split ht h)
        rw [ih hn h]
        simp [delivered, hdc]
      · have hnil : uptoFailure answer [] ++ tail = before ++ o :: after := h.2
        cases mem_of_uptoFailure_split ht hnil

theorem toDrain_eq {c : ConsoleCommand} :
    ∀ {located : Except Failure (Option Nat)}, c ∈ toDrain located → toDrain located = drainage
  | .ok (some _), _ => rfl
  | .ok none, h | .error _, h => nomatch h

theorem Commanded.of_orders {located : Except Failure (Option Nat)} {es : List Event}
    {answer : ConsoleCommand → Except Failure Unit} {a : Except Failure Unit}
    (h : Event.orders es = uptoFailure answer (toDrain located) ++ [(.saveOn, a)])
    (hc : Event.console es = (Event.orders es).map fun o => o.1.text) : Commanded located es where
  orders := ⟨answer, a, h⟩
  console := hc
  once := by
    have hp := (map_fst_uptoFailure answer (toDrain located)).sublist
    have hn : (toDrain located ++ [ConsoleCommand.saveOn]).Nodup := by
      unfold toDrain
      split <;> decide
    rw [h, List.map_append]
    exact hn.sublist (hp.append (List.Sublist.refl _))
  inOrder c hcd before t ans after he := by
    rw [he, Event.orders_split] at h
    have ht : ∀ o ∈ [(ConsoleCommand.saveOn, a)], o.1 ≠ c := by
      rintro o ho rfl
      rw [List.mem_singleton.mp ho] at hcd
      revert hcd
      show ConsoleCommand.saveOn ∉ drainage
      decide
    have hd := toDrain_eq (mem_of_uptoFailure_split ht h.symm)
    rw [hd] at h
    exact eq_delivered_of_uptoFailure (by decide) ht h.symm

/-- Nothing was sent to the server before the conclusion. -/
theorem Commanded.of_saveOn {located : Except Failure (Option Nat)} {es : List Event}
    {a : Except Failure Unit} (hl : toDrain located = []) (ho : Event.orders es = [(.saveOn, a)])
    (hc : Event.console es = [ConsoleCommand.saveOn.text]) : Commanded located es := by
  have he : Event.orders es =
      uptoFailure (fun _ => .ok ()) (toDrain located) ++ [(.saveOn, a)] := by
    rw [hl]
    exact ho
  refine .of_orders he ?_
  rw [hc, ho]
  rfl

/-- A command is the last to be sent before the conclusion. -/
theorem Commanded.of_opens {pid t : Nat} {c : ConsoleCommand} {before after : List Event}
    {reply a : Except Failure Unit} {answer : ConsoleCommand → Except Failure Unit}
    (hb : Event.Opens pid c before)
    (hd : delivered (drainage.takeWhile (· ≠ c)) ++ [(c, reply)] = uptoFailure answer drainage)
    (ho : Event.orders after = [(.saveOn, a)])
    (hc : Event.console after = [ConsoleCommand.saveOn.text]) :
    Commanded (.ok (some pid)) (before ++ .sent t c.text reply :: after) := by
  have he : Event.orders (before ++ .sent t c.text reply :: after) =
      uptoFailure answer (toDrain (.ok (some pid))) ++ [(.saveOn, a)] := by
    rw [Event.orders_split, hb.orders, ho, toDrain, ← hd, List.append_assoc]
    rfl
  refine .of_orders he ?_
  rw [Event.console_append, Event.console_cons, Event.orders_split, hb.console, hb.orders, ho, hc]
  simp [delivered]

/-! ## Another answer to `save-on` -/

namespace Guard

variable {σ : Type} {g : Guard σ} {trigger : Trigger} {p : Progress} {as : List Act}
  {located : Except Failure (Option Nat)}

/-- The guard of a console that answers `save-on` in another way. -/
def withSaveOn (g : Guard σ) (reply : σ → (Except Failure Unit × Nat) × σ) : Guard σ :=
  { g with channel := { g.channel with
      send := fun line w =>
        if line = ConsoleCommand.saveOn.text then reply w else g.channel.send line w } }

section SaveOn

variable (g) (reply : σ → (Except Failure Unit × Nat) × σ)

theorem send_withSaveOn {line : String} (h : line ≠ ConsoleCommand.saveOn.text) :
    Session.send (g.withSaveOn reply).channel line = Session.send g.channel line := by
  funext s
  simp only [Session.send, withSaveOn, h, ↓reduceIte]

theorem announce_withSaveOn (b : Broadcast) : (g.withSaveOn reply).announce b = g.announce b := by
  have hb : b.command ≠ ConsoleCommand.saveOn.text := by
    intro h
    have hc := isCommand_command b
    rw [h, isCommand_text] at hc
    cases hc
  unfold announce
  rw [send_withSaveOn g reply hb]

theorem announceAll_withSaveOn (news : List Broadcast) :
    (g.withSaveOn reply).announceAll news = g.announceAll news := by
  induction news with
  | nil => rfl
  | cons b news ih => simp only [announceAll, announce_withSaveOn, ih]

theorem require_withSaveOn {c : ConsoleCommand} (h : c ≠ .saveOn) :
    (g.withSaveOn reply).require c = g.require c := by
  have hc : c.text ≠ ConsoleCommand.saveOn.text := by
    revert h
    cases c <;> decide
  unfold require command
  rw [send_withSaveOn g reply hc]

theorem untilStopped_withSaveOn (trigger : Trigger) :
    (g.withSaveOn reply).untilStopped trigger = g.untilStopped trigger := by
  have hoff := require_withSaveOn g reply (c := .saveOff) nofun
  have hall := require_withSaveOn g reply (c := .saveAll) nofun
  have hstop := require_withSaveOn g reply (c := .stop) nofun
  unfold untilStopped warn saveWorld stopServer
  simp only [announceAll_withSaveOn, hoff, hall, hstop]
  rfl

theorem awaitExit_withSaveOn (pid patience : Nat) (s : Session σ) :
    (g.withSaveOn reply).awaitExit pid patience s = g.awaitExit pid patience s := by
  induction patience generalizing s with
  | zero => rfl
  | succ n ih =>
    simp only [awaitExit, ih]
    rfl

/-- Up to a terminal phase, what the console answers to `save-on` has no part in a run. -/
theorem proceed_withSaveOn (trigger : Trigger) (patience : Nat) (s : Session σ) :
    (g.withSaveOn reply).proceed trigger patience s = g.proceed trigger patience s := by
  unfold proceed
  simp only [untilStopped_withSaveOn, awaitExit_withSaveOn]
  rfl

end SaveOn

/-! ## All runs -/

theorem Course.commanded (h : Course g trigger located p as) (r₁ r₂ : Reply) (t : Nat) :
    Commanded located (Act.events t (as ++ closing p r₁ r₂)) := by
  have hcl (t : Nat) : Event.Closes r₁.answer (Act.events t (closing p r₁ r₂)) :=
    closes_closing p r₁ r₂ t
  cases h with
  | lookupFailed f => exact .of_saveOn rfl (hcl t).orders (hcl t).console
  | absent o ms => exact .of_saveOn rfl (hcl (t + ms)).orders (hcl (t + ms)).console
  | @alive pid c p as h f ms =>
    have ho := h.opens t
    rw [List.append_assoc, Act.events_append]
    exact .of_opens ho (delivered_takeWhile_eq_uptoFailure f ho.mem) (hcl _).orders (hcl _).console
  | @salvaged pid c p as h f ms o bms =>
    have ho := h.opens t
    rw [List.append_assoc, Act.events_append]
    exact .of_opens ho (delivered_takeWhile_eq_uptoFailure f ho.mem) (hcl _).orders (hcl _).console
  | @clean pid p as h ms looks o bms =>
    rw [List.append_assoc, List.append_assoc, events_stopped]
    refine .of_opens (a := r₁.answer) (h.opens t) (delivered_eq_uptoFailure drainage) ?_ ?_
    · rw [Event.orders_append, (watches_watched ..).orders]
      exact (hcl _).orders
    · rw [Event.console_append, (watches_watched ..).console]
      exact (hcl _).console

theorem ended_closing (as : List Act) (p : Progress) (r₁ r₂ : Reply) (t : Nat) :
    Ended p (Act.events t as) (t + Act.total as) (Act.events t (as ++ closing p r₁ r₂)) where
  ending := ⟨_, _, _, Act.events_append ..⟩
  archived _ _ _ _ h := Act.finish_le h

/-- The commands of a run that has ended, and its end. What the console answers to `save-on` changes
neither the report nor the message about the outcome. -/
theorem drain_commanded {patience : Nat} {s s₁ : Session σ} {r : Report}
    (h : g.drain trigger patience s = some (r, s₁)) :
    ∃ p before t es, p.report = r ∧ s₁.events = s.events ++ es ∧
      Commanded (g.channel.locate s.world).1 es ∧ Ended p before t es ∧
      ∀ reply, ∃ s₂ es', (g.withSaveOn reply).drain trigger patience s = some (r, s₂) ∧
        s₂.events = s.events ++ es' ∧ Ended p before t es' := by
  obtain ⟨p, s₂, hp, hc⟩ := drain_eq_some.mp h
  rcases proceed_course g trigger patience s with
    ⟨p', as, s₂', hcourse, hp', hplays⟩ | ⟨pid, p', as, ms, s₂', -, -, hp', -⟩
  · rw [hp] at hp'
    cases hp'
    obtain ⟨r₁, r₂, s₃, hc', hq⟩ := conclude_plays g p s₂
    rw [hc] at hc'
    cases hc'
    refine ⟨p, _, _, _, rfl, (hplays.trans hq).events, hcourse.commanded r₁ r₂ s.clock,
      ended_closing as p r₁ r₂ s.clock, fun reply => ?_⟩
    obtain ⟨r₃, r₄, s₄, hc'', hq'⟩ := conclude_plays (g.withSaveOn reply) p s₂
    refine ⟨s₄, _, drain_eq_some.mpr ⟨p, s₂, ?_, hc''⟩, (hplays.trans hq').events,
      ended_closing as p r₃ r₄ s.clock⟩
    rw [proceed_withSaveOn, hp]
  · rw [hp] at hp'
    cases hp'

/-- A server that goes down as it is told, so `save-on`, the eighth line, does not reach it. -/
def obedient : Guard Script × Session Script :=
  (⟨Script.channel "script", ⟨fun _ w => ((.success, 0), w)⟩, {}⟩,
    ⟨{ process := .ok (some 7), alive := [true],
       failing := [(8, .channelUnavailable "script" "gone")] }, 0, []⟩)

theorem drain_commanded_obedient :
    ∃ r s₁, obedient.1.drain .operator 2 obedient.2 = some (r, s₁) ∧ r.finalPhase = .completed ∧
      ∃ p before t es, p.report = r ∧ s₁.events = obedient.2.events ++ es ∧
        Commanded (.ok (some 7)) es ∧ Ended p before t es ∧
        ∀ reply, ∃ s₂ es', (obedient.1.withSaveOn reply).drain .operator 2 obedient.2 =
          some (r, s₂) ∧ s₂.events = obedient.2.events ++ es' ∧ Ended p before t es' := by
  have he : (obedient.1.drain .operator 2 obedient.2).map (fun q => q.1.finalPhase) =
      some .completed := by decide +kernel
  obtain ⟨⟨r, s₁⟩, h, hr⟩ := Option.map_eq_some_iff.mp he
  have hl : (obedient.1.channel.locate obedient.2.world).1 = .ok (some 7) := rfl
  have hc := drain_commanded h
  rw [hl] at hc
  exact ⟨r, s₁, h, hr, hc⟩

end Guard

end DrainGuard
