import DrainGuard.Console.Mock
import DrainGuard.Proofs.Lifecycle.Course

/-!
# What the log of a shutdown shows

- **Views** (`Event.orders`, `Event.console`, `Event.refusals`): the commands to the server with
  their answers; all lines that are no messages to the players; the moves that the rules refused.
  They go through `++`, as the views of the session do.
- **Lines** (`ofText?_command`, `isCommand_text`): no message to the players is a command to the
  server, and no command is a message.
- **Faults** (`Event.fault?`): the first command that drains the server and fails, and what follows
  it. What comes before makes no difference (`fault?_append`).
- **Stops** (`Event.StoppedAt`): where a log shows that the server was told to stop.
- **Parts** (`Event.Opens`, `Event.Watches`, `Event.Closes`): what a log shows up to a command that
  drains the server, while the guard waits for the exit, and from a terminal phase on.
-/

namespace DrainGuard

/-- The commands that drain a server, in their order. -/
def drainage : List ConsoleCommand := [.saveOff, .saveAll, .stop]

/-- Commands that were delivered. -/
def delivered (cs : List ConsoleCommand) : List (ConsoleCommand × Except Failure Unit) :=
  cs.map fun c => (c, .ok ())

theorem mem_delivered {cs : List ConsoleCommand} {o : ConsoleCommand × Except Failure Unit} :
    o ∈ delivered cs ↔ o.1 ∈ cs ∧ o.2 = .ok () := by
  obtain ⟨c, answer⟩ := o
  simp only [delivered, List.mem_map, Prod.mk.injEq]
  constructor
  · rintro ⟨d, hd, rfl, rfl⟩
    exact ⟨hd, rfl⟩
  · rintro ⟨hc, rfl⟩
    exact ⟨c, hc, rfl, rfl⟩

/-! ## Lines -/

/-- The command that a line is. -/
def ConsoleCommand.ofText? (line : String) : Option ConsoleCommand :=
  [saveOff, saveAll, saveOn, stop].find? fun c => c.text == line

@[simp] theorem ConsoleCommand.ofText?_text (c : ConsoleCommand) : ofText? c.text = some c := by
  cases c <;> decide

theorem ConsoleCommand.eq_text_of_ofText? {line : String} {c : ConsoleCommand}
    (h : ofText? line = some c) : line = c.text := by
  have ht := List.find?_some h
  simp only [beq_iff_eq] at ht
  exact ht.symm

theorem isPrefixOf_append (a b : String) : a.isPrefixOf (a ++ b) = true := by
  rw [String.isPrefixOf, String.startsWith_string_iff, String.toList_append]
  exact List.prefix_append _ _

@[simp] theorem isCommand_command (b : Broadcast) : Broadcast.isCommand b.command = true := by
  have ht (payload : String) : Broadcast.isCommand ("tellraw @a " ++ payload) = true := by
    rw [Broadcast.isCommand, show "tellraw @a " = "tellraw " ++ "@a " from rfl,
      String.append_assoc, isPrefixOf_append, Bool.or_true]
  unfold Broadcast.command
  split
  · rw [Broadcast.isCommand, isPrefixOf_append, Bool.true_or]
  · exact ht _
  · exact ht _

theorem isPrefixOf_eq_false {a b : String} (h : ¬a.toList <+: b.toList) :
    a.isPrefixOf b = false := by
  rw [String.isPrefixOf, Bool.eq_false_iff, Ne, String.startsWith_string_iff]
  exact h

@[simp] theorem isCommand_text (c : ConsoleCommand) : Broadcast.isCommand c.text = false := by
  have hsay : ¬"say ".toList <+: c.text.toList := by cases c <;> simp [ConsoleCommand.text]
  have htell : ¬"tellraw ".toList <+: c.text.toList := by cases c <;> simp [ConsoleCommand.text]
  rw [Broadcast.isCommand, isPrefixOf_eq_false hsay, isPrefixOf_eq_false htell]
  rfl

/-- A message to the players is no command to the server. -/
@[simp] theorem ofText?_command (b : Broadcast) : ConsoleCommand.ofText? b.command = none := by
  cases h : ConsoleCommand.ofText? b.command with
  | none => rfl
  | some c =>
    have hc := isCommand_command b
    rw [ConsoleCommand.eq_text_of_ofText? h, isCommand_text] at hc
    cases hc

/-! ## Views -/

namespace Event

/-- The commands to the server, with their answers. -/
def orders (es : List Event) : List (ConsoleCommand × Except Failure Unit) :=
  es.filterMap fun
    | .sent _ line answer => (ConsoleCommand.ofText? line).map fun c => (c, answer)
    | _ => none

/-- All lines that were sent and are no messages to the players. -/
def console (es : List Event) : List String := withoutBroadcasts ((sends es).map Prod.snd)

/-- The moves that the rules refused. -/
def refusals (es : List Event) : List (Phase × Phase) :=
  es.filterMap fun
    | .refused _ source target => some (source, target)
    | _ => none

variable (e : Event) (es fs : List Event)

@[simp] theorem orders_nil : orders [] = [] := rfl

@[simp] theorem orders_append : orders (es ++ fs) = orders es ++ orders fs :=
  List.filterMap_append

@[simp] theorem orders_cons : orders (e :: es) =
    (match e with
      | .sent _ line answer => ((ConsoleCommand.ofText? line).map fun c => (c, answer)).toList
      | _ => []) ++ orders es := by
  cases e with
  | sent t line answer => cases h : ConsoleCommand.ofText? line <;> simp [orders, h]
  | _ => rfl

theorem orders_split (t : Nat) (c : ConsoleCommand) (answer : Except Failure Unit) :
    orders (es ++ .sent t c.text answer :: fs) = orders es ++ (c, answer) :: orders fs := by
  simp

@[simp] theorem checks_nil : checks [] = [] := rfl

@[simp] theorem checks_append : checks (es ++ fs) = checks es ++ checks fs :=
  List.filterMap_append

@[simp] theorem checks_cons : checks (e :: es) =
    (match e with
      | .checked t pid alive => [(t, pid, alive)]
      | _ => []) ++ checks es := by
  cases e <;> rfl

theorem checks_archived (t t₁ : Nat) (mode : BackupMode) (o : BackupOutcome) :
    checks (.archived t t₁ mode o :: es) = checks es := rfl

theorem checks_checked {es} (t pid : Nat) (alive : Bool) (h : checks es = []) :
    checks (.checked t pid alive :: es) = [(t, pid, alive)] := by
  rw [checks_cons, h]
  rfl

@[simp] theorem backups_nil : backups [] = [] := rfl

@[simp] theorem backups_append : backups (es ++ fs) = backups es ++ backups fs :=
  List.filterMap_append

@[simp] theorem backups_cons : backups (e :: es) =
    (match e with
      | .archived _ _ mode _ => [mode]
      | _ => []) ++ backups es := by
  cases e <;> rfl

@[simp] theorem sends_nil : sends [] = [] := rfl

@[simp] theorem sends_append : sends (es ++ fs) = sends es ++ sends fs := List.filterMap_append

@[simp] theorem sends_cons : sends (e :: es) =
    (match e with
      | .sent t line _ => [(t, line)]
      | _ => []) ++ sends es := by
  cases e <;> rfl

@[simp] theorem console_nil : console [] = [] := rfl

@[simp] theorem console_append : console (es ++ fs) = console es ++ console fs := by
  simp [console, withoutBroadcasts]

@[simp] theorem console_cons : console (e :: es) =
    (match e with
      | .sent _ line _ => if Broadcast.isCommand line then [] else [line]
      | _ => []) ++ console es := by
  cases e with
  | sent t line answer =>
    cases h : Broadcast.isCommand line <;> simp [console, withoutBroadcasts, h]
  | _ => rfl

theorem mem_orders {c : ConsoleCommand} {answer : Except Failure Unit} :
    (c, answer) ∈ orders es ↔ ∃ t, .sent t c.text answer ∈ es := by
  simp only [orders, List.mem_filterMap]
  constructor
  · rintro ⟨e, he, h⟩
    cases e with
    | sent t line a =>
      obtain ⟨c', hc, h⟩ := Option.map_eq_some_iff.mp h
      cases h
      exact ⟨t, ConsoleCommand.eq_text_of_ofText? hc ▸ he⟩
    | _ => cases h
  · rintro ⟨t, h⟩
    exact ⟨_, h, by simp⟩

/-- No act is a move that the rules refuse. -/
theorem refusals_events (t : Nat) (as : List Act) : refusals (Act.events t as) = [] := by
  induction as generalizing t with
  | nil => rfl
  | cons a as ih => cases a <;> exact ih _

/-! ## Faults -/

/-- The command that drains the server and fails in an event, with its cause. -/
def failure? : Event → Option (ConsoleCommand × Failure)
  | .sent _ line (.error f) =>
    ((ConsoleCommand.ofText? line).filter (· ∈ drainage)).map fun c => (c, f)
  | _ => none

/-- The first command that drains the server and fails, with its cause and all that follows. -/
def fault? : List Event → Option (ConsoleCommand × Failure × List Event)
  | [] => none
  | e :: es => match e.failure? with
    | some (c, f) => some (c, f, es)
    | none => fault? es

/-- The log shows the `stop` command, delivered after `save-off` and `save-all` were. -/
def StoppedAt (es after : List Event) : Prop :=
  ∃ before t, es = before ++ .sent t ConsoleCommand.stop.text (.ok ()) :: after ∧
    (.saveOff, .ok ()) ∈ orders before ∧ (.saveAll, .ok ()) ∈ orders before

variable {e es fs} {before after before' after' : List Event} {c c' : ConsoleCommand}
  {answer answer' : Except Failure Unit} {f : Failure} {t t' : Nat}

theorem failure?_sent (hc : c ∈ drainage) : (sent t c.text (.error f)).failure? = some (c, f) := by
  simp [failure?, hc]

theorem mem_orders_of_failure? (es : List Event) (h : e.failure? = some (c, f)) :
    c ∈ drainage ∧ (c, .error f) ∈ orders (e :: es) := by
  cases e with
  | sent t line answer =>
    cases answer with
    | error f' =>
      simp only [failure?, Option.map_eq_some_iff, Option.filter_eq_some_iff, Prod.mk.injEq] at h
      obtain ⟨d, ⟨hd, hm⟩, rfl, rfl⟩ := h
      exact ⟨of_decide_eq_true hm, by simp [hd]⟩
    | ok u => cases h
  | _ => cases h

/-- Up to the first command that fails, a log has no fault. -/
theorem fault?_append (h : ∀ o ∈ orders es, o.1 ∈ drainage → o.2 = .ok ()) :
    fault? (es ++ fs) = fault? fs := by
  induction es with
  | nil => rfl
  | cons e es ih =>
    have hne : e.failure? = none := by
      refine Option.eq_none_iff_forall_ne_some.mpr fun (c, f) he => ?_
      obtain ⟨hc, hm⟩ := mem_orders_of_failure? es he
      cases h _ hm hc
    rw [List.cons_append, fault?, hne]
    exact ih fun o ho => h o (by rw [orders_cons]; exact List.mem_append_right _ ho)

/-- A log in which no command that drains the server fails has no fault. -/
theorem fault?_eq_none (h : ∀ o ∈ orders es, o.1 ∈ drainage → o.2 = .ok ()) : fault? es = none := by
  rw [← List.append_nil es, fault?_append h]
  rfl

/-- A command with its answer is in one place, if it is the only one of its kind. -/
theorem eq_of_sent_split (h : before ++ .sent t c.text answer :: after =
      before' ++ .sent t' c'.text answer' :: after')
    (hb : (c', answer') ∉ orders before) (ha : (c', answer') ∉ orders after) :
    after' = after := by
  have hnb : Event.sent t' c'.text answer' ∉ before := fun hm =>
    hb ((Event.mem_orders before).mpr ⟨t', hm⟩)
  have hna : Event.sent t' c'.text answer' ∉ after := fun hm =>
    ha ((Event.mem_orders after).mpr ⟨t', hm⟩)
  obtain ⟨-, -, rfl⟩ := (List.append_cons_inj_of_notMem hnb hna).mp h
  rfl

theorem StoppedAt.mem_orders (h : StoppedAt es after) : (.stop, .ok ()) ∈ orders es := by
  obtain ⟨before, t, rfl, -⟩ := h
  simp

/-! ## Parts of a log -/

/-- A log up to where a command that drains the server is sent: those before it were delivered, and
nothing was looked at or archived. -/
structure Opens (pid : Nat) (c : ConsoleCommand) (es : List Event) : Prop where
  mem : c ∈ drainage
  lookup : ∃ t rest, es = .located t (.ok (some pid)) :: rest
  orders : orders es = delivered (drainage.takeWhile (· ≠ c))
  console : console es = (drainage.takeWhile (· ≠ c)).map ConsoleCommand.text
  checks : checks es = []
  backups : backups es = []

/-- A log of looks at a process, all of which found it alive. -/
structure Watches (pid : Nat) (es : List Event) : Prop where
  orders : orders es = []
  console : console es = []
  checks : ∀ x ∈ checks es, x.2 = (pid, true)
  backups : backups es = []

/-- A log from a terminal phase on: saving is turned on again, and nothing is looked at or
archived. -/
structure Closes (answer : Except Failure Unit) (es : List Event) : Prop where
  orders : orders es = [(.saveOn, answer)]
  console : console es = [ConsoleCommand.saveOn.text]
  checks : checks es = []
  backups : backups es = []

theorem Opens.delivered {pid : Nat} {c : ConsoleCommand} {es : List Event} (h : Opens pid c es) :
    ∀ o ∈ Event.orders es, o.2 = .ok () := by
  intro o ho
  rw [h.orders] at ho
  exact (mem_delivered.mp ho).2

theorem Opens.lookup_append {pid : Nat} {c : ConsoleCommand} {es fs : List Event}
    (h : Opens pid c es) : ∃ t rest, es ++ fs = .located t (.ok (some pid)) :: rest := by
  obtain ⟨t, rest, rfl⟩ := h.lookup
  exact ⟨t, rest ++ fs, rfl⟩

theorem Opens.fault?_error {pid t : Nat} {c : ConsoleCommand} {f : Failure} {es fs : List Event}
    (h : Opens pid c es) : fault? (es ++ .sent t c.text (.error f) :: fs) = some (c, f, fs) := by
  rw [fault?_append fun o ho _ => h.delivered o ho, fault?, failure?_sent h.mem]

theorem Opens.fault?_stop {pid t : Nat} {es fs : List Event} (h : Opens pid .stop es)
    (hf : ∀ o ∈ Event.orders fs, o.1 ∉ drainage) :
    fault? (es ++ .sent t ConsoleCommand.stop.text (.ok ()) :: fs) = none := by
  refine fault?_eq_none fun o ho hd => ?_
  rw [orders_split, List.mem_append, List.mem_cons] at ho
  rcases ho with ho | rfl | ho
  · exact h.delivered o ho
  · rfl
  · exact absurd hd (hf o ho)

theorem Closes.not_mem_drainage {answer : Except Failure Unit} {es : List Event}
    (h : Closes answer es) : ∀ o ∈ Event.orders es, o.1 ∉ drainage := by
  intro o ho
  rw [h.orders, List.mem_singleton] at ho
  rw [ho]
  show ConsoleCommand.saveOn ∉ drainage
  decide

end Event

section Parts

variable {σ : Type} {g : Guard σ} {trigger : Trigger} {pid : Nat} {c : ConsoleCommand}
  {p : Progress} {as : List Act}

theorem Guard.Before.opens (h : Before g trigger pid c p as) (t : Nat) :
    Event.Opens pid c (Act.events t as) := by
  induction h with
  | saveOff r₁ r₂ r₃ =>
    refine ⟨by decide, ⟨t, _, rfl⟩, ?_, ?_, ?_, ?_⟩ <;>
      simp [warningActs, warnings, Act.said, drainage, delivered]
  | saveAll h ms ih =>
    obtain ⟨-, ⟨t', rest, hl⟩, ho, hcon, hch, hb⟩ := ih
    refine ⟨by decide, ⟨t', _, by rw [Act.events_append, hl]; rfl⟩, ?_, ?_, ?_, ?_⟩ <;>
      simp [ho, hcon, hch, hb, Act.ordered, drainage, delivered]
  | stop h ms r ih =>
    obtain ⟨-, ⟨t', rest, hl⟩, ho, hcon, hch, hb⟩ := ih
    refine ⟨by decide, ⟨t', _, by rw [Act.events_append, hl]; rfl⟩, ?_, ?_, ?_, ?_⟩ <;>
      simp [ho, hcon, hch, hb, Act.ordered, Act.said, drainage, delivered]

theorem watches_watched (pid pause k t : Nat) :
    Event.Watches pid (Act.events t (Act.watched pid pause k)) := by
  induction k generalizing t with
  | zero => exact ⟨rfl, rfl, (fun _ h => nomatch h), rfl⟩
  | succ k ih =>
    obtain ⟨ho, hcon, hch, hb⟩ := ih (t + pause)
    refine ⟨ho, hcon, fun x hx => ?_, hb⟩
    rcases List.mem_cons.mp hx with rfl | hx
    · rfl
    · exact hch x hx

theorem Guard.closes_closing (p : Progress) (r₁ r₂ : Reply) (t : Nat) :
    Event.Closes r₁.answer (Act.events t (closing p r₁ r₂)) := by
  refine ⟨?_, ?_, ?_, ?_⟩ <;> simp [closing, Act.ordered, Act.said]

/-- The log of a server that was drained. -/
theorem Guard.events_stopped (g : Guard σ) (as rest : List Act) (pid ms looks t : Nat) :
    Act.events t (as ++ (stoppedActs g pid ms looks ++ rest)) = Act.events t as ++
      .sent (t + Act.total as) ConsoleCommand.stop.text (.ok ()) ::
        (Act.events (t + Act.total as + ms)
            (Act.watched pid g.timings.exitPollIntervalMillis looks) ++
          Act.events (t + Act.total as + ms +
            Act.total (Act.watched pid g.timings.exitPollIntervalMillis looks)) rest) := by
  rw [Act.events_append, stoppedActs, List.cons_append, Act.ordered, Act.events_sent,
    Act.events_append]

end Parts

end DrainGuard
