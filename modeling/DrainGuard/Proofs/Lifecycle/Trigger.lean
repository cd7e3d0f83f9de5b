import DrainGuard.Proofs.Lifecycle.Messages

/-!
# What starts a shutdown matters little

The trigger of a shutdown goes into the text of its first message, and nothing else in the run
depends on it.

- **Consoles** (`Channel.Blind`): a console whose answers do not depend on the text of a message.
- **Logs** (`Event.ButFirstLine`, `SameButFirst`): logs that differ in the text of the first line at
  most.
- **Up to the first line** (`untilStopped_linked`): the two runs do the same, then each sends its
  own first line. From there on every act keeps the logs the same but for this line
  (`mirrors_of_blind`).
- **A console that refuses some texts** (`Backstage`): the first line may reach the players in one
  run only. What is no message is the same, for any message may be sent in place of another
  (`announce_backstage`).
- **All runs** (`drainWithin_trigger`).
-/

namespace DrainGuard

variable {σ : Type} {W : σ → σ → Prop}

/-! ## Consoles -/

/-- In related worlds a console answers two messages of one severity in the same way, whatever their
texts are, and it answers everything else in the same way. -/
structure Channel.Blind (W : σ → σ → Prop) (ch : Channel σ) : Prop where
  message : ∀ (b b' : Broadcast) w w', b.severity = b'.severity → W w w' →
    (ch.send b.command w).1 = (ch.send b'.command w').1 ∧
      W (ch.send b.command w).2 (ch.send b'.command w').2
  command : ∀ (c : ConsoleCommand) w w', W w w' →
    (ch.send c.text w).1 = (ch.send c.text w').1 ∧ W (ch.send c.text w).2 (ch.send c.text w').2
  locate : ∀ w w', W w w' →
    (ch.locate w).1 = (ch.locate w').1 ∧ W (ch.locate w).2 (ch.locate w').2
  alive : ∀ pid w w', W w w' →
    (ch.alive pid w).1 = (ch.alive pid w').1 ∧ W (ch.alive pid w).2 (ch.alive pid w').2

theorem Channel.Blind.agrees {ch : Channel σ} (h : ch.Blind W) : ch.Agrees W ch where
  target := rfl
  message b w w' hw :=
    ⟨congrArg Prod.snd (h.message b b w w' rfl hw).1, (h.message b b w w' rfl hw).2⟩
  command := h.command
  locate := h.locate
  alive := h.alive

/-! ## Logs -/

namespace Event

/-- Two logs are the same, but that their first lines may have different texts. -/
inductive ButFirstLine : List Event → List Event → Prop where
  | same (es : List Event) : ButFirstLine es es
  | differ {before : List Event} (h : sends before = []) (t : Nat) (line line' : String)
      (answer : Except Failure Unit) (after : List Event) :
      ButFirstLine (before ++ .sent t line answer :: after)
        (before ++ .sent t line' answer :: after)

/-- A message to the players was sent. -/
def isMessage : Event → Bool
  | .sent _ line _ => Broadcast.isCommand line
  | _ => false

@[simp] theorem isMessage_sent (t : Nat) (line : String) (answer : Except Failure Unit) :
    (sent t line answer).isMessage = Broadcast.isCommand line := rfl

/-- All of a log but the messages to the players. -/
def backstage (es : List Event) : List Event := es.filter fun e => !e.isMessage

/-- The lines that reached the console and are no messages to the players. -/
def consoleCommands (es : List Event) : List String :=
  withoutBroadcasts ((deliveries es).map Prod.snd)

variable {es es' : List Event}

theorem ButFirstLine.concat (h : ButFirstLine es es') (e : Event) :
    ButFirstLine (es ++ [e]) (es' ++ [e]) := by
  cases h with
  | same => exact .same _
  | differ h t line line' answer after =>
    rw [List.append_assoc, List.append_assoc]
    exact .differ h t line line' answer (after ++ [e])

end Event

/-- The same was done in two sessions, at the same times, but that the first line that was sent may
have had another text. -/
structure SameButFirst (s s' : Session σ) : Prop where
  clock : s.clock = s'.clock
  events : Event.ButFirstLine s.events s'.events
  /-- The lines after the first one are the same, and all were sent at the same times. -/
  sends : (Event.sends s.events).tail = (Event.sends s'.events).tail
  times : (Event.sends s.events).map Prod.fst = (Event.sends s'.events).map Prod.fst
  checks : Event.checks s.events = Event.checks s'.events
  archives : Event.archives s.events = Event.archives s'.events

theorem SameButFirst.of_events {s s' : Session σ} (hc : s.clock = s'.clock)
    (h : Event.ButFirstLine s.events s'.events) : SameButFirst s s' := by
  refine ⟨hc, h, ?_, ?_, ?_, ?_⟩
  all_goals
    generalize s.events = es at h
    generalize s'.events = es' at h
    cases h with
    | same => rfl
    | differ hb t line line' answer after => ?_
  · simp [hb]
  · simp [hb]
  · simp
  · simp [Event.archives]

/-! ## Up to the first line -/

/-- Two sessions in related worlds with the same clock and the same log, before the first line. -/
structure Unsent (W : σ → σ → Prop) (s s' : Session σ) : Prop where
  world : W s.world s'.world
  clock : s.clock = s'.clock
  events : s.events = s'.events
  sends : Event.sends s.events = []

/-- Two sessions in related worlds with the same clock and the same log but for the first line. -/
structure Worded (W : σ → σ → Prop) (s s' : Session σ) : Prop where
  world : W s.world s'.world
  clock : s.clock = s'.clock
  events : Event.ButFirstLine s.events s'.events

theorem Unsent.fresh {w w' : σ} (h : W w w') : Unsent W { world := w } { world := w' } :=
  ⟨h, rfl, rfl, rfl⟩

theorem Unsent.worded {s s' : Session σ} (h : Unsent W s s') : Worded W s s' :=
  ⟨h.world, h.clock, h.events ▸ .same _⟩

theorem Worded.kept : Kept W (Worded W) where
  world := Worded.world
  clock := Worded.clock
  cons h hw hms he := by
    refine ⟨hw, by rw [h.clock, hms], ?_⟩
    rw [Session.events, Session.events, List.reverse_cons, List.reverse_cons, he]
    exact h.events.concat _
  sleep ms h := ⟨h.world, congrArg (· + ms) h.clock, h.events⟩

namespace Guard

variable {g : Guard σ} {trigger trigger' : Trigger}

/-- After the first line, every act of a guard with such a console keeps the logs the same. -/
theorem mirrors_of_blind (hch : g.channel.Blind W) (har : g.archiver.Agrees W g.archiver) :
    Mirrors (Worded W) g g := by
  refine mirrors_of_kept Worded.kept hch.agrees har rfl fun b s s' h => ?_
  obtain ⟨ha, hw⟩ := hch.message b b s.world s'.world rfl h.world
  exact Worded.kept.cons h hw (congrArg Prod.snd ha)
    (congrArg₂ (Event.sent · b.command ·) h.clock (congrArg Prod.fst ha))

/-- The first message may have another text. -/
theorem first_line (hch : g.channel.Blind W) {b b' : Broadcast} (hb : b.severity = b'.severity)
    {s s' : Session σ} (h : Unsent W s s') :
    Worded W (g.announce b s).2 (g.announce b' s').2 := by
  obtain ⟨ha, hw⟩ := hch.message b b' s.world s'.world hb h.world
  have ha₁ := congrArg Prod.fst ha
  refine ⟨hw, congrArg₂ (· + ·) h.clock (congrArg Prod.snd ha), ?_⟩
  have he : (g.announce b s).2.events = s.events ++
      [.sent s.clock b.command (g.channel.send b.command s.world).1.1] := List.reverse_cons ..
  have he' : (g.announce b' s').2.events = s'.events ++
      [.sent s'.clock b'.command (g.channel.send b'.command s'.world).1.1] := List.reverse_cons ..
  rw [he, he', ← h.events, ← h.clock, ← ha₁]
  exact .differ h.sends _ _ _ _ []

theorem locate_unsent (hch : g.channel.Blind W) :
    Alike (Unsent W) (Session.locate g.channel) (Session.locate g.channel) := by
  intro s s' h
  obtain ⟨ha, hw⟩ := hch.locate s.world s'.world h.world
  have he (s : Session σ) : (Session.locate g.channel s).2.events =
      s.events ++ [.located s.clock (g.channel.locate s.world).1] := List.reverse_cons ..
  refine ⟨ha, hw, h.clock, ?_, ?_⟩
  · rw [he, he, h.events, h.clock, ha]
  · rw [he, Event.sends_append, h.sends]
    rfl

/-- A move that the rules refuse is no line. -/
theorem refuse_unsent (p next : Phase) {s s' : Session σ} (h : Unsent W s s') :
    Unsent W (s.refuse p next) (s'.refuse p next) := by
  have he (s : Session σ) : (s.refuse p next).events = s.events ++ [.refused s.clock p next] :=
    List.reverse_cons ..
  refine ⟨h.world, h.clock, ?_, ?_⟩
  · rw [he, he, h.events, h.clock]
  · rw [he, Event.sends_append, h.sends]
    rfl

/-- Up to the `stop` command, two triggers make the same of a run but for its first line. -/
theorem untilStopped_linked (hch : g.channel.Blind W) (har : g.archiver.Agrees W g.archiver)
    (trigger trigger' : Trigger) :
    Linked (Unsent W) (Worded W) (g.untilStopped trigger) (g.untilStopped trigger') := by
  have hm := mirrors_of_blind hch har
  have hfind : Paired (Unsent W) g.findServer g.findServer := .findServer rfl (locate_unsent hch)
  have hmove : Paired (Unsent W) (move .warningIssued) (move .warningIssued) :=
    .move refuse_unsent .warningIssued
  have hnews : Linked (Unsent W) (Worded W)
      (g.announceAll (warnings trigger g.timings.warningDelaySecs))
      (g.announceAll (warnings trigger' g.timings.warningDelaySecs)) := by
    obtain ⟨front, hw⟩ := warnings_eq trigger g.timings.warningDelaySecs
    obtain ⟨front', hw'⟩ := warnings_eq trigger' g.timings.warningDelaySecs
    rw [hw, hw']
    refine .act_bind (fun s s' h => ?_) (Mirrors.announceAll (.cons (hm.announce _) .nil))
    refine first_line hch ?_ h
    rfl
  have hwarn : Linked (Unsent W) (Worded W) (g.warn trigger) (g.warn trigger') :=
    .bind Unsent.worded hmove fun _ => .bind id hnews fun _ => hm.sleeping _
  exact .bind Unsent.worded hfind fun pid => .bind id hwarn fun _ =>
    Paired.bind hm.saveWorld fun _ => Paired.bind hm.stopServer fun _ => .pure pid

end Guard

/-! ## A console that refuses some texts -/

/-- Two sessions in the same world with the same clock, and the same log but for the messages to the
players. -/
structure Backstage (s s' : Session Mock) : Prop where
  world : s.world = s'.world
  clock : s.clock = s'.clock
  events : Event.backstage s.events = Event.backstage s'.events

namespace Event

variable (es fs : List Event)

theorem backstage_append : backstage (es ++ fs) = backstage es ++ backstage fs :=
  List.filter_append ..

theorem checks_backstage : checks (backstage es) = checks es := by
  induction es with
  | nil => rfl
  | cons e es ih =>
    rw [backstage, List.filter_cons, checks_cons, ← ih]
    cases e with
    | sent t line answer => cases h : isMessage (.sent t line answer) <;> simp [backstage]
    | _ => simp [isMessage, backstage]

theorem consoleCommands_backstage : consoleCommands (backstage es) = consoleCommands es := by
  unfold consoleCommands deliveries backstage withoutBroadcasts
  induction es with
  | nil => rfl
  | cons e es ih =>
    cases e with
    | sent t line answer =>
      cases hm : Broadcast.isCommand line <;> cases answer <;> simp [hm, ih]
    | _ => exact ih

end Event

theorem Backstage.kept : Kept Eq Backstage where
  world := Backstage.world
  clock := Backstage.clock
  cons h hw hms he := by
    refine ⟨hw, by rw [h.clock, hms], ?_⟩
    rw [Session.events, Session.events, List.reverse_cons, List.reverse_cons, he,
      Event.backstage_append, Event.backstage_append]
    exact congrArg (· ++ _) h.events
  sleep ms h := ⟨h.world, congrArg (· + ms) h.clock, h.events⟩

theorem Channel.agrees_self (ch : Channel σ) : ch.Agrees Eq ch where
  target := rfl
  message _ _ _ h := h ▸ ⟨rfl, rfl⟩
  command _ _ _ h := h ▸ ⟨rfl, rfl⟩
  locate _ _ h := h ▸ ⟨rfl, rfl⟩
  alive _ _ _ h := h ▸ ⟨rfl, rfl⟩

/-- A line changes nothing in the console and takes no time, whether or not it is refused. -/
theorem Mock.send_eq (line : String) (m : Mock) :
    (Mock.channel.send line m).1.2 = 0 ∧ (Mock.channel.send line m).2 = m := by
  rw [Mock.channel_send]
  split <;> exact ⟨rfl, rfl⟩

namespace Guard

/-- Any message may be sent in place of another. -/
theorem announce_backstage (ar : Archiver Mock) (T : ShutdownSettings) (b b' : Broadcast) :
    Keeps Backstage (announce ⟨Mock.channel, ar, T⟩ b) (announce ⟨Mock.channel, ar, T⟩ b') := by
  intro s s' h
  have he (b : Broadcast) (s : Session Mock) :
      Event.backstage (announce ⟨Mock.channel, ar, T⟩ b s).2.events = Event.backstage s.events := by
    have hs : (announce ⟨Mock.channel, ar, T⟩ b s).2.events =
        s.events ++ [.sent s.clock b.command (Mock.channel.send b.command s.world).1.1] :=
      List.reverse_cons ..
    rw [hs, Event.backstage_append]
    simp [Event.backstage]
  have hw (b : Broadcast) (s : Session Mock) :
      (announce ⟨Mock.channel, ar, T⟩ b s).2.world = s.world := (Mock.send_eq _ _).2
  have hc (b : Broadcast) (s : Session Mock) :
      (announce ⟨Mock.channel, ar, T⟩ b s).2.clock = s.clock :=
    congrArg (s.clock + ·) (Mock.send_eq _ _).1
  exact ⟨by rw [hw, hw, h.world], by rw [hc, hc, h.clock], by rw [he, he, h.events]⟩

theorem mirrors_backstage (ar : Archiver Mock) (T : ShutdownSettings) :
    Mirrors Backstage (⟨Mock.channel, ar, T⟩ : Guard Mock) ⟨Mock.channel, ar, T⟩ :=
  mirrors_of_kept Backstage.kept Mock.channel.agrees_self (fun _ _ _ h => h ▸ ⟨rfl, rfl⟩) rfl
    fun b => announce_backstage ar T b b

end Guard

/-! ## All runs -/

namespace Guard

/-- Two notices of the same action make the same run, whenever the machine will be reclaimed. -/
theorem drainWithin_of_action (g : Guard σ) {n n' : Notice} (h : n.action = n'.action)
    (patience : Nat) (s : Session σ) :
    g.drainWithin (.notice n) patience s = g.drainWithin (.notice n') patience s := by
  have hw : warnings (.notice n) = warnings (.notice n') := by
    funext delaySecs
    simp only [warnings, h]
  simp only [drainWithin, proceed, untilStopped, warn, hw]

/-- The trigger of a shutdown matters to the text of its first line only. For every console whose
answers do not depend on the texts of messages, all else is the same for two triggers. Two notices
of one action make the same run with every console. With a console that refuses lines by how they
begin, the first line may be refused for one trigger and not for the other, and the report, the
commands and the looks at the process are still the same. -/
theorem drainWithin_trigger (trigger trigger' : Trigger) (patience : Nat) :
    (∀ {σ : Type} (g : Guard σ) (W : σ → σ → Prop), g.channel.Blind W →
      g.archiver.Agrees W g.archiver → ∀ w w', W w w' → ∃ r s s',
        g.drainWithin trigger patience { world := w } = (r, s) ∧
        g.drainWithin trigger' patience { world := w' } = (r, s') ∧ SameButFirst s s') ∧
    (∀ {σ : Type} (g : Guard σ) (n n' : Notice) (s : Session σ), n.action = n'.action →
      g.drainWithin (.notice n) patience s = g.drainWithin (.notice n') patience s) ∧
    ∀ (ar : Archiver Mock) (T : ShutdownSettings) (m : Mock), ∃ r s s',
      drainWithin ⟨Mock.channel, ar, T⟩ trigger patience { world := m } = (r, s) ∧
      drainWithin ⟨Mock.channel, ar, T⟩ trigger' patience { world := m } = (r, s') ∧
      Event.consoleCommands s.events = Event.consoleCommands s'.events ∧
      Event.checks s.events = Event.checks s'.events := by
  refine ⟨?blind, fun g n n' s h => drainWithin_of_action g h patience s, ?mock⟩
  case blind =>
    intro σ g W hch har w w' hw
    obtain ⟨r, s, s', hr, hr', hs⟩ := (mirrors_of_blind hch har).drainWithin_of_linked
      (untilStopped_linked hch har trigger trigger') patience (.fresh hw)
    exact ⟨r, s, s', hr, hr', .of_events hs.clock hs.events⟩
  case mock =>
    intro ar T m
    have hwarned : Warned Backstage ⟨Mock.channel, ar, T⟩ ⟨Mock.channel, ar, T⟩ trigger trigger' :=
      fun delaySecs => by
        obtain ⟨front, hw⟩ := warnings_eq trigger delaySecs
        obtain ⟨front', hw'⟩ := warnings_eq trigger' delaySecs
        rw [hw, hw']
        exact .cons (announce_backstage ar T _ _) (.cons (announce_backstage ar T _ _) .nil)
    obtain ⟨r, s, s', hr, hr', hs⟩ :=
      (mirrors_backstage ar T).drainWithin hwarned patience (s := { world := m }) ⟨rfl, rfl, rfl⟩
    refine ⟨r, s, s', hr, hr', ?_, ?_⟩
    · rw [← Event.consoleCommands_backstage, hs.events, Event.consoleCommands_backstage]
    · rw [← Event.checks_backstage, hs.events, Event.checks_backstage]

/-- A console that does not deliver the first line, and one that refuses it if the host is
reclaimed. -/
theorem drainWithin_trigger_refused :
    let notice (t : Int) : Trigger := .notice ⟨.terminate, ⟨t, 0⟩⟩
    let g : Guard Script := ⟨Script.channel "script", ⟨fun _ w => ((.success, 0), w)⟩, {}⟩
    let w : Script := { process := .ok (some 7), failing := [(1, .channelUnavailable "script" "")] }
    let m : Mock := { refusing := ["tellraw @a \x7b\"color\":\"gold\",\"text\":\"[Server] This"] }
    let g' : Guard Mock := ⟨Mock.channel, ⟨fun _ m => ((.success, 0), m)⟩, {}⟩
    (∃ r s s', g.drainWithin .operator 1 { world := w } = (some r, s) ∧
      g.drainWithin (notice 0) 1 { world := w } = (some r, s') ∧ SameButFirst s s') ∧
    g.drainWithin (notice 0) 1 { world := w } = g.drainWithin (notice 60) 1 { world := w } ∧
    ∃ r s s', g'.drainWithin .operator 1 { world := m } = (some r, s) ∧
      g'.drainWithin (notice 0) 1 { world := m } = (some r, s') ∧
      (Event.deliveries s.events).length = 9 ∧ (Event.deliveries s'.events).length = 8 ∧
      Event.consoleCommands s.events = Event.consoleCommands s'.events ∧
      Event.checks s.events = Event.checks s'.events := by
  intro notice g w m g'
  have hb : g.channel.Blind Eq := ⟨fun _ _ _ _ _ h => h ▸ ⟨rfl, rfl⟩, fun _ _ _ h => h ▸ ⟨rfl, rfl⟩,
    fun _ _ h => h ▸ ⟨rfl, rfl⟩, fun _ _ _ h => h ▸ ⟨rfl, rfl⟩⟩
  obtain ⟨hblind, hnotices, hmock⟩ := drainWithin_trigger .operator (notice 0) 1
  refine ⟨?_, hnotices g _ _ _ rfl, ?_⟩
  · obtain ⟨r, s, s', hr, hr', hs⟩ := hblind g Eq hb (fun _ _ _ h => h ▸ ⟨rfl, rfl⟩) w w rfl
    have hend : (g.drainWithin .operator 1 { world := w }).1.isSome := by decide +kernel
    rw [hr] at hend
    obtain ⟨r, rfl⟩ := Option.isSome_iff_exists.mp hend
    exact ⟨r, s, s', hr, hr', hs⟩
  · obtain ⟨r, s, s', hr, hr', hs⟩ := hmock g'.archiver {} m
    have hend : (g'.drainWithin .operator 1 { world := m }).1.isSome ∧
        (Event.deliveries (g'.drainWithin .operator 1 { world := m }).2.events).length = 9 := by
      decide +kernel
    have hend' : (Event.deliveries
        (g'.drainWithin (notice 0) 1 { world := m }).2.events).length = 8 := by decide +kernel
    rw [hr] at hend
    rw [hr'] at hend'
    obtain ⟨r, rfl⟩ := Option.isSome_iff_exists.mp hend.1
    exact ⟨r, s, s', hr, hr', hend.2, hend', hs⟩

end Guard

end DrainGuard
