import DrainGuard.Proofs.Lifecycle.Log
import DrainGuard.Proofs.Lifecycle.Mirror

/-!
# Messages to the players do not matter

Whether the messages to the players reach the console has no influence on a shutdown or on a
scheduled backup.

- **Agreement** (`Channel.Agrees`, `Archiver.Agrees`): two consoles that may answer messages in
  different ways and agree on everything else, also on how long each line takes. Their worlds may
  be of different kinds; all that is asked for is a relation between them that every act keeps.
- **Acts** (`SameActs`): the logs of two sessions are the same but for the answers to messages
  (`Event.muted`), so the same lines were sent at the same times, and so on for the looks at the
  process and the backups.
- **All runs** (`indistinct_of_agrees`): two guards with such consoles come to the same report or
  outcome by the same acts, for every trigger and however long they wait for the exit.
-/

namespace DrainGuard

variable {σ τ : Type}

/-! ## Agreement -/

/-- Two consoles agree in related worlds, but for the answers to messages to the players. -/
structure Channel.Agrees (W : σ → τ → Prop) (ch : Channel σ) (ch' : Channel τ) : Prop where
  target : ch.target = ch'.target
  /-- A message takes the same time. -/
  message : ∀ (b : Broadcast) w w', W w w' →
    (ch.send b.command w).1.2 = (ch'.send b.command w').1.2 ∧
      W (ch.send b.command w).2 (ch'.send b.command w').2
  /-- A command gets the same answer and takes the same time. -/
  command : ∀ (c : ConsoleCommand) w w', W w w' →
    (ch.send c.text w).1 = (ch'.send c.text w').1 ∧
      W (ch.send c.text w).2 (ch'.send c.text w').2
  locate : ∀ w w', W w w' →
    (ch.locate w).1 = (ch'.locate w').1 ∧ W (ch.locate w).2 (ch'.locate w').2
  alive : ∀ pid w w', W w w' →
    (ch.alive pid w).1 = (ch'.alive pid w').1 ∧ W (ch.alive pid w).2 (ch'.alive pid w').2

/-- Two backup agents agree in related worlds. -/
def Archiver.Agrees (W : σ → τ → Prop) (ar : Archiver σ) (ar' : Archiver τ) : Prop :=
  ∀ mode w w', W w w' →
    (ar.invoke mode w).1 = (ar'.invoke mode w').1 ∧ W (ar.invoke mode w).2 (ar'.invoke mode w').2

/-! ## Acts -/

namespace Event

/-- An event without the answer, if it is a message to the players. -/
def muted : Event → Event
  | .sent t line answer => .sent t line (if Broadcast.isCommand line then .ok () else answer)
  | e => e

/-- Every backup, with its times and what it came to. -/
def archives (es : List Event) : List (Nat × Nat × BackupMode × BackupOutcome) :=
  es.filterMap fun
    | .archived t t₁ mode o => some (t, t₁, mode, o)
    | _ => none

variable (es : List Event)

theorem sends_muted : sends (es.map muted) = sends es := by
  unfold sends
  rw [List.filterMap_map]
  congr 1
  funext e
  cases e <;> rfl

theorem checks_muted : checks (es.map muted) = checks es := by
  unfold checks
  rw [List.filterMap_map]
  congr 1
  funext e
  cases e <;> rfl

theorem archives_muted : archives (es.map muted) = archives es := by
  unfold archives
  rw [List.filterMap_map]
  congr 1
  funext e
  cases e <;> rfl

end Event

/-- The same was done in two sessions, at the same times. -/
structure SameActs (s : Session σ) (s' : Session τ) : Prop where
  clock : s.clock = s'.clock
  /-- The logs are the same, but for the answers to messages. -/
  events : s.events.map Event.muted = s'.events.map Event.muted
  sends : Event.sends s.events = Event.sends s'.events
  checks : Event.checks s.events = Event.checks s'.events
  archives : Event.archives s.events = Event.archives s'.events

/-- Two guards cannot be told apart from a world each, but by the answers to messages. -/
structure Guard.Indistinct (g : Guard σ) (g' : Guard τ) (w : σ) (w' : τ) : Prop where
  /-- Their shutdowns come to the same report, or are both not over. -/
  drain : ∀ trigger patience, ∃ r s s', g.drainWithin trigger patience { world := w } = (r, s) ∧
    g'.drainWithin trigger patience { world := w' } = (r, s') ∧ SameActs s s'
  /-- Their scheduled backups come to the same outcome. -/
  archive : ∃ o s s', g.archiveScheduled { world := w } = (o, s) ∧
    g'.archiveScheduled { world := w' } = (o, s') ∧ SameActs s s'

/-! ## Relations that every act keeps -/

/-- A relation between sessions in related worlds with the same clock. It is kept where both have an
act that takes the same time and leaves the same event. -/
structure Kept (W : σ → τ → Prop) (R : Session σ → Session τ → Prop) : Prop where
  world : ∀ {s s'}, R s s' → W s.world s'.world
  clock : ∀ {s s'}, R s s' → s.clock = s'.clock
  cons : ∀ {s s' w w'} {ms ms' : Nat} {e e'}, R s s' → W w w' → ms = ms' → e = e' →
    R ⟨w, s.clock + ms, e :: s.log⟩ ⟨w', s'.clock + ms', e' :: s'.log⟩
  sleep : ∀ {s s'} (ms : Nat), R s s' →
    R { s with clock := s.clock + ms } { s' with clock := s'.clock + ms }

/-- Two sessions in related worlds with the same clock, and the same log but for the answers to
messages. -/
structure Muted (W : σ → τ → Prop) (s : Session σ) (s' : Session τ) : Prop where
  world : W s.world s'.world
  clock : s.clock = s'.clock
  log : s.log.map Event.muted = s'.log.map Event.muted

namespace Muted

variable {W : σ → τ → Prop} {s : Session σ} {s' : Session τ}

theorem fresh {w : σ} {w' : τ} (h : W w w') : Muted W { world := w } { world := w' } :=
  ⟨h, rfl, rfl⟩

theorem sameActs (h : Muted W s s') : SameActs s s' := by
  have he : s.events.map Event.muted = s'.events.map Event.muted := by
    rw [Session.events, Session.events, List.map_reverse, List.map_reverse, h.log]
  refine ⟨h.clock, he, ?_, ?_, ?_⟩
  · rw [← Event.sends_muted, he, Event.sends_muted]
  · rw [← Event.checks_muted, he, Event.checks_muted]
  · rw [← Event.archives_muted, he, Event.archives_muted]

/-- An act of each session that takes the same time and leaves the same event, but for the answer to
a message. -/
theorem cons (h : Muted W s s') {w : σ} {w' : τ} (hw : W w w') {ms ms' : Nat} (hms : ms = ms')
    {e e' : Event} (he : e.muted = e'.muted) :
    Muted W ⟨w, s.clock + ms, e :: s.log⟩ ⟨w', s'.clock + ms', e' :: s'.log⟩ where
  world := hw
  clock := by rw [h.clock, hms]
  log := by rw [List.map_cons, List.map_cons, he, h.log]

theorem kept : Kept W (Muted W) where
  world := Muted.world
  clock := Muted.clock
  cons h hw hms he := h.cons hw hms (congrArg Event.muted he)
  sleep ms h := ⟨h.world, congrArg (· + ms) h.clock, h.log⟩

end Muted

/-! ## A console that refuses all messages -/

namespace Mock

/-- The same console, but that the second one refuses all messages to the players. -/
def Hushed (m m' : Mock) : Prop :=
  m.refusing = [] ∧ m' = { m with refusing := ["say ", "tellraw "] }

variable {m m' : Mock}

theorem Hushed.refuses (h : Hushed m m') (line : String) :
    m.refuses line = false ∧ m'.refuses line = Broadcast.isCommand line := by
  obtain ⟨hm, rfl⟩ := h
  refine ⟨by rw [Mock.refuses, hm]; rfl, ?_⟩
  simp [Mock.refuses, Broadcast.isCommand]

theorem agrees_hushed : channel.Agrees Hushed channel where
  target := rfl
  message b m m' h := by
    obtain ⟨hm, hm'⟩ := h.refuses b.command
    rw [isCommand_command] at hm'
    simpa [channel_send, hm, hm'] using h
  command c m m' h := by
    obtain ⟨hm, hm'⟩ := h.refuses c.text
    rw [isCommand_text] at hm'
    simpa [channel_send, hm, hm'] using h
  locate m m' h := by
    obtain ⟨hm, rfl⟩ := h
    cases hp : m.withoutProcess <;> cases hs : m.withoutSession <;>
      simp [channel_locate, hp, hs, Hushed, hm]
  alive pid m m' h := by
    obtain ⟨hm, rfl⟩ := h
    by_cases hp : pid = Mock.pid <;> simp [channel_alive, hp, Hushed, hm]

end Mock

/-! ## All runs -/

namespace Guard

variable {W : σ → τ → Prop} {g : Guard σ} {g' : Guard τ}

/-- Guards whose consoles and agents agree keep such a relation, if the messages keep it. -/
theorem mirrors_of_kept {R : Session σ → Session τ → Prop} (hk : Kept W R)
    (hch : g.channel.Agrees W g'.channel) (har : g.archiver.Agrees W g'.archiver)
    (ht : g.timings = g'.timings) (hm : ∀ b, Keeps R (g.announce b) (g'.announce b)) :
    Mirrors R g g' where
  target := hch.target
  timings := ht
  announce := hm
  command c s s' h := by
    obtain ⟨ha, hw⟩ := hch.command c s.world s'.world (hk.world h)
    have ha₁ := congrArg Prod.fst ha
    exact ⟨ha₁, hk.cons h hw (congrArg Prod.snd ha) (by rw [hk.clock h, ha₁])⟩
  locate s s' h := by
    obtain ⟨ha, hw⟩ := hch.locate s.world s'.world (hk.world h)
    exact ⟨ha, hk.cons h hw (Eq.refl 0) (by rw [hk.clock h, ha])⟩
  check pid s s' h := by
    obtain ⟨ha, hw⟩ := hch.alive pid s.world s'.world (hk.world h)
    exact ⟨ha, hk.cons h hw (Eq.refl 0) (by rw [hk.clock h, ha])⟩
  archive mode s s' h := by
    obtain ⟨ha, hw⟩ := har mode s.world s'.world (hk.world h)
    refine ⟨congrArg Prod.fst ha, hk.cons h hw (congrArg Prod.snd ha) ?_⟩
    show Event.archived s.clock (s.clock + (g.archiver.invoke mode s.world).1.2) mode
        (g.archiver.invoke mode s.world).1.1 = .archived s'.clock
          (s'.clock + (g'.archiver.invoke mode s'.world).1.2) mode
          (g'.archiver.invoke mode s'.world).1.1
    rw [hk.clock h, ha]
  sleep ms s s' h := hk.sleep ms h
  refuse p next s s' h := hk.cons h (hk.world h) (Eq.refl 0) (by rw [hk.clock h])

/-- Guards whose consoles and agents agree keep the relation in every act. -/
theorem mirrors_of_agrees (hch : g.channel.Agrees W g'.channel)
    (har : g.archiver.Agrees W g'.archiver) (ht : g.timings = g'.timings) :
    Mirrors (Muted W) g g' := by
  refine mirrors_of_kept Muted.kept hch har ht fun b s s' h => ?_
  obtain ⟨hms, hw⟩ := hch.message b s.world s'.world h.world
  exact h.cons hw hms (by rw [h.clock]; simp [Event.muted])

/-- Two guards whose consoles differ in their answers to messages only cannot be told apart by
anything else. -/
theorem indistinct_of_agrees (hch : g.channel.Agrees W g'.channel)
    (har : g.archiver.Agrees W g'.archiver) (ht : g.timings = g'.timings) {w : σ} {w' : τ}
    (hw : W w w') : g.Indistinct g' w w' where
  drain trigger patience := by
    have hm := mirrors_of_agrees hch har ht
    obtain ⟨r, s, s', hr, hr', hs⟩ := hm.drainWithin (hm.warned trigger) patience (.fresh hw)
    exact ⟨r, s, s', hr, hr', hs.sameActs⟩
  archive := by
    obtain ⟨ho, hs⟩ := (mirrors_of_agrees hch har ht).archiveScheduled _ _ (Muted.fresh hw)
    exact ⟨_, _, _, rfl, Prod.ext ho.symm rfl, hs.sameActs⟩

/-- A server that stops at the second look, and the same one behind a console that refuses all
messages. -/
theorem indistinct_hushed :
    let g : Guard Mock := ⟨Mock.channel, ⟨fun _ m => ((.success, 0), m)⟩, {}⟩
    let m' : Mock := { aliveFor := 2, refusing := ["say ", "tellraw "] }
    Mock.Hushed { aliveFor := 2 } m' ∧ m'.refuses (Broadcast.info "Saving the world").command ∧
      g.Indistinct g { aliveFor := 2 } m' := by
  intro g m'
  have hm : Mock.Hushed { aliveFor := 2 } m' := ⟨rfl, rfl⟩
  refine ⟨hm, by rw [(hm.refuses _).2, isCommand_command], ?_⟩
  exact indistinct_of_agrees Mock.agrees_hushed (fun _ _ _ h => ⟨rfl, h⟩) rfl hm

end Guard

end DrainGuard
