import DrainGuard.Proofs.Lifecycle.Log

/-!
# A console that plays a server

The console without a server behind it does what it is told to and records what it did, whatever is
done with it and in whatever order.

- **Calls** (`Mock.Call`, `Mock.Reply`, `Mock.play`): what can be done with the console, and what
  comes of it.
- **Replies** (`Mock.Takes`, `Mock.reply`): what a call answers, by the calls before it. Of these
  only the looks at the console's own process count (`Mock.reply_after`).
- **Steps** (`Recorder.after`, `Call.run_eq`): what a call answers at first and leaves behind. The
  records have no part in the answers (`Recorder.forget`).
- **Runs** (`Mock.mapM_replies`): what many calls answer, one after the other.
- **Records** (`Mock.Recorded`): what the console has recorded of the calls so far. Each call keeps
  it so (`Recorded.step`), and so does a run of them (`Recorded.run`).
- **Messages** (`Mock.withoutBroadcasts_taken`): the lines but for the messages to the players.
- **All together** (`Mock.play_scripted`).
-/

namespace DrainGuard

namespace Mock

/-- Something done with the console. -/
inductive Call where
  /-- Sends a line. -/
  | send (line : String)
  /-- Sends a message to the players. -/
  | notify (b : Broadcast)
  /-- Looks the server process up. -/
  | locate
  /-- Looks at a process. -/
  | look (p : Nat)
  /-- Lets time pass. -/
  | sleep (ms : Nat)
  deriving DecidableEq

/-- What a call answers. -/
inductive Reply where
  /-- Whether the line was taken, or why not. -/
  | sent (answer : Except Failure Unit)
  /-- Whether the message reached the console. -/
  | notified (reached : Bool)
  /-- The process. -/
  | located (answer : Except Failure (Option Nat))
  /-- Whether the process is alive. -/
  | looked (alive : Bool)
  /-- Nothing. -/
  | slept

namespace Call

/-- Makes a call as a guard does, to a console that reads the clock of the session. -/
def run (ar : Archiver Recorder) (T : ShutdownSettings) (c : Call) :
    StateM (Session Recorder) Reply := do
  let g : Guard Recorder := ⟨Recorder.channel (← get).clock, ar, T⟩
  match c with
  | send line => return .sent (← Session.send g.channel line)
  | notify b => return .notified (← g.announce b)
  | locate => return .located (← Session.locate g.channel)
  | look p => return .looked (← Session.check g.channel p)
  | sleep ms => do
    Session.sleep ms
    return .slept

/-- The line that a call sends. -/
def line? : Call → Option String
  | send line => some line
  | notify b => some b.command
  | locate | look _ | sleep _ => none

/-- The call sends a message to the players. -/
def isNotify : Call → Bool
  | notify _ => true
  | send _ | locate | look _ | sleep _ => false

/-- The call looks at a process. -/
def isLook : Call → Bool
  | look _ => true
  | send _ | notify _ | locate | sleep _ => false

/-- The milliseconds that a call takes. -/
def span : Call → Nat
  | sleep ms => ms
  | send _ | notify _ | locate | look _ => 0

end Call

/-- Makes calls to a console that was made at a time, one after the other from then on. -/
def play (ar : Archiver Recorder) (T : ShutdownSettings) (m : Mock) (time : Nat)
    (calls : List Call) : List Reply × Session Recorder :=
  (calls.mapM (Call.run ar T)) { world := { toMock := m, created := time }, clock := time }

/-! ## Replies -/

/-- The console takes a line unless it begins with something refused. -/
def Takes (m : Mock) (line : String) : Prop := ∀ p ∈ m.refusing, ¬p.toList <+: line.toList

instance (m : Mock) (line : String) : Decidable (m.Takes line) :=
  inferInstanceAs (Decidable (∀ p ∈ m.refusing, ¬p.toList <+: line.toList))

/-- What the console answers to a line. -/
def answer (m : Mock) (line : String) : Except Failure Unit :=
  if m.Takes line then .ok ()
  else .error (.channelUnavailable "mock" ("refusing '" ++ line ++ "'"))

/-- What the console answers to who looks its process up. -/
def process (m : Mock) : Except Failure (Option Nat) :=
  if m.withoutProcess then .error (.channelUnavailable "mock" "transport down")
  else .ok (if m.withoutSession then none else some pid)

/-- What a call to the console answers after others. -/
def reply (m : Mock) (before : List Call) : Call → Reply
  | .send line => .sent (m.answer line)
  | .notify b => .notified (m.Takes b.command)
  | .locate => .located m.process
  | .look p => .looked (p = pid ∧ before.count (.look pid) < m.aliveFor)
  | .sleep _ => .slept

/-- The lines of calls that the console takes. -/
def taken (m : Mock) (calls : List Call) : List String :=
  (calls.filterMap Call.line?).filter fun line => m.Takes line

/-- What is left of the console after a call. -/
def after (m : Mock) (c : Call) : Mock :=
  if c = .look pid then { m with aliveFor := m.aliveFor - 1 } else m

section Replies

variable (m : Mock) (c : Call)

theorem refuses_iff (line : String) : m.refuses line = true ↔ ¬m.Takes line := by
  simp [refuses, Takes, String.isPrefixOf, String.startsWith_string_iff]

theorem takes_after (line : String) : (m.after c).Takes line ↔ m.Takes line := by
  unfold after
  split <;> rfl

/-- A call counts as one that was made before. -/
theorem reply_after (before : List Call) (d : Call) :
    (m.after c).reply before d = m.reply (c :: before) d := by
  cases d with
  | look p =>
    by_cases hc : c = .look pid
    · subst hc
      have hcount : before.count (.look pid) < m.aliveFor - 1 ↔
          before.count (.look pid) + 1 < m.aliveFor := by omega
      simp [reply, after, hcount]
    · simp [reply, after, hc]
  | locate =>
    unfold after
    split <;> rfl
  | _ => simp [reply, answer, takes_after]

theorem taken_append (calls ds : List Call) :
    m.taken (calls ++ ds) = m.taken calls ++ m.taken ds := by
  simp only [taken, List.filterMap_append, List.filter_append]

theorem taken_cons (calls : List Call) : m.taken (c :: calls) = m.taken [c] ++ m.taken calls :=
  m.taken_append [c] calls

variable {c}

theorem taken_of_line {line : String} (hc : c.line? = some line) :
    m.taken [c] = if m.Takes line then [line] else [] := by
  rw [taken, List.filterMap_cons_some hc, List.filter_cons]
  by_cases h : m.Takes line <;> simp [h]

theorem taken_of_none (hc : c.line? = none) : m.taken [c] = [] := by
  rw [taken, List.filterMap_cons_none hc]
  rfl

end Replies

/-! ## Steps -/

/-- What is left of the console and its records after a call at a time. -/
def Recorder.after (r : Recorder) (time : Nat) (c : Call) : Recorder where
  toMock := r.toMock.after c
  created := r.created
  timeline := r.timeline ++ (r.taken [c]).map fun line => (time - r.created, line)
  livenessChecks := r.livenessChecks + if c.isLook then 1 else 0

section Steps

variable (r : Recorder) (time : Nat) {c : Call}

/-- A call that neither sends nor looks leaves all as it was. -/
theorem Recorder.after_of_none (hc : c.line? = none) (hlook : c.isLook = false) :
    r.after time c = r := by
  have hne : c ≠ .look pid := by
    rintro rfl
    cases hlook
  simp [after, Mock.after, taken_of_none _ hc, hlook, hne]

/-- A call that sends a line records it if the console takes it. -/
theorem Recorder.send_eq_after {line : String} (hc : c.line? = some line) :
    (channel time).send line r = ((r.answer line, 0), r.after time c) := by
  have hlook : c.isLook = false ∧ c ≠ .look pid := by
    cases c with
    | look p => cases hc
    | _ => exact ⟨rfl, nofun⟩
  by_cases h : r.Takes line <;>
    simp [channel, after, Mock.after, refuses_iff, answer, target, taken_of_line _ hc, hlook, h]

theorem Recorder.locate_eq_process : (channel time).locate r = (r.process, r) := by
  simp only [channel, process]
  cases r.withoutProcess <;> cases r.withoutSession <;> rfl

/-- A look is counted, and is one of those that find the process alive if it is at that process. -/
theorem Recorder.alive_eq_after (p : Nat) : (channel time).alive p r =
    (decide (p = pid ∧ 0 < r.aliveFor), r.after time (.look p)) := by
  have hnone (q : Nat) : r.taken [.look q] = [] := taken_of_none _ rfl
  by_cases hp : p = pid <;> simp [channel, after, Mock.after, Call.isLook, hnone, hp]

/-- Whatever the console has recorded and whenever it is asked, it answers as the console of those
who do not ask for the records. -/
theorem Recorder.forget :
    (∀ line, ((channel time).send line r).map id toMock = Mock.channel.send line r.toMock) ∧
      ((channel time).locate r).map id toMock = Mock.channel.locate r.toMock ∧
      ∀ p, ((channel time).alive p r).map id toMock = Mock.channel.alive p r.toMock := by
  refine ⟨fun line => ?_, ?_, fun p => ?_⟩
  · rw [channel_send]
    by_cases h : r.refuses line <;> simp [channel, h]
  · rw [channel_locate]
    by_cases hp : r.withoutProcess <;> by_cases hs : r.withoutSession <;> simp [channel, hp, hs]
  · rw [channel_alive]
    by_cases hp : p = pid <;> simp [channel, hp]

end Steps

section Runs

variable (ar : Archiver Recorder) (T : ShutdownSettings)

/-- What a call answers at first, and what it leaves behind. -/
theorem Call.run_eq (c : Call) (s : Session Recorder) :
    (c.run ar T s).1 = s.world.reply [] c ∧ (c.run ar T s).2.world = s.world.after s.clock c ∧
      (c.run ar T s).2.clock = s.clock + c.span := by
  have hsend {line : String} (hc : c.line? = some line) :
      Session.send (Recorder.channel s.clock) line s = (s.world.answer line,
        ⟨s.world.after s.clock c, s.clock, .sent s.clock line (s.world.answer line) :: s.log⟩) := by
    simp only [Session.send, Recorder.send_eq_after _ _ hc, Nat.add_zero]
  cases c with
  | send line =>
    have hrun : (Call.send line).run ar T s =
        (.sent (Session.send (Recorder.channel s.clock) line s).1,
          (Session.send (Recorder.channel s.clock) line s).2) := rfl
    rw [hrun, hsend rfl]
    exact ⟨rfl, rfl, rfl⟩
  | notify b =>
    let g : Guard Recorder := ⟨Recorder.channel s.clock, ar, T⟩
    have hrun : (Call.notify b).run ar T s =
        (.notified ((g.announce b).run s).1, ((g.announce b).run s).2) := rfl
    have hs : (Session.send g.channel b.command).run s = _ := hsend rfl
    rw [hrun, Guard.announce, StateT.run_bind, hs]
    by_cases h : s.world.Takes b.command
    · simp only [answer, h, ↓reduceIte]
      exact ⟨congrArg Reply.notified (decide_eq_true h).symm, rfl, rfl⟩
    · simp only [answer, h, ↓reduceIte]
      exact ⟨congrArg Reply.notified (decide_eq_false h).symm, rfl, rfl⟩
  | locate =>
    have hrun : Call.locate.run ar T s =
        (.located (Session.locate (Recorder.channel s.clock) s).1,
          (Session.locate (Recorder.channel s.clock) s).2) := rfl
    rw [hrun, s.world.after_of_none _ rfl rfl]
    simp only [Session.locate, Recorder.locate_eq_process]
    exact ⟨rfl, trivial, rfl⟩
  | look p =>
    have hrun : (Call.look p).run ar T s =
        (.looked (Session.check (Recorder.channel s.clock) p s).1,
          (Session.check (Recorder.channel s.clock) p s).2) := rfl
    rw [hrun]
    simp only [Session.check, Recorder.alive_eq_after]
    exact ⟨rfl, trivial, rfl⟩
  | sleep ms =>
    rw [s.world.after_of_none _ rfl rfl]
    exact ⟨rfl, rfl, rfl⟩

/-! ## Runs -/

theorem mapM_run_cons (c : Call) (calls : List Call) (s : Session Recorder) :
    ((c :: calls).mapM (Call.run ar T)) s =
      let rest := calls.mapM (Call.run ar T) (c.run ar T s).2
      ((c.run ar T s).1 :: rest.1, rest.2) := by
  rw [List.mapM_cons]
  rfl

theorem mapM_length (calls : List Call) (s : Session Recorder) :
    (calls.mapM (Call.run ar T) s).1.length = calls.length := by
  induction calls generalizing s with
  | nil => rfl
  | cons c calls ih =>
    rw [mapM_run_cons]
    exact congrArg (· + 1) (ih _)

/-- Each call answers by the calls before it. -/
theorem mapM_replies (before : List Call) (c : Call) (rest : List Call) (s : Session Recorder) :
    ((before ++ c :: rest).mapM (Call.run ar T) s).1[before.length]? =
      some (s.world.reply before c) := by
  induction before generalizing s with
  | nil =>
    rw [List.nil_append, mapM_run_cons]
    exact congrArg some (c.run_eq ar T s).1
  | cons d before ih =>
    obtain ⟨-, hworld, -⟩ := d.run_eq ar T s
    rw [List.cons_append, mapM_run_cons, List.length_cons, List.getElem?_cons_succ, ih, hworld]
    exact congrArg some (reply_after s.world.toMock d before c)

/-! ## Records -/

/-- What the console that answers so has recorded of the calls so far, and until when. -/
structure Recorded (m : Mock) (calls : List Call) (s : Session Recorder) : Prop where
  /-- It refuses what it was told to. -/
  refusing : s.world.refusing = m.refusing
  /-- It has recorded the lines that it takes, in their order. -/
  commands : s.world.commands = m.taken calls
  /-- None of them is recorded for later than now. -/
  past : ∀ d ∈ s.world.timeline, d.1 ≤ s.clock - s.world.created
  /-- Each is recorded after the one before it. -/
  sorted : (s.world.timeline.map Prod.fst).Pairwise (· ≤ ·)
  /-- It has counted the looks, whatever process they were at. -/
  counted : s.world.livenessChecks = .ofNat (calls.countP Call.isLook)

theorem Recorded.start (m : Mock) (time : Nat) :
    Recorded m [] { world := { toMock := m, created := time }, clock := time } :=
  ⟨rfl, rfl, nofun, .nil, rfl⟩

variable {m : Mock} {calls : List Call} {s : Session Recorder}

theorem Recorded.step (h : Recorded m calls s) (c : Call) :
    Recorded m (calls ++ [c]) (c.run ar T s).2 := by
  obtain ⟨-, hworld, hclock⟩ := c.run_eq ar T s
  have htaken : s.world.taken [c] = m.taken [c] :=
    List.filter_congr fun line _ => decide_eq_decide.mpr (by rw [Takes, Takes, h.refusing])
  let first := (m.taken [c]).map fun line => (s.clock - s.world.created, line)
  have hfirst : ∀ d ∈ first, d.1 = s.clock - s.world.created := by
    intro d hd
    obtain ⟨line, -, rfl⟩ := List.mem_map.mp hd
    rfl
  have htimeline : (s.world.after s.clock c).timeline = s.world.timeline ++ first := by
    rw [Recorder.after, htaken]
  constructor
  case refusing =>
    rw [hworld, ← h.refusing, Recorder.after, Mock.after]
    split <;> rfl
  case commands =>
    have hlines : first.map Prod.snd = m.taken [c] := by
      rw [List.map_map]
      exact List.map_id _
    rw [hworld, taken_append, ← h.commands, Recorder.commands, htimeline, List.map_append, hlines]
    rfl
  case past =>
    rw [hworld, hclock, htimeline]
    intro d hd
    have hd' : d.1 ≤ s.clock - s.world.created :=
      (List.mem_append.mp hd).elim (h.past d) fun hd => Nat.le_of_eq (hfirst d hd)
    exact Nat.le_trans hd' (Nat.sub_le_sub_right (Nat.le_add_right ..) _)
  case sorted =>
    rw [hworld, htimeline, List.map_append, List.pairwise_append]
    refine ⟨h.sorted, ?_, ?_⟩
    · rw [List.map_map]
      exact List.map_const' .. ▸ List.pairwise_replicate.mpr (.inr (Nat.le_refl _))
    · intro t₁ h₁ t₂ h₂
      obtain ⟨d₁, hd₁, rfl⟩ := List.mem_map.mp h₁
      obtain ⟨d₂, hd₂, rfl⟩ := List.mem_map.mp h₂
      exact Nat.le_trans (h.past d₁ hd₁) (Nat.le_of_eq (hfirst d₂ hd₂).symm)
  case counted =>
    rw [hworld, List.countP_append, UInt32.ofNat_add, ← h.counted, List.countP_singleton]
    cases hc : c.isLook <;> simp [Recorder.after, hc]

theorem Recorded.run (h : Recorded m calls s) (ds : List Call) :
    Recorded m (calls ++ ds) (ds.mapM (Call.run ar T) s).2 := by
  induction ds generalizing calls s with
  | nil => exact (List.append_nil calls).symm ▸ h
  | cons c ds ih =>
    rw [mapM_run_cons, List.append_cons]
    exact ih (h.step ar T c)

end Runs

/-! ## Messages -/

/-- If the lines that are sent are commands to the server, the messages to the players are what is
left out of the lines that the console takes. -/
theorem withoutBroadcasts_taken (m : Mock) {calls : List Call}
    (h : ∀ line, .send line ∈ calls → ∃ o : ConsoleCommand, line = o.text) :
    withoutBroadcasts (m.taken calls) = m.taken (calls.filter fun c => !c.isNotify) := by
  induction calls with
  | nil => rfl
  | cons c calls ih =>
    have hrest := ih fun line hline => h line (List.mem_cons_of_mem c hline)
    have hcons (ls : List String) : withoutBroadcasts (ls ++ m.taken calls) =
        withoutBroadcasts ls ++ withoutBroadcasts (m.taken calls) := List.filter_append ..
    rw [taken_cons, hcons, hrest]
    cases c with
    | send line =>
      obtain ⟨o, rfl⟩ := h line List.mem_cons_self
      have hline : m.taken [.send o.text] = _ := taken_of_line m rfl
      rw [List.filter_cons_of_pos rfl, taken_cons m _ (calls.filter _), hline]
      by_cases ht : m.Takes o.text <;> simp [ht, withoutBroadcasts]
    | notify b =>
      have hline : m.taken [.notify b] = _ := taken_of_line m rfl
      rw [List.filter_cons_of_neg (by simp [Call.isNotify]), hline]
      by_cases ht : m.Takes b.command <;> simp [ht, withoutBroadcasts]
    | locate | look _ | sleep _ =>
      rw [List.filter_cons_of_pos rfl, taken_cons m _ (calls.filter _)]
      rfl

/-! ## All together -/

/-- Whatever is done with a console and in whatever order, each call answers as the script says: a
line is refused exactly if it begins with something refused, the process is looked up as the console
was told to answer, the console's own process is alive for as many looks at it as the console was
told, and no other process is ever. The console has recorded the lines that it takes, in their order
and at times that never go back, and has counted all looks in 32 bits. If all other lines are
commands to the server, the lines without the messages are those that it would have recorded had no
message been sent. -/
theorem play_scripted (ar : Archiver Recorder) (T : ShutdownSettings) (m : Mock) (time : Nat)
    (calls : List Call) :
    let replies := (play ar T m time calls).1
    let console := (play ar T m time calls).2.world
    replies.length = calls.length ∧
      (∀ before c rest, calls = before ++ c :: rest →
        replies[before.length]? = some (m.reply before c)) ∧
      console.commands = m.taken calls ∧
      (console.timeline.map Prod.fst).Pairwise (· ≤ ·) ∧
      console.livenessChecks = .ofNat (calls.countP Call.isLook) ∧
      ((∀ line, .send line ∈ calls → ∃ o : ConsoleCommand, line = o.text) →
        console.consoleCommands = m.taken (calls.filter fun c => !c.isNotify)) := by
  intro replies console
  let s : Session Recorder := { world := { toMock := m, created := time }, clock := time }
  have hrecorded : Recorded m calls (play ar T m time calls).2 :=
    (Recorded.start m time).run ar T calls
  refine ⟨mapM_length ar T calls s, ?_, hrecorded.commands, hrecorded.sorted, hrecorded.counted, ?_⟩
  · rintro before c rest rfl
    exact mapM_replies ar T before c rest s
  · intro h
    rw [Recorder.consoleCommands, hrecorded.commands]
    exact withoutBroadcasts_taken m h

/-- A console that refuses news and the command to stop, and whose process lives for one look. -/
def picky : Mock := { aliveFor := 1, refusing := ["say ", "stop"] }

/-- Commands, messages and looks in turn. -/
def medley : List Call :=
  [.send "save-off", .notify (.info "Bye"), .look 7, .look pid, .notify (.warning "Bye"), .sleep 20,
    .send "stop", .look pid]

/-- An agent that always succeeds. -/
def idle : Archiver Recorder := ⟨fun _ r => ((.success, 0), r)⟩

/-- The look at another process is not counted against the console's own, which is found alive once;
the warning is left out of the lines, and the command to stop was never among them. -/
theorem play_scripted_medley :
    (∀ line, .send line ∈ medley → ∃ o : ConsoleCommand, line = o.text) ∧
      (play idle {} picky 5 medley).1[2]? = some (.looked false) ∧
      (play idle {} picky 5 medley).1[3]? = some (.looked true) ∧
      (play idle {} picky 5 medley).1[7]? = some (.looked false) ∧
      (play idle {} picky 5 medley).2.world.livenessChecks = 3 ∧
      (play idle {} picky 5 medley).2.world.consoleCommands = ["save-off"] := by
  obtain ⟨-, hreply, -, -, hchecks, hconsole⟩ := play_scripted idle {} picky 5 medley
  have hcommands : ∀ line, .send line ∈ medley → ∃ o : ConsoleCommand, line = o.text := by
    intro line h
    simp only [medley, List.mem_cons, Call.send.injEq, reduceCtorEq, List.not_mem_nil, or_false,
      false_or] at h
    rcases h with rfl | rfl
    · exact ⟨.saveOff, rfl⟩
    · exact ⟨.stop, rfl⟩
  have hother := hreply (medley.take 2) (.look 7) (medley.drop 3) rfl
  have hfirst := hreply (medley.take 3) (.look pid) (medley.drop 4) rfl
  have hsecond := hreply (medley.take 7) (.look pid) (medley.drop 8) rfl
  refine ⟨hcommands, ?_, ?_, ?_, hchecks, (hconsole hcommands).trans (by decide)⟩
  · exact hother.trans (by simp [reply, pid])
  · exact hfirst.trans (by simp [reply, medley, picky, pid])
  · exact hsecond.trans (by simp [reply, medley, picky, pid])

end Mock

end DrainGuard
