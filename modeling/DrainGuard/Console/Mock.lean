import DrainGuard.Lifecycle.Session
import DrainGuard.Console.Message

/-!
# Consoles without a server

Two channels that need nothing behind them.

* `Mock.Recorder.channel`: refuses lines by how they begin, and reports its process alive for a
  number of looks. It records the lines that it takes and counts the looks.
* `Mock.channel`: the same for those who do not ask what it has recorded.
* `Script.channel`: refuses sends by their number and answers looks from a list.
-/

namespace DrainGuard

/-- The lines that are no messages to the players. -/
def withoutBroadcasts (lines : List String) : List String :=
  lines.filter fun l => !Broadcast.isCommand l

/-- A console that plays a server: what it answers. -/
structure Mock where
  /-- How many more looks find the process alive. -/
  aliveFor : Nat := 0
  /-- Lines that begin so are refused. -/
  refusing : List String := []
  /-- The process cannot be looked up. -/
  withoutProcess : Bool := false
  /-- There is no session behind the console. -/
  withoutSession : Bool := false

namespace Mock

/-- The name of the console. -/
def target : String := "mock"

/-- The process that the console pretends to run. -/
def pid : Nat := 4242

/-- The console refuses a line. -/
def refuses (m : Mock) (line : String) : Bool := m.refusing.any fun p => p.isPrefixOf line

/-- The console with what it has recorded. -/
structure Recorder extends Mock where
  /-- When the console was made. -/
  created : Nat := 0
  /-- The lines that it took, each with the milliseconds since it was made. -/
  timeline : List (Nat × String) := []
  /-- How many looks there were, at whatever process. -/
  livenessChecks : UInt32 := 0

namespace Recorder

/-- The lines that the console took. -/
def commands (r : Recorder) : List String := r.timeline.map Prod.snd

/-- The lines that it took, without the messages to the players. -/
def consoleCommands (r : Recorder) : List String := withoutBroadcasts r.commands

/-- The console as a channel, by the time on the clock. -/
def channel (now : Nat) : Channel Recorder where
  target := target
  send line r :=
    if r.refuses line then
      ((.error (.channelUnavailable target ("refusing '" ++ line ++ "'")), 0), r)
    else ((.ok (), 0), { r with timeline := r.timeline ++ [(now - r.created, line)] })
  locate r :=
    if r.withoutProcess then (.error (.channelUnavailable target "transport down"), r)
    else if r.withoutSession then (.ok none, r)
    else (.ok (some pid), r)
  alive p r :=
    let r := { r with livenessChecks := r.livenessChecks + 1 }
    if p = pid then (decide (0 < r.aliveFor), { r with aliveFor := r.aliveFor - 1 })
    else (false, r)

end Recorder

/-- The console as a channel. What it records has no part in its answers. -/
def channel : Channel Mock where
  target := target
  send line m := ((Recorder.channel 0).send line { toMock := m }).map id Recorder.toMock
  locate m := ((Recorder.channel 0).locate { toMock := m }).map id Recorder.toMock
  alive p m := ((Recorder.channel 0).alive p { toMock := m }).map id Recorder.toMock

section Channel

variable (m : Mock)

theorem channel_send (line : String) : channel.send line m =
    if m.refuses line then
      ((.error (.channelUnavailable target ("refusing '" ++ line ++ "'")), 0), m)
    else ((.ok (), 0), m) := by
  simp only [channel, Recorder.channel]
  split <;> rfl

theorem channel_locate : channel.locate m =
    if m.withoutProcess then (.error (.channelUnavailable target "transport down"), m)
    else if m.withoutSession then (.ok none, m)
    else (.ok (some pid), m) := by
  simp only [channel, Recorder.channel]
  split
  · rfl
  · split <;> rfl

theorem channel_alive (p : Nat) : channel.alive p m =
    if p = pid then (decide (0 < m.aliveFor), { m with aliveFor := m.aliveFor - 1 })
    else (false, m) := by
  simp only [channel, Recorder.channel]
  split <;> rfl

end Channel

end Mock

/-- A console that follows a script. -/
structure Script where
  /-- The name of the console. -/
  target : String := "script"
  /-- What the look-up of the process answers. -/
  process : Except Failure (Option Nat)
  /-- What the looks at the process answer; false when the list is used up. -/
  alive : List Bool := []
  /-- Sends that fail, by their number from one. -/
  failing : List (Nat × Failure) := []
  /-- Milliseconds that a send takes. -/
  sendMillis : Nat := 0
  /-- Sends so far. -/
  sent : Nat := 0

/-- The console as a channel. -/
def Script.channel (target : String) : Channel Script where
  target := target
  send _ s :=
    let n := s.sent + 1
    let answer := match s.failing.lookup n with
      | some f => .error f
      | none => .ok ()
    ((answer, s.sendMillis), { s with sent := n })
  locate s := (s.process, s)
  alive _ s := (s.alive.headD false, { s with alive := s.alive.tail })

end DrainGuard
