import DrainGuard.Backup.Agent
import DrainGuard.Console.Tmux
import DrainGuard.Host.Locks
import DrainGuard.Shell.Run
import DrainGuard.Station
import DrainGuard.Watch.Source

/-!
# A station on a machine

What a guard on a machine works with: the programs, files and processes there.

* `Machine.tmux`, `Machine.archiver`: the console and the backup agent of a server.
* `Machine.station`: all that the settings of a guard ask for.
-/

namespace DrainGuard.Machine

/-- The children of a process as a list of numbers. -/
def childrenText (m : Machine) (pid : Nat) : Option String :=
  if m.processExists pid then some (String.intercalate " " ((m.childrenOf pid).map toString))
  else none

/-- The text of a file. -/
def text? (m : Machine) (path : String) : Option String :=
  ((m.read? path).bind Text.decode?).map String.ofList

/-- The console of a server. -/
def tmux (s : ControlSettings) (pidPath : Option String) : Tmux Machine where
  binary := s.tmuxBinary
  target := s.target
  run args m := m.start none s.tmuxBinary args
  pidFile m := pidPath.bind m.text?
  children pid m := m.childrenText pid
  alive pid m := m.processExists pid

/-- The backup agent of a server. It runs in the root directory of the server. -/
def archiver (s : BackupSettings) (root : String) : Archiver Machine where
  invoke mode m :=
    let (answer, m) := m.start (some root) s.command (s.arguments mode)
    ((s.outcome mode answer, 0), m)

/-- The guard of a server. -/
def guardOf (s : Settings) (root : String) : Guard Machine where
  channel := (tmux s.control (s.pidPath root)).channel
  archiver := archiver s.backup root
  timings := s.shutdown

/-- What a fetch answers on a network on which nothing does. -/
def silentFetch (s : MetadataSettings) : Fetch :=
  { answer := (((Network.down : Network Unit).fetch s).run ()).1 }

/-- What a guard on a machine works with. -/
def station (s : Settings) (root : String) : Station Machine where
  acquire mode m := m.acquire root mode
  release held m := m.release held
  guard := guardOf s root
  client := .ok fun _ => silentFetch s.metadata
  interval := s.metadata.pollInterval
  cancel := none

end DrainGuard.Machine
