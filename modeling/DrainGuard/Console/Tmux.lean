import DrainGuard.Console.Message
import DrainGuard.Decimal.Read
import DrainGuard.Host.Program
import DrainGuard.Lifecycle.Session
import DrainGuard.Text.Utf8

/-!
# A console in tmux

The server reads its commands from a tmux pane. A command is typed into the pane and then entered,
by two runs of tmux. The process to wait for is the one that a file names or else the one in the
pane; a shell in the pane never exits on its own, so its child is taken instead.

* `processNumber?`: a process number in a text.
* `Pane.ofText?`, `Pane.process`: what tmux tells about a pane, and the process to wait for.
* `Tmux.send`, `Tmux.locate`: what the console does, over any world that runs tmux.
-/

namespace DrainGuard

/-- The number that a text holds between blanks, if it can be the number of a process: decimal, a
plus sign allowed, from 1 to 2^32 - 1. -/
def processNumber? (cs : List Char) : Option Nat :=
  (Decimal.natText? 0xFFFFFFFF (Text.trimList cs)).filter fun n => 0 < n

/-- A pane of tmux. -/
structure Pane where
  /-- The process in it. -/
  pid : Nat
  /-- The name of the program. -/
  command : List Char
  deriving DecidableEq

namespace Pane

/-- What tmux is asked about a pane. -/
def format : String := "#\x7bpane_pid\x7d #\x7bpane_current_command\x7d"

/-- Reads what tmux tells: a process number, a blank and the name of the program. -/
def ofText? (cs : List Char) : Option Pane :=
  let (word, rest) := (Text.trimList cs).span fun c => !Text.isBlank c
  (processNumber? word).map fun pid => ⟨pid, Text.trimList (rest.drop 1)⟩

/-- Programs that wait for commands and never exit on their own. -/
def shells : List String := ["sh", "bash", "dash", "ash", "zsh", "ksh", "fish"]

/-- The program in the pane is a shell. Login shells have a dash in front of their names. -/
def isShell (p : Pane) : Bool :=
  shells.contains (String.ofList (p.command.dropWhile (· = '-')))

/-- The process to wait for, given the list of the children of the process in the pane. -/
def process (p : Pane) (children : Option String) : Nat :=
  if p.isShell then
    (children.bind fun t => (Text.words t.toList).findSome? processNumber?).getD p.pid
  else p.pid

end Pane

/-- A console in tmux, and what it needs of the world. -/
structure Tmux (σ : Type) where
  /-- The program. -/
  binary : String
  /-- The session or pane. -/
  target : String
  /-- Runs the program with arguments. -/
  run : List String → σ → Except StartError Output × σ
  /-- The text of the file that names the server process, if there is such a text. -/
  pidFile : σ → Option String
  /-- The children of a process as the system lists them. -/
  children : Nat → σ → Option String
  /-- Is a process alive? -/
  alive : Nat → σ → Bool

namespace Tmux

variable {σ : Type}

/-- The console cannot be reached. -/
def unavailable (t : Tmux σ) (message : String) : Failure := .channelUnavailable t.target message

/-- Runs tmux; it may fail in its own way. -/
def output (t : Tmux σ) (args : List String) : ExceptT Failure (StateM σ) Output := fun w =>
  match t.run args w with
  | (.ok o, w) => (.ok o, w)
  | (.error e, w) => (.error (t.unavailable ("failed to run " ++ t.binary ++ ": " ++ e.text)), w)

/-- Runs tmux, which has to succeed. -/
def perform (t : Tmux σ) (args : List String) : ExceptT Failure (StateM σ) Unit := do
  let o ← t.output args
  if o.status.isSuccess then return ()
  else throw (t.unavailable (t.binary ++ " " ++ args.headD "" ++ " exited with " ++
    o.status.text ++ ": " ++ Text.trim (Text.ofBytes o.err)))

/-- The arguments that type a text into the pane. Typed literally, no word of it names a key. -/
def typing (t : Tmux σ) (text : String) : List String := ["send-keys", "-t", t.target, "-l", text]

/-- The arguments that press the enter key in the pane. -/
def entering (t : Tmux σ) : List String := ["send-keys", "-t", t.target, "Enter"]

/-- The arguments that ask for the process in the pane. -/
def asking (t : Tmux σ) : List String := ["display-message", "-p", "-t", t.target, Pane.format]

/-- Types a command as one line and enters it. -/
def send (t : Tmux σ) (command : String) : ExceptT Failure (StateM σ) Unit := do
  t.perform (t.typing (singleLine command))
  t.perform t.entering

/-- The process to wait for, as far as the pane tells. None if tmux has no such pane. -/
def locateInPane (t : Tmux σ) : ExceptT Failure (StateM σ) (Option Nat) := do
  let o ← t.output t.asking
  if !o.status.isSuccess then return none
  let text := Text.decode o.out
  match Pane.ofText? text with
  | none =>
    throw (t.unavailable ("unexpected pane info '" ++ String.ofList (Text.trimList text) ++ "'"))
  | some pane => return some (pane.process (t.children pane.pid (← get)))

/-- The process to wait for: the one that the file names, or else the one that the pane tells. -/
def locate (t : Tmux σ) : ExceptT Failure (StateM σ) (Option Nat) := do
  match (t.pidFile (← get)).bind fun text => processNumber? text.toList with
  | some pid => return some pid
  | none => t.locateInPane

/-- The console as a channel. -/
def channel (t : Tmux σ) : Channel σ where
  target := t.target
  send line w :=
    let (answer, w) := (t.send line).run w
    ((answer, 0), w)
  locate w := t.locate.run w
  alive pid w := (t.alive pid w, w)

end Tmux

end DrainGuard
