import DrainGuard.Host.Files

/-!
# Programs and how they end

* `ExitStatus`: how a program ended, and the wording of it.
* `Output`: what a program that has ended leaves behind.
* `StartError`: why a program did not start.
-/

namespace DrainGuard

/-- How a program ended. -/
inductive ExitStatus where
  /-- It ended by itself with a code. -/
  | code (n : Nat)
  /-- A signal ended it, and an image of its memory may have been dumped. -/
  | signal (n : Nat) (dumped : Bool)
  deriving DecidableEq, Inhabited

namespace ExitStatus

/-- The names of the signals, from number one on. -/
def signalNames : List String :=
  ["SIGHUP", "SIGINT", "SIGQUIT", "SIGILL", "SIGTRAP", "SIGABRT", "SIGBUS", "SIGFPE", "SIGKILL",
    "SIGUSR1", "SIGSEGV", "SIGUSR2", "SIGPIPE", "SIGALRM", "SIGTERM", "SIGSTKFLT", "SIGCHLD",
    "SIGCONT", "SIGSTOP", "SIGTSTP", "SIGTTIN", "SIGTTOU", "SIGURG", "SIGXCPU", "SIGXFSZ",
    "SIGVTALRM", "SIGPROF", "SIGWINCH", "SIGIO", "SIGPWR", "SIGSYS"]

/-- The name of a signal as it stands behind its number. Signals after the named ones have none. -/
def signalName (n : Nat) : String :=
  match (none :: signalNames.map some).getD n none with
  | some name => " (" ++ name ++ ")"
  | none => ""

/-- The wording of a status. -/
def text : ExitStatus → String
  | code n => "exit status: " ++ toString n
  | signal n dumped =>
    "signal: " ++ toString n ++ signalName n ++ if dumped then " (core dumped)" else ""

/-- The program did what it was asked for. -/
def isSuccess (s : ExitStatus) : Bool := s = .code 0

end ExitStatus

/-- What a program that has ended leaves behind. -/
structure Output where
  /-- How it ended. -/
  status : ExitStatus
  /-- What it wrote. -/
  out : List UInt8 := []
  /-- What it wrote about errors. -/
  err : List UInt8 := []
  deriving Inhabited

/-- Why a program did not start. -/
inductive StartError where
  /-- A file stands in the way. -/
  | file (error : FileError)
  /-- A text holds the character zero. -/
  | zero
  /-- The file is no program. -/
  | notExecutable
  deriving DecidableEq

/-- The wording of an error. -/
def StartError.text : StartError → String
  | file e => e.text
  | zero => "nul byte found in provided data"
  | notExecutable => "Exec format error (os error 8)"

end DrainGuard
