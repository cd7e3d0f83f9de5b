import DrainGuard.CommandLine.Help
import DrainGuard.CommandLine.Reading
import DrainGuard.Host.Files
import DrainGuard.Settings.Render
import DrainGuard.Station

/-!
# From the command line to an exit code

Settings are loaded, logging is set up and the settings are checked before a guard touches
anything.

* `Surroundings`: what the program needs of the world around it.
* `Options.launch`: the program after its command line has been read.
* `CommandLine.run`: the whole program.
-/

namespace DrainGuard

/-- What the program leaves behind. -/
structure Exit where
  /-- The code of the process. -/
  code : Nat
  /-- What it wrote. -/
  out : String := ""
  /-- What it wrote about errors, log lines apart. -/
  err : String := ""
  deriving DecidableEq

/-- Why logging cannot be set up. -/
inductive LogFault where
  /-- The path of the log file has no file name. -/
  | noName (path : String)
  /-- The directory of the log file cannot be made. -/
  | noDirectory (directory : String) (error : FileError)
  /-- The log file cannot be opened. The program does not survive that. -/
  | noFile (error : FileError)
  deriving DecidableEq

/-- The wording of a fault. -/
def LogFault.text : LogFault → String
  | noName path => "log file path " ++ path ++ " has no file name"
  | noDirectory directory e => "cannot create log directory " ++ directory ++ ": " ++ e.text
  | noFile e => "initializing rolling file appender failed: " ++ e.text

/-- What the program needs of the world around it. -/
structure Surroundings (σ : Type) where
  /-- Loads the settings. -/
  load : Options → σ → Except Failure Settings
  /-- Opens the log file, if there is to be one. -/
  openLog : Options → Settings → σ → Except LogFault σ
  /-- What a guard works with. -/
  station : Options → Settings → Station σ

namespace Exit

/-- The code of a process that does not survive. -/
def aborted : Nat := 101

/-- What stands above the default configuration. -/
def configIntroduction : String :=
  "# spotguard configuration\n" ++
  "# Place at <SERVER_ROOT>/spotguard.toml or pass with --config.\n" ++
  "# Every key may be overridden with SPOTGUARD_<SECTION>__<KEY>.\n\n"

/-- The exit after the default configuration has been shown. -/
def ofDefaultConfig : Exit :=
  match Settings.default.toToml with
  | .ok text =>
    { code := ExitCode.ok
      out := configIntroduction ++ text ++ "\n" }
  | .error f =>
    { code := ExitCode.startupFailed
      err := "Failed to render default configuration: " ++ f.text ++ "\n" }

/-- The exit where settings cannot be loaded. -/
def ofLoading (f : Failure) : Exit :=
  { code := ExitCode.startupFailed, err := "Failed to load configuration: " ++ f.text ++ "\n" }

/-- The exit where logging cannot be set up. -/
def ofLogging (f : LogFault) : Exit :=
  match f with
  | .noFile _ => { code := aborted, err := f.text ++ "\n" }
  | _ => { code := ExitCode.startupFailed, err := "Failed to initialize logging: " ++ f.text ++ "\n" }

/-- The exit where a setting makes no sense. -/
def ofProblem (o : Options) (problem : String) : Exit :=
  { code := ExitCode.startupFailed
    err := if o.validateConfig then "✗ Configuration validation failed: " ++ problem ++ "\n"
      else "" }

/-- The exit where the settings are only checked and make sense. -/
def ofValidation : Exit := { code := ExitCode.ok, out := "✓ Configuration is valid\n" }

/-- The exit after a guard has been at work. -/
def ofEnding : Ending → Exit
  | .code n => { code := n }
  | .failed (.alreadyRunning ..) => { code := ExitCode.alreadyRunning }
  | .failed _ => { code := ExitCode.startupFailed }
  | .aborted => { code := aborted }

/-- The exit where a command line asks for nothing but a text. -/
def ofEarly : Early → Exit
  | .help long => { code := ExitCode.ok, out := CommandLine.help long }
  | .version => { code := ExitCode.ok, out := CommandLine.versionText }
  | .refusal r => { code := Refusal.exitCode, err := r.text }

/-- An exit with something said about errors before. -/
def afterSaying (text : String) (e : Exit) : Exit := { e with err := text ++ e.err }

end Exit

namespace Options

/-- The formats of log lines. -/
def logFormats : List String := ["json", "compact", "pretty"]

/-- What is said about a format of log lines that there is not. -/
def formatWarning (o : Options) : String :=
  match o.logFormat with
  | none => ""
  | some f =>
    if logFormats.contains f then ""
    else "Warning: Unknown log format '" ++ f ++ "', using default\n"

variable {σ : Type}

/-- The program once settings are loaded and logging is set up. -/
def proceed (o : Options) (around : Surroundings σ) (s : Settings) (fuel patience : Nat) (w : σ) :
    Option (Exit × Session σ) :=
  match s.problem? with
  | some problem => some (.ofProblem o problem, { world := w })
  | none =>
    if o.validateConfig then some (.ofValidation, { world := w })
    else ((around.station o s).run o.mode fuel patience w).map fun (ending, session) =>
      (.ofEnding ending, session)

/-- The program once its command line has been read. It does not end where the guard does not. -/
def launch (o : Options) (around : Surroundings σ) (fuel patience : Nat) (w : σ) :
    Option (Exit × Session σ) :=
  if o.printConfig then some (.ofDefaultConfig, { world := w })
  else match around.load o w with
    | .error f => some (.ofLoading f, { world := w })
    | .ok s =>
      let result : Option (Exit × Session σ) := match around.openLog o s w with
        | .error f => some (.ofLogging f, { world := w })
        | .ok w => o.proceed around s fuel patience w
      result.map fun (exit, session) => (exit.afterSaying o.formatWarning, session)

end Options

/-- The program from its command line on. -/
def CommandLine.run {σ : Type} (around : Surroundings σ) (arguments : List String)
    (fuel patience : Nat) (w : σ) : Option (Exit × Session σ) :=
  match read arguments with
  | .ok o => o.launch around fuel patience w
  | .error early => some (.ofEarly early, { world := w })

end DrainGuard
