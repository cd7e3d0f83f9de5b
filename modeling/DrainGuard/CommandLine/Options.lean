import DrainGuard.Mode

/-!
# Options

* `Parameter`: what can be said on the command line, with its spellings.
* `Options`: what has been said.
* `Options.set?`: says one thing more, if its value makes sense.
-/

namespace DrainGuard

/-- What can be said on the command line. -/
inductive Parameter where
  /-- The root directory of the server. -/
  | serverRoot
  /-- What the guard does. -/
  | mode
  /-- The configuration file. -/
  | config
  /-- Log everything. -/
  | debug
  /-- Log what is done. -/
  | verbose
  /-- Log errors only. -/
  | quiet
  /-- The format of log lines. -/
  | logFormat
  /-- A file for log lines. -/
  | logFile
  /-- Check the configuration and nothing else. -/
  | validateConfig
  /-- Show the default configuration and nothing else. -/
  | printConfig
  /-- Show a help text. -/
  | help
  /-- Show the version. -/
  | version
  deriving DecidableEq

namespace Parameter

/-- All options, in the order in which they are listed. -/
def options : List Parameter :=
  [mode, config, debug, verbose, quiet, logFormat, logFile, validateConfig, printConfig, help,
    version]

/-- The letter of an option. -/
def letter? : Parameter → Option Char
  | mode => some 'm'
  | config => some 'c'
  | debug => some 'd'
  | verbose => some 'v'
  | quiet => some 'q'
  | help => some 'h'
  | version => some 'V'
  | _ => none

/-- The name of an option; the root directory goes without one. -/
def name? : Parameter → Option String
  | serverRoot => none
  | mode => some "mode"
  | config => some "config"
  | debug => some "debug"
  | verbose => some "verbose"
  | quiet => some "quiet"
  | logFormat => some "log-format"
  | logFile => some "log-file"
  | validateConfig => some "validate-config"
  | printConfig => some "print-config"
  | help => some "help"
  | version => some "version"

/-- What the value of a parameter is called; none if it has no value. -/
def value? : Parameter → Option String
  | serverRoot => some "SERVER_ROOT"
  | mode => some "MODE"
  | config => some "CONFIG"
  | logFormat => some "FORMAT"
  | logFile => some "FILE"
  | _ => none

/-- The option of a letter. -/
def ofLetter? (c : Char) : Option Parameter := options.find? fun p => p.letter? = some c

/-- The option of a name. -/
def ofName? (name : String) : Option Parameter := options.find? fun p => p.name? = some name

/-- How a parameter is written, with a value if it has one. The root directory may be left out. -/
def label (p : Parameter) : String :=
  match p.name?, p.value? with
  | some name, some value => "--" ++ name ++ " <" ++ value ++ ">"
  | some name, none => "--" ++ name
  | none, value => "[" ++ value.getD "" ++ "]"

/-- The values that a parameter is restricted to; empty if there is no such restriction. -/
def choices : Parameter → List String
  | mode => RunMode.all.map RunMode.name
  | _ => []

end Parameter

/-- What has been said on the command line. -/
structure Options where
  /-- The root directory of the server. -/
  serverRoot : String := "/minecraft"
  /-- What the guard does. -/
  mode : RunMode := .active
  /-- The configuration file, if not the one in the root directory. -/
  config : Option String := none
  /-- Log everything. -/
  debug : Bool := false
  /-- Log what is done. -/
  verbose : Bool := false
  /-- Log errors only. -/
  quiet : Bool := false
  /-- The format of log lines. -/
  logFormat : Option String := none
  /-- A file for log lines. -/
  logFile : Option String := none
  /-- Check the configuration and nothing else. -/
  validateConfig : Bool := false
  /-- Show the default configuration and nothing else. -/
  printConfig : Bool := false
  deriving DecidableEq

namespace Options

/-- A text that can be a path. -/
def path? (text : String) : Option String := if text.isEmpty then none else some text

/-- Says one thing more; none if the value makes no sense. -/
def set? (o : Options) (p : Parameter) (value : String) : Option Options :=
  match p with
  | .serverRoot => (path? value).map fun path => { o with serverRoot := path }
  | .mode => (RunMode.ofName? false value).map fun mode => { o with mode }
  | .config => (path? value).map fun path => { o with config := some path }
  | .debug => some { o with debug := true }
  | .verbose => some { o with verbose := true }
  | .quiet => some { o with quiet := true }
  | .logFormat => some { o with logFormat := some value }
  | .logFile => (path? value).map fun path => { o with logFile := some path }
  | .validateConfig => some { o with validateConfig := true }
  | .printConfig => some { o with printConfig := true }
  | .help | .version => some o

end Options

end DrainGuard
