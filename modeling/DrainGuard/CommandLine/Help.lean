import DrainGuard.CommandLine.Refusal

/-!
# Help texts

* `CommandLine.help`: the short help text, a line for each parameter, or the long one.
* `CommandLine.versionText`: the version.
-/

namespace DrainGuard

/-- What a parameter is for. -/
def Parameter.purpose (long : Bool) : Parameter → String
  | serverRoot => "Server root directory"
  | mode => "Entry point into the shutdown lifecycle"
  | config => "Path to TOML configuration file (default: <SERVER_ROOT>/spotguard.toml)"
  | debug => "Enable debug level logging"
  | verbose => "Enable verbose info level logging"
  | quiet => "Enable quiet mode - only log errors"
  | logFormat => "Log output format: json, pretty, or compact"
  | logFile => "Append log output to FILE (relative to SERVER_ROOT)"
  | validateConfig => "Validate configuration and exit without touching the server"
  | printConfig => "Print default configuration in TOML format and exit"
  | help => if long then "Print help (see a summary with '-h')"
    else "Print help (see more with '--help')"
  | version => "Print version"

/-- The value that is taken if a parameter is not given. -/
def Parameter.default? : Parameter → Option String
  | serverRoot => some ({} : Options).serverRoot
  | mode => some ({} : Options).mode.name
  | _ => none

namespace CommandLine

/-- The version of the program. -/
def versionText : String := program ++ " 0.1.0\n"

/-- What the program is for, in one line. -/
def about : String :=
  "Drains, stops and backs up a Minecraft server before its spot instance is reclaimed"

/-- What the program is for. -/
def longAbout : String :=
  "Watches the instance metadata service for a spot interruption notice. When one appears, " ++
  "players are warned, world saving is flushed, the server is stopped through its tmux console " ++
  "and the world is handed to the backup agent before the instance goes away. The same sequence " ++
  "can be run on demand, and a scheduled backup mode archives the world without stopping the " ++
  "server."

/-- All the ways to write a parameter. -/
def spellings (p : Parameter) : String :=
  match p.name?, p.letter? with
  | none, _ => p.label
  | some _, some c => String.ofList ['-', c] ++ ", " ++ p.label
  | some _, none => "    " ++ p.label

/-- The value that is taken if a parameter is not given, in brackets. -/
def defaultNote (p : Parameter) : Option String := p.default?.map fun d => "[default: " ++ d ++ "]"

/-- The indentation below a parameter in the long help text. -/
def margin : String := "          "

/-- A parameter in the long help text. -/
def longEntry (p : Parameter) : String :=
  let choices := if p = .mode then
      "\n" ++ margin ++ "Possible values:\n" ++ String.join (RunMode.all.map fun m =>
        margin ++ "- " ++ m.name ++ ": " ++ m.purpose ++ "\n")
    else ""
  let default := match defaultNote p with
    | some note => margin ++ "\n" ++ margin ++ note ++ "\n"
    | none => ""
  "  " ++ spellings p ++ "\n" ++ margin ++ p.purpose true ++ "\n" ++ choices ++ default

/-- A parameter in the short help text, in a column of the given width. -/
def shortEntry (width : Nat) (p : Parameter) : String :=
  let choices := if p.choices.isEmpty then none
    else some ("[possible values: " ++ String.intercalate ", " p.choices ++ "]")
  let text := String.intercalate " " ([p.purpose false] ++ (defaultNote p).toList ++ choices.toList)
  "  " ++ spellings p ++ String.ofList (List.replicate (width - (spellings p).length) ' ') ++ "  " ++
    text ++ "\n"

/-- The parameters of one kind in a help text. -/
def listing (long : Bool) (ps : List Parameter) : String :=
  if long then String.intercalate "\n" (ps.map longEntry)
  else
    let width := ps.foldl (fun w p => max w (spellings p).length) 0
    String.join (ps.map (shortEntry width))

/-- The help text. -/
def help (long : Bool) : String :=
  (if long then longAbout else about) ++ "\n\n" ++ usage [] ++ "\n\nArguments:\n" ++
    listing long [.serverRoot] ++ "\nOptions:\n" ++ listing long Parameter.options

end CommandLine

end DrainGuard
