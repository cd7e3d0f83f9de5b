import DrainGuard.CommandLine.Options
import DrainGuard.Text.Similar

/-!
# Why a command line is refused

* `usage`: how the program is called.
* `Refusal`: what is wrong with a command line; `Refusal.text` is the complaint.
-/

namespace DrainGuard

namespace CommandLine

/-- The name of the program. -/
def program : String := "spotguard"

/-- The root directory as part of a usage line. -/
def usedRoot (used : List Parameter) : String :=
  if used.contains .serverRoot then "<SERVER_ROOT>" else Parameter.serverRoot.label

/-- How the program is called, with the parameters that are of interest. -/
def usage (used : List Parameter) : String :=
  let options := if used.isEmpty then ["[OPTIONS]"]
    else (used.filter (· ≠ .serverRoot)).eraseDups.map Parameter.label
  "Usage: " ++ String.intercalate " " ([program] ++ options ++ [usedRoot used])

end CommandLine

/-- What is wrong with a command line. -/
inductive Refusal where
  /-- An argument that means nothing. A tip tells what it is similar to, or how it can be passed
  as a value; `used` is what has been said so far. -/
  | unknown (argument : String) (similar : Option Parameter) (tip : Bool) (used : List Parameter)
  /-- A value that makes no sense, or none where there has to be one. -/
  | badValue (p : Parameter) (value : String)
  /-- A value for an option that has none. -/
  | noValue (p : Parameter) (value : String) (used : List Parameter)
  /-- An option that is given twice. -/
  | repeated (p : Parameter)
  deriving DecidableEq

namespace Refusal

/-- The code a process ends with after a refusal. -/
def exitCode : Nat := 2

/-- Puts a tip below a complaint. -/
def tip (text : String) : String := "\n\n  tip: " ++ text

/-- The list of the values that a parameter is restricted to. -/
def choices (p : Parameter) : String :=
  if p.choices.isEmpty then ""
  else "\n  [possible values: " ++ String.intercalate ", " p.choices ++ "]"

/-- What is wrong, with tips. -/
def complaint : Refusal → String
  | unknown argument similar wantsTip used =>
    "unexpected argument '" ++ argument ++ "' found" ++
      (match similar with
        | some p => tip ("a similar argument exists: '--" ++ p.name?.getD "" ++ "'")
        | none => if wantsTip then
            tip ("to pass '" ++ argument ++ "' as a value, use '-- " ++ argument ++ "'")
          else "") ++ "\n\n" ++ CommandLine.usage used
  | badValue p value =>
    (if value.isEmpty then "a value is required for '" ++ p.label ++ "' but none was supplied"
      else "invalid value '" ++ value ++ "' for '" ++ p.label ++ "'") ++ choices p ++
      (match Text.closest? value p.choices with
        | some c => tip ("a similar value exists: '" ++ c ++ "'")
        | none => "")
  | noValue p value used =>
    "unexpected value '" ++ value ++ "' for '" ++ p.label ++
      "' found; no more were expected\n\n" ++ CommandLine.usage used
  | repeated p =>
    "the argument '" ++ p.label ++ "' cannot be used multiple times\n\n" ++ CommandLine.usage []

/-- The text of a refusal. -/
def text (r : Refusal) : String :=
  "error: " ++ r.complaint ++ "\n\nFor more information, try '--help'.\n"

end Refusal

end DrainGuard
