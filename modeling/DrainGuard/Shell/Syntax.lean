/-!
# Shell scripts

The scripts that a machine can run: lists, pipelines, choices and branches of simple commands.
-/

namespace DrainGuard.Shell

/-- A part of a word. -/
inductive Part where
  /-- Characters; where they are quoted they mean only themselves. -/
  | plain (text : List Char) (quoted : Bool)
  /-- A parameter or variable by its name. -/
  | param (name : String) (quoted : Bool)
  deriving Inhabited

/-- A word. -/
abbrev Word := List Part

/-- Where a stream is led. -/
inductive Direction where
  /-- From a file. -/
  | source (file : Word)
  /-- Into a file from its start. -/
  | into (file : Word)
  /-- To the end of a file. -/
  | onto (file : Word)
  /-- To where another stream goes. -/
  | like (stream : Nat)

/-- A stream and where it is led. -/
structure Redirect where
  /-- The stream: 0 for input, 1 for output, 2 for errors. -/
  stream : Nat
  /-- Where it is led. -/
  direction : Direction

/-- A command. -/
inductive Command where
  /-- A program with its arguments. -/
  | simple (line : Nat) (assignments : List (String × Word)) (words : List Word)
      (redirects : List Redirect)
  /-- The first arm with a pattern that fits a word. -/
  | choice (subject : Word) (arms : List (List Word × List Command))
  /-- One of two lists, as a condition says. -/
  | branch (condition positive negative : List Command)
  /-- A list that counts as one command; what an isolated one changes does not outlast it. -/
  | group (isolated : Bool) (body : List Command)
  /-- The output of one command is the input of another. -/
  | pipe (left right : Command)
  /-- The second command runs if the first succeeds. -/
  | both (left right : Command)
  /-- The second command runs if the first fails. -/
  | either (left right : Command)
  /-- A command that nobody waits for. Here it has run before the next one starts. -/
  | background (body : Command)
  /-- Success and failure swapped. -/
  | negate (body : Command)
  deriving Inhabited

end DrainGuard.Shell
