import DrainGuard.CommandLine.Refusal

/-!
# Reading a command line

Arguments are read from left to right. The value of an option may stand in the argument after it;
it is looked at when the next option or the end is reached.

* `Reading`: what has been read so far.
* `Reading.step`: reads one argument.
* `CommandLine.read`: reads all of them.
-/

namespace DrainGuard

/-- What a command line asks for before it has been read to its end. -/
inductive Early where
  /-- A help text, short or long. -/
  | help (long : Bool)
  /-- The version. -/
  | version
  /-- Nothing that makes sense. -/
  | refusal (r : Refusal)
  deriving DecidableEq

/-- What has been read of a command line. -/
structure Reading where
  /-- What has been said. -/
  options : Options := {}
  /-- The parameters that have been given, in order. -/
  given : List Parameter := []
  /-- A parameter whose value has not been looked at, or not even been read. -/
  pending : Option (Parameter × Option String) := none
  /-- The root directory has been read. -/
  hasRoot : Bool := false
  /-- No more options come. -/
  valuesOnly : Bool := false

namespace Reading

/-- Takes a parameter with its value. -/
def accept (r : Reading) (p : Parameter) (value : String) : Except Early Reading :=
  if r.given.contains p then .error (.refusal (.repeated p))
  else match r.options.set? p value with
    | some options => .ok { r with options, given := r.given ++ [p], pending := none }
    | none => .error (.refusal (.badValue p value))

/-- Looks at the value of the pending parameter. -/
def settle (r : Reading) : Except Early Reading :=
  match r.pending with
  | none => .ok r
  | some (p, none) => .error (.refusal (.badValue p ""))
  | some (p, some value) => r.accept p value

/-- The parameters that count as given when the reading ends in a complaint. -/
def givenAtEnd (r : Reading) : List Parameter :=
  match r.pending with
  | some (p, some _) => if r.given.contains p then r.given.erase p else r.given ++ [p]
  | _ => r.given

/-- An argument that means nothing. -/
def unknown (argument : String) (similar : Option Parameter) (tip : Bool)
    (used : List Parameter) : Except Early Reading :=
  .error (.refusal (.unknown argument similar tip used))

/-- Reads an argument that is no option. -/
def positional (r : Reading) (argument : String) : Except Early Reading :=
  if r.hasRoot then unknown argument none false []
  else do
    let r ← r.settle
    return { r with pending := some (.serverRoot, some argument), hasRoot := true }

/-- Reads an option that has no value. -/
def flag (r : Reading) (p : Parameter) (long : Bool) : Except Early Reading := do
  let r ← r.settle
  match p with
  | .help => throw (.help long)
  | .version => throw .version
  | _ => r.accept p ""

/-- Reads an option that has a value; the value may come with the next argument. -/
def valued (r : Reading) (p : Parameter) (value : Option String) : Except Early Reading := do
  let r ← r.settle
  match value with
  | some value => r.accept p value
  | none => return { r with pending := some (p, none) }

/-- An option of a name that there is none of. -/
def unknownName (r : Reading) (name : String) : Except Early Reading :=
  let similar := (Text.closest? name (Parameter.options.filterMap Parameter.name?)).bind
    Parameter.ofName?
  unknown ("--" ++ name) similar true
    (match similar with
      | some p => if r.givenAtEnd.contains p then r.givenAtEnd else r.givenAtEnd ++ [p]
      | none => r.givenAtEnd)

/-- Reads an option by its name. -/
def named (r : Reading) (name : String) (value : Option String) : Except Early Reading :=
  match Parameter.ofName? name with
  | none => r.unknownName name
  | some p =>
    if p.value?.isSome then r.valued p value
    else match value with
      | some value => .error (.refusal (.noValue p value (r.given ++ [p])))
      | none => r.flag p true

/-- Reads options by their letters. What follows the letter of an option with a value is its
value. -/
def letters (r : Reading) : List Char → Except Early Reading
  | [] => .ok r
  | c :: rest =>
    match Parameter.ofLetter? c with
    | none => unknown (String.ofList ['-', c]) none true []
    | some p =>
      if p.value?.isSome then r.valued p (match rest with
        | [] => none
        | '=' :: value => some (String.ofList value)
        | value => some (String.ofList value))
      else do (← r.flag p false).letters rest

/-- A parameter waits for its value in the next argument. -/
def awaited (r : Reading) : Option Parameter :=
  match r.pending with
  | some (p, none) => some p
  | _ => none

/-- Reads one argument. -/
def step (r : Reading) (argument : String) : Except Early Reading :=
  if r.valuesOnly then r.positional argument
  else match argument.toList with
    | ['-', '-'] => .ok { r with valuesOnly := true }
    | '-' :: '-' :: text =>
      let (name, rest) := text.span (· ≠ '=')
      r.named (String.ofList name) (if rest.isEmpty then none else some (String.ofList rest.tail))
    | '-' :: c :: more => r.letters (c :: more)
    | _ => match r.awaited with
      | some p => .ok { r with pending := some (p, some argument) }
      | none => r.positional argument

end Reading

/-- Reads a command line. -/
def CommandLine.read (arguments : List String) : Except Early Options := do
  let r ← arguments.foldlM Reading.step {}
  return (← r.settle).options

end DrainGuard
