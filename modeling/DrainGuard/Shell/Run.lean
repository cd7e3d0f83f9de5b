import DrainGuard.Shell.Parser
import DrainGuard.Shell.Tools

/-!
# Running programs

* `Machine.start`: runs a program to its end. A program is a tool, the shell, or a script that is
  a file.

Running is given a number of steps; a script that needs more stops where it is.
-/

namespace DrainGuard.Shell

/-- Where a stream goes. -/
inductive Sink where
  /-- To the output. -/
  | out
  /-- To the errors. -/
  | err
  /-- To the end of a file. -/
  | file (path : String)
  deriving DecidableEq

/-- The streams of a command. -/
structure Streams where
  /-- What it can read. -/
  input : List UInt8 := []
  /-- Where its output goes. -/
  out : Sink := .out
  /-- Where its errors go. -/
  err : Sink := .err

/-- A shell at work. -/
structure State where
  /-- The machine. -/
  machine : Machine
  /-- The working directory. -/
  dir : Place
  /-- The name of the script. -/
  name : String
  /-- The arguments of the script. -/
  args : List String
  /-- The variables. -/
  environment : List (String × String) := []
  /-- The process of the shell. -/
  pid : Nat
  /-- The process that started the shell. -/
  parent : Nat
  /-- The code of the last command. -/
  status : Nat := 0
  /-- How the shell ended, once it has. -/
  ended : Option ExitStatus := none
  /-- The output so far. -/
  out : List UInt8 := []
  /-- The errors so far. -/
  err : List UInt8 := []

namespace State

/-- Writes bytes to where a stream goes. -/
def write (sink : Sink) (bytes : List UInt8) (s : State) : State :=
  match sink with
  | .out => { s with out := s.out ++ bytes }
  | .err => { s with err := s.err ++ bytes }
  | .file path => match s.machine.withFiles (s.machine.files.append s.dir path bytes) with
    | .ok machine => { s with machine }
    | .error _ => s

/-- Writes a line about an error, with the place of the command, and sets the code. -/
def complain (io : Streams) (line : Nat) (text : String) (status : Nat) (s : State) : State :=
  let message := s.name ++ ": " ++ toString line ++ ": " ++ text ++ "\n"
  { s.write io.err (Text.toBytes message) with status }

/-- The value of a parameter or variable. -/
def value (s : State) (name : String) : String :=
  match name with
  | "*" | "@" => String.intercalate " " s.args
  | "#" => toString s.args.length
  | "?" => toString s.status
  | "$" => toString s.pid
  | "0" => s.name
  | "PPID" => toString s.parent
  | _ => match Decimal.digits? name.toList with
    | some n => s.args.getD (n - 1) ""
    | none => (s.environment.lookup name).getD ""

end State

/-! ## Words -/

/-- Words that come out of an expansion, the last one still open. -/
structure Fields where
  /-- The words that are complete. -/
  complete : List String := []
  /-- The word that goes on. -/
  current : Option (List Char) := none

namespace Fields

/-- Goes on with characters. -/
def push (f : Fields) (cs : List Char) : Fields :=
  { f with current := some (f.current.getD [] ++ cs) }

/-- Ends the word. -/
def split (f : Fields) : Fields :=
  match f.current with
  | some cs => ⟨f.complete ++ [String.ofList cs], none⟩
  | none => f

/-- Goes on with characters of which blanks end words. -/
def pushSplit (f : Fields) (cs : List Char) : Fields :=
  cs.foldl (fun f c => if c = ' ' ∨ c = '\t' ∨ c = '\n' then f.split else f.push [c]) f

/-- Goes on with a part of a word. -/
def part (s : State) (f : Fields) : Part → Fields
  | .plain text quoted => if text.isEmpty && !quoted then f else f.push text
  | .param "@" true => match s.args with
    | [] => f
    | a :: rest => rest.foldl (fun f b => f.split.push b.toList) (f.push a.toList)
  | .param name true => f.push (s.value name).toList
  | .param name false => f.pushSplit (s.value name).toList

end Fields

/-- The words that words expand to. -/
def expand (s : State) (words : List Word) : List String :=
  words.flatMap fun w => ((w.foldl (Fields.part s) {}).split).complete

/-- The text of a word that is not split. -/
def expandOne (s : State) (w : Word) : List Char :=
  w.flatMap fun
    | .plain text _ => text
    | .param name _ => (s.value name).toList

/-- The pattern of a word; what is quoted stands for itself. -/
def expandPattern (s : State) (w : Word) : List Glob :=
  let quoted (cs : List Char) : List Glob := cs.map .exactly
  let rec go : Word → List Char → List Glob
    | [], open_ => Glob.ofChars open_.length open_
    | .plain text false :: rest, open_ => go rest (open_ ++ text)
    | .plain text true :: rest, open_ => Glob.ofChars open_.length open_ ++ quoted text ++ go rest []
    | .param name true :: rest, open_ =>
      Glob.ofChars open_.length open_ ++ quoted (s.value name).toList ++ go rest []
    | .param name false :: rest, open_ => go rest (open_ ++ (s.value name).toList)
  go w []

/-! ## Streams -/

/-- Leads streams elsewhere; none if a file cannot be used. -/
def redirect (s : State) (io : Streams) : List Redirect → Option (Streams × State)
  | [] => some (io, s)
  | r :: rest => do
    let lead (sink : Sink) : Streams := if r.stream = 2 then { io with err := sink }
      else { io with out := sink }
    match r.direction with
    | .like n => redirect s (lead (if n = 2 then io.err else io.out)) rest
    | .source w =>
      let bytes ← (s.machine.files.read s.dir (String.ofList (expandOne s w))).toOption
      redirect s { io with input := bytes } rest
    | .into w =>
      let path := String.ofList (expandOne s w)
      if path = "/dev/null" then redirect s (lead (.file path)) rest
      else
        let machine ← (s.machine.withFiles (s.machine.files.write s.dir path [])).toOption
        redirect { s with machine } (lead (.file path)) rest
    | .onto w =>
      let path := String.ofList (expandOne s w)
      if path = "/dev/null" then redirect s (lead (.file path)) rest
      else
        let machine ← (s.machine.withFiles (s.machine.files.append s.dir path [])).toOption
        redirect { s with machine } (lead (.file path)) rest

/-! ## Signals -/

/-- The number of a signal by its name or digits. -/
def signalOf? (text : String) : Option Nat :=
  match Decimal.digits? text.toList with
  | some n => some n
  | none =>
    let name := if "SIG".isPrefixOf text then text else "SIG" ++ text
    if ExitStatus.signalNames.contains name then some (ExitStatus.signalNames.idxOf name + 1)
    else none

/-- The signal that arguments ask for, and the processes. -/
def signalArgs : List String → Option (Nat × List String)
  | "-s" :: name :: rest => (signalOf? name).map (·, rest)
  | "--" :: rest => some (15, rest)
  | arg :: rest => match arg.toList with
    | '-' :: cs => (signalOf? (String.ofList cs)).map (·, rest)
    | _ => some (15, arg :: rest)
  | [] => none

/-- Sends signals; one to the shell itself ends it. -/
def sendSignals (io : Streams) (line : Nat) (s : State) (args : List String) : State :=
  match signalArgs args with
  | none => s.complain io line "kill: Illegal option" 2
  | some (signal, pids) =>
    pids.foldl (fun (s : State) pid =>
      match Decimal.digits? pid.toList with
      | none => s.complain io line ("kill: Illegal number: " ++ pid) 2
      | some n =>
        if n = s.pid then
          if signal = 0 then s else { s with ended := some (.signal signal false) }
        else if s.machine.processExists n then { s with machine := s.machine.kill signal n }
        else s.complain io line "kill: No such process" 1) { s with status := 0 }

/-! ## Commands -/

/-- What a file or name is as a program. -/
inductive Program where
  /-- A tool. -/
  | tool (run : Call → Result)
  /-- The shell. -/
  | shell
  /-- A script. -/
  | script (content : List UInt8)

/-- A program by a name without slashes. -/
def namedProgram? (name : String) : Option Program :=
  if name = "sh" ∨ name = "dash" ∨ name = "bash" then some .shell else (tool? name).map .tool

/-- A program by its name or path. -/
def findProgram (m : Machine) (dir : Place) (name : String) : Except StartError Program :=
  if name.toList.contains '/' then
    let route := Route.ofString name
    let standard := if route.absolute then
        match route.parts with
        | ["bin", n] | ["usr", "bin", n] => namedProgram? n
        | _ => none
      else none
    match standard with
    | some p => .ok p
    | none => match m.files.resolve dir name with
      | .error e => .error (.file e)
      | .ok place => match m.files.entry? place with
        | none => .error (.file .missing)
        | some .directory => .error (.file .denied)
        | some (.file _ content mode) =>
          if mode &&& 0o111 = 0 then .error (.file .denied)
          else if content.take 2 = [35, 33] then .ok (.script content)
          else .error .notExecutable
  else if name = "." ∨ name = ".." then .error (.file .denied)
  else match namedProgram? name with
    | some p => .ok p
    | none => .error (.file .missing)

/-- The code that a status counts as. -/
def codeOf : ExitStatus → Nat
  | .code n => n
  | .signal n _ => 128 + n

/-- Runs in a shell of its own: only files, processes and output outlast it. -/
def isolated (run : State → State) (s : State) : State :=
  let inner := run s
  { s with machine := inner.machine, out := inner.out, err := inner.err
           status := (inner.ended.map codeOf).getD inner.status }

mutual

/-- Runs a program to its end. -/
def start : Nat → Machine → Place → Nat → String → List String → List UInt8 →
    Except StartError (Machine × Output)
  | 0, _, _, _, _, _, _ => .error (.file .missing)
  | fuel + 1, m, dir, parent, name, args, input => do
    match ← findProgram m dir name with
    | .tool run =>
      let r := run ⟨args, input, m.files, dir⟩
      return ({ m with files := r.files, nextProcess := m.nextProcess + 1 },
        ⟨.code r.status, r.out, r.err⟩)
    | .script content => return script fuel m dir parent name args (Text.decode content) input
    | .shell =>
      match args with
      | "-c" :: text :: rest =>
        return script fuel m dir parent (rest.headD name) rest.tail text.toList input
      | file :: rest =>
        match m.files.read dir file with
        | .ok content => return script fuel m dir parent file rest (Text.decode content) input
        | .error _ =>
          return (m, ⟨.code 2, [], Text.toBytes (name ++ ": 0: cannot open " ++ file ++
            ": No such file\n")⟩)
      | [] => return script fuel m dir parent name [] (Text.decode input) []

/-- Runs a script to its end. -/
def script : Nat → Machine → Place → Nat → String → List String → List Char → List UInt8 →
    Machine × Output
  | 0, m, _, _, _, _, _, _ => (m, ⟨.code 0, [], []⟩)
  | fuel + 1, m, dir, parent, name, args, text, input =>
    let pid := m.nextProcess
    let s : State := { machine := { m with nextProcess := pid + 1 }, dir, name, args, pid, parent,
                       environment := m.environment }
    let s := match parse? text with
      | some body => commands fuel { input } body s
      | none => s.complain {} 1 "Syntax error" 2
    (s.machine, ⟨s.ended.getD (.code s.status), s.out, s.err⟩)

/-- Runs commands one after the other until the shell ends. -/
def commands : Nat → Streams → List Command → State → State
  | 0, _, _, s => s
  | _, _, [], s => s
  | fuel + 1, io, c :: cs, s =>
    let s := command fuel io c s
    if s.ended.isSome then s else commands fuel io cs s

/-- Runs the first arm that fits. -/
def arms : Nat → Streams → List Char → List (List Word × List Command) → State → State
  | 0, _, _, _, s => s
  | _, _, _, [], s => { s with status := 0 }
  | fuel + 1, io, subject, (patterns, body) :: rest, s =>
    if patterns.any fun p => Glob.fits (expandPattern s p) subject then
      commands fuel io body { s with status := 0 }
    else arms fuel io subject rest s

/-- Runs a command. -/
def command : Nat → Streams → Command → State → State
  | 0, _, _, s => s
  | fuel + 1, io, .simple line assigned words redirects, s =>
    match redirect s io redirects with
    | none => s.complain io line "cannot open file" 2
    | some (io, s) =>
      match expand s words with
      | [] =>
        let set (s : State) (a : String × Word) : State :=
          { s with environment := setEntry a.1 (String.ofList (expandOne s a.2)) s.environment }
        { assigned.foldl set s with status := 0 }
      | name :: args => program fuel io line name args s
  | fuel + 1, io, .choice subject as, s => arms fuel io (expandOne s subject) as s
  | fuel + 1, io, .branch condition positive negative, s =>
    let s := commands fuel io condition s
    if s.ended.isSome then s
    else if s.status = 0 then commands fuel io positive s
    else commands fuel io negative { s with status := 0 }
  | fuel + 1, io, .group false body, s => commands fuel io body s
  | fuel + 1, io, .group true body, s => isolated (commands fuel io body) s
  | fuel + 1, io, .pipe left right, s =>
    let before := s.out
    let s := isolated (command fuel { io with out := .out } left) { s with out := [] }
    let input := s.out
    isolated (command fuel { io with input } right) { s with out := before }
  | fuel + 1, io, .both left right, s =>
    let s := command fuel io left s
    if s.ended.isSome ∨ s.status ≠ 0 then s else command fuel io right s
  | fuel + 1, io, .either left right, s =>
    let s := command fuel io left s
    if s.ended.isSome ∨ s.status = 0 then s else command fuel io right s
  | fuel + 1, io, .background body, s =>
    { isolated (command fuel io body) s with status := 0 }
  | fuel + 1, io, .negate body, s =>
    let s := command fuel io body s
    if s.ended.isSome then s else { s with status := if s.status = 0 then 1 else 0 }

/-- Runs a program with its arguments, or a command of the shell itself. -/
def program : Nat → Streams → Nat → String → List String → State → State
  | 0, _, _, _, _, s => s
  | fuel + 1, io, line, name, args, s =>
    match name with
    | "exit" =>
      let n := match args with
        | [] => s.status
        | a :: _ => (Decimal.digits? a.toList).getD 2 % 256
      { s with ended := some (.code n) }
    | "kill" => sendSignals io line s args
    | "shift" => { s with args := s.args.tail, status := 0 }
    | "cd" => match s.machine.files.resolve s.dir (args.headD "/") with
      | .ok place =>
        if s.machine.files.entry? place = some .directory then { s with dir := place, status := 0 }
        else s.complain io line ("cd: can't cd to " ++ args.headD "") 2
      | .error _ => s.complain io line ("cd: can't cd to " ++ args.headD "") 2
    | "set" | "export" | "trap" | "wait" | "umask" => { s with status := 0 }
    | _ =>
      match start fuel s.machine s.dir s.pid name args io.input with
      | .ok (machine, o) =>
        { (({ s with machine }).write io.out o.out).write io.err o.err with status := codeOf o.status }
      | .error (.file .missing) => s.complain io line (name ++ ": not found") 127
      | .error _ => s.complain io line (name ++ ": Permission denied") 126

end

/-- How many steps a program may take. -/
def patience : Nat := 4096

end DrainGuard.Shell

namespace DrainGuard.Machine

/-- Runs a program to its end, started by the guard in a directory, with nothing to read. -/
def start (m : Machine) (dir : Option String) (name : String) (args : List String) :
    Except StartError Output × Machine :=
  if (name :: (dir.toList ++ args)).any fun t => t.toList.contains (Char.ofNat 0) then
    (.error .zero, m)
  else
    let place : Except StartError Place := match dir with
      | none => .ok m.here
      | some d => match m.files.resolve m.here d with
        | .error e => .error (.file e)
        | .ok place => match m.files.entry? place with
          | some .directory => .ok place
          | some _ => .error (.file .notDirectory)
          | none => .error (.file .missing)
    match place.bind fun place => Shell.start Shell.patience m place m.guard name args [] with
    | .ok (m, o) => (.ok o, m)
    | .error e => (.error e, m)

end DrainGuard.Machine
