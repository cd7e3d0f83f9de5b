import DrainGuard.Shell.Pattern
import DrainGuard.Decimal.Read
import DrainGuard.Host.Machine
import DrainGuard.Text.Utf8

/-!
# Tools

Programs that need no process of their own: what they read, write and answer.

* `printf`: writes by a format.
* `substitute`: replaces what a regular expression finds, line by line.
* `condition`: the tests on texts, numbers and files.
* `tool?`: a tool by its name.
-/

namespace DrainGuard.Shell

/-- What a tool is given. -/
structure Call where
  /-- The arguments. -/
  args : List String
  /-- The input. -/
  input : List UInt8
  /-- The files. -/
  files : Files
  /-- The working directory. -/
  dir : Place

/-- What a tool comes to. -/
structure Result where
  /-- The code. -/
  status : Nat := 0
  /-- What it writes. -/
  out : List UInt8 := []
  /-- What it writes about errors. -/
  err : List UInt8 := []
  /-- The files afterwards. -/
  files : Files

/-! ## Formats -/

/-- The number of up to three octal digits, and what follows them. -/
def octal (cs : List Char) : Nat × List Char :=
  let ds := (cs.take 3).takeWhile fun c => '0' ≤ c && c ≤ '7'
  (ds.foldl (fun n c => n * 8 + (c.toNat - 48)) 0, cs.drop ds.length)

/-- The byte of an escape with one letter. -/
def letterEscape? (c : Char) : Option UInt8 :=
  match c with
  | 'a' => some 7
  | 'b' => some 8
  | 't' => some 9
  | 'n' => some 10
  | 'v' => some 11
  | 'f' => some 12
  | 'r' => some 13
  | '\\' => some 92
  | '"' => some 34
  | '\'' => some 39
  | _ => none

/-- The bytes of an escape from behind its backslash, and what follows it. -/
def escapeBytes (c : Char) (cs : List Char) : List UInt8 × List Char :=
  if '0' ≤ c && c ≤ '7' then
    let (n, rest) := octal (c :: cs)
    ([UInt8.ofNat n], rest)
  else match letterEscape? c with
    | some b => ([b], cs)
    | none => (Text.encode ['\\', c], cs)

/-- A text with its escapes replaced; at most `fuel` characters of it. -/
def unescape : Nat → List Char → List UInt8
  | 0, _ => []
  | _, [] => []
  | fuel + 1, '\\' :: c :: cs =>
    let (bytes, rest) := escapeBytes c cs
    bytes ++ unescape fuel rest
  | fuel + 1, c :: cs => Text.encode [c] ++ unescape fuel cs

/-- The text of an argument as a letter asks for it. -/
def argumentBytes (letter : Char) (arg : String) : List UInt8 :=
  match letter with
  | 'd' | 'i' | 'u' => Text.toBytes (toString ((Decimal.intText? arg.toList).getD 0))
  | 'c' => Text.encode (arg.toList.take 1)
  | 'b' => unescape arg.length arg.toList
  | _ => Text.toBytes arg

/-- Goes through a format once; gives the bytes and the arguments that are left. -/
def formatOnce : Nat → List Char → List String → List UInt8 × List String
  | 0, _, args => ([], args)
  | _, [], args => ([], args)
  | fuel + 1, '\\' :: c :: cs, args =>
    let (bytes, rest) := escapeBytes c cs
    let (more, args) := formatOnce fuel rest args
    (bytes ++ more, args)
  | fuel + 1, '%' :: c :: cs, args =>
    if c = '%' then
      let (more, args) := formatOnce fuel cs args
      (37 :: more, args)
    else
      let (more, left) := formatOnce fuel cs args.tail
      (argumentBytes c (args.headD "") ++ more, left)
  | fuel + 1, c :: cs, args =>
    let (more, args) := formatOnce fuel cs args
    (Text.encode [c] ++ more, args)

/-- Goes through a format as long as it uses arguments up. -/
def formatAll (format : List Char) : Nat → List String → List UInt8
  | 0, _ => []
  | fuel + 1, args =>
    let (bs, left) := formatOnce format.length format args
    if left.isEmpty ∨ left.length = args.length then bs else bs ++ formatAll format fuel left

/-- Writes by a format. -/
def printf (args : List String) : List UInt8 :=
  let args := if args.head? = some "--" then args.tail else args
  match args with
  | [] => []
  | format :: args => formatAll format.toList (args.length + 1) args

/-! ## Substitution -/

/-- Replaces what an expression finds, the first time or each time. -/
def replace (r : Regex) (new : List Char) (everywhere : Bool) : Nat → List Char → List Char
  | 0, cs => cs
  | fuel + 1, cs => match r.search cs with
    | none => cs
    | some (front, found, rest) =>
      let middle := new.flatMap fun c => if c = '&' then found else [c]
      match everywhere, found, rest with
      | false, _, _ => front ++ middle ++ rest
      | true, [], [] => front ++ middle
      | true, [], c :: rest => front ++ middle ++ c :: replace r new everywhere fuel rest
      | true, _ :: _, _ => front ++ middle ++ replace r new everywhere fuel rest

/-- A text up to a mark, and what follows it. -/
def upTo (mark : Char) : List Char → List Char × List Char
  | [] => ([], [])
  | '\\' :: c :: cs =>
    if c = mark then
      let (a, b) := upTo mark cs
      (c :: a, b)
    else
      let (a, b) := upTo mark cs
      ('\\' :: c :: a, b)
  | c :: cs =>
    if c = mark then ([], cs)
    else
      let (a, b) := upTo mark cs
      (c :: a, b)

/-- Replaces as a command of the form `s,old,new,` says, line by line. -/
def substitute (command : List Char) (input : List Char) : Option (List Char) :=
  match command with
  | 's' :: mark :: cs =>
    let (old, cs) := upTo mark cs
    let (new, flags) := upTo mark cs
    let r := Regex.ofChars old
    let one (line : List Char) : List Char := replace r new (flags.contains 'g') (line.length + 1) line
    let pieces := input.splitOnP (· = '\n')
    if input.isEmpty then some []
    else if pieces.getLast? = some [] then
      some (pieces.dropLast.flatMap fun l => one l ++ ['\n'])
    else some (['\n'].intercalate (pieces.map one))
  | _ => none

/-! ## Conditions -/

/-- The answer of a condition. -/
def condition (files : Files) (dir : Place) : List String → Bool
  | ["!", x] => x.isEmpty
  | ["-n", x] => !x.isEmpty
  | ["-z", x] => x.isEmpty
  | ["-f", x] => (files.read? dir x).isSome
  | ["-d", x] => files.isDirectory dir x
  | ["-e", x] => (files.read? dir x).isSome || files.isDirectory dir x
  | ["-s", x] => (files.read? dir x).any fun bs => !bs.isEmpty
  | [x] => !x.isEmpty
  | [x, "=", y] => x = y
  | [x, "!=", y] => x ≠ y
  | [x, op, y] =>
    match Decimal.intText? x.toList, Decimal.intText? y.toList with
    | some a, some b => match op with
      | "-eq" => a = b
      | "-ne" => a ≠ b
      | "-lt" => a < b
      | "-le" => a ≤ b
      | "-gt" => b < a
      | "-ge" => b ≤ a
      | _ => false
    | _, _ => false
  | "!" :: rest => !condition files dir rest
  | _ => false

/-! ## The tools -/

/-- Writes the content of files, or the input. -/
def concatenate (c : Call) : Result :=
  let step (r : Result) (name : String) : Result :=
    if name = "-" then { r with out := r.out ++ c.input }
    else match c.files.read c.dir name with
      | .ok bytes => { r with out := r.out ++ bytes }
      | .error e =>
        let reason := (e.text.splitOn " (os").headD ""
        { r with status := 1, err := r.err ++ Text.toBytes ("cat: " ++ name ++ ": " ++ reason ++ "\n") }
  (if c.args.isEmpty then ["-"] else c.args).foldl step { files := c.files }

/-- Changes files one after the other. -/
def changeFiles (c : Call) (change : Files → String → Except FileError Files) : Result :=
  let step (r : Result) (name : String) : Result :=
    match change r.files name with
    | .ok files => { r with files }
    | .error _ => { r with status := 1 }
  (c.args.filter fun a => !"-".isPrefixOf a).foldl step { files := c.files }

/-- A tool by its name. -/
def tool? (name : String) : Option (Call → Result) :=
  match name with
  | "true" | ":" | "sleep" | "sync" => some fun c => { files := c.files }
  | "false" => some fun c => { files := c.files, status := 1 }
  | "echo" => some fun c =>
    let (args, ending) := if c.args.head? = some "-n" then (c.args.tail, "") else (c.args, "\n")
    { files := c.files, out := Text.toBytes (String.intercalate " " args ++ ending) }
  | "printf" => some fun c => { files := c.files, out := printf c.args }
  | "cat" => some concatenate
  | "pwd" => some fun c =>
    { files := c.files, out := Text.toBytes ("/" ++ String.intercalate "/" c.dir ++ "\n") }
  | "sed" => some fun c =>
    let command := (c.args.filter (· ≠ "-e")).headD ""
    match substitute command.toList (Text.decode c.input) with
    | some text => { files := c.files, out := Text.encode text }
    | none => { files := c.files, status := 1 }
  | "test" => some fun c => { files := c.files, status := if condition c.files c.dir c.args then 0 else 1 }
  | "[" => some fun c =>
    { files := c.files, status := if condition c.files c.dir c.args.dropLast then 0 else 1 }
  | "touch" => some fun c => changeFiles c fun fs n => fs.append c.dir n []
  | "rm" => some fun c => changeFiles c fun fs n => fs.remove c.dir n
  | "mkdir" => some fun c => changeFiles c fun fs n => fs.makeDirectories c.dir n
  | _ => none

end DrainGuard.Shell
