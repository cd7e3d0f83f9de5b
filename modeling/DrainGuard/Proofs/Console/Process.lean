import Mathlib.Algebra.GroupWithZero.Nat
import DrainGuard.Host.Station
import DrainGuard.Proofs.Calls
import DrainGuard.Proofs.Decimal.Numerals
import DrainGuard.Proofs.Text.Utf8
import DrainGuard.Proofs.Text.Words

/-!
# The process to wait for

Which process a console in tmux waits for: what the process file holds, what tmux tells about the
pane and what the list of children holds, each taken apart without the functions that read them.

- **Numbers** (`Numbers`, `processNumber?_eq_some_iff`): the words that are process numbers.
- **Panes** (`Pane.Told`, `Pane.Awaits`): the number and the name that are told about a pane, and
  the process to wait for there. A number and a name are told apart again (`Pane.ofText?_told`).
- **Runs of tmux** (`Tmux.Answers`, `Tmux.locateInPane_makes`): one run of tmux, and what its end
  says.
- **Files** (`Tmux.NamedIn`, `Tmux.locate_named`, `Tmux.locate_unnamed`): a number in the file is
  taken without a run of tmux.
- **The process** (`Tmux.locate_process`): the file, then the pane. There is no process exactly if
  tmux knows of no such pane.
-/

namespace DrainGuard

open Text

variable {cs w out command : List Char} {pid : Nat}

/-! ## Numbers -/

/-- A word that is the number of a process: decimal digits, a plus sign allowed, with a value from 1
to 2^32 - 1. -/
def Numbers (w : List Char) (pid : Nat) : Prop :=
  ∃ ds, (w = ds ∨ w = '+' :: ds) ∧ ds ≠ [] ∧ (∀ c ∈ ds, c.isDigit = true) ∧
    Decimal.value ds = pid ∧ 1 ≤ pid ∧ pid < 2 ^ 32

theorem processNumber?_eq_some_iff : processNumber? cs = some pid ↔ Numbers (trimList cs) pid := by
  simp only [processNumber?, Option.filter_eq_some_iff, Decimal.natText?_eq_some_iff, Numbers,
    decide_eq_true_eq]
  constructor
  · rintro ⟨⟨ds, hcs, hne, hd, hv, hle⟩, hpos⟩
    exact ⟨ds, hcs, hne, hd, hv, hpos, Nat.lt_succ_of_le hle⟩
  · rintro ⟨ds, hcs, hne, hd, hv, hpos, hlt⟩
    exact ⟨⟨ds, hcs, hne, hd, hv, Nat.le_of_lt_succ hlt⟩, hpos⟩

theorem Numbers.bounds (h : Numbers w pid) : 1 ≤ pid ∧ pid < 2 ^ 32 := by
  obtain ⟨_, -, -, -, -, hbounds⟩ := h
  exact hbounds

theorem Numbers.solid (h : Numbers w pid) : Solid w := by
  obtain ⟨ds, rfl | rfl, -, hd, -⟩ := h
  · exact fun c hc => Decimal.not_isBlank_of_isDigit (hd c hc)
  · intro c hc
    rcases List.mem_cons.mp hc with rfl | hc
    · decide
    · exact Decimal.not_isBlank_of_isDigit (hd c hc)

theorem processNumber?_word (h : Solid w) : processNumber? w = some pid ↔ Numbers w pid := by
  rw [processNumber?_eq_some_iff, trimList_eq_self h.trimmed]

theorem numbers_toDigits (hpos : 1 ≤ pid) (hlt : pid < 2 ^ 32) :
    Numbers (Nat.toDigits 10 pid) pid :=
  ⟨_, .inl rfl, Nat.toDigits_ne_nil,
    fun _ hc => Nat.isDigit_of_mem_toDigits (by decide) (by decide) hc,
    Decimal.value_toDigits pid, hpos, hlt⟩

/-! ## Panes -/

namespace Pane

/-- What is told about a pane: first the number of the process in it, then the name of the
program. -/
def Told (out : List Char) (p : Pane) : Prop :=
  ∃ w rest, Leads out w rest ∧ Numbers w p.pid ∧ trimList rest = p.command

theorem ofText?_leads {w rest : List Char} (h : Leads cs w rest) :
    ofText? cs = (processNumber? w).map fun pid => ⟨pid, trimList rest⟩ := by
  obtain ⟨b, -, hb, -⟩ := exists_trimEndList rest
  have hhead : ∀ c ∈ (trimEndList rest).head?, isBlank c = true := fun c hc => h.2.2.1 c (by
    rw [hb, List.head?_append, hc]
    rfl)
  have hspan : (trimList cs).span (!isBlank ·) = (w, trimEndList rest) := by
    rw [h.trimList_eq, span_append h.2.1 hhead]
  have hrest : trimList ((trimEndList rest).drop 1) = trimList rest := by
    rw [trimList_drop hhead, trimList_trimEndList]
  unfold ofText?
  rw [hspan]
  dsimp only
  rw [hrest]

theorem ofText?_blanks (h : Blanks cs) : ofText? cs = none := by
  rw [ofText?, trimList_blanks h]
  rfl

theorem ofText?_eq_some_iff {p : Pane} : ofText? cs = some p ↔ Told cs p := by
  constructor
  · intro h
    rcases blanks_or_leads cs with hblanks | ⟨w, rest, hleads⟩
    · rw [ofText?_blanks hblanks] at h
      cases h
    · rw [ofText?_leads hleads] at h
      obtain ⟨pid, hpid, rfl⟩ := Option.map_eq_some_iff.mp h
      exact ⟨w, rest, hleads, (processNumber?_word hleads.2.1).mp hpid, rfl⟩
  · rintro ⟨w, rest, hleads, hpid, hcommand⟩
    rw [ofText?_leads hleads, (processNumber?_word hpid.solid).mpr hpid, Option.map_some, hcommand]

/-- Only the first word of what is told can be the number of the process. -/
theorem ofText?_eq_none_iff : ofText? cs = none ↔
    ∀ w rest pid, Leads cs w rest → ¬ Numbers w pid := by
  constructor
  · intro h w rest pid hleads hpid
    have hsome : ofText? cs = some ⟨pid, trimList rest⟩ :=
      ofText?_eq_some_iff.mpr ⟨w, rest, hleads, hpid, rfl⟩
    cases h.symm.trans hsome
  · intro h
    cases hp : ofText? cs with
    | none => rfl
    | some p =>
      obtain ⟨w, rest, hleads, hpid, -⟩ := ofText?_eq_some_iff.mp hp
      exact absurd hpid (h w rest p.pid hleads)

/-- A number and a name with a blank between them are taken apart again. -/
theorem ofText?_told {a b : List Char} (hpos : 1 ≤ pid) (hlt : pid < 2 ^ 32)
    (hcommand : Trimmed command) (ha : Blanks a) (hb : Blanks b) :
    ofText? (a ++ Nat.toDigits 10 pid ++ ' ' :: command ++ b) = some ⟨pid, command⟩ := by
  have hnumber := numbers_toDigits hpos hlt
  refine ofText?_eq_some_iff.mpr ⟨_, ' ' :: command ++ b, ?_, hnumber, ?_⟩
  · refine ⟨Nat.toDigits_ne_nil, hnumber.solid, ?_, a, ha, List.append_assoc ..⟩
    rintro _ ⟨⟩
    decide
  · exact trimList_append (a := [' ']) (List.forall_mem_singleton.mpr (by decide)) hb hcommand

/-- A shell, with dashes in front of its name or without. -/
def NamesShell (command : List Char) : Prop :=
  ∃ name ∈ shells, ∃ dashes, (∀ c ∈ dashes, c = '-') ∧ command = dashes ++ name.toList

theorem isShell_iff {p : Pane} : p.isShell = true ↔ NamesShell p.command := by
  have hname : ∀ name ∈ shells, name.toList.dropWhile (· = '-') = name.toList := by decide
  rw [isShell, List.contains_iff_mem]
  constructor
  · intro h
    refine ⟨_, h, p.command.takeWhile (· = '-'), fun c hc => ?_, ?_⟩
    · exact of_decide_eq_true (List.all_eq_true.mp List.all_takeWhile c hc)
    · rw [String.toList_ofList, List.takeWhile_append_dropWhile]
  · rintro ⟨name, hshell, dashes, hdashes, hcommand⟩
    rw [hcommand, List.dropWhile_append_of_pos fun c hc => decide_eq_true (hdashes c hc),
      hname name hshell, String.ofList_toList]
    exact hshell

/-- The first word of a list of children that is the number of a process. -/
def FirstChild (children : List Char) (pid : Nat) : Prop :=
  ∃ before w after, Splits children (before ++ w :: after) ∧ Numbers w pid ∧
    ∀ v ∈ before, ∀ n, ¬ Numbers v n

/-- The process to wait for: in a pane with a shell it is the first child, if one is listed. -/
def Awaits (p : Pane) (children : Option String) (pid : Nat) : Prop :=
  (NamesShell p.command ∧ ∃ list ∈ children, FirstChild list.toList pid) ∨
    pid = p.pid ∧ ¬ (NamesShell p.command ∧ ∃ n, ∃ list ∈ children, FirstChild list.toList n)

theorem firstChild_iff : FirstChild cs pid ↔ (words cs).findSome? processNumber? = some pid := by
  have hsolid : ∀ v ∈ words cs, Solid v := (splits_iff.mpr rfl).solid
  rw [List.findSome?_eq_some_iff]
  constructor
  · rintro ⟨before, w, after, hsplits, hpid, hbefore⟩
    have hwords := splits_iff.mp hsplits
    refine ⟨before, w, after, hwords, (processNumber?_word hpid.solid).mpr hpid, fun v hv => ?_⟩
    cases hn : processNumber? v with
    | none => rfl
    | some n =>
      exact absurd ((processNumber?_word (hsolid v (hwords ▸ by simp [hv]))).mp hn) (hbefore v hv n)
  · rintro ⟨before, w, after, hwords, hpid, hbefore⟩
    refine ⟨before, w, after, splits_iff.mpr hwords, ?_, fun v hv n hn => ?_⟩
    · exact (processNumber?_word (hsolid w (hwords ▸ by simp))).mp hpid
    · cases (hbefore v hv).symm.trans ((processNumber?_word hn.solid).mpr hn)

theorem process_eq_iff {p : Pane} {children : Option String} :
    p.process children = pid ↔ p.Awaits children pid := by
  have hchild {n : Nat} : (children.bind fun t => (words t.toList).findSome? processNumber?) =
      some n ↔ ∃ list ∈ children, FirstChild list.toList n := by
    simp only [Option.bind_eq_some_iff, firstChild_iff, Option.mem_def]
  simp only [process, Awaits, ← isShell_iff, ← hchild]
  cases hshell : p.isShell with
  | false => simp [eq_comm]
  | true =>
    cases hc : children.bind fun t => (words t.toList).findSome? processNumber? with
    | some child => simp
    | none => simp [eq_comm]

end Pane

/-! ## Runs of tmux -/

namespace Tmux

variable {σ : Type}

/-- The console with a record of the runs of tmux and of how they ended. -/
def recorded (t : Tmux σ) : Tmux (σ × List (List String × Except StartError Output)) where
  binary := t.binary
  target := t.target
  run := recording t.run
  pidFile w := t.pidFile w.1
  children pid w := t.children pid w.1
  alive pid w := t.alive pid w.1

/-- A console that reads the number of the process from a file, if there is one to read. -/
def reading (t : Tmux σ) (path : Option String) (read : String → σ → Option (List UInt8)) :
    Tmux σ where
  binary := t.binary
  target := t.target
  run := t.run
  pidFile w := path.bind fun p => ((read p w).bind Text.decode?).map String.ofList
  children := t.children
  alive := t.alive

/-- What the answer of tmux tells of the process to wait for, where the children of processes are as
they are listed in the world. -/
inductive Answers (t : Tmux σ) (w : σ) :
    Except StartError Output → Except Failure (Option Nat) → Prop where
  /-- It did not start. -/
  | silent (e : StartError) (m : String) : Answers t w (.error e) (.error (t.unavailable m))
  /-- It knows of no such pane. -/
  | absent {o : Output} (h : o.status ≠ .code 0) : Answers t w (.ok o) (.ok none)
  /-- It did not tell a process. -/
  | garbled {o : Output} (h : o.status = .code 0)
    (hno : ∀ w rest pid, Leads (decode o.out) w rest → ¬ Numbers w pid) (m : String) :
    Answers t w (.ok o) (.error (t.unavailable m))
  /-- It told a pane. -/
  | told {o : Output} (h : o.status = .code 0) {p : Pane} (hp : p.Told (decode o.out)) {pid : Nat}
    (hpid : p.Awaits (t.children p.pid w) pid) : Answers t w (.ok o) (.ok (some pid))

theorem output_makes (t : Tmux σ) (args : List String) (w : σ) :
    Makes (t.output args) (t.recorded.output args) w [(args, (t.run args w).1)]
      ((t.run args w).1.mapError fun e =>
        t.unavailable ("failed to run " ++ t.binary ++ ": " ++ e.text))
      (t.run args w).2 where
  plain := by
    show t.output args w = _
    unfold output
    rcases t.run args w with ⟨e | o, w'⟩ <;> rfl
  recorded before := by
    have hcall : t.recorded.run args (w, before) = ((t.run args w).1,
        (t.run args w).2, before ++ [(args, (t.run args w).1)]) := rfl
    show t.recorded.output args (w, before) = _
    rw [output, hcall]
    rcases t.run args w with ⟨e | o, w'⟩ <;> rfl

/-- What is made of the output of tmux, where the children of processes are as they are listed in
the world. -/
def outcomeOf (t : Tmux σ) (o : Output) (w : σ) : Except Failure (Option Nat) :=
  if o.status.isSuccess then
    (Pane.ofText? (decode o.out)).elim
      (.error (t.unavailable
        ("unexpected pane info '" ++ String.ofList (trimList (decode o.out)) ++ "'")))
      fun p => .ok (some (p.process (t.children p.pid w)))
  else .ok none

theorem locateInPane_eq (t : Tmux σ) : t.locateInPane =
    t.output t.asking >>= fun o => ExceptT.mk fun w => (t.outcomeOf o w, w) := by
  refine congrArg (t.output t.asking >>= ·) (funext fun o => ?_)
  simp only [outcomeOf]
  cases o.status.isSuccess with
  | false => rfl
  | true => cases Pane.ofText? (decode o.out) <;> rfl

theorem answers_outcomeOf (t : Tmux σ) (o : Output) (w : σ) :
    t.Answers w (.ok o) (t.outcomeOf o w) := by
  unfold outcomeOf
  split
  · next h =>
    have hcode := of_decide_eq_true h
    cases hp : Pane.ofText? (decode o.out) with
    | none => exact .garbled hcode (Pane.ofText?_eq_none_iff.mp hp) _
    | some p => exact .told hcode (Pane.ofText?_eq_some_iff.mp hp) (Pane.process_eq_iff.mp rfl)
  · next h => exact .absent fun hcode => h (decide_eq_true hcode)

theorem locateInPane_makes (t : Tmux σ) (w : σ) : ∃ r,
    Makes t.locateInPane t.recorded.locateInPane w [(t.asking, (t.run t.asking w).1)] r
      (t.run t.asking w).2 ∧ t.Answers (t.run t.asking w).2 (t.run t.asking w).1 r := by
  have hmakes := t.output_makes t.asking w
  rw [locateInPane_eq, locateInPane_eq]
  generalize (t.run t.asking w).2 = w' at hmakes ⊢
  cases ha : (t.run t.asking w).1 with
  | error e =>
    rw [ha] at hmakes
    exact ⟨_, hmakes.bind_error, .silent e _⟩
  | ok o =>
    rw [ha] at hmakes
    have hpick : Makes (ExceptT.mk fun w => (t.outcomeOf o w, w))
        (ExceptT.mk fun w => (t.recorded.outcomeOf o w, w)) w' [] (t.outcomeOf o w') w' := by
      refine ⟨rfl, fun before => ?_⟩
      rw [List.append_nil]
      rfl
    exact ⟨_, hmakes.bind hpick, t.answers_outcomeOf o w'⟩

/-! ## Files -/

/-- The file names the process: it holds the bytes of a text with a process number between
blanks. -/
def NamedIn (path : Option String) (read : String → σ → Option (List UInt8)) (w : σ) (pid : Nat) :
    Prop :=
  ∃ p ∈ path, ∃ text, read p w = some (encode text) ∧ Numbers (trimList text) pid

theorem locate_of_some {t : Tmux σ} {w : σ}
    (h : ((t.pidFile w).bind fun text => processNumber? text.toList) = some pid) :
    t.locate.run w = (.ok (some pid), w) := by
  have hget : (get : ExceptT Failure (StateM σ) σ).run w = (.ok w, w) := rfl
  rw [locate, run_bind_ok hget, h]
  rfl

theorem locate_of_none {t : Tmux σ} {w : σ}
    (h : ((t.pidFile w).bind fun text => processNumber? text.toList) = none) :
    t.locate.run w = t.locateInPane.run w := by
  have hget : (get : ExceptT Failure (StateM σ) σ).run w = (.ok w, w) := rfl
  rw [locate, run_bind_ok hget, h]

section Reading

variable {t : Tmux σ} {path : Option String} {read : String → σ → Option (List UInt8)} {w : σ}

theorem namedIn_iff : NamedIn path read w pid ↔
    (((t.reading path read).pidFile w).bind fun text => processNumber? text.toList) = some pid := by
  simp only [NamedIn, reading, Option.bind_eq_some_iff, Option.map_eq_some_iff,
    decode?_eq_some_iff, processNumber?_eq_some_iff, Option.mem_def]
  constructor
  · rintro ⟨p, hp, text, hread, hpid⟩
    refine ⟨_, ⟨p, hp, text, ⟨_, hread, rfl⟩, rfl⟩, ?_⟩
    rwa [String.toList_ofList]
  · rintro ⟨_, ⟨p, hp, text, ⟨_, hread, rfl⟩, rfl⟩, hpid⟩
    rw [String.toList_ofList] at hpid
    exact ⟨p, hp, text, hread, hpid⟩

theorem locate_named (h : NamedIn path read w pid) : Makes (t.reading path read).locate
    (t.reading path read).recorded.locate w [] (.ok (some pid)) w where
  plain := locate_of_some (namedIn_iff.mp h)
  recorded before := by
    rw [List.append_nil]
    exact locate_of_some (namedIn_iff (t := t).mp h)

theorem locate_unnamed (h : ∀ pid, ¬ NamedIn path read w pid) {r : Except Failure (Option Nat)}
    {w' : σ} {log : List (List String × Except StartError Output)}
    (hm : Makes (t.reading path read).locateInPane (t.reading path read).recorded.locateInPane w log
      r w') :
    Makes (t.reading path read).locate (t.reading path read).recorded.locate w log r w' := by
  have hnone : (((t.reading path read).pidFile w).bind fun text => processNumber? text.toList) =
      none := Option.eq_none_iff_forall_ne_some.mpr fun pid hpid => h pid (namedIn_iff.mpr hpid)
  exact ⟨(locate_of_none hnone).trans hm.plain, fun before =>
    (locate_of_none (w := (w, before)) hnone).trans (hm.recorded before)⟩

end Reading

/-! ## The process -/

/-- What is found, by what became of the run of tmux. -/
structure Located (t : Tmux σ) (w : σ) (answer : Except StartError Output)
    (r : Except Failure (Option Nat)) : Prop where
  unavailable : (∃ m, r = .error (.channelUnavailable t.target m)) ↔ (∃ e, answer = .error e) ∨
    ∃ o, answer = .ok o ∧ o.status = .code 0 ∧
      ∀ word rest n, Leads (decode o.out) word rest → ¬ Numbers word n
  absent : r = .ok none ↔ ∃ o, answer = .ok o ∧ o.status ≠ .code 0
  told : ∀ pid, r = .ok (some pid) ↔ ∃ (o : Output) (p : Pane), answer = .ok o ∧
    o.status = .code 0 ∧ p.Told (decode o.out) ∧ p.Awaits (t.children p.pid w) pid
  failure : ∀ f, r = .error f → ∃ m, f = .channelUnavailable t.target m

theorem Answers.located {t : Tmux σ} {w : σ} {answer : Except StartError Output}
    {r : Except Failure (Option Nat)} (h : t.Answers w answer r) : t.Located w answer r := by
  cases h with
  | silent e m => constructor <;> simp [Tmux.unavailable]
  | absent h => constructor <;> simp [h]
  | @garbled o h hno m =>
    have hnone (p : Pane) : ¬ p.Told (decode o.out) := by
      rintro ⟨word, rest, hleads, hpid, -⟩
      exact hno word rest p.pid hleads hpid
    constructor <;> simp [h, hnone, Tmux.unavailable]
    exact hno
  | @told o h p hp pid hpid =>
    have hsome : ¬ ∀ word rest n, Leads (decode o.out) word rest → ¬ Numbers word n := by
      obtain ⟨word, rest, hleads, hpid, -⟩ := hp
      exact fun hno => hno word rest p.pid hleads hpid
    have hunique (n : Nat) : pid = n ↔
        ∃ p', Pane.Told (decode o.out) p' ∧ p'.Awaits (t.children p'.pid w) n := by
      constructor
      · rintro rfl
        exact ⟨p, hp, hpid⟩
      · rintro ⟨p', hp', hpid'⟩
        cases (Pane.ofText?_eq_some_iff.mpr hp).symm.trans (Pane.ofText?_eq_some_iff.mpr hp')
        exact (Pane.process_eq_iff.mpr hpid).symm.trans (Pane.process_eq_iff.mpr hpid')
    constructor <;> simp [h, hsome, hunique]

theorem Answers.bounds {t : Tmux σ} {w : σ} {answer : Except StartError Output}
    (h : t.Answers w answer (.ok (some pid))) : 1 ≤ pid ∧ pid < 2 ^ 32 := by
  cases h with
  | told h hp hpid =>
    rcases hpid with ⟨-, list, -, before, word, after, -, hnumber, -⟩ | ⟨rfl, -⟩
    · exact hnumber.bounds
    · obtain ⟨word, rest, -, hnumber, -⟩ := hp
      exact hnumber.bounds

/-- The process to wait for is the one that the file names, and tmux is not run then. Otherwise tmux
is run once, and what becomes of that decides. A process number is never zero, and it is told apart
from the name of the program behind it. -/
theorem locate_process (t : Tmux σ) (path : Option String)
    (read : String → σ → Option (List UInt8)) (w : σ) :
    (∀ pid, NamedIn path read w pid → Makes (t.reading path read).locate
      (t.reading path read).recorded.locate w [] (.ok (some pid)) w) ∧
    ((∀ pid, ¬ NamedIn path read w pid) → ∃ r, Makes (t.reading path read).locate
      (t.reading path read).recorded.locate w [(t.asking, (t.run t.asking w).1)] r
        (t.run t.asking w).2 ∧
        (t.reading path read).Located (t.run t.asking w).2 (t.run t.asking w).1 r) ∧
    (∀ pid w', (t.reading path read).locate.run w = (.ok (some pid), w') → 1 ≤ pid ∧ pid < 2 ^ 32) ∧
    ∀ pid command, 1 ≤ pid → pid < 2 ^ 32 → Trimmed command → ∀ a b, Blanks a → Blanks b →
      Pane.ofText? (a ++ Nat.toDigits 10 pid ++ ' ' :: command ++ b) = some ⟨pid, command⟩ := by
  have hdecides (h : ∀ pid, ¬ NamedIn path read w pid) : ∃ r, Makes (t.reading path read).locate
      (t.reading path read).recorded.locate w [(t.asking, (t.run t.asking w).1)] r
        (t.run t.asking w).2 ∧
        (t.reading path read).Answers (t.run t.asking w).2 (t.run t.asking w).1 r := by
    obtain ⟨r, hmakes, hanswers⟩ := (t.reading path read).locateInPane_makes w
    exact ⟨r, locate_unnamed h hmakes, hanswers⟩
  refine ⟨fun pid h => locate_named h, fun h => ?_, fun pid w' h => ?_, fun pid command hpos hlt
    hcommand a b ha hb => Pane.ofText?_told hpos hlt hcommand ha hb⟩
  · obtain ⟨r, hmakes, hanswers⟩ := hdecides h
    exact ⟨r, hmakes, hanswers.located⟩
  · by_cases hnamed : ∃ pid, NamedIn path read w pid
    · obtain ⟨pid', hpid'⟩ := hnamed
      cases h.symm.trans (locate_named hpid').plain
      obtain ⟨p, -, text, -, hnumber⟩ := hpid'
      exact hnumber.bounds
    · obtain ⟨r, hmakes, hanswers⟩ := hdecides fun pid' hpid' => hnamed ⟨pid', hpid'⟩
      cases h.symm.trans hmakes.plain
      exact hanswers.bounds

end Tmux

/-- The console of a server reads the file on its machine. -/
theorem Machine.tmux_eq_reading (s : ControlSettings) (path : Option String) :
    Machine.tmux s path = (Machine.tmux s none).reading path fun p m => m.read? p := rfl

end DrainGuard
