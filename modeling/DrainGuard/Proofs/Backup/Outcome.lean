import DrainGuard.Host.Station
import DrainGuard.Proofs.Text.Lines

/-!
# What a run of the backup agent comes to

A run is a success if the agent ends with status 0. Of any other run one line of its output is told,
whatever the bytes are that it wrote.

- **Last lines** (`Output.lastLine?_append_spaces`, `Output.lastLine?_front`): spaces behind an output
  and lines before it make no difference.
- **Details** (`Output.Detailed`, `Output.detailed_detail`): the line that is told. It is never empty
  and never broken (`Output.Detailed.presentable`).
- **Outcomes** (`BackupSettings.outcome_success_iff`, `BackupSettings.outcome_detailed`).
-/

namespace DrainGuard

open Text

namespace Output

variable {o : Output} {l : List Char} {bytes : List UInt8}

/-! ## Last lines -/

theorem lastLine?_eq_some_iff : lastLine? bytes = some l ↔ LastLine (decode bytes) l :=
  Text.lastLine?_eq_some_iff

/-- Spaces behind an output make no difference to its last line. -/
theorem lastLine?_append_spaces (bytes : List UInt8) {ws : List UInt8}
    (hws : ∀ x ∈ ws, IsSpace x) : lastLine? (bytes ++ ws) = lastLine? bytes := by
  rw [lastLine?, decode_append_spaces bytes hws, lastLine?_append_blanks (decode_blanks hws)]
  rfl

/-- Whole lines before an output make no difference to its last line, if it has one. -/
theorem lastLine?_front {front : List UInt8} (hfront : front.getLast? = some 0x0A)
    (hbytes : ¬Blanks (decode bytes)) : lastLine? (front ++ bytes) = lastLine? bytes := by
  obtain ⟨lines, rfl⟩ := List.getLast?_eq_some_iff.mp hfront
  rcases blanks_or_lastLine (decode bytes) with hblanks | ⟨l, hl⟩
  · exact absurd hblanks hbytes
  · rw [List.append_assoc, List.singleton_append, lastLine?, decode_break,
      (hl.prepend (decode lines)).lastLine?_eq, lastLine?, hl.lastLine?_eq]

/-! ## Details -/

/-- The line of an output that is told: the last one about errors; if there is none, the last one at
all; and if there is none either, that there is no output. -/
inductive Detailed (o : Output) : List Char → Prop where
  | err {l : List Char} (h : LastLine (decode o.err) l) : Detailed o l
  | out {l : List Char} (herr : Blanks (decode o.err)) (h : LastLine (decode o.out) l) :
      Detailed o l
  | silent (herr : Blanks (decode o.err)) (hout : Blanks (decode o.out)) :
      Detailed o "no output".toList

theorem detailed_detail (o : Output) : Detailed o o.detail.toList := by
  unfold detail
  rcases blanks_or_lastLine (decode o.err) with herr | ⟨l, hl⟩
  · rw [lastLine?, lastLine?_blanks herr, Option.none_or]
    rcases blanks_or_lastLine (decode o.out) with hout | ⟨l, hl⟩
    · rw [lastLine?, lastLine?_blanks hout]
      exact .silent herr hout
    · rw [lastLine?, hl.lastLine?_eq, Option.map_some, Option.getD_some, String.toList_ofList]
      exact .out herr hl
  · rw [lastLine?, hl.lastLine?_eq, Option.some_or, Option.map_some, Option.getD_some,
      String.toList_ofList]
    exact .err hl

/-- What is told of an output is not empty, has no blanks around it and is on one line. -/
theorem Detailed.presentable (h : Detailed o l) : l ≠ [] ∧ Trimmed l ∧ '\n' ∉ l := by
  cases h with
  | err h => exact ⟨h.1, h.2.1, h.2.2.1⟩
  | out _ h => exact ⟨h.1, h.2.1, h.2.2.1⟩
  | silent _ _ =>
    refine ⟨by simp, ⟨?_, ?_⟩, by simp⟩
    · rintro c ⟨⟩
      decide
    · rintro c ⟨⟩
      decide

end Output

namespace BackupSettings

variable {s : BackupSettings} {mode : BackupMode}

/-! ## Outcomes -/

theorem outcome_success_iff {answer : Except StartError Output} :
    s.outcome mode answer = .success ↔ ∃ o, answer = .ok o ∧ o.status = .code 0 := by
  cases answer with
  | error e => simp [outcome]
  | ok o => by_cases h : o.status = .code 0 <;> simp [outcome, ExitStatus.isSuccess, h]

theorem outcome_of_ne {o : Output} (h : o.status ≠ .code 0) :
    s.outcome mode (.ok o) = .failure (s.command ++ " " ++ s.action mode ++ " exited with " ++
      o.status.text ++ ": " ++ o.detail) := by
  have hs : o.status.isSuccess = false := decide_eq_false h
  simp [outcome, hs]

/-- The agent runs in the root directory of the server with the arguments of the settings and the
action of the mode. That is a success exactly if it starts and ends with status 0. With any other
status the failure names the command, the action and the status, and tells one line of the output:
the last one about errors that is not blank, or else the last one at all, without the blanks around
it. Spaces behind an output and lines before it change nothing about its last line, whether or not
the bytes are well-formed. -/
theorem outcome_detailed (s : BackupSettings) (mode : BackupMode) :
    (∀ (root : String) (m : Machine), ((Machine.archiver s root).invoke mode m).1.1 =
      s.outcome mode (m.start (some root) s.command (s.args ++ [s.action mode])).1) ∧
    (∀ answer, s.outcome mode answer = .success ↔ ∃ o, answer = .ok o ∧ o.status = .code 0) ∧
    (∀ o : Output, o.status ≠ .code 0 → ∃ l, o.Detailed l ∧ (l ≠ [] ∧ Trimmed l ∧ '\n' ∉ l) ∧
      s.outcome mode (.ok o) = .failure (s.command ++ " " ++ s.action mode ++ " exited with " ++
        o.status.text ++ ": " ++ String.ofList l)) ∧
    (∀ bytes l, Output.lastLine? bytes = some l ↔ LastLine (Text.decode bytes) l) ∧
    (∀ bytes ws : List UInt8, (∀ x ∈ ws, IsSpace x) →
      Output.lastLine? (bytes ++ ws) = Output.lastLine? bytes) ∧
    ∀ front bytes : List UInt8, front.getLast? = some 0x0A → ¬Blanks (Text.decode bytes) →
      Output.lastLine? (front ++ bytes) = Output.lastLine? bytes := by
  refine ⟨fun root m => rfl, fun answer => outcome_success_iff, fun o h => ?_,
    fun bytes l => Output.lastLine?_eq_some_iff, fun bytes ws => Output.lastLine?_append_spaces bytes,
    fun front bytes => Output.lastLine?_front⟩
  refine ⟨o.detail.toList, o.detailed_detail, o.detailed_detail.presentable, ?_⟩
  rw [outcome_of_ne h, String.ofList_toList]

/-- An agent that wrote half a character, a line that ends in a return, and a blank line. -/
def torn : Output where
  status := .signal 34 true
  err := [0x66, 0x75, 0x6C, 0x6C, 0x20, 0xE2, 0x82, 0x0D, 0x0A, 0x09]

/-- The bytes that are no character are told as one replacement character. More spaces behind the
output make no difference to that, nor does a line of half a character before it. -/
theorem outcome_detailed_torn : torn.status ≠ .code 0 ∧
    ({} : BackupSettings).outcome .preShutdown (.ok torn) = .failure
      "prospector backup_current exited with signal: 34 (core dumped): full \uFFFD" ∧
    torn.Detailed "full \uFFFD".toList ∧
    Output.lastLine? (torn.err ++ [0x20, 0x0B, 0x0A]) = some "full \uFFFD".toList ∧
    Output.lastLine? ([0xE2, 0x0A] ++ torn.err) = some "full \uFFFD".toList := by
  have hline : Output.lastLine? torn.err = some "full \uFFFD".toList := by decide +kernel
  have hstatus : torn.status ≠ .code 0 := by decide
  obtain ⟨-, -, htold, hiff, hspaces, hfront⟩ := outcome_detailed {} .preShutdown
  have hlast := (hiff torn.err _).mp hline
  have hnot : ¬Blanks (Text.decode torn.err) := by
    intro h
    rw [Output.lastLine?, lastLine?_blanks h] at hline
    cases hline
  obtain ⟨l, hl, -, hfailure⟩ := htold torn hstatus
  obtain rfl : l = "full \uFFFD".toList := by
    cases hl with
    | err h => exact Option.some.inj (h.lastLine?_eq.symm.trans hline)
    | out h _ => exact absurd h hnot
    | silent h _ => exact absurd h hnot
  refine ⟨hstatus, hfailure.trans ?_, .err hlast, ?_, ?_⟩
  · decide +kernel
  · rw [hspaces torn.err _ (by simp [IsSpace])]
    exact hline
  · rw [hfront [0xE2, 0x0A] torn.err rfl hnot]
    exact hline

end BackupSettings

end DrainGuard
