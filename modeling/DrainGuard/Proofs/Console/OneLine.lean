import Mathlib.Tactic.SplitIfs
import DrainGuard.Proofs.Console.Lines
import DrainGuard.Proofs.Console.Urgent
import DrainGuard.Proofs.Lifecycle.Log

/-!
# A message is one line

Whatever a message says, the console gets one line for it, and the line sends that message.

- **Written JSON** (`Json.Unbroken`, `unbroken_compact`): a text is written without control
  characters, so no line ends in it.
- **Single lines** (`OneLine`, `singleLine_oneLine`): a text whose line breaks have become blanks.
- **Messages** (`Broadcast.object?`, `Broadcast.Sends`): what a line has to be to send a message.
- **Consoles** (`send_oneLine`): the line of a message sends it before and after it is typed, and
  typing and entering it ends one line at most.
-/

namespace DrainGuard

namespace Json

/-- No control character, and so no line break, is among the characters. -/
def Unbroken (cs : List Char) : Prop := ∀ c ∈ cs, 32 ≤ c.toNat

theorem Unbroken.append {l l' : List Char} (h : Unbroken l) (h' : Unbroken l') :
    Unbroken (l ++ l') := fun c hc => (List.mem_append.mp hc).elim (h c) (h' c)

theorem Unbroken.cons {c : Char} {l : List Char} (hc : 32 ≤ c.toNat) (h : Unbroken l) :
    Unbroken (c :: l) := List.forall_mem_cons.mpr ⟨hc, h⟩

theorem unbroken_nil : Unbroken [] := fun _ h => nomatch h

theorem unbroken_of_all {cs : List Char} (h : cs.all (fun c => decide (32 ≤ c.toNat)) = true) :
    Unbroken cs := fun c hc => of_decide_eq_true (List.all_eq_true.mp h c hc)

/-- The digits of an escape are no control characters. -/
theorem hexDigit_unbroken :
    ∀ n < 32, 32 ≤ (hexDigit (n / 16)).toNat ∧ 32 ≤ (hexDigit (n % 16)).toNat := by
  decide

theorem unbroken_escapeChar (c : Char) : Unbroken (escapeChar c) := by
  have two {e : Char} (he : 32 ≤ e.toNat) : Unbroken ['\\', e] :=
    .cons (by decide) (.cons he unbroken_nil)
  unfold escapeChar
  split_ifs with _ _ _ _ _ _ _ hc
  · exact two (by decide)
  · exact two (by decide)
  · exact two (by decide)
  · exact two (by decide)
  · exact two (by decide)
  · exact two (by decide)
  · exact two (by decide)
  · obtain ⟨h₁, h₂⟩ := hexDigit_unbroken c.toNat hc
    exact .cons (by decide) (.cons (by decide) (.cons (by decide) (.cons (by decide)
      (.cons h₁ (.cons h₂ unbroken_nil)))))
  · exact .cons (Nat.le_of_not_lt hc) unbroken_nil

theorem unbroken_quoteList (cs : List Char) : Unbroken (quoteList cs) := by
  have hbody : Unbroken (cs.flatMap escapeChar) := by
    intro d hd
    obtain ⟨c, -, hd⟩ := List.mem_flatMap.mp hd
    exact unbroken_escapeChar c d hd
  exact .cons (by decide) (hbody.append (.cons (by decide) unbroken_nil))

theorem unbroken_compact {v : Value} (hv : v.Plain) : Unbroken v.compact.toList := by
  cases hv with
  | null => exact unbroken_of_all rfl
  | bool b => cases b <;> exact unbroken_of_all rfl
  | str s =>
    rw [Value.compact, Reader.toList_quote]
    exact unbroken_quoteList s.toList

theorem unbroken_fieldsText (first : Bool) {fs : List (String × Value)}
    (h : ∀ f ∈ fs, f.2.Plain) : Unbroken (Reader.fieldsText first fs) := by
  induction fs generalizing first with
  | nil => exact unbroken_nil
  | cons f fs ih =>
    obtain ⟨hf, hfs⟩ := List.forall_mem_cons.mp h
    have hsep : Unbroken (Reader.separator first) := by
      cases first <;> exact unbroken_of_all rfl
    have hfield : Unbroken (Reader.fieldText f) :=
      (unbroken_quoteList f.1.toList).append (.cons (by decide) (unbroken_compact hf))
    exact (hsep.append hfield).append (ih false hfs)

/-- An object of plain values is written without a line break. -/
theorem unbroken_object {fs : List (String × Value)} (h : ∀ f ∈ fs, f.2.Plain) :
    Unbroken (Value.obj fs).compact.toList := by
  rw [Value.compact, String.toList_append, String.toList_append, Reader.toList_compactFields]
  have hopen : Unbroken "\x7b".toList := unbroken_of_all rfl
  have hclose : Unbroken "\x7d".toList := unbroken_of_all rfl
  exact (hopen.append (unbroken_fieldsText true h)).append hclose

end Json

/-! ## Single lines -/

/-- The character ends a line. -/
def IsBreak (c : Char) : Prop := c = '\r' ∨ c = '\n'

instance (c : Char) : Decidable (IsBreak c) := inferInstanceAs (Decidable (_ ∨ _))

/-- A text on one line: the same text, but that each line break is a blank. -/
def OneLine (text line : List Char) : Prop :=
  List.Forall₂ (fun c d => d = if IsBreak c then ' ' else c) text line

theorem OneLine.not_isBreak {text line : List Char} (h : OneLine text line) :
    ∀ d ∈ line, ¬IsBreak d := by
  induction h with
  | nil => exact fun _ h => nomatch h
  | cons hd _ ih =>
    refine List.forall_mem_cons.mpr ⟨?_, ih⟩
    rw [hd]
    split
    · decide
    · assumption

theorem singleLine_oneLine (text : String) : OneLine text.toList (singleLine text).toList := by
  rw [singleLine, String.toList_ofList]
  exact List.forall₂_map_right_iff.mpr (List.forall₂_same.mpr fun _ _ => rfl)

theorem singleLine_append (a b : String) : singleLine (a ++ b) = singleLine a ++ singleLine b := by
  simp [singleLine]

/-- A text without control characters stays as it is. -/
theorem singleLine_eq_self {text : String} (h : Json.Unbroken text.toList) :
    singleLine text = text := by
  have hsame : ∀ c ∈ text.toList, (if c = '\r' ∨ c = '\n' then ' ' else c) = id c := by
    intro c hc
    have hc := h c hc
    refine if_neg ?_
    rintro (rfl | rfl)
    · exact absurd hc (by decide)
    · exact absurd hc (by decide)
  rw [singleLine, List.map_congr_left hsame, List.map_id, String.ofList_toList]

namespace Broadcast

/-- The JSON object that shows an urgent message or a warning. -/
def object? (m : Broadcast) : Option Json.Value :=
  match m.severity with
  | .info => none
  | .warning => some (.obj [("color", .str "gold"), ("text", .str ("[Server] " ++ m.text))])
  | .critical => some (.obj [("bold", .bool true), ("color", .str "red"),
      ("text", .str ("[Server] " ++ m.text))])

theorem mem_object?_iff {m : Broadcast} {v : Json.Value} : v ∈ m.object? ↔
    (m = .warning m.text ∧ v = payload m.text "gold" false) ∨
      (m = .critical m.text ∧ v = payload m.text "red" true) := by
  obtain ⟨text, severity⟩ := m
  rw [payload_eq, payload_eq]
  cases severity <;> simp [object?, warning, critical, payloadFields, eq_comm]

/-- The line of an urgent message or a warning has no control characters. -/
theorem unbroken_tellraw (text color : String) (bold : Bool) :
    Json.Unbroken ("tellraw @a " ++ (payload text color bold).compact).toList := by
  have hword : Json.Unbroken "tellraw @a ".toList := Json.unbroken_of_all rfl
  rw [String.toList_append, payload_eq]
  exact hword.append (Json.unbroken_object plain_payloadFields)

theorem decodes_object {m : Broadcast} {v : Json.Value} (h : v ∈ m.object?) :
    Decodes m.command v ∧ singleLine m.command = m.command := by
  rcases mem_object?_iff.mp h with ⟨hm, rfl⟩ | ⟨hm, rfl⟩
  · rw [hm]
    exact ⟨decodes_warning m.text, singleLine_eq_self (unbroken_tellraw m.text "gold" false)⟩
  · rw [hm]
    exact ⟨decodes_critical m.text, singleLine_eq_self (unbroken_tellraw m.text "red" true)⟩

theorem info_command {m : Broadcast} (h : m.object? = none) : m.command = "say " ++ m.text := by
  obtain ⟨text, severity⟩ := m
  cases severity with
  | info => rfl
  | warning => cases h
  | critical => cases h

theorem singleLine_info {m : Broadcast} (h : m.object? = none) :
    singleLine m.command = (info (singleLine m.text)).command := by
  have hsay : singleLine "say " = "say " := by decide
  rw [info_command h, singleLine_append, hsay]
  rfl

/-- A line made of a message is no command to the server. -/
theorem ofText?_singleLine (m : Broadcast) :
    ConsoleCommand.ofText? (singleLine m.command) = none := by
  cases h : m.object? with
  | none => rw [singleLine_info h, ofText?_command]
  | some v => rw [(decodes_object h).2, ofText?_command]

end Broadcast

/-- A command is entered if both runs of tmux for it succeed. -/
theorem LineBuffer.reach_entered_iff (answers : List (Except StartError Output)) :
    (reach answers).1 = .entered ↔ ∀ a ∈ answers.take 2, succeeds a = true := by
  have hdefault : succeeds (next []) = true := rfl
  have hcons (a : Except StartError Output) (rest : List (Except StartError Output)) :
      next (a :: rest) = a := rfl
  unfold reach
  match answers with
  | [] => simp [hdefault]
  | [a] => cases h : succeeds a <;> simp [hcons, hdefault, h]
  | a :: a' :: rest => cases h : succeeds a <;> cases h' : succeeds a' <;> simp [hcons, h, h']

open Broadcast

/-- A message as a line. A warning or an urgent message is a line as it stands, and the players are
shown one JSON object with its text and colour; news stand behind the word `say`, and their line
breaks become blanks. No line break is left in any of them and none is a command to the server. In
whatever state the console is, a message is sent if both runs of tmux succeed; that ends one line,
with the message at its end. If it is not sent no line ends. -/
theorem send_oneLine (m : Broadcast) :
    (match m.object? with
      | some v => Decodes m.command v ∧ singleLine m.command = m.command
      | none => m.command = "say " ++ m.text ∧ ∃ said, singleLine m.command = "say " ++ said ∧
          OneLine m.text.toList said.toList) ∧
      (∀ c ∈ (singleLine m.command).toList, c ≠ '\r' ∧ c ≠ '\n') ∧
      ConsoleCommand.ofText? (singleLine m.command) = none ∧
      ∀ (binary target : String) (pane : LineBuffer) (answers : List (Except StartError Output)),
        ∃ result pane' rest,
          ((LineBuffer.tmux binary target).send m.command).run (pane, answers) =
            (result, pane', rest) ∧
          (result = .ok () ↔ ∀ a ∈ answers.take 2, LineBuffer.succeeds a = true) ∧
          pane'.lines = pane.lines ++
            if result = .ok () then [pane.pending ++ (singleLine m.command).toList] else [] := by
  refine ⟨?_, fun c hc => ?_, ofText?_singleLine m, fun binary target pane answers => ?_⟩
  · split
    · next v hv => exact decodes_object hv
    · next hv =>
      exact ⟨info_command hv, singleLine m.text, singleLine_info hv, singleLine_oneLine _⟩
  · exact not_or.mp ((singleLine_oneLine m.command).not_isBreak c hc)
  · obtain ⟨result, hrun, hok⟩ := LineBuffer.send_run binary target pane answers m.command
    have hsent : result = .ok () ↔ (LineBuffer.reach answers).1 = .entered := by
      rw [← decide_eq_true_iff (p := _ = LineBuffer.Reach.entered), ← hok]
      cases result <;> simp
    refine ⟨result, _, _, hrun, hsent.trans (LineBuffer.reach_entered_iff answers), ?_⟩
    cases hreach : (LineBuffer.reach answers).1 with
    | refused => simp [LineBuffer.take, hsent, hreach]
    | stranded => simp [LineBuffer.take, hsent, hreach]
    | entered => simp [LineBuffer.take, LineBuffer.lineOf, hsent, hreach]

end DrainGuard
