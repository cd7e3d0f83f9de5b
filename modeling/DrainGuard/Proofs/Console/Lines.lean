import Mathlib.Data.List.Forall2
import DrainGuard.Console.LineBuffer
import DrainGuard.Proofs.Calls

/-!
# The lines that a server gets

A command goes into the pane by two runs of tmux: one types it, one presses the enter key. Each can
fail alone, and what a failure leaves in the pane is in front of the next command that is entered.

- **Reach** (`Reach`, `reaches`): how far each of several commands came, by how the runs of tmux
  ended.
- **Sends** (`send_run`, `sendAll_run`): what one command does to a pane, and so what several do.
- **Lines** (`sendAll_lines`): every command that was sent ends a line of its own. The lines are the
  commands that were sent, and nothing else, exactly if no text that was typed is still in the pane
  when a later command is entered (`Unmixed`). Nothing in a send takes care of that
  (`lines_stop_saveOn`).
-/

namespace DrainGuard

namespace LineBuffer

/-- How far a command came. -/
inductive Reach where
  /-- It was not typed. -/
  | refused
  /-- It was typed and not entered. -/
  | stranded
  /-- It was typed and entered. -/
  | entered
  deriving DecidableEq

/-- What a command is as a line. -/
def lineOf (command : String) : List Char := (singleLine command).toList

/-- The pane after a command that came so far. -/
def take (b : LineBuffer) (command : String) : Reach → LineBuffer
  | .refused => b
  | .stranded => { b with pending := b.pending ++ lineOf command }
  | .entered => { pending := [], lines := b.lines ++ [b.pending ++ lineOf command] }

/-- The run of tmux succeeds. -/
def succeeds : Except StartError Output → Bool
  | .ok o => o.status.isSuccess
  | .error _ => false

/-- How the next run of tmux ends; a run that nothing is said about succeeds. -/
def next (answers : List (Except StartError Output)) : Except StartError Output :=
  answers.headD (.ok ⟨.code 0, [], []⟩)

/-- How far a command comes, and how the runs after those for it end. -/
def reach (answers : List (Except StartError Output)) :
    Reach × List (Except StartError Output) :=
  if succeeds (next answers) then
    (if succeeds (next answers.tail) then .entered else .stranded, answers.tail.tail)
  else (.refused, answers.tail)

/-- How far each of several commands comes. -/
def reaches : List String → List (Except StartError Output) → List (String × Reach)
  | [], _ => []
  | c :: cs, answers => (c, (reach answers).1) :: reaches cs (reach answers).2

/-- The lines that commands add, if this is in the pane before them. -/
def submitted : List Char → List (String × Reach) → List (List Char)
  | _, [] => []
  | p, (_, .refused) :: rs => submitted p rs
  | p, (c, .stranded) :: rs => submitted (p ++ lineOf c) rs
  | p, (c, .entered) :: rs => (p ++ lineOf c) :: submitted [] rs

/-- The commands that were sent, as lines. -/
def sentLines (results : List (String × Bool)) : List (List Char) :=
  (results.filter Prod.snd).map fun x => lineOf x.1

/-- For each command whether it was sent. -/
def results (rs : List (String × Reach)) : List (String × Bool) :=
  rs.map fun x => (x.1, x.2 = .entered)

/-- No text that was typed and not entered is still in the pane when a later command is entered. -/
@[mk_iff unmixed_iff]
structure Unmixed (pending : List Char) (rs : List (String × Reach)) : Prop where
  pending : pending ≠ [] → ∀ y ∈ rs, y.2 ≠ .entered
  stranded : rs.Pairwise fun x y => x.2 = .stranded → y.2 = .entered → lineOf x.1 = []

/-! ## Sends -/

section Sends

variable (binary target : String) (b : LineBuffer) (answers : List (Except StartError Output))

/-- What tmux leaves behind when it runs. -/
theorem output_run (args : List String) :
    (∃ o, next answers = .ok o ∧ ((tmux binary target).output args).run (b, answers) =
        (.ok o, (b.after args (.ok o), answers.tail))) ∨
      ∃ e f, next answers = .error e ∧ ((tmux binary target).output args).run (b, answers) =
        (.error f, (b, answers.tail)) := by
  have hr : (tmux binary target).run args (b, answers) =
      (next answers, (b.after args (next answers), answers.tail)) := rfl
  cases hn : next answers with
  | ok o =>
    refine .inl ⟨o, rfl, ?_⟩
    show (tmux binary target).output args (b, answers) = _
    rw [Tmux.output, hr, hn]
  | error e =>
    refine .inr ⟨e, (tmux binary target).unavailable ("failed to run " ++ binary ++ ": " ++ e.text),
      rfl, ?_⟩
    show (tmux binary target).output args (b, answers) = _
    rw [Tmux.output, hr, hn]
    rfl

/-- A run of tmux that succeeds does what it is for; one that fails does nothing. -/
theorem perform_run (args : List String) :
    (succeeds (next answers) = true ∧ ((tmux binary target).perform args).run (b, answers) =
        (.ok (), (b.apply args, answers.tail))) ∨
      (succeeds (next answers) = false ∧ ∃ f,
        ((tmux binary target).perform args).run (b, answers) = (.error f, (b, answers.tail))) := by
  unfold Tmux.perform
  rcases output_run binary target b answers args with ⟨o, hn, ho⟩ | ⟨e, f, hn, ho⟩
  · rw [hn, run_bind_ok ho]
    cases hs : o.status.isSuccess with
    | true =>
      refine .inl ⟨hs, ?_⟩
      simp only [after, hs, ↓reduceIte]
      rfl
    | false =>
      refine .inr ⟨hs, ?_⟩
      simp only [after, hs, Bool.false_eq_true, ↓reduceIte]
      exact ⟨_, rfl⟩
  · rw [hn]
    exact .inr ⟨rfl, f, run_bind_error ho⟩

/-- What a send does to a pane, and whether it tells that it was done. -/
theorem send_run (command : String) :
    ∃ result, ((tmux binary target).send command).run (b, answers) =
        (result, (b.take command (reach answers).1, (reach answers).2)) ∧
      (result matches .ok _) = decide ((reach answers).1 = .entered) := by
  unfold Tmux.send reach
  rcases perform_run binary target b answers ((tmux binary target).typing (singleLine command))
    with ⟨hs, ht⟩ | ⟨hs, f, ht⟩
  · rw [run_bind_ok ht, hs]
    rcases perform_run binary target { b with pending := b.pending ++ lineOf command } answers.tail
      (tmux binary target).entering with ⟨hs', he⟩ | ⟨hs', f, he⟩
    · exact ⟨.ok (), by rw [hs']; exact he, by rw [hs']; rfl⟩
    · exact ⟨.error f, by rw [hs']; exact he, by rw [hs']; rfl⟩
  · rw [hs]
    exact ⟨.error f, run_bind_error ht, rfl⟩

theorem sendAll_cons {σ : Type} (t : Tmux σ) (c : String) (cs : List String) (w : σ) :
    (sendAll t (c :: cs)).run w =
      ((c, ((t.send c).run w).1 matches .ok _) :: ((sendAll t cs).run ((t.send c).run w).2).1,
        ((sendAll t cs).run ((t.send c).run w).2).2) := rfl

/-- What several sends tell, and the lines that they add. -/
theorem sendAll_run (commands : List String) :
    ∃ b₁ rest, (sendAll (tmux binary target) commands).run (b, answers) =
        (results (reaches commands answers), (b₁, rest)) ∧
      b₁.lines = b.lines ++ submitted b.pending (reaches commands answers) := by
  induction commands generalizing b answers with
  | nil => exact ⟨b, answers, rfl, (List.append_nil _).symm⟩
  | cons c cs ih =>
    obtain ⟨result, hs, hr⟩ := send_run binary target b answers c
    obtain ⟨b₁, rest, ha, hl⟩ := ih (b.take c (reach answers).1) (reach answers).2
    refine ⟨b₁, rest, ?_, ?_⟩
    · rw [sendAll_cons, hs, ha, hr]
      rfl
    · rw [hl, reaches]
      cases (reach answers).1 with
      | refused => rfl
      | stranded => rfl
      | entered => simp [take, submitted]

end Sends

/-! ## Lines -/

namespace Unmixed

variable {p : List Char} {c : String} {rs : List (String × Reach)}

theorem nil (p : List Char) : Unmixed p [] := ⟨fun _ _ h => (nomatch h), .nil⟩

theorem refused_iff : Unmixed p ((c, .refused) :: rs) ↔ Unmixed p rs := by
  simp [unmixed_iff]

/-- What was typed and not entered is in the pane from then on. -/
theorem stranded_iff : Unmixed p ((c, .stranded) :: rs) ↔ Unmixed (p ++ lineOf c) rs := by
  rw [unmixed_iff, unmixed_iff, List.pairwise_cons, ← and_assoc]
  refine and_congr_left fun _ => ⟨fun ⟨hp, hc⟩ hne y hy he => ?_, fun h => ⟨?_, ?_⟩⟩
  · by_cases h : p = []
    · exact hne (by rw [h, hc y hy rfl he]; rfl)
    · exact hp h y (List.mem_cons_of_mem _ hy) he
  · intro hp y hy
    rcases List.mem_cons.mp hy with rfl | hy
    · exact fun he => nomatch he
    · exact h (fun hn => hp (List.append_eq_nil_iff.mp hn).1) y hy
  · intro y hy _ he
    by_contra hc
    exact h (fun hn => hc (List.append_eq_nil_iff.mp hn).2) y hy he

theorem entered_iff : Unmixed p ((c, .entered) :: rs) ↔ p = [] ∧ Unmixed [] rs := by
  simp [unmixed_iff]

end Unmixed

/-- Every command that was sent ends a line, and there are no other lines. -/
theorem forall₂_submitted (p : List Char) (rs : List (String × Reach)) :
    List.Forall₂ (fun line text => text <:+ line) (submitted p rs) (sentLines (results rs)) := by
  induction rs generalizing p with
  | nil => exact .nil
  | cons x rs ih =>
    obtain ⟨c, r⟩ := x
    cases r with
    | refused => exact ih p
    | stranded => exact ih (p ++ lineOf c)
    | entered => exact .cons (List.suffix_append p (lineOf c)) (ih [])

/-- The lines are the commands exactly if none is entered behind something else. -/
theorem submitted_eq_iff (p : List Char) (rs : List (String × Reach)) :
    submitted p rs = sentLines (results rs) ↔ Unmixed p rs := by
  induction rs generalizing p with
  | nil => exact iff_of_true rfl (.nil p)
  | cons x rs ih =>
    obtain ⟨c, r⟩ := x
    cases r with
    | refused => rw [Unmixed.refused_iff]; exact ih p
    | stranded => rw [Unmixed.stranded_iff]; exact ih (p ++ lineOf c)
    | entered =>
      rw [Unmixed.entered_iff, ← ih []]
      show (p ++ lineOf c) :: submitted [] rs = lineOf c :: sentLines (results rs) ↔ _
      rw [List.cons.injEq, List.append_left_eq_self]

/-- What a server gets of several commands. Each command that was sent ends a line, in their order,
and there is no other line; the lines are just these commands exactly if nothing that was typed and
not entered is in front of one. -/
theorem sendAll_lines (binary target : String) (commands : List String) (b : LineBuffer)
    (answers : List (Except StartError Output)) :
    let rs := reaches commands answers
    ∃ b₁ rest, (sendAll (tmux binary target) commands).run (b, answers) =
        (results rs, (b₁, rest)) ∧
      b₁.lines = b.lines ++ submitted b.pending rs ∧
      List.Forall₂ (fun line text => text <:+ line) (submitted b.pending rs)
        (sentLines (results rs)) ∧
      (submitted b.pending rs = sentLines (results rs) ↔ Unmixed b.pending rs) := by
  obtain ⟨b₁, rest, hr, hl⟩ := sendAll_run binary target b answers commands
  exact ⟨b₁, rest, hr, hl, forall₂_submitted _ _, submitted_eq_iff _ _⟩

/-- If the enter key fails after `stop` was typed, the `save-on` that is sent next does not reach
the server as it is. -/
theorem lines_stop_saveOn :
    ∃ b rest, (sendAll (tmux "tmux" "minecraft") ["stop", "save-on"]).run
        ({}, [.ok ⟨.code 0, [], []⟩, .ok ⟨.code 1, [], []⟩]) =
          ([("stop", false), ("save-on", true)], (b, rest)) ∧
      b.lines = ["stopsave-on".toList] ∧
      b.lines ≠ sentLines [("stop", false), ("save-on", true)] := by
  refine ⟨_, _, rfl, ?_, ?_⟩ <;> decide +kernel

end LineBuffer

end DrainGuard
