import DrainGuard.Proofs.Notice.Document
import DrainGuard.Proofs.Notice.Instants

/-!
# Notices are read back

- **Objects** (`Notice.body`): an object of an action and a time, as it is written, announces them.
- **Notices** (`Notice.ofDocument_rendered`): a notice that was read is read back from its own words
  for its action and its time, whatever the offset, the fraction and the year of the time were.
-/

namespace DrainGuard

open Json.Reader (fieldsText)

theorem ReclaimAction.parse_name (a : ReclaimAction) : ReclaimAction.parse a.name = some a := by
  cases a <;> decide

namespace Notice

/-- An object that says an action and a time. -/
def body (action time : String) : String :=
  (Json.Value.obj [("action", .str action), ("time", .str time)]).compact

theorem announces_body (action time : String) : Announces action time (body action time).toList := by
  have hmembers := Json.members_texts true [("action", action), ("time", time)]
  have htext : (body action time).toList = [] ++ '{' :: (fieldsText true
      [("action", .str action), ("time", .str time)] ++ '}' :: []) := by
    rw [← Json.Reader.toList_compactFields, body, Json.Value.compact]
    simp
  rw [htext]
  exact .object Json.gap_nil Json.gap_nil hmembers rfl (Json.quotes_quoteList _) rfl
    (Json.quotes_quoteList _)

/-- A notice that was read is read back from any text that announces the two parts of its own text,
in particular from the object of them. So rendering loses no digit of a fraction, no leap second and
no year. -/
theorem ofDocument_rendered {text : String} {n : Notice} (h : ofDocument text = .ok n) :
    (∀ text' : String, Announces n.action.name (Rfc3339.render n.scheduled) text'.toList →
      ofDocument text' = .ok n) ∧
    ofDocument (body n.action.name (Rfc3339.render n.scheduled)) = .ok n ∧
    n.text = n.action.name ++ " scheduled at " ++ Rfc3339.render n.scheduled := by
  obtain ⟨a, t, -, -, hm⟩ := ofDocument_eq_ok_iff.mp h
  obtain ⟨hvalid, hyear⟩ := Rfc3339.parse_exists hm
  have hback : ∀ text' : String,
      Announces n.action.name (Rfc3339.render n.scheduled) text'.toList → ofDocument text' = .ok n :=
    fun text' h' => ofDocument_eq_ok_iff.mpr
      ⟨_, _, h', n.action.parse_name, Rfc3339.parse_render hvalid hyear⟩
  exact ⟨hback, hback _ (announces_body _ _), rfl⟩

theorem ofDocument_rendered_leap :
    let n : Notice := ⟨.stop, ⟨253402300799, 1500000000⟩⟩
    ofDocument (body " STOP " "+10000-01-01T05:29:60.5 +05:30") = .ok n ∧
      ofDocument (body "stop" "9999-12-31T23:59:60.500+00:00") = .ok n := by
  intro n
  have hread : ofDocument (body " STOP " "+10000-01-01T05:29:60.5 +05:30") = .ok n :=
    ofDocument_eq_ok_iff.mpr ⟨_, _, announces_body _ _, by decide, by decide⟩
  have hrender : Rfc3339.render n.scheduled = "9999-12-31T23:59:60.500+00:00" := by decide
  exact ⟨hread, hrender ▸ (ofDocument_rendered hread).2.1⟩

end Notice

end DrainGuard
