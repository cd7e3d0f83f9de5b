import DrainGuard.Console.Message
import DrainGuard.Proofs.Json.Reads

/-!
# Urgent messages as the players' side reads them

A message other than news is a line with a JSON object, and the object is read as it was meant.

- **Decoding** (`Broadcast.Decodes`, `decodes_critical`): what a line tells one who reads its JSON. A
  line tells one thing at most (`Decodes.unique`).
- **Urgent lines** (`Broadcast.Urgent`): lines that show a text in red and bold that ends with a
  given one.
- **No confusion** (`Broadcast.eq_of_command_eq`): no other message is sent by the line of an urgent
  one.
-/

namespace DrainGuard

namespace Broadcast

/-- The players are shown the content of a JSON object. -/
def Decodes (line : String) (v : Json.Value) : Prop :=
  ∃ json, line = "tellraw @a " ++ json ∧ Json.parse json = .ok v

theorem Decodes.unique {line : String} {v v' : Json.Value} (h : Decodes line v)
    (h' : Decodes line v') : v = v' := by
  obtain ⟨json, hl, hv⟩ := h
  obtain ⟨json', hl', hv'⟩ := h'
  obtain rfl : json = json' := String.append_right_inj _ |>.mp (hl.symm.trans hl')
  exact Except.ok.inj (hv.symm.trans hv')

/-- The fields of an urgent message or a warning, in the order of their keys. -/
def payloadFields (text color : String) (bold : Bool) : List (String × Json.Value) :=
  (if bold then [("bold", .bool true)] else []) ++
    [("color", .str color), ("text", .str ("[Server] " ++ text))]

theorem payloadFields_sorted (text color : String) (bold : Bool) :
    (payloadFields text color bold).Pairwise fun f f' => f.1 < f'.1 := by
  have hct : "color" < "text" := by decide
  have hbc : "bold" < "color" := by decide
  have hpair : [("color", Json.Value.str color), ("text", .str ("[Server] " ++ text))].Pairwise
      fun f f' => f.1 < f'.1 := List.pairwise_pair.mpr hct
  cases bold with
  | false => exact hpair
  | true =>
    refine List.pairwise_cons.mpr ⟨fun f hf => ?_, hpair⟩
    rcases List.mem_cons.mp hf with rfl | hf
    · exact hbc
    · rw [List.mem_singleton.mp hf]
      exact String.lt_trans hbc hct

theorem payload_eq (text color : String) (bold : Bool) :
    payload text color bold = .obj (payloadFields text color bold) := by
  have hcolor := Json.insertField_first (.str color) (List.pairwise_cons.mp
    (payloadFields_sorted text color false)).1
  cases bold with
  | false => exact congrArg Json.Value.obj hcolor
  | true =>
    have hbold := Json.insertField_first (.bool true) (List.pairwise_cons.mp
      (payloadFields_sorted text color true)).1
    have hall := congrArg (Json.insertField "bold" (.bool true)) hcolor
    exact congrArg Json.Value.obj (hall.trans hbold)

theorem plain_payloadFields {text color : String} {bold : Bool} :
    ∀ f ∈ payloadFields text color bold, f.2.Plain := by
  intro f hf
  rcases List.mem_append.mp hf with hf | hf
  · cases bold with
    | false => cases hf
    | true =>
      rw [List.mem_singleton.mp hf]
      exact .bool true
  · rcases List.mem_cons.mp hf with rfl | hf
    · exact .str color
    · rw [List.mem_singleton.mp hf]
      exact .str _

theorem parse_payload (text color : String) (bold : Bool) :
    Json.parse (payload text color bold).compact = .ok (payload text color bold) := by
  rw [payload_eq]
  exact Json.parse_compact plain_payloadFields (payloadFields_sorted text color bold)

theorem payload_text (text color : String) (bold : Bool) :
    (payload text color bold).get "text" = .str ("[Server] " ++ text) := by
  rw [payload_eq]
  cases bold <;> rfl

theorem payload_color (text color : String) (bold : Bool) :
    (payload text color bold).get "color" = .str color := by
  rw [payload_eq]
  cases bold <;> rfl

theorem decodes_warning (text : String) :
    Decodes (warning text).command (payload text "gold" false) := ⟨_, rfl, parse_payload ..⟩

theorem decodes_critical (text : String) :
    Decodes (critical text).command (payload text "red" true) := ⟨_, rfl, parse_payload ..⟩

/-! ## Urgent lines -/

/-- The players are shown a text in red and bold that ends with `tail`. -/
def Urgent (line tail : String) : Prop :=
  ∃ v front, Decodes line v ∧ v.get "text" = .str (front ++ tail) ∧ v.get "color" = .str "red" ∧
    v.get "bold" = .bool true

theorem urgent_critical (front tail : String) : Urgent (critical (front ++ tail)).command tail := by
  refine ⟨_, "[Server] " ++ front, decodes_critical _, ?_, payload_color .., ?_⟩
  · rw [payload_text, String.append_assoc]
  · rw [payload_eq]
    rfl

/-- The line of an urgent message is that of no other message. -/
theorem eq_of_command_eq {b : Broadcast} {text : String} (h : b.command = (critical text).command) :
    b = critical text := by
  obtain ⟨t, severity⟩ := b
  have hd := decodes_critical text
  rw [← h] at hd
  cases severity with
  | info =>
    have hs : ('s' : Char) = 't' := by
      simpa [command, critical] using congrArg (fun line => line.toList.head?) h
    exact absurd hs (by decide)
  | warning =>
    have hc := congrArg (Json.Value.get · "color") ((decodes_warning t).unique hd)
    simp only [payload_color] at hc
    exact absurd (Json.Value.str.inj hc) (by decide)
  | critical =>
    have ht := congrArg (Json.Value.get · "text") ((decodes_critical t).unique hd)
    simp only [payload_text] at ht
    rw [(String.append_right_inj _).mp (Json.Value.str.inj ht)]
    rfl

end Broadcast

end DrainGuard
