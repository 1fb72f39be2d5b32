import Tabular.Proofs.Column
import Tabular.Proofs.Number.ReadBack
import Tabular.Proofs.SaveFile.Written
import Tabular.Proofs.Token.Spelling
import Tabular.SaveFile.Decode

namespace Tabular
open Text

/-- The token that a value's literal is scanned as. -/
def Value.token : Value → Token
  | .null => .keyword .null
  | .int i => .number (toString i.toInt)
  | .float x => .number (String.ofList x.toChars)
  | .double x => .number (String.ofList x.toChars)
  | .bool true => .keyword .true
  | .bool false => .keyword .false
  | .text content => .text content

theorem Format.depth_single : single.depth ≤ 2 ^ single.exponent := by decide

theorem Format.depth_double : double.depth ≤ 2 ^ double.exponent := by decide

namespace SaveFile

/-- A finite value is a number written with its sign and digits, or null or a truth value, or a
text. -/
theorem literal_cases {v : Value} (h : v.isFinite = true) :
    Signed (literal v).toList ∧ v.token = .number (literal v) ∨
      v = .null ∨ v = .bool true ∨ v = .bool false ∨ ∃ content, v = .text content := by
  cases v with
  | null => exact Or.inr (Or.inl rfl)
  | int i => exact Or.inl ⟨signed_toString_int i.toInt, rfl⟩
  | float x =>
    refine Or.inl ⟨?_, rfl⟩
    change Signed (String.ofList x.toChars).toList
    rw [String.toList_ofList]
    exact Binary.signed_toChars Format.depth_single h
  | double x =>
    refine Or.inl ⟨?_, rfl⟩
    change Signed (String.ofList x.toChars).toList
    rw [String.toList_ofList]
    exact Binary.signed_toChars Format.depth_double h
  | bool b => cases b <;> simp
  | text content => exact Or.inr (Or.inr (Or.inr (Or.inr ⟨content, rfl⟩)))

theorem spells_literal {v : Value} (h : v.isFinite = true) :
    Spells (literal v).toList v.token := by
  rcases literal_cases h with ⟨hs, ht⟩ | rfl | rfl | rfl | ⟨content, rfl⟩
  · have hspells := hs.spells
    rwa [String.ofList_toList, ← ht] at hspells
  · exact spells_null
  · exact spells_true
  · exact spells_false
  · exact spells_quote content

theorem read?_float {x : Binary .single} (h : x.isFinite = true) :
    Value.read? .float (String.ofList x.toChars) = some (.float x) := by
  unfold Value.read?
  dsimp only
  rw [String.toList_ofList, Binary.read_toChars Format.depth_single h, Option.filter_some, if_pos h]
  rfl

theorem read?_double {x : Binary .double} (h : x.isFinite = true) :
    Value.read? .double (String.ofList x.toChars) = some (.double x) := by
  unfold Value.read?
  dsimp only
  rw [String.toList_ofList, Binary.read_toChars Format.depth_double h, Option.filter_some, if_pos h]
  rfl

theorem read?_int (i : Int32) : Value.read? .int (toString i.toInt) = some (.int i) := by
  unfold Value.read?
  dsimp only
  rw [readInt32_toString]
  rfl

theorem value_of_bare {kind : Kind} {token : Token} {word : String} {v : Value}
    (ht : Literal.ofToken? token = some (.bare word)) (hv : Value.read? kind word = some v) :
    value kind token = pure v := by
  unfold value
  rw [ht]
  change lift (Value.ofWord kind word) = _
  unfold Value.ofWord
  rw [hv]
  rfl

/-- A column reads back what it accepts. -/
theorem value_token {field : Field} {v : Value} (h : field.refusal v = none) :
    value field.kind v.token = pure v := by
  have hfinite := Field.finite_of_accepted h
  cases v with
  | null => rfl
  | int i =>
    rw [Field.kind_of_accepted h rfl]
    exact value_of_bare rfl (read?_int i)
  | float x =>
    rw [Field.kind_of_accepted h rfl]
    exact value_of_bare rfl (read?_float hfinite)
  | double x =>
    rw [Field.kind_of_accepted h rfl]
    exact value_of_bare rfl (read?_double hfinite)
  | bool b =>
    rw [Field.kind_of_accepted h rfl]
    cases b with
    | true => exact value_of_bare rfl (by decide)
    | false => exact value_of_bare rfl (by decide)
  | text content =>
    rw [Field.kind_of_accepted h rfl]
    rfl

theorem not_feed_quote {content : String} (h : '\n' ∉ content.toList) :
    '\n' ∉ (Token.quote content).toList := by
  unfold Token.quote
  rw [String.toList_ofList]
  intro hm
  have hdoubled : ∀ c ∈ content.toList, '\n' ∉ (if c = '\'' then ['\'', '\''] else [c]) := by
    intro c hc
    split
    · decide
    · intro hm
      exact h (List.mem_singleton.mp hm ▸ hc)
  simp only [List.mem_append, List.mem_cons, List.mem_flatMap, List.not_mem_nil, or_false] at hm
  rcases hm with (hm | ⟨c, hc, hm⟩) | hm
  · cases hm
  · exact hdoubled c hc hm
  · cases hm

theorem not_feed_literal {v : Value} (h : v.isFinite = true)
    (hv : ∀ content, v = .text content → '\n' ∉ content.toList) : '\n' ∉ (literal v).toList := by
  rcases literal_cases h with ⟨hs, -⟩ | rfl | rfl | rfl | ⟨content, rfl⟩
  · exact hs.not_feed
  · decide
  · decide
  · decide
  · exact not_feed_quote (hv content rfl)

end SaveFile

end Tabular
