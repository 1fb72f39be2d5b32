import Tabular.Proofs.Column
import Tabular.Typing

namespace Tabular

/-- What is read as a value of a kind has that kind, and is finite. -/
theorem Value.read?_eq_some {kind : Kind} {word : String} {v : Value}
    (h : read? kind word = some v) : v.kind? = some kind ∧ v.isFinite = true := by
  cases kind with
  | int =>
    obtain ⟨i, -, rfl⟩ := Option.map_eq_some_iff.mp h
    exact ⟨rfl, rfl⟩
  | float =>
    obtain ⟨x, hx, rfl⟩ := Option.map_eq_some_iff.mp h
    exact ⟨rfl, (Option.filter_eq_some_iff.mp hx).2⟩
  | double =>
    obtain ⟨x, hx, rfl⟩ := Option.map_eq_some_iff.mp h
    exact ⟨rfl, (Option.filter_eq_some_iff.mp hx).2⟩
  | bool =>
    unfold read? at h
    dsimp only at h
    split at h
    · cases h
      exact ⟨rfl, rfl⟩
    · split at h
      · cases h
        exact ⟨rfl, rfl⟩
      · cases h
  | text =>
    cases h
    exact ⟨rfl, rfl⟩

theorem Field.refusal_eq_none {field : Field} {v : Value} (hk : v.kind? = some field.kind)
    (hf : v.isFinite = true) : field.refusal v = none := by
  unfold refusal
  simp [hk, hf]

/-- A text comes from a literal that holds it, quoted or not. -/
theorem Value.text_ofLiteral {kind : Kind} {literal : Literal} {content : String}
    (h : ofLiteral kind literal = .ok (.text content)) :
    literal = .bare content ∨ literal = .quoted content := by
  cases literal with
  | null => cases h
  | bare word =>
    dsimp only [ofLiteral, ofWord] at h
    split at h
    · rename_i hr
      cases h
      obtain rfl : .text = kind := Option.some.inj (read?_eq_some hr).1
      cases hr
      exact Or.inl rfl
    · cases h
  | quoted text =>
    dsimp only [ofLiteral] at h
    split at h
    · cases h
      exact Or.inr rfl
    · cases h

theorem Field.refusal_ofLiteral {field : Field} {literal : Literal} {v : Value}
    (h : Value.ofLiteral field.kind literal = .ok v) : field.refusal v = none := by
  cases literal with
  | null =>
    cases h
    rfl
  | bare word =>
    dsimp only [Value.ofLiteral, Value.ofWord] at h
    split at h
    · rename_i hr
      cases h
      obtain ⟨hk, hf⟩ := Value.read?_eq_some hr
      exact refusal_eq_none hk hf
    · cases h
  | quoted content =>
    dsimp only [Value.ofLiteral] at h
    split at h
    · rename_i hk
      cases h
      exact refusal_eq_none (by rw [hk]; rfl) rfl
    · cases h

end Tabular
