import Tabular.Proofs.Result
import Tabular.SaveFile.Decode

namespace Tabular.SaveFile
open Text

/-- From these lines in front the reader makes this, and leaves what follows them. -/
def Takes (reader : LineReader α) (ls : List (List Char)) (a : α) : Prop :=
  ∀ line rest, reader ⟨line, ls ++ rest⟩ = .ok (a, ⟨line + ls.length, rest⟩)

theorem takes_pure (a : α) : Takes (pure a) [] a := fun _ _ => rfl

theorem Takes.bind {r : LineReader α} {f : α → LineReader β} {ls more : List (List Char)} {a : α}
    {b : β} (h : Takes r ls a) (hf : Takes (f a) more b) : Takes (r >>= f) (ls ++ more) b := by
  intro line rest
  refine bind_eq_ok.mpr ⟨(a, ⟨line + ls.length, more ++ rest⟩), ?_, ?_⟩
  · rw [List.append_assoc]
    exact h line (more ++ rest)
  · rw [List.length_append, ← Nat.add_assoc]
    exact hf (line + ls.length) rest

theorem Takes.last {r : LineReader α} {f : α → LineReader β} {ls : List (List Char)} {a : α}
    {b : β} (h : Takes r ls a) (hf : Takes (f a) [] b) : Takes (r >>= f) ls b := by
  have hbind := h.bind hf
  rwa [List.append_nil] at hbind

theorem takes_nextLine (line : List Char) : Takes nextLine [line] (trimEnd line) :=
  fun _ _ => rfl

theorem takes_line {f : List Char → LineReader α} {line : List Char} {a : α}
    (h : trimEnd line = line) (hf : Takes (f line) [] a) : Takes (nextLine >>= f) [line] a := by
  have hnext := takes_nextLine line
  rw [h] at hnext
  exact hnext.bind hf

/-- Past these lines in front the reader goes on as another one. -/
def GoesOn (reader : LineReader α) (ls : List (List Char)) (next : LineReader α) : Prop :=
  ∀ line rest, reader ⟨line, ls ++ rest⟩ = next ⟨line + ls.length, rest⟩

theorem Takes.next {r : LineReader α} {ls : List (List Char)} {a : α} (h : Takes r ls a)
    (f : α → LineReader β) : GoesOn (r >>= f) ls (f a) := by
  intro line rest
  change r ⟨line, ls ++ rest⟩ >>= _ = _
  rw [h line rest]
  rfl

theorem GoesOn.trans {r s next : LineReader α} {ls more : List (List Char)} (h : GoesOn r ls s)
    (hs : GoesOn s more next) : GoesOn r (ls ++ more) next := by
  intro line rest
  rw [List.append_assoc, h line (more ++ rest), hs, List.length_append, Nat.add_assoc]

theorem GoesOn.takes {r next : LineReader α} {ls more : List (List Char)} {a : α}
    (h : GoesOn r ls next) (hn : Takes next more a) : Takes r (ls ++ more) a := by
  intro line rest
  rw [List.append_assoc, h line (more ++ rest), hn, List.length_append, Nat.add_assoc]

end Tabular.SaveFile
