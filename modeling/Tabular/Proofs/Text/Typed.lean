import Tabular.Text.Typed

namespace Tabular.Text
open Unicode

theorem foldlM_press {graphemes : List (List Char)} (h : ∀ g ∈ graphemes, g ≠ ['\x08'])
    (t : Typed) : ∃ sizes, graphemes.foldlM Typed.press t =
      some ⟨graphemes.flatten.reverse ++ t.text, sizes⟩ := by
  induction graphemes generalizing t with
  | nil => exact ⟨t.sizes, rfl⟩
  | cons g rest ih =>
    obtain ⟨hg, hrest⟩ := List.forall_mem_cons.mp h
    obtain ⟨sizes, heq⟩ := ih hrest
      ⟨g.reverse ++ t.text, (String.ofList g).utf8ByteSize % Typed.sizeLimit :: t.sizes⟩
    refine ⟨sizes, ?_⟩
    rw [List.foldlM_cons, Typed.press, if_neg hg, List.flatten_cons, List.reverse_append,
      List.append_assoc]
    exact heq

theorem followBackspaces_of_not_mem {line : List Char} (h : '\x08' ∉ line) :
    followBackspaces line = some line := by
  have hgraphemes : ∀ g ∈ graphemes line, g ≠ ['\x08'] := by
    rintro g hg rfl
    apply h
    rw [← flatten_graphemes line]
    exact List.mem_flatten.mpr ⟨_, hg, List.mem_singleton_self _⟩
  obtain ⟨sizes, heq⟩ := foldlM_press hgraphemes ⟨[], []⟩
  unfold followBackspaces
  rw [heq, flatten_graphemes]
  simp

end Tabular.Text
