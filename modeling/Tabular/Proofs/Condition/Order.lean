import Tabular.Proofs.Typing
import Tabular.Proofs.Value
import Tabular.Table.Relation

namespace Tabular

/-- Whether a comparison holds of values that stand in the order. -/
def Comparator.admits : Comparator → Ordering → Bool
  | .eq, o => o.isEq
  | .ne, o => o.isNe
  | .gt, o => o.isGT
  | .ge, o => o.isGE
  | .lt, o => o.isLT
  | .le, o => o.isLE

theorem Comparator.existsUnique_admits (o : Ordering) :
    ∃! comparator, comparator ∈ [lt, eq, gt] ∧ comparator.admits o = true := by
  have hone : ∀ c ∈ [lt, eq, gt], ∀ d ∈ [lt, eq, gt], c.admits o = true → d.admits o = true →
      d = c := by
    cases o <;> decide
  have hsome : ∃ c ∈ [lt, eq, gt], c.admits o = true := by
    cases o <;> decide
  obtain ⟨c, hm, hc⟩ := hsome
  exact ⟨c, ⟨hm, hc⟩, fun d hd => hone c hm d hd.1 hc hd.2⟩

namespace Value

variable {a b c : Value}

/-- Some column takes the value. -/
def Storable (v : Value) : Prop :=
  ∃ (column : Column) (filled : Option column.kind.Cell), column.accept v = .ok filled

theorem storable_iff {v : Value} : v.Storable ↔ v.isFinite = true := by
  constructor
  · rintro ⟨column, filled, h⟩
    rw [Column.accept_eq] at h
    cases hr : column.field.refusal v with
    | none => exact Field.finite_of_accepted hr
    | some e =>
      rw [hr] at h
      cases h
  · intro h
    rcases v.null_or_kind with rfl | ⟨kind, hk⟩
    · exact ⟨.empty "" .int, none, rfl⟩
    · have hr : (Column.empty "" kind).field.refusal v = none := Field.refusal_eq_none hk h
      exact ⟨.empty "" kind, _, by rw [Column.accept_eq, hr]; rfl⟩

theorem compare_of_order {o : Ordering} (h : a.order b = some o) (comparator : Comparator) :
    a.compare comparator b = comparator.admits o := by
  have hnull : (a.isNull && b.isNull) = false := by
    cases a <;> first | rfl | cases h
  unfold compare same
  rw [h, hnull]
  cases comparator <;> cases o <;> rfl

/-- Of values in no order, only null equals null. -/
theorem compare_of_order_none (h : a.order b = none) :
    (∀ comparator ∈ [Comparator.lt, .le, .gt, .ge], a.compare comparator b = false) ∧
      (a.compare .eq b = true ↔ a.isNull = true ∧ b.isNull = true) := by
  simp [compare, same, h]

theorem Storable.finite (h : a.Storable) : a.isFinite = true :=
  storable_iff.mp h

/-- One of three comparisons holds, the other three follow from them, and the marks decide. -/
theorem Storable.compare (ha : a.Storable) (hb : b.Storable) {kind : Kind}
    (hak : a.kind? = some kind) (hbk : b.kind? = some kind) :
    (∃! comparator, comparator ∈ [Comparator.lt, .eq, .gt] ∧ a.compare comparator b = true) ∧
      a.compare .ge b = !a.compare .lt b ∧ a.compare .le b = !a.compare .gt b ∧
      (a.compare .eq b = true ↔ a.mark = b.mark) ∧
      (a.compare .lt b = true ↔ a.mark < b.mark) := by
  obtain ⟨o, ho, hc⟩ := exists_order ha.finite hb.finite hak hbk
  simp only [compare_of_order ho]
  refine ⟨?_, ?_, ?_, ?_, ?_⟩
  · exact Comparator.existsUnique_admits o
  · cases o <;> rfl
  · cases o <;> rfl
  · exact Ordering.isEq_iff_eq_eq.trans hc.eq_eq
  · exact Ordering.isLT_iff_eq_lt.trans hc.eq_lt

end Value

/-- The two comparisons of a column with a value that say the opposite, one of them behind NOT. -/
inductive Comparison.Restates (column : Nat) (v : Value) : Comparison → Comparison → Prop where
  | same (c : Comparison) : Restates column v c c
  | lower (negated : Bool) :
    Restates column v ⟨column, .lt, negated, v⟩ ⟨column, .ge, !negated, v⟩

theorem Comparison.Restates.holds {column : Nat} {v : Value} {c c' : Comparison}
    (h : Restates column v c c') {row : Row} (hv : v.Storable) (hrow : (row.value column).Storable)
    {kind : Kind} (hk : v.kind? = some kind) (hrowk : (row.value column).kind? = some kind) :
    c.holds row = c'.holds row := by
  cases h with
  | same => rfl
  | lower negated =>
    unfold Comparison.holds
    dsimp only
    rw [(hrow.compare hv hrowk hk).2.1]
    cases (row.value column).compare .lt v <;> cases negated <;> rfl

namespace Condition

/-- Any number of comparisons of the one condition are restated in the other. -/
def Restates (condition : Condition) (column : Nat) (v : Value) (condition' : Condition) : Prop :=
  condition.groups.Forall₂ (List.Forall₂ (Comparison.Restates column v)) condition'.groups

section Rows

variable {column : Nat} {v : Value} {condition condition' : Condition}
  (h : condition.Restates column v condition') (hv : v.Storable) {kind : Kind}
  (hk : v.kind? = some kind)

include h hv hk

theorem Restates.accepts {row : Row} (hrow : (row.value column).Storable)
    (hrowk : (row.value column).kind? = some kind) :
    condition.accepts row = condition'.accepts row := by
  have hgroups : condition.groups.map (·.all (·.holds row)) =
      condition'.groups.map (·.all (·.holds row)) := by
    refine map_eq_map_of_forall₂ h fun group group' hgroup => ?_
    have hgroup := map_eq_map_of_forall₂ hgroup fun _ _ hc => hc.holds hv hrow hk hrowk
    simpa [List.all_map, Function.comp_def] using congrArg (List.all · id) hgroup
  simpa [Condition.accepts, List.any_map, Function.comp_def] using congrArg (List.any · id) hgroups

theorem Restates.find {t : Table} (hrows : ∀ row ∈ t.rows,
    (row.value column).Storable ∧ (row.value column).kind? = some kind) :
    t.find condition = t.find condition' := by
  have hfilter : t.rows.filter condition.accepts = t.rows.filter condition'.accepts :=
    List.filter_congr fun row hm => h.accepts hv hk (hrows row hm).1 (hrows row hm).2
  unfold Table.find
  rw [hfilter]

end Rows

end Condition

namespace Value

theorem equivalence_compare_eq :
    Equivalence fun a b : {v : Value // v.Storable} => a.val.compare .eq b.val = true := by
  have heq : ∀ a b : {v : Value // v.Storable}, a.val.compare .eq b.val = true ↔
      a.val.kind? = b.val.kind? ∧ a.val.mark = b.val.mark :=
    fun a b => same_iff a.prop.finite b.prop.finite
  simp only [heq]
  exact ⟨fun _ => ⟨rfl, rfl⟩, fun h => ⟨h.1.symm, h.2.symm⟩,
    fun h h' => ⟨h.1.trans h'.1, h.2.trans h'.2⟩⟩

theorem compare_lt_iff {a b : Value} (ha : a.Storable) (hb : b.Storable) :
    a.compare .lt b = true ↔ a.kind? = b.kind? ∧ a.mark < b.mark := by
  rw [← order_eq_lt_iff ha.finite hb.finite]
  exact beq_iff_eq

theorem compare_gt (a b : Value) : a.compare .gt b = b.compare .lt a := by
  unfold compare
  rw [order_swap a b]
  rcases a.order b with _ | _ | _ | _ <;> rfl

/-- On the values that columns hold, equality is an equivalence, the six comparisons of values of
one kind are those of one order, in which texts go by their characters, and null and values of
different kinds are in no order. A condition may therefore state `<` behind NOT as `>=`. -/
theorem compare_orders_kinds :
    (∀ (a b : Value) (kind : Kind), a.Storable → b.Storable → a.kind? = some kind →
      b.kind? = some kind →
        (∃! comparator, comparator ∈ [Comparator.lt, .eq, .gt] ∧ a.compare comparator b = true) ∧
          a.compare .ge b = !a.compare .lt b ∧ a.compare .le b = !a.compare .gt b ∧
          (a.compare .eq b = true ↔ a.mark = b.mark) ∧
          (a.compare .lt b = true ↔ a.mark < b.mark)) ∧
      (∀ a b : Value, a.compare .ne b = !a.compare .eq b ∧ a.compare .gt b = b.compare .lt a) ∧
      (Equivalence fun a b : {v : Value // v.Storable} => a.val.compare .eq b.val = true) ∧
      (∀ p q : Bool,
        (float (.finite p ⟨0, by decide⟩)).compare .eq (float (.finite q ⟨0, by decide⟩)) = true ∧
        (double (.finite p ⟨0, by decide⟩)).compare .eq (double (.finite q ⟨0, by decide⟩)) =
          true) ∧
      (∀ a b c : Value, a.Storable → b.Storable → c.Storable → a.compare .lt b = true →
        b.compare .lt c = true → a.compare .lt c = true) ∧
      (∀ a b a' b' : Value, a.Storable → b.Storable → a'.Storable → b'.Storable →
        a.compare .eq a' = true → b.compare .eq b' = true →
          ∀ comparator, a.compare comparator b = a'.compare comparator b') ∧
      (∀ s t : String, (text s).compare .lt (text t) = true ↔
        s.toList.map Char.toNat < t.toList.map Char.toNat) ∧
      (∀ a b : Value, a.isNull = true ∨ b.isNull = true ∨ a.kind? ≠ b.kind? →
        (∀ comparator ∈ [Comparator.lt, .le, .gt, .ge], a.compare comparator b = false) ∧
          (a.compare .eq b = true ↔ a.isNull = true ∧ b.isNull = true)) ∧
      ∀ (column : Nat) (v : Value) (kind : Kind) (condition condition' : Condition),
        condition.Restates column v condition' → v.Storable → v.kind? = some kind →
          (∀ row : Row, (row.value column).Storable → (row.value column).kind? = some kind →
            condition.accepts row = condition'.accepts row) ∧
          ∀ t : Table, (∀ row ∈ t.rows,
              (row.value column).Storable ∧ (row.value column).kind? = some kind) →
            t.find condition = t.find condition' := by
  refine ⟨fun a b kind ha hb hak hbk => ha.compare hb hak hbk, fun a b => ⟨rfl, compare_gt a b⟩,
    equivalence_compare_eq, by decide, ?_, ?_, ?_, ?_, ?_⟩
  · intro a b c ha hb hc hab hbc
    obtain ⟨hkind, hmark⟩ := (compare_lt_iff ha hb).mp hab
    obtain ⟨hkind', hmark'⟩ := (compare_lt_iff hb hc).mp hbc
    exact (compare_lt_iff ha hc).mpr ⟨hkind.trans hkind', hmark.trans hmark'⟩
  · intro a b a' b' ha hb ha' hb' hsame hsame'
    exact compare_congr ha.finite hb.finite ha'.finite hb'.finite hsame hsame'
  · intro s t
    have hs : (text s).Storable := storable_iff.mpr rfl
    have ht : (text t).Storable := storable_iff.mpr rfl
    rw [compare_lt_iff hs ht, mark_text_lt_iff]
    exact and_iff_right rfl
  · exact fun a b h => compare_of_order_none (order_eq_none h)
  · intro column v kind condition condition' h hv hk
    exact ⟨fun row hrow hrowk => h.accepts hv hk hrow hrowk, fun t hrows => h.find hv hk hrows⟩

/-- The letter with an accent comes behind all letters without one, and null is not behind it. -/
theorem compare_orders_kinds_accents :
    (text "Zoe").compare .lt (text "Zoë") = true ∧
      (text "Zoe").compare .ge (text "Zoë") = false ∧
      (text "Zoe").compare .lt (text "Zürich") = true ∧
      (text "Zoë").compare .lt .null = false ∧
      (⟨[[⟨1, .eq, false, .null⟩, ⟨0, .lt, true, text "Zoe"⟩]]⟩ : Condition).accepts
          [text "Zoë", .null] =
        (⟨[[⟨1, .eq, false, .null⟩, ⟨0, .ge, false, text "Zoe"⟩]]⟩ : Condition).accepts
          [text "Zoë", .null] := by
  have hstorable : ∀ s : String, (text s).Storable := fun _ => storable_iff.mpr rfl
  obtain ⟨hkind, -, -, -, htrans, -, htext, hnull, hcondition⟩ := compare_orders_kinds
  have hlt : (text "Zoe").compare .lt (text "Zoë") = true := (htext _ _).mpr (by decide)
  have hbehind : (text "Zoë").compare .lt (text "Zürich") = true :=
    (htext _ _).mpr (by decide)
  refine ⟨hlt, ?_, ?_, ?_, ?_⟩
  · rw [(hkind _ _ .text (hstorable _) (hstorable _) rfl rfl).2.1, hlt]
    rfl
  · exact htrans _ _ _ (hstorable _) (hstorable _) (hstorable _) hlt hbehind
  · exact (hnull _ _ (Or.inr (Or.inl rfl))).1 _ (by decide)
  · refine (hcondition 0 (text "Zoe") .text _ _ ?_ (hstorable _) rfl).1 _ (hstorable _) rfl
    exact .cons (.cons (.same _) (.cons (.lower true) .nil)) .nil

end Value

end Tabular
