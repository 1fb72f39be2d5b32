import Tabular.Proofs.Table.Inserts

namespace Tabular.Schema

variable {schema : Schema} {targets : List (Fin schema.length)} {group : List Literal}
  {pairs : List (Fin schema.length × Literal)} {start row : Row}

/-- Every literal stands, as a value of the column's kind, in the column that it is for. -/
def Keeps (schema : Schema) (targets : List (Fin schema.length)) (group : List Literal)
    (row : Row) : Prop :=
  ∀ (j : Nat) target literal, targets[j]? = some target → group[j]? = some literal →
    Value.ofLiteral (schema.get target).kind literal = .ok (row.value target)

/-- Of the literals for one column the last one stands there, and the other columns hold null. -/
structure Filled (schema : Schema) (targets : List (Fin schema.length)) (group : List Literal)
    (row : Row) : Prop where
  width : row.length = schema.length
  last : ∀ (j : Nat) target literal, targets[j]? = some target → group[j]? = some literal →
    (∀ k > j, targets[k]? ≠ some target) →
    Value.ofLiteral (schema.get target).kind literal = .ok (row.value target)
  others : ∀ column, column ∉ targets → row.value column.val = .null

/-- Literals for one column are of one value. -/
def SingleValued (schema : Schema) (targets : List (Fin schema.length)) (group : List Literal) :
    Prop :=
  ∀ (j k : Nat) target a b, targets[j]? = some target → targets[k]? = some target →
    group[j]? = some a → group[k]? = some b →
    Value.ofLiteral (schema.get target).kind a = Value.ofLiteral (schema.get target).kind b

/-- One literal goes into its column. -/
def write (schema : Schema) (row : Row) (pair : Fin schema.length × Literal) :
    Except Error Row := do
  return row.set pair.1.val (← Value.ofLiteral (schema.get pair.1).kind pair.2)

theorem fill_eq (schema : Schema) (targets : List (Fin schema.length)) (group : List Literal) :
    schema.fill targets group =
      (targets.zip group).foldlM schema.write (Row.nulls schema.length) := rfl

theorem write_eq_ok {pair : Fin schema.length × Literal} (h : schema.write start pair = .ok row) :
    ∃ v, Value.ofLiteral (schema.get pair.1).kind pair.2 = .ok v ∧
      start.set pair.1.val v = row := by
  obtain ⟨v, hv, hrow⟩ := bind_eq_ok.mp h
  exact ⟨v, hv, Except.ok.inj hrow⟩

theorem value_of_absent (h : pairs.foldlM schema.write start = .ok row)
    {column : Fin schema.length} (hc : column ∉ pairs.map Prod.fst) :
    row.value column.val = start.value column.val := by
  induction pairs generalizing start with
  | nil =>
    cases h
    rfl
  | cons pair rest ih =>
    obtain ⟨hne, hrest⟩ : column ≠ pair.1 ∧ column ∉ rest.map Prod.fst := by simpa using hc
    rw [List.foldlM_cons] at h
    obtain ⟨next, hnext, h⟩ := bind_eq_ok.mp h
    obtain ⟨v, -, rfl⟩ := write_eq_ok hnext
    rw [ih h hrest]
    exact Row.value_set_ne (fun heq => hne (Fin.ext heq).symm) v

theorem value_of_last (h : pairs.foldlM schema.write start = .ok row)
    (hlength : start.length = schema.length) {j : Nat} {pair : Fin schema.length × Literal}
    (hpair : pairs[j]? = some pair) (hlast : ∀ k > j, ∀ q, pairs[k]? = some q → q.1 ≠ pair.1) :
    Value.ofLiteral (schema.get pair.1).kind pair.2 = .ok (row.value pair.1) := by
  induction pairs generalizing start j with
  | nil => cases hpair
  | cons first rest ih =>
    rw [List.foldlM_cons] at h
    obtain ⟨next, hnext, h⟩ := bind_eq_ok.mp h
    obtain ⟨v, hv, rfl⟩ := write_eq_ok hnext
    cases j with
    | zero =>
      obtain rfl : first = pair := Option.some.inj hpair
      have habsent : first.1 ∉ rest.map Prod.fst := by
        intro hm
        obtain ⟨q, hq, heq⟩ := List.mem_map.mp hm
        obtain ⟨k, hk⟩ := List.mem_iff_getElem?.mp hq
        exact hlast (k + 1) (Nat.succ_pos k) q hk heq
      have hplace : first.1.val < start.length := by
        rw [hlength]
        exact first.1.isLt
      rw [value_of_absent h habsent, Row.value_set_self hplace, hv]
    | succ j =>
      exact ih h (List.length_set.trans hlength) hpair
        fun k hk q hq => hlast (k + 1) (Nat.succ_lt_succ hk) q hq

theorem filled_of_fill (h : schema.fill targets group = .ok row)
    (hlength : group.length = targets.length) : schema.Filled targets group row := by
  have hstart : (Row.nulls schema.length).length = schema.length := List.length_replicate
  have hwidth : row.length = schema.length := (holds_of_fill h).1
  rw [fill_eq] at h
  refine ⟨hwidth, ?_, ?_⟩
  · intro j target literal ht hl hlast
    have hpair : (targets.zip group)[j]? = some (target, literal) :=
      List.getElem?_zip_eq_some.mpr ⟨ht, hl⟩
    refine value_of_last h hstart hpair fun k hk q hq heq => hlast k hk ?_
    rw [(List.getElem?_zip_eq_some.mp hq).1, heq]
  · intro column hc
    have habsent : column ∉ (targets.zip group).map Prod.fst := by
      rwa [List.map_fst_zip (by omega)]
    rw [value_of_absent h habsent]
    simp [Row.value, Row.nulls]

/-- What a column keeps is the last literal for it, so that another one is kept only if it is of the
same value. -/
theorem Filled.keeps_iff (h : schema.Filled targets group row)
    (hlength : group.length = targets.length) :
    schema.Keeps targets group row ↔ schema.SingleValued targets group := by
  constructor
  · intro hkeeps j k target a b hj hk ha hb
    rw [hkeeps j target a hj ha, hkeeps k target b hk hb]
  · intro hsingle j target literal ht hl
    -- From one literal for the column to the next, up to the last one.
    induction hleft : targets.length - j using Nat.strong_induction_on generalizing j literal with
    | _ left ih =>
      by_cases hlater : ∃ k > j, targets[k]? = some target
      · obtain ⟨k, hk, htk⟩ := hlater
        have hlt : k < targets.length := (List.getElem?_eq_some_iff.mp htk).1
        obtain ⟨next, hnext⟩ : ∃ next, group[k]? = some next :=
          ⟨group.get ⟨k, hlength ▸ hlt⟩, List.getElem?_eq_getElem _⟩
        rw [hsingle j k target _ _ ht htk hl hnext]
        exact ih (targets.length - k) (by omega) k next htk hnext rfl
      · exact h.last j target literal ht hl fun k hk htk => hlater ⟨k, hk, htk⟩

theorem singleValued_of_nodup (h : targets.Nodup) (group : List Literal) :
    schema.SingleValued targets group := by
  intro j k target a b hj hk ha hb
  obtain rfl : j = k :=
    (List.getElem?_inj (List.getElem?_eq_some_iff.mp hj).1 h).mp (hj.trans hk.symm)
  rw [Option.some.inj (ha.symm.trans hb)]

theorem name_of_resolve {name : String} {place : Fin schema.length}
    (h : schema.resolve name = .ok place) : (schema.get place).name = name := by
  unfold resolve at h
  split at h
  · rename_i found hfound
    cases h
    simpa using (List.findFinIdx?_eq_some_iff.mp hfound).1
  · cases h

/-- Names that differ stand for columns that differ, in whatever schema. -/
theorem nodup_targets {columns : Option (List String)} (h : schema.targets columns = .ok targets)
    (hnames : ∀ names ∈ columns, names.Nodup) : targets.Nodup := by
  cases columns with
  | none =>
    cases h
    exact List.nodup_finRange _
  | some names =>
    have hmap : names = targets.map fun place => (schema.get place).name := by
      rw [← List.forall₂_eq_eq_eq, List.forall₂_map_right_iff]
      exact (mapM_eq_ok.mp h).imp fun name place hplace => (name_of_resolve hplace).symm
    have hdistinct := hnames names rfl
    rw [hmap] at hdistinct
    exact hdistinct.of_map _

end Tabular.Schema
