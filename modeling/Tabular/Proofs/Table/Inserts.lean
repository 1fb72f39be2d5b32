import Tabular.Database.Execute
import Tabular.Proofs.Table.Overwrite
import Tabular.Proofs.Table.Relation
import Tabular.Proofs.Typing

namespace Tabular

/-- A literal that is not a value of the kind is reported as it was written. -/
theorem Value.ofLiteral_eq_error {kind : Kind} {literal : Literal} {e : Error}
    (h : ofLiteral kind literal = .error e) : ∃ word, e = .unreadable word kind := by
  cases literal with
  | null => cases h
  | bare word =>
    dsimp only [ofLiteral, ofWord] at h
    split at h
    · cases h
    · cases h
      exact ⟨word, rfl⟩
  | quoted content =>
    dsimp only [ofLiteral] at h
    split at h
    · cases h
    · cases h
      exact ⟨_, rfl⟩

namespace Schema

variable {schema : Schema} {row : Row}

theorem Holds.set (h : schema.Holds row) {place : Nat} {field : Field} {v : Value}
    (hf : schema[place]? = some field) (ha : field.refusal v = none) :
    schema.Holds (row.set place v) := by
  refine ⟨by rw [List.length_set, h.1], ?_⟩
  intro p hp
  obtain ⟨i, hi⟩ := List.mem_iff_getElem?.mp hp
  obtain ⟨hfield, hvalue⟩ := List.getElem?_zip_eq_some.mp hi
  by_cases hip : place = i
  · subst hip
    obtain rfl : field = p.1 := Option.some.inj (hf.symm.trans hfield)
    obtain ⟨hlt, -⟩ := List.getElem?_eq_some_iff.mp hvalue
    rw [List.length_set] at hlt
    rw [List.getElem?_set_self hlt] at hvalue
    rw [← Option.some.inj hvalue]
    exact ha
  · rw [List.getElem?_set_ne hip] at hvalue
    exact h.2 p (List.mem_of_getElem? (List.getElem?_zip_eq_some.mpr ⟨hfield, hvalue⟩))

/-- The columns that an insertion fills: those that it names, or all of them. -/
def targets (schema : Schema) : Option (List String) → Except Error (List (Fin schema.length))
  | none => .ok (List.finRange schema.length)
  | some names => names.mapM schema.resolve

variable {targets : List (Fin schema.length)} {group : List Literal}

/-- The columns of a group that have a value hold one of their kind. -/
theorem holds_of_fill (h : schema.fill targets group = .ok row) : schema.Holds row := by
  unfold fill at h
  have hnulls := Holds.nulls schema
  generalize Row.nulls schema.length = start at h hnulls
  generalize targets.zip group = pairs at h
  induction pairs generalizing start with
  | nil =>
    cases h
    exact hnulls
  | cons pair rest ih =>
    rw [List.foldlM_cons] at h
    obtain ⟨next, hnext, hrest⟩ := bind_eq_ok.mp h
    obtain ⟨v, hv, hnext⟩ := bind_eq_ok.mp hnext
    cases hnext
    have hfield : schema[pair.1.val]? = some (schema.get pair.1) := by simp
    exact ih _ (hnulls.set hfield (Field.refusal_ofLiteral hv)) hrest

/-- A group gives no row only if one of its literals cannot be read. -/
theorem unreadable_of_fill {e : Error} (h : schema.fill targets group = .error e) :
    ∃ word kind, e = .unreadable word kind := by
  unfold fill at h
  generalize Row.nulls schema.length = start at h
  generalize targets.zip group = pairs at h
  induction pairs generalizing start with
  | nil => cases h
  | cons pair rest ih =>
    rw [List.foldlM_cons] at h
    cases hv : Value.ofLiteral (schema.get pair.1).kind pair.2 with
    | error e =>
      obtain ⟨word, rfl⟩ := Value.ofLiteral_eq_error hv
      dsimp only at h
      rw [hv] at h
      cases h
      exact ⟨word, _, rfl⟩
    | ok v =>
      dsimp only at h
      rw [hv] at h
      exact ih _ h

end Schema

namespace Sheet

/-- The sheet has a row that agrees with this one on the key. -/
def Repeats (s : Sheet) (row : Row) : Prop :=
  s.key.Nonempty ∧ ∃ stored ∈ s.rows, Row.Agree s.key row stored

/-- There is no row because a literal cannot be read, or the row would repeat a key. -/
def Rejects (s : Sheet) (found : Except Error Row) (e : Error) : Prop :=
  found = .error e ∨ ∃ row, found = .ok row ∧ s.Repeats row ∧ e = s.duplicate row

/-- The sheet with more rows behind its own. -/
def extend (s : Sheet) (rows : List Row) : Sheet :=
  { s with rows := s.rows ++ rows }

/-- None of the rows agrees on the key with a stored row or with another one of them. -/
def Fresh (s : Sheet) (rows : List Row) : Prop :=
  s.key.Nonempty → (∀ row ∈ rows, ∀ stored ∈ s.rows, ¬ Row.Agree s.key row stored) ∧
    rows.Pairwise fun a b => ¬ Row.Agree s.key a b

instance (s : Sheet) (rows : List Row) : Decidable (s.Fresh rows) :=
  inferInstanceAs (Decidable (s.key.Nonempty → _ ∧ _))

/-- Every group gives a row, and the sheet can take all of them. -/
structure Accepts (s : Sheet) (fill : List Literal → Except Error Row)
    (groups : List (List Literal)) (rows : List Row) : Prop where
  filled : groups.mapM fill = .ok rows
  fresh : s.Fresh rows

/-- With the rows of the groups before it inserted, the group is the first that is rejected. -/
structure FirstRejection (s : Sheet) (fill : List Literal → Except Error Row)
    (groups : List (List Literal)) (k : Nat) (added : List Row) (e : Error) : Prop where
  filled : (groups.take k).mapM fill = .ok added
  rejected : ∃ group, groups[k]? = some group ∧ (s.extend added).Rejects (fill group) e
  earlier : ∀ n < k, ∀ row, added[n]? = some row → ¬ (s.extend (added.take n)).Repeats row

variable {s : Sheet} {fill : List Literal → Except Error Row} {group : List Literal}
  {rest : List (List Literal)} {row : Row} {e : Error}

theorem extend_nil (s : Sheet) : s.extend [] = s := by
  unfold extend
  rw [List.append_nil]

theorem extend_extend (s : Sheet) (rows more : List Row) :
    (s.extend rows).extend more = s.extend (rows ++ more) := by
  unfold extend
  rw [List.append_assoc]

theorem insert_of_repeats (hrow : s.schema.Holds row) (h : s.Repeats row) :
    s.insert row = .error (s.duplicate row) :=
  (insert_of_placed hrow.1 hrow.2).trans (if_pos h)

theorem fresh_nil (s : Sheet) : s.Fresh [] := fun _ => ⟨nofun, .nil⟩

/-- Of fresh rows the first repeats no key, and the others are fresh with it inserted. -/
theorem fresh_cons {rows : List Row} :
    s.Fresh (row :: rows) ↔ ¬ s.Repeats row ∧ (s.extend [row]).Fresh rows := by
  have hrepeats : ¬ s.Repeats row ↔
      (s.key.Nonempty → ∀ stored ∈ s.rows, ¬ Row.Agree s.key row stored) := by
    simp [Repeats]
  have hothers : (s.extend [row]).Fresh rows ↔
      (s.key.Nonempty → ((∀ other ∈ rows, ∀ stored ∈ s.rows, ¬ Row.Agree s.key other stored) ∧
        ∀ other ∈ rows, ¬ Row.Agree s.key row other) ∧
        rows.Pairwise fun a b => ¬ Row.Agree s.key a b) := by
    have hstored : ∀ other, (∀ stored ∈ s.rows ++ [row], ¬ Row.Agree s.key other stored) ↔
        (∀ stored ∈ s.rows, ¬ Row.Agree s.key other stored) ∧ ¬ Row.Agree s.key row other := by
      intro other
      rw [List.forall_mem_append, List.forall_mem_singleton]
      exact and_congr_right fun _ => not_congr ⟨Row.Agree.symm, Row.Agree.symm⟩
    simp only [Fresh, extend, hstored, forall_and]
  rw [hrepeats, hothers, ← forall_and]
  refine forall_congr' fun _ => ?_
  rw [List.forall_mem_cons, List.pairwise_cons]
  tauto

theorem Accepts.cons {rows : List Row} (h : (s.extend [row]).Accepts fill rest rows)
    (hfill : fill group = .ok row) (hfree : ¬ s.Repeats row) :
    s.Accepts fill (group :: rest) (row :: rows) :=
  ⟨mapM_cons_eq_ok.mpr ⟨row, rows, hfill, h.filled, rfl⟩, fresh_cons.mpr ⟨hfree, h.fresh⟩⟩

theorem Rejects.first (h : s.Rejects (fill group) e) :
    s.FirstRejection fill (group :: rest) 0 [] e := by
  refine ⟨rfl, ⟨group, rfl, ?_⟩, nofun⟩
  rwa [extend_nil]

theorem FirstRejection.cons {k : Nat} {added : List Row}
    (h : (s.extend [row]).FirstRejection fill rest k added e) (hfill : fill group = .ok row)
    (hfree : ¬ s.Repeats row) : s.FirstRejection fill (group :: rest) (k + 1) (row :: added) e := by
  obtain ⟨next, hnext, hrejects⟩ := h.rejected
  refine ⟨?_, ⟨next, hnext, ?_⟩, ?_⟩
  · exact mapM_cons_eq_ok.mpr ⟨row, added, hfill, h.filled, rfl⟩
  · rwa [extend_extend] at hrejects
  · intro n hn early he
    cases n with
    | zero =>
      obtain rfl : row = early := Option.some.inj he
      rwa [List.take_zero, extend_nil]
    | succ n =>
      have hearlier := h.earlier n (Nat.lt_of_succ_lt_succ hn) early he
      rwa [extend_extend] at hearlier

end Sheet

namespace Table

variable {t : Table} {fill : List Literal → Except Error Row}

/-- The writes of an insertion, group by group. -/
def inserts (fill : List Literal → Except Error Row) (groups : List (List Literal)) :
    List Write :=
  groups.map fun group current => fill group >>= current.insert

/-- Inserted one by one, the rows are all there or those before the first rejection. -/
theorem Sound.perform_inserts (h : t.Sound)
    (hfill : ∀ group row, fill group = .ok row → t.schema.Holds row)
    (groups : List (List Literal)) :
    (∃ rows, t.sheet.Accepts fill groups rows ∧
        (t.perform (inserts fill groups)).1.sheet = t.sheet.extend rows ∧
        (t.perform (inserts fill groups)).2 = none) ∨
      ∃ k added e, t.sheet.FirstRejection fill groups k added e ∧
        (t.perform (inserts fill groups)).1.sheet = t.sheet.extend added ∧
        (t.perform (inserts fill groups)).2 = some e := by
  induction groups generalizing t with
  | nil => exact Or.inl ⟨[], ⟨rfl, t.sheet.fresh_nil⟩, t.sheet.extend_nil.symm, rfl⟩
  | cons group rest ih =>
    have hstop : ∀ e, (fill group >>= t.insert) = .error e → t.sheet.Rejects (fill group) e →
        ∃ k added e, t.sheet.FirstRejection fill (group :: rest) k added e ∧
          (t.perform (inserts fill (group :: rest))).1.sheet = t.sheet.extend added ∧
          (t.perform (inserts fill (group :: rest))).2 = some e := by
      intro e hwrite hrejects
      have hperform : t.perform (inserts fill (group :: rest)) = (t, some e) :=
        perform_cons_of_error hwrite
      rw [hperform]
      exact ⟨0, [], e, hrejects.first, t.sheet.extend_nil.symm, rfl⟩
    cases hrow : fill group with
    | error e => exact Or.inr (hstop e (by rw [hrow]; rfl) (Or.inl hrow))
    | ok row =>
      have hholds : t.sheet.schema.Holds row := hfill group row hrow
      have hwrite : (fill group >>= t.insert) = t.insert row := by
        rw [hrow]
        rfl
      have hm := h.insert row
      by_cases hr : t.sheet.Repeats row
      · rw [Sheet.insert_of_repeats hholds hr] at hm
        exact Or.inr (hstop _ (hwrite.trans hm.eq_error) (Or.inr ⟨row, hrow, hr, rfl⟩))
      · rw [Sheet.insert_of_free hholds.1 hholds.2 hr] at hm
        obtain ⟨next, hinsert, hsound, hsheet⟩ := hm.exists
        have hsheet : next.sheet = t.sheet.extend [row] := hsheet
        have hschema : next.schema = t.schema := congrArg Sheet.schema hsheet
        have hperform : t.perform (inserts fill (group :: rest)) =
            next.perform (inserts fill rest) := perform_cons_of_ok (hwrite.trans hinsert)
        have hrows : ∀ rows, next.sheet.extend rows = t.sheet.extend (row :: rows) := by
          intro rows
          rw [hsheet, Sheet.extend_extend]
          rfl
        rw [hperform]
        obtain ⟨rows, haccepts, hall, hnone⟩ | ⟨k, added, e, hfirst, hpart, hsome⟩ :=
          ih hsound (by rwa [hschema])
        · rw [hsheet] at haccepts
          exact Or.inl ⟨row :: rows, haccepts.cons hrow hr, hall.trans (hrows rows), hnone⟩
        · rw [hsheet] at hfirst
          exact Or.inr ⟨k + 1, row :: added, e, hfirst.cons hrow hr, hpart.trans (hrows added),
            hsome⟩

end Table

namespace Plan

variable {t : Table} {found : Plan} {columns : Option (List String)} {groups : List (List Literal)}

theorem insert_eq (t : Table) (columns : Option (List String)) (groups : List (List Literal)) :
    insert t columns groups = t.schema.targets columns >>= fun targets =>
      checked ((groups.find? (·.length != targets.length)).map fun group =>
          .columnCount targets.length group.length)
        ⟨Table.inserts (t.schema.fill targets) groups, .inserted groups.length⟩ := by
  unfold insert
  cases columns
  all_goals
    refine congrArg (bind _) (funext fun targets => ?_)
    dsimp only
    cases groups.find? (·.length != targets.length) <;> rfl

/-- An insertion can be made just if its columns are there and fit every group. -/
theorem insert_eq_ok : insert t columns groups = .ok found ↔
    ∃ targets, t.schema.targets columns = .ok targets ∧
      (∀ group ∈ groups, group.length = targets.length) ∧
      found = ⟨Table.inserts (t.schema.fill targets) groups, .inserted groups.length⟩ := by
  rw [insert_eq, bind_eq_ok]
  refine exists_congr fun targets => and_congr_right fun _ => ?_
  cases hfind : groups.find? (·.length != targets.length) with
  | some group =>
    have hwrong := List.find?_some hfind
    have hmem := List.mem_of_find?_eq_some hfind
    refine ⟨nofun, fun h => ?_⟩
    simp [h.1 group hmem] at hwrong
  | none =>
    have hall : ∀ group ∈ groups, group.length = targets.length := by
      simpa using hfind
    simp only [Option.map_none, checked, Except.ok.injEq]
    exact ⟨fun h => ⟨hall, h.symm⟩, fun h => h.2.symm⟩

end Plan

end Tabular
