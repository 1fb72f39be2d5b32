import Tabular.Proofs.Database.Update
import Tabular.Proofs.Table.Removal

namespace Tabular

namespace Sheet

/-- The sheet without the rows that pass a test. -/
def reject (s : Sheet) (test : Row → Bool) : Sheet :=
  { s with rows := s.rows.filter fun row => !test row }

theorem pairwise_chosen (s : Sheet) (test : Row → Bool) : (s.chosen test).Pairwise (· < ·) :=
  List.pairwise_lt_range.filter _

theorem mem_chosen {s : Sheet} {test : Row → Bool} {place : Nat} {row : Row}
    (h : s.rows[place]? = some row) : place ∈ s.chosen test ↔ test row = true := by
  obtain ⟨hlt, rfl⟩ := List.getElem?_eq_some_iff.mp h
  simp [chosen, hlt]

/-- Rows that are equal pass or fail together, so that the places can be told from the rows. -/
theorem without_chosen (s : Sheet) (test : Row → Bool) :
    s.without (s.chosen test) = s.reject test := by
  have hsame : (s.rows.zipIdx.filter fun found => found.2 ∉ s.chosen test) =
      s.rows.zipIdx.filter ((fun row => !test row) ∘ Prod.fst) := by
    apply List.filter_congr
    rintro ⟨row, place⟩ hm
    simp [mem_chosen (List.mem_zipIdx_iff_getElem?.mp hm)]
  unfold without reject
  rw [hsame, ← List.filter_map, List.zipIdx_map_fst]

theorem length_chosen (s : Sheet) (test : Row → Bool) :
    (s.chosen test).length = s.rows.countP test := by
  have hplaces : List.range s.rows.length = s.rows.zipIdx.map Prod.snd := by
    rw [List.zipIdx_map_snd, List.range_eq_range']
  have hrows : s.rows.countP test = (s.rows.zipIdx.map Prod.fst).countP test := by
    rw [List.zipIdx_map_fst]
  unfold chosen
  rw [hplaces, ← List.countP_eq_length_filter, hrows, List.countP_map, List.countP_map]
  apply List.countP_congr
  rintro ⟨row, place⟩ hm
  simp [List.mem_zipIdx_iff_getElem?.mp hm]

theorem length_reject (s : Sheet) (test : Row → Bool) :
    s.rows.countP test + (s.reject test).rows.length = s.rows.length := by
  have hcount := s.rows.length_eq_countP_add_countP test
  have hkept : (s.reject test).rows.length = s.rows.countP fun row => !test row :=
    List.countP_eq_length_filter.symm
  rw [hkept, hcount]
  congr 2
  funext row
  cases test row <;> rfl

end Sheet

namespace Plan

variable {t : Table} {filter : Filter} {test : Row → Bool}

theorem delete_eq_error (h : filter.test t.schema = none) :
    ∃ e, delete t filter = .error e := by
  cases filter with
  | none => cases h
  | some predicates =>
    have hmade := Condition.toOption_ofPredicates t.schema predicates
    rw [h, Option.map_eq_none_iff] at hmade
    cases hc : Condition.ofPredicates t.schema predicates with
    | ok condition =>
      rw [hc] at hmade
      cases hmade
    | error e =>
      refine ⟨e, ?_⟩
      unfold delete matching
      dsimp only
      rw [hc]
      rfl

/-- Without a filter all rows leave at once, and with one they leave from the last to the first. -/
theorem delete_eq_ok (h : t.Sound) (htest : filter.test t.schema = some test) :
    ∃ found, delete t filter = .ok found ∧
      found.outcome = .deleted (t.rows.countP test) ∧
      (t.perform found.writes).1.sheet = t.sheet.reject test ∧
      (t.perform found.writes).2 = none := by
  cases filter with
  | none =>
    cases htest
    refine ⟨_, rfl, ?_, ?_, rfl⟩
    · rw [← h.length_rows]
      simp
    · exact t.sheet_clear.trans (by simp [Sheet.clear, Sheet.reject])
  | some predicates =>
    refine ⟨⟨Table.deletes (t.sheet.chosen test).reverse, .deleted (t.sheet.chosen test).length⟩,
      bind_eq_ok.mpr ⟨_, matching_eq h htest, rfl⟩, ?_, ?_, ?_⟩
    · exact congrArg Outcome.deleted (t.sheet.length_chosen test)
    · rw [h.perform_deletes_reverse (t.sheet.pairwise_chosen test), Sheet.without_chosen]
    · dsimp only
      rw [t.perform_deletes]

end Plan

namespace Database

variable {db : Database} {t : Table} {filter : Filter} {test : Row → Bool}

theorem delete_of_absent {name : String} (h : name ∉ db.names) (filter : Filter) :
    db.apply (.delete name filter) = (db, .error (.missing (.table name))) := by
  change db.carryOut name _ = _
  unfold carryOut Database.table
  cases hf : db.find? name with
  | none => rfl
  | some t =>
    obtain ⟨ht, hname⟩ := find?_eq_some hf
    exact absurd (List.mem_map.mpr ⟨t, ht, hname⟩) h

theorem Built.delete_of_none (h : db.Built) (ht : t ∈ db.tables)
    (htest : filter.test t.schema = none) :
    ∃ e, db.apply (.delete t.name filter) = (db, .error e) := by
  obtain ⟨e, he⟩ := Plan.delete_eq_error htest
  exact ⟨e, h.carryOut_of_error ht he⟩

theorem Built.delete_of_some (h : db.Built) (ht : t ∈ db.tables)
    (htest : filter.test t.schema = some test) :
    (db.apply (.delete t.name filter)).2 = .ok (.deleted (t.rows.countP test)) ∧
      (db.apply (.delete t.name filter)).1.tables.map Table.sheet =
        db.tables.map fun other =>
          if other.name = t.name then t.sheet.reject test else other.sheet := by
  obtain ⟨found, hplan, houtcome, hsheet, hnone⟩ :=
    Plan.delete_eq_ok (h.tables t ht).sound_fit.1 htest
  have hresult : db.apply (.delete t.name filter) = _ := h.carryOut_eq ht hplan
  rw [hresult, hnone, houtcome]
  refine ⟨rfl, ?_⟩
  rw [sheets_put h.names, hsheet]

/-- A deletion whose table, columns and literals make sense leaves the rows that its filter does not
let through, and any other deletion leaves all. -/
theorem delete_eq_reject (actions : List Action) (name : String) (filter : Filter) :
    let db := after actions
    let result := db.apply (.delete name filter)
    ((∃ e, result = (db, .error e)) ↔ name ∉ db.names ∨ ∃ t ∈ db.tables, t.name = name ∧
        ∃ ps ∈ filter, ∃ p ∈ ps, ¬ p.Fits t.schema) ∧
      (∀ t ∈ db.tables, t.name = name → (∀ ps ∈ filter, ∀ p ∈ ps, p.Fits t.schema) →
        ∃ test, filter.test t.schema = some test ∧
          result.2 = .ok (.deleted (t.rows.countP test)) ∧
          result.1.tables.map Table.sheet = (db.tables.map fun other =>
            if other.name = name then t.sheet.reject test else other.sheet) ∧
          t.rows.countP test + (t.sheet.reject test).rows.length = t.rows.length) ∧
      (∀ t ∈ db.tables, ∀ places : List Nat, places.Pairwise (· < ·) →
        (t.perform (Table.deletes places.reverse)).1.sheet = t.sheet.without places) ∧
      ∀ sql, Statement.read sql = .ok (.change (.delete name filter)) →
        db.execute sql = result := by
  intro db result
  have hbuilt := built_after actions
  have hfits : ∀ t ∈ db.tables, t.name = name → (∀ ps ∈ filter, ∀ p ∈ ps, p.Fits t.schema) →
      ∃ test, filter.test t.schema = some test ∧
        result.2 = .ok (.deleted (t.rows.countP test)) ∧
        result.1.tables.map Table.sheet = (db.tables.map fun other =>
          if other.name = name then t.sheet.reject test else other.sheet) ∧
        t.rows.countP test + (t.sheet.reject test).rows.length = t.rows.length := by
    rintro t ht rfl hps
    obtain ⟨test, htest⟩ := Option.isSome_iff_exists.mp (Filter.isSome_test.mpr hps)
    obtain ⟨hok, hsheets⟩ := hbuilt.delete_of_some ht htest
    exact ⟨test, htest, hok, hsheets, t.sheet.length_reject test⟩
  refine ⟨⟨?_, ?_⟩, hfits, ?_, fun sql hread => execute_of_change hread db⟩
  · rintro ⟨e, he⟩
    by_cases hname : name ∈ db.names
    · right
      obtain ⟨t, ht, rfl⟩ := List.mem_map.mp hname
      by_contra hall
      obtain ⟨test, -, hok, -⟩ := hfits t ht rfl (by
        intro ps hps p hp
        by_contra hp'
        exact hall ⟨t, ht, rfl, ps, hps, p, hp, hp'⟩)
      rw [he] at hok
      cases hok
    · exact Or.inl hname
  · rintro (habsent | ⟨t, ht, rfl, ps, hps, p, hp, hnot⟩)
    · exact ⟨_, delete_of_absent habsent filter⟩
    · refine hbuilt.delete_of_none ht ?_
      cases htest : filter.test t.schema with
      | none => rfl
      | some test =>
        have hsome := Filter.isSome_test.mp (Option.isSome_iff_exists.mpr ⟨test, htest⟩)
        exact absurd (hsome ps hps p hp) hnot
  · intro t ht places hplaces
    exact (hbuilt.tables t ht).sound_fit.1.perform_deletes_reverse hplaces

/-- Of the rows that leave, one stands behind the row that stays and two before it. -/
theorem delete_eq_reject_moved :
    let result := (after halls).execute "DELETE FROM seat WHERE place = 5 OR hall = 1"
    result.2 = .ok (.deleted 3) ∧ result.1.tables.map Table.sheet =
      [⟨"seat", [⟨"hall", .int⟩, ⟨"place", .int⟩], {0, 1}, [[.int 2, .int 2]]⟩] := by
  have hsql : Statement.read "DELETE FROM seat WHERE place = 5 OR hall = 1" =
      .ok (.change (.delete "seat" moved)) := by
    decide +kernel
  obtain ⟨t, htables, hsheet⟩ := after_halls
  have hname : t.name = "seat" := congrArg Sheet.name hsheet
  have hschema : t.schema = _ := congrArg Sheet.schema hsheet
  have hrows : t.rows = _ := congrArg Sheet.rows hsheet
  obtain ⟨-, hfits, -, hread⟩ := delete_eq_reject halls "seat" moved
  have hsome : (moved.test t.schema).isSome = true := by
    rw [hschema]
    decide +kernel
  obtain ⟨test, htest, hok, hsheets, -⟩ := hfits t (by simp [htables]) hname
    (Filter.isSome_test.mp hsome)
  have hleft : (moved.test t.schema).map (fun test => (t.rows.countP test,
      t.rows.filter fun row => !test row)) = some (3, [[.int 2, .int 2]]) := by
    rw [hschema, hrows]
    decide +kernel
  rw [htest, Option.map_some, Option.some.injEq, Prod.mk.injEq, hrows] at hleft
  rw [hread _ hsql]
  refine ⟨by rw [hok, hrows, hleft.1], ?_⟩
  rw [hsheets, htables, List.map_singleton, if_pos hname, hsheet]
  unfold Sheet.reject
  rw [hleft.2]

end Database

end Tabular
