import Tabular.Proofs.Database.Insert
import Tabular.Proofs.Table.Filling

namespace Tabular.Database

/-- An insertion is accepted by a table that has the name and all the columns. -/
theorem Built.exists_of_insert {db : Database} (h : db.Built) {name : String}
    {columns : Option (List String)} {groups : List (List Literal)} {outcome : Outcome}
    (hok : (db.apply (.insert name columns groups)).2 = .ok outcome) :
    ∃ t ∈ db.tables, t.name = name ∧ ∃ targets, t.schema.targets columns = .ok targets := by
  obtain ⟨e, heq, -⟩ | ⟨before, t, behind, found, htables, hname, hplan, -⟩ :=
    h.carryOut_cases name (Plan.insert · columns groups)
  · have hfailed : (db.apply (.insert name columns groups)).2 = .error e := congrArg Prod.snd heq
    rw [hok] at hfailed
    cases hfailed
  · obtain ⟨targets, htargets, -, -⟩ := Plan.insert_eq_ok.mp hplan
    have ht : t ∈ db.tables := by simp [htables]
    exact ⟨t, ht, hname, targets, htargets⟩

/-- An accepted insertion adds a row for each group, in which every column holds the last literal
that is for it, and null if there is none. A row keeps all its literals just if those for one column
are of one value, as they are where no column is named twice. -/
theorem insert_keeps_iff (actions : List Action) {name : String} {columns : Option (List String)}
    {groups : List (List Literal)} {outcome : Outcome}
    (h : ((after actions).apply (.insert name columns groups)).2 = .ok outcome) :
    let db := after actions
    let result := db.apply (.insert name columns groups)
    outcome = .inserted groups.length ∧
      (∃ t ∈ db.tables, t.name = name ∧ ∃ targets rows, t.schema.targets columns = .ok targets ∧
        (result.1.tables.map Table.sheet = db.tables.map fun other =>
          if other.name = name then t.sheet.extend rows else other.sheet) ∧
        groups.Forall₂ (fun group row => group.length = targets.length ∧
          t.schema.Filled targets group row ∧
          (t.schema.Keeps targets group row ↔ t.schema.SingleValued targets group)) rows ∧
        ((∀ names ∈ columns, names.Nodup) → groups.Forall₂ (t.schema.Keeps targets) rows)) ∧
      ∀ sql, Statement.read sql = .ok (.change (.insert name columns groups)) →
        db.execute sql = result := by
  intro db result
  have hbuilt := built_after actions
  obtain ⟨t, ht, rfl, targets, htargets⟩ := hbuilt.exists_of_insert h
  obtain ⟨houtcome, hcounted, rows, hrows⟩ := (hbuilt.insert_ok_iff ht htargets).mp h
  have hfilled := (List.forall₂_and_left _ _).mpr
    ⟨hcounted, mapM_eq_ok.mp hrows.filled⟩
  refine ⟨houtcome, ⟨t, ht, rfl, targets, rows, htargets,
    hbuilt.sheets_insert ht htargets hcounted hrows, ?_, ?_⟩,
    fun sql hread => execute_of_change hread db⟩
  · refine hfilled.imp fun group row ⟨hlength, hfill⟩ => ?_
    have hrow := Schema.filled_of_fill hfill hlength
    exact ⟨hlength, hrow, hrow.keeps_iff hlength⟩
  · intro hnames
    refine hfilled.imp fun group row ⟨hlength, hfill⟩ => ?_
    refine ((Schema.filled_of_fill hfill hlength).keeps_iff hlength).mpr ?_
    exact Schema.singleValued_of_nodup (Schema.nodup_targets htargets hnames) group

def insertedCount? : Except Error Outcome → Option Nat
  | .ok (.inserted count) => some count
  | _ => none

theorem insertedCount?_eq_some {result : Except Error Outcome} {count : Nat} :
    insertedCount? result = some count ↔ result = .ok (.inserted count) := by
  constructor
  · intro h
    unfold insertedCount? at h
    split at h
    · cases h
      rfl
    · cases h
  · rintro rfl
    rfl

/-- One column is filled and the other is left out. -/
theorem insert_keeps_iff_halls :
    let groups : List (List Literal) := [[.bare "7"], [.bare "8"]]
    let result := (after halls).apply (.insert "seat" (some ["place"]) groups)
    result.2 = .ok (.inserted 2) ∧
      result.1.tables.map Table.rows = [[[.int 1, .int 2], [.int 1, .null], [.int 2, .int 2],
        [.int 2, .int 5], [.null, .int 7], [.null, .int 8]]] ∧
      ∃ t ∈ (after halls).tables, t.name = "seat" ∧ ∃ targets rows,
        t.schema.targets (some ["place"]) = .ok targets ∧
        (result.1.tables.map Table.sheet = (after halls).tables.map fun other =>
          if other.name = "seat" then t.sheet.extend rows else other.sheet) ∧
        groups.Forall₂ (t.schema.Keeps targets) rows := by
  intro groups result
  have hok : result.2 = .ok (.inserted 2) := insertedCount?_eq_some.mp (by decide +kernel)
  obtain ⟨-, ⟨t, ht, hname, targets, rows, htargets, hsheets, -, hkeeps⟩, -⟩ :=
    insert_keeps_iff halls hok
  refine ⟨hok, by decide +kernel, t, ht, hname, targets, rows, htargets, hsheets, hkeeps ?_⟩
  rintro _ ⟨⟩
  exact List.nodup_singleton _

/-- Of two literals for one column the first is lost, though the insertion is accepted. -/
theorem not_kept_namedTwice :
    let db := after [.execute "CREATE TABLE seat (hall INT, place INT)"]
    let result := db.execute "INSERT INTO seat (place, place) VALUES (1, 2)"
    let schema : Schema := [⟨"hall", .int⟩, ⟨"place", .int⟩]
    db.tables.map Table.schema = [schema] ∧
      schema.targets (some ["place", "place"]) = .ok [1, 1] ∧
      result.2 = .ok (.inserted 1) ∧ result.1.tables.map Table.rows = [[[.null, .int 2]]] ∧
      ¬ schema.Keeps [1, 1] [.bare "1", .bare "2"] [.null, .int 2] := by
  intro db result schema
  refine ⟨by decide +kernel, by decide +kernel, insertedCount?_eq_some.mp (by decide +kernel),
    by decide +kernel, fun hkeeps => ?_⟩
  have hfirst := hkeeps 0 1 (.bare "1") rfl rfl
  revert hfirst
  decide +kernel

end Tabular.Database
