import Tabular.Proofs.Database.Frame
import Tabular.Proofs.Table.Batch

namespace Tabular

/-- The columns found by their names are the same in an equal schema. -/
theorem Schema.targets_of_eq {schema other : Schema} (h : other = schema)
    {columns : Option (List String)} {targets : List (Fin schema.length)}
    (ht : schema.targets columns = .ok targets) : ∃ same, other.targets columns = .ok same ∧
      same.length = targets.length ∧ other.fill same = schema.fill targets := by
  subst h
  exact ⟨targets, ht, rfl, rfl⟩

namespace Database

def fault : Except Error Outcome → Option Error
  | .ok _ => none
  | .error e => some e

/-- Steps one after another, up to the first that fails. -/
def runEach (run : Database → σ → Database × Except Error Outcome) (db : Database) :
    List σ → Database × Option Error
  | [] => (db, none)
  | step :: rest =>
    match run db step with
    | (next, .ok _) => runEach run next rest
    | (next, .error e) => (next, some e)

section Runs

variable {run : Database → σ → Database × Except Error Outcome} {db next : Database} {step : σ}
  {rest : List σ}

theorem runEach_cons_of_ok {outcome : Outcome} (h : run db step = (next, .ok outcome)) :
    db.runEach run (step :: rest) = next.runEach run rest := by
  rw [runEach, h]

theorem runEach_cons_of_error {e : Error} (h : run db step = (next, .error e)) :
    db.runEach run (step :: rest) = (next, some e) := by
  rw [runEach, h]

theorem runEach_congr {other : Database → τ → Database × Except Error Outcome} {steps : List σ}
    {others : List τ} (h : List.Forall₂ (fun a b => ∀ db, run db a = other db b) steps others) :
    db.runEach run steps = db.runEach other others := by
  induction h generalizing db with
  | nil => rfl
  | @cons a b _ _ hstep _ ih =>
    rcases heq : other db b with ⟨next, outcome | e⟩
    · rw [runEach_cons_of_error heq, runEach_cons_of_error ((hstep db).trans heq)]
    · rw [runEach_cons_of_ok heq, runEach_cons_of_ok ((hstep db).trans heq), ih]

end Runs

variable {db : Database} {t : Table} {columns : Option (List String)}
  {targets : List (Fin t.schema.length)} {groups : List (List Literal)}

theorem put_put (db : Database) {name : String} {new newer : Table} (h : new.name = name) :
    (db.put name new).put name newer = db.put name newer := by
  have hgo : ∀ ts : List Table,
      put.go name newer (put.go name new ts) = put.go name newer ts := by
    intro ts
    induction ts with
    | nil => rfl
    | cons head rest ih =>
      by_cases hname : head.name = name
      · simp [put.go, hname, h]
      · simp [put.go, hname, ih]
  exact congrArg Database.mk (hgo db.tables)

theorem find?_put_self (h : db.find? t.name = some t) {new : Table} (hn : new.name = t.name) :
    (db.put t.name new).find? t.name = some new := by
  have hgo : ∀ ts : List Table, ts.find? (·.name == t.name) = some t →
      (put.go t.name new ts).find? (·.name == t.name) = some new := by
    intro ts
    induction ts with
    | nil => exact nofun
    | cons head rest ih =>
      intro hf
      by_cases hname : head.name = t.name
      · simp [put.go, hname, hn]
      · simpa [put.go, hname] using ih (by simpa [hname] using hf)
  exact hgo db.tables h

theorem Built.insert_of_miscounted (h : db.Built) (ht : t ∈ db.tables)
    (htargets : t.schema.targets columns = .ok targets) {group : List Literal}
    (hg : groups.find? (·.length != targets.length) = some group) :
    db.apply (.insert t.name columns groups) =
      (db, .error (.columnCount targets.length group.length)) := by
  refine h.carryOut_of_error ht ?_
  rw [Plan.insert_eq, htargets]
  change checked ((groups.find? _).map _) _ = _
  rw [hg]
  rfl

/-- Groups that all have the right length are written one after another. -/
theorem Built.insert_of_counted (h : db.Built) (ht : t ∈ db.tables)
    (htargets : t.schema.targets columns = .ok targets)
    (hg : ∀ group ∈ groups, group.length = targets.length) :
    db.apply (.insert t.name columns groups) =
      (db.put t.name (t.perform (Table.inserts (t.schema.fill targets) groups)).1,
        (t.perform (Table.inserts (t.schema.fill targets) groups)).2.elim
          (.ok (.inserted groups.length)) .error) := by
  have hplan := Plan.insert_eq_ok.mpr ⟨targets, htargets, hg, rfl⟩
  have hresult : db.apply (.insert t.name columns groups) = _ := h.carryOut_eq ht hplan
  rw [hresult]
  dsimp only
  cases (t.perform (Table.inserts (t.schema.fill targets) groups)).2 <;> rfl

/-- Each group meets the table as the groups before it have left it. -/
theorem Built.runEach_insert (h : db.Built) (ht : t ∈ db.tables)
    (htargets : t.schema.targets columns = .ok targets)
    (hg : ∀ group ∈ groups, group.length = targets.length) :
    db.runEach Database.apply (groups.map fun group => .insert t.name columns [group]) =
      (db.put t.name (t.perform (Table.inserts (t.schema.fill targets) groups)).1,
        (t.perform (Table.inserts (t.schema.fill targets) groups)).2) := by
  induction groups generalizing db t with
  | nil => exact congrArg (·, none) (put_found (find?_of_nodup h.names ht)).symm
  | cons group rest ih =>
    obtain ⟨hgroup, hrest⟩ := List.forall_mem_cons.mp hg
    have hfirst := h.insert_of_counted ht htargets (List.forall_mem_singleton.mpr hgroup)
    rw [List.map_cons]
    cases hw : (t.schema.fill targets group >>= t.insert) with
    | error e =>
      have hone : ∀ rest, t.perform (Table.inserts (t.schema.fill targets) (group :: rest)) =
          (t, some e) := fun _ => Table.perform_cons_of_error hw
      rw [hone] at hfirst
      rw [hone, runEach_cons_of_error hfirst]
    | ok next =>
      have hone : ∀ rest, t.perform (Table.inserts (t.schema.fill targets) (group :: rest)) =
          next.perform (Table.inserts (t.schema.fill targets) rest) :=
        fun _ => Table.perform_cons_of_ok hw
      obtain ⟨hbuilt, hname⟩ := (Write.OfRows.insert _).keeps t next (h.tables t ht) hw
      have hrows := Table.RowsOnly.of_write (.insert _) (h.tables t ht).sound_fit.1 hw
      obtain ⟨same, hsame, hlength, hfill⟩ := Schema.targets_of_eq hrows.schema htargets
      have hmem : next ∈ (db.put t.name next).tables :=
        (find?_eq_some (find?_put_self (find?_of_nodup h.names ht) hname)).1
      have hothers := ih (h.put hbuilt hname) hmem hsame (by rwa [hlength])
      rw [hname, hfill, put_put db hname] at hothers
      rw [hone] at hfirst
      rw [hone, runEach_cons_of_ok hfirst]
      exact hothers

/-- All groups go in, or those before the first rejection do. -/
theorem Built.insert_cases (h : db.Built) (ht : t ∈ db.tables)
    (htargets : t.schema.targets columns = .ok targets)
    (hg : ∀ group ∈ groups, group.length = targets.length) :
    let result := db.apply (.insert t.name columns groups)
    let shown (rows : List Row) := db.tables.map fun other =>
      if other.name = t.name then t.sheet.extend rows else other.sheet
    (∃ rows, t.sheet.Accepts (t.schema.fill targets) groups rows ∧
        result.2 = .ok (.inserted groups.length) ∧
        result.1.tables.map Table.sheet = shown rows) ∨
      ∃ k added e, t.sheet.FirstRejection (t.schema.fill targets) groups k added e ∧
        result.2 = .error e ∧ result.1.tables.map Table.sheet = shown added := by
  intro result shown
  have hresult : result = _ := h.insert_of_counted ht htargets hg
  have hshown : ∀ rows, (t.perform (Table.inserts (t.schema.fill targets) groups)).1.sheet =
      t.sheet.extend rows → result.1.tables.map Table.sheet = shown rows := by
    intro rows hsheet
    rw [hresult, sheets_put h.names, hsheet]
  obtain ⟨rows, haccepts, hsheet, hnone⟩ | ⟨k, added, e, hfirst, hsheet, hsome⟩ :=
    (h.tables t ht).sound_fit.1.perform_inserts (fun _ _ => Schema.holds_of_fill) groups
  · refine Or.inl ⟨rows, haccepts, ?_, hshown rows hsheet⟩
    rw [hresult, hnone]
    rfl
  · refine Or.inr ⟨k, added, e, hfirst, ?_, hshown added hsheet⟩
    rw [hresult, hsome]
    rfl

theorem Built.insert_ok_iff (h : db.Built) (ht : t ∈ db.tables)
    (htargets : t.schema.targets columns = .ok targets) {outcome : Outcome} :
    (db.apply (.insert t.name columns groups)).2 = .ok outcome ↔
      outcome = .inserted groups.length ∧ (∀ group ∈ groups, group.length = targets.length) ∧
        ∃ rows, t.sheet.Accepts (t.schema.fill targets) groups rows := by
  cases hg : groups.find? (·.length != targets.length) with
  | some group =>
    rw [h.insert_of_miscounted ht htargets hg]
    have hwrong := List.find?_some hg
    refine ⟨nofun, fun hall => ?_⟩
    simp [hall.2.1 group (List.mem_of_find?_eq_some hg)] at hwrong
  | none =>
    have hcounted : ∀ group ∈ groups, group.length = targets.length := by simpa using hg
    obtain ⟨rows, haccepts, hok, -⟩ | ⟨k, added, e, hfirst, herror, -⟩ :=
      h.insert_cases ht htargets hcounted
    · rw [hok, Except.ok.injEq]
      exact ⟨fun heq => ⟨heq.symm, hcounted, rows, haccepts⟩, fun hall => hall.1.symm⟩
    · rw [herror]
      exact ⟨nofun, fun ⟨_, _, _, haccepts⟩ => absurd haccepts hfirst.not_accepts_all⟩

theorem Built.fault_insert_eq_none (h : db.Built) (ht : t ∈ db.tables)
    (htargets : t.schema.targets columns = .ok targets) (groups : List (List Literal)) :
    fault (db.apply (.insert t.name columns groups)).2 = none ↔
      (∀ group ∈ groups, group.length = targets.length) ∧
        ∃ rows, t.sheet.Accepts (t.schema.fill targets) groups rows := by
  cases hresult : (db.apply (.insert t.name columns groups)).2 with
  | ok outcome => exact ⟨fun _ => ((h.insert_ok_iff ht htargets).mp hresult).2, fun _ => rfl⟩
  | error e =>
    refine ⟨nofun, fun hall => ?_⟩
    have hdone := (h.insert_ok_iff ht htargets).mpr ⟨rfl, hall⟩
    rw [hresult] at hdone
    cases hdone

theorem Built.sheets_insert (h : db.Built) (ht : t ∈ db.tables)
    (htargets : t.schema.targets columns = .ok targets)
    (hg : ∀ group ∈ groups, group.length = targets.length) {rows : List Row}
    (hrows : t.sheet.Accepts (t.schema.fill targets) groups rows) :
    (db.apply (.insert t.name columns groups)).1.tables.map Table.sheet =
      db.tables.map fun other =>
        if other.name = t.name then t.sheet.extend rows else other.sheet := by
  obtain ⟨others, hothers, -, hsheets⟩ | ⟨k, added, e, hfirst, -, -⟩ :=
    h.insert_cases ht htargets hg
  · obtain rfl : others = rows := Except.ok.inj (hothers.filled.symm.trans hrows.filled)
    exact hsheets
  · exact absurd hrows hfirst.not_accepts_all

/-- The order of the groups decides over the order of the rows and over nothing else. -/
theorem Built.insert_perm (h : db.Built) (ht : t ∈ db.tables)
    (htargets : t.schema.targets columns = .ok targets) {order : List (List Literal)}
    (horder : order.Perm groups) :
    let result := db.apply (.insert t.name columns groups)
    let other := db.apply (.insert t.name columns order)
    let shown (rows : List Row) := db.tables.map fun other =>
      if other.name = t.name then t.sheet.extend rows else other.sheet
    (fault other.2 = none ↔ fault result.2 = none) ∧
      (fault result.2 = none → ∃ rows more, groups.mapM (t.schema.fill targets) = .ok rows ∧
        more.Perm rows ∧ result.1.tables.map Table.sheet = shown rows ∧
        other.1.tables.map Table.sheet = shown more) := by
  intro result other shown
  have hdone := h.fault_insert_eq_none ht htargets
  have hkept : ∀ {groups order : List (List Literal)}, order.Perm groups →
      fault (db.apply (.insert t.name columns groups)).2 = none →
      fault (db.apply (.insert t.name columns order)).2 = none := by
    intro groups order hperm hgroups
    obtain ⟨hcounted, rows, hrows⟩ := (hdone groups).mp hgroups
    obtain ⟨more, -, hmore⟩ := hrows.perm hperm
    exact (hdone order).mpr ⟨fun group hm => hcounted group (hperm.mem_iff.mp hm), more, hmore⟩
  refine ⟨⟨hkept horder.symm, hkept horder⟩, fun hgroups => ?_⟩
  obtain ⟨hcounted, rows, hrows⟩ := (hdone groups).mp hgroups
  obtain ⟨more, hperm, hmore⟩ := hrows.perm horder
  refine ⟨rows, more, hrows.filled, hperm, h.sheets_insert ht htargets hcounted hrows, ?_⟩
  exact h.sheets_insert ht htargets ((hdone order).mp (hkept horder hgroups)).1 hmore

/-- An insertion comes to the same as its groups inserted by themselves, one after another. If it
goes through it would in any order of the groups, and if not, as many of them stay as could go in. -/
theorem insert_group_by_group (actions : List Action) {t : Table}
    (ht : t ∈ (after actions).tables) {columns : Option (List String)}
    {targets : List (Fin t.schema.length)} (htargets : t.schema.targets columns = .ok targets)
    (groups : List (List Literal)) :
    let db := after actions
    let insertion (groups : List (List Literal)) : Change := .insert t.name columns groups
    let result := db.apply (insertion groups)
    let fill := t.schema.fill targets
    let counted := ∀ group ∈ groups, group.length = targets.length
    let shown (rows : List Row) := db.tables.map fun other =>
      if other.name = t.name then t.sheet.extend rows else other.sheet
    (∀ group, groups.find? (·.length != targets.length) = some group →
        result = (db, .error (.columnCount targets.length group.length))) ∧
      (counted → db.runEach Database.apply (groups.map fun group => insertion [group]) =
        (result.1, fault result.2)) ∧
      (∀ outcome, result.2 = .ok outcome ↔ outcome = .inserted groups.length ∧ counted ∧
        t.schema.Converts targets groups ∧
          ∃ rows, groups.mapM fill = .ok rows ∧ t.sheet.Fresh rows) ∧
      (∀ order, order.Perm groups →
        (fault (db.apply (insertion order)).2 = none ↔ fault result.2 = none) ∧
          (fault result.2 = none → ∃ rows more, groups.mapM fill = .ok rows ∧ more.Perm rows ∧
            result.1.tables.map Table.sheet = shown rows ∧
            (db.apply (insertion order)).1.tables.map Table.sheet = shown more)) ∧
      (counted → ∀ e, result.2 = .error e → ∃ k added,
        (∀ n, (∃ rows, t.sheet.Accepts fill (groups.take n) rows) ↔ n ≤ k) ∧
          t.sheet.Accepts fill (groups.take k) added ∧
          result.1.tables.map Table.sheet = shown added ∧
          ((∃ word kind, e = .unreadable word kind) ∨ ∃ name key, e = .duplicateKey name key)) ∧
      (∀ sql, Statement.read sql = .ok (.change (insertion groups)) → db.execute sql = result) ∧
      ∀ sqls, List.Forall₂ (fun sql group =>
          Statement.read sql = .ok (.change (insertion [group]))) sqls groups →
        db.runEach execute sqls =
          db.runEach Database.apply (groups.map fun group => insertion [group]) := by
  intro db insertion result fill counted shown
  have hbuilt := built_after actions
  refine ⟨?_, ?_, ?_, ?_, ?_, fun sql hread => execute_of_change hread db, ?_⟩
  · intro group hgroup
    exact hbuilt.insert_of_miscounted ht htargets hgroup
  · intro hcounted
    have hresult : result = _ := hbuilt.insert_of_counted ht htargets hcounted
    have heach := hbuilt.runEach_insert ht htargets hcounted
    rw [hresult]
    refine heach.trans (congrArg _ ?_)
    cases (t.perform (Table.inserts (t.schema.fill targets) groups)).2 <;> rfl
  · intro outcome
    refine (hbuilt.insert_ok_iff ht htargets).trans ?_
    refine and_congr_right fun _ => and_congr_right fun _ => ?_
    constructor
    · rintro ⟨rows, hfilled, hfresh⟩
      exact ⟨Schema.exists_rows.mp ⟨rows, hfilled⟩, rows, hfilled, hfresh⟩
    · rintro ⟨-, rows, hfilled, hfresh⟩
      exact ⟨rows, hfilled, hfresh⟩
  · intro order horder
    exact hbuilt.insert_perm ht htargets horder
  · intro hcounted e he
    obtain ⟨rows, -, hdone, -⟩ | ⟨k, added, e', hfirst, herror, hsheets⟩ :=
      hbuilt.insert_cases ht htargets hcounted
    · rw [he] at hdone
      cases hdone
    · obtain rfl : e = e' := Except.error.inj (he.symm.trans herror)
      obtain ⟨group, -, hrejects⟩ := hfirst.rejected
      exact ⟨k, added, fun n => hfirst.longest, hfirst.accepts, hsheets, hrejects.reason⟩
  · intro sqls hsqls
    refine runEach_congr (List.forall₂_map_right_iff.mpr ?_)
    exact hsqls.imp fun sql group hread => execute_of_change hread

/-- The columns are named in another order than the table has them. -/
theorem insert_group_by_group_halls :
    let result := (after halls).execute "INSERT INTO seat (place, hall) VALUES (7, 1), (NULL, 2)"
    result.2 = .ok (.inserted 2) ∧ result.1.tables.map Table.sheet =
        [⟨"seat", [⟨"hall", .int⟩, ⟨"place", .int⟩], {0, 1},
          [[.int 1, .int 2], [.int 1, .null], [.int 2, .int 2], [.int 2, .int 5],
            [.int 1, .int 7], [.int 2, .null]]⟩] ∧
      (after halls).runEach execute ["INSERT INTO seat (place, hall) VALUES (7, 1)",
        "INSERT INTO seat (place, hall) VALUES (NULL, 2)"] = (result.1, none) := by
  have hsql : Statement.read "INSERT INTO seat (place, hall) VALUES (7, 1), (NULL, 2)" =
      .ok (.change (.insert "seat" (some ["place", "hall"])
        [[.bare "7", .bare "1"], [.null, .bare "2"]])) := by
    decide +kernel
  have hseven : Statement.read "INSERT INTO seat (place, hall) VALUES (7, 1)" =
      .ok (.change (.insert "seat" (some ["place", "hall"]) [[.bare "7", .bare "1"]])) := by
    decide +kernel
  have hnull : Statement.read "INSERT INTO seat (place, hall) VALUES (NULL, 2)" =
      .ok (.change (.insert "seat" (some ["place", "hall"]) [[.null, .bare "2"]])) := by
    decide +kernel
  have hfound : Schema.targets [⟨"hall", .int⟩, ⟨"place", .int⟩] (some ["place", "hall"]) =
      .ok [1, 0] := by
    decide +kernel
  have hrows : [[.bare "7", .bare "1"], [.null, .bare "2"]].mapM
      (Schema.fill [⟨"hall", .int⟩, ⟨"place", .int⟩] [1, 0]) =
        .ok [[.int 1, .int 7], [.int 2, .null]] := by
    decide +kernel
  obtain ⟨t, htables, hsheet⟩ := after_halls
  have hname : t.name = "seat" := congrArg Sheet.name hsheet
  have hschema : t.schema = _ := congrArg Sheet.schema hsheet
  obtain ⟨targets, htargets, hlength, hfill⟩ := Schema.targets_of_eq hschema hfound
  have hfilled := hrows
  rw [← hfill] at hfilled
  have hfresh : t.sheet.Fresh [[.int 1, .int 7], [.int 2, .null]] := by
    rw [hsheet]
    decide +kernel
  obtain ⟨-, heach, hok, horder, -, hread, hreads⟩ :=
    insert_group_by_group halls (by simp [htables]) htargets
      [[.bare "7", .bare "1"], [.null, .bare "2"]]
  rw [hname] at heach hok horder hread hreads
  have hcounted : ∀ group ∈ [[Literal.bare "7", .bare "1"], [.null, .bare "2"]],
      group.length = targets.length := by
    simp [hlength]
  have hdone := (hok _).mpr ⟨rfl, hcounted, Schema.exists_rows.mp ⟨_, hfilled⟩, _, hfilled, hfresh⟩
  obtain ⟨rows, -, hagain, -, hsheets, -⟩ := (horder _ (.refl _)).2 (by rw [hdone]; rfl)
  obtain rfl := Except.ok.inj (hfilled.symm.trans hagain)
  rw [hread _ hsql]
  refine ⟨hdone, ?_, ?_⟩
  · rw [hsheets, htables]
    dsimp only
    rw [List.map_singleton, if_pos hname, hsheet]
    rfl
  · rw [hreads _ (.cons hseven (.cons hnull .nil)), heach hcounted, hdone]
    rfl

end Database

end Tabular
