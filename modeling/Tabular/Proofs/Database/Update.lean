import Tabular.Proofs.Condition
import Tabular.Proofs.Database.Reachable

namespace Tabular

/-- The places of the rows that pass a test, from the first row on. -/
def Sheet.chosen (s : Sheet) (test : Row → Bool) : List Nat :=
  (List.range s.rows.length).filter fun place => s.rows[place]?.any test

namespace Table

variable {t : Table} {name : String} {column : Nat} {field : Field} {v : Value}
  {literal : Literal} {filter : Filter} {test : Row → Bool}

theorem lt_of_mem_chosen : ∀ place ∈ t.sheet.chosen test, place < t.rows.length :=
  fun _ hm => List.mem_range.mp (List.mem_of_mem_filter hm)

theorem Built.perform_updates (h : t.Built) (places : List Nat) (column : Nat) (v : Value) :
    (t.perform (updates places column v)).1.Built ∧
      (t.perform (updates places column v)).1.name = t.name := by
  exact h.perform (List.forall_mem_map.mpr fun place _ => .update place column v)

theorem Sound.lt_length_row (h : t.Sound) (hf : t.schema[column]? = some field) :
    ∀ row ∈ t.sheet.rows, column < row.length := by
  intro row hr
  rw [(h.holds hr).1]
  exact (List.getElem?_eq_some_iff.mp hf).1

/-- None of the writes is refused just if the table can hold all of them. -/
theorem Built.perform_updates_eq_none (h : t.Built) (hf : t.schema[column]? = some field)
    (hl : Value.ofLiteral field.kind literal = .ok v) {places : List Nat}
    (hp : ∀ place ∈ places, place < t.rows.length) :
    (t.perform (updates places column v)).2 = none ↔
      (t.sheet.overwrite places column v).Keyed := by
  obtain ⟨hsound, hfit⟩ := h.sound_fit
  have ha := Field.refusal_ofLiteral hl
  have hv := Value.same_self (Field.finite_of_accepted ha)
  obtain ⟨hall, hnone⟩ | ⟨k, row, hfirst, -, hsome⟩ := hsound.perform_updates hf ha hp
  · have hkeyed := (h.perform_updates places column v).1.sound_fit.2.keyed
    rw [hall] at hkeyed
    exact ⟨fun _ => hkeyed, fun _ => hnone⟩
  · have hnot := hfirst.not_keyed hfit.keyed (hsound.lt_length_row hf) hv
    rw [hsome]
    exact ⟨nofun, fun hkeyed => absurd hkeyed hnot⟩

end Table

namespace Plan

variable {t : Table} {name : String} {column : Nat} {field : Field} {v : Value}
  {literal : Literal} {filter : Filter} {test : Row → Bool}

theorem matching_eq (h : t.Sound) (htest : filter.test t.schema = some test) :
    matching t filter = .ok (t.sheet.chosen test) := by
  have hlength : t.sheet.rows.length = t.rowCount := h.length_rows
  unfold Sheet.chosen
  rw [hlength]
  cases filter with
  | none =>
    cases htest
    refine congrArg Except.ok (List.filter_eq_self.mpr fun place hm => ?_).symm
    have hlt : place < t.sheet.rows.length := by
      rw [hlength]
      exact List.mem_range.mp hm
    simp [hlt]
  | some predicates =>
    have hmade := Condition.toOption_ofPredicates t.schema predicates
    rw [htest] at hmade
    obtain ⟨condition, hc, rfl⟩ := Option.map_eq_some_iff.mp hmade
    change (Condition.ofPredicates t.schema predicates >>= _) = _
    rw [toOption_eq_some.mp hc]
    refine congrArg Except.ok (List.filter_congr fun place _ => ?_)
    rw [← h.getElem?_rows]
    rfl

theorem update_eq (h : t.Sound) (hcolumn : t.schema.place? name = some column)
    (hf : t.schema[column]? = some field) (hl : Value.ofLiteral field.kind literal = .ok v)
    (htest : filter.test t.schema = some test) :
    update t name literal filter = .ok ⟨Table.updates (t.sheet.chosen test) column v,
      .updated (t.sheet.chosen test).length⟩ := by
  rw [← t.schema.toOption_resolve] at hcolumn
  obtain ⟨target, hresolve, rfl⟩ := Option.map_eq_some_iff.mp hcolumn
  have hget : t.schema.get target = field := by simpa using hf
  rw [← hget] at hl
  unfold update
  rw [toOption_eq_some.mp hresolve, matching_eq h htest]
  change (Value.ofLiteral (t.schema.get target).kind literal >>= _) = _
  rw [hl]
  rfl

end Plan

namespace Database

variable {db : Database}

theorem execute_of_change {sql : String} {c : Change} (h : Statement.read sql = .ok (.change c))
    (db : Database) : db.execute sql = db.apply c := by
  unfold execute
  rw [h]

theorem Built.table_eq (h : db.Built) {t : Table} (ht : t ∈ db.tables) :
    db.table t.name = .ok t := by
  have hfind : db.find? t.name = some t := find?_of_nodup h.names ht
  unfold Database.table
  rw [hfind]

/-- Under distinct names, one table is replaced and the others stay. -/
theorem tables_put {name : String} {new : Table} (h : db.names.Nodup) :
    (db.put name new).tables =
      db.tables.map fun other => if other.name = name then new else other := by
  have hgo : ∀ ts : List Table, (ts.map Table.name).Nodup →
      put.go name new ts = ts.map fun other => if other.name = name then new else other := by
    intro ts hnodup
    induction ts with
    | nil => rfl
    | cons head rest ih =>
      obtain ⟨hfree, hrest⟩ := List.nodup_cons.mp hnodup
      unfold put.go
      rw [List.map_cons]
      by_cases hname : head.name = name
      · subst hname
        have hothers :
            (rest.map fun other => if other.name = head.name then new else other) = rest := by
          refine (List.map_congr_left fun other ho => ?_).trans (List.map_id rest)
          exact if_neg fun heq => hfree (List.mem_map.mpr ⟨other, ho, heq⟩)
        simp [hothers]
      · rw [if_neg (by simpa using hname), if_neg hname, ih hrest]
  exact hgo db.tables h

theorem sheets_put {name : String} {new : Table} (h : db.names.Nodup) :
    (db.put name new).tables.map Table.sheet =
      db.tables.map fun other => if other.name = name then new.sheet else other.sheet := by
  rw [tables_put h, List.map_map]
  refine List.map_congr_left fun other _ => ?_
  simp only [Function.comp_apply]
  split <;> rfl

theorem Built.carryOut_of_error (h : db.Built) {t : Table} (ht : t ∈ db.tables)
    {plan : Table → Except Error Plan} {e : Error} (hplan : plan t = .error e) :
    db.carryOut t.name plan = (db, .error e) := by
  unfold Database.carryOut
  rw [h.table_eq ht]
  dsimp only
  rw [hplan]

/-- The writes of a plan that can be made are performed, and what they leave replaces the table. -/
theorem Built.carryOut_eq (h : db.Built) {t : Table} (ht : t ∈ db.tables)
    {plan : Table → Except Error Plan} {found : Plan} (hplan : plan t = .ok found) :
    db.carryOut t.name plan = (db.put t.name (t.perform found.writes).1,
      match (t.perform found.writes).2 with
      | none => .ok found.outcome
      | some e => .error e) := by
  unfold Database.carryOut
  rw [h.table_eq ht]
  dsimp only
  rw [hplan]
  dsimp only
  rcases t.perform found.writes with ⟨new, _ | e⟩ <;> rfl

/-- An update changes all of its rows at once or, if two rows would then share the key, those before
the first that collides. The order of the rows decides how far it gets, but not if it succeeds. -/
theorem update_at_once (actions : List Action) {t : Table} (ht : t ∈ (after actions).tables)
    {name : String} {literal : Literal} {filter : Filter} {column : Nat} {field : Field} {v : Value}
    {test : Row → Bool} (hcolumn : t.schema.place? name = some column)
    (hfield : t.schema[column]? = some field)
    (hliteral : Value.ofLiteral field.kind literal = .ok v)
    (hfilter : filter.test t.schema = some test) :
    let db := after actions
    let result := db.apply (.update t.name name literal filter)
    let chosen := t.sheet.chosen test
    let changed := t.sheet.overwrite chosen column v
    let shown (s : Sheet) := db.tables.map fun other =>
      if other.name = t.name then s else other.sheet
    ((result.2 = .ok (.updated chosen.length) ∧ result.1.tables.map Table.sheet = shown changed) ↔
        changed.Keyed) ∧
      (¬ changed.Keyed → ∃ k row, t.sheet.FirstCollision chosen column v k row ∧
        result.2 = .error (t.sheet.duplicate (row.set column v)) ∧
        result.1.tables.map Table.sheet =
          shown (t.sheet.overwrite (chosen.take k) column v)) ∧
      (∀ order, order.Perm chosen →
        ((t.perform (Table.updates order column v)).2 = none ↔ changed.Keyed)) ∧
      ∀ sql, Statement.read sql = .ok (.change (.update t.name name literal filter)) →
        db.execute sql = result := by
  intro db result chosen changed shown
  have hbuilt := built_after actions
  have htable := hbuilt.tables t ht
  obtain ⟨hsound, hfit⟩ := htable.sound_fit
  have ha := Field.refusal_ofLiteral hliteral
  have hplaces : ∀ place ∈ chosen, place < t.rows.length := Table.lt_of_mem_chosen
  have hresult : result = _ :=
    hbuilt.carryOut_eq ht (Plan.update_eq hsound hcolumn hfield hliteral hfilter)
  have hshown : result.1.tables.map Table.sheet =
      shown (t.perform (Table.updates chosen column v)).1.sheet := by
    rw [hresult]
    exact sheets_put hbuilt.names
  have hall := htable.perform_updates_eq_none hfield hliteral hplaces
  have houtcome : ∀ fault, (t.perform (Table.updates chosen column v)).2 = fault →
      result.2 = match fault with
        | none => .ok (.updated chosen.length)
        | some e => .error e := by
    rintro _ rfl
    rw [hresult]
  have hperformed := hsound.perform_updates hfield ha hplaces
  rw [hshown]
  refine ⟨⟨?_, ?_⟩, ?_, ?_, ?_⟩
  · rintro ⟨hok, -⟩
    rw [← hall]
    cases hfault : (t.perform (Table.updates chosen column v)).2 with
    | none => rfl
    | some e =>
      rw [houtcome _ hfault] at hok
      cases hok
  · intro hkeyed
    refine ⟨houtcome _ (hall.mpr hkeyed), congrArg shown ?_⟩
    obtain ⟨hsheet, -⟩ | ⟨k, row, -, -, hsome⟩ := hperformed
    · exact hsheet
    · rw [hall.mpr hkeyed] at hsome
      cases hsome
  · intro hnot
    obtain ⟨-, hnone⟩ | ⟨k, row, hfirst, hsheet, hsome⟩ := hperformed
    · exact absurd (hall.mp hnone) hnot
    · exact ⟨k, row, hfirst, houtcome _ hsome, congrArg shown hsheet⟩
  · intro order horder
    have hsame : t.sheet.overwrite order column v = changed :=
      Sheet.overwrite_congr fun place => horder.mem_iff
    rw [← hsame]
    exact htable.perform_updates_eq_none hfield hliteral fun place hm =>
      hplaces place (horder.mem_iff.mp hm)
  · intro sql hread
    unfold execute
    rw [hread]

/-- Two halls with a seat of one number, and a seat without any. -/
def halls : List Action :=
  [.execute "CREATE TABLE seat (hall INT, place INT, PRIMARY KEY (hall, place))",
    .execute "INSERT INTO seat VALUES (1, 2), (1, NULL), (2, 2), (2, 5)"]

theorem after_halls : ∃ t, (after halls).tables = [t] ∧
    t.sheet = ⟨"seat", [⟨"hall", .int⟩, ⟨"place", .int⟩], {0, 1},
      [[.int 1, .int 2], [.int 1, .null], [.int 2, .int 2], [.int 2, .int 5]]⟩ := by
  have hshown : (after halls).tables.map (fun t => (t.name, t.schema, t.key, t.rows)) =
      [("seat", [⟨"hall", .int⟩, ⟨"place", .int⟩], [0, 1],
        [[.int 1, .int 2], [.int 1, .null], [.int 2, .int 2], [.int 2, .int 5]])] := by
    decide +kernel
  obtain ⟨t, htables, heq⟩ := List.map_eq_singleton_iff.mp hshown
  simp only [Prod.mk.injEq] at heq
  obtain ⟨hname, hschema, hkey, hrows⟩ := heq
  refine ⟨t, htables, ?_⟩
  unfold Table.sheet
  rw [hname, hschema, hkey, hrows]
  rfl

def moved : Filter :=
  some [⟨false, false, "place", .eq, .bare "5"⟩, ⟨true, false, "hall", .eq, .bare "1"⟩]

theorem update_at_once_moved :
    let result := (after halls).execute "UPDATE seat SET hall = 1 WHERE place = 5 OR hall = 1"
    result.2 = .ok (.updated 3) ∧ result.1.tables.map Table.sheet =
      [⟨"seat", [⟨"hall", .int⟩, ⟨"place", .int⟩], {0, 1},
        [[.int 1, .int 2], [.int 1, .null], [.int 2, .int 2], [.int 1, .int 5]]⟩] := by
  have hshown : (after halls).tables.map (fun t => (t.name, t.schema, t.key, t.rows)) =
      [("seat", [⟨"hall", .int⟩, ⟨"place", .int⟩], [0, 1],
        [[.int 1, .int 2], [.int 1, .null], [.int 2, .int 2], [.int 2, .int 5]])] := by
    decide +kernel
  have hwritten : (after halls).tables.map
      (fun t => (t.perform (Table.updates [0, 1, 3] 0 (.int 1))).2) = [none] := by
    decide +kernel
  obtain ⟨t, htables, heq⟩ := List.map_eq_singleton_iff.mp hshown
  simp only [Prod.mk.injEq] at heq
  obtain ⟨hname, hschema, hkey, hrows⟩ := heq
  have hnone : (t.perform (Table.updates [0, 1, 3] 0 (.int 1))).2 = none := by
    simpa [htables] using hwritten
  have ht : t ∈ (after halls).tables := by
    rw [htables]
    exact List.mem_singleton_self t
  have hsheet : t.sheet = ⟨"seat", [⟨"hall", .int⟩, ⟨"place", .int⟩], {0, 1},
      [[.int 1, .int 2], [.int 1, .null], [.int 2, .int 2], [.int 2, .int 5]]⟩ := by
    unfold Table.sheet
    rw [hname, hschema, hkey, hrows]
    rfl
  have hplace : t.schema.place? "hall" = some 0 := by
    rw [hschema]
    rfl
  have hfield : t.schema[0]? = some ⟨"hall", .int⟩ := by
    rw [hschema]
    rfl
  have hliteral : Value.ofLiteral (Field.mk "hall" .int).kind (.bare "1") = .ok (.int 1) := by
    decide +kernel
  have hchosen : (moved.test t.schema).map t.sheet.chosen = some [0, 1, 3] := by
    rw [hschema, hsheet]
    decide +kernel
  obtain ⟨test, htest, hchosen⟩ := Option.map_eq_some_iff.mp hchosen
  obtain ⟨hsuccess, -, horder, hread⟩ := update_at_once halls ht hplace hfield hliteral htest
  rw [hchosen] at hsuccess horder
  have hkeyed := (horder [0, 1, 3] (List.Perm.refl _)).mp hnone
  have hsql : Statement.read "UPDATE seat SET hall = 1 WHERE place = 5 OR hall = 1" =
      .ok (.change (.update t.name "hall" (.bare "1") moved)) := by
    rw [hname]
    decide +kernel
  rw [hread _ hsql]
  refine ⟨(hsuccess.mpr hkeyed).1, (hsuccess.mpr hkeyed).2.trans ?_⟩
  rw [htables, hsheet]
  dsimp only [List.map_singleton]
  rw [if_pos rfl]
  rfl

end Database

end Tabular
