import Tabular.Proofs.Database.Meaning
import Tabular.Proofs.Database.Reachable

namespace Tabular

namespace Database
open Table

variable {db : Database}

theorem find?_sheets (db : Database) (name : String) :
    (db.tables.map Table.sheet).find? (·.name == name) = (db.find? name).map Table.sheet := by
  rw [List.find?_map]
  rfl

theorem shows_table (h : ∀ t ∈ db.tables, t.Sound) (name : String) :
    Shows (db.table name) ((db.tables.map Table.sheet).find? (·.name == name)) := by
  rw [find?_sheets]
  unfold Database.table
  cases hf : db.find? name with
  | none => rfl
  | some t => exact ⟨h t (find?_eq_some hf).1, rfl⟩

theorem toOption_sides (clause : JoinClause) (left right : String) :
    (sides clause left right).toOption.map (fun (l, r) => (l.column, r.column)) =
      clause.columns? left right := by
  unfold sides JoinClause.columns?
  split
  · rfl
  · split <;> rfl

theorem shows_join (h : ∀ t ∈ db.tables, t.Sound) {left : Table} (hl : left.Sound)
    (clause : JoinClause) :
    Shows (db.join left clause) (((db.tables.map Table.sheet).find? (·.name == clause.table)).bind
      (clause.joined? left.sheet)) := by
  refine (shows_table h clause.table).bind fun right hr => ?_
  refine Shows.after_map (toOption_sides clause left.name right.name)
    fun (leftSide, rightSide) _ => ?_
  refine Shows.after_map (left.schema.toOption_resolve leftSide.column) fun l _ => ?_
  refine Shows.after_map (right.schema.toOption_resolve rightSide.column) fun r _ => ?_
  unfold Sheet.joinAs
  cases clause.kind with
  | inner => exact hl.join hr l r false
  | left => exact hl.join hr l r true
  | right => exact hr.join hl r l true

theorem shows_source (h : ∀ t ∈ db.tables, t.Sound) (q : Query) :
    Shows (db.source q) (q.working? (db.tables.map Table.sheet)) := by
  refine (shows_table h q.table).bind fun base hb => ?_
  cases q.join with
  | none => exact ⟨hb, rfl⟩
  | some clause => exact shows_join h hb clause

theorem toOption_project (schema : Schema) (p : Projection) :
    (project schema p).toOption = p.places? schema := by
  cases p with
  | all => rfl
  | names columns =>
    unfold project Projection.places?
    rw [toOption_mapM]
    congr 1
    funext name
    rw [← schema.toOption_resolve]
    cases schema.resolve name <;> rfl

theorem shows_filtered {t : Table} (h : t.Sound) (filter : Filter) (places : List Nat) :
    Shows (filtered t filter >>= (·.select places))
      ((filter.test t.schema).bind fun test => (t.sheet.keep test).pick places) := by
  cases filter with
  | none =>
    have hselect := h.select places
    rwa [← Sheet.pick_keep_all] at hselect
  | some predicates =>
    change Shows ((Condition.ofPredicates t.schema predicates >>= t.find) >>= _) _
    rw [bind_assoc]
    refine Shows.after_map (Condition.toOption_ofPredicates t.schema predicates) fun c _ => ?_
    exact Shows.bind (g := (·.pick places)) (h.find c) fun found hf => hf.select places

theorem shows_answer (h : ∀ t ∈ db.tables, t.Sound) (q : Query) :
    Shows (db.answer q) (q.meaning (db.tables.map Table.sheet)) := by
  refine (shows_source h q).bind fun working hw => ?_
  refine Shows.after (toOption_project working.schema q.projection) fun places _ => ?_
  exact shows_filtered hw q.filter places

theorem Built.nodup_sheets (h : db.Built) :
    ((db.tables.map Table.sheet).map Sheet.name).Nodup := by
  rw [List.map_map]
  exact h.names

/-- A query is answered where it makes sense, and the answer shows what it means. -/
theorem answer_eq_meaning (actions : List Action) (q : Query) :
    let db := after actions
    let sheets := db.tables.map Table.sheet
    ((∃ t, db.answer q = .ok t) ↔ q.Answerable sheets) ∧
      (∀ t, db.answer q = .ok t → q.meaning sheets = some t.sheet) ∧
      ∀ sql, Statement.read sql = .ok (.query q) →
        db.query sql = db.answer q ∧ db.execute sql = (db, (db.answer q).map .selected) := by
  intro db sheets
  have hbuilt := built_after actions
  have hshows : Shows (db.answer q) (q.meaning sheets) :=
    shows_answer (fun t ht => (hbuilt.tables t ht).sound_fit.1) q
  rw [← Query.isSome_meaning hbuilt.nodup_sheets]
  refine ⟨?_, ?_, ?_⟩
  · cases ha : db.answer q with
    | error e =>
      rw [ha] at hshows
      rw [show q.meaning sheets = none from hshows]
      exact ⟨fun ⟨_, h⟩ => (nomatch h), nofun⟩
    | ok t =>
      rw [ha] at hshows
      rw [hshows.2]
      exact ⟨fun _ => rfl, fun _ => ⟨t, rfl⟩⟩
  · intro t ha
    rw [ha] at hshows
    exact hshows.2
  · intro sql hread
    unfold Database.query execute
    rw [hread]
    exact ⟨rfl, rfl⟩

/-- Halls and seats under keys, and on both sides a row without a partner. -/
def seated : List Action :=
  [.execute "CREATE TABLE hall (id INT, name VARCHAR(9), PRIMARY KEY (id))",
    .execute "INSERT INTO hall VALUES (1, 'east'), (NULL, 'west'), (3, 'north')",
    .execute "CREATE TABLE seat (hall INT, place INT, PRIMARY KEY (place))",
    .execute "INSERT INTO seat VALUES (1, 10), (1, 11), (NULL, 12), (4, 13), (1, 14)"]

def seating : Query :=
  ⟨.names ["hall", "name", "hall"], "hall",
    some ⟨.right, "seat", ⟨"seat", "hall"⟩, ⟨"hall", "id"⟩⟩,
    some [⟨false, false, "place", .gt, .bare "10"⟩, ⟨true, true, "name", .eq, .quoted "east"⟩,
      ⟨false, false, "place", .lt, .bare "0"⟩]⟩

def seatingText : String :=
  "SELECT hall, name, hall FROM hall RIGHT JOIN seat ON seat.hall = hall.id " ++
    "WHERE place > 10 OR NOT name = 'east' AND place < 0;"

theorem answer_eq_meaning_seating :
    ∃ t, (after seated).query seatingText = .ok t ∧
      t.name = "seat" ∧ t.schema = [⟨"hall", .int⟩, ⟨"name", .text⟩, ⟨"hall", .int⟩] ∧ t.key = [] ∧
      t.rows = [[.int 1, .text "east", .int 1], [.null, .text "west", .null],
        [.int 4, .null, .int 4], [.int 1, .text "east", .int 1]] := by
  obtain ⟨hiff, hmeans, hread⟩ := answer_eq_meaning seated seating
  have hmeaning : (seating.meaning ((after seated).tables.map Table.sheet)).map
      (fun s => (s.name, s.schema, s.key, s.rows)) = some ("seat",
        [⟨"hall", .int⟩, ⟨"name", .text⟩, ⟨"hall", .int⟩], ∅,
        [[.int 1, .text "east", .int 1], [.null, .text "west", .null],
          [.int 4, .null, .int 4], [.int 1, .text "east", .int 1]]) := by
    decide +kernel
  have hsome : (seating.meaning ((after seated).tables.map Table.sheet)).isSome = true := by
    rw [← Option.isSome_map, hmeaning]
    rfl
  obtain ⟨t, ht⟩ := hiff.mpr
    ((Query.isSome_meaning (built_after seated).nodup_sheets seating).mp hsome)
  rw [hmeans t ht] at hmeaning
  simp only [Option.map_some, Option.some.injEq, Prod.mk.injEq] at hmeaning
  obtain ⟨hname, hschema, hkey, hrows⟩ := hmeaning
  refine ⟨t, (hread _ (by decide +kernel)).1.trans ht, hname, hschema, ?_, hrows⟩
  exact (List.toFinset_eq_empty_iff _).mp hkey

end Database

end Tabular
