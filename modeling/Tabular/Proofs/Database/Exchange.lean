import Tabular.Proofs.Database.Answer
import Tabular.Proofs.Table.Mates

namespace Tabular

def JoinClause.exchange (clause : JoinClause) : JoinClause :=
  { clause with first := clause.second, second := clause.first }

def Query.exchange (q : Query) : Query :=
  { q with join := q.join.map JoinClause.exchange }

/-- What the query makes of the rows that it works on. -/
def Query.cut (q : Query) (working : Sheet) : Option Sheet := do
  let places ← q.projection.places? working.schema
  let test ← q.filter.test working.schema
  (working.keep test).pick places

namespace Database

theorem sides_exchange {left right : String} (h : left ≠ right) (clause : JoinClause) :
    Concur Eq (sides clause left right) (sides clause.exchange left right) := by
  unfold sides JoinClause.exchange
  dsimp only
  by_cases hwritten : clause.first.table = left ∧ clause.second.table = right
  · have hother : ¬(clause.second.table = left ∧ clause.first.table = right) :=
      fun hs => h (hwritten.1.symm.trans hs.2)
    rw [if_pos hwritten, if_neg hother, if_pos hwritten]
    exact .ok rfl
  · rw [if_neg hwritten]
    by_cases hother : clause.second.table = left ∧ clause.first.table = right
    · rw [if_pos hother, if_pos hother]
      exact .ok rfl
    · rw [if_neg hother, if_neg hother, if_neg hwritten]
      exact .error rfl

theorem sides_same (clause : JoinClause) (name : String) :
    sides clause name name = if clause.first.table = name ∧ clause.second.table = name then
      .ok (clause.first, clause.second)
      else .error (.badSyntax (.unrelated clause.first clause.second name name)) := by
  unfold sides
  split
  · rfl
  · rename_i h
    rw [and_comm] at h
    rw [if_neg h]

/-- Between two copies of a table the sides change places. -/
theorem sides_exchange_same (clause : JoinClause) (name : String) :
    Concur (fun written other => other = written.swap) (sides clause name name)
      (sides clause.exchange name name) := by
  rw [sides_same, sides_same]
  unfold JoinClause.exchange
  dsimp only
  by_cases hboth : clause.first.table = name ∧ clause.second.table = name
  · rw [if_pos hboth, if_pos hboth.symm]
    exact .ok rfl
  · rw [if_neg hboth, if_neg fun hs => hboth hs.symm]
    exact .error rfl

end Database

theorem JoinClause.columns?_exchange {left right : String} (h : left ≠ right)
    (clause : JoinClause) : clause.exchange.columns? left right = clause.columns? left right := by
  rw [← Database.toOption_sides, ← Database.toOption_sides,
    (Database.sides_exchange h clause).toOption_eq]

theorem JoinClause.columns?_same (clause : JoinClause) (name : String) :
    clause.columns? name name = if clause.first.table = name ∧ clause.second.table = name then
      some (clause.first.column, clause.second.column) else none := by
  rw [← Database.toOption_sides, Database.sides_same]
  split <;> rfl

theorem JoinClause.joined?_exchange {left right : Sheet} (h : left.name ≠ right.name)
    (clause : JoinClause) : clause.exchange.joined? left right = clause.joined? left right := by
  unfold joined?
  rw [columns?_exchange h]
  rfl

/-- Where both copies have the one name, the order of the two sides decides. -/
theorem JoinClause.joined?_same (clause : JoinClause) (s : Sheet) :
    clause.joined? s s = if clause.first.table = s.name ∧ clause.second.table = s.name then
      (s.schema.place? clause.first.column).bind fun l =>
        (s.schema.place? clause.second.column).bind fun r => Sheet.joinAs clause.kind s s l r
      else none := by
  unfold joined?
  rw [columns?_same]
  split <;> rfl

theorem JoinClause.joined?_exchange_same (clause : JoinClause) (s : Sheet) :
    clause.exchange.joined? s s = clause.joined? s s ∨
      ∃ l r, clause.first.table = s.name ∧ clause.second.table = s.name ∧
        s.schema.place? clause.first.column = some l ∧
        s.schema.place? clause.second.column = some r := by
  rw [joined?_same, joined?_same]
  unfold exchange
  dsimp only
  by_cases hboth : clause.first.table = s.name ∧ clause.second.table = s.name
  · rw [if_pos hboth, if_pos hboth.symm]
    cases hl : s.schema.place? clause.first.column with
    | none =>
      refine .inl ?_
      cases s.schema.place? clause.second.column <;> rfl
    | some l =>
      cases hr : s.schema.place? clause.second.column with
      | none => exact .inl rfl
      | some r => exact .inr ⟨l, r, hboth.1, hboth.2, rfl, rfl⟩
  · rw [if_neg hboth, if_neg fun hs => hboth hs.symm]
    exact .inl rfl

theorem Schema.resolve_eq_error {schema : Schema} {name : String} {e : Error}
    (h : schema.resolve name = .error e) : e = .missing (.column name) := by
  unfold Schema.resolve at h
  split at h
  · cases h
  · exact (Except.error.inj h).symm

namespace Table

def joinAs (kind : JoinKind) (left right : Table) (l r : Nat) : Except Error Table :=
  match kind with
  | .inner => left.innerJoin right l r
  | .left => left.leftJoin right l r
  | .right => left.rightJoin right l r

theorem Sound.shows_joinAs {left right : Table} (hl : left.Sound) (hr : right.Sound)
    (kind : JoinKind) (l r : Nat) :
    Shows (joinAs kind left right l r) (Sheet.joinAs kind left.sheet right.sheet l r) := by
  cases kind with
  | inner => exact hl.join hr l r false
  | left => exact hl.join hr l r true
  | right => exact hr.join hl r l true

theorem Sound.concur_joinAs_self {t : Table} (h : t.Sound) {l r : Nat} {x y : Field}
    (hx : t.schema[l]? = some x) (hy : t.schema[r]? = some y) (kind : JoinKind) :
    Concur Mates (joinAs kind t t l r) (joinAs kind t t r l) := by
  cases kind with
  | inner => exact h.concur_join_self hx hy false
  | left => exact h.concur_join_self hx hy true
  | right => exact h.concur_join_self hy hx true

end Table

theorem Query.meaning_eq (sheets : List Sheet) (q : Query) :
    q.meaning sheets = (q.working? sheets).bind q.cut := rfl

namespace Database
open Table

variable {db : Database} {q : Query} {clause : JoinClause} {t left : Table} {l r : Nat}

/-- The answers show the same sheet, or they are errors of one class. -/
def SameAnswer : Except Error Table → Except Error Table → Prop :=
  Concur fun a b => a.sheet = b.sheet

/-- The query joins a table with itself: the side that is written first is the column at one place,
the other side that at another place. -/
structure JoinsItself (db : Database) (q : Query) (clause : JoinClause) (t : Table) (l r : Nat) :
    Prop where
  base : db.table q.table = .ok t
  join : q.join = some clause
  joined : clause.table = q.table
  first : clause.first.table = q.table
  second : clause.second.table = q.table
  left : t.schema.place? clause.first.column = some l
  right : t.schema.place? clause.second.column = some r

theorem SameAnswer.rows {x y : Except Error Table} (h : SameAnswer x y) :
    x.toOption.map Table.rows = y.toOption.map Table.rows := by
  cases h with
  | error h => rfl
  | ok h => exact congrArg (fun s => some s.rows) h

theorem JoinsItself.exchange (h : db.JoinsItself q clause t l r) :
    db.JoinsItself q.exchange clause.exchange t r l := by
  refine ⟨h.base, ?_, h.joined, h.second, h.first, h.right, h.left⟩
  unfold Query.exchange
  rw [h.join]
  rfl

theorem table_eq_ok {name : String} : db.table name = .ok t ↔ db.find? name = some t := by
  unfold Database.table
  cases db.find? name <;> simp

theorem JoinsItself.meaning_eq (h : db.JoinsItself q clause t l r) :
    q.meaning (db.tables.map Table.sheet) =
      (Sheet.joinAs clause.kind t.sheet t.sheet l r).bind q.cut := by
  have hfind := table_eq_ok.mp h.base
  have hname : t.name = q.table := (find?_eq_some hfind).2
  have hjoined : clause.joined? t.sheet t.sheet =
      Sheet.joinAs clause.kind t.sheet t.sheet l r := by
    rw [JoinClause.joined?_same,
      if_pos ⟨h.first.trans hname.symm, h.second.trans hname.symm⟩,
      show t.sheet.schema.place? clause.first.column = some l from h.left,
      show t.sheet.schema.place? clause.second.column = some r from h.right]
    rfl
  have hworking : q.working? (db.tables.map Table.sheet) =
      Sheet.joinAs clause.kind t.sheet t.sheet l r := by
    unfold Query.working?
    rw [find?_sheets, hfind, h.join]
    change ((db.tables.map Table.sheet).find? (·.name == clause.table)).bind _ = _
    rw [h.joined, find?_sheets, hfind]
    exact hjoined
  rw [Query.meaning_eq, hworking]

/-- What a clause makes of the two tables. -/
def joining (clause : JoinClause) (left right : Table) : Except Error Table := do
  let (leftSide, rightSide) ← sides clause left.name right.name
  let l ← left.schema.resolve leftSide.column
  let r ← right.schema.resolve rightSide.column
  joinAs clause.kind left right l r

theorem join_eq (left : Table) (clause : JoinClause) :
    db.join left clause = db.table clause.table >>= joining clause left := by
  unfold Database.join joining joinAs
  cases clause.kind <;> rfl

theorem joining_exchange (hl : left.Sound) {right : Table} (hr : right.Sound)
    (h : left.name ≠ right.name) (clause : JoinClause) :
    Concur Mates (joining clause left right) (joining clause.exchange left right) := by
  refine (sides_exchange h clause).bind ?_
  rintro ⟨leftSide, rightSide⟩ _ rfl
  refine .self fun t ht => ?_
  obtain ⟨l, -, ht⟩ := bind_eq_ok.mp ht
  obtain ⟨r, -, ht⟩ := bind_eq_ok.mp ht
  have hshows := hl.shows_joinAs hr clause.kind l r
  rw [show joinAs clause.kind left right l r = .ok t from ht] at hshows
  exact hshows.1.mates

theorem joining_exchange_same (h : t.Sound) (clause : JoinClause) :
    Concur Mates (joining clause t t) (joining clause.exchange t t) := by
  refine (sides_exchange_same clause t.name).bind ?_
  rintro ⟨first, second⟩ _ rfl
  dsimp only [Prod.swap]
  cases hf : t.schema.resolve first.column with
  | error e =>
    obtain rfl := Schema.resolve_eq_error hf
    cases hs : t.schema.resolve second.column with
    | error e =>
      obtain rfl := Schema.resolve_eq_error hs
      exact .error rfl
    | ok r => exact .error rfl
  | ok l =>
    cases hs : t.schema.resolve second.column with
    | error e =>
      obtain rfl := Schema.resolve_eq_error hs
      exact .error rfl
    | ok r =>
      exact h.concur_joinAs_self (List.getElem?_eq_getElem l.isLt)
        (List.getElem?_eq_getElem r.isLt) clause.kind

theorem sound_table (h : ∀ t ∈ db.tables, t.Sound) {name : String} (ht : db.table name = .ok t) :
    t.Sound :=
  h t (find?_eq_some (table_eq_ok.mp ht)).1

theorem concur_source (h : ∀ t ∈ db.tables, t.Sound) (q : Query) :
    Concur Mates (db.source q) (db.source q.exchange) := by
  change Concur Mates (db.table q.table >>= _) (db.table q.table >>= _)
  refine Concur.bind (R := fun left other => left = other ∧ db.table q.table = .ok left)
    (.self fun left hleft => ⟨rfl, hleft⟩) ?_
  rintro left _ ⟨rfl, hleft⟩
  unfold Query.exchange
  cases hjoin : q.join with
  | none => exact .ok (sound_table h hleft).mates
  | some clause =>
    change Concur Mates (db.join left clause) (db.join left clause.exchange)
    rw [join_eq, join_eq]
    change Concur Mates (db.table clause.table >>= _) (db.table clause.table >>= _)
    refine Concur.bind (R := fun right other => right = other ∧ db.table clause.table = .ok right)
      (.self fun right hright => ⟨rfl, hright⟩) ?_
    rintro right _ ⟨rfl, hright⟩
    by_cases hname : left.name = right.name
    · have hfirst := table_eq_ok.mp hleft
      have hsecond := table_eq_ok.mp hright
      have heq : q.table = clause.table := by
        rw [← (find?_eq_some hfirst).2, hname, (find?_eq_some hsecond).2]
      rw [heq, hsecond] at hfirst
      cases hfirst
      exact joining_exchange_same (sound_table h hleft) clause
    · exact joining_exchange (sound_table h hleft) (sound_table h hright) hname clause

theorem concur_filtered {a b : Table} (h : Mates a b) (filter : Filter) :
    Concur Mates (filtered a filter) (filtered b filter) := by
  cases filter with
  | none => exact .ok h
  | some predicates =>
    change Concur Mates (Condition.ofPredicates a.schema predicates >>= a.find)
      (Condition.ofPredicates b.schema predicates >>= b.find)
    rw [← h.schema]
    exact (Concur.self fun _ _ => rfl).bind (R := Eq) fun c _ hc => hc ▸ h.find c

theorem concur_answer (h : ∀ t ∈ db.tables, t.Sound) (q : Query) :
    Concur Mates (db.answer q) (db.answer q.exchange) := by
  refine (concur_source h q).bind fun a b hab => ?_
  change Concur Mates (project a.schema q.projection >>= _) (project b.schema q.projection >>= _)
  rw [← hab.schema]
  refine (Concur.self fun _ _ => rfl).bind (R := Eq) ?_
  rintro places _ rfl
  exact (concur_filtered hab q.filter).bind fun _ _ hkept => hkept.select places

/-- Only where a table is joined with itself can the rows tell in which order the sides came. -/
theorem working?_exchange (db : Database) (q : Query) :
    q.exchange.working? (db.tables.map Table.sheet) = q.working? (db.tables.map Table.sheet) ∨
      ∃ clause t l r, db.JoinsItself q clause t l r := by
  unfold Query.exchange Query.working?
  dsimp only
  rw [find?_sheets]
  cases hbase : db.find? q.table with
  | none => exact .inl rfl
  | some t =>
    cases hjoin : q.join with
    | none => exact .inl rfl
    | some clause =>
      change Option.bind ((db.tables.map Table.sheet).find? (·.name == clause.table)) _ =
          Option.bind ((db.tables.map Table.sheet).find? (·.name == clause.table)) _ ∨ _
      rw [find?_sheets]
      cases hjoined : db.find? clause.table with
      | none => exact .inl rfl
      | some right =>
        change clause.exchange.joined? t.sheet right.sheet = clause.joined? t.sheet right.sheet ∨ _
        by_cases hname : t.name = right.name
        · have heq : clause.table = q.table := by
            rw [← (find?_eq_some hbase).2, hname, (find?_eq_some hjoined).2]
          rw [heq, hbase] at hjoined
          cases hjoined
          exact (JoinClause.joined?_exchange_same clause t.sheet).imp_right
            fun ⟨l, r, hfirst, hsecond, hl, hr⟩ => ⟨clause, t, l, r, table_eq_ok.mpr hbase, hjoin,
              heq, hfirst.trans (find?_eq_some hbase).2, hsecond.trans (find?_eq_some hbase).2,
              hl, hr⟩
        · exact .inl (JoinClause.joined?_exchange hname clause)

theorem sameAnswer_iff {x y : Except Error Table} {m m' : Option Sheet} (h : Concur Mates x y)
    (hx : Shows x m) (hy : Shows y m') : SameAnswer x y ↔ m = m' := by
  cases h with
  | error h =>
    obtain rfl : m = none := hx
    obtain rfl : m' = none := hy
    exact ⟨fun _ => rfl, fun _ => .error h⟩
  | ok h =>
    rw [hx.2, hy.2, Option.some_inj]
    constructor
    · rintro (_ | h)
      exact h
    · intro heq
      exact Concur.ok heq

/-- To write the two sides of a join in the other order changes no more than the rows of the answer,
and these only where a table is joined with itself: the side that is written first is always that of
the left copy. -/
theorem query_exchange_iff {db : Database} (h : ∀ t ∈ db.tables, t.Sound) {q : Query}
    {sql other : String} (hread : Statement.read sql = .ok (.query q))
    (hother : Statement.read other = .ok (.query q.exchange)) :
    Concur (fun a b => a.sheet = { b.sheet with rows := a.rows }) (db.query sql)
        (db.query other) ∧
      ((∀ clause t l r, db.JoinsItself q clause t l r → l = r) →
        SameAnswer (db.query sql) (db.query other)) ∧
      ∀ clause t l r, db.JoinsItself q clause t l r →
        let meaning := (Sheet.joinAs clause.kind t.sheet t.sheet l r).bind q.cut
        let exchanged := (Sheet.joinAs clause.kind t.sheet t.sheet r l).bind q.cut
        Shows (db.query sql) meaning ∧ Shows (db.query other) exchanged ∧
          (SameAnswer (db.query sql) (db.query other) ↔ meaning = exchanged) := by
  have hanswer : db.query sql = db.answer q := by
    unfold Database.query
    rw [hread]
  have hexchanged : db.query other = db.answer q.exchange := by
    unfold Database.query
    rw [hother]
  rw [hanswer, hexchanged]
  have hconcur := concur_answer h q
  have hshows := shows_answer h q
  have hshown := shows_answer h q.exchange
  refine ⟨hconcur.mono fun _ _ hab => hab.same, fun hself => ?_, ?_⟩
  · rw [sameAnswer_iff hconcur hshows hshown]
    obtain heq | ⟨clause, t, l, r, hjoins⟩ := working?_exchange db q
    · rw [Query.meaning_eq, Query.meaning_eq, heq]
      rfl
    · rw [hjoins.meaning_eq, hjoins.exchange.meaning_eq, hself clause t l r hjoins]
      rfl
  · intro clause t l r hjoins meaning exchanged
    rw [hjoins.meaning_eq] at hshows
    rw [hjoins.exchange.meaning_eq] at hshown
    exact ⟨hshows, hshown, sameAnswer_iff hconcur hshows hshown⟩

theorem query_exchange_iff_seating :
    let other := "SELECT hall, name, hall FROM hall RIGHT JOIN seat ON hall.id = seat.hall " ++
      "WHERE place > 10 OR NOT name = 'east' AND place < 0;"
    Statement.read seatingText = .ok (.query seating) ∧
      Statement.read other = .ok (.query seating.exchange) ∧
      SameAnswer ((after seated).query seatingText) ((after seated).query other) := by
  intro other
  have hread : Statement.read seatingText = .ok (.query seating) := by decide +kernel
  have hother : Statement.read other = .ok (.query seating.exchange) := by decide +kernel
  have hsound : ∀ t ∈ (after seated).tables, t.Sound :=
    fun t ht => ((built_after seated).tables t ht).sound_fit.1
  obtain ⟨-, hsame, -⟩ := query_exchange_iff hsound hread hother
  refine ⟨hread, hother, hsame fun clause t l r hjoins => ?_⟩
  have htable : "seat" = clause.table := congrArg JoinClause.table (Option.some.inj hjoins.join)
  exact absurd (htable.trans hjoins.joined) (by decide)

/-- The copies of a table that is joined with itself change places with the sides. -/
theorem not_same_exchanged :
    let db := after [.execute "CREATE TABLE seat (place INT, next INT)",
      .execute "INSERT INTO seat VALUES (1, 2), (2, 3)"]
    let sql := "SELECT * FROM seat JOIN seat ON seat.place = seat.next"
    let other := "SELECT * FROM seat JOIN seat ON seat.next = seat.place"
    let q : Query :=
      ⟨.all, "seat", some ⟨.inner, "seat", ⟨"seat", "place"⟩, ⟨"seat", "next"⟩⟩, none⟩
    Statement.read sql = .ok (.query q) ∧ Statement.read other = .ok (.query q.exchange) ∧
      (db.query sql).toOption.map Table.rows = some [[.int 2, .int 3, .int 1, .int 2]] ∧
      (db.query other).toOption.map Table.rows = some [[.int 1, .int 2, .int 2, .int 3]] ∧
      ¬ SameAnswer (db.query sql) (db.query other) := by
  intro db sql other q
  have hrows : (db.query sql).toOption.map Table.rows =
      some [[.int 2, .int 3, .int 1, .int 2]] := by decide +kernel
  have hothers : (db.query other).toOption.map Table.rows =
      some [[.int 1, .int 2, .int 2, .int 3]] := by decide +kernel
  refine ⟨by decide +kernel, by decide +kernel, hrows, hothers, fun hsame => ?_⟩
  have heq := hsame.rows
  rw [hrows, hothers] at heq
  cases heq

end Database

end Tabular
