import Mathlib.Tactic.Tauto
import Tabular.Proofs.Condition
import Tabular.Proofs.Table.Relation

namespace Tabular

/-- The columns that a clause compares, of the left table and of the right one. The two may be
written in either order. -/
def JoinClause.columns? (clause : JoinClause) (left right : String) : Option (String × String) :=
  if clause.first.table = left ∧ clause.second.table = right then
    some (clause.first.column, clause.second.column)
  else if clause.second.table = left ∧ clause.first.table = right then
    some (clause.second.column, clause.first.column)
  else none

/-- The right table comes first in a right join, in its columns as in its rows. -/
def Sheet.joinAs (kind : JoinKind) (left right : Sheet) (l r : Nat) : Option Sheet :=
  match kind with
  | .inner => left.join right l r false
  | .left => left.join right l r true
  | .right => right.join left r l true

def JoinClause.joined? (clause : JoinClause) (left right : Sheet) : Option Sheet := do
  let (leftColumn, rightColumn) ← clause.columns? left.name right.name
  let l ← left.schema.place? leftColumn
  let r ← right.schema.place? rightColumn
  Sheet.joinAs clause.kind left right l r

def Projection.places? (schema : Schema) : Projection → Option (List Nat)
  | .all => some (List.range schema.length)
  | .names columns => columns.mapM schema.place?

namespace Query

def working? (sheets : List Sheet) (q : Query) : Option Sheet := do
  let base ← sheets.find? (·.name == q.table)
  match q.join with
  | none => return base
  | some clause =>
    let joined ← sheets.find? (·.name == clause.table)
    clause.joined? base joined

/-- Rows are joined, then filtered, and cut to the columns that the query asks for last. -/
def meaning (sheets : List Sheet) (q : Query) : Option Sheet := do
  let working ← q.working? sheets
  let places ← q.projection.places? working.schema
  let test ← q.filter.test working.schema
  (working.keep test).pick places

end Query

/-- The clause names the two tables, in one order or the other, and two of their columns, which are
of one kind. -/
def JoinClause.Compares (clause : JoinClause) (left right : Sheet) : Prop :=
  ∃ l r, (clause.first = ⟨left.name, l⟩ ∧ clause.second = ⟨right.name, r⟩ ∨
      clause.first = ⟨right.name, r⟩ ∧ clause.second = ⟨left.name, l⟩) ∧
    ∃ a b, left.schema.find? (·.name == l) = some a ∧ right.schema.find? (·.name == r) = some b ∧
      a.kind = b.kind

/-- The columns of the rows that a query works on. -/
inductive Query.WorksOn (sheets : List Sheet) : Query → Schema → Prop where
  | base {q : Query} {base : Sheet} (hbase : base ∈ sheets) (hname : base.name = q.table)
    (hjoin : q.join = none) : WorksOn sheets q base.schema
  | joined {q : Query} {clause : JoinClause} {base joined : Sheet} (hbase : base ∈ sheets)
    (hname : base.name = q.table) (hjoin : q.join = some clause) (hjoined : joined ∈ sheets)
    (hother : joined.name = clause.table) (hon : clause.Compares base joined) :
    WorksOn sheets q (if clause.kind = .right then joined.schema ++ base.schema
      else base.schema ++ joined.schema)

def Query.Answerable (sheets : List Sheet) (q : Query) : Prop :=
  ∃ schema, q.WorksOn sheets schema ∧
    (∀ names, q.projection = .names names → ∀ name ∈ names, ∃ field ∈ schema, field.name = name) ∧
    ∀ predicates ∈ q.filter, ∀ p ∈ predicates, p.Fits schema

section Answerable

variable {sheets : List Sheet}

theorem find?_name (h : (sheets.map Sheet.name).Nodup) {s : Sheet} {name : String} :
    sheets.find? (·.name == name) = some s ↔ s ∈ sheets ∧ s.name = name := by
  constructor
  · intro hf
    exact ⟨List.mem_of_find?_eq_some hf, by simpa using List.find?_some hf⟩
  · rintro ⟨hs, rfl⟩
    exact find?_of_nodup h hs

theorem Sheet.joinAs_eq_some {kind : JoinKind} {left right s : Sheet} {l r : Nat}
    (h : joinAs kind left right l r = some s) :
    s.schema = if kind = .right then right.schema ++ left.schema
      else left.schema ++ right.schema := by
  cases kind <;> exact join_eq_some h

theorem Sheet.isSome_joinAs {kind : JoinKind} {left right : Sheet} {l r : Nat} :
    (joinAs kind left right l r).isSome = true ↔
      ∃ a b, left.schema[l]? = some a ∧ right.schema[r]? = some b ∧ a.kind = b.kind := by
  cases kind with
  | inner => exact isSome_join
  | left => exact isSome_join
  | right =>
    refine isSome_join.trans ⟨?_, ?_⟩
    · rintro ⟨b, a, hb, ha, hk⟩
      exact ⟨a, b, ha, hb, hk.symm⟩
    · rintro ⟨a, b, ha, hb, hk⟩
      exact ⟨b, a, hb, ha, hk.symm⟩

namespace JoinClause

variable {clause : JoinClause} {left right s : Sheet}

theorem joined?_eq_some (h : clause.joined? left right = some s) :
    s.schema = if clause.kind = .right then right.schema ++ left.schema
      else left.schema ++ right.schema := by
  obtain ⟨⟨lc, rc⟩, -, h⟩ := Option.bind_eq_some_iff.mp h
  obtain ⟨l, -, h⟩ := Option.bind_eq_some_iff.mp h
  obtain ⟨r, -, h⟩ := Option.bind_eq_some_iff.mp h
  exact Sheet.joinAs_eq_some h

theorem isSome_joined? : (clause.joined? left right).isSome = true ↔
    ∃ l r, clause.columns? left.name right.name = some (l, r) ∧
      ∃ a b, left.schema.find? (·.name == l) = some a ∧
        right.schema.find? (·.name == r) = some b ∧ a.kind = b.kind := by
  unfold joined?
  cases clause.columns? left.name right.name with
  | none => simp
  | some found =>
    obtain ⟨lc, rc⟩ := found
    cases hl : left.schema.place? lc with
    | none => simp [Schema.find?_eq_some, hl]
    | some l =>
      cases hr : right.schema.place? rc with
      | none => simp [Schema.find?_eq_some, hl, hr]
      | some r =>
        simp [Schema.find?_eq_some, hl, hr, Sheet.isSome_joinAs]

theorem columns?_eq_some {left right l r : String} :
    clause.columns? left right = some (l, r) ↔
      clause.first = ⟨left, l⟩ ∧ clause.second = ⟨right, r⟩ ∨
        ¬ (clause.first.table = left ∧ clause.second.table = right) ∧
          clause.first = ⟨right, r⟩ ∧ clause.second = ⟨left, l⟩ := by
  obtain ⟨kind, table, ⟨ft, fc⟩, ⟨st, sc⟩⟩ := clause
  unfold columns?
  simp only [QualifiedColumn.mk.injEq]
  split
  · rename_i h
    simp only [Option.some.injEq, Prod.mk.injEq, h]
    tauto
  · rename_i h
    split
    · rename_i hs
      simp only [Option.some.injEq, Prod.mk.injEq]
      tauto
    · simp only [reduceCtorEq, false_iff]
      tauto

/-- Where both orders fit, the tables are one and the same, and so the order makes no difference. -/
theorem isSome_joined?_iff (h : left.name = right.name → left = right) :
    (clause.joined? left right).isSome = true ↔ clause.Compares left right := by
  rw [isSome_joined?]
  constructor
  · rintro ⟨l, r, hc, hfields⟩
    rcases columns?_eq_some.mp hc with hc | ⟨-, hc⟩
    · exact ⟨l, r, Or.inl hc, hfields⟩
    · exact ⟨l, r, Or.inr hc, hfields⟩
  · rintro ⟨l, r, hc, a, b, ha, hb, hk⟩
    by_cases hfirst : clause.first.table = left.name ∧ clause.second.table = right.name
    · rcases hc with hc | ⟨hf, hs⟩
      · exact ⟨l, r, columns?_eq_some.mpr (Or.inl hc), a, b, ha, hb, hk⟩
      · have hname : left.name = right.name := by
          rw [← hfirst.1, hf]
        obtain rfl := h hname
        exact ⟨r, l, columns?_eq_some.mpr (Or.inl ⟨hf, hs⟩), b, a, hb, ha, hk.symm⟩
    · rcases hc with hc | hc
      · exact ⟨l, r, columns?_eq_some.mpr (Or.inl hc), a, b, ha, hb, hk⟩
      · exact ⟨l, r, columns?_eq_some.mpr (Or.inr ⟨hfirst, hc⟩), a, b, ha, hb, hk⟩

end JoinClause

namespace Query

variable {q : Query}

theorem worksOn_iff (h : (sheets.map Sheet.name).Nodup) {schema : Schema} :
    q.WorksOn sheets schema ↔
      ∃ working, q.working? sheets = some working ∧ working.schema = schema := by
  have hinj : ∀ s ∈ sheets, ∀ s' ∈ sheets, s.name = s'.name → s = s' :=
    fun s hs s' hs' => List.inj_on_of_nodup_map h hs hs'
  constructor
  · rintro (⟨hbase, hname, hjoin⟩ | ⟨hbase, hname, hjoin, hjoined, hother, hon⟩)
    · rename_i base
      refine ⟨base, ?_, rfl⟩
      simp only [working?, hjoin, (find?_name h).mpr ⟨hbase, hname⟩]
      rfl
    · rename_i clause base joined
      have hsome := (JoinClause.isSome_joined?_iff (hinj base hbase joined hjoined)).mpr hon
      obtain ⟨working, hw⟩ := Option.isSome_iff_exists.mp hsome
      refine ⟨working, ?_, JoinClause.joined?_eq_some hw⟩
      simp only [working?, hjoin, (find?_name h).mpr ⟨hbase, hname⟩,
        (find?_name h).mpr ⟨hjoined, hother⟩]
      exact hw
  · rintro ⟨working, hw, rfl⟩
    obtain ⟨base, hbase, hw⟩ := Option.bind_eq_some_iff.mp hw
    obtain ⟨hbase, hname⟩ := (find?_name h).mp hbase
    cases hjoin : q.join with
    | none =>
      rw [hjoin] at hw
      cases hw
      exact .base hbase hname hjoin
    | some clause =>
      rw [hjoin] at hw
      obtain ⟨joined, hjoined, hw⟩ := Option.bind_eq_some_iff.mp hw
      obtain ⟨hjoined, hother⟩ := (find?_name h).mp hjoined
      rw [JoinClause.joined?_eq_some hw]
      have hon := (JoinClause.isSome_joined?_iff (hinj base hbase joined hjoined)).mp
        (by rw [hw]; rfl)
      exact .joined hbase hname hjoin hjoined hother hon

theorem isSome_places? {schema : Schema} {p : Projection} :
    (p.places? schema).isSome = true ↔
      ∀ names, p = .names names → ∀ name ∈ names, ∃ field ∈ schema, field.name = name := by
  cases p with
  | all => simp [Projection.places?]
  | names columns => simp [Projection.places?, isSome_mapM, Schema.place?]

theorem lt_of_mem_places? {schema : Schema} {p : Projection} {places : List Nat}
    (h : p.places? schema = some places) : ∀ place ∈ places, place < schema.length := by
  cases p with
  | all =>
    cases h
    exact fun place => List.mem_range.mp
  | names columns =>
    intro place hm
    obtain ⟨name, -, hplace⟩ := mem_of_mapM_eq_some h hm
    exact (List.findIdx?_eq_some_iff_findIdx_eq.mp hplace).1

theorem isSome_meaning (h : (sheets.map Sheet.name).Nodup) (q : Query) :
    (q.meaning sheets).isSome = true ↔ q.Answerable sheets := by
  unfold Answerable
  simp only [worksOn_iff h, ← isSome_places?, ← Filter.isSome_test]
  unfold meaning
  cases q.working? sheets with
  | none => simp
  | some working =>
    cases hp : q.projection.places? working.schema with
    | none => simp [hp]
    | some places =>
      cases ht : q.filter.test working.schema with
      | none => simp [hp, ht]
      | some test =>
        have hpick : ((working.keep test).pick places).isSome = true :=
          Sheet.isSome_pick (lt_of_mem_places? hp)
        simp [hp, ht, hpick]

end Query

end Answerable

end Tabular
