import Mathlib.Data.List.GetD
import Tabular.Proofs.Table.Join

namespace Tabular

namespace Row

variable {front : Row} {index : Nat}

theorem value_append_left (h : index < front.length) (back : Row) :
    Row.value (front ++ back) index = front.value index :=
  List.getD_append front back .null index h

theorem value_append_right (front back : Row) (index : Nat) :
    Row.value (front ++ back) (index + front.length) = back.value index := by
  unfold value
  rw [List.getD_append_right _ _ _ _ (Nat.le_add_left _ _), Nat.add_sub_cancel]

end Row

/-- The same comparison with a column further to the right. -/
def Comparison.shift (c : Comparison) (offset : Nat) : Comparison :=
  { c with column := c.column + offset }

namespace Condition

variable {condition : Condition} {front : Row}

/-- The condition asks for nothing past the first columns. -/
def Within (condition : Condition) (width : Nat) : Prop :=
  ∀ group ∈ condition.groups, ∀ c ∈ group, c.column < width

def shift (condition : Condition) (offset : Nat) : Condition :=
  ⟨condition.groups.map (·.map (·.shift offset))⟩

theorem accepts_append_of_within (h : condition.Within front.length) (back : Row) :
    condition.accepts (front ++ back) = condition.accepts front := by
  unfold accepts
  rw [Bool.eq_iff_iff]
  simp only [List.any_eq_true, List.all_eq_true]
  refine exists_congr fun group => and_congr_right fun hg => forall₂_congr fun c hc => ?_
  unfold Comparison.holds
  rw [Row.value_append_left (h group hg c hc)]

/-- A column that is missing on the right is missing in the row as a whole. -/
theorem accepts_shift (condition : Condition) (front back : Row) :
    (condition.shift front.length).accepts (front ++ back) = condition.accepts back := by
  simp only [accepts, shift, List.any_map, List.all_map, Function.comp_def, Comparison.holds,
    Comparison.shift, Row.value_append_right]

end Condition

namespace Sheet

variable {left right : Sheet} {l r : Nat} {test : Row → Bool} {kept : Bool}

/-- The rows of a join: each row of the left sheet in its turn, beside every row that it is joined
to. -/
def joinedRows (left right : Sheet) (l r : Nat) (kept : Bool) : List Row :=
  left.rows.flatMap fun row => (right.partners row l r kept).map (row ++ ·)

/-- A test that looks only at what a list is made from may be tried there. -/
theorem filter_flatMap_of_source {f : α → List β} {test : β → Bool} {source : α → Bool} {l : List α}
    (h : ∀ a ∈ l, ∀ b ∈ f a, test b = source a) :
    (l.flatMap f).filter test = (l.filter source).flatMap f := by
  induction l with
  | nil => rfl
  | cons a l ih =>
    obtain ⟨ha, hl⟩ := List.forall_mem_cons.mp h
    rw [List.flatMap_cons, List.filter_append, ih hl, List.filter_congr ha]
    cases hs : source a <;> simp [hs]

theorem partners_keep (right : Sheet) (row : Row) (l r : Nat) (test : Row → Bool) :
    (right.keep test).partners row l r false = (right.partners row l r false).filter test := by
  rw [partners_dropped, partners_dropped]
  exact List.filter_comm _ _ _

/-- Whether a row is joined to others or kept beside nulls, its own values are what is tested. -/
theorem filter_joinedRows_left {front : Row → Bool}
    (h : ∀ row ∈ left.rows, ∀ back, test (row ++ back) = front row) :
    (left.joinedRows right l r kept).filter test = (left.keep front).joinedRows right l r kept := by
  refine filter_flatMap_of_source fun row hrow joined hj => ?_
  obtain ⟨back, -, rfl⟩ := List.mem_map.mp hj
  exact h row hrow back

theorem filter_joinedRows_right {back : Row → Bool}
    (h : ∀ row ∈ left.rows, ∀ other, test (row ++ other) = back other) :
    (left.joinedRows right l r false).filter test =
      left.joinedRows (right.keep back) l r false := by
  unfold joinedRows
  rw [List.filter_flatMap]
  refine List.flatMap_congr fun row hrow => ?_
  rw [partners_keep, List.filter_map]
  exact congrArg _ (List.filter_congr fun other _ => h row hrow other)

end Sheet

namespace Table

variable {left right : Table} {l r : Nat} {a b : Field}

section Fields

variable (hl : left.Sound) (hr : right.Sound) (ha : left.schema[l]? = some a)
  (hb : right.schema[r]? = some b) (hk : a.kind = b.kind)

include hl hr ha hb hk

theorem Sound.find_of_join (kept : Bool) (c : Condition) :
    ∃ t, (left.join right l r kept >>= (·.find c)) = .ok t ∧
      t.sheet = ⟨left.name, left.schema ++ right.schema, ∅,
        (left.sheet.joinedRows right.sheet l r kept).filter c.accepts⟩ := by
  have hjoin := hl.join hr l r kept
  rw [Sheet.join_of_fields ha hb hk kept] at hjoin
  have hfind := hjoin.bind (g := fun s => some (s.keep c.accepts)) fun t ht => ht.find c
  exact hfind.exists

theorem Sound.join_of_find_left (kept : Bool) (c : Condition) :
    ∃ t, (left.find c >>= (·.join right l r kept)) = .ok t ∧
      t.sheet = ⟨left.name, left.schema ++ right.schema, ∅,
        (left.sheet.keep c.accepts).joinedRows right.sheet l r kept⟩ := by
  have hjoin := (hl.find c).bind (g := (·.join right.sheet l r kept))
    fun t ht => ht.join hr l r kept
  rw [Option.bind_some, Sheet.join_of_fields ha hb hk kept] at hjoin
  exact hjoin.exists

theorem Sound.join_of_find_right (kept : Bool) (c : Condition) :
    ∃ t, (right.find c >>= (left.join · l r kept)) = .ok t ∧
      t.sheet = ⟨left.name, left.schema ++ right.schema, ∅,
        left.sheet.joinedRows (right.sheet.keep c.accepts) l r kept⟩ := by
  have hjoin := (hr.find c).bind (g := (left.sheet.join · l r kept))
    fun t ht => hl.join ht l r kept
  rw [Option.bind_some, Sheet.join_of_fields ha hb hk kept] at hjoin
  exact hjoin.exists

theorem Sound.find_join_left (kept : Bool) {c : Condition} (hc : c.Within left.width) :
    ∃ after before, (left.join right l r kept >>= (·.find c)) = .ok after ∧
      (left.find c >>= (·.join right l r kept)) = .ok before ∧ after.sheet = before.sheet ∧
      after.rows = (left.sheet.joinedRows right.sheet l r kept).filter c.accepts := by
  obtain ⟨after, hafter, hfound⟩ := hl.find_of_join hr ha hb hk kept c
  obtain ⟨before, hbefore, hjoined⟩ := hl.join_of_find_left hr ha hb hk kept c
  refine ⟨after, before, hafter, hbefore, ?_, congrArg Sheet.rows hfound⟩
  rw [hfound, hjoined, Sheet.filter_joinedRows_left]
  intro row hrow back
  have hwidth : row.length = left.width := hl.length_row hrow
  exact Condition.accepts_append_of_within (hwidth ▸ hc) back

theorem Sound.find_join_right (c : Condition) :
    ∃ after before, (left.join right l r false >>= (·.find (c.shift left.width))) = .ok after ∧
      (right.find c >>= (left.join · l r false)) = .ok before ∧ after.sheet = before.sheet ∧
      after.rows = left.sheet.joinedRows (right.sheet.keep c.accepts) l r false := by
  obtain ⟨after, hafter, hfound⟩ := hl.find_of_join hr ha hb hk false (c.shift left.width)
  obtain ⟨before, hbefore, hjoined⟩ := hl.join_of_find_right hr ha hb hk false c
  have hsame : after.sheet = before.sheet := by
    rw [hfound, hjoined, Sheet.filter_joinedRows_right]
    intro row hrow other
    have hwidth : row.length = left.width := hl.length_row hrow
    rw [← hwidth]
    exact Condition.accepts_shift c row other
  exact ⟨after, before, hafter, hbefore, hsame, congrArg Sheet.rows (hsame.trans hjoined)⟩

end Fields

/-- A condition on the columns of the left table gives the same rows in the same order before an
inner or a left join and after it, and one on those of the right table before an inner join and,
moved behind the columns of the left table, after it. -/
theorem find_join_comm {left right : Table} (hl : left.Sound) (hr : right.Sound) {l r : Nat}
    {a b : Field} (ha : left.schema[l]? = some a) (hb : right.schema[r]? = some b)
    (hk : a.kind = b.kind) (c : Condition) :
    (c.Within left.width →
      (∃ after before, (left.innerJoin right l r >>= (·.find c)) = .ok after ∧
        (left.find c >>= (·.innerJoin right l r)) = .ok before ∧ after.sheet = before.sheet ∧
        after.rows = (left.sheet.joinedRows right.sheet l r false).filter c.accepts) ∧
      ∃ after before, (left.leftJoin right l r >>= (·.find c)) = .ok after ∧
        (left.find c >>= (·.leftJoin right l r)) = .ok before ∧ after.sheet = before.sheet ∧
        after.rows = (left.sheet.joinedRows right.sheet l r true).filter c.accepts) ∧
    ∃ after before, (left.innerJoin right l r >>= (·.find (c.shift left.width))) = .ok after ∧
      (right.find c >>= (left.innerJoin · l r)) = .ok before ∧ after.sheet = before.sheet ∧
      after.rows = left.sheet.joinedRows (right.sheet.keep c.accepts) l r false :=
  ⟨fun hc => ⟨hl.find_join_left hr ha hb hk false hc, hl.find_join_left hr ha hb hk true hc⟩,
    hl.find_join_right hr ha hb hk c⟩

/-- Seats past the first place, and halls that are not in the east. -/
theorem find_join_comm_seats :
    let past : Condition := ⟨[[⟨1, .gt, false, .int 1⟩]]⟩
    let notEast : Condition := ⟨[[⟨0, .eq, true, .text "east"⟩]]⟩
    past.Within seats.width ∧
    (∃ after before, (seats.leftJoin halls 0 1 >>= (·.find past)) = .ok after ∧
      (seats.find past >>= (·.leftJoin halls 0 1)) = .ok before ∧ after.sheet = before.sheet ∧
      after.rows = [[.null, .int 2, .text "west", .null], [.int 1, .int 3, .text "east", .int 1],
        [.int 4, .int 4, .null, .null]]) ∧
    ∃ after before, (seats.innerJoin halls 0 1 >>= (·.find (notEast.shift seats.width))) =
        .ok after ∧
      (halls.find notEast >>= (seats.innerJoin · 0 1)) = .ok before ∧ after.sheet = before.sheet ∧
      after.rows = [[.null, .int 2, .text "west", .null]] := by
  intro past notEast
  have hseats : seats.Sound := sound_after "seat" _
  have hhalls : halls.Sound := sound_after "hall" _
  have hseat : seats.schema[0]? = some ⟨"hall", .int⟩ := by decide +kernel
  have hhall : halls.schema[1]? = some ⟨"id", .int⟩ := by decide +kernel
  have hwithin : past.Within seats.width := by
    intro group hg c hc
    obtain rfl := List.mem_singleton.mp hg
    obtain rfl := List.mem_singleton.mp hc
    decide +kernel
  obtain ⟨hleft, -⟩ := find_join_comm hseats hhalls hseat hhall rfl past
  obtain ⟨-, after, before, hafter, hbefore, hsheet, hrows⟩ := hleft hwithin
  obtain ⟨-, found, joined, hfound, hjoined, hshown, hpairs⟩ :=
    find_join_comm hseats hhalls hseat hhall rfl notEast
  refine ⟨hwithin, ⟨after, before, hafter, hbefore, hsheet, ?_⟩, found, joined, hfound, hjoined,
    hshown, ?_⟩
  · rw [hrows]
    decide +kernel
  · rw [hpairs]
    decide +kernel

end Table

end Tabular
