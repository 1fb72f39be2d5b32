import Mathlib.Data.Multiset.Bind
import Tabular.Proofs.Table.Rekeyed
import Tabular.Proofs.Table.Relation

namespace Tabular

namespace Sheet

variable {left right : Sheet} {l r : Nat}

/-- The pairs of rows that agree on the two columns: with each row of the left sheet in its turn,
the rows of the right one in their order. -/
def pairs (left right : Sheet) (l r : Nat) : List (Row × Row) :=
  (left.rows ×ˢ right.rows).filter fun (a, b) => (a.value l).same (b.value r)

/-- Some row of the right sheet agrees with the row. -/
def meets (right : Sheet) (row : Row) (l r : Nat) : Bool :=
  right.rows.any fun b => (row.value l).same (b.value r)

/-- The rows of the left sheet that are in no pair. -/
def unpaired (left right : Sheet) (l r : Nat) : List Row :=
  left.rows.filter fun a => !right.meets a l r

theorem pairs_eq_flatMap (left right : Sheet) (l r : Nat) :
    left.pairs right l r = left.rows.flatMap fun a =>
      (right.rows.filter fun b => (a.value l).same (b.value r)).map (Prod.mk a) := by
  change (left.rows.flatMap fun a => right.rows.map (Prod.mk a)).filter _ = _
  simp only [List.filter_flatMap, List.filter_map, Function.comp_def]

/-- The pairs do not depend on which of the sheets comes first, but for their order. -/
theorem perm_swap_pairs (left right : Sheet) (l r : Nat) :
    ((left.pairs right l r).map Prod.swap).Perm (right.pairs left r l) := by
  have hproduct : ((left.rows ×ˢ right.rows).map Prod.swap).Perm (right.rows ×ˢ left.rows) := by
    rw [← Multiset.coe_eq_coe, ← Multiset.map_coe, ← Multiset.coe_product, ← Multiset.coe_product]
    exact Multiset.map_swap_product _ _
  have hfilter := hproduct.filter fun (b, a) => (b.value r).same (a.value l)
  rw [List.filter_map] at hfilter
  refine (List.Perm.of_eq (congrArg (List.map Prod.swap) ?_)).trans hfilter
  refine List.filter_congr ?_
  rintro ⟨a, b⟩ -
  exact Value.same_comm _ _

theorem partners_dropped (right : Sheet) (row : Row) (l r : Nat) :
    right.partners row l r false =
      right.rows.filter fun b => (row.value l).same (b.value r) := by
  unfold partners
  cases right.rows.filter fun b => (row.value l).same (b.value r) <;> simp

/-- To keep a row that is in no pair adds one row of nulls, and nothing else. -/
theorem partners_kept (right : Sheet) (row : Row) (l r : Nat) :
    right.partners row l r true = right.partners row l r false ++
      if right.meets row l r then [] else [Row.nulls right.schema.length] := by
  unfold partners
  cases hfound : right.rows.filter fun b => (row.value l).same (b.value r) with
  | nil =>
    have hnone : right.meets row l r = false := by simpa [meets] using hfound
    simp [hnone]
  | cons b rest =>
    have hb : b ∈ right.rows.filter fun b => (row.value l).same (b.value r) := by simp [hfound]
    have hsome : right.meets row l r = true :=
      List.any_eq_true.mpr ⟨b, List.mem_filter.mp hb⟩
    simp [hsome]

theorem flatMap_partners_dropped (left right : Sheet) (l r : Nat) :
    (left.rows.flatMap fun row => (right.partners row l r false).map (row ++ ·)) =
      (left.pairs right l r).map fun (a, b) => a ++ b := by
  simp only [partners_dropped, pairs_eq_flatMap, List.map_flatMap, List.map_map,
    Function.comp_def]

/-- Of the rows that are kept, one goes with each unpaired row and the others with the pairs. -/
theorem perm_flatMap_partners_kept (left right : Sheet) (l r : Nat) :
    (left.rows.flatMap fun row => (right.partners row l r true).map (row ++ ·)).Perm
      (((left.pairs right l r).map fun (a, b) => a ++ b) ++
        (left.unpaired right l r).map (· ++ Row.nulls right.schema.length)) := by
  have hunpaired : ((left.unpaired right l r).map (· ++ Row.nulls right.schema.length)) =
      left.rows.flatMap fun row =>
        (if right.meets row l r then [] else [Row.nulls right.schema.length]).map (row ++ ·) := by
    unfold unpaired
    induction left.rows with
    | nil => rfl
    | cons a rest ih => cases hmeets : right.meets a l r <;> simp [hmeets, ih]
  rw [← flatMap_partners_dropped, hunpaired]
  simp only [partners_kept, List.map_append]
  exact (List.flatMap_append_perm left.rows _ _).symm

theorem join_of_fields {a b : Field} (ha : left.schema[l]? = some a)
    (hb : right.schema[r]? = some b) (hk : a.kind = b.kind) (kept : Bool) : left.join right l r kept =
      some ⟨left.name, left.schema ++ right.schema, ∅,
        left.rows.flatMap fun row => (right.partners row l r kept).map (row ++ ·)⟩ := by
  simp [join, ha, hb, hk]

end Sheet

namespace Table

variable {left right : Table} {l r : Nat}

/-- Why two tables cannot be joined on two columns: one of them is not there, the left one being
looked for first, or they are of different kinds. -/
inductive JoinFault (left right : Table) (l r : Nat) : Error → Prop where
  | left (h : left.width ≤ l) : JoinFault left right l r (.missing (.columnAt l left.name))
  | right (hl : l < left.width) (h : right.width ≤ r) :
    JoinFault left right l r (.missing (.columnAt r right.name))
  | kinds {a b : Field} (ha : left.schema[l]? = some a) (hb : right.schema[r]? = some b)
    (h : a.kind ≠ b.kind) :
    JoinFault left right l r (.kindMismatch s!"{right.name}.{b.name}" a.kind b.kind)

theorem Shows.exists_sound {result : Except Error Table} {s : Sheet} (h : Shows result (some s)) :
    ∃ t, result = .ok t ∧ t.Sound ∧ t.sheet = s := by
  cases result with
  | error e => cases h
  | ok t => exact ⟨t, rfl, h.1, (Option.some.inj h.2).symm⟩

theorem Shows.exists {result : Except Error Table} {s : Sheet} (h : Shows result (some s)) :
    ∃ t, result = .ok t ∧ t.sheet = s := by
  obtain ⟨t, ht, -, hsheet⟩ := h.exists_sound
  exact ⟨t, ht, hsheet⟩

theorem schema_eq_none {t : Table} {index : Nat} : t.schema[index]? = none ↔ t.width ≤ index := by
  rw [List.getElem?_eq_none_iff, length_schema]

theorem lt_of_schema_eq_some {t : Table} {index : Nat} {found : Field}
    (h : t.schema[index]? = some found) : index < t.width := by
  rw [← length_schema]
  exact (List.getElem?_eq_some_iff.mp h).1

theorem join_of_left_missing (right : Table) (r : Nat) (kept : Bool) (h : left.schema[l]? = none) :
    left.join right l r kept = .error (.missing (.columnAt l left.name)) := by
  simp only [join, field, h]
  rfl

section Fields

variable {a b : Field} (ha : left.schema[l]? = some a)

include ha

theorem join_of_right_missing (kept : Bool) (h : right.schema[r]? = none) :
    left.join right l r kept = .error (.missing (.columnAt r right.name)) := by
  simp only [join, field, ha, h]
  rfl

variable (hb : right.schema[r]? = some b)

include hb

theorem join_of_kinds_ne (kept : Bool) (hk : a.kind ≠ b.kind) : left.join right l r kept =
    .error (.kindMismatch s!"{right.name}.{b.name}" a.kind b.kind) := by
  simp only [join, field, ha, hb]
  exact if_pos hk

theorem Sound.join_of_kinds_eq (hl : left.Sound) (hr : right.Sound) (kept : Bool)
    (hk : a.kind = b.kind) : ∃ t, left.join right l r kept = .ok t ∧
      t.sheet = ⟨left.name, left.schema ++ right.schema, ∅,
        left.rows.flatMap fun row => (right.sheet.partners row l r kept).map (row ++ ·)⟩ := by
  have hmeaning : left.sheet.join right.sheet l r kept = some _ :=
    Sheet.join_of_fields ha hb hk kept
  have hshows := hl.join hr l r kept
  rw [hmeaning] at hshows
  exact hshows.exists

theorem Sound.innerJoin_of_kinds_eq (hl : left.Sound) (hr : right.Sound) (hk : a.kind = b.kind) :
    ∃ t, left.innerJoin right l r = .ok t ∧
      t.sheet = ⟨left.name, left.schema ++ right.schema, ∅,
        (left.sheet.pairs right.sheet l r).map fun (x, y) => x ++ y⟩ := by
  rw [← Sheet.flatMap_partners_dropped]
  exact hl.join_of_kinds_eq ha hb hr false hk

end Fields

/-- A join fails only for want of two columns of one kind, whatever the rows and the keys are. -/
theorem Sound.join_eq_error (hl : left.Sound) (hr : right.Sound) (kept : Bool) {e : Error} :
    left.join right l r kept = .error e ↔ JoinFault left right l r e := by
  constructor
  · intro h
    cases ha : left.schema[l]? with
    | none =>
      rw [join_of_left_missing right r kept ha] at h
      cases h
      exact .left (schema_eq_none.mp ha)
    | some a =>
      cases hb : right.schema[r]? with
      | none =>
        rw [join_of_right_missing ha kept hb] at h
        cases h
        exact .right (lt_of_schema_eq_some ha) (schema_eq_none.mp hb)
      | some b =>
        by_cases hk : a.kind = b.kind
        · obtain ⟨t, hjoin, -⟩ := hl.join_of_kinds_eq ha hb hr kept hk
          rw [hjoin] at h
          cases h
        · rw [join_of_kinds_ne ha hb kept hk] at h
          cases h
          exact .kinds ha hb hk
  · intro h
    cases h with
    | left h => exact join_of_left_missing right r kept (schema_eq_none.mpr h)
    | right hlt h =>
      obtain ⟨a, ha⟩ := Option.ne_none_iff_exists'.mp
        fun hnone => Nat.not_le_of_lt hlt (schema_eq_none.mp hnone)
      exact join_of_right_missing ha kept (schema_eq_none.mpr h)
    | kinds ha hb hk => exact join_of_kinds_ne ha hb kept hk

/-- The columns of a joined row change places with those of the other table. -/
theorem Sound.map_exchange (hl : left.Sound) (right : Sheet) :
    (((left.sheet.pairs right l r).map fun (a, b) => a ++ b).map fun row =>
      row.drop left.width ++ row.take left.width) =
      ((left.sheet.pairs right l r).map Prod.swap).map fun (b, a) => b ++ a := by
  rw [List.map_map, List.map_map]
  refine List.map_congr_left ?_
  rintro ⟨a, b⟩ hm
  have ha : a ∈ left.rows := (List.mem_product.mp (List.mem_filter.mp hm).1).1
  simp [← hl.length_row ha]

/-- Two tables can be joined just if the two columns are there and of one kind, whatever their keys.
The rows are then the pairs that agree, and if unpaired rows are kept, each of these once beside
nulls. Joined the other way round, the tables give the same pairs in some order. -/
theorem joins_eq_pairs {left right : Table} (hl : left.Sound) (hr : right.Sound) (l r : Nat) :
    (∀ e, left.innerJoin right l r = .error e ↔ JoinFault left right l r e) ∧
      (∀ e, left.leftJoin right l r = .error e ↔ JoinFault left right l r e) ∧
      ∀ a b, left.schema[l]? = some a → right.schema[r]? = some b → a.kind = b.kind →
        ∃ inner outer back, left.innerJoin right l r = .ok inner ∧
          left.leftJoin right l r = .ok outer ∧ right.innerJoin left r l = .ok back ∧
          inner.sheet = ⟨left.name, left.schema ++ right.schema, ∅,
            (left.sheet.pairs right.sheet l r).map fun (x, y) => x ++ y⟩ ∧
          outer.sheet = ⟨left.name, left.schema ++ right.schema, ∅,
            left.rows.flatMap fun row => (right.sheet.partners row l r true).map (row ++ ·)⟩ ∧
          outer.rows.Perm (inner.rows ++
            (left.sheet.unpaired right.sheet l r).map (· ++ Row.nulls right.width)) ∧
          (inner.rows.map fun row => row.drop left.width ++ row.take left.width).Perm
            back.rows := by
  refine ⟨fun e => hl.join_eq_error hr false, fun e => hl.join_eq_error hr true, ?_⟩
  intro a b ha hb hk
  obtain ⟨inner, hinner, hpairs⟩ := hl.innerJoin_of_kinds_eq ha hb hr hk
  obtain ⟨outer, houter, hkept⟩ := hl.join_of_kinds_eq ha hb hr true hk
  obtain ⟨back, hback, hswapped⟩ := hr.innerJoin_of_kinds_eq hb ha hl hk.symm
  have hinnerRows : inner.rows = _ := congrArg Sheet.rows hpairs
  have houterRows : outer.rows = _ := congrArg Sheet.rows hkept
  have hbackRows : back.rows = _ := congrArg Sheet.rows hswapped
  refine ⟨inner, outer, back, hinner, houter, hback, hpairs, hkept, ?_, ?_⟩
  · rw [houterRows, hinnerRows, ← right.length_schema]
    exact left.sheet.perm_flatMap_partners_kept right.sheet l r
  · rw [hinnerRows, hbackRows]
    dsimp only
    rw [hl.map_exchange]
    exact (left.sheet.perm_swap_pairs right.sheet l r).map _

/-- A seat without a hall, two in one hall, and one whose hall is not there; halls by number. -/
def seats : Table :=
  after "seat" [.addColumn ⟨"hall", .int⟩, .addColumn ⟨"place", .int⟩, .setKey [1],
    .insert [.int 1, .int 1], .insert [.null, .int 2], .insert [.int 1, .int 3],
    .insert [.int 4, .int 4]]

def halls : Table :=
  after "hall" [.addColumn ⟨"name", .text⟩, .addColumn ⟨"id", .int⟩, .setKey [1],
    .insert [.text "east", .int 1], .insert [.text "west", .null], .insert [.text "south", .int 2]]

theorem joins_eq_pairs_seats :
    ∃ inner outer back, seats.innerJoin halls 0 1 = .ok inner ∧
      seats.leftJoin halls 0 1 = .ok outer ∧ halls.innerJoin seats 1 0 = .ok back ∧
      inner.rows = [[.int 1, .int 1, .text "east", .int 1], [.null, .int 2, .text "west", .null],
        [.int 1, .int 3, .text "east", .int 1]] ∧
      outer.rows.Perm (inner.rows ++ [[.int 4, .int 4, .null, .null]]) ∧
      back.rows.Perm [[.text "east", .int 1, .int 1, .int 1], [.text "west", .null, .null, .int 2],
        [.text "east", .int 1, .int 1, .int 3]] ∧
      seats.innerJoin halls 0 0 = .error (.kindMismatch "hall.name" .int .text) := by
  have hseats : seats.Sound := sound_after "seat" _
  have hhalls : halls.Sound := sound_after "hall" _
  have hseat : seats.schema = [⟨"hall", .int⟩, ⟨"place", .int⟩] := by decide +kernel
  have hhall : halls.schema = [⟨"name", .text⟩, ⟨"id", .int⟩] := by decide +kernel
  have hpairs : ((seats.sheet.pairs halls.sheet 0 1).map fun (x, y) => x ++ y) =
      [[.int 1, .int 1, .text "east", .int 1], [.null, .int 2, .text "west", .null],
        [.int 1, .int 3, .text "east", .int 1]] := by decide +kernel
  have hunpaired : (seats.sheet.unpaired halls.sheet 0 1).map (· ++ Row.nulls halls.width) =
      [[.int 4, .int 4, .null, .null]] := by decide +kernel
  have hwidth : seats.width = 2 := by decide +kernel
  obtain ⟨-, -, hjoins⟩ := joins_eq_pairs hseats hhalls 0 1
  obtain ⟨inner, outer, back, hinner, houter, hback, hsheet, -, hkept, hswapped⟩ :=
    hjoins ⟨"hall", .int⟩ ⟨"id", .int⟩ (by simp [hseat]) (by simp [hhall]) rfl
  have hrows : inner.rows = _ := (congrArg Sheet.rows hsheet).trans hpairs
  refine ⟨inner, outer, back, hinner, houter, hback, hrows, ?_, ?_, ?_⟩
  · rwa [hunpaired] at hkept
  · rw [hrows, hwidth] at hswapped
    exact hswapped.symm
  · obtain ⟨hfault, -⟩ := joins_eq_pairs hseats hhalls 0 0
    have hname : halls.name = "hall" := by decide +kernel
    have hleft : seats.schema[0]? = some ⟨"hall", .int⟩ := by simp [hseat]
    have hright : halls.schema[0]? = some ⟨"name", .text⟩ := by simp [hhall]
    have hkinds := JoinFault.kinds hleft hright nofun
    rw [hname] at hkinds
    exact (hfault _).mpr hkinds

end Table

end Tabular
