import Tabular.Proofs.Condition

namespace Tabular

namespace Predicate

variable {schema : Schema} {p : Predicate} {row : Row}

/-- The row's value in the column compares with the literal as the predicate says, or, if it is
negated, does not. -/
def Holds (schema : Schema) (p : Predicate) (row : Row) : Prop :=
  ∃ place field operand, schema.place? p.column = some place ∧ schema[place]? = some field ∧
    Value.ofLiteral field.kind p.literal = .ok operand ∧
    (row.value place).compare p.comparator operand = !p.negated

/-- What keeps a predicate from being a comparison: its column is not there, or cannot hold the
literal. -/
def fault? (schema : Schema) (p : Predicate) : Option Error :=
  match schema.find? (·.name == p.column) with
  | none => some (.missing (.column p.column))
  | some field =>
    match Value.ofLiteral field.kind p.literal with
    | .ok _ => none
    | .error e => some e

theorem holds_iff : p.Holds schema row ↔ ∃ test, p.test schema = some test ∧ test row = true := by
  unfold Holds test
  cases schema.place? p.column with
  | none => simp
  | some place =>
    cases hfield : schema[place]? with
    | none => simp [hfield]
    | some field =>
      cases hv : Value.ofLiteral field.kind p.literal with
      | error e => simp [hfield, hv, Except.toOption]
      | ok operand => simp [hfield, hv, Except.toOption, Bool.eq_not]

/-- Whether a predicate is negated or an alternative has no part in its fault. -/
theorem resolve_eq_error {e : Error} :
    Condition.resolve schema p = .error e ↔ p.fault? schema = some e := by
  have hfind : schema.find? (·.name == p.column) =
      (schema.findFinIdx? (·.name == p.column)).map schema.get := by
    rw [schema.find?_eq, Schema.place?, List.findIdx?_eq_map_findFinIdx?_val]
    cases schema.findFinIdx? (·.name == p.column) <;> simp
  unfold Condition.resolve Schema.resolve fault?
  rw [hfind]
  cases schema.findFinIdx? (·.name == p.column) with
  | none => simp [bind, Except.bind]
  | some place =>
    cases hv : Value.ofLiteral (schema.get place).kind p.literal <;>
      rw [List.get_eq_getElem] at hv <;> simp [bind, Except.bind, pure, Except.pure, hv]

end Predicate

namespace Filter

variable {predicates : List Predicate} {groups : List (List Predicate)}

/-- The predicates in their order, cut before each alternative and nowhere else. -/
structure Cut (predicates : List Predicate) (groups : List (List Predicate)) : Prop where
  whole : groups.flatten = predicates
  filled : [] ∉ groups
  joined : ∀ group ∈ groups, ∀ p ∈ group.tail, p.alternative = false
  opened : ∀ group ∈ groups.tail, ∀ p ∈ group.head?, p.alternative = true

theorem isChain_iff_tail {r : α → Prop} {l : List α} :
    l.IsChain (fun _ next => r next) ↔ ∀ a ∈ l.tail, r a := by
  induction l with
  | nil => simp
  | cons a l ih =>
    cases l with
    | nil => simp
    | cons b l =>
      rw [List.isChain_cons_cons, ih]
      exact List.forall_mem_cons.symm

theorem isChain_iff_opened (h : [] ∉ groups) :
    groups.IsChain (fun a b => ∃ _ : a ≠ [], ∃ hb, (!(b.head hb).alternative) = false) ↔
      ∀ group ∈ groups.tail, ∀ p ∈ group.head?, p.alternative = true := by
  induction groups with
  | nil => simp
  | cons a rest ih =>
    obtain ⟨ha, hrest⟩ : a ≠ [] ∧ [] ∉ rest := by simpa [eq_comm] using h
    cases rest with
    | nil => simp
    | cons b rest =>
      obtain ⟨p, group, rfl⟩ := List.exists_cons_of_ne_nil (List.ne_of_not_mem_cons hrest).symm
      rw [List.isChain_cons_cons, ih hrest, List.tail_cons, List.tail_cons, List.forall_mem_cons]
      simp [ha]

theorem cut_iff : Cut predicates groups ↔ Filter.groups predicates = groups := by
  have hjoined : ∀ group : List Predicate,
      group.IsChain (fun _ next => (!next.alternative) = true) ↔
        ∀ p ∈ group.tail, p.alternative = false := by
    intro group
    rw [isChain_iff_tail]
    simp
  unfold Filter.groups
  rw [List.splitBy_eq_iff]
  simp only [hjoined]
  constructor
  · intro h
    exact ⟨h.whole.symm, h.filled, h.joined, (isChain_iff_opened h.filled).mpr h.opened⟩
  · rintro ⟨hwhole, hfilled, hjoined, hopened⟩
    exact ⟨hwhole.symm, hfilled, hjoined, (isChain_iff_opened hfilled).mp hopened⟩

/-- An alternative leaves the groups before it as they are. -/
theorem groups_append {more : List Predicate} (h : ∀ p ∈ more.head?, p.alternative = true) :
    Filter.groups (predicates ++ more) = Filter.groups predicates ++ Filter.groups more := by
  unfold Filter.groups
  refine List.splitBy_append fun _ _ p hp => ?_
  rw [h p hp]
  rfl

theorem groups_of_joined {p : Predicate} (h : ∀ q ∈ predicates, q.alternative = false) :
    Filter.groups (p :: predicates) = [p :: predicates] := by
  unfold Filter.groups
  refine List.splitBy_of_isChain (List.cons_ne_nil _ _) (isChain_iff_tail.mpr fun q hq => ?_)
  rw [h q hq]
  rfl

/-- A row passes if all predicates of one of the groups hold of it. -/
theorem test_iff {schema : Schema} {test : Row → Bool}
    (h : Filter.test schema (some predicates) = some test) (row : Row) :
    test row = true ↔
      ∃ group ∈ Filter.groups predicates, ∀ p ∈ group, p.Holds schema row := by
  obtain ⟨found, hfound, rfl⟩ := Option.map_eq_some_iff.mp h
  have hsome := isSome_tests.mp (hfound ▸ rfl : (tests schema predicates).isSome = true)
  have htest : ∀ p ∈ predicates, p.test schema = some ((p.test schema).getD fun _ => false) := by
    intro p hp
    obtain ⟨t, ht⟩ := Option.isSome_iff_exists.mp (hsome p hp)
    rw [ht]
    rfl
  have htests : tests schema predicates = some ((Filter.groups predicates).map (·.map fun p =>
      (p.test schema).getD fun _ => false)) :=
    mapM_some_of_forall fun group hg =>
      mapM_some_of_forall fun p hp => htest p (mem_of_mem_groups hg hp)
  have hholds : ∀ p ∈ predicates,
      ((p.test schema).getD fun _ => false) row = true ↔ p.Holds schema row := by
    intro p hp
    rw [Predicate.holds_iff, htest p hp]
    simp
  obtain rfl := Option.some.inj (htests.symm.trans hfound)
  simp only [List.any_map, List.any_eq_true, Function.comp_apply, List.all_map, List.all_eq_true]
  refine exists_congr fun group => and_congr_right fun hg => forall₂_congr fun p hp => ?_
  exact hholds p (mem_of_mem_groups hg hp)

end Filter

namespace Condition

variable {schema : Schema} {predicates : List Predicate} {c : Condition}

theorem exists_ofPredicates :
    (∃ c, ofPredicates schema predicates = .ok c) ↔ ∀ p ∈ predicates, p.Fits schema := by
  have htest := toOption_ofPredicates schema predicates
  have hfits : (Filter.test schema (some predicates)).isSome = true ↔ _ := Filter.isSome_test
  rw [← htest, Option.isSome_map] at hfits
  simp only [← toOption_eq_some, ← Option.isSome_iff_exists, hfits, Option.mem_some_iff,
    forall_eq']

/-- The first predicate with a fault is the one that is reported. -/
theorem ofPredicates_eq_error {e : Error} : ofPredicates schema predicates = .error e ↔
    predicates.findSome? (Predicate.fault? schema) = some e := by
  unfold ofPredicates
  generalize empty = condition
  induction predicates generalizing condition with
  | nil => exact ⟨nofun, nofun⟩
  | cons p rest ih =>
    rw [List.foldlM_cons, List.findSome?_cons]
    cases hp : resolve schema p with
    | error e' =>
      rw [Predicate.resolve_eq_error.mp hp]
      exact ⟨fun h => congrArg some (Except.error.inj h), fun h => congrArg _ (Option.some.inj h)⟩
    | ok comparison =>
      have hnone : p.fault? schema = none := by
        rw [Option.eq_none_iff_forall_ne_some]
        intro e' he
        rw [Predicate.resolve_eq_error.mpr he] at hp
        cases hp
      rw [hnone]
      exact ih _

theorem accepts_iff (h : ofPredicates schema predicates = .ok c) (row : Row) :
    c.accepts row = true ↔
      ∃ group ∈ Filter.groups predicates, ∀ p ∈ group, p.Holds schema row := by
  have htest := toOption_ofPredicates schema predicates
  rw [h] at htest
  exact Filter.test_iff htest.symm row

variable {left right : Condition}

theorem ofPredicates_append_of_alternative {q : Predicate} {more : List Predicate}
    (hq : q.alternative = true) (hl : ofPredicates schema predicates = .ok left)
    (hr : ofPredicates schema (q :: more) = .ok right) :
    ∃ both, ofPredicates schema (predicates ++ q :: more) = .ok both ∧
      ∀ row, both.accepts row = (left.accepts row || right.accepts row) := by
  obtain ⟨both, hboth⟩ := exists_ofPredicates.mpr (List.forall_mem_append.mpr
    ⟨exists_ofPredicates.mp ⟨left, hl⟩, exists_ofPredicates.mp ⟨right, hr⟩⟩)
  refine ⟨both, hboth, fun row => ?_⟩
  have hgroups : Filter.groups (predicates ++ q :: more) =
      Filter.groups predicates ++ Filter.groups (q :: more) := by
    refine Filter.groups_append ?_
    intro p hp
    cases hp
    exact hq
  rw [Bool.eq_iff_iff, Bool.or_eq_true, accepts_iff hboth, accepts_iff hl, accepts_iff hr, hgroups]
  simp only [List.mem_append, or_and_right, exists_or]

theorem ofPredicates_append_of_joined {p q : Predicate} {rest more : List Predicate}
    (h : ∀ r ∈ rest ++ more, r.alternative = false)
    (hl : ofPredicates schema (p :: rest) = .ok left)
    (hr : ofPredicates schema (q :: more) = .ok right) :
    ∃ both, ofPredicates schema (p :: rest ++ { q with alternative := false } :: more) = .ok both ∧
      ∀ row, both.accepts row = (left.accepts row && right.accepts row) := by
  obtain ⟨hrest, hmore⟩ := List.forall_mem_append.mp h
  obtain ⟨hq, hfits⟩ := List.forall_mem_cons.mp (exists_ofPredicates.mp ⟨right, hr⟩)
  have hjoined : Predicate.Fits schema { q with alternative := false } := hq
  obtain ⟨both, hboth⟩ := exists_ofPredicates.mpr (List.forall_mem_append.mpr
    ⟨exists_ofPredicates.mp ⟨left, hl⟩, List.forall_mem_cons.mpr ⟨hjoined, hfits⟩⟩)
  have hgroups : Filter.groups (p :: (rest ++ { q with alternative := false } :: more)) =
      [p :: (rest ++ { q with alternative := false } :: more)] :=
    Filter.groups_of_joined
      (List.forall_mem_append.mpr ⟨hrest, List.forall_mem_cons.mpr ⟨rfl, hmore⟩⟩)
  refine ⟨both, hboth, fun row => ?_⟩
  have hsame : Predicate.Holds schema { q with alternative := false } row ↔ q.Holds schema row :=
    Iff.rfl
  rw [Bool.eq_iff_iff, Bool.and_eq_true, accepts_iff hboth, accepts_iff hl, accepts_iff hr,
    List.cons_append, hgroups, Filter.groups_of_joined hrest, Filter.groups_of_joined hmore]
  simp only [List.mem_singleton, exists_eq_left, List.forall_mem_cons, List.forall_mem_append,
    hsame, and_assoc]

/-- A condition can be made if every predicate fits, and if not the first that does not is at fault.
It accepts a row if all predicates hold in one of the groups that alternatives cut, so that filters
joined by OR accept what one of them does, and groups joined by AND what both do. -/
theorem accepts_iff_group_holds (schema : Schema) :
    (∀ predicates,
      ((∃ c, ofPredicates schema predicates = .ok c) ↔ ∀ p ∈ predicates, p.Fits schema) ∧
      (∀ e, ofPredicates schema predicates = .error e ↔
        predicates.findSome? (Predicate.fault? schema) = some e) ∧
      (∀ groups, Filter.Cut predicates groups ↔ Filter.groups predicates = groups) ∧
      ∀ c, ofPredicates schema predicates = .ok c → ∀ row, c.accepts row = true ↔
        ∃ group ∈ Filter.groups predicates, ∀ p ∈ group, p.Holds schema row) ∧
    (∃ c, ofPredicates schema [] = .ok c ∧ ∀ row, c.accepts row = false) ∧
    (∀ predicates q more left right, q.alternative = true →
      ofPredicates schema predicates = .ok left → ofPredicates schema (q :: more) = .ok right →
      ∃ both, ofPredicates schema (predicates ++ q :: more) = .ok both ∧
        ∀ row, both.accepts row = (left.accepts row || right.accepts row)) ∧
    ∀ p rest q more left right, (∀ r ∈ rest ++ more, r.alternative = false) →
      ofPredicates schema (p :: rest) = .ok left → ofPredicates schema (q :: more) = .ok right →
      ∃ both, ofPredicates schema (p :: rest ++ { q with alternative := false } :: more) =
          .ok both ∧
        ∀ row, both.accepts row = (left.accepts row && right.accepts row) := by
  refine ⟨fun predicates => ⟨exists_ofPredicates, fun e => ofPredicates_eq_error,
    fun groups => Filter.cut_iff, fun c h => accepts_iff h⟩, ⟨empty, rfl, fun row => rfl⟩, ?_, ?_⟩
  · intro predicates q more left right
    exact ofPredicates_append_of_alternative
  · intro p rest q more left right
    exact ofPredicates_append_of_joined

/-- Past the first place, not in the east, or, another way, without a place: the filter is put
together from its predicates, and with one more about a column that is not there it fails. -/
theorem accepts_iff_group_holds_seats :
    let schema : Schema := [⟨"place", .int⟩, ⟨"hall", .text⟩]
    let past : Predicate := ⟨false, false, "place", .gt, .bare "1"⟩
    let notEast : Predicate := ⟨true, true, "hall", .eq, .quoted "east"⟩
    let placeless : Predicate := ⟨true, false, "place", .eq, .null⟩
    let predicates := [past, { notEast with alternative := false }, placeless]
    (∃ c, ofPredicates schema predicates = .ok c ∧ c.accepts [.int 2, .text "west"] = true ∧
      c.accepts [.int 2, .text "east"] = false ∧ c.accepts [.null, .text "east"] = true) ∧
    ofPredicates schema (predicates ++ [⟨false, false, "row", .lt, .null⟩]) =
      .error (.missing (.column "row")) := by
  intro schema past notEast placeless predicates
  have hpast : ofPredicates schema [past] = .ok ⟨[[⟨0, .gt, false, .int 1⟩]]⟩ := by
    decide +kernel
  have hnotEast : ofPredicates schema [notEast] = .ok ⟨[[⟨1, .eq, true, .text "east"⟩]]⟩ := by
    decide +kernel
  have hplaceless : ofPredicates schema [placeless] = .ok ⟨[[⟨0, .eq, false, .null⟩]]⟩ := by
    decide +kernel
  obtain ⟨hbuilt, -, hor, hand⟩ := accepts_iff_group_holds schema
  obtain ⟨seated, hseated, hboth⟩ := hand past [] notEast [] _ _ nofun hpast hnotEast
  obtain ⟨c, hc, heither⟩ := hor _ placeless [] seated _ rfl hseated hplaceless
  refine ⟨⟨c, hc, ?_, ?_, ?_⟩, (hbuilt _).2.1 _ |>.mpr ?_⟩
  · rw [heither, hboth]
    decide +kernel
  · rw [heither, hboth]
    decide +kernel
  · rw [heither, hboth]
    decide +kernel
  · decide +kernel

end Condition

end Tabular
