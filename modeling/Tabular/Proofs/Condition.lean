import Mathlib.Data.List.SplitBy
import Tabular.Condition
import Tabular.Proofs.Result

namespace Tabular

/-- A name stands for the first column under it. -/
def Schema.place? (schema : Schema) (name : String) : Option Nat :=
  schema.findIdx? (·.name == name)

/-- What a predicate says of a row, if its column is there and can hold its literal. -/
def Predicate.test (schema : Schema) (p : Predicate) : Option (Row → Bool) := do
  let column ← schema.place? p.column
  let field ← schema[column]?
  let operand ← (Value.ofLiteral field.kind p.literal).toOption
  return fun row => (row.value column).compare p.comparator operand != p.negated

/-- A group ends before every alternative. -/
def Filter.groups (predicates : List Predicate) : List (List Predicate) :=
  predicates.splitBy fun _ next => !next.alternative

def Filter.tests (schema : Schema) (predicates : List Predicate) :
    Option (List (List (Row → Bool))) :=
  (groups predicates).mapM fun group => group.mapM (Predicate.test schema)

/-- A row passes if one of the groups holds of it, and in the group every predicate. -/
def Filter.test (schema : Schema) : Filter → Option (Row → Bool)
  | none => some fun _ => true
  | some predicates => (tests schema predicates).map fun groups row =>
    groups.any fun group => group.all fun test => test row

/-- The column of a predicate is there and can hold its literal. -/
def Predicate.Fits (schema : Schema) (p : Predicate) : Prop :=
  ∃ field, schema.find? (·.name == p.column) = some field ∧
    ∃ operand, Value.ofLiteral field.kind p.literal = .ok operand

theorem Schema.find?_eq (schema : Schema) (name : String) :
    schema.find? (·.name == name) = (schema.place? name).bind (schema[·]?) :=
  List.find?_eq_bind_findIdx?_getElem?

theorem Schema.find?_eq_some {schema : Schema} {name : String} {field : Field} :
    schema.find? (·.name == name) = some field ↔
      ∃ place, schema.place? name = some place ∧ schema[place]? = some field := by
  rw [schema.find?_eq, Option.bind_eq_some_iff]

theorem Predicate.isSome_test {schema : Schema} {p : Predicate} :
    (p.test schema).isSome = true ↔ p.Fits schema := by
  unfold test Fits
  rw [schema.find?_eq]
  cases schema.place? p.column with
  | none => simp
  | some column =>
    cases hfield : schema[column]? with
    | none => simp [hfield]
    | some field =>
      cases hv : Value.ofLiteral field.kind p.literal <;> simp [hfield, hv, Except.toOption]

theorem Filter.flatten_groups (predicates : List Predicate) :
    (groups predicates).flatten = predicates :=
  List.flatten_splitBy _ predicates

theorem Filter.mem_of_mem_groups {predicates group : List Predicate}
    (hg : group ∈ groups predicates) {p : Predicate} (hp : p ∈ group) : p ∈ predicates := by
  rw [← flatten_groups predicates]
  exact List.mem_flatten_of_mem hg hp

theorem Filter.isSome_tests {schema : Schema} {predicates : List Predicate} :
    (tests schema predicates).isSome = true ↔
      ∀ p ∈ predicates, (p.test schema).isSome = true := by
  unfold tests
  simp only [isSome_mapM]
  rw [← List.forall_mem_flatten, flatten_groups]

/-- A filter makes sense if each of its predicates does. -/
theorem Filter.isSome_test {schema : Schema} {filter : Filter} :
    (filter.test schema).isSome = true ↔ ∀ ps ∈ filter, ∀ p ∈ ps, p.Fits schema := by
  cases filter with
  | none => simp [test]
  | some predicates =>
    simp only [Option.mem_some_iff, forall_eq', ← Predicate.isSome_test, ← isSome_tests]
    unfold test
    rw [Option.isSome_map]

theorem Schema.toOption_resolve (schema : Schema) (name : String) :
    (schema.resolve name).toOption.map Fin.val = schema.place? name := by
  have hplace : schema.place? name = (schema.findFinIdx? (·.name == name)).map (·.val) :=
    List.findIdx?_eq_map_findFinIdx?_val
  unfold Schema.resolve
  rw [hplace]
  cases schema.findFinIdx? (·.name == name) <;> rfl

namespace Condition

variable {schema : Schema} {predicates : List Predicate} {comparison : Predicate → Comparison}

theorem toOption_resolve (schema : Schema) (p : Predicate) :
    (resolve schema p).toOption.map Comparison.holds = p.test schema := by
  unfold resolve Predicate.test
  rw [← schema.toOption_resolve]
  cases schema.resolve p.column with
  | error e => rfl
  | ok column =>
    have hfield : schema[column.val]? = some (schema.get column) := by simp
    change (Except.toOption (Value.ofLiteral (schema.get column).kind p.literal >>= _)).map _ =
      (schema[column.val]?).bind _
    rw [hfield, Option.bind_some]
    cases Value.ofLiteral (schema.get column).kind p.literal <;> rfl

/-- A condition takes each comparison into its last group or into a new one. -/
def take (condition : Condition) (p : Predicate) (c : Comparison) : Condition :=
  if p.alternative then condition.or c else condition.and c

def takeAll (comparison : Predicate → Comparison) (predicates : List Predicate)
    (condition : Condition) : Condition :=
  predicates.foldl (fun condition p => condition.take p (comparison p)) condition

theorem ofPredicates_of_forall (h : ∀ p ∈ predicates, resolve schema p = .ok (comparison p)) :
    ofPredicates schema predicates = .ok (takeAll comparison predicates empty) := by
  unfold ofPredicates
  generalize empty = condition
  induction predicates generalizing condition with
  | nil => rfl
  | cons p rest ih =>
    obtain ⟨hp, hrest⟩ := List.forall_mem_cons.mp h
    rw [List.foldlM_cons, hp]
    exact ih hrest _

theorem ofPredicates_of_error {p : Predicate} {e : Error} (hp : p ∈ predicates)
    (h : resolve schema p = .error e) : (ofPredicates schema predicates).toOption = none := by
  unfold ofPredicates
  generalize empty = condition
  induction predicates generalizing condition with
  | nil => cases hp
  | cons q rest ih =>
    rw [List.foldlM_cons, toOption_bind]
    rcases List.mem_cons.mp hp with rfl | hp
    · rw [h]
      rfl
    · cases hq : resolve schema q with
      | error e => rfl
      | ok c => exact ih hp _

/-- The last group is still open, and those before it are done. -/
theorem groups_takeAll_open (predicates : List Predicate) (last : Predicate)
    (group : List Predicate) (done : List (List Predicate)) :
    (takeAll comparison predicates
      ⟨(done.reverse ++ [(last :: group).reverse]).map (·.map comparison)⟩).groups =
      (List.splitBy.loop (fun _ next => !next.alternative) predicates last group done).map
        (·.map comparison) := by
  induction predicates generalizing last group done with
  | nil => simp [takeAll, List.splitBy.loop]
  | cons p rest ih =>
    change (takeAll comparison rest (take _ p (comparison p))).groups = _
    rw [List.splitBy.loop]
    cases hp : p.alternative with
    | true =>
      refine Eq.trans ?_ (ih p [] ((last :: group).reverse :: done))
      simp [take, hp, Condition.or]
    | false =>
      refine Eq.trans ?_ (ih p (last :: group) done)
      simp [take, hp, Condition.and]

theorem groups_takeAll (predicates : List Predicate) :
    (takeAll comparison predicates empty).groups =
      (Filter.groups predicates).map (·.map comparison) := by
  cases predicates with
  | nil => rfl
  | cons p rest =>
    have hfirst : empty.take p (comparison p) = ⟨[[comparison p]]⟩ := by
      unfold take
      split <;> rfl
    change (takeAll comparison rest (empty.take p (comparison p))).groups = _
    rw [hfirst]
    exact groups_takeAll_open rest p [] []

/-- A condition can be made where the filter makes sense, and accepts the rows that pass it. -/
theorem toOption_ofPredicates (schema : Schema) (predicates : List Predicate) :
    (ofPredicates schema predicates).toOption.map accepts =
      Filter.test schema (some predicates) := by
  change _ = (Filter.tests schema predicates).map _
  by_cases h : ∀ p ∈ predicates, ∃ c, resolve schema p = .ok c
  · have : Nonempty Comparison := ⟨⟨0, .eq, false, .null⟩⟩
    choose! comparison hc using h
    have htest : ∀ p ∈ predicates, p.test schema = some (comparison p).holds := by
      intro p hp
      rw [← toOption_resolve, hc p hp]
      rfl
    have htests : Filter.tests schema predicates =
        some ((Filter.groups predicates).map (·.map fun p => (comparison p).holds)) :=
      mapM_some_of_forall fun group hg =>
        mapM_some_of_forall fun p hp => htest p (Filter.mem_of_mem_groups hg hp)
    rw [ofPredicates_of_forall hc, htests]
    refine congrArg some (funext fun row => ?_)
    unfold accepts
    rw [groups_takeAll]
    simp [Function.comp_def]
  · simp only [not_forall] at h
    obtain ⟨p, hp, hfails⟩ := h
    cases he : resolve schema p with
    | ok c => exact absurd ⟨c, he⟩ hfails
    | error e =>
      have hnone : Filter.tests schema predicates = none := by
        rw [← Option.not_isSome_iff_eq_none, Filter.isSome_tests]
        intro hall
        have hp := hall p hp
        rw [← toOption_resolve, he] at hp
        cases hp
      rw [ofPredicates_of_error hp he, hnone]
      rfl

end Condition

end Tabular
