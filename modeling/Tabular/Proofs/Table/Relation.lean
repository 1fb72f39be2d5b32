import Tabular.Proofs.Table.Built
import Tabular.Table.Relation

namespace Tabular

namespace Sheet

/-- The rows that pass a test, in their order. -/
def keep (s : Sheet) (test : Row → Bool) : Sheet :=
  { s with key := ∅, rows := s.rows.filter test }

/-- Columns may be left out, reordered and repeated. -/
def pick (s : Sheet) (places : List Nat) : Option Sheet := do
  let fields ← places.mapM (s.schema[·]?)
  return ⟨s.name, fields, ∅, s.rows.map fun row => places.map row.value⟩

/-- The rows that a row is joined to, or nulls in their place if there are none and it is kept. -/
def partners (right : Sheet) (row : Row) (l r : Nat) (kept : Bool) : List Row :=
  match right.rows.filter fun other => (row.value l).same (other.value r) with
  | [] => if kept then [Row.nulls right.schema.length] else []
  | found => found

/-- Columns of different kinds cannot be compared. -/
def join (left right : Sheet) (l r : Nat) (kept : Bool) : Option Sheet := do
  let a ← left.schema[l]?
  let b ← right.schema[r]?
  if a.kind = b.kind then
    return ⟨left.name, left.schema ++ right.schema, ∅,
      left.rows.flatMap fun row => (right.partners row l r kept).map (row ++ ·)⟩
  else none

theorem pick_keep_all (s : Sheet) (places : List Nat) :
    (s.keep fun _ => true).pick places = s.pick places := by
  unfold keep pick
  rw [List.filter_true]

theorem isSome_pick {s : Sheet} {places : List Nat}
    (h : ∀ place ∈ places, place < s.schema.length) :
    (s.pick places).isSome = true := by
  have hfields : (places.mapM (s.schema[·]?)).isSome = true := by
    rw [isSome_mapM]
    intro place hm
    simpa using h place hm
  obtain ⟨fields, hf⟩ := Option.isSome_iff_exists.mp hfields
  unfold pick
  rw [hf]
  rfl

theorem join_eq_some {left right s : Sheet} {l r : Nat} {kept : Bool}
    (h : left.join right l r kept = some s) : s.schema = left.schema ++ right.schema := by
  obtain ⟨a, -, h⟩ := Option.bind_eq_some_iff.mp h
  obtain ⟨b, -, h⟩ := Option.bind_eq_some_iff.mp h
  split at h
  · cases h
    rfl
  · cases h

theorem isSome_join {left right : Sheet} {l r : Nat} {kept : Bool} :
    (left.join right l r kept).isSome = true ↔
      ∃ a b, left.schema[l]? = some a ∧ right.schema[r]? = some b ∧ a.kind = b.kind := by
  unfold join
  cases left.schema[l]? with
  | none => simp
  | some a =>
    cases right.schema[r]? with
    | none => simp
    | some b => by_cases hk : a.kind = b.kind <;> simp [hk]

end Sheet

namespace Schema.Holds

variable {schema other : Schema} {row more : Row}

theorem append (h : Holds schema row) (hm : Holds other more) :
    Holds (schema ++ other) (row ++ more) := by
  refine ⟨by rw [List.length_append, List.length_append, h.1, hm.1], ?_⟩
  rw [List.zip_append h.1.symm]
  exact List.forall_mem_append.mpr ⟨h.2, hm.2⟩

theorem nulls (schema : Schema) : Holds schema (Row.nulls schema.length) := by
  refine ⟨List.length_replicate, ?_⟩
  intro p hp
  obtain ⟨field, v⟩ := p
  obtain rfl : v = .null := List.eq_of_mem_replicate (List.of_mem_zip hp).2
  rfl

theorem value (h : Holds schema row) {place : Nat} {field : Field}
    (hf : schema[place]? = some field) : field.refusal (row.value place) = none := by
  have hlt : place < row.length := by
    rw [h.1]
    exact (List.getElem?_eq_some_iff.mp hf).1
  have hv : row[place]? = some (row.value place) := by
    simp [Row.value, hlt]
  refine h.2 (field, row.value place) (List.mem_of_getElem? (i := place) ?_)
  exact List.getElem?_zip_eq_some.mpr ⟨hf, hv⟩

/-- The values at some places fit the fields that stand there. -/
theorem map_value (h : Holds schema row) {places : List Nat} {fields : Schema}
    (hf : places.mapM (schema[·]?) = some fields) : Holds fields (places.map row.value) := by
  induction places generalizing fields with
  | nil =>
    cases hf
    exact ⟨rfl, nofun⟩
  | cons place rest ih =>
    rw [List.mapM_cons] at hf
    obtain ⟨field, hfield, hf⟩ := Option.bind_eq_some_iff.mp hf
    obtain ⟨others, hothers, hf⟩ := Option.bind_eq_some_iff.mp hf
    cases hf
    obtain ⟨hl, hp⟩ := ih hothers
    exact ⟨congrArg (· + 1) hl, List.forall_mem_cons.mpr ⟨h.value hfield, hp⟩⟩

end Schema.Holds

namespace Table

/-- A result that is a table is a sound one and shows what is meant, and an error means nothing. -/
def Shows (result : Except Error Table) (meaning : Option Sheet) : Prop :=
  match result with
  | .ok t => t.Sound ∧ meaning = some t.sheet
  | .error _ => meaning = none

theorem Shows.bind {result : Except Error Table} {meaning : Option Sheet}
    {f : Table → Except Error Table} {g : Sheet → Option Sheet} (h : Shows result meaning)
    (hf : ∀ t : Table, t.Sound → Shows (f t) (g t.sheet)) :
    Shows (result >>= f) (meaning.bind g) := by
  cases result with
  | error e =>
    obtain rfl : meaning = none := h
    rfl
  | ok t =>
    obtain ⟨hsound, rfl⟩ : t.Sound ∧ meaning = some t.sheet := h
    exact hf t hsound

/-- A step before a table is made succeeds where it has a meaning. -/
theorem Shows.after_map {x : Except Error α} {y : Option β} {p : α → β}
    {f : α → Except Error Table} {g : β → Option Sheet} (h : x.toOption.map p = y)
    (hf : ∀ a, x = .ok a → Shows (f a) (g (p a))) : Shows (x >>= f) (y.bind g) := by
  subst h
  cases x with
  | error e => rfl
  | ok a => exact hf a rfl

theorem Shows.after {x : Except Error α} {y : Option α} {f : α → Except Error Table}
    {g : α → Option Sheet} (h : x.toOption = y) (hf : ∀ a, x = .ok a → Shows (f a) (g a)) :
    Shows (x >>= f) (y.bind g) :=
  after_map (p := id) (by rw [Option.map_id, h]; rfl) hf

variable {t : Table}

/-- Without a key, nothing but a value out of place could be refused. -/
theorem shows_ofRows (name : String) {schema : Schema} {found rows : List Row}
    (hf : found = rows) (h : ∀ row ∈ rows, schema.Holds row) :
    Shows (ofRows name schema found) (some ⟨name, schema, ∅, rows⟩) := by
  subst hf
  have hsheet := sheet_ofSchema name schema
  have hschema : (ofSchema name schema).schema = schema := congrArg Sheet.schema hsheet
  have hrows : (ofSchema name schema).rows = [] := congrArg Sheet.rows hsheet
  have hkeyed : ({ (ofSchema name schema).sheet with
      rows := (ofSchema name schema).rows ++ found } : Sheet).Keyed := by
    rw [hsheet]
    exact fun hne => absurd hne Finset.not_nonempty_empty
  obtain ⟨t, hall, hsound, heq⟩ := (sound_ofSchema name schema).insertAll (by rwa [hschema]) hkeyed
  unfold ofRows
  rw [hall]
  refine ⟨hsound, ?_⟩
  rw [heq, hsheet, hrows]
  rfl

theorem Sound.find (h : t.Sound) (condition : Condition) :
    Shows (t.find condition) (some (t.sheet.keep condition.accepts)) :=
  shows_ofRows t.name rfl fun _ hr => h.holds (List.mem_of_mem_filter hr)

theorem toOption_field (t : Table) (index : Nat) : (t.field index).toOption = t.schema[index]? := by
  unfold field
  cases t.schema[index]? <;> rfl

theorem Sound.select (h : t.Sound) (places : List Nat) :
    Shows (t.select places) (t.sheet.pick places) := by
  have hfields : (places.mapM t.field).toOption = places.mapM (t.schema[·]?) := by
    rw [toOption_mapM]
    simp only [toOption_field]
  refine Shows.after hfields ?_
  intro fields hf
  have hm : places.mapM (t.schema[·]?) = some fields := by
    rw [← hfields, hf]
    rfl
  refine shows_ofRows t.name rfl fun row hr => ?_
  obtain ⟨whole, hw, rfl⟩ := List.mem_map.mp hr
  exact (h.holds hw).map_value hm

/-- The rows of the right table that a row goes with are those of its sheet. -/
theorem matching_eq (right : Table) (row : Row) (l r : Nat) :
    right.matching row l r = right.sheet.rows.filter fun other =>
      (row.value l).same (other.value r) := by
  unfold matching
  congr 1
  funext other
  exact Value.same_comm _ _

theorem Sound.holds_partners {right : Table} (h : right.Sound) {row other : Row} {l r : Nat}
    {kept : Bool} (ho : other ∈ right.sheet.partners row l r kept) :
    right.schema.Holds other := by
  unfold Sheet.partners at ho
  split at ho
  · split at ho
    · rw [List.mem_singleton.mp ho]
      exact .nulls right.schema
    · cases ho
  · exact h.holds (List.mem_of_mem_filter ho)

section Join

variable {left right : Table}

theorem Sound.rows_join (hl : left.Sound) (right : Table) (l r : Nat) (kept : Bool) :
    (left.rows.flatMap fun row => match right.matching row l r with
      | [] => if kept then [row.align (left.schema ++ right.schema).length] else []
      | found => found.map (row ++ ·)) =
    left.rows.flatMap fun row => (right.sheet.partners row l r kept).map (row ++ ·) := by
  apply List.flatMap_congr
  intro row hm
  have halign : row.align (left.schema ++ right.schema).length =
      row ++ Row.nulls right.sheet.schema.length := by
    unfold Row.align
    rw [(hl.holds hm).1, List.length_append, Nat.add_sub_cancel_left]
    rfl
  rw [matching_eq, halign]
  unfold Sheet.partners
  split
  · cases kept <;> rfl
  · rfl

theorem Sound.holds_join (hl : left.Sound) (hr : right.Sound) {l r : Nat} {kept : Bool} :
    ∀ row ∈ left.rows.flatMap fun row => (right.sheet.partners row l r kept).map (row ++ ·),
      (left.schema ++ right.schema).Holds row := by
  intro row hm
  obtain ⟨front, hf, hm⟩ := List.mem_flatMap.mp hm
  obtain ⟨back, hb, rfl⟩ := List.mem_map.mp hm
  exact (hl.holds hf).append (hr.holds_partners hb)

/-- A join fails only where a column is missing or the two are of different kinds. -/
theorem Sound.join (hl : left.Sound) (hr : right.Sound) (l r : Nat) (kept : Bool) :
    Shows (left.join right l r kept) (left.sheet.join right.sheet l r kept) := by
  refine Shows.after (left.toOption_field l) fun a _ => ?_
  refine Shows.after (right.toOption_field r) fun b _ => ?_
  by_cases hk : a.kind = b.kind
  · rw [if_pos hk, if_neg (not_not.mpr hk)]
    exact shows_ofRows left.name (hl.rows_join right l r kept) (hl.holds_join hr)
  · rw [if_neg hk, if_pos hk]
    rfl

end Join

end Table

end Tabular
