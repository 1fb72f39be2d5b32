import Tabular.Proofs.Table.Join

namespace Tabular

/-- The errors are of one class, whatever it is that they name. -/
def Error.SameClass (e e' : Error) : Prop :=
  e.ctorIdx = e'.ctorIdx

/-- Both results are there and related, or they are errors of one class. -/
inductive Concur (R : α → β → Prop) : Except Error α → Except Error β → Prop where
  | error {e e' : Error} (h : e.SameClass e') : Concur R (.error e) (.error e')
  | ok {a : α} {b : β} (h : R a b) : Concur R (.ok a) (.ok b)

namespace Concur

variable {R : α → β → Prop} {S : γ → δ → Prop} {x : Except Error α} {y : Except Error β}

theorem of_error {e e' : Error} (hx : x = .error e) (hy : y = .error e') (h : e.SameClass e') :
    Concur R x y := by
  rw [hx, hy]
  exact error h

theorem of_ok {a : α} {b : β} (hx : x = .ok a) (hy : y = .ok b) (h : R a b) : Concur R x y := by
  rw [hx, hy]
  exact ok h

theorem self {R : α → α → Prop} (h : ∀ a, x = .ok a → R a a) : Concur R x x := by
  cases x with
  | error e => exact error rfl
  | ok a => exact ok (h a rfl)

theorem mono {R' : α → β → Prop} (h : Concur R x y) (hR : ∀ a b, R a b → R' a b) :
    Concur R' x y := by
  cases h with
  | error h => exact error h
  | ok h => exact ok (hR _ _ h)

theorem bind {f : α → Except Error γ} {g : β → Except Error δ} (h : Concur R x y)
    (hf : ∀ a b, R a b → Concur S (f a) (g b)) : Concur S (x >>= f) (y >>= g) := by
  cases h with
  | error h => exact error h
  | ok h => exact hf _ _ h

theorem toOption_eq {x y : Except Error α} (h : Concur Eq x y) : x.toOption = y.toOption := by
  cases h with
  | error _ => rfl
  | ok h => rw [h]

end Concur

namespace Table

variable {a b : Table}

/-- Two tables with the same name, columns and key. -/
structure Mates (a b : Table) : Prop where
  left : a.Sound
  right : b.Sound
  same : a.sheet = { b.sheet with rows := a.rows }

theorem Sound.mates (h : a.Sound) : Mates a a := ⟨h, h, rfl⟩

theorem Mates.name (h : Mates a b) : a.name = b.name := congrArg Sheet.name h.same

theorem Mates.schema (h : Mates a b) : a.schema = b.schema := congrArg Sheet.schema h.same

theorem Mates.of_sheets (ha : a.Sound) (hb : b.Sound) {name : String} {schema : Schema}
    {key : Finset Nat} {rows others : List Row} (hrows : a.sheet = ⟨name, schema, key, rows⟩)
    (hothers : b.sheet = ⟨name, schema, key, others⟩) : Mates a b := by
  refine ⟨ha, hb, ?_⟩
  have hown : a.rows = rows := congrArg Sheet.rows hrows
  rw [hrows, hothers, hown]

theorem concur_of_shows {x y : Except Error Table} {name : String} {schema : Schema}
    {rows others : List Row} (hx : Shows x (some ⟨name, schema, ∅, rows⟩))
    (hy : Shows y (some ⟨name, schema, ∅, others⟩)) : Concur Mates x y := by
  obtain ⟨a, ha, hsound, hrows⟩ := hx.exists_sound
  obtain ⟨b, hb, hother, hothers⟩ := hy.exists_sound
  exact .of_ok ha hb (.of_sheets hsound hother hrows hothers)

theorem Mates.find (h : Mates a b) (c : Condition) : Concur Mates (a.find c) (b.find c) := by
  have hb := h.right.find c
  unfold Sheet.keep Table.sheet at hb
  rw [← h.name, ← h.schema] at hb
  exact concur_of_shows (h.left.find c) hb

theorem Mates.field (h : Mates a b) : a.field = b.field := by
  funext index
  unfold Table.field Table.noColumn
  rw [h.name, h.schema]

theorem Sound.shows_select (h : a.Sound) {places : List Nat} {fields : Schema}
    (hf : places.mapM a.field = .ok fields) :
    Shows (a.select places)
      (some ⟨a.name, fields, ∅, a.rows.map fun row => places.map row.value⟩) := by
  have hfields : places.mapM (a.schema[·]?) = some fields := by
    rw [← toOption_eq_some.mpr hf, toOption_mapM]
    simp only [toOption_field]
  have hselect := h.select places
  unfold Sheet.pick at hselect
  have hsheet : a.sheet.schema = a.schema := rfl
  rw [hsheet, hfields] at hselect
  exact hselect

theorem Mates.select (h : Mates a b) (places : List Nat) :
    Concur Mates (a.select places) (b.select places) := by
  cases hf : places.mapM a.field with
  | error e =>
    have ha : a.select places = .error e := by
      unfold Table.select
      rw [hf]
      rfl
    have hb : b.select places = .error e := by
      unfold Table.select
      rw [← h.field, hf]
      rfl
    exact .of_error ha hb rfl
  | ok fields =>
    have hb := h.right.shows_select (h.field ▸ hf)
    rw [← h.name] at hb
    exact concur_of_shows (h.left.shows_select hf) hb

/-- Whether the columns of a table can be compared with each other does not depend on which of them
comes first. -/
theorem Sound.concur_join_self {t : Table} (h : t.Sound) {l r : Nat} {x y : Field}
    (hx : t.schema[l]? = some x) (hy : t.schema[r]? = some y) (kept : Bool) :
    Concur Mates (t.join t l r kept) (t.join t r l kept) := by
  by_cases hk : x.kind = y.kind
  · have hleft := h.join h l r kept
    have hright := h.join h r l kept
    rw [Sheet.join_of_fields hx hy hk kept] at hleft
    rw [Sheet.join_of_fields hy hx hk.symm kept] at hright
    exact concur_of_shows hleft hright
  · exact .of_error (join_of_kinds_ne hx hy kept hk) (join_of_kinds_ne hy hx kept (Ne.symm hk)) rfl

end Table

end Tabular
