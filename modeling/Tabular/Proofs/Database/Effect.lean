import Tabular.Proofs.Database.Delete

namespace Tabular

/-- The tables differ in their rows, if at all. -/
structure Table.RowsOnly (t t' : Table) : Prop where
  name : t'.name = t.name
  schema : t'.schema = t.schema
  key : t'.key = t.key

namespace Table.RowsOnly

variable {t t' t'' : Table}

theorem refl (t : Table) : t.RowsOnly t := ⟨rfl, rfl, rfl⟩

theorem trans (h : t.RowsOnly t') (h' : t'.RowsOnly t'') : t.RowsOnly t'' :=
  ⟨h'.name.trans h.name, h'.schema.trans h.schema, h'.key.trans h.key⟩

theorem insert {row : Row} (h : t.insert row = .ok t') : t.RowsOnly t' := by
  obtain ⟨hw, rfl⟩ := insert_eq_ok h
  exact ⟨rfl, schema_appendRow t (length_align hw), rfl⟩

theorem update {row column : Nat} {v : Value} (ht : t.Sound)
    (h : t.update row column v = .ok t') : t.RowsOnly t' := by
  rw [t.update_eq row column v ht] at h
  split at h
  · split at h
    · cases h
    · split at h
      · cases h
      · split at h
        · cases h
        · cases h
          exact ⟨rfl, schema_writeCell t row column v, rfl⟩
  · cases h

theorem delete (t : Table) (row : Nat) : t.RowsOnly (t.delete row) := by
  unfold Table.delete
  split
  · exact ⟨rfl, by simp [Table.schema, Column.remove], rfl⟩
  · exact refl t

theorem clear (t : Table) : t.RowsOnly t.clear :=
  ⟨rfl, by simp [Table.schema, Table.clear, Column.clear], rfl⟩

theorem of_write {write : Write} (h : write.OfRows) (ht : t.Sound) (hw : write t = .ok t') :
    t.RowsOnly t' := by
  cases h with
  | insert found =>
    obtain ⟨row, -, hinsert⟩ := bind_eq_ok.mp hw
    exact insert hinsert
  | update row column v => exact update ht hw
  | delete row =>
    cases hw
    exact delete t row
  | clear =>
    cases hw
    exact clear t

theorem perform (ht : t.Built) {writes : List Write} (h : ∀ write ∈ writes, write.OfRows) :
    t.RowsOnly (t.perform writes).1 := by
  refine (Table.perform_induction (P := fun t' => t'.Built ∧ t.RowsOnly t') ?_ ⟨ht, refl t⟩).2
  rintro write hm old new ⟨hold, hrows⟩ hw
  exact ⟨((h write hm).keeps old new hold hw).1,
    hrows.trans (of_write (h write hm) hold.sound_fit.1 hw)⟩

end Table.RowsOnly

namespace Plan

variable {t : Table} {found : Plan}

end Plan

namespace Change

/-- The name of the table that a change is about. -/
def target : Change → String
  | .createTable name _ _ | .insert name _ _ | .dropTable name | .update name _ _ _
  | .delete name _ => name

end Change

namespace Database

variable {db : Database} {c : Change}

theorem put_of_nodup (h : db.names.Nodup) {before behind : List Table} {t new : Table}
    (htables : db.tables = before ++ t :: behind) :
    db.put t.name new = ⟨before ++ new :: behind⟩ := by
  have hnames : db.names = before.map Table.name ++ t.name :: behind.map Table.name := by
    unfold names
    rw [htables, List.map_append]
    rfl
  rw [hnames] at h
  have hfree : t.name ∉ before.map Table.name := fun hm =>
    (List.nodup_append.mp h).2.2 t.name hm t.name List.mem_cons_self rfl
  have hgo : ∀ ts : List Table, t.name ∉ ts.map Table.name →
      put.go t.name new (ts ++ t :: behind) = ts ++ new :: behind := by
    intro ts hts
    induction ts with
    | nil => exact if_pos (beq_self_eq_true t.name)
    | cons head rest ih =>
      rw [List.map_cons, List.mem_cons, not_or] at hts
      have hhead : ¬ (head.name == t.name) = true := by simpa using Ne.symm hts.1
      rw [List.cons_append, List.cons_append, ← ih hts.2]
      exact if_neg hhead
  unfold put
  rw [htables, hgo before hfree]

/-- A plan that can be made for the table is performed in its place, and else nothing is. -/
theorem Built.carryOut_cases (h : db.Built) (name : String) (plan : Table → Except Error Plan) :
    (∃ e, db.carryOut name plan = (db, .error e) ∧
        ∀ t ∈ db.tables, t.name = name → ∀ found, plan t ≠ .ok found) ∨
      ∃ before t behind found, db.tables = before ++ t :: behind ∧ t.name = name ∧
        plan t = .ok found ∧
        db.carryOut name plan = (⟨before ++ (t.perform found.writes).1 :: behind⟩,
          match (t.perform found.writes).2 with
          | none => .ok found.outcome
          | some e => .error e) := by
  by_cases hplan : ∃ t ∈ db.tables, t.name = name ∧ ∃ found, plan t = .ok found
  · obtain ⟨t, ht, rfl, found, hfound⟩ := hplan
    obtain ⟨before, behind, htables⟩ := List.append_of_mem ht
    refine Or.inr ⟨before, t, behind, found, htables, rfl, hfound, ?_⟩
    exact (h.carryOut_eq ht hfound).trans (congrArg (·, _) (put_of_nodup h.names htables))
  · have hnone : ∀ t ∈ db.tables, t.name = name → ∀ found, plan t ≠ .ok found :=
      fun t ht hname found hfound => hplan ⟨t, ht, hname, found, hfound⟩
    refine Or.inl ?_
    unfold Database.carryOut Database.table
    cases hf : db.find? name with
    | none => exact ⟨_, rfl, hnone⟩
    | some old =>
      dsimp only
      cases hp : plan old with
      | error e => exact ⟨e, rfl, hnone⟩
      | ok found =>
        obtain ⟨hold, hname⟩ := find?_eq_some hf
        exact absurd hp (hnone old hold hname found)

end Database

end Tabular
