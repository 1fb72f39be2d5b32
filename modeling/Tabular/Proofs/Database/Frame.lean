import Tabular.Proofs.Database.Effect

namespace Tabular

/-- What a plan makes of a table, and the outcome; a table that it cannot be made for stays. -/
def Table.undergo (t : Table) (plan : Table → Except Error Plan) : Table × Except Error Outcome :=
  match plan t with
  | .error e => (t, .error e)
  | .ok found => ((t.perform found.writes).1, match (t.perform found.writes).2 with
    | none => .ok found.outcome
    | some e => .error e)

/-- A plan whose writes are all writes to rows. -/
def Plan.OfRows (plan : Table → Except Error Plan) : Prop :=
  ∀ t found, plan t = .ok found → ∀ write ∈ found.writes, write.OfRows

namespace Database

variable {db : Database} {name other : String} {new : Table}

theorem find?_put (hn : new.name = name) (h : other ≠ name) :
    (db.put name new).find? other = db.find? other := by
  have hgo : ∀ ts : List Table,
      (put.go name new ts).find? (·.name == other) = ts.find? (·.name == other) := by
    intro ts
    induction ts with
    | nil => rfl
    | cons head rest ih =>
      unfold put.go
      split
      · rename_i hname
        have hnew : ¬ (new.name == other) = true := by simpa [hn] using h.symm
        have hhead : ¬ (head.name == other) = true := by simpa [beq_iff_eq.mp hname] using h.symm
        simp [hnew, hhead]
      · rw [List.find?_cons, List.find?_cons, ih]
  exact hgo db.tables

theorem put_found {t : Table} (h : db.find? name = some t) : db.put name t = db := by
  have hgo : ∀ ts : List Table, ts.find? (·.name == name) = some t → put.go name t ts = ts := by
    intro ts
    induction ts with
    | nil => exact fun _ => rfl
    | cons head rest ih =>
      intro hf
      unfold put.go
      split
      · rename_i hname
        obtain rfl : head = t := by simpa [List.find?_cons, hname] using hf
        rfl
      · rename_i hname
        rw [ih (by simpa [List.find?_cons, hname] using hf)]
  exact congrArg Database.mk (hgo db.tables h)

/-- A plan is carried out on the table that has the name and on no other. -/
theorem carryOut_undergo (db : Database) (name : String) (plan : Table → Except Error Plan) :
    db.carryOut name plan = match db.find? name with
      | none => (db, .error (.missing (.table name)))
      | some t => (db.put name (t.undergo plan).1, (t.undergo plan).2) := by
  unfold Database.carryOut Database.table Table.undergo
  cases hf : db.find? name with
  | none => rfl
  | some t =>
    dsimp only
    cases hp : plan t with
    | error e => rw [put_found hf]
    | ok found =>
      dsimp only
      rcases t.perform found.writes with ⟨new, _ | e⟩ <;> rfl

end Database

namespace Database

variable {db : Database} {c d : Change}

end Database

end Tabular
