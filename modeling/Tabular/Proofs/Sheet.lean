import Mathlib.Data.Finset.Sort
import Tabular.Proofs.Column
import Tabular.Table

namespace Tabular

/-- The rows have equal values in every column of the key. -/
def Row.Agree (key : Finset Nat) (a b : Row) : Prop :=
  ∀ column ∈ key, (a.value column).same (b.value column) = true

instance (key : Finset Nat) (a b : Row) : Decidable (Row.Agree key a b) :=
  inferInstanceAs (Decidable (∀ column ∈ key, _))

/-- A table as a plain list of rows; a key with no column in it forbids nothing. -/
structure Sheet where
  name : String
  schema : Schema
  key : Finset Nat
  rows : List Row

namespace Sheet

def empty (name : String) : Sheet := ⟨name, [], ∅, []⟩

def addColumn (s : Sheet) (field : Field) : Sheet :=
  { s with schema := s.schema ++ [field], rows := s.rows.map (· ++ [.null]) }

def declareColumn (s : Sheet) (typeText name : String) : Except Error Sheet :=
  match Kind.ofText? typeText with
  | some kind => .ok (s.addColumn ⟨name, kind⟩)
  | none => .error (.unknownKind typeText)

/-- Of several places past the last column the lowest is reported. -/
def setKey (s : Sheet) (indices : List Nat) : Except Error Sheet :=
  match (indices.toFinset.sort (· ≤ ·)).find? (s.schema.length ≤ ·) with
  | some bad => .error (.missing (.columnAt bad s.name))
  | none => .ok { s with key := indices.toFinset }

/-- A name stands for the first column under it. -/
def place (s : Sheet) (name : String) : Except Error Nat :=
  match s.schema.findIdx? (·.name == name) with
  | some index => .ok index
  | none => .error (.missing (.column name))

def setKeyByName (s : Sheet) (names : List String) : Except Error Sheet :=
  match names.mapM s.place with
  | .error e => .error e
  | .ok indices => s.setKey indices

def duplicate (s : Sheet) (row : Row) : Error :=
  .duplicateKey s.name ((s.key.sort (· ≤ ·)).filterMap fun column =>
    s.schema[column]?.map fun field => (field.name, row.value column))

/-- A row that is too wide is refused first, then the first value with no place in its column, and
then a row that agrees with a stored one on the key. -/
def insert (s : Sheet) (row : Row) : Except Error Sheet :=
  let filled := row ++ List.replicate (s.schema.length - row.length) .null
  if s.schema.length < row.length then
    .error (.columnCount s.schema.length row.length)
  else match (s.schema.zip filled).findSome? fun (field, v) => field.refusal v with
    | some e => .error e
    | none =>
      if s.key.Nonempty ∧ ∃ stored ∈ s.rows, Row.Agree s.key filled stored then
        .error (s.duplicate filled)
      else .ok { s with rows := s.rows ++ [filled] }

/-- One cell is replaced, unless the row would then agree with another one on the key. -/
def update (s : Sheet) (row column : Nat) (v : Value) : Except Error Sheet :=
  match s.rows[row]? with
  | none => .error (.missing (.rowAt row s.name))
  | some old => match s.schema[column]? with
    | none => .error (.missing (.columnAt column s.name))
    | some field => match field.refusal v with
      | some e => .error e
      | none =>
        let new := old.set column v
        if column ∈ s.key ∧ ∃ other ∈ s.rows.eraseIdx row, Row.Agree s.key new other then
          .error (s.duplicate new)
        else .ok { s with rows := s.rows.set row new }

def delete (s : Sheet) (row : Nat) : Sheet :=
  { s with rows := s.rows.eraseIdx row }

def clear (s : Sheet) : Sheet :=
  { s with rows := [] }

def rename (s : Sheet) (name : String) : Sheet :=
  { s with name := name }

/-- A row that went in fits the schema, agrees with no stored row on the key and stands last. -/
theorem insert_ok {s s' : Sheet} {row : Row} (h : s.insert row = .ok s') :
    ∃ filled, filled = row ++ List.replicate (s.schema.length - row.length) .null ∧
      row.length ≤ s.schema.length ∧
      (∀ p ∈ s.schema.zip filled, p.1.refusal p.2 = none) ∧
      ¬ (s.key.Nonempty ∧ ∃ stored ∈ s.rows, Row.Agree s.key filled stored) ∧
      s' = { s with rows := s.rows ++ [filled] } := by
  unfold insert at h
  dsimp only at h
  split at h
  · cases h
  · rename_i hw
    split at h
    · cases h
    · rename_i ha
      split at h
      · cases h
      · rename_i hfree
        cases h
        exact ⟨_, rfl, Nat.le_of_not_lt hw, List.findSome?_eq_none_iff.mp ha, hfree, rfl⟩

/-- Of a row of full width in which every value has its place, only the key is still checked. -/
theorem insert_of_placed {s : Sheet} {row : Row} (hl : row.length = s.schema.length)
    (ha : ∀ p ∈ s.schema.zip row, p.1.refusal p.2 = none) :
    s.insert row =
      if s.key.Nonempty ∧ ∃ stored ∈ s.rows, Row.Agree s.key row stored then
        .error (s.duplicate row)
      else .ok { s with rows := s.rows ++ [row] } := by
  have hfilled : row ++ List.replicate (s.schema.length - row.length) .null = row := by
    rw [hl, Nat.sub_self]
    exact List.append_nil row
  have hplaces : (s.schema.zip row).findSome? (fun (field, v) => field.refusal v) = none :=
    List.findSome?_eq_none_iff.mpr ha
  unfold insert
  dsimp only
  rw [hfilled, if_neg (by omega), hplaces]

/-- A row of full width goes in if every value has its place and no stored row has its key. -/
theorem insert_of_free {s : Sheet} {row : Row} (hl : row.length = s.schema.length)
    (ha : ∀ p ∈ s.schema.zip row, p.1.refusal p.2 = none)
    (hfree : ¬ (s.key.Nonempty ∧ ∃ stored ∈ s.rows, Row.Agree s.key row stored)) :
    s.insert row = .ok { s with rows := s.rows ++ [row] } :=
  (insert_of_placed hl ha).trans (if_neg hfree)

theorem setKey_of_bounded {s : Sheet} {indices : List Nat}
    (h : ∀ index ∈ indices, index < s.schema.length) :
    s.setKey indices = .ok { s with key := indices.toFinset } := by
  have hnone : (indices.toFinset.sort (· ≤ ·)).find? (s.schema.length ≤ ·) = none := by
    rw [List.find?_eq_none]
    intro index hi
    have := h index (List.mem_toFinset.mp ((Finset.mem_sort _).mp hi))
    simpa using this
  unfold setKey
  rw [hnone]

/-- A cell that was replaced holds a value of its column, and if it belongs to the key no other row
agrees with the new one. -/
theorem update_ok {s s' : Sheet} {row column : Nat} {v : Value}
    (h : s.update row column v = .ok s') :
    ∃ old field, s.rows[row]? = some old ∧ s.schema[column]? = some field ∧
      field.refusal v = none ∧
      ¬ (column ∈ s.key ∧
        ∃ other ∈ s.rows.eraseIdx row, Row.Agree s.key (old.set column v) other) ∧
      s' = { s with rows := s.rows.set row (old.set column v) } := by
  unfold update at h
  split at h
  · cases h
  · rename_i old hold
    split at h
    · cases h
    · rename_i field hfield
      split at h
      · cases h
      · rename_i ha
        dsimp only at h
        split at h
        · cases h
        · rename_i hfree
          cases h
          exact ⟨old, field, hold, hfield, ha, hfree, rfl⟩

/-- Rows at different places never agree on a key that has a column. -/
def Keyed (s : Sheet) : Prop :=
  s.key.Nonempty → ∀ (i j : Nat) (a b : Row), i ≠ j → s.rows[i]? = some a →
    s.rows[j]? = some b → ¬ Row.Agree s.key a b

end Sheet

/-- The rows of a table are listed, and its key becomes a set. -/
def Table.sheet (t : Table) : Sheet :=
  ⟨t.name, t.schema, t.key.toFinset, t.rows⟩

inductive Operation where
  | addColumn (field : Field)
  | declareColumn (typeText name : String)
  | setKey (indices : List Nat)
  | setKeyByName (names : List String)
  | insert (row : Row)
  | update (row column : Nat) (v : Value)
  | delete (row : Nat)
  | clear
  | rename (name : String)

def Table.apply (t : Table) : Operation → Except Error Table
  | .addColumn field => .ok (t.addColumn field)
  | .declareColumn typeText name => t.declareColumn typeText name
  | .setKey indices => t.setKey indices
  | .setKeyByName names => t.setKeyByName names
  | .insert row => t.insert row
  | .update row column v => t.update row column v
  | .delete row => .ok (t.delete row)
  | .clear => .ok t.clear
  | .rename name => .ok (t.rename name)

def Sheet.apply (s : Sheet) : Operation → Except Error Sheet
  | .addColumn field => .ok (s.addColumn field)
  | .declareColumn typeText name => s.declareColumn typeText name
  | .setKey indices => s.setKey indices
  | .setKeyByName names => s.setKeyByName names
  | .insert row => s.insert row
  | .update row column v => s.update row column v
  | .delete row => .ok (s.delete row)
  | .clear => .ok s.clear
  | .rename name => .ok (s.rename name)

/-- Operations one after another, with the result of each; one that fails leaves the state. -/
def replay (apply : σ → Operation → Except Error σ) (s : σ) :
    List Operation → σ × List (Except Error Unit)
  | [] => (s, [])
  | op :: rest =>
    match apply s op with
    | .ok next => ((replay apply next rest).1, .ok () :: (replay apply next rest).2)
    | .error e => ((replay apply s rest).1, .error e :: (replay apply s rest).2)

end Tabular
