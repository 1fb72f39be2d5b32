import Tabular.Proofs.Table.Relation

namespace Tabular

def replaceAt (as : Array α) (index : Nat) (a : α) : Option (Array α) :=
  if index < as.size then some (as.setIfInBounds index a) else none

def eraseAt (as : Array α) (index : Nat) : Option (Array α) :=
  if index < as.size then some (as.eraseIdxIfInBounds index) else none

/-- What an operation leaves behind, and the error if there was one. -/
abbrev Left (σ : Type) := σ × Except Error Unit

structure Storage where
  kind : Kind
  cells : Array kind.Cell

/-- An array of marks beside one of cells, which has a kind of its own. An access past the end of an
array, or to a cell of another kind, comes to nothing at all. -/
structure StoredColumn where
  field : Field
  storage : Storage
  nulls : Array Bool

namespace StoredColumn

def empty (field : Field) : StoredColumn :=
  ⟨field, ⟨field.kind, #[]⟩, #[]⟩

def pushNull (c : StoredColumn) : StoredColumn :=
  { c with
    storage := ⟨c.storage.kind, c.storage.cells.push c.storage.kind.blank⟩
    nulls := c.nulls.push true }

def ofNulls (field : Field) (count : Nat) : StoredColumn :=
  pushNull^[count] (empty field)

/-- The value is looked at as one of the declared kind, and then stored as one of the array's. -/
def push (c : StoredColumn) (v : Value) : Option (Left StoredColumn) :=
  match c.field.refusal v with
  | some e => some (c, .error e)
  | none =>
    if v.isNull then some (c.pushNull, .ok ())
    else do
      let content ← v.cell? c.storage.kind
      return ({ c with
        storage := ⟨c.storage.kind, c.storage.cells.push content⟩
        nulls := c.nulls.push false }, .ok ())

/-- A place past the end has no value, which is not the same as an access to it. -/
def get (c : StoredColumn) (index : Nat) : Option (Option Value) :=
  if c.nulls.size ≤ index then some none
  else do
    if ← c.nulls[index]? then return some .null
    else return some (.ofCell c.storage.kind (← c.storage.cells[index]?))

def set (c : StoredColumn) (index : Nat) (v : Value) : Option (Left StoredColumn) :=
  if c.nulls.size ≤ index then some (c, .error (.missing (.cell index)))
  else match c.field.refusal v with
    | some e => some (c, .error e)
    | none =>
      if v.isNull then do
        return ({ c with nulls := ← replaceAt c.nulls index true }, .ok ())
      else do
        let cells ← replaceAt c.storage.cells index (← v.cell? c.storage.kind)
        let nulls ← replaceAt c.nulls index false
        return ({ c with storage := ⟨c.storage.kind, cells⟩, nulls := nulls }, .ok ())

def remove (c : StoredColumn) (index : Nat) : Option StoredColumn :=
  if c.nulls.size ≤ index then some c
  else do
    let cells ← eraseAt c.storage.cells index
    let nulls ← eraseAt c.nulls index
    return { c with storage := ⟨c.storage.kind, cells⟩, nulls := nulls }

def clear (c : StoredColumn) : StoredColumn :=
  { c with storage := ⟨c.storage.kind, #[]⟩, nulls := #[] }

/-- The columns take a value each, until one of them refuses. -/
def pushEach : List StoredColumn → Row → Option (Left (List StoredColumn))
  | c :: columns, v :: row => do
    match ← c.push v with
    | (c, .error e) => return (c :: columns, .error e)
    | (c, .ok ()) =>
      let (columns, result) ← pushEach columns row
      return (c :: columns, result)
  | columns, _ => return (columns, .ok ())

end StoredColumn

structure StoredTable where
  name : String
  schema : Schema
  columns : List StoredColumn
  key : List Nat
  rowCount : Nat

namespace StoredTable

def empty (name : String) : StoredTable :=
  ⟨name, [], [], [], 0⟩

def addColumn (s : StoredTable) (field : Field) : StoredTable :=
  { s with
    schema := s.schema ++ [field]
    columns := s.columns ++ [.ofNulls field s.rowCount] }

def declareColumn (s : StoredTable) (typeText name : String) : Left StoredTable :=
  match Kind.ofText typeText with
  | .ok kind => (s.addColumn ⟨name, kind⟩, .ok ())
  | .error e => (s, .error e)

def setKey (s : StoredTable) (indices : List Nat) : Left StoredTable :=
  let key := indices.foldr Table.insertIndex []
  match key.find? (s.schema.length ≤ ·) with
  | some bad => (s, .error (.missing (.columnAt bad s.name)))
  | none => ({ s with key := key }, .ok ())

def setKeyByName (s : StoredTable) (names : List String) : Left StoredTable :=
  match names.mapM fun name => return (← s.schema.resolve name).val with
  | .ok indices => s.setKey indices
  | .error e => (s, .error e)

/-- A row is there if every column has a value in its place. -/
def row (s : StoredTable) (index : Nat) : Option (Option Row) :=
  if s.rowCount ≤ index then some none
  else do
    let found ← s.columns.mapM (·.get index)
    return found.mapM id

def rows (s : StoredTable) : Option (List Row) := do
  let found ← (List.range s.rowCount).mapM s.row
  return found.reduceOption

def sameCell : Option Value → Option Value → Bool
  | some a, some b => a.same b
  | none, none => true
  | _, _ => false

/-- Whether a stored row and a candidate agree on the whole key. -/
def agrees (s : StoredTable) (candidate : Row) (index : Nat) : Option Bool :=
  s.key.allM fun place => do
    let column ← s.columns[place]?
    return sameCell (← column.get index) candidate[place]?

def conflictingRow (s : StoredTable) (candidate : Row) (skip : Option Nat) :
    Option (Option Nat) :=
  if s.key.isEmpty then some none
  else ((List.range s.rowCount).filter (skip != some ·)).findM? (s.agrees candidate)

def keyConflict (s : StoredTable) (values : Row) : Option Error := do
  let fields ← s.key.mapM fun place => do
    let field ← s.schema[place]?
    return (field.name, values.value place)
  return .duplicateKey s.name fields

/-- The values are all looked at before the first of them is stored. -/
def insert (s : StoredTable) (row : Row) : Option (Left StoredTable) :=
  let width := s.schema.length
  if width < row.length then some (s, .error (.columnCount width row.length))
  else match (s.columns.zip (row.align width)).findSome? fun (c, v) => c.field.refusal v with
    | some e => some (s, .error e)
    | none => do
      match ← s.conflictingRow (row.align width) none with
      | some _ => return (s, .error (← s.keyConflict (row.align width)))
      | none =>
        match ← StoredColumn.pushEach s.columns (row.align width) with
        | (columns, .ok ()) =>
          return ({ s with columns := columns, rowCount := s.rowCount + 1 }, .ok ())
        | (columns, .error e) => return ({ s with columns := columns }, .error e)

def setCell (s : StoredTable) (row column : Nat) (v : Value) : Option (Left StoredTable) := do
  let target ← s.columns[column]?
  let (changed, result) ← target.set row v
  return ({ s with columns := s.columns.set column changed }, result)

def update (s : StoredTable) (row column : Nat) (v : Value) : Option (Left StoredTable) := do
  match ← s.row row with
  | none => return (s, .error (.missing (.rowAt row s.name)))
  | some old => match s.columns[column]? with
    | none => return (s, .error (.missing (.columnAt column s.name)))
    | some target => match target.field.refusal v with
      | some e => return (s, .error e)
      | none =>
        if s.key.contains column then
          let candidate ← old.replace? column v
          match ← s.conflictingRow candidate (some row) with
          | some _ => return (s, .error (← s.keyConflict candidate))
          | none => s.setCell row column v
        else s.setCell row column v

def delete (s : StoredTable) (row : Nat) : Option StoredTable :=
  if s.rowCount ≤ row then some s
  else do
    return { s with columns := ← s.columns.mapM (·.remove row), rowCount := s.rowCount - 1 }

def clear (s : StoredTable) : StoredTable :=
  { s with columns := s.columns.map StoredColumn.clear, rowCount := 0 }

def rename (s : StoredTable) (name : String) : StoredTable :=
  { s with name := name }

def apply (s : StoredTable) : Operation → Option (Left StoredTable)
  | .addColumn field => some (s.addColumn field, .ok ())
  | .declareColumn typeText name => some (s.declareColumn typeText name)
  | .setKey indices => some (s.setKey indices)
  | .setKeyByName names => some (s.setKeyByName names)
  | .insert row => s.insert row
  | .update row column v => s.update row column v
  | .delete row => (s.delete row).map (·, .ok ())
  | .clear => some (s.clear, .ok ())
  | .rename name => some (s.rename name, .ok ())

/-- Operations one after another on what the ones before have left. -/
def replay (s : StoredTable) : List Operation → Option (StoredTable × List (Except Error Unit))
  | [] => some (s, [])
  | op :: rest => do
    let (next, result) ← s.apply op
    let (last, results) ← replay next rest
    return (last, result :: results)

def insertAll (s : StoredTable) : List Row → Option (Except Error StoredTable)
  | [] => some (.ok s)
  | row :: rest => do
    match ← s.insert row with
    | (next, .ok ()) => next.insertAll rest
    | (_, .error e) => return .error e

def ofSchema (name : String) (schema : Schema) : StoredTable :=
  schema.foldl addColumn (empty name)

/-- All that should hold of a table between two operations. -/
structure Even (s : StoredTable) : Prop where
  schema : s.columns.map StoredColumn.field = s.schema
  kinds : ∀ c ∈ s.columns, c.storage.kind = c.field.kind
  nulls : ∀ c ∈ s.columns, c.nulls.size = s.rowCount
  cells : ∀ c ∈ s.columns, c.storage.cells.size = s.rowCount
  finite : ∀ c ∈ s.columns, ∀ index v, c.get index = some (some v) → v.isFinite = true
  key : ∀ place ∈ s.key, place < s.columns.length

end StoredTable

end Tabular
