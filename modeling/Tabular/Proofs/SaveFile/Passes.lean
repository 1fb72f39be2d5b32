import Tabular.Proofs.SaveFile.RoundTrip
import Tabular.Proofs.SaveFile.Settled

namespace Tabular.SaveFile
open Text

/-- The reader refuses one of the lines, whatever follows them. -/
def Stops (reader : LineReader α) (ls : List (List Char)) : Prop :=
  ∃ used unread cause, ls = used ++ unread ∧ Refuses reader used cause

/-- The reader takes all of the lines and makes something like this of them, or it stops. -/
def Passes (reader : LineReader α) (ls : List (List Char)) (P : α → Prop) : Prop :=
  (∃ a, Takes reader ls a ∧ P a) ∨ Stops reader ls

/-- Past the lines the reader goes on with a row of columns of these kinds, or it stops. -/
def ComesTo (reader : LineReader α) (ls : List (List Char)) (kinds : List Kind) : Prop :=
  (∃ (schema : Schema) (next : Row → LineReader α), schema.map Field.kind = kinds ∧
    GoesOn reader ls (row schema >>= next)) ∨ Stops reader ls

variable {r : LineReader α} {ls more : List (List Char)} {P : α → Prop} {kinds : List Kind}

theorem Stops.bind (h : Stops r ls) (f : α → LineReader β) (more : List (List Char)) :
    Stops (r >>= f) (ls ++ more) := by
  obtain ⟨used, unread, cause, rfl, hr⟩ := h
  exact ⟨used, unread ++ more, cause, List.append_assoc _ _ _, hr.bind f⟩

theorem Takes.stops {f : α → LineReader β} {a : α} (h : Takes r ls a) (hf : Stops (f a) more) :
    Stops (r >>= f) (ls ++ more) := by
  obtain ⟨used, unread, cause, rfl, hr⟩ := hf
  exact ⟨ls ++ used, unread, cause, (List.append_assoc _ _ _).symm, h.refuses hr⟩

theorem Passes.bind {f : α → LineReader β} {Q : β → Prop} (h : Passes r ls P)
    (hf : ∀ a, P a → Passes (f a) more Q) : Passes (r >>= f) (ls ++ more) Q := by
  rcases h with ⟨a, ha, hP⟩ | hstop
  · rcases hf a hP with ⟨b, hb, hQ⟩ | hstop
    · exact Or.inl ⟨b, ha.bind hb, hQ⟩
    · exact Or.inr (ha.stops hstop)
  · exact Or.inr (hstop.bind f more)

theorem Passes.comesTo {f : α → LineReader β} (h : Passes r ls P)
    (hf : ∀ a, P a → ComesTo (f a) more kinds) : ComesTo (r >>= f) (ls ++ more) kinds := by
  rcases h with ⟨a, ha, hP⟩ | hstop
  · rcases hf a hP with ⟨schema, next, hk, hgoes⟩ | hstop
    · exact Or.inl ⟨schema, next, hk, (ha.next f).trans hgoes⟩
    · exact Or.inr (ha.stops hstop)
  · exact Or.inr (hstop.bind f more)

theorem Passes.cons {line : List Char} {f : α → LineReader β} {Q : β → Prop}
    (h : Passes r [line] P) (hf : ∀ a, P a → Passes (f a) more Q) :
    Passes (r >>= f) (line :: more) Q :=
  h.bind hf

theorem Passes.comesTo_cons {line : List Char} {f : α → LineReader β} (h : Passes r [line] P)
    (hf : ∀ a, P a → ComesTo (f a) more kinds) : ComesTo (r >>= f) (line :: more) kinds :=
  h.comesTo hf

/-- What is read after the row changes nothing before it. -/
theorem ComesTo.bind (h : ComesTo r ls kinds) (f : α → LineReader β) :
    ComesTo (r >>= f) ls kinds := by
  rcases h with ⟨schema, next, hk, hgoes⟩ | hstop
  · refine Or.inl ⟨schema, fun found => next found >>= f, hk, fun line rest => ?_⟩
    rw [← bind_assoc]
    change r ⟨line, ls ++ rest⟩ >>= _ = (row schema >>= next) ⟨line + ls.length, rest⟩ >>= _
    rw [hgoes line rest]
  · rw [← List.append_nil ls]
    exact Or.inr (hstop.bind f [])

theorem passes_pure {a : α} (h : P a) : Passes (pure a) [] P :=
  Or.inl ⟨a, takes_pure a, h⟩

theorem passes_fail (cause : Cause) (P : α → Prop) : Passes (fail cause) [] P :=
  Or.inr ⟨[], [], cause, rfl, fun _ _ => rfl⟩

theorem passes_lift {result : Except Error α} (h : ∀ a, result = .ok a → P a) :
    Passes (lift result) [] P := by
  cases result with
  | error e => exact passes_fail (.refused e) P
  | ok a => exact passes_pure (h a rfl)

section Lift

variable {result : Except Error α} {f : α → LineReader β}

theorem passes_lift_bind {Q : β → Prop} (h : ∀ a, result = .ok a → Passes (f a) ls Q) :
    Passes (lift result >>= f) ls Q := by
  have hlift : Passes (lift result) [] (result = .ok ·) := passes_lift fun _ ha => ha
  exact hlift.bind h

theorem comesTo_lift_bind (h : ∀ a, result = .ok a → ComesTo (f a) ls kinds) :
    ComesTo (lift result >>= f) ls kinds := by
  have hlift : Passes (lift result) [] (result = .ok ·) := passes_lift fun _ ha => ha
  exact hlift.comesTo h

end Lift

/-- A reader of a single line comes to see it without the white space at its end. -/
theorem passes_line {f : List Char → LineReader α} {line : List Char}
    (h : Passes (f (trimEnd line)) [] P) : Passes (nextLine >>= f) [line] P := by
  have hnext : Passes nextLine [line] (· = trimEnd line) :=
    Or.inl ⟨trimEnd line, takes_nextLine line, rfl⟩
  exact hnext.bind fun found hfound => by rwa [hfound]

theorem passes_count (n : Nat) (counted : Counted) :
    Passes (count counted) [(toString n).toList] (· = n) := by
  have hdigits := digits_toDigits n
  refine passes_line ?_
  rw [toList_toString_nat, hdigits.word.ends.trimEnd, hdigits.word.title.trim,
    readNatural_toDigits_eq]
  split
  · rename_i hread
    split at hread <;> cases hread
    exact passes_pure rfl
  · exact passes_fail _ _

theorem passes_tableName (line : List Char) : Passes tableName [line] fun _ => True := by
  refine passes_line ?_
  split
  · exact passes_fail _ _
  · exact passes_pure trivial

theorem passes_column (c : Column) :
    Passes column [(s!"{c.kind.keyword} {c.name}").toList] (·.kind = c.kind) := by
  refine passes_line ?_
  rw [toList_columnLine, words_trimEnd, words_append (word_keyword c.kind)]
  split
  · rename_i typeWord name hwords
    obtain ⟨rfl, -⟩ := List.cons.inj hwords
    rw [String.ofList_toList, ofText_keyword]
    exact passes_pure rfl
  · exact passes_fail _ _

theorem passes_key (line : List Char) : Passes key [line] fun _ => True := by
  refine passes_line ?_
  split
  · split
    · exact passes_pure trivial
    · exact passes_fail _ _
  · exact passes_fail _ _

theorem passes_mapM {f : α → LineReader β} (h : ∀ a, Passes (f a) [] fun _ => True)
    (as : List α) : Passes (as.mapM f) [] fun _ => True := by
  induction as with
  | nil => exact passes_pure trivial
  | cons a as ih =>
    rw [List.mapM_cons]
    exact (h a).bind fun _ _ => ih.bind fun _ _ => passes_pure trivial

theorem passes_value (kind : Kind) (token : Token) :
    Passes (value kind token) [] fun _ => True := by
  unfold value
  split
  · exact passes_lift fun _ _ => trivial
  · exact passes_fail _ _

theorem passes_row (schema : Schema) (line : List Char) :
    Passes (row schema) [line] fun _ => True := by
  refine passes_line (passes_lift_bind fun tokens _ => ?_)
  split
  · exact passes_fail _ _
  · exact passes_mapM (fun pair : Field × Token => passes_value pair.1.kind pair.2) _

theorem passes_rows (t : Table) (ls : List (List Char)) :
    Passes (rows ls.length t) ls fun _ => True := by
  induction ls generalizing t with
  | nil => exact passes_pure trivial
  | cons line rest ih =>
    exact (passes_row t.schema line).cons fun found _ => passes_lift_bind fun next _ => ih next

/-- Past the first rows comes another one, of the same columns. -/
theorem comesTo_rows (t : Table) (ls : List (List Char)) (n : Nat) :
    ComesTo (rows (ls.length + (n + 1)) t) ls (t.schema.map Field.kind) := by
  induction ls generalizing t with
  | nil =>
    rw [List.length_nil, Nat.zero_add]
    exact Or.inl ⟨t.schema, _, rfl, fun _ _ => rfl⟩
  | cons line rest ih =>
    rw [List.length_cons, Nat.add_right_comm]
    refine (passes_row t.schema line).comesTo_cons fun found _ => comesTo_lift_bind fun next h => ?_
    rw [← Table.schema_insert h]
    exact ih next

theorem passes_times {r : LineReader β} {f : α → List (List Char)} {P : α → β → Prop}
    {as : List α} (h : ∀ a ∈ as, Passes r (f a) (P a)) :
    Passes (times as.length r) (as.flatMap f) (as.Forall₂ P) := by
  induction as with
  | nil => exact passes_pure .nil
  | cons a as ih =>
    obtain ⟨ha, has⟩ := List.forall_mem_cons.mp h
    rw [List.flatMap_cons, ← List.append_nil (as.flatMap f)]
    exact ha.bind fun b hb => (ih has).bind fun bs hbs => passes_pure (.cons hb hbs)

theorem comesTo_times {r : LineReader β} {f : α → List (List Char)} {before : List α}
    (h : ∀ a ∈ before, Passes r (f a) fun _ => True) (hr : ComesTo r ls kinds) (n : Nat) :
    ComesTo (times (before.length + (n + 1)) r) (before.flatMap f ++ ls) kinds := by
  induction before with
  | nil =>
    rw [List.length_nil, Nat.zero_add]
    exact hr.bind _
  | cons a before ih =>
    obtain ⟨ha, hbefore⟩ := List.forall_mem_cons.mp h
    rw [List.length_cons, Nat.add_right_comm, List.flatMap_cons, List.append_assoc]
    exact ha.comesTo fun _ _ => (ih hbefore).bind _

/-- What is read of a table before its rows: the table without them, and how many there are. -/
def declaration : LineReader (Table × Nat) := do
  let name ← tableName
  let schema ← times (← count .columns) column
  let keyed ← lift ((Table.ofSchema name schema).setKey (← key))
  return (keyed, ← count .rows)

theorem table_eq : table = declaration >>= fun declared => rows declared.2 declared.1 := by
  unfold table declaration
  simp only [bind_assoc, pure_bind]

theorem passes_columns (columns : List Column) :
    Passes (times columns.length column)
      (columns.map fun c => (s!"{c.kind.keyword} {c.name}").toList)
      (·.map Field.kind = columns.map Column.kind) := by
  have h := passes_times fun c (_ : c ∈ columns) => passes_column c
  rw [← List.map_eq_flatMap] at h
  rcases h with ⟨schema, htakes, hall⟩ | hstop
  · exact Or.inl ⟨schema, htakes, (map_eq_map_of_forall₂ hall fun _ _ hk => hk.symm).symm⟩
  · exact Or.inr hstop

theorem passes_declaration (t : Table) :
    Passes declaration ((header t).map String.toList) fun declared =>
      declared.1.schema.map Field.kind = t.schema.map Field.kind ∧ declared.2 = t.rowCount := by
  have hkinds : t.schema.map Field.kind = t.columns.map Column.kind := List.map_map
  rw [toList_header, hkinds]
  refine (passes_tableName _).bind fun name _ => (passes_count _ _).bind fun width hwidth => ?_
  rw [hwidth]
  refine (passes_columns t.columns).bind fun schema hschema => ?_
  refine (passes_key _).bind fun indices _ => ?_
  refine passes_lift_bind fun keyed hkeyed => ?_
  refine (passes_count t.rowCount .rows).cons fun n hn => passes_pure ⟨?_, hn⟩
  rw [Table.schema_setKey hkeyed, Table.schema_ofSchema, hschema]

theorem passes_table {t : Table} (h : t.Sound) :
    Passes table ((tableLines t).map String.toList) fun _ => True := by
  rw [table_eq, toList_tableLines]
  refine (passes_declaration t).bind fun declared hdeclared => ?_
  rw [hdeclared.2, ← h.length_rows]
  have hrows := passes_rows declared.1 (t.rows.map fun row => (rowLine row).toList)
  rwa [List.length_map] at hrows

theorem comesTo_table {t : Table} (h : t.Sound) {front back : List Row} {found : Row}
    (hrows : t.rows = front ++ found :: back) :
    ComesTo table ((header t).map String.toList ++ front.map fun row => (rowLine row).toList)
      (t.schema.map Field.kind) := by
  rw [table_eq]
  refine (passes_declaration t).comesTo fun declared hdeclared => ?_
  rw [hdeclared.2, ← hdeclared.1, ← h.length_rows, hrows, List.length_append, List.length_cons]
  have hcomes := comesTo_rows declared.1 (front.map fun row => (rowLine row).toList) back.length
  rwa [List.length_map] at hcomes

/-- The lines of a file in front of a row. -/
def linesBefore (ts before : List Table) (t : Table) (front : List Row) : List String :=
  toString ts.length :: before.flatMap tableLines ++ header t ++ front.map rowLine

theorem comesTo_tables {before after : List Table} {t : Table} {front back : List Row} {found : Row}
    (h : ∀ other ∈ before ++ t :: after, other.Sound) (hrows : t.rows = front ++ found :: back) :
    ComesTo tables ((linesBefore (before ++ t :: after) before t front).map String.toList)
      (t.schema.map Field.kind) := by
  have ht : t.Sound := h t (by simp)
  have hbefore : ∀ other ∈ before, Passes table ((tableLines other).map String.toList)
      fun _ => True := fun other ho => passes_table (h other (List.mem_append_left _ ho))
  have htables := comesTo_times hbefore (comesTo_table ht hrows) after.length
  have hlines : (linesBefore (before ++ t :: after) before t front).map String.toList =
      [(toString (before ++ t :: after).length).toList] ++
        (before.flatMap (fun other => (tableLines other).map String.toList) ++
          ((header t).map String.toList ++ front.map fun row => (rowLine row).toList)) := by
    simp [linesBefore, List.map_flatMap]
  rw [hlines]
  refine (passes_count _ .tables).comesTo fun n hn => ?_
  rw [hn, List.length_append, List.length_cons]
  exact htables

end Tabular.SaveFile
