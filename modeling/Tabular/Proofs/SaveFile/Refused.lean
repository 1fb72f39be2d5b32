import Tabular.Proofs.SaveFile.Broken
import Tabular.Proofs.SaveFile.Passes

namespace Tabular

theorem Row.unbroken_of_mends {row mended : Row} (h : row.Forall₂ Value.Mends mended) :
    mended.Unbroken := by
  intro content hm
  obtain ⟨v, -, hv⟩ := exists_of_mem_forall₂_right h hm
  cases hv with
  | kept h => exact h content rfl
  | mended _ ho => exact ho

namespace Table

variable {t t' : Table}

theorem Mends.unbroken (h : t.Mends t') : t'.Unbroken := by
  intro row hm
  obtain ⟨old, -, hrow⟩ := exists_of_mem_forall₂_right h.rows hm
  exact Row.unbroken_of_mends hrow

theorem Mends.width (h : t.Mends t') : t'.width = t.width := by
  rw [← t'.length_schema, h.schema, t.length_schema]

theorem Mends.rowCount (h : t.Mends t') (ht : t.Sound) : t'.rowCount = t.rowCount := by
  rw [← h.sound.length_rows, ← ht.length_rows, h.rows.length_eq]

end Table

namespace SaveFile
open Text

theorem length_header (t : Table) : (header t).length = 4 + t.width := by
  simp [header, Table.width]
  omega

theorem length_tableLines {t : Table} (h : t.Sound) : (tableLines t).length = tableExtent t := by
  rw [tableLines, List.length_append, length_header, List.length_map, h.length_rows, tableExtent]

theorem length_flatMap_tableLines {ts : List Table} (h : ∀ t ∈ ts, t.Sound) :
    (ts.flatMap tableLines).length = together tableExtent ts := by
  induction ts with
  | nil => rfl
  | cons t ts ih =>
    obtain ⟨ht, hts⟩ := List.forall_mem_cons.mp h
    rw [List.flatMap_cons, List.length_append, length_tableLines ht, ih hts, together]

theorem length_linesBefore {ts before : List Table} (h : ∀ other ∈ before, other.Sound) (t : Table)
    (front : List Row) :
    (linesBefore ts before t front).length = extent before + (4 + t.width) + front.length := by
  unfold linesBefore extent
  rw [List.length_append, List.length_append, List.length_cons, length_flatMap_tableLines h,
    length_header, List.length_map, Nat.add_comm 1]

/-- The row stands on this line of the text, and this is the line it is read from, unless reading
fails at an earlier one. -/
def ReadFrom (text : String) (line : Nat) (found : Row) : Prop :=
  ∃ front rest, lines '\n' text.toList = front ++ (rowLine found).toList :: rest ∧
    front.length + 1 = line ∧
    ((∃ fault, decode text = .error fault ∧ fault.line < line) ∨
      ∃ schema next, GoesOn tables front (row schema >>= next) ∧
        Takes (row schema) [(rowLine found).toList] found)

/-- Only the kinds of the columns tell which rows they hold. -/
theorem holds_iff_kinds {schema : Schema} {found : Row} :
    schema.Holds found ↔ found.length = (schema.map Field.kind).length ∧
      ∀ p ∈ (schema.map Field.kind).zip found, (Field.mk "" p.1).refusal p.2 = none := by
  have hname : ∀ (field : Field) (v : Value),
      (Field.mk "" field.kind).refusal v = none ↔ field.refusal v = none := by
    intro field v
    unfold Field.refusal
    cases v.kind? with
    | none => simp
    | some kind =>
      dsimp only
      split <;> simp
  unfold Schema.Holds
  rw [List.length_map, List.zip_map_left, List.forall_mem_map]
  simp only [Prod.map_fst, Prod.map_snd, id_eq, hname]

theorem holds_of_kinds {schema schema' : Schema} {found : Row} (h : schema.Holds found)
    (hk : schema'.map Field.kind = schema.map Field.kind) : schema'.Holds found := by
  rw [holds_iff_kinds, hk]
  exact holds_iff_kinds.mp h

/-- A row of tables that are written stands behind the lines in front of it, and is read there. -/
theorem readFrom_of_row {before after : List Table} {t : Table} {front back : List Row}
    {found : Row} (h : ∀ other ∈ before ++ t :: after, other.Sound)
    (hunbroken : ∀ other ∈ before ++ t :: after, other.Unbroken)
    (hnames : ∀ other ∈ before ++ t :: after, '\n' ∉ other.name.toList ∧
      ∀ field ∈ other.schema, '\n' ∉ field.name.toList)
    (hrows : t.rows = front ++ found :: back) :
    ∃ text, encode (before ++ t :: after) = .ok text ∧
      ReadFrom text ((linesBefore (before ++ t :: after) before t front).length + 1) found := by
  have ht : t ∈ before ++ t :: after := List.mem_append_right _ List.mem_cons_self
  have hfeed : ∀ other ∈ before ++ t :: after,
      ∀ line ∈ (tableLines other).map String.toList, '\n' ∉ line := fun other ho =>
    not_feed_tableLines (h other ho) (hunbroken other ho) (hnames other ho).1 (hnames other ho).2
  have hlines : (fileLines (before ++ t :: after)).map String.toList =
      (linesBefore (before ++ t :: after) before t front).map String.toList ++
        (rowLine found).toList ::
          (back.map rowLine ++ after.flatMap tableLines).map String.toList := by
    simp [fileLines, linesBefore, tableLines, hrows]
  rw [← lines_flatMap (not_feed_file hfeed), ← toList_join_lines] at hlines
  refine ⟨_, encode_eq_ok.mpr ⟨hunbroken, rfl⟩, _, _, hlines,
    congrArg (· + 1) (List.length_map String.toList), ?_⟩
  rcases comesTo_tables h hrows with ⟨schema, next, hk, hgoes⟩ | ⟨used, unread, cause, hused, hr⟩
  · have hholds : t.schema.Holds found := (h t ht).holds (by rw [hrows]; simp)
    exact Or.inr ⟨schema, next, hgoes, takes_row (holds_of_kinds hholds hk)⟩
  · rw [hused, List.append_assoc] at hlines
    refine Or.inl ⟨_, decode_of_refuses hr hlines, ?_⟩
    have hlen := congrArg List.length hused
    rw [List.length_map, List.length_append] at hlen
    dsimp only
    omega

theorem extent_of_mends {ts mended : List Table} (h : ts.Forall₂ Table.Mends mended)
    (hs : ∀ t ∈ ts, t.Sound) : extent mended = extent ts := by
  unfold extent
  induction h with
  | nil => rfl
  | @cons t other ts mended hm _ ih =>
    obtain ⟨ht, hts⟩ := List.forall_mem_cons.mp hs
    have hextent : tableExtent other = tableExtent t := by
      rw [tableExtent, hm.width, hm.rowCount ht, tableExtent]
    rw [together, together, hextent, Nat.add_left_comm, ih hts, Nat.add_left_comm]

/-- The lines in front of a row are as many when the tables are mended. -/
theorem line_of_mends {ts : List Table} (first : FirstBreak ts) (h : ∀ t ∈ ts, t.Sound)
    {all before' : List Table} {t' : Table} {front' : List Row}
    (hbefore : first.before.Forall₂ Table.Mends before') (ht : first.table.Mends t')
    (hfront : first.front.Forall₂ (List.Forall₂ Value.Mends) front') :
    (linesBefore all before' t' front').length + 1 = first.line := by
  have hsound : ∀ other ∈ first.before, other.Sound := fun other ho =>
    h other (first.tables ▸ List.mem_append_left _ ho)
  have hsound' : ∀ other ∈ before', other.Sound := fun other ho =>
    let ⟨_, _, hm⟩ := exists_of_mem_forall₂_right hbefore ho
    hm.sound
  rw [length_linesBefore hsound', extent_of_mends hbefore hsound, ht.width, ← hfront.length_eq]
  rfl

/-- Tables are refused exactly if a text in them would break its line, and the fault names the first
such text. Its line is the one that its row would be read from if all such texts were mended, where
no name breaks a line. -/
theorem encode_names_line {ts : List Table} (h : ∀ t ∈ ts, t.Sound) :
    ((∃ fault, encode ts = .error fault) ↔ ∃ t ∈ ts, ∃ row ∈ t.rows, ∃ content,
        Value.text content ∈ row ∧ ('\n' ∈ content.toList ∨ '\r' ∈ content.toList)) ∧
      ∀ fault, encode ts = .error fault → ∃ first : FirstBreak ts,
        fault = ⟨first.line, .lineBreak first.content⟩ ∧
          ((∀ t ∈ ts, '\n' ∉ t.name.toList ∧ ∀ field ∈ t.schema, '\n' ∉ field.name.toList) →
            (∃ mended, ts.Forall₂ Table.Mends mended) ∧
              ∀ mended, ts.Forall₂ Table.Mends mended → ∃ text found,
                encode mended = .ok text ∧ first.row.Forall₂ Value.Mends found ∧
                  ReadFrom text fault.line found) := by
  constructor
  · rw [encode_eq_error]
    simp only [not_forall, Table.not_unbroken, exists_prop]
  · intro fault hfault
    obtain ⟨first, rfl⟩ := encode_eq_error_first hfault
    refine ⟨first, rfl, fun hnames => ⟨⟨ts.map Table.mend, ?_⟩, fun mended hmended => ?_⟩⟩
    · rw [List.forall₂_map_right_iff, List.forall₂_same]
      exact fun t ht => (h t ht).mends_mend
    · have hold : ∀ other ∈ mended, ∃ t ∈ ts, t.Mends other := fun other ho =>
        exists_of_mem_forall₂_right hmended ho
      obtain ⟨before', t', after', rfl, hbefore, ht, -⟩ :=
        forall₂_append_cons_left (first.tables ▸ hmended)
      obtain ⟨front', found, back', hrows, hfront, hfound, -⟩ :=
        forall₂_append_cons_left (first.rows ▸ ht.rows)
      obtain ⟨text, hencode, hread⟩ := readFrom_of_row
        (fun other ho => let ⟨_, _, hm⟩ := hold other ho; hm.sound)
        (fun other ho => let ⟨_, _, hm⟩ := hold other ho; hm.unbroken)
        (fun other ho => by
          obtain ⟨old, hmem, hm⟩ := hold other ho
          rw [hm.name, hm.schema]
          exact hnames old hmem) hrows
      rw [line_of_mends first h hbefore ht hfront] at hread
      exact ⟨text, found, hencode, hfound, hread⟩

def hall : Table := .ofSchema "hall" [⟨"place", .int⟩]

/-- The second of the rows takes up two lines. -/
def note : Table :=
  ((Table.ofSchema "note" [⟨"body", .text⟩]).appendRow [.text "one"]).appendRow [.text "two\nthree"]

theorem encode_names_line_note :
    encode [hall, note] = .error ⟨13, .lineBreak "two\nthree"⟩ ∧
      ∃ mended text found, [hall, note].Forall₂ Table.Mends mended ∧ encode mended = .ok text ∧
        ReadFrom text 13 found := by
  have hfault : encode [hall, note] = .error ⟨13, .lineBreak "two\nthree"⟩ := by decide +kernel
  have hhall : hall.Sound := Table.sound_ofSchema _ _
  have hnote : note.Sound := by
    have hone : ((Table.ofSchema "note" [⟨"body", .text⟩]).appendRow [.text "one"]).Sound :=
      (Table.sound_ofSchema _ _).appendRow (by decide) (by decide)
    exact hone.appendRow (by decide) (by decide)
  have hnames : ∀ t ∈ [hall, note], '\n' ∉ t.name.toList ∧
      ∀ field ∈ t.schema, '\n' ∉ field.name.toList := by decide +kernel
  have hsound : ∀ t ∈ [hall, note], t.Sound :=
    List.forall_mem_cons.mpr ⟨hhall, List.forall_mem_singleton.mpr hnote⟩
  obtain ⟨first, -, hnamed⟩ := (encode_names_line hsound).2 _ hfault
  obtain ⟨⟨mended, hmended⟩, hread⟩ := hnamed hnames
  obtain ⟨text, found, hencode, -, hfrom⟩ := hread mended hmended
  exact ⟨hfault, mended, text, found, hmended, hencode, hfrom⟩

end SaveFile

end Tabular
