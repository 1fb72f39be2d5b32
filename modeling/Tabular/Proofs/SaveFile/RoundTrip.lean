import Tabular.Proofs.SaveFile.Literal
import Tabular.Proofs.SaveFile.Takes
import Tabular.Proofs.Table.Built

namespace Tabular
open Text

/-- What a save file can hold: a sound table with names that stand on their lines, no two rows that
share its key and no text that breaks its line. A machine word counts its columns and rows, as it
does for any table that is held in memory. -/
structure Table.Storable (t : Table) : Prop where
  sound : t.Sound
  fit : t.sheet.Fit
  unbroken : t.Unbroken
  width : t.width ≤ indexLimit
  rowCount : t.rowCount ≤ indexLimit

/-- What is written on lines that are read back one by one, although the rows may share the key. -/
structure Table.Lined (t : Table) : Prop where
  sound : t.Sound
  name : Title t.name.toList
  fields : ∀ field ∈ t.schema, Word field.name.toList
  unbroken : t.Unbroken
  width : t.width ≤ indexLimit
  rowCount : t.rowCount ≤ indexLimit

theorem Table.Storable.lined {t : Table} (h : t.Storable) : t.Lined :=
  ⟨h.sound, h.fit.name, h.fit.fields, h.unbroken, h.width, h.rowCount⟩

namespace SaveFile

theorem takes_count {n : Nat} (h : n ≤ indexLimit) (counted : Counted) :
    Takes (count counted) [(toString n).toList] n := by
  have hdigits := digits_toDigits n
  rw [toList_toString_nat]
  refine takes_line hdigits.word.ends.trimEnd ?_
  rw [hdigits.word.title.trim, readNatural_toDigits h]
  exact takes_pure n

theorem takes_tableName {name : String} (h : Title name.toList) :
    Takes tableName [name.toList] name := by
  refine takes_line (trimEnd_eq h.last) ?_
  rw [h.trim]
  obtain ⟨c, cs, heq⟩ := List.exists_cons_of_ne_nil h.nonempty
  rw [heq]
  change Takes (pure (String.ofList (c :: cs))) [] name
  rw [← heq, String.ofList_toList]
  exact takes_pure name

theorem word_keyword (kind : Kind) : Word kind.keyword.toList := by
  cases kind <;> decide

theorem ofText_keyword (kind : Kind) : Kind.ofText kind.keyword = .ok kind := by
  cases kind <;> rfl

theorem toList_columnLine (c : Column) : (s!"{c.kind.keyword} {c.name}").toList =
    c.kind.keyword.toList ++ ' ' :: c.name.toList := by
  change (c.kind.keyword ++ " " ++ c.name).toList = _
  rw [String.toList_append, String.toList_append, List.append_assoc]
  rfl

theorem takes_column {c : Column} (h : Word c.name.toList) :
    Takes column [(s!"{c.kind.keyword} {c.name}").toList] c.field := by
  have hends : Ends (c.kind.keyword.toList ++ ' ' :: c.name.toList) := by
    have hname := h.ends.append (c.kind.keyword.toList ++ [' '])
    rwa [List.append_assoc] at hname
  rw [toList_columnLine]
  refine takes_line hends.trimEnd ?_
  rw [words_append (word_keyword c.kind), words_single h]
  dsimp only
  rw [String.ofList_toList, String.ofList_toList, ofText_keyword]
  exact takes_pure c.field

theorem mapM_readNatural {ns : List Nat} (h : ∀ n ∈ ns, n ≤ indexLimit) :
    (ns.map fun n => (toString n).toList).mapM (readNatural indexLimit) = some ns := by
  induction ns with
  | nil => rfl
  | cons n ns ih =>
    obtain ⟨hn, hns⟩ := List.forall_mem_cons.mp h
    rw [List.map_cons, List.mapM_cons, toList_toString_nat, readNatural_toDigits hn, ih hns]
    rfl

theorem toList_keyLine (ns : List Nat) : (" ".intercalate (ns.map toString)).toList =
    [' '].intercalate (ns.map fun n => (toString n).toList) := by
  rw [String.toList_intercalate, List.map_map]
  rfl

theorem word_toString {ns : List Nat} : ∀ w ∈ ns.map fun n => (toString n).toList, Word w := by
  intro w hw
  obtain ⟨n, -, rfl⟩ := List.mem_map.mp hw
  rw [toList_toString_nat]
  exact (digits_toDigits n).word

theorem takes_key {indices : List Nat} (hlen : indices.length ≤ indexLimit)
    (h : ∀ index ∈ indices, index ≤ indexLimit) :
    Takes key [(" ".intercalate (toString indices.length :: indices.map toString)).toList]
      indices := by
  rw [← List.map_cons, toList_keyLine]
  refine takes_line (trimEnd_intercalate fun w hw => (word_toString w hw).ends) ?_
  rw [words_intercalate word_toString, mapM_readNatural (List.forall_mem_cons.mpr ⟨hlen, h⟩)]
  dsimp only
  rw [if_pos rfl]
  exact takes_pure indices

theorem mapM_value {schema : Schema} {row : Row} (h : schema.Holds row) :
    (schema.zip (row.map Value.token)).mapM (fun (field, token) => value field.kind token) =
      (pure row : LineReader Row) := by
  obtain ⟨hlen, ha⟩ := h
  induction schema generalizing row with
  | nil =>
    rw [List.length_eq_zero_iff.mp hlen]
    rfl
  | cons field schema ih =>
    obtain ⟨v, row, rfl⟩ := List.exists_cons_of_length_eq_add_one hlen
    rw [List.zip_cons_cons, List.forall_mem_cons] at ha
    rw [List.map_cons, List.zip_cons_cons, List.mapM_cons, ih (by simpa using hlen) ha.2]
    dsimp only
    rw [value_token ha.1]
    rfl

theorem toList_rowLine (found : Row) :
    (rowLine found).toList = [' '].intercalate (found.map fun v => (literal v).toList) := by
  rw [rowLine, String.toList_intercalate, List.map_map]
  rfl

theorem takes_row {schema : Schema} {found : Row} (h : schema.Holds found) :
    Takes (row schema) [(rowLine found).toList] found := by
  have hfinite := h.finite
  have hends : ∀ w ∈ found.map fun v => (literal v).toList, Ends w := by
    intro w hw
    obtain ⟨v, hv, rfl⟩ := List.mem_map.mp hw
    exact (spells_literal (hfinite v hv)).ends
  have hscan : Token.scan (rowLine found) = .ok (found.map Value.token) := by
    unfold Token.scan
    rw [toList_rowLine]
    exact run_intercalate fun v hv => spells_literal (hfinite v hv)
  have htrim : trimEnd (rowLine found).toList = (rowLine found).toList := by
    rw [toList_rowLine]
    exact trimEnd_intercalate hends
  refine takes_line htrim ?_
  rw [String.ofList_toList]
  rw [hscan]
  change Takes (if (found.map Value.token).length ≠ schema.length then _ else _) [] found
  rw [if_neg (by simp [h.1]), mapM_value h]
  exact takes_pure found

/-- The rows that a table is made of, one after another, make it again. -/
theorem takes_rows {t t' : Table} {found : List Row} (hf : ∀ row ∈ found, t.schema.Holds row)
    (h : t.insertAll found = .ok t') :
    Takes (rows found.length t) (found.map fun row => (rowLine row).toList) t' := by
  induction found generalizing t with
  | nil =>
    cases h
    exact takes_pure _
  | cons row rest ih =>
    obtain ⟨hrow, hrest⟩ := List.forall_mem_cons.mp hf
    obtain ⟨next, hnext, hlast⟩ := bind_eq_ok.mp h
    refine (takes_row hrow).bind ?_
    rw [hnext]
    exact ih (by rwa [Table.schema_insert hnext]) hlast

theorem takes_times {r : LineReader β} {f : α → List (List Char)} {p : β → γ} {q : α → γ}
    {as : List α} (h : ∀ a ∈ as, ∃ b, Takes r (f a) b ∧ p b = q a) :
    ∃ bs, Takes (times as.length r) (as.flatMap f) bs ∧ bs.map p = as.map q := by
  induction as with
  | nil => exact ⟨[], takes_pure [], rfl⟩
  | cons a as ih =>
    obtain ⟨⟨b, hb, hp⟩, has⟩ := List.forall_mem_cons.mp h
    obtain ⟨bs, hbs, hmap⟩ := ih has
    refine ⟨b :: bs, ?_, by rw [List.map_cons, List.map_cons, hp, hmap]⟩
    exact hb.bind (hbs.last (takes_pure (b :: bs)))

theorem takes_columns {columns : List Column} (h : ∀ c ∈ columns, Word c.name.toList) :
    Takes (times columns.length column)
      (columns.map fun c => (s!"{c.kind.keyword} {c.name}").toList) (columns.map Column.field) := by
  obtain ⟨fields, hf, hmap⟩ := takes_times (p := id) fun c hc =>
    ⟨c.field, takes_column (h c hc), rfl⟩
  rw [List.map_id] at hmap
  rw [hmap, ← List.map_eq_flatMap] at hf
  exact hf

theorem toList_header (t : Table) : (header t).map String.toList =
    [t.name.toList] ++ ([(toString t.width).toList] ++
      (t.columns.map (fun c => (s!"{c.kind.keyword} {c.name}").toList) ++
        ([(" ".intercalate (toString t.key.length :: t.key.map toString)).toList] ++
          [(toString t.rowCount).toList]))) := by
  simp only [header, List.map_append, List.map_map, List.map_cons, List.map_nil, List.append_assoc]
  rfl

theorem toList_tableLines (t : Table) : (tableLines t).map String.toList =
    (header t).map String.toList ++ t.rows.map fun row => (rowLine row).toList := by
  rw [tableLines, List.map_append, List.map_map]
  rfl

/-- The lines before the rows declare the table anew. -/
theorem goesOn_header {t declared : Table} (h : t.Lined)
    (hd : (Table.ofSchema t.name t.schema).setKey t.key = .ok declared) :
    GoesOn table ((header t).map String.toList) (rows t.rowCount declared) := by
  have hwords : ∀ c ∈ t.columns, Word c.name.toList := fun c hc =>
    h.fields c.field (List.mem_map_of_mem hc)
  have hindices : ∀ index ∈ t.key, index ≤ indexLimit := fun index hi =>
    Nat.le_trans (Nat.le_of_lt (h.sound.bounded index hi)) h.width
  rw [toList_header]
  have hdeclared : Takes (lift ((Table.ofSchema t.name t.schema).setKey t.key)) [] declared := by
    rw [hd]
    exact takes_pure declared
  refine ((takes_tableName h.name).next _).trans (((takes_count h.width .columns).next _).trans ?_)
  refine ((takes_columns hwords).next _).trans ?_
  refine ((takes_key (Nat.le_trans h.sound.length_key h.width) hindices).next _).trans ?_
  exact (hdeclared.next _).trans ((takes_count h.rowCount .rows).next _)

theorem holds_declared {t declared : Table} (h : t.Sound)
    (hd : (Table.ofSchema t.name t.schema).setKey t.key = .ok declared) :
    ∀ row ∈ t.rows, declared.schema.Holds row := by
  intro row hr
  rw [Table.schema_setKey hd, Table.schema_ofSchema]
  exact h.holds hr

/-- What comes of declaring a table anew and inserting its rows is what is read from its lines. -/
theorem takes_table {t declared t' : Table} (h : t.Lined)
    (hd : (Table.ofSchema t.name t.schema).setKey t.key = .ok declared)
    (ht : declared.insertAll t.rows = .ok t') :
    Takes table ((tableLines t).map String.toList) t' := by
  rw [toList_tableLines]
  refine (goesOn_header h hd).takes ?_
  rw [← h.sound.length_rows]
  exact takes_rows (holds_declared h.sound hd) ht

theorem takes_storable {t : Table} (h : t.Storable) :
    ∃ t', Takes table ((tableLines t).map String.toList) t' ∧ t'.sheet = t.sheet := by
  obtain ⟨declared, hd, hsound, hsheet⟩ := h.sound.redeclare
  have hrows : declared.rows = [] := congrArg Sheet.rows hsheet
  have hlast : ({ declared.sheet with rows := declared.rows ++ t.rows } : Sheet) = t.sheet := by
    rw [hsheet, hrows]
    rfl
  obtain ⟨t', ht, -, heq⟩ :=
    hsound.insertAll (holds_declared h.sound hd) (by rw [hlast]; exact h.fit.keyed)
  exact ⟨t', takes_table h.lined hd ht, heq.trans hlast⟩

/-- What is read from the lines of each table is read from all of them together. -/
theorem takes_fileLines {p q : Table → γ} {ts : List Table} (hlen : ts.length ≤ indexLimit)
    (h : ∀ t ∈ ts, ∃ t', Takes table ((tableLines t).map String.toList) t' ∧ p t' = q t) :
    ∃ restored, Takes tables ((fileLines ts).map String.toList) restored ∧
      restored.map p = ts.map q := by
  obtain ⟨restored, hr, hmap⟩ := takes_times h
  refine ⟨restored, ?_, hmap⟩
  rw [fileLines, List.map_cons, List.map_flatMap]
  exact (takes_count hlen .tables).bind hr

theorem takes_tables {ts : List Table} (hlen : ts.length ≤ indexLimit)
    (h : ∀ t ∈ ts, t.Storable) :
    ∃ restored, Takes tables ((fileLines ts).map String.toList) restored ∧
      restored.map Table.sheet = ts.map Table.sheet :=
  takes_fileLines hlen fun t ht => takes_storable (h t ht)

theorem toList_join_lines (ls : List String) :
    (String.join (ls.map (· ++ "\n"))).toList = (ls.map String.toList).flatMap (· ++ ['\n']) := by
  rw [String.toList_join, List.flatMap_map, List.flatMap_map]
  congr 1
  funext line
  exact String.toList_append

theorem not_feed_intercalate {ws : List (List Char)} (h : ∀ w ∈ ws, '\n' ∉ w) :
    '\n' ∉ [' '].intercalate ws := by
  induction ws with
  | nil => decide
  | cons w ws ih =>
    obtain ⟨hw, hws⟩ := List.forall_mem_cons.mp h
    cases ws with
    | nil =>
      rw [List.intercalate_singleton]
      exact hw
    | cons v ws =>
      rw [List.intercalate_cons_cons, List.append_assoc, List.singleton_append]
      intro hm
      rcases List.mem_append.mp hm with hm | hm
      · exact hw hm
      · exact ih hws (List.mem_of_ne_of_mem (by decide) hm)

theorem not_feed_toString (n : Nat) : '\n' ∉ (toString n).toList := by
  rw [toList_toString_nat]
  exact (digits_toDigits n).word.not_feed

theorem not_feed_tableLines {t : Table} (h : t.Sound) (hu : t.Unbroken)
    (hname : '\n' ∉ t.name.toList) (hfields : ∀ field ∈ t.schema, '\n' ∉ field.name.toList) :
    ∀ line ∈ (tableLines t).map String.toList, '\n' ∉ line := by
  rw [toList_tableLines, toList_header]
  simp only [List.forall_mem_append, List.forall_mem_singleton]
  refine ⟨⟨hname, not_feed_toString _, ?_, ?_, not_feed_toString _⟩, ?_⟩
  · intro line hl
    obtain ⟨c, hc, rfl⟩ := List.mem_map.mp hl
    rw [toList_columnLine]
    intro hm
    rcases List.mem_append.mp hm with hm | hm
    · exact (word_keyword c.kind).not_feed hm
    · have hfield := hfields c.field (List.mem_map_of_mem hc)
      exact hfield (List.mem_of_ne_of_mem (by decide) hm)
  · rw [← List.map_cons, toList_keyLine]
    exact not_feed_intercalate fun w hw => (word_toString w hw).not_feed
  · intro line hl
    obtain ⟨row, hr, rfl⟩ := List.mem_map.mp hl
    rw [toList_rowLine]
    refine not_feed_intercalate fun w hw => ?_
    obtain ⟨v, hv, rfl⟩ := List.mem_map.mp hw
    refine not_feed_literal ((h.holds hr).finite v hv) fun content hc => ?_
    exact (hu row hr content (hc ▸ hv)).1

theorem not_feed_file {ts : List Table}
    (h : ∀ t ∈ ts, ∀ line ∈ (tableLines t).map String.toList, '\n' ∉ line) :
    ∀ line ∈ (fileLines ts).map String.toList, '\n' ∉ line := by
  rw [fileLines, List.map_cons, List.map_flatMap]
  refine List.forall_mem_cons.mpr ⟨not_feed_toString _, fun line hl => ?_⟩
  obtain ⟨t, ht, hline⟩ := List.mem_flatMap.mp hl
  exact h t ht line hline

theorem not_feed_of_lined {ts : List Table} (h : ∀ t ∈ ts, t.Lined) :
    ∀ line ∈ (fileLines ts).map String.toList, '\n' ∉ line :=
  not_feed_file fun t ht => not_feed_tableLines (h t ht).sound (h t ht).unbroken
    (h t ht).name.unbroken fun field hf => ((h t ht).fields field hf).not_feed

theorem not_feed_fileLines {ts : List Table} (h : ∀ t ∈ ts, t.Storable) :
    ∀ line ∈ (fileLines ts).map String.toList, '\n' ∉ line :=
  not_feed_of_lined fun t ht => (h t ht).lined

/-- Tables that can be stored are written, and what is read from the file shows what they show, in
the same order. -/
theorem decode_encode {ts : List Table} (hlen : ts.length ≤ indexLimit)
    (h : ∀ t ∈ ts, t.Storable) :
    ∃ text restored, encode ts = .ok text ∧ decode text = .ok restored ∧
      restored.map Table.sheet = ts.map Table.sheet := by
  obtain ⟨restored, hr, hmap⟩ := takes_tables hlen h
  refine ⟨_, restored, encode_eq_ok.mpr ⟨fun t ht => (h t ht).unbroken, rfl⟩, ?_, hmap⟩
  unfold decode
  rw [toList_join_lines, lines_flatMap (not_feed_fileLines h)]
  have hrun := hr 0 []
  rw [List.append_nil] at hrun
  exact map_eq_ok.mpr ⟨_, hrun, rfl⟩

/-- Two rows, with a text that holds a quote and a keyword, a negative zero and a null. -/
theorem decode_encode_note :
    ∃ t : Table, t.rows = [[.text "it's NULL", .float (.finite true ⟨0, by decide⟩)],
        [.text "true", .null]] ∧
      ∃ text restored, encode [t] = .ok text ∧ decode text = .ok restored ∧
        restored.map Table.sheet = [t].map Table.sheet := by
  have hshown : (((Table.ofSchema "note" [⟨"body", .text⟩, ⟨"rate", .float⟩]).setKey [0] >>=
      fun t => t.insert [.text "it's NULL", .float (.finite true ⟨0, by decide⟩)] >>= fun t =>
        t.insert [.text "true"]).map fun t => (t.rows, t.width, t.rowCount)) =
      .ok ([[.text "it's NULL", .float (.finite true ⟨0, by decide⟩)], [.text "true", .null]],
        2, 2) := by
    decide +kernel
  obtain ⟨t, hmade, heq⟩ := map_eq_ok.mp hshown
  simp only [Prod.mk.injEq] at heq
  obtain ⟨hrows, hwidth, hcount⟩ := heq
  obtain ⟨keyed, hkeyed, hmade⟩ := bind_eq_ok.mp hmade
  obtain ⟨first, hfirst, hlast⟩ := bind_eq_ok.mp hmade
  have hname : Word "note".toList := by decide
  have hfields : ∀ field ∈ ([⟨"body", .text⟩, ⟨"rate", .float⟩] : Schema), Word field.name.toList :=
    List.forall_mem_cons.mpr ⟨by decide, List.forall_mem_singleton.mpr (by decide)⟩
  have hbuilt : t.Built := .insert (.insert (.declared hname.title hfields hkeyed) hfirst) hlast
  have hunbroken : ∀ row ∈ t.rows, brokenText row = none := by
    rw [hrows]
    decide +kernel
  have hstorable : t.Storable := by
    refine ⟨hbuilt.sound_fit.1, hbuilt.sound_fit.2, ?_, ?_, ?_⟩
    · exact fun row hr => brokenText_eq_none.mp (hunbroken row hr)
    · rw [hwidth]
      decide
    · rw [hcount]
      decide
  have hlen : [t].length ≤ indexLimit := (by decide : 1 ≤ indexLimit)
  exact ⟨t, hrows, decode_encode hlen (List.forall_mem_singleton.mpr hstorable)⟩

end SaveFile

end Tabular
