import Tabular.Proofs.SaveFile.RoundTrip

namespace Tabular.SaveFile
open Text

/-- From these lines in front the reader makes something of the kind, or it fails. -/
def Gives (reader : LineReader α) (ls : List (List Char)) (P : α → Prop) : Prop :=
  (∃ a, Takes reader ls a ∧ P a) ∨ ∀ line rest, ∃ fault, reader ⟨line, ls ++ rest⟩ = .error fault

variable {r next : LineReader α} {f : α → LineReader β} {ls more : List (List Char)} {a : α}
  {P : α → Prop} {Q : β → Prop}

theorem Takes.gives (h : Takes r ls a) (hp : P a) : Gives r ls P := Or.inl ⟨a, h, hp⟩

theorem GoesOn.gives (h : GoesOn r ls next) (hn : Gives next more P) : Gives r (ls ++ more) P := by
  rcases hn with ⟨a, htakes, hp⟩ | hfails
  · exact (h.takes htakes).gives hp
  · right
    intro line rest
    rw [List.append_assoc, h line (more ++ rest)]
    exact hfails _ rest

theorem Gives.bind (h : Gives r ls P) (hf : ∀ a, P a → Gives (f a) more Q) :
    Gives (r >>= f) (ls ++ more) Q := by
  rcases h with ⟨a, htakes, hp⟩ | hfails
  · exact (htakes.next f).gives (hf a hp)
  · right
    intro line rest
    obtain ⟨fault, hfault⟩ := hfails line (more ++ rest)
    refine ⟨fault, ?_⟩
    change r _ >>= _ = _
    rw [List.append_assoc, hfault]
    rfl

/-- A row that is refused ends the reading, and one that goes in leaves the name. -/
theorem gives_rows {t : Table} {found : List Row} (h : ∀ row ∈ found, t.schema.Holds row) :
    Gives (rows found.length t) (found.map fun row => (rowLine row).toList)
      fun t' => t'.name = t.name := by
  induction found generalizing t with
  | nil => exact (takes_pure t).gives rfl
  | cons row rest ih =>
    obtain ⟨hrow, hrest⟩ := List.forall_mem_cons.mp h
    refine ((takes_row hrow).next _).gives ?_
    cases hinsert : t.insert row with
    | error e => exact Or.inr fun _ _ => ⟨_, rfl⟩
    | ok grown =>
      obtain ⟨-, hgrown⟩ := Table.insert_eq_ok hinsert
      have hname : grown.name = t.name := by
        rw [hgrown]
        rfl
      have hgives := ih (t := grown) (by rwa [Table.schema_insert hinsert])
      rw [hname] at hgives
      exact hgives

theorem gives_table {t : Table} (h : t.Lined) :
    Gives table ((tableLines t).map String.toList) fun t' => t'.name = t.name := by
  obtain ⟨declared, hd, -, hsheet⟩ := h.sound.redeclare
  have hname : declared.name = t.name := congrArg Sheet.name hsheet
  rw [toList_tableLines, ← hname]
  refine (goesOn_header h hd).gives ?_
  rw [← h.sound.length_rows]
  exact gives_rows (holds_declared h.sound hd)

theorem gives_times {p : α → γ} {q : β → γ} {f : β → List (List Char)} {bs : List β}
    (h : ∀ b ∈ bs, Gives r (f b) fun a => p a = q b) :
    Gives (times bs.length r) (bs.flatMap f) fun as => as.map p = bs.map q := by
  induction bs with
  | nil => exact (takes_pure []).gives rfl
  | cons b bs ih =>
    obtain ⟨hb, hbs⟩ := List.forall_mem_cons.mp h
    have hall : Gives (times (b :: bs).length r) (f b ++ (bs.flatMap f ++ []))
        fun as => as.map p = (b :: bs).map q := by
      refine hb.bind fun a ha => (ih hbs).bind fun as has => (takes_pure (a :: as)).gives ?_
      rw [List.map_cons, List.map_cons, ha, has]
    rwa [List.append_nil] at hall

theorem gives_tables {ts : List Table} (hlen : ts.length ≤ indexLimit) (h : ∀ t ∈ ts, t.Lined) :
    Gives tables ((fileLines ts).map String.toList)
      fun restored => restored.map Table.name = ts.map Table.name := by
  rw [fileLines, List.map_cons, List.map_flatMap]
  exact ((takes_count hlen .tables).next _).gives (gives_times fun t ht => gives_table (h t ht))

/-- What is read from a file that was written has the names of what was written. -/
theorem names_of_decode {ts restored : List Table} {text : String} (hlen : ts.length ≤ indexLimit)
    (h : ∀ t ∈ ts, t.Lined) (he : encode ts = .ok text) (hd : decode text = .ok restored) :
    restored.map Table.name = ts.map Table.name := by
  obtain ⟨-, rfl⟩ := encode_eq_ok.mp he
  obtain ⟨⟨found, position⟩, hrun, rfl⟩ := map_eq_ok.mp hd
  rw [toList_join_lines, lines_flatMap (not_feed_of_lined h)] at hrun
  rcases gives_tables hlen h with ⟨as, htakes, hnames⟩ | hfails
  · have hall := htakes 0 []
    rw [List.append_nil] at hall
    cases hrun.symm.trans hall
    exact hnames
  · obtain ⟨fault, hfault⟩ := hfails 0 []
    rw [List.append_nil] at hfault
    cases hrun.symm.trans hfault

end Tabular.SaveFile
