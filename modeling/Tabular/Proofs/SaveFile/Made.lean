import Tabular.Proofs.Table.Built
import Tabular.Proofs.Token.Content
import Tabular.Proofs.Typing
import Tabular.SaveFile.Decode

namespace Tabular

/-- The value is no text that goes on behind a line. -/
def Value.OneLine (v : Value) : Prop :=
  ∀ content, v = .text content → '\n' ∉ content.toList

namespace Table

variable {t t' : Table}

/-- A table that comes of inserting its rows into its declaration, none of which is longer than a
line. -/
structure Recorded (t : Table) : Prop where
  built : t.Built
  made : ∃ declared, (ofSchema t.name t.schema).setKey t.key = .ok declared ∧
    declared.insertAll t.rows = .ok t
  oneLine : ∀ row ∈ t.rows, ∀ v ∈ row, v.OneLine

theorem foldr_insertIndex_of_pairwise {key : List Nat} (h : key.Pairwise (· < ·)) :
    key.foldr insertIndex [] = key := by
  rw [foldr_insertIndex, List.toFinset_sort (· ≤ ·) (h.imp Nat.ne_of_lt)]
  exact h.imp Nat.le_of_lt

theorem recorded_declared {name : String} {schema : Schema} {indices : List Nat}
    (hname : Text.Title name.toList) (hfields : ∀ field ∈ schema, Text.Word field.name.toList)
    (h : (ofSchema name schema).setKey indices = .ok t) : t.Recorded := by
  have hbuilt : t.Built := .declared hname hfields h
  have hsound := hbuilt.sound_fit.1
  have hsheet := sheet_ofSchema name schema
  have ht := setKey_eq_ok h
  have hnone : t.rows = [] := by
    rw [ht]
    exact congrArg Sheet.rows hsheet
  have hsame : ofSchema t.name t.schema = ofSchema name schema := by
    rw [schema_setKey h, schema_ofSchema, ht]
    exact congrArg (ofSchema · schema) (congrArg Sheet.name hsheet)
  have hkey : t.key = indices.foldr insertIndex [] := congrArg Table.key ht
  obtain ⟨again, hagain, -, -⟩ := hsound.redeclare
  obtain rfl : again = t := by
    rw [setKey_eq_ok hagain, hsame, foldr_insertIndex_of_pairwise hsound.ordered, hkey]
    exact ht.symm
  exact ⟨hbuilt, ⟨again, hagain, by rw [hnone]; rfl⟩, by rw [hnone]; exact nofun⟩

theorem Recorded.insert (h : t.Recorded) {row : Row} (hlen : row.length = t.schema.length)
    (hrow : ∀ v ∈ row, v.OneLine) (hi : t.insert row = .ok t') : t'.Recorded := by
  have hm := h.built.sound_fit.1.insert row
  rw [hi] at hm
  obtain ⟨filled, hfilled, -, -, -, hsheet⟩ := Sheet.insert_ok hm.ok.2
  obtain rfl : filled = row := by
    rw [hfilled]
    change row ++ List.replicate (t.schema.length - row.length) .null = row
    rw [hlen, Nat.sub_self]
    exact List.append_nil row
  have hrows : t'.rows = t.rows ++ [filled] := congrArg Sheet.rows hsheet
  obtain ⟨declared, hd, hall⟩ := h.made
  refine ⟨h.built.insert hi, ⟨declared, ?_, ?_⟩, ?_⟩
  · obtain ⟨-, rfl⟩ := insert_eq_ok hi
    rw [schema_insert hi]
    exact hd
  · unfold insertAll at hall ⊢
    rw [hrows, List.foldlM_append, hall]
    exact bind_eq_ok.mpr ⟨t, rfl, bind_eq_ok.mpr ⟨t', hi, rfl⟩⟩
  · rw [hrows]
    exact List.forall_mem_append.mpr ⟨h.oneLine, List.forall_mem_singleton.mpr hrow⟩

end Table

namespace SaveFile
open Text

/-- The lines still to be read are lines indeed. -/
def Position.Unbroken (p : Position) : Prop :=
  ∀ line ∈ p.rest, '\n' ∉ line

/-- Whatever the reader makes of such lines has the property, and leaves such lines. -/
def Makes (reader : LineReader α) (Q : α → Prop) : Prop :=
  ∀ p a p', p.Unbroken → reader p = .ok (a, p') → Q a ∧ p'.Unbroken

theorem makes_pure {a : α} {Q : α → Prop} (h : Q a) : Makes (pure a) Q := by
  intro p b p' hp hr
  cases hr
  exact ⟨h, hp⟩

theorem makes_fail (cause : Cause) (Q : α → Prop) : Makes (fail cause) Q :=
  fun _ _ _ _ hr => nomatch hr

theorem Makes.bind {r : LineReader α} {f : α → LineReader β} {P : α → Prop} {Q : β → Prop}
    (h : Makes r P) (hf : ∀ a, P a → Makes (f a) Q) : Makes (r >>= f) Q := by
  intro p b p' hp hr
  obtain ⟨⟨a, left⟩, ha, hb⟩ := bind_eq_ok.mp hr
  obtain ⟨hpa, hleft⟩ := h p a left hp ha
  exact hf a hpa left b p' hleft hb

theorem makes_lift {result : Except Error α} {Q : α → Prop}
    (h : ∀ a, result = .ok a → Q a) : Makes (lift result) Q := by
  cases result with
  | error e => exact makes_fail _ Q
  | ok a => exact makes_pure (h a rfl)

theorem makes_nextLine : Makes nextLine fun line => '\n' ∉ line := by
  intro p line p' hp hr
  obtain ⟨number, rest⟩ := p
  cases rest with
  | nil => cases hr
  | cons first rest =>
    cases hr
    obtain ⟨hfirst, hrest⟩ := List.forall_mem_cons.mp hp
    exact ⟨fun hm => hfirst ((prefix_trimEnd first).subset hm), hrest⟩

theorem Makes.times {r : LineReader α} {Q : α → Prop} (h : Makes r Q) (n : Nat) :
    Makes (times n r) fun as => ∀ a ∈ as, Q a := by
  induction n with
  | zero => exact makes_pure fun _ ha => absurd ha List.not_mem_nil
  | succ n ih =>
    exact h.bind fun a ha => ih.bind fun as has => makes_pure (List.forall_mem_cons.mpr ⟨ha, has⟩)

theorem makes_mapM {f : α → LineReader β} {Q : β → Prop} {as : List α}
    (h : ∀ a ∈ as, Makes (f a) Q) :
    Makes (as.mapM f) fun bs => bs.length = as.length ∧ ∀ b ∈ bs, Q b := by
  induction as with
  | nil => exact makes_pure ⟨rfl, fun _ hb => absurd hb List.not_mem_nil⟩
  | cons a as ih =>
    obtain ⟨ha, has⟩ := List.forall_mem_cons.mp h
    rw [List.mapM_cons]
    refine ha.bind fun b hb => (ih has).bind fun bs ⟨hlen, hbs⟩ => makes_pure ?_
    exact ⟨congrArg (· + 1) hlen, List.forall_mem_cons.mpr ⟨hb, hbs⟩⟩

theorem makes_count (counted : Counted) : Makes (count counted) fun _ => True := by
  refine makes_nextLine.bind fun line _ => ?_
  split
  · exact makes_pure trivial
  · exact makes_fail _ _

theorem makes_tableName : Makes tableName fun name => Title name.toList := by
  refine makes_nextLine.bind fun line hline => ?_
  split
  · exact makes_fail _ _
  · rename_i hne
    refine makes_pure ?_
    rw [String.toList_ofList]
    exact title_trim hline hne

theorem makes_column : Makes column fun field => Word field.name.toList := by
  refine makes_nextLine.bind fun line _ => ?_
  split
  · rename_i typeWord name hwords
    have hname : Word name := word_of_mem_words (by rw [hwords]; simp)
    refine (makes_lift (Q := fun _ => True) fun _ _ => trivial).bind fun kind _ => makes_pure ?_
    rw [String.toList_ofList]
    exact hname
  · exact makes_fail _ _

theorem makes_key : Makes key fun _ => True := by
  refine makes_nextLine.bind fun line _ => ?_
  split
  · split
    · exact makes_pure trivial
    · exact makes_fail _ _
  · exact makes_fail _ _

/-- A text that is read from a line lies within it. -/
theorem makes_value (kind : Kind) {token : Token} (ht : '\n' ∉ token.content) :
    Makes (value kind token) Value.OneLine := by
  unfold value
  split
  · rename_i found hfound
    refine makes_lift fun v hv content hc => ?_
    rw [hc] at hv
    have hliteral : Literal.ofToken? token = some (.bare content) ∨
        Literal.ofToken? token = some (.quoted content) := by
      obtain rfl | rfl := Value.text_ofLiteral hv
      · exact Or.inl hfound
      · exact Or.inr hfound
    obtain hcontent | rfl | rfl := Token.content_of_ofToken? hliteral
    · rwa [hcontent]
    · decide
    · decide
  · exact makes_fail _ _

theorem makes_row (schema : Schema) : Makes (row schema) fun found =>
    found.length = schema.length ∧ ∀ v ∈ found, v.OneLine := by
  refine makes_nextLine.bind fun line hline => ?_
  refine (makes_lift (Q := fun tokens => ∀ t ∈ tokens, '\n' ∉ t.content) ?_).bind ?_
  · intro tokens hscan token ht hm
    have hsub := Token.content_of_scan (mapError_eq_ok.mp hscan) token ht
    rw [String.toList_ofList] at hsub
    exact hline (hsub hm)
  · intro tokens htokens
    split
    · exact makes_fail _ _
    · rename_i hlen
      have hpairs : (schema.zip tokens).length = schema.length := by
        rw [List.length_zip, not_not.mp hlen, Nat.min_self]
      have hvalues := makes_mapM fun pair (hp : pair ∈ schema.zip tokens) =>
        makes_value pair.1.kind (htokens pair.2 (List.of_mem_zip hp).2)
      rw [hpairs] at hvalues
      exact hvalues

theorem makes_rows {t : Table} (h : t.Recorded) (n : Nat) : Makes (rows n t) Table.Recorded := by
  induction n generalizing t with
  | zero => exact makes_pure h
  | succ n ih =>
    refine (makes_row t.schema).bind fun found ⟨hlen, hfound⟩ => ?_
    exact (makes_lift fun _ ht => h.insert hlen hfound ht).bind fun _ hnext => ih hnext

theorem makes_table : Makes table Table.Recorded := by
  refine makes_tableName.bind fun name hname => (makes_count .columns).bind fun width _ => ?_
  refine (makes_column.times width).bind fun schema hschema => makes_key.bind fun indices _ => ?_
  refine (makes_lift fun _ hkeyed => Table.recorded_declared hname hschema hkeyed).bind ?_
  exact fun keyed hkeyed => (makes_count .rows).bind fun n _ => makes_rows hkeyed n

theorem makes_tables : Makes tables fun ts => ∀ t ∈ ts, t.Recorded :=
  (makes_count .tables).bind fun n _ => makes_table.times n

theorem recorded_of_decode {text : String} {ts : List Table} (h : decode text = .ok ts) :
    ∀ t ∈ ts, t.Recorded := by
  obtain ⟨⟨found, p⟩, hr, rfl⟩ := map_eq_ok.mp h
  exact (makes_tables _ found p (fun _ hl => not_mem_of_mem_lines hl) hr).1

theorem built_of_decode {text : String} {ts : List Table} (h : decode text = .ok ts) :
    ∀ t ∈ ts, t.Built :=
  fun t ht => (recorded_of_decode h t ht).built

end SaveFile

end Tabular
