import Tabular.Proofs.SaveFile.Takes
import Tabular.Proofs.Table.Built

namespace Tabular

namespace SaveFile
open Text

/-- The same lines, but for white space at their ends. -/
def Alike (as bs : List (List Char)) : Prop :=
  as.map trimEnd = bs.map trimEnd

/-- At the last of these lines in front the reader fails, whatever follows them. -/
def Refuses (reader : LineReader α) (ls : List (List Char)) (cause : Cause) : Prop :=
  ∀ line rest, reader ⟨line, ls ++ rest⟩ = .error ⟨line + ls.length, cause⟩

/-- A reader takes the first of the lines, or fails at the last of them, or finds too few. What it
makes of those it takes may depend on how many they are. -/
inductive Settled (reader : LineReader α) (Q : α → Nat → Prop) : List (List Char) → Prop where
  | takes {used rest : List (List Char)} {a : α} (hQ : Q a used.length)
    (h : ∀ other, Alike used other → Takes reader other a) : Settled reader Q (used ++ rest)
  | refuses {used rest : List (List Char)} {cause : Cause} (hc : cause ≠ .endOfFile)
    (h : ∀ other, Alike used other → Refuses reader other cause) : Settled reader Q (used ++ rest)
  | short {ls : List (List Char)}
    (h : ∀ line, reader ⟨line, ls⟩ = .error ⟨line + ls.length + 1, .endOfFile⟩) :
    Settled reader Q ls

def Settles (reader : LineReader α) (Q : α → Nat → Prop) : Prop :=
  ∀ ls, Settled reader Q ls

theorem Alike.refl (ls : List (List Char)) : Alike ls ls := rfl

theorem Alike.length {as bs : List (List Char)} (h : Alike as bs) : as.length = bs.length := by
  simpa using congrArg List.length h

theorem Alike.nil {ls : List (List Char)} (h : Alike [] ls) : ls = [] :=
  List.map_eq_nil_iff.mp h.symm

theorem Alike.split {as bs ls : List (List Char)} (h : Alike (as ++ bs) ls) :
    ∃ first second, ls = first ++ second ∧ Alike as first ∧ Alike bs second := by
  unfold Alike at h
  rw [List.map_append] at h
  obtain ⟨first, second, rfl, hfirst, hsecond⟩ := List.map_eq_append_iff.mp h.symm
  exact ⟨first, second, rfl, hfirst.symm, hsecond.symm⟩

theorem bind_of_error {r : LineReader α} {p : Position} {fault : Fault} (h : r p = .error fault)
    (f : α → LineReader β) : (r >>= f) p = .error fault := by
  change r p >>= _ = _
  rw [h]
  rfl

theorem bind_of_ok {r : LineReader α} {p p' : Position} {a : α} (h : r p = .ok (a, p'))
    (f : α → LineReader β) : (r >>= f) p = f a p' := by
  change r p >>= _ = _
  rw [h]
  rfl

theorem Refuses.bind {r : LineReader α} {ls : List (List Char)} {cause : Cause}
    (h : Refuses r ls cause) (f : α → LineReader β) : Refuses (r >>= f) ls cause :=
  fun line rest => bind_of_error (h line rest) f

theorem Takes.refuses {r : LineReader α} {f : α → LineReader β} {ls more : List (List Char)} {a : α}
    {cause : Cause} (h : Takes r ls a) (hf : Refuses (f a) more cause) :
    Refuses (r >>= f) (ls ++ more) cause := by
  intro line rest
  rw [List.append_assoc, bind_of_ok (h line (more ++ rest)), hf, List.length_append,
    Nat.add_assoc]

variable {P : α → Nat → Prop}

theorem Settles.mono {r : LineReader α} {Q : α → Nat → Prop} (h : Settles r P)
    (hPQ : ∀ a n, P a n → Q a n) : Settles r Q := by
  intro ls
  cases h ls with
  | takes hP ht => exact .takes (hPQ _ _ hP) ht
  | refuses hc hr => exact .refuses hc hr
  | short hs => exact .short hs

theorem settles_pure {a : α} (h : P a 0) : Settles (pure a) P := by
  have htakes : ∀ other, Alike [] other → Takes (pure a) other a := by
    intro other ho
    rw [ho.nil]
    exact takes_pure a
  exact fun ls => .takes h htakes

theorem settles_fail (cause : Cause) (P : α → Nat → Prop) (hc : cause ≠ .endOfFile) :
    Settles (fail cause) P := by
  have hrefuses : ∀ other, Alike [] other → Refuses (fail (α := α) cause) other cause := by
    intro other ho
    rw [ho.nil]
    exact fun _ _ => rfl
  exact fun ls => .refuses hc hrefuses

theorem settles_lift {result : Except Error α} (h : ∀ a, result = .ok a → P a 0) :
    Settles (lift result) P := by
  cases result with
  | error e => exact settles_fail (.refused e) P nofun
  | ok a => exact settles_pure (h a rfl)

theorem settles_nextLine : Settles nextLine fun _ n => n = 1 := by
  intro ls
  cases ls with
  | nil => exact .short fun _ => rfl
  | cons line rest =>
    have htakes : ∀ other, Alike [line] other → Takes nextLine other (trimEnd line) := by
      intro other ho
      obtain ⟨same, rfl, heq⟩ := List.map_eq_singleton_iff.mp ho.symm
      rw [← heq]
      exact takes_nextLine same
    exact .takes (a := trimEnd line) rfl htakes

/-- What the first reader took, the second cannot give back; the lines of both are counted. -/
theorem Settles.bind {r : LineReader α} {f : α → LineReader β} {Q : β → Nat → Prop}
    (h : Settles r P) (hf : ∀ a n, P a n → Settles (f a) fun b m => Q b (n + m)) :
    Settles (r >>= f) Q := by
  intro ls
  cases h ls with
  | @takes used rest a hP htakes =>
    cases hf a used.length hP rest with
    | @takes more rest b hQ hmore =>
      rw [← List.append_assoc]
      refine .takes (by rwa [List.length_append]) fun other ho => ?_
      obtain ⟨first, second, rfl, hfirst, hsecond⟩ := ho.split
      exact (htakes first hfirst).bind (hmore second hsecond)
    | @refuses more rest cause hc hrefuses =>
      rw [← List.append_assoc]
      refine .refuses hc fun other ho => ?_
      obtain ⟨first, second, rfl, hfirst, hsecond⟩ := ho.split
      exact (htakes first hfirst).refuses (hrefuses second hsecond)
    | short hshort =>
      refine .short fun line => ?_
      rw [bind_of_ok (htakes used (Alike.refl used) line rest), hshort, List.length_append,
        Nat.add_assoc line]
  | refuses hc hrefuses => exact .refuses hc fun other ho => (hrefuses other ho).bind f
  | short hshort => exact .short fun line => bind_of_error (hshort line) f

/-- A reader of a single line has that line to itself. -/
theorem settles_line {f : List Char → LineReader α} {Q : α → Prop}
    (h : ∀ line, Settles (f line) fun a n => n = 0 ∧ Q a) :
    Settles (nextLine >>= f) fun a n => n = 1 ∧ Q a :=
  settles_nextLine.bind fun line n hn => (h line).mono fun a m hm => ⟨by omega, hm.2⟩

/-- What the elements take up, one after another. -/
def together (cost : α → Nat) : List α → Nat
  | [] => 0
  | a :: as => cost a + together cost as

theorem together_one (as : List α) : together (fun _ => 1) as = as.length := by
  induction as with
  | nil => rfl
  | cons a as ih => rw [together, ih, List.length_cons, Nat.add_comm]

theorem Settles.times {r : LineReader α} (cost : α → Nat) {Q : α → Prop}
    (h : Settles r fun a n => n = cost a ∧ Q a) (count : Nat) :
    Settles (times count r) fun as n =>
      n = together cost as ∧ as.length = count ∧ ∀ a ∈ as, Q a := by
  induction count with
  | zero => exact settles_pure ⟨rfl, rfl, fun _ ha => absurd ha List.not_mem_nil⟩
  | succ count ih =>
    refine h.bind fun a n ⟨hn, ha⟩ => ih.bind fun as m ⟨hm, hlen, has⟩ => settles_pure ?_
    refine ⟨?_, by rw [List.length_cons, hlen], List.forall_mem_cons.mpr ⟨ha, has⟩⟩
    rw [together, hn, hm]
    rfl

/-- A pass in which no step reads a line reads none. -/
theorem settles_mapM {f : α → LineReader β} (h : ∀ a, Settles (f a) fun _ n => n = 0)
    (as : List α) : Settles (as.mapM f) fun _ n => n = 0 := by
  induction as with
  | nil => exact settles_pure rfl
  | cons a as ih =>
    rw [List.mapM_cons]
    exact (h a).bind fun b n hn => ih.bind fun bs m hm => settles_pure (by omega)

theorem le_of_readNatural {limit n : Nat} {cs : List Char} (h : readNatural limit cs = some n) :
    n ≤ limit :=
  of_decide_eq_true (Option.filter_eq_some_iff.mp h).2

theorem settles_count (counted : Counted) :
    Settles (count counted) fun n used => used = 1 ∧ n ≤ indexLimit := by
  refine settles_line fun line => ?_
  split
  · rename_i n hn
    exact settles_pure ⟨rfl, le_of_readNatural hn⟩
  · exact settles_fail _ _ nofun

theorem settles_tableName : Settles tableName fun _ used => used = 1 ∧ True := by
  refine settles_line fun line => ?_
  split
  · exact settles_fail _ _ nofun
  · exact settles_pure ⟨rfl, trivial⟩

theorem settles_column : Settles column fun _ used => used = 1 ∧ True := by
  refine settles_line fun line => ?_
  split
  · refine (settles_lift (P := fun _ n => n = 0) fun _ _ => rfl).bind fun kind n hn => ?_
    exact settles_pure ⟨hn, trivial⟩
  · exact settles_fail _ _ nofun

theorem settles_key : Settles key fun _ used => used = 1 ∧ True := by
  refine settles_line fun line => ?_
  split
  · split
    · exact settles_pure ⟨rfl, trivial⟩
    · exact settles_fail _ _ nofun
  · exact settles_fail _ _ nofun

theorem settles_value (kind : Kind) (token : Token) :
    Settles (value kind token) fun _ used => used = 0 := by
  unfold value
  split
  · exact settles_lift fun _ _ => rfl
  · exact settles_fail _ _ nofun

theorem settles_row (schema : Schema) : Settles (row schema) fun _ used => used = 1 ∧ True := by
  refine settles_line fun line => ?_
  refine (settles_lift (P := fun _ n => n = 0) fun _ _ => rfl).bind fun tokens n hn => ?_
  split
  · exact settles_fail _ _ nofun
  · have hvalues := settles_mapM (fun pair : Field × Token => settles_value pair.1.kind pair.2)
      (schema.zip tokens)
    exact hvalues.mono fun _ m hm => ⟨by omega, trivial⟩

/-- Each row has a line of its own, even where a table has no columns. -/
theorem settles_rows (t : Table) (n : Nat) : Settles (rows n t) fun t' used =>
    used = n ∧ t'.schema = t.schema ∧ t'.rowCount = t.rowCount + n := by
  induction n generalizing t with
  | zero => exact settles_pure ⟨rfl, rfl, rfl⟩
  | succ n ih =>
    refine (settles_row t.schema).bind fun found a ⟨ha, _⟩ => ?_
    refine (settles_lift (P := fun next b => b = 0 ∧ next.schema = t.schema ∧
      next.rowCount = t.rowCount + 1) fun next h => ⟨rfl, Table.schema_insert h, ?_⟩).bind ?_
    · rw [(Table.insert_eq_ok h).2]
      rfl
    · intro next b ⟨hb, hschema, hcount⟩
      exact (ih next).mono fun t' c ⟨hc, hs, hr⟩ => ⟨by omega, hs.trans hschema, by omega⟩

/-- The lines that a table takes up. -/
def tableExtent (t : Table) : Nat :=
  4 + t.width + t.rowCount

theorem settles_table : Settles table fun t used =>
    used = tableExtent t ∧ t.width ≤ indexLimit ∧ t.rowCount ≤ indexLimit := by
  refine settles_tableName.bind fun name a ⟨ha, _⟩ => ?_
  refine (settles_count .columns).bind fun width b ⟨hb, hwidth⟩ => ?_
  refine (settles_column.times (fun _ => 1) width).bind fun schema c ⟨hc, hlen, _⟩ => ?_
  refine settles_key.bind fun indices d ⟨hd, _⟩ => ?_
  refine (settles_lift (P := fun t e => e = 0 ∧ t.schema = schema ∧ t.rowCount = 0) ?_).bind ?_
  · intro keyed hkeyed
    rw [Table.setKey_eq_ok hkeyed]
    exact ⟨rfl, Table.schema_ofSchema name schema, Table.rowCount_ofSchema name schema⟩
  · intro keyed e ⟨he, hkeyed, hnone⟩
    refine (settles_count .rows).bind fun n f ⟨hf, hn⟩ => ?_
    refine (settles_rows keyed n).mono fun t g ⟨hg, hschema, hr⟩ => ?_
    have hcolumns : c = width := by rw [hc, together_one, hlen]
    have hw : t.width = width := by rw [← t.length_schema, hschema, hkeyed, hlen]
    unfold tableExtent
    omega

/-- The lines that are read of a file that holds these tables. -/
def extent (ts : List Table) : Nat :=
  1 + together tableExtent ts

theorem settles_tables : Settles tables fun ts used =>
    used = extent ts ∧ ts.length ≤ indexLimit ∧
      ∀ t ∈ ts, t.width ≤ indexLimit ∧ t.rowCount ≤ indexLimit := by
  refine (settles_count .tables).bind fun n a ⟨ha, hn⟩ => ?_
  refine (settles_table.times tableExtent n).mono fun ts b ⟨hb, hlen, hts⟩ => ?_
  exact ⟨by rw [extent, ha, hb], by rwa [hlen], hts⟩

def lineCount (text : String) : Nat :=
  (lines '\n' text.toList).length

/-- The texts have the same lines up to the number, but for white space at their ends. -/
def AlikeTo (number : Nat) (text other : String) : Prop :=
  Alike ((lines '\n' text.toList).take number) ((lines '\n' other.toList).take number)

section Decode

variable {text : String} {ls rest : List (List Char)}

theorem decode_of_takes {ts : List Table} (h : Takes tables ls ts)
    (hl : lines '\n' text.toList = ls ++ rest) : decode text = .ok ts := by
  unfold decode
  rw [hl]
  exact map_eq_ok.mpr ⟨_, h 0 rest, rfl⟩

theorem decode_of_error {fault : Fault}
    (h : tables ⟨0, lines '\n' text.toList⟩ = .error fault) : decode text = .error fault := by
  unfold decode
  rw [StateT.run, h]
  rfl

theorem decode_of_refuses {cause : Cause} (h : Refuses tables ls cause)
    (hl : lines '\n' text.toList = ls ++ rest) : decode text = .error ⟨ls.length, cause⟩ := by
  apply decode_of_error
  rw [hl, h, Nat.zero_add]

theorem AlikeTo.alike {other : String} (h : AlikeTo ls.length text other)
    (hl : lines '\n' text.toList = ls ++ rest) :
    Alike ls ((lines '\n' other.toList).take ls.length) := by
  unfold AlikeTo at h
  rwa [hl, List.take_left] at h

end Decode

theorem size_of_decode {text : String} {ts : List Table} (h : decode text = .ok ts) :
    ts.length ≤ indexLimit ∧ ∀ t ∈ ts, t.width ≤ indexLimit ∧ t.rowCount ≤ indexLimit := by
  have hsettled := settles_tables (lines '\n' text.toList)
  generalize hl : lines '\n' text.toList = ls at hsettled
  cases hsettled with
  | takes hQ htakes =>
    have hok := decode_of_takes (htakes _ (Alike.refl _)) hl
    rw [h] at hok
    cases hok
    exact hQ.2
  | refuses hc hrefuses =>
    have herror := decode_of_refuses (hrefuses _ (Alike.refl _)) hl
    rw [h] at herror
    cases herror
  | short hshort =>
    have herror := decode_of_error (hl ▸ hshort 0)
    rw [h] at herror
    cases herror

/-- A file is read line by line: it gives tables, or the line that is at fault, or ends too early.
Neither tables nor fault depend on any line behind the last one read. -/
theorem decode_settled (text : String) :
    (∃ ts, decode text = .ok ts ∧ extent ts ≤ lineCount text ∧
        ∀ other, AlikeTo (extent ts) text other → decode other = .ok ts) ∨
      (∃ fault, decode text = .error fault ∧ fault.cause ≠ .endOfFile ∧
        1 ≤ fault.line ∧ fault.line ≤ lineCount text ∧
        ∀ other, AlikeTo fault.line text other → decode other = .error fault) ∨
      decode text = .error ⟨lineCount text + 1, .endOfFile⟩ := by
  have hsettled := settles_tables (lines '\n' text.toList)
  generalize hl : lines '\n' text.toList = ls at hsettled
  have hcount : lineCount text = ls.length := congrArg List.length hl
  rw [hcount]
  cases hsettled with
  | @takes used rest ts hQ htakes =>
    refine Or.inl ⟨ts, decode_of_takes (htakes used (Alike.refl used)) hl, ?_, fun other ho => ?_⟩
    · rw [← hQ.1, List.length_append]
      exact Nat.le_add_right _ _
    · rw [← hQ.1] at ho
      exact decode_of_takes (htakes _ (ho.alike hl)) (List.take_append_drop used.length _).symm
  | @refuses used rest cause hc hrefuses =>
    have hread := decode_of_refuses (hrefuses used (Alike.refl used)) hl
    refine Or.inr (Or.inl ⟨⟨used.length, cause⟩, hread, hc, ?_, ?_, fun other ho => ?_⟩)
    · -- In front of no line at all the first reader finds too few.
      by_contra hnone
      have hnil : used = [] := List.eq_nil_of_length_eq_zero (by simpa using hnone)
      have hrun := hrefuses used (Alike.refl used) 0 []
      rw [hnil] at hrun
      cases hrun
    · rw [List.length_append]
      exact Nat.le_add_right _ _
    · have hlike := ho.alike hl
      rw [hlike.length]
      exact decode_of_refuses (hrefuses _ hlike) (List.take_append_drop used.length _).symm
  | short hshort =>
    refine Or.inr (Or.inr (decode_of_error ?_))
    rw [hl, hshort, Nat.zero_add]

/-- The second row of the file is refused, and its other spelling goes on with a line that could not
be read. -/
theorem decode_settled_sharedKey :
    let text := "1\nseat\n1\nint place\n1 0\n2\n7\n7\n"
    let other := "1\r\nseat \r\n1\r\nint place\r\n1 0\r\n2\t\r\n7\r\n7\r\n'open\nand more"
    AlikeTo 8 text other ∧
      decode other = .error ⟨8, .refused (.duplicateKey "seat" [("place", .int 7)])⟩ := by
  intro text other
  have hlike : AlikeTo 8 text other := by
    unfold AlikeTo Alike
    decide +kernel
  have hread : (decode text).map List.length =
      .error ⟨8, .refused (.duplicateKey "seat" [("place", .int 7)])⟩ := by
    decide +kernel
  refine ⟨hlike, ?_⟩
  obtain ⟨ts, hok, -⟩ | ⟨fault, hfault, -, -, -, hsame⟩ | hshort := decode_settled text
  · rw [hok] at hread
    cases hread
  · rw [hfault] at hread
    cases hread
    exact hsame other hlike
  · rw [hshort] at hread
    simp [Except.map] at hread

end SaveFile

end Tabular
