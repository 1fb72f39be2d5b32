import Tabular.Proofs.Text.Lines
import Tabular.Proofs.Token.Lexeme
import Tabular.Statement.Grammar

namespace Tabular
open Text Unicode

/-- An identifier is a word. -/
def Token.Named : Token → Prop
  | .ident name => Word name.toList
  | _ => True

theorem Worded.word {cs : List Char} (h : Worded cs) : Word cs := by
  obtain ⟨c, rest, rfl, -⟩ := h.exists_cons
  exact ⟨List.cons_ne_nil c rest, fun d hd => isSpace_of_isWordPart (h.all d hd)⟩

theorem Token.WellFormed.named {t : Token} (h : t.WellFormed) : t.Named := by
  cases t with
  | ident name => exact (Identifier.worded h).word
  | _ => trivial

theorem Token.named_of_scan {text : String} {tokens : List Token}
    (h : Token.scan text = .ok tokens) : ∀ t ∈ tokens, t.Named :=
  fun t ht => (wellFormed_of_scan h t ht).named

namespace Reader

/-- Whatever the reader makes of properly named tokens has the property. -/
def Yields (r : Reader α) (Q : α → Prop) : Prop :=
  ∀ tokens a rest, (∀ t ∈ tokens, t.Named) → r.run tokens = .ok (a, rest) → Q a

theorem yields_pure {a : α} {Q : α → Prop} (h : Q a) : (pure a : Reader α).Yields Q := by
  intro tokens b rest _ hr
  cases hr
  exact h

theorem yields_fail (fault : SyntaxFault) (Q : α → Prop) : (fail fault : Reader α).Yields Q :=
  nofun

theorem yields_any (r : Reader α) : r.Yields fun _ => True :=
  fun _ _ _ _ _ => trivial

theorem Yields.bind {r : Reader α} {f : α → Reader β} {P : α → Prop} {Q : β → Prop}
    (h : r.Yields P) (hf : ∀ a, P a → (f a).Yields Q) : (r >>= f).Yields Q := by
  intro tokens b rest ht hr
  rw [run_bind] at hr
  cases hf' : r.run tokens with
  | error fault =>
    rw [hf'] at hr
    cases hr
  | ok found =>
    obtain ⟨a, left⟩ := found
    rw [hf'] at hr
    exact hf a (h tokens a left ht hf') left b rest
      (fun t hm => ht t ((r.leaves hf').subset hm)) hr

/-- Nothing need be known of what is read first. -/
theorem yields_bind {r : Reader α} {f : α → Reader β} {Q : β → Prop}
    (hf : ∀ a, (f a).Yields Q) : (r >>= f).Yields Q :=
  (yields_any r).bind fun a _ => hf a

theorem Yields.map {r : Reader α} {f : α → β} {Q : β → Prop} (h : r.Yields fun a => Q (f a)) :
    (f <$> r).Yields Q :=
  h.bind fun _ ha => yields_pure ha

theorem yields_peek : peek.Yields Token.Named := by
  intro tokens t rest ht hr
  cases hr
  cases tokens with
  | nil => trivial
  | cons token tokens => exact ht token List.mem_cons_self

theorem yields_failExpecting (expectation : Expectation) (Q : α → Prop) :
    (failExpecting expectation : Reader α).Yields Q :=
  yields_bind fun _ => yields_fail _ Q

end Reader

namespace Grammar
open Reader

theorem yields_identifier : identifier.Yields fun name => Word name.toList := by
  refine yields_peek.bind ?_
  intro token ht
  split
  · exact yields_bind fun _ => yields_pure ht
  · exact yields_failExpecting _ _

theorem yields_columnSpec : columnSpec.Yields fun spec => Word spec.name.toList := by
  refine yields_identifier.bind ?_
  intro name hname
  refine yields_bind fun typeWord => yields_bind fun opened => ?_
  split
  · exact yields_bind fun _ => yields_bind fun _ => yields_pure hname
  · exact yields_pure hname

theorem named_of_runColumns {tokens rest : List Token} {found : List ColumnSpec × List String}
    (ht : ∀ t ∈ tokens, t.Named) (h : runColumns tokens = .ok (found, rest)) :
    ∀ spec ∈ found.1, Word spec.name.toList := by
  fun_induction runColumns tokens generalizing found rest with
  | case1 tokens _ =>
    obtain ⟨⟨key, last⟩, -, heq⟩ := map_eq_ok.mp h
    cases heq
    exact fun _ hs => absurd hs List.not_mem_nil
  | case2 => cases h
  | case3 tokens _ column left hc =>
    cases h
    exact List.forall_mem_singleton.mpr (yields_columnSpec _ _ _ ht hc)
  | case4 tokens _ column left hc ih =>
    have hcolumn := yields_columnSpec _ _ _ ht hc
    have hleft : ∀ t ∈ left, t.Named := fun t hm =>
      ht t ((columnSpec.leaves hc).subset (List.mem_cons_of_mem _ hm))
    obtain ⟨⟨⟨columns, key⟩, last⟩, hn, heq⟩ := map_eq_ok.mp h
    cases heq
    exact List.forall_mem_cons.mpr ⟨hcolumn, ih hleft hn⟩
  | case5 => cases h

end Grammar

/-- The names that a statement gives to a new table and its columns are words. -/
def Statement.Named : Statement → Prop
  | .change (.createTable name specs _) =>
    Word name.toList ∧ ∀ spec ∈ specs, Word spec.name.toList
  | _ => True

namespace Grammar
open Reader

theorem yields_createTable :
    createTable.Yields fun change => (Statement.change change).Named := by
  refine yields_bind fun _ => yields_bind fun _ => yields_identifier.bind fun name hname => ?_
  refine yields_bind fun _ => ?_
  have hcolumns : columns.Yields fun found => ∀ spec ∈ found.1, Word spec.name.toList :=
    fun _ _ _ ht hr => named_of_runColumns ht hr
  refine hcolumns.bind fun found hfound => ?_
  obtain ⟨specs, key⟩ := found
  dsimp only
  split
  · exact yields_fail _ _
  · exact yields_pure ⟨hname, hfound⟩

theorem yields_insert : insert.Yields fun change => (Statement.change change).Named := by
  refine yields_bind fun _ => yields_bind fun _ => yields_bind fun _ => yields_bind fun _ => ?_
  dsimp only
  split
  · exact yields_bind fun _ => yields_bind fun _ => yields_bind fun _ => yields_pure trivial
  · exact yields_bind fun _ => yields_bind fun _ => yields_bind fun _ => yields_pure trivial

/-- No other statement names a new table. -/
theorem yields_statement : statement.Yields Statement.Named := by
  refine yields_bind fun token => ?_
  split
  · exact yields_createTable.map
  · exact yields_insert.map
  · refine Yields.map ?_
    repeat refine yields_bind fun _ => ?_
    exact yields_pure trivial
  · refine Yields.map ?_
    repeat refine yields_bind fun _ => ?_
    exact yields_pure trivial
  · refine Yields.map ?_
    repeat refine yields_bind fun _ => ?_
    exact yields_pure trivial
  · exact (yields_any query).map
  · exact yields_fail _ _

theorem yields_complete : complete.Yields Statement.Named := by
  refine yields_statement.bind fun found hfound => yields_bind fun _ => yields_bind fun token => ?_
  split
  · exact yields_pure hfound
  · exact yields_fail _ _

end Grammar

theorem Statement.named_of_read {sql : String} {found : Statement}
    (h : Statement.read sql = .ok found) : found.Named := by
  obtain ⟨tokens, hs, hr⟩ := bind_eq_ok.mp h
  obtain ⟨scanned, hscan, heq⟩ := bind_eq_ok.mp hs
  cases heq
  obtain ⟨⟨statement, rest⟩, hrun, rfl⟩ := map_eq_ok.mp hr
  refine Grammar.yields_complete _ statement rest ?_ hrun
  intro t ht
  rcases List.mem_append.mp ((List.takeWhile_prefix _).subset ht) with hm | hm
  · exact Token.named_of_scan hscan t hm
  · rw [List.mem_singleton.mp hm]
    trivial

end Tabular
