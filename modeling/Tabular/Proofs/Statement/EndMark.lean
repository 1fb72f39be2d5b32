import Tabular.Proofs.Statement.Parser

namespace Tabular

namespace Grammar
open Reader

/-- What is read in one round of the columns of a table. -/
def columnStep (columns : List ColumnSpec) :
    Reader (List ColumnSpec ⊕ List ColumnSpec × List String) := do
  if ← accept (.keyword .primary) then
    return .inr (columns, ← keyClause)
  else
    let columns := columns ++ [← columnSpec]
    match ← peek with
    | .symbol .rightParen =>
      skip
      return .inr (columns, [])
    | .symbol .comma =>
      skip
      return .inl columns
    | _ => failExpecting .separator

/-- What is read of the columns of a table when some have been read. -/
def readColumns (found : List ColumnSpec) (tokens : List Token) :
    Except SyntaxFault ((List ColumnSpec × List String) × List Token) :=
  (columns.run tokens).map fun rest => ((found ++ rest.1.1, rest.1.2), rest.2)

theorem readColumns_eq (found : List ColumnSpec) (tokens : List Token) :
    readColumns found tokens = Walk.readOn readColumns ((columnStep found).run tokens) := by
  have hhead : tokens.headD .stop = .keyword .primary ↔
      tokens.head? = some (.keyword .primary) := by
    cases tokens <;> simp
  unfold readColumns columnStep
  change Except.map _ (runColumns tokens) = _
  rw [run_bind, run_accept, runColumns]
  by_cases hprimary : tokens.head? = some (.keyword .primary)
  · rw [if_pos hprimary, if_pos (hhead.mpr hprimary)]
    dsimp only
    rw [if_pos rfl, run_bind]
    cases keyClause.run tokens.tail with
    | error fault => rfl
    | ok key => simp [Except.map, run_pure, Walk.readOn]
  · rw [if_neg hprimary, if_neg (hhead.not.mpr hprimary)]
    dsimp only
    rw [if_neg nofun, run_bind]
    cases columnSpec.run tokens with
    | error fault => rfl
    | ok first =>
      obtain ⟨column, left⟩ := first
      cases left with
      | nil => rfl
      | cons token rest =>
        cases token with
        | symbol s =>
          cases s with
          | comma =>
            change Except.map _ (Except.map _ (runColumns rest)) = Except.map _ (runColumns rest)
            cases runColumns rest with
            | error fault => rfl
            | ok more => simp [Except.map]
          | _ => rfl
        | _ => rfl

/-- The names of columns, if they are given. -/
def targets : Reader (Option (List String)) := do
  if ← accept (.symbol .leftParen) then
    let found ← names
    expect (.symbol .rightParen)
    return some found
  else
    return none

theorem run_targets (k : Option (List String) → Reader α) (tokens : List Token) :
    (targets >>= k).run tokens =
      (peek >>= fun next =>
        if next = .symbol .leftParen then some <$> nameList >>= k
        else pure none >>= k).run tokens := by
  have hpeek : peek.run tokens = .ok (tokens.headD .stop, tokens) := rfl
  rw [run_bind peek, hpeek]
  unfold targets
  dsimp only
  by_cases hparen : tokens.headD .stop = .symbol .leftParen
  · have hnames : nameList.run tokens = (names >>= fun found =>
        expect (.symbol .rightParen) >>= fun _ => pure found).run tokens.tail := by
      unfold nameList expect
      rw [run_bind, run_bind, run_accept, if_pos hparen]
      rfl
    rw [if_pos hparen]
    change _ = ((nameList >>= fun found => pure (some found)) >>= k).run tokens
    simp only [run_bind, run_accept, hnames, if_pos hparen, ↓reduceIte]
    cases names.run tokens.tail with
    | error fault => rfl
    | ok found =>
      dsimp only
      cases (expect (.symbol .rightParen)).run found.2 <;> rfl
  · rw [if_neg hparen, run_bind, run_bind, run_accept, if_neg hparen]
    rfl

theorem spends_identifier (sort : String → Prop) : identifier.Spends sort := by
  intro tokens name left _ h
  rw [run_identifier_eq_ok] at h
  rw [h]
  exact Nat.lt_succ_self _

theorem spends_columnStep (columns : List ColumnSpec)
    (sort : List ColumnSpec ⊕ List ColumnSpec × List String → Prop) :
    (columnStep columns).Spends sort := by
  refine Spends.accept (by decide) ?_
  exact Spends.bind (Spends.bind (spends_identifier _) _ _) _ sort

theorem spends_predicate (alternative : Bool) (sort : Predicate → Prop) :
    (predicate alternative).Spends sort :=
  Spends.accept (by decide) ((spends_identifier _).bind _ sort)

theorem spends_valueGroup (sort : List Literal → Prop) : valueGroup.Spends sort := by
  refine Spends.bind ?_ _ sort
  intro tokens u left _ h
  rw [run_expect_eq_ok (by decide)] at h
  rw [h]
  exact Nat.lt_succ_self _

end Grammar

namespace Walk

theorem follows_identifier : identifier.Follows Grammar.identifier.run := by
  refine Follows.look fun next => ?_
  cases next with
  | ident name => exact Follows.advance nofun (.pure name)
  | _ => exact Follows.expecting _ _

theorem follows_literal : literal.Follows Grammar.literal.run := by
  refine Follows.look fun next => ?_
  cases hl : Literal.ofToken? next with
  | none => exact Follows.expecting _ _
  | some l => exact Follows.advance_some rfl hl (.pure l)

theorem follows_comparator : comparator.Follows Grammar.comparator.run := by
  refine Follows.look fun next => ?_
  cases hc : Comparator.ofToken? next with
  | none => exact Follows.expecting _ _
  | some c => exact Follows.advance_some rfl hc (.pure c)

theorem follows_keyword (k : Keyword) :
    (consume (.keyword k)).Follows (Reader.expect (.keyword k)).run :=
  .consume nofun

theorem follows_symbol (s : Symbol) :
    (consume (.symbol s)).Follows (Reader.expect (.symbol s)).run :=
  .consume nofun

theorem follows_names : names.Follows Grammar.names.run :=
  follows_identifier.commas

theorem follows_nameList : nameList.Follows Grammar.nameList.run :=
  (follows_symbol _).bind fun _ => follows_names.bind fun _ =>
    (follows_symbol _).bind fun _ => .pure _

theorem follows_width : width.Follows Grammar.width.run := by
  refine Follows.look fun next => ?_
  cases next with
  | number digits =>
    dsimp only
    cases readNatural widthLimit digits.toList with
    | none => exact Follows.fail _ _
    | some n => exact Follows.advance nofun (.pure n)
  | _ => exact Follows.expecting _ _

theorem follows_columnSpec : columnSpec.Follows Grammar.columnSpec.run := by
  refine follows_identifier.bind fun _ => follows_identifier.bind fun _ => ?_
  refine (Follows.eat (by decide)).bind fun _ => .ite ?_ (.pure _)
  exact follows_width.bind fun _ => (follows_symbol _).bind fun _ => .pure _

theorem follows_keyClause : keyClause.Follows Grammar.keyClause.run :=
  (follows_keyword _).bind fun _ => follows_nameList.bind fun _ =>
    (follows_symbol _).bind fun _ => .pure _

theorem follows_columnRound (columns : List ColumnSpec) :
    (columnRound columns).Follows (Grammar.columnStep columns).run := by
  refine (Follows.eat (by decide)).bind fun _ => .ite (follows_keyClause.bind fun _ => .pure _) ?_
  refine follows_columnSpec.bind fun column => .look fun next => ?_
  cases next with
  | symbol s =>
    cases s with
    | rightParen => exact Follows.advance nofun (.pure _)
    | comma => exact Follows.advance nofun (.pure _)
    | _ => exact Follows.expecting _ _
  | _ => exact Follows.expecting _ _

theorem columnRound_consumes
    (sort : List ColumnSpec ⊕ List ColumnSpec × List String → Prop) (columns : List ColumnSpec) :
    (columnRound columns).Consumes sort :=
  (follows_columnRound columns).consumes (Grammar.spends_columnStep columns sort)

theorem follows_columnLoop (columns : List ColumnSpec) :
    (loop columnRound columns).Follows (Grammar.readColumns columns) :=
  .loop follows_columnRound (columnRound_consumes _) Grammar.readColumns_eq columns

theorem follows_columns : (loop columnRound []).Follows Grammar.columns.run := by
  have hread : Grammar.columns.run = Grammar.readColumns [] := by
    funext tokens
    unfold Grammar.readColumns
    cases Grammar.columns.run tokens <;> rfl
  rw [hread]
  exact follows_columnLoop []

theorem follows_createTable : createTable.Follows Grammar.createTable.run :=
  (follows_keyword _).bind fun _ => (follows_keyword _).bind fun _ =>
    follows_identifier.bind fun _ => (follows_symbol _).bind fun _ =>
      follows_columns.bind fun _ => .ite (.fail _) (.pure _)

theorem follows_valueGroup : valueGroup.Follows Grammar.valueGroup.run :=
  (follows_symbol _).bind fun _ => follows_literal.commas.bind fun _ =>
    (follows_symbol _).bind fun _ => .pure _

theorem follows_valueGroups :
    (chain (fun _ : Unit => valueGroup) comma ()).Follows
      (Reader.separated Grammar.valueGroup).run :=
  .chain (fun _ => follows_valueGroup) rfl (fun _ => Grammar.spends_valueGroup _) ()

theorem follows_targets : targets.Follows Grammar.targets.run := by
  refine (Follows.eat (by decide)).bind fun _ => .ite ?_ (.pure _)
  exact follows_names.bind fun _ => (follows_symbol _).bind fun _ => .pure _

theorem follows_insert : insert.Follows Grammar.insert.run := by
  refine (follows_keyword _).bind fun _ => (follows_keyword _).bind fun _ =>
    follows_identifier.bind fun _ => ?_
  rw [← funext (Grammar.run_targets _)]
  exact follows_targets.bind fun _ => (follows_keyword _).bind fun _ =>
    follows_valueGroups.bind fun _ => .pure _

theorem follows_dropTable : dropTable.Follows Grammar.dropTable.run :=
  (follows_keyword _).bind fun _ => (follows_keyword _).bind fun _ =>
    follows_identifier.bind fun _ => .pure _

theorem follows_predicate (alternative : Bool) :
    (predicate alternative).Follows (Grammar.predicate alternative).run :=
  (Follows.eat (by decide)).bind fun _ => follows_identifier.bind fun _ =>
    follows_comparator.bind fun _ => follows_literal.bind fun _ => .pure _

theorem follows_filter : filter.Follows Grammar.filter.run := by
  refine (Follows.eat (by decide)).bind fun _ => .ite ?_ (.pure _)
  exact (Follows.chain follows_predicate rfl (fun _ => Grammar.spends_predicate _ _) _).bind
    fun _ => .pure _

theorem follows_update : update.Follows Grammar.update.run :=
  (follows_keyword _).bind fun _ => follows_identifier.bind fun _ =>
    (follows_keyword _).bind fun _ => follows_identifier.bind fun _ =>
      (follows_symbol _).bind fun _ => follows_literal.bind fun _ =>
        follows_filter.bind fun _ => .pure _

theorem follows_delete : delete.Follows Grammar.delete.run :=
  (follows_keyword _).bind fun _ => (follows_keyword _).bind fun _ =>
    follows_identifier.bind fun _ => follows_filter.bind fun _ => .pure _

theorem follows_qualifiedColumn : qualifiedColumn.Follows Grammar.qualifiedColumn.run :=
  follows_identifier.bind fun _ => (follows_symbol _).bind fun _ =>
    follows_identifier.bind fun _ => .pure _

theorem follows_joinKind : joinKind.Follows Grammar.joinKind.run := by
  refine Follows.look fun next => ?_
  cases next with
  | keyword k =>
    cases k with
    | inner => exact Follows.advance nofun (.pure _)
    | left => exact Follows.advance nofun (.pure _)
    | right => exact Follows.advance nofun (.pure _)
    | _ => exact Follows.pure _ _
  | _ => exact Follows.pure _ _

theorem follows_joinClause : joinClause.Follows Grammar.joinClause.run := by
  refine follows_joinKind.bind fun kind => ?_
  cases kind with
  | none => exact .pure _
  | some kind =>
    exact (follows_keyword _).bind fun _ => follows_identifier.bind fun _ =>
      (follows_keyword _).bind fun _ => follows_qualifiedColumn.bind fun _ =>
        (follows_symbol _).bind fun _ => follows_qualifiedColumn.bind fun _ => .pure _

theorem follows_projection : projection.Follows Grammar.projection.run :=
  (Follows.eat (by decide)).bind fun _ => .ite (.pure _) (follows_names.bind fun _ => .pure _)

theorem follows_query : query.Follows Grammar.query.run :=
  (follows_keyword _).bind fun _ => follows_projection.bind fun _ =>
    (follows_keyword _).bind fun _ => follows_identifier.bind fun _ =>
      follows_joinClause.bind fun _ => follows_filter.bind fun _ => .pure _

theorem follows_statement : statement.Follows Grammar.statement.run := by
  refine Follows.look fun next => ?_
  cases next with
  | keyword k =>
    cases k with
    | create => exact follows_createTable.bind (fun _ => .pure _) _
    | insert => exact follows_insert.bind (fun _ => .pure _) _
    | drop => exact follows_dropTable.bind (fun _ => .pure _) _
    | update => exact follows_update.bind (fun _ => .pure _) _
    | delete => exact follows_delete.bind (fun _ => .pure _) _
    | select => exact follows_query.bind (fun _ => .pure _) _
    | _ => exact Follows.fail _ _
  | _ => exact Follows.fail _ _

theorem follows_complete : complete.Follows Grammar.complete.run := by
  refine follows_statement.bind fun _ => (Follows.eat (by decide)).bind fun _ =>
    .look fun next => ?_
  cases next with
  | stop => exact Follows.pure _ _
  | _ => exact Follows.fail _ _

/-- Along a cursor the same is read as from the tokens in front of the first end mark, and the
cursor is left at one of them or at the mark. -/
theorem parse_eq (tokens : List Token) :
    ∃ c, parse tokens = .some (Statement.ofTokens tokens, c) ∧
      c.tokens = (Cursor.start tokens).tokens ∧
      c.position ≤ (tokens.takeWhile (· ≠ .stop)).length ∧
      (tokens.takeWhile (· ≠ .stop)).length < c.tokens.length := by
  obtain ⟨behind, hstart⟩ := Cursor.start_eq_facing tokens
  obtain ⟨result, taken, left, hahead, hrun, hread⟩ :=
    follows_complete.run [] behind (stop_not_mem_takeWhile tokens)
  have hresult : Statement.ofTokens tokens = result := by
    unfold Statement.ofTokens
    rw [hread]
    cases result <;> rfl
  refine ⟨.facing taken left behind, ?_, ?_, ?_, ?_⟩
  · unfold parse
    rw [hstart, hrun, hresult]
    rfl
  · rw [hstart, hahead]
    rfl
  · rw [hahead]
    simp [Cursor.facing]
  · rw [hahead]
    simp [Cursor.facing]

/-- From wherever there is an end mark ahead the rounds come to an end, and each with a result of
this sort costs tokens in front of the mark. -/
structure Ends (round : β → Walk (β ⊕ α)) (sort : β ⊕ α → Prop) : Prop where
  consumes (b : β) : (round b).Consumes sort
  ends (b : β) (passed ahead behind : List Token) (h : .stop ∉ ahead) :
    ∃ result taken left, ahead = taken ++ left ∧
      (loop round b).run (.facing passed ahead behind) =
        .some (result, .facing (passed ++ taken) left behind)

theorem Ends.of_follows {round : β → Walk (β ⊕ α)} {sort : β ⊕ α → Prop}
    {read : β → List Token → Except SyntaxFault (α × List Token)}
    (h : ∀ b, (loop round b).Follows (read b)) (hconsumes : ∀ b, (round b).Consumes sort) :
    Ends round sort := by
  refine ⟨hconsumes, fun b passed ahead behind hstop => ?_⟩
  obtain ⟨result, taken, left, hahead, hrun, -⟩ := h b _ passed ahead behind hstop rfl
  exact ⟨result, taken, left, hahead, hrun⟩

/-- Nothing from the first end mark on makes a difference to a parser, which never gets past it;
its cursor is valid from the start and stays so, and none of its loops goes on without taking a
token in front of the mark. -/
theorem stops_at_end_mark (front rest : List Token) (h : .stop ∉ front) :
    (∀ tokens ∈ [front ++ .stop :: rest, front ++ [.stop], front],
      Statement.ofTokens tokens = Statement.ofTokens front ∧ (Cursor.start tokens).Valid ∧
        ∃ c, parse tokens = .some (Statement.ofTokens front, c) ∧
          c.tokens = (Cursor.start tokens).tokens ∧ c.position ≤ front.length ∧
          front.length < c.tokens.length) ∧
      (∀ c : Cursor, c.Valid → (∃ token, current.run c = .some (.ok token, c)) ∧
        ∃ c', advance.run c = .some (.ok (), c') ∧ c'.tokens = c.tokens ∧ c'.Valid) ∧
      Ends (commaRound identifier) (·.isLeft) ∧ Ends (commaRound literal) (·.isLeft) ∧
      Ends (chainRound (fun _ : Unit => valueGroup) comma) (fun _ => True) ∧
      Ends (chainRound predicate Grammar.connective) (fun _ => True) ∧
      Ends columnRound (fun _ => True) := by
  refine ⟨fun tokens hm => ?_, fun c hc => ⟨run_current_of_valid hc, run_advance_of_valid hc⟩,
    ?_, ?_, ?_, ?_, ?_⟩
  · have hfront : tokens.takeWhile (· ≠ .stop) = front := by
      simp only [List.mem_cons, List.not_mem_nil, or_false] at hm
      obtain rfl | rfl | rfl := hm
      · exact takeWhile_append_stop h rest
      · exact takeWhile_append_stop h []
      · exact takeWhile_of_not_mem h
    have hsame : Statement.ofTokens tokens = Statement.ofTokens front := by
      unfold Statement.ofTokens
      rw [hfront, takeWhile_of_not_mem h]
    rw [← hsame, ← hfront]
    exact ⟨rfl, Cursor.valid_start tokens, parse_eq tokens⟩
  · exact .of_follows follows_identifier.commaLoop fun as =>
      (follows_identifier.commaRound as).consumes (Reader.spends_commaStep _ as)
  · exact .of_follows follows_literal.commaLoop fun as =>
      (follows_literal.commaRound as).consumes (Reader.spends_commaStep _ as)
  · have hgroup := fun _ : Unit => follows_valueGroup
    have hspends := fun _ : Unit => Grammar.spends_valueGroup fun _ => True
    exact .of_follows (Follows.chainLoop hgroup rfl hspends)
      (Follows.chainRound_consumes hgroup rfl hspends _)
  · have hspends := fun alternative => Grammar.spends_predicate alternative fun _ => True
    exact .of_follows (Follows.chainLoop follows_predicate rfl hspends)
      (Follows.chainRound_consumes follows_predicate rfl hspends _)
  · exact .of_follows follows_columnLoop (columnRound_consumes _)

/-- A statement with an end mark behind it, and behind that what would be a fault in front of it. -/
theorem stops_at_end_mark_select :
    let front : List Token := [.keyword .select, .symbol .star, .keyword .from, .ident "seat"]
    let rest : List Token := [.symbol .comma, .stop, .keyword .where]
    .stop ∉ front ∧ ∃ c, parse (front ++ .stop :: rest) =
      .some (.ok (.query ⟨.all, "seat", none, none⟩), c) ∧ c.position ≤ 4 := by
  intro front rest
  have hstop : .stop ∉ front := by decide
  obtain ⟨-, -, c, hparse, -, hposition, -⟩ :=
    (stops_at_end_mark front rest hstop).1 _ List.mem_cons_self
  exact ⟨hstop, c, hparse, hposition⟩

end Walk

end Tabular
