import Tabular.Proofs.Statement.Clauses

namespace Tabular

namespace Grammar
open Reader

variable {tokens rest : List Token}

/-- The change is spelled by tokens that begin with the keyword its reader is chosen by. -/
def Opens (k : Keyword) (change : Change) (ts : List Token) : Prop :=
  Statement.Spelling (.change change) ts ∧ ts.head? = some (.keyword k)

section Change

variable {k : Keyword} {r : Reader Change} (h : ReadsLast r (Opens k)) (hrest : Closed rest)

include h hrest

theorem ReadsLast.spelled {st : Statement}
    (hrun : (Statement.change <$> r).run tokens = .ok (st, rest)) :
    ∃ ts, st.Spelling ts ∧ tokens = ts ++ rest := by
  obtain ⟨change, hchange, rfl⟩ := run_map_eq_ok.mp hrun
  obtain ⟨ts, ⟨hs, -⟩, rfl⟩ := (h _ _ _ hrest).mp hchange
  exact ⟨ts, hs, rfl⟩

theorem ReadsLast.run_change {change : Change} {ts : List Token} (hs : Opens k change ts) :
    (Statement.change <$> r).run (ts ++ rest) = .ok (.change change, rest) :=
  run_map_eq_ok.mpr ⟨change, (h _ _ _ hrest).mpr ⟨ts, hs, rfl⟩, rfl⟩

end Change

theorem readsLast_createTable : ReadsLast createTable (Opens .create) := by
  intro tokens change rest _
  unfold createTable
  simp only [run_bind_eq_ok, run_expect_eq_ok, run_identifier_eq_ok, reads_columns _ _ _, ne_eq,
    reduceCtorEq, not_false_eq_true]
  constructor
  · rintro ⟨_, _, rfl, _, _, rfl, name, _, rfl, _, _, rfl, ⟨specs, key⟩, _, ⟨ts, hd, rfl⟩, h⟩
    cases specs with
    | nil => simp [run_fail_eq_ok] at h
    | cons spec specs =>
      obtain ⟨rfl, rfl⟩ := run_pure_eq_ok.mp h
      obtain ⟨cs, ks, hc, hk, rfl⟩ := declared_iff.mp ⟨hd, List.cons_ne_nil _ _⟩
      exact ⟨_, ⟨.createTable hc hk, rfl⟩, by simp⟩
  · rintro ⟨_, ⟨h, hhead⟩, rfl⟩
    cases h with
    | @createTable name specs key cs ks hc hk =>
      obtain ⟨hd, hne⟩ := declared_iff.mpr ⟨cs, ks, hc, hk, rfl⟩
      refine ⟨(), _, rfl, (), _, rfl, name, _, rfl, (), _, rfl, (specs, key), rest,
        ⟨_, hd, by simp⟩, ?_⟩
      simp [hne, run_pure_eq_ok]
    | _ => simp at hhead

theorem readsLast_insert : ReadsLast insert (Opens .insert) := by
  intro tokens change rest hrest
  have hcomma : rest.head? ≠ some (.symbol .comma) := hrest.head?_ne (by simp)
  have hbind : ∀ (c : Prop) [Decidable c] (f : Option (List String) → Reader Change),
      (if c then some <$> nameList >>= f else pure none >>= f) =
        (if c then some <$> nameList else pure none) >>= f := by
    intro c _ f
    split <;> rfl
  unfold insert
  simp only [hbind, run_bind_eq_ok, run_pure_eq_ok, run_peek_eq_ok, run_expect_eq_ok,
    run_identifier_eq_ok, run_separated_eq_ok reads_valueGroup, ne_eq, reduceCtorEq,
    not_false_eq_true]
  constructor
  · rintro ⟨_, _, rfl, _, _, rfl, table, _, rfl, _, _, ⟨rfl, rfl⟩, columns, _, htargets,
      _, _, rfl, rows, _, ⟨⟨rs, hr, rfl⟩, -⟩, rfl, rfl⟩
    obtain ⟨cs, hc, rfl⟩ := (run_targets_eq_ok rfl).mp htargets
    exact ⟨_, ⟨.insert hc hr, rfl⟩, by simp⟩
  · rintro ⟨_, ⟨h, hhead⟩, rfl⟩
    cases h with
    | @insert table columns rows cs rs hc hr =>
      refine ⟨(), _, rfl, (), _, rfl, table, _, rfl, _, _, ⟨rfl, rfl⟩, columns,
        .keyword .values :: (rs ++ rest), (run_targets_eq_ok rfl).mpr ⟨cs, hc, by simp⟩, ?_⟩
      exact ⟨(), _, rfl, rows, rest, ⟨⟨rs, hr, rfl⟩, hcomma⟩, rfl, rfl⟩
    | _ => simp at hhead

theorem readsLast_dropTable : ReadsLast dropTable (Opens .drop) := by
  intro tokens change rest _
  unfold dropTable
  simp only [run_bind_eq_ok, run_pure_eq_ok, run_expect_eq_ok, run_identifier_eq_ok, ne_eq,
    reduceCtorEq, not_false_eq_true]
  constructor
  · rintro ⟨_, _, rfl, _, _, rfl, name, _, rfl, rfl, rfl⟩
    exact ⟨_, ⟨.dropTable name, rfl⟩, rfl⟩
  · rintro ⟨_, ⟨h, hhead⟩, rfl⟩
    cases h with
    | dropTable name => exact ⟨(), _, rfl, (), _, rfl, name, _, rfl, rfl, rfl⟩
    | _ => simp at hhead

theorem readsLast_update : ReadsLast update (Opens .update) := by
  intro tokens change rest hrest
  unfold update
  simp only [run_bind_eq_ok, run_pure_eq_ok, run_expect_eq_ok, run_identifier_eq_ok,
    reads_literal _ _ _, ne_eq, reduceCtorEq, not_false_eq_true]
  constructor
  · rintro ⟨_, _, rfl, table, _, rfl, _, _, rfl, column, _, rfl, _, _, rfl, l, _, ⟨ls, hl, rfl⟩,
      f, _, hf, rfl, rfl⟩
    obtain ⟨fs, hfilter, rfl⟩ := (readsLast_filter _ _ _ hrest).mp hf
    exact ⟨_, ⟨.update hl hfilter, rfl⟩, by simp⟩
  · rintro ⟨_, ⟨h, hhead⟩, rfl⟩
    cases h with
    | @update table column l f ls fs hl hfilter =>
      exact ⟨(), _, rfl, table, _, rfl, (), _, rfl, column, _, rfl, (), _, rfl, l, _,
        ⟨ls, hl, List.append_assoc _ _ _⟩, f, _,
        (readsLast_filter _ _ _ hrest).mpr ⟨fs, hfilter, rfl⟩, rfl, rfl⟩
    | _ => simp at hhead

theorem readsLast_delete : ReadsLast delete (Opens .delete) := by
  intro tokens change rest hrest
  unfold delete
  simp only [run_bind_eq_ok, run_pure_eq_ok, run_expect_eq_ok, run_identifier_eq_ok, ne_eq,
    reduceCtorEq, not_false_eq_true]
  constructor
  · rintro ⟨_, _, rfl, _, _, rfl, table, _, rfl, f, _, hf, rfl, rfl⟩
    obtain ⟨fs, hfilter, rfl⟩ := (readsLast_filter _ _ _ hrest).mp hf
    exact ⟨_, ⟨.delete hfilter, rfl⟩, rfl⟩
  · rintro ⟨_, ⟨h, hhead⟩, rfl⟩
    cases h with
    | @delete table f fs hfilter =>
      exact ⟨(), _, rfl, (), _, rfl, table, _, rfl, f, _,
        (readsLast_filter _ _ _ hrest).mpr ⟨fs, hfilter, rfl⟩, rfl, rfl⟩
    | _ => simp at hhead

theorem readsLast_query : ReadsLast query fun q => Statement.Spelling (.query q) := by
  intro tokens q rest hrest
  have hfrom : ∀ left : List Token, (Token.keyword .from :: left).head? ≠ some (.symbol .comma) :=
    fun left => by simp
  unfold query
  simp only [run_bind_eq_ok, run_pure_eq_ok, run_expect_eq_ok, run_identifier_eq_ok, ne_eq,
    reduceCtorEq, not_false_eq_true]
  constructor
  · rintro ⟨_, _, rfl, p, _, hrun, _, _, rfl, table, _, rfl, join, _, hjoin, f, _, hlast, rfl, rfl⟩
    obtain ⟨ps, hp, rfl⟩ := (run_projection_eq_ok (hfrom _)).mp hrun
    obtain ⟨fs, hf, rfl⟩ := (readsLast_filter _ _ _ hrest).mp hlast
    obtain ⟨js, hj, rfl⟩ := (run_joinClause_eq_ok (hrest.run_joinKind hf)).mp hjoin
    exact ⟨_, .query hp hj hf, by simp⟩
  · rintro ⟨_, h, rfl⟩
    cases h with
    | @query p table join f ps js fs hp hj hf =>
      refine ⟨(), _, rfl, p, .keyword .from :: .ident table :: (js ++ (fs ++ rest)),
        (run_projection_eq_ok (hfrom _)).mpr ⟨ps, hp, by simp⟩, ?_⟩
      exact ⟨(), _, rfl, table, _, rfl, join, _,
        (run_joinClause_eq_ok (hrest.run_joinKind hf)).mpr ⟨js, hj, rfl⟩, f, rest,
        (readsLast_filter _ _ _ hrest).mpr ⟨fs, hf, rfl⟩, rfl, rfl⟩

theorem readsLast_statement : ReadsLast statement Statement.Spelling := by
  intro tokens st rest hrest
  unfold statement
  simp only [run_bind_eq_ok, run_peek_eq_ok]
  constructor
  · rintro ⟨_, _, ⟨rfl, rfl⟩, h⟩
    split at h
    · exact readsLast_createTable.spelled hrest h
    · exact readsLast_insert.spelled hrest h
    · exact readsLast_dropTable.spelled hrest h
    · exact readsLast_update.spelled hrest h
    · exact readsLast_delete.spelled hrest h
    · obtain ⟨q, hrun, rfl⟩ := run_map_eq_ok.mp h
      exact (readsLast_query _ _ _ hrest).mp hrun
    · exact (run_fail_eq_ok.mp h).elim
  · rintro ⟨ts, h, rfl⟩
    refine ⟨_, _, ⟨rfl, rfl⟩, ?_⟩
    cases h with
    | createTable hc hk => exact readsLast_createTable.run_change hrest ⟨.createTable hc hk, rfl⟩
    | insert hc hr => exact readsLast_insert.run_change hrest ⟨.insert hc hr, rfl⟩
    | dropTable name => exact readsLast_dropTable.run_change hrest ⟨.dropTable name, rfl⟩
    | update hl hf => exact readsLast_update.run_change hrest ⟨.update hl hf, rfl⟩
    | delete hf => exact readsLast_delete.run_change hrest ⟨.delete hf, rfl⟩
    | query hp hj hf =>
      exact run_map_eq_ok.mpr ⟨_, (readsLast_query _ _ _ hrest).mpr
        ⟨_, .query hp hj hf, rfl⟩, rfl⟩

/-- A semicolon may end a statement, and nothing else stands behind it. -/
theorem run_complete_eq_ok (h : .stop ∉ tokens) {st : Statement} :
    complete.run tokens = .ok (st, rest) ↔ rest = [] ∧
      (st.Spelling tokens ∨ ∃ ts, tokens = ts ++ [.symbol .semicolon] ∧ st.Spelling ts) := by
  unfold complete
  simp only [run_bind_eq_ok, run_peek_eq_ok, run_accept_eq_ok, ne_eq, reduceCtorEq,
    not_false_eq_true]
  constructor
  · rintro ⟨found, left, hrun, _, last, hsemi, _, _, ⟨rfl, rfl⟩, hend⟩
    split at hend
    · rename_i hstop
      obtain ⟨rfl, rfl⟩ := run_pure_eq_ok.mp hend
      have hlast : last = [] := by
        cases last with
        | nil => rfl
        | cons t last =>
          obtain rfl : t = .stop := hstop
          refine absurd ((statement.leaves hrun).mem ?_) h
          rcases hsemi with ⟨-, rfl⟩ | ⟨-, rfl, -⟩ <;> simp
      subst hlast
      rcases hsemi with ⟨-, rfl⟩ | ⟨-, rfl, -⟩
      · obtain ⟨ts, hs, rfl⟩ := (readsLast_statement _ _ _ (by simp [Closed])).mp hrun
        exact ⟨rfl, Or.inr ⟨ts, rfl, hs⟩⟩
      · obtain ⟨ts, hs, rfl⟩ := (readsLast_statement _ _ _ (by simp [Closed])).mp hrun
        exact ⟨rfl, Or.inl (by simpa using hs)⟩
    · exact (run_fail_eq_ok.mp hend).elim
  · rintro ⟨rfl, hs | ⟨ts, rfl, hs⟩⟩
    · exact ⟨st, [], (readsLast_statement _ _ _ (by simp [Closed])).mpr ⟨tokens, hs, by simp⟩,
        false, [], Or.inr ⟨rfl, rfl, by simp⟩, _, [], ⟨rfl, rfl⟩, run_pure_eq_ok.mpr ⟨rfl, rfl⟩⟩
    · exact ⟨st, _, (readsLast_statement _ _ _ (by simp [Closed])).mpr ⟨ts, hs, rfl⟩,
        true, [], Or.inl ⟨rfl, rfl⟩, _, [], ⟨rfl, rfl⟩, run_pure_eq_ok.mpr ⟨rfl, rfl⟩⟩

end Grammar

/-- A list of tokens is read as a statement where it spells that statement, with a semicolon at its
end or without one. -/
theorem Statement.ofTokens_eq_ok_iff {tokens : List Token} (h : .stop ∉ tokens) {st : Statement} :
    ofTokens tokens = .ok st ↔
      st.Spelling tokens ∨ ∃ ts, tokens = ts ++ [.symbol .semicolon] ∧ st.Spelling ts := by
  have hall : tokens.takeWhile (· ≠ .stop) = tokens :=
    List.takeWhile_eq_self_iff.mpr fun t ht => by
      simpa using ne_of_mem_of_not_mem ht h
  unfold ofTokens
  rw [hall, map_eq_ok]
  simp [Grammar.run_complete_eq_ok h]

theorem Statement.ofTokens_eq_ok_iff_joined :
    ofTokens ([.keyword .select, .ident "a", .symbol .comma, .ident "b", .keyword .from, .ident "t",
        .keyword .join, .ident "u", .keyword .on, .ident "u", .symbol .dot, .ident "a",
        .symbol .equal, .ident "t", .symbol .dot, .ident "a", .keyword .where, .keyword .not,
        .ident "b", .symbol .lower, .number "-1.", .keyword .or, .ident "b", .symbol .equal,
        .keyword .true] ++ [.symbol .semicolon]) =
      .ok (.query ⟨.names ["a", "b"], "t", some ⟨.inner, "u", ⟨"u", "a"⟩, ⟨"t", "a"⟩⟩,
        some [⟨false, true, "b", .lt, .bare "-1."⟩, ⟨true, false, "b", .eq, .bare "true"⟩]⟩) := by
  refine (ofTokens_eq_ok_iff (by decide)).mpr (Or.inr ⟨_, rfl, ?_⟩)
  have hfilter : Filter.Spelling (some [⟨false, true, "b", .lt, .bare "-1."⟩,
      ⟨true, false, "b", .eq, .bare "true"⟩]) _ :=
    .some (.more ⟨rfl, .negated (.number _)⟩ (.one ⟨rfl, .plain .truth⟩))
  exact .query (.names (.more rfl (.one (b := ()) rfl))) (.some .bare) hfilter

end Tabular
