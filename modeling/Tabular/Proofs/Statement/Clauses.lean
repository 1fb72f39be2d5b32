import Mathlib.Data.List.TakeWhile
import Tabular.Proofs.Statement.Reads
import Tabular.Statement.Grammar

namespace Tabular

namespace Grammar
open Reader

variable {tokens rest : List Token}

theorem run_identifier_eq_ok {name : String} :
    identifier.run tokens = .ok (name, rest) ↔ tokens = .ident name :: rest := by
  unfold identifier
  simp only [run_bind_eq_ok, run_peek_eq_ok]
  cases tokens with
  | nil => simp [run_failExpecting_eq_ok]
  | cons t ts =>
    cases t <;> simp [run_bind_eq_ok, run_pure_eq_ok, run_skip_eq_ok, run_failExpecting_eq_ok]

theorem reads_identifier : identifier.Reads Named := by
  intro tokens name rest
  simp [run_identifier_eq_ok, Named]

theorem spelling_iff {l : Literal} {ts : List Token} :
    l.Spelling ts ↔ ∃ t, Literal.ofToken? t = some l ∧ ts = [t] := by
  constructor
  · rintro ⟨⟩ <;> exact ⟨_, rfl, rfl⟩
  · rintro ⟨t, h, rfl⟩
    unfold Literal.ofToken? at h
    split at h <;> cases h <;> constructor

theorem reads_literal : literal.Reads Literal.Spelling := by
  intro tokens l rest
  unfold literal
  simp only [run_bind_eq_ok, run_peek_eq_ok, spelling_iff]
  cases tokens with
  | nil => simp [run_failExpecting_eq_ok, Literal.ofToken?]
  | cons t ts =>
    cases hl : Literal.ofToken? t with
    | none => simp [hl, run_failExpecting_eq_ok]
    | some found => simp [hl, run_bind_eq_ok, run_pure_eq_ok, run_skip_eq_ok]

theorem run_comparator_eq_ok {c : Comparator} :
    comparator.run tokens = .ok (c, rest) ↔ tokens = c.token :: rest := by
  have htoken : ∀ t, Comparator.ofToken? t = some c ↔ t = c.token := by
    intro t
    constructor
    · intro h
      unfold Comparator.ofToken? at h
      split at h <;> cases h <;> rfl
    · rintro rfl
      cases c <;> rfl
  unfold comparator
  simp only [run_bind_eq_ok, run_peek_eq_ok]
  cases tokens with
  | nil => simp [run_failExpecting_eq_ok, Comparator.ofToken?]
  | cons t ts =>
    cases hc : Comparator.ofToken? t with
    | none => simp [hc, ← htoken, run_failExpecting_eq_ok]
    | some found => simp [hc, ← htoken, run_bind_eq_ok, run_pure_eq_ok, run_skip_eq_ok]

theorem reads_nameList : nameList.Reads (Enclosed Named) :=
  reads_enclosed reads_identifier

theorem reads_valueGroup : valueGroup.Reads (Enclosed Literal.Spelling) :=
  reads_enclosed reads_literal

theorem run_width_eq_ok {n : Nat} :
    width.run tokens = .ok (n, rest) ↔ ∃ digits,
      readNatural widthLimit digits.toList = some n ∧ tokens = .number digits :: rest := by
  unfold width
  simp only [run_bind_eq_ok, run_peek_eq_ok]
  cases tokens with
  | nil => simp [run_failExpecting_eq_ok]
  | cons t ts =>
    cases t with
    | number digits =>
      cases hd : readNatural widthLimit digits.toList with
      | none => simp [hd, run_fail_eq_ok]
      | some m => simp [hd, run_bind_eq_ok, run_pure_eq_ok, run_skip_eq_ok]
    | _ => simp [run_failExpecting_eq_ok]

/-- A parenthesis behind a column without a width would be taken for one. -/
theorem run_columnSpec_eq_ok {column : ColumnSpec} :
    columnSpec.run tokens = .ok (column, rest) ↔
      (∃ ts, column.Spelling ts ∧ tokens = ts ++ rest) ∧
        (column.width = none → rest.head? ≠ some (.symbol .leftParen)) := by
  unfold columnSpec
  simp only [run_bind_eq_ok, run_identifier_eq_ok, run_accept_eq_ok, ne_eq, reduceCtorEq,
    not_false_eq_true]
  constructor
  · rintro ⟨name, _, rfl, typeWord, _, rfl, _, _, ⟨rfl, rfl⟩ | ⟨rfl, rfl, hparen⟩, h⟩
    · simp [run_bind_eq_ok, run_pure_eq_ok, run_expect_eq_ok, run_width_eq_ok] at h
      obtain ⟨n, ⟨digits, hn, rfl⟩, rfl⟩ := h
      exact ⟨⟨_, .wide hn, rfl⟩, nofun⟩
    · simp [run_pure_eq_ok] at h
      obtain ⟨rfl, rfl⟩ := h
      exact ⟨⟨_, .plain name typeWord, rfl⟩, fun _ => hparen⟩
  · rintro ⟨⟨_, h, rfl⟩, hparen⟩
    cases h with
    | plain name typeWord =>
      refine ⟨name, _, rfl, typeWord, _, rfl, false, _, Or.inr ⟨rfl, rfl, hparen rfl⟩, ?_⟩
      simp [run_pure_eq_ok]
    | wide hn =>
      refine ⟨_, _, rfl, _, _, rfl, true, _, Or.inl ⟨rfl, rfl⟩, ?_⟩
      simp [run_bind_eq_ok, run_pure_eq_ok, run_expect_eq_ok, run_width_eq_ok, hn]

theorem reads_keyClause :
    keyClause.Reads fun key ts => ∃ ks, Enclosed Named key ks ∧
      ts = .keyword .key :: ks ++ [.symbol .rightParen] := by
  intro tokens key rest
  unfold keyClause
  simp only [run_bind_eq_ok, run_pure_eq_ok, run_expect_eq_ok, reads_nameList _ _ _, ne_eq,
    reduceCtorEq, not_false_eq_true]
  constructor
  · rintro ⟨_, _, rfl, _, _, ⟨ks, hk, rfl⟩, _, _, rfl, rfl, rfl⟩
    exact ⟨_, ⟨ks, hk, rfl⟩, by simp⟩
  · rintro ⟨_, ⟨ks, hk, rfl⟩, rfl⟩
    exact ⟨(), _, rfl, key, .symbol .rightParen :: rest, ⟨ks, hk, by simp⟩, (), rest, rfl, rfl, rfl⟩

/-- What follows the parenthesis that opens the columns, down to the one that closes them. -/
inductive Declared : List ColumnSpec → List String → List Token → Prop where
  | key {key : List String} {ks : List Token} (h : Enclosed Named key ks) :
    Declared [] key ([.keyword .primary, .keyword .key] ++ ks ++ [.symbol .rightParen])
  | last {column : ColumnSpec} {cs : List Token} (h : column.Spelling cs) :
    Declared [column] [] (cs ++ [.symbol .rightParen])
  | more {column : ColumnSpec} {columns : List ColumnSpec} {key : List String}
    {cs rest : List Token} (h : column.Spelling cs) (hrest : Declared columns key rest) :
    Declared (column :: columns) key (cs ++ .symbol .comma :: rest)

/-- Columns, and a key behind the last of them or none. -/
theorem declared_iff {columns : List ColumnSpec} {key : List String} {ts : List Token} :
    Declared columns key ts ∧ columns ≠ [] ↔ ∃ cs ks, Commas ColumnSpec.Spelling columns cs ∧
      KeyClause key ks ∧ ts = cs ++ ks ++ [.symbol .rightParen] := by
  constructor
  · rintro ⟨h, hne⟩
    induction h with
    | key h => exact absurd rfl hne
    | @last column cs h => exact ⟨cs, [], .one h, .none, by simp⟩
    | @more column columns key cs rest h hrest ih =>
      cases hrest with
      | @key _ ks hk => exact ⟨cs, _, .one h, .some hk, by simp⟩
      | last hl =>
        obtain ⟨ds, ks, hd, hk, heq⟩ := ih (List.cons_ne_nil _ _)
        exact ⟨_, ks, .more h hd, hk, by simp [heq]⟩
      | more hl hm =>
        obtain ⟨ds, ks, hd, hk, heq⟩ := ih (List.cons_ne_nil _ _)
        exact ⟨_, ks, .more h hd, hk, by simp [heq]⟩
  · rintro ⟨cs, ks, hc, hk, rfl⟩
    refine ⟨?_, by cases hc <;> simp⟩
    induction columns generalizing cs with
    | nil => cases hc
    | cons column columns ih =>
      cases hc with
      | one h =>
        cases hk with
        | none => simpa using Declared.last h
        | some hk => simpa using Declared.more h (.key hk)
      | @more _ _ _ _ _ others h hrest => simpa using Declared.more h (ih others hrest)

theorem declared_primary {columns : List ColumnSpec} {key : List String}
    (h : tokens.head? = some (.keyword .primary)) :
    (∃ ts, Declared columns key ts ∧ tokens = ts ++ rest) ↔
      columns = [] ∧ keyClause.run tokens.tail = .ok (key, rest) := by
  rw [reads_keyClause]
  constructor
  · rintro ⟨_, hd, rfl⟩
    cases hd with
    | @key _ ks hk => exact ⟨rfl, _, ⟨ks, hk, rfl⟩, by simp⟩
    | last hc => cases hc <;> cases h
    | more hc => cases hc <;> cases h
  · rintro ⟨rfl, _, ⟨ks, hk, rfl⟩, htail⟩
    obtain ⟨left, rfl⟩ := List.head?_eq_some_iff.mp h
    exact ⟨_, .key hk, by simpa using htail⟩

theorem declared_column {columns : List ColumnSpec} {key : List String}
    (h : tokens.head? ≠ some (.keyword .primary)) :
    (∃ ts, Declared columns key ts ∧ tokens = ts ++ rest) ↔
      ∃ column left, columnSpec.run tokens = .ok (column, left) ∧
        (columns = [column] ∧ key = [] ∧ left = .symbol .rightParen :: rest ∨
          ∃ others behind, columns = column :: others ∧ left = .symbol .comma :: behind ∧
            ∃ ts, Declared others key ts ∧ behind = ts ++ rest) := by
  simp only [run_columnSpec_eq_ok]
  constructor
  · rintro ⟨_, hd, rfl⟩
    cases hd with
    | key => exact absurd rfl h
    | @last column cs hc =>
      exact ⟨column, _, ⟨⟨cs, hc, by simp⟩, fun _ => by simp⟩, Or.inl ⟨rfl, rfl, rfl⟩⟩
    | @more column others _ cs behind hc hrest =>
      refine ⟨column, .symbol .comma :: (behind ++ rest), ⟨⟨cs, hc, by simp⟩, fun _ => by simp⟩, ?_⟩
      exact Or.inr ⟨others, _, rfl, rfl, behind, hrest, rfl⟩
  · rintro ⟨column, left, ⟨⟨cs, hc, rfl⟩, -⟩,
      ⟨rfl, rfl, rfl⟩ | ⟨others, behind, rfl, rfl, ts, hd, rfl⟩⟩
    · exact ⟨_, .last hc, by simp⟩
    · exact ⟨_, .more hc hd, by simp⟩

/-- The columns go on to the parenthesis that closes them. -/
theorem reads_columns : columns.Reads fun found => Declared found.1 found.2 := by
  intro tokens found rest
  change runColumns tokens = _ ↔ _
  fun_induction runColumns tokens generalizing found rest with
  | case1 tokens hprimary =>
    rw [declared_primary hprimary, map_eq_ok]
    constructor
    · rintro ⟨⟨key, left⟩, hk, h⟩
      cases h
      exact ⟨rfl, hk⟩
    · rintro ⟨hnil, hk⟩
      exact ⟨_, hk, by rw [← hnil]⟩
  | case2 tokens hprimary fault hc =>
    rw [declared_column hprimary, hc]
    constructor
    · intro h
      cases h
    · rintro ⟨_, _, h, _⟩
      cases h
  | case3 tokens hprimary column left hc =>
    rw [declared_column hprimary, hc]
    constructor
    · intro h
      cases h
      exact ⟨column, _, rfl, Or.inl ⟨rfl, rfl, rfl⟩⟩
    · rintro ⟨_, _, h, ⟨hcolumns, hkey, heq⟩ | ⟨_, _, _, heq, _⟩⟩ <;> cases h <;> cases heq
      rw [← hcolumns, ← hkey]
  | case4 tokens hprimary column left hc ih =>
    rw [declared_column hprimary, hc, map_eq_ok]
    constructor
    · rintro ⟨⟨⟨others, key⟩, last⟩, hn, h⟩
      cases h
      exact ⟨column, _, rfl, Or.inr ⟨others, left, rfl, rfl, (ih _ _).mp hn⟩⟩
    · rintro ⟨_, _, h, ⟨_, _, heq⟩ | ⟨others, behind, hcolumns, heq, hd⟩⟩ <;> cases h <;> cases heq
      exact ⟨((others, found.2), rest), (ih _ _).mpr hd, by simp [← hcolumns]⟩
  | case5 tokens hprimary column left hparen hcomma hc =>
    rw [declared_column hprimary, hc]
    constructor
    · intro h
      cases h
    · rintro ⟨_, _, h, ⟨_, _, heq⟩ | ⟨_, _, _, heq, _⟩⟩ <;> cases h
      · exact absurd heq (hparen _)
      · exact absurd heq (hcomma _)

/-- The names of columns, if they are given, stand before VALUES. -/
theorem run_targets_eq_ok {columns : Option (List String)}
    (hrest : rest.head? = some (.keyword .values)) :
    (if tokens.headD .stop = .symbol .leftParen then some <$> nameList
      else pure none : Reader (Option (List String))).run tokens = .ok (columns, rest) ↔
      ∃ ts, Targets columns ts ∧ tokens = ts ++ rest := by
  constructor
  · intro h
    split at h
    · obtain ⟨columns, hnames, rfl⟩ := run_map_eq_ok.mp h
      obtain ⟨ts, hnamed, rfl⟩ := (reads_nameList _ _ _).mp hnames
      exact ⟨ts, .some hnamed, rfl⟩
    · obtain ⟨rfl, rfl⟩ := run_pure_eq_ok.mp h
      exact ⟨[], .all, rfl⟩
  · rintro ⟨ts, h, rfl⟩
    cases h with
    | all =>
      obtain ⟨left, rfl⟩ := List.head?_eq_some_iff.mp hrest
      simp [run_pure_eq_ok]
    | @some names ts hnamed =>
      have hrun := (reads_nameList _ names rest).mpr ⟨ts, hnamed, rfl⟩
      obtain ⟨inner, -, rfl⟩ := hnamed
      simpa [run_map_eq_ok] using hrun

/-- What a statement may leave unread: nothing, or the semicolon and what follows it. -/
def Closed (rest : List Token) : Prop :=
  ∀ t ∈ rest.head?, t = .symbol .semicolon

theorem Closed.head?_ne (h : Closed rest) {t : Token} (ht : t ≠ .symbol .semicolon) :
    rest.head? ≠ some t :=
  fun heq => ht (h t heq)

/-- The reader takes what spells its result, and takes it where a statement may end. -/
def ReadsLast (r : Reader α) (S : α → List Token → Prop) : Prop :=
  ∀ tokens a rest, Closed rest →
    (r.run tokens = .ok (a, rest) ↔ ∃ ts, S a ts ∧ tokens = ts ++ rest)

theorem reads_predicate (alternative : Bool) :
    (predicate alternative).Reads fun p ts => p.alternative = alternative ∧ p.Spelling ts := by
  intro tokens p rest
  unfold predicate
  simp only [run_bind_eq_ok, run_pure_eq_ok, run_accept_eq_ok, run_identifier_eq_ok,
    run_comparator_eq_ok, reads_literal _ _ _, ne_eq, reduceCtorEq, not_false_eq_true]
  constructor
  · rintro ⟨negated, _, hnot, column, _, rfl, c, _, rfl, l, _, ⟨ls, hl, rfl⟩, rfl, rfl⟩
    rcases hnot with ⟨rfl, rfl⟩ | ⟨rfl, rfl, -⟩
    · exact ⟨_, ⟨rfl, .negated hl⟩, rfl⟩
    · exact ⟨_, ⟨rfl, .plain hl⟩, rfl⟩
  · rintro ⟨_, ⟨rfl, h⟩, rfl⟩
    cases h with
    | @plain _ column c l ls hl =>
      exact ⟨false, _, Or.inr ⟨rfl, rfl, by simp⟩, column, _, rfl, c, _, rfl, l, _,
        ⟨ls, hl, rfl⟩, rfl, rfl⟩
    | @negated _ column c l ls hl =>
      exact ⟨true, _, Or.inl ⟨rfl, rfl⟩, column, _, rfl, c, _, rfl, l, _, ⟨ls, hl, rfl⟩, rfl, rfl⟩

theorem connective_eq_some {t : Token} {alternative : Bool} :
    connective t = some alternative ↔ t = .keyword (if alternative then .or else .and) := by
  constructor
  · intro h
    unfold connective at h
    split at h <;> cases h <;> rfl
  · rintro rfl
    cases alternative <;> rfl

theorem readsLast_filter : ReadsLast filter Filter.Spelling := by
  intro tokens found rest hrest
  have hstop : ∀ t ∈ rest.head?, connective t = none := by
    intro t ht
    rw [hrest t ht]
    rfl
  have hchain : ∀ left ps, (chain predicate connective false).run left = .ok (ps, rest) ↔
      ∃ ts, Linked _ _ false ps ts ∧ left = ts ++ rest := fun left ps => by
    rw [run_chain_eq_ok reads_predicate fun t b => connective_eq_some, and_iff_left hstop]
  unfold filter
  simp only [run_bind_eq_ok, run_accept_eq_ok, ne_eq, reduceCtorEq, not_false_eq_true]
  constructor
  · rintro ⟨_, _, ⟨rfl, rfl⟩ | ⟨rfl, rfl, -⟩, h⟩
    · obtain ⟨ps, hps, rfl⟩ := run_map_eq_ok.mp h
      obtain ⟨ts, hlinked, rfl⟩ := (hchain _ _).mp hps
      exact ⟨_, .some hlinked, rfl⟩
    · obtain ⟨rfl, rfl⟩ := run_pure_eq_ok.mp h
      exact ⟨[], .all, rfl⟩
  · rintro ⟨ts, h, rfl⟩
    cases h with
    | all =>
      exact ⟨false, _, Or.inr ⟨rfl, rfl, hrest.head?_ne (by simp)⟩, run_pure_eq_ok.mpr ⟨rfl, rfl⟩⟩
    | some hlinked =>
      exact ⟨true, _, Or.inl ⟨rfl, rfl⟩,
        run_map_eq_ok.mpr ⟨_, (hchain _ _).mpr ⟨_, hlinked, rfl⟩, rfl⟩⟩

theorem run_qualifiedColumn_eq_ok {q : QualifiedColumn} :
    qualifiedColumn.run tokens = .ok (q, rest) ↔ tokens = q.tokens ++ rest := by
  unfold qualifiedColumn
  simp only [run_bind_eq_ok, run_pure_eq_ok, run_expect_eq_ok, run_identifier_eq_ok, ne_eq,
    reduceCtorEq, not_false_eq_true]
  constructor
  · rintro ⟨table, _, rfl, _, _, rfl, column, _, rfl, rfl, rfl⟩
    rfl
  · rintro rfl
    exact ⟨q.table, _, rfl, (), _, rfl, q.column, _, rfl, rfl, rfl⟩

/-- The word JOIN itself is left to the clause. -/
theorem run_joinKind_eq_some {kind : JoinKind} :
    joinKind.run tokens = .ok (some kind, .keyword .join :: rest) ↔
      ∃ ks, kind.Spelling ks ∧ tokens = ks ++ rest := by
  unfold joinKind
  simp only [run_bind_eq_ok, run_peek_eq_ok]
  constructor
  · rintro ⟨_, _, ⟨rfl, rfl⟩, h⟩
    cases tokens with
    | nil => cases h
    | cons t ts =>
      rw [List.headD_cons] at h
      split at h <;> cases h
      · exact ⟨_, .bare, rfl⟩
      · exact ⟨_, .inner, rfl⟩
      · exact ⟨_, .left, rfl⟩
      · exact ⟨_, .right, rfl⟩
  · rintro ⟨ks, h, rfl⟩
    cases h <;> exact ⟨_, _, ⟨rfl, rfl⟩, rfl⟩

theorem run_joinKind_eq_none (h : joinKind.run tokens = .ok (none, rest)) : tokens = rest := by
  unfold joinKind at h
  simp only [run_bind_eq_ok, run_peek_eq_ok] at h
  obtain ⟨_, _, ⟨rfl, rfl⟩, h⟩ := h
  split at h <;> cases h
  rfl

/-- What may follow the place of a join does not begin one. -/
theorem Closed.run_joinKind {f : Filter} {fs : List Token} (h : Closed rest)
    (hf : f.Spelling fs) : joinKind.run (fs ++ rest) = .ok (none, fs ++ rest) := by
  cases hf with
  | all =>
    cases rest with
    | nil => rfl
    | cons t rest =>
      obtain rfl := h t rfl
      rfl
  | some => rfl

theorem run_joinClause_eq_ok {clause : Option JoinClause}
    (hrest : joinKind.run rest = .ok (none, rest)) :
    joinClause.run tokens = .ok (clause, rest) ↔
      ∃ js, JoinClause.Spelling clause js ∧ tokens = js ++ rest := by
  unfold joinClause
  rw [run_bind_eq_ok]
  constructor
  · rintro ⟨_ | kind, left, hkind, h⟩
    · obtain ⟨rfl, rfl⟩ := run_pure_eq_ok.mp h
      exact ⟨[], .none, run_joinKind_eq_none hkind⟩
    · simp only [run_bind_eq_ok, run_pure_eq_ok, run_expect_eq_ok, run_identifier_eq_ok,
        run_qualifiedColumn_eq_ok, ne_eq, reduceCtorEq, not_false_eq_true] at h
      obtain ⟨_, _, rfl, table, _, rfl, _, _, rfl, first, _, rfl, _, _, rfl, second, _, rfl,
        rfl, rfl⟩ := h
      obtain ⟨ks, hk, rfl⟩ := run_joinKind_eq_some.mp hkind
      exact ⟨_, .some hk, by simp⟩
  · rintro ⟨_, h, rfl⟩
    cases h with
    | none => exact ⟨none, rest, hrest, run_pure_eq_ok.mpr ⟨rfl, rfl⟩⟩
    | @some kind table first second ks hk =>
      refine ⟨some kind, .keyword .join :: .ident table :: .keyword .on :: (first.tokens ++
        .symbol .equal :: (second.tokens ++ rest)), ?_, ?_⟩
      · exact run_joinKind_eq_some.mpr ⟨ks, hk, by simp⟩
      · simp only [run_bind_eq_ok, run_pure_eq_ok, run_expect_eq_ok, run_identifier_eq_ok,
          run_qualifiedColumn_eq_ok, ne_eq, reduceCtorEq, not_false_eq_true]
        exact ⟨(), _, rfl, table, _, rfl, (), _, rfl, first, _, rfl, (), _, rfl, second, rest, rfl,
          rfl, rfl⟩

theorem run_projection_eq_ok {p : Projection} (hrest : rest.head? ≠ some (.symbol .comma)) :
    projection.run tokens = .ok (p, rest) ↔ ∃ ps, p.Spelling ps ∧ tokens = ps ++ rest := by
  unfold projection
  simp only [run_bind_eq_ok, run_accept_eq_ok, ne_eq, reduceCtorEq, not_false_eq_true]
  constructor
  · rintro ⟨_, _, ⟨rfl, rfl⟩ | ⟨rfl, rfl, -⟩, h⟩
    · obtain ⟨rfl, rfl⟩ := run_pure_eq_ok.mp h
      exact ⟨_, .all, rfl⟩
    · obtain ⟨columns, left, hnames, hp⟩ := run_bind_eq_ok.mp h
      obtain ⟨rfl, rfl⟩ := run_pure_eq_ok.mp hp
      obtain ⟨⟨cs, hc, rfl⟩, -⟩ := (run_separated_eq_ok reads_identifier).mp hnames
      exact ⟨cs, .names hc, rfl⟩
  · rintro ⟨ps, h, rfl⟩
    cases h with
    | all => exact ⟨true, _, Or.inl ⟨rfl, rfl⟩, run_pure_eq_ok.mpr ⟨rfl, rfl⟩⟩
    | @names columns ps hc =>
      have hstar : (ps ++ rest).head? ≠ some (.symbol .star) := by
        cases hc with
        | one h => cases h; simp
        | more h => cases h; simp
      exact ⟨false, _, Or.inr ⟨rfl, rfl, hstar⟩, run_bind_eq_ok.mpr ⟨columns, rest,
        (run_separated_eq_ok reads_identifier).mpr ⟨⟨ps, hc, rfl⟩, hrest⟩,
        run_pure_eq_ok.mpr ⟨rfl, rfl⟩⟩⟩

end Grammar

end Tabular
