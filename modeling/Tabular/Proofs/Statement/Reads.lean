import Tabular.Proofs.Result
import Tabular.Proofs.Statement.Spelling
import Tabular.Token.Reader

namespace Tabular

namespace Reader

variable {tokens rest : List Token}

theorem run_pure_eq_ok {a b : α} :
    (pure a : Reader α).run tokens = .ok (b, rest) ↔ a = b ∧ tokens = rest := by
  rw [run_pure]
  simp

theorem run_bind_eq_ok {r : Reader α} {f : α → Reader β} {b : β} :
    (r >>= f).run tokens = .ok (b, rest) ↔
      ∃ a left, r.run tokens = .ok (a, left) ∧ (f a).run left = .ok (b, rest) := by
  rw [run_bind]
  cases r.run tokens with
  | error fault => simp
  | ok found => simp [Prod.ext_iff]

theorem run_map_eq_ok {r : Reader α} {f : α → β} {b : β} :
    (f <$> r).run tokens = .ok (b, rest) ↔ ∃ a, r.run tokens = .ok (a, rest) ∧ f a = b := by
  change (r >>= fun a => pure (f a)).run tokens = _ ↔ _
  rw [run_bind_eq_ok]
  simp [run_pure_eq_ok]

theorem run_fail_eq_ok {fault : SyntaxFault} {a : α} :
    (fail fault : Reader α).run tokens = .ok (a, rest) ↔ False :=
  ⟨nofun, nofun⟩

theorem run_failExpecting_eq_ok {expectation : Expectation} {a : α} :
    (failExpecting expectation : Reader α).run tokens = .ok (a, rest) ↔ False :=
  ⟨nofun, nofun⟩

theorem run_peek_eq_ok {t : Token} :
    peek.run tokens = .ok (t, rest) ↔ tokens.headD .stop = t ∧ tokens = rest := by
  simp [peek]

theorem run_skip_eq_ok {u : Unit} : skip.run tokens = .ok (u, rest) ↔ tokens.tail = rest := by
  simp [skip]

/-- A token is taken if it comes next, and otherwise everything stays. -/
theorem run_accept_eq_ok {token : Token} (h : token ≠ .stop) {b : Bool} :
    (accept token).run tokens = .ok (b, rest) ↔
      b = true ∧ tokens = token :: rest ∨
        b = false ∧ tokens = rest ∧ rest.head? ≠ some token := by
  unfold accept
  simp only [run_bind_eq_ok, run_peek_eq_ok]
  cases tokens with
  | nil =>
    simp [h.symm, run_pure_eq_ok]
    rintro rfl rfl
    simp
  | cons t ts =>
    by_cases ht : t = token
    · simp [ht, run_bind_eq_ok, run_pure_eq_ok, run_skip_eq_ok]
      rintro - rfl hne
      exact absurd rfl hne
    · simp [ht, run_pure_eq_ok]
      rintro rfl rfl
      simpa using ht

theorem run_expect_eq_ok {token : Token} (h : token ≠ .stop) {u : Unit} :
    (expect token).run tokens = .ok (u, rest) ↔ tokens = token :: rest := by
  unfold expect
  rw [run_bind_eq_ok]
  simp [run_accept_eq_ok h, run_pure_eq_ok, run_failExpecting_eq_ok]

/-- The reader takes what spells its result, and takes it whatever follows. -/
def Reads (r : Reader α) (S : α → List Token → Prop) : Prop :=
  ∀ tokens a rest, r.run tokens = .ok (a, rest) ↔ ∃ ts, S a ts ∧ tokens = ts ++ rest

section Chain

variable {item : β → Reader α} {more : Token → Option β} {S : β → α → List Token → Prop}
  {link : β → Token}

/-- The first of linked items is read, and then a token with the others behind it, or nothing. -/
theorem linked_iff (hitem : ∀ b, (item b).Reads (S b)) {b : β} {as : List α} :
    (∃ ts, Linked S link b as ts ∧ tokens = ts ++ rest) ↔
      ∃ a left, (item b).run tokens = .ok (a, left) ∧
        (as = [a] ∧ left = rest ∨
          ∃ b' others behind, as = a :: others ∧ left = link b' :: behind ∧
            ∃ ts, Linked S link b' others ts ∧ behind = ts ++ rest) := by
  constructor
  · rintro ⟨ts, hlinked, rfl⟩
    cases hlinked with
    | @one _ a _ h => exact ⟨a, rest, (hitem b _ _ _).mpr ⟨ts, h, rfl⟩, Or.inl ⟨rfl, rfl⟩⟩
    | @more _ b' a others first behind h hrest =>
      refine ⟨a, link b' :: (behind ++ rest), (hitem b _ _ _).mpr ⟨first, h, by simp⟩, Or.inr ?_⟩
      exact ⟨b', others, behind ++ rest, rfl, rfl, behind, hrest, rfl⟩
  · rintro ⟨a, left, hrun, ⟨rfl, rfl⟩ | ⟨b', others, behind, rfl, rfl, ts, hlinked, rfl⟩⟩
    · obtain ⟨first, h, rfl⟩ := (hitem b _ _ _).mp hrun
      exact ⟨first, .one h, rfl⟩
    · obtain ⟨first, h, rfl⟩ := (hitem b _ _ _).mp hrun
      exact ⟨_, .more h hlinked, by simp⟩

theorem run_chain_eq_ok (hitem : ∀ b, (item b).Reads (S b))
    (hlink : ∀ t b, more t = some b ↔ t = link b) {b : β} {as : List α} :
    (chain item more b).run tokens = .ok (as, rest) ↔
      (∃ ts, Linked S link b as ts ∧ tokens = ts ++ rest) ∧
        ∀ t ∈ rest.head?, more t = none := by
  change runChain item more b tokens = _ ↔ _
  have hshown : ∀ b, more (link b) = some b := fun b => (hlink _ b).mpr rfl
  fun_induction runChain item more b tokens generalizing as rest with
  | case1 b tokens fault hr =>
    rw [linked_iff hitem]
    simp [hr]
  | case2 b tokens a hr =>
    rw [linked_iff hitem]
    simp only [hr, Except.ok.injEq, Prod.mk.injEq]
    constructor
    · rintro ⟨rfl, rfl⟩
      exact ⟨⟨a, [], ⟨rfl, rfl⟩, Or.inl ⟨rfl, rfl⟩⟩, fun t ht => absurd ht (Option.not_mem_none t)⟩
    · rintro ⟨⟨_, _, ⟨rfl, rfl⟩, ⟨rfl, rfl⟩ | ⟨_, _, _, -, hnil, -⟩⟩, -⟩
      · exact ⟨rfl, rfl⟩
      · cases hnil
  | case3 b tokens a token left hr hm =>
    rw [linked_iff hitem]
    simp only [hr, Except.ok.injEq, Prod.mk.injEq]
    constructor
    · rintro ⟨rfl, rfl⟩
      exact ⟨⟨a, _, ⟨rfl, rfl⟩, Or.inl ⟨rfl, rfl⟩⟩, by simpa using hm⟩
    · rintro ⟨⟨_, _, ⟨rfl, rfl⟩, ⟨rfl, rfl⟩ | ⟨b', _, _, -, heq, -⟩⟩, -⟩
      · exact ⟨rfl, rfl⟩
      · rw [(List.cons.inj heq).1, hshown] at hm
        cases hm
  | case4 b tokens a token left hr b' hm ih =>
    rw [linked_iff hitem, map_eq_ok]
    simp only [hr, Except.ok.injEq, Prod.mk.injEq]
    constructor
    · rintro ⟨⟨others, last⟩, hn, rfl, rfl⟩
      obtain ⟨hothers, hstop⟩ := ih.mp hn
      have htoken := (hlink token b').mp hm
      exact ⟨⟨a, _, ⟨rfl, rfl⟩, Or.inr ⟨b', others, left, rfl, by rw [htoken], hothers⟩⟩, hstop⟩
    · rintro ⟨⟨_, _, ⟨rfl, rfl⟩, ⟨rfl, rfl⟩ | ⟨b'', others, behind, rfl, heq, hothers⟩⟩, hstop⟩
      · have hnone := hstop token rfl
        rw [hm] at hnone
        cases hnone
      · obtain ⟨rfl, rfl⟩ := List.cons.inj heq
        rw [hshown, Option.some.injEq] at hm
        subst hm
        exact ⟨(others, rest), ih.mpr ⟨hothers, hstop⟩, rfl, rfl⟩

end Chain

theorem run_separated_eq_ok {item : Reader α} {S : α → List Token → Prop} (hitem : item.Reads S)
    {as : List α} :
    (separated item).run tokens = .ok (as, rest) ↔
      (∃ ts, Commas S as ts ∧ tokens = ts ++ rest) ∧ rest.head? ≠ some (.symbol .comma) := by
  have hlink : ∀ (t : Token) (b : Unit),
      (if t = .symbol .comma then some () else none) = some b ↔ t = .symbol .comma := by simp
  unfold separated
  rw [run_chain_eq_ok (fun _ => hitem) hlink]
  cases rest <;> simp

/-- What stands between parentheses ends before the closing one. -/
theorem reads_enclosed {item : Reader α} {S : α → List Token → Prop} (hitem : item.Reads S) :
    Reader.Reads (do
      expect (.symbol .leftParen)
      let found ← separated item
      expect (.symbol .rightParen)
      return found) (Enclosed S) := by
  intro tokens found rest
  simp [run_bind_eq_ok, run_pure_eq_ok, run_expect_eq_ok, run_separated_eq_ok hitem, Enclosed,
    and_comm]

end Reader

end Tabular
