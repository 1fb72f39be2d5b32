import Mathlib.Data.List.Perm.Basic
import Tabular.Proofs.Table.Inserts

namespace Tabular

namespace Schema

variable {schema : Schema} {targets : List (Fin schema.length)} {group : List Literal}

/-- A group gives a row if its literals can be read, those too that a later one overwrites. -/
theorem exists_fill_ok : (∃ row, schema.fill targets group = .ok row) ↔
    ∀ p ∈ targets.zip group, ∃ v, Value.ofLiteral (schema.get p.1).kind p.2 = .ok v := by
  unfold fill
  generalize Row.nulls schema.length = start
  generalize targets.zip group = pairs
  induction pairs generalizing start with
  | nil => exact ⟨fun _ => nofun, fun _ => ⟨start, rfl⟩⟩
  | cons pair rest ih =>
    rw [List.forall_mem_cons]
    cases hv : Value.ofLiteral (schema.get pair.1).kind pair.2 with
    | error e =>
      rw [List.foldlM_cons]
      dsimp only
      rw [hv]
      exact ⟨nofun, fun h => nomatch h.1⟩
    | ok v =>
      rw [← ih (start.set pair.1 v), List.foldlM_cons]
      dsimp only
      rw [hv]
      exact ⟨fun h => ⟨⟨v, rfl⟩, h⟩, fun h => h.2⟩

/-- The literals of all groups are of the kinds of their columns. -/
def Converts (schema : Schema) (targets : List (Fin schema.length))
    (groups : List (List Literal)) : Prop :=
  ∀ group ∈ groups, ∀ p ∈ targets.zip group, ∃ v,
    Value.ofLiteral (schema.get p.1).kind p.2 = .ok v

theorem exists_rows {groups : List (List Literal)} :
    (∃ rows, groups.mapM (schema.fill targets) = .ok rows) ↔ schema.Converts targets groups := by
  simp only [exists_mapM_ok, exists_fill_ok, Converts]

end Schema

namespace Sheet

variable {s : Sheet} {fill : List Literal → Except Error Row} {groups order : List (List Literal)}
  {rows more added : List Row} {e : Error} {k n : Nat}

theorem Fresh.perm (h : s.Fresh rows) (hp : rows.Perm more) : s.Fresh more := by
  intro hkey
  obtain ⟨hstored, hothers⟩ := h hkey
  refine ⟨fun row hr => hstored row (hp.mem_iff.mpr hr), ?_⟩
  exact hothers.perm hp fun hab hba => hab hba.symm

theorem Fresh.take (h : s.Fresh rows) (n : Nat) : s.Fresh (rows.take n) := by
  intro hkey
  obtain ⟨hstored, hothers⟩ := h hkey
  exact ⟨fun row hr => hstored row (List.mem_of_mem_take hr),
    hothers.sublist (List.take_sublist n rows)⟩

/-- Rows are fresh if each of them can follow those before it. -/
theorem fresh_iff : s.Fresh rows ↔
    ∀ n row, rows[n]? = some row → ¬ (s.extend (rows.take n)).Repeats row := by
  induction rows generalizing s with
  | nil => exact ⟨fun _ _ _ => nofun, fun _ => s.fresh_nil⟩
  | cons first rest ih =>
    rw [fresh_cons, ih]
    simp only [extend_extend]
    constructor
    · rintro ⟨hfirst, hrest⟩ n row hr
      cases n with
      | zero =>
        obtain rfl : first = row := Option.some.inj hr
        rwa [List.take_zero, extend_nil]
      | succ n => exact hrest n row hr
    · intro h
      refine ⟨?_, fun n row hr => h (n + 1) row hr⟩
      have hfirst := h 0 first rfl
      rwa [List.take_zero, extend_nil] at hfirst

theorem Accepts.take (h : s.Accepts fill groups rows) (n : Nat) :
    s.Accepts fill (groups.take n) (rows.take n) :=
  ⟨mapM_eq_ok.mpr (List.forall₂_take n (mapM_eq_ok.mp h.filled)), h.fresh.take n⟩

/-- In another order the same rows go in, in that order. -/
theorem Accepts.perm (h : s.Accepts fill groups rows) (hp : order.Perm groups) :
    ∃ more, more.Perm rows ∧ s.Accepts fill order more := by
  obtain ⟨more, hmore, hperm⟩ := List.perm_comp_forall₂ hp (mapM_eq_ok.mp h.filled)
  exact ⟨more, hperm, mapM_eq_ok.mpr hmore, h.fresh.perm hperm.symm⟩

theorem FirstRejection.accepts (h : s.FirstRejection fill groups k added e) :
    s.Accepts fill (groups.take k) added := by
  refine ⟨h.filled, fresh_iff.mpr fun n row hr => h.earlier n ?_ row hr⟩
  have hlength := (mapM_eq_ok.mp h.filled).length_eq
  have hn : n < added.length := (List.getElem?_eq_some_iff.mp hr).1
  have hk : (groups.take k).length ≤ k := List.length_take_le k groups
  omega

/-- The group that is rejected cannot be taken with those before it. -/
theorem FirstRejection.not_accepts (h : s.FirstRejection fill groups k added e) :
    ¬ s.Accepts fill (groups.take (k + 1)) rows := by
  intro haccepts
  obtain ⟨group, hgroup, hrejects⟩ := h.rejected
  have hsplit : groups.take (k + 1) = groups.take k ++ [group] := by
    rw [List.take_add_one, hgroup]
    rfl
  have hfilled := haccepts.filled
  rw [hsplit, List.mapM_append] at hfilled
  obtain ⟨front, hfront, hlast⟩ := bind_eq_ok.mp hfilled
  obtain ⟨last, hlast, hrows⟩ := bind_eq_ok.mp hlast
  obtain ⟨row, others, hrow, hothers, rfl⟩ := mapM_cons_eq_ok.mp hlast
  cases hothers
  cases hrows
  obtain rfl : added = front := Except.ok.inj (h.filled.symm.trans hfront)
  rcases hrejects with hfill | ⟨repeated, hfill, hrepeats, -⟩
  · rw [hfill] at hrow
    cases hrow
  · obtain rfl : repeated = row := Except.ok.inj (hfill.symm.trans hrow)
    have hfree := fresh_iff.mp haccepts.fresh added.length repeated (by simp)
    rw [List.take_left] at hfree
    exact hfree hrepeats

/-- What goes in before the first rejection is the longest run that can be taken. -/
theorem FirstRejection.longest (h : s.FirstRejection fill groups k added e) :
    (∃ rows, s.Accepts fill (groups.take n) rows) ↔ n ≤ k := by
  constructor
  · rintro ⟨rows, haccepts⟩
    by_contra hlt
    have hnext := haccepts.take (k + 1)
    rw [List.take_take, Nat.min_eq_left (by omega)] at hnext
    exact h.not_accepts hnext
  · intro hn
    have hpart := h.accepts.take n
    rw [List.take_take, Nat.min_eq_left hn] at hpart
    exact ⟨_, hpart⟩

theorem FirstRejection.not_accepts_all (h : s.FirstRejection fill groups k added e) :
    ¬ s.Accepts fill groups rows := fun haccepts => h.not_accepts (haccepts.take (k + 1))

/-- A rejection is for a literal that cannot be read or for a key that is taken. -/
theorem Rejects.reason {t : Table} {targets : List (Fin t.schema.length)} {group : List Literal}
    (h : s.Rejects (t.schema.fill targets group) e) :
    (∃ word kind, e = .unreadable word kind) ∨ ∃ name key, e = .duplicateKey name key := by
  rcases h with hfill | ⟨row, -, -, rfl⟩
  · exact Or.inl (Schema.unreadable_of_fill hfill)
  · exact Or.inr ⟨_, _, rfl⟩

end Sheet

end Tabular
