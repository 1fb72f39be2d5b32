namespace Tabular.Unicode

/-- A run of code points, both ends included. -/
abbrev Run := Nat × Nat

def within (runs : List Run) (c : Char) : Bool :=
  runs.any fun run => run.1 ≤ c.toNat && c.toNat ≤ run.2

theorem within_iff {runs : List Run} {c : Char} :
    within runs c = true ↔ ∃ run ∈ runs, run.1 ≤ c.toNat ∧ c.toNat ≤ run.2 := by
  simp [within]

end Tabular.Unicode
