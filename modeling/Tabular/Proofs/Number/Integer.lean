import Mathlib.Data.Nat.Digits.Defs
import Tabular.Proofs.Token.Written
import Tabular.Typing

namespace Tabular

/-- The last digit counts ones, and each digit ten times as much as the one behind it. -/
def decimal (ds : List Char) : Nat :=
  Nat.ofDigits 10 (ds.reverse.map fun d => d.toNat - '0'.toNat)

/-- The integer that digits denote, with a minus in front of them or without. -/
inductive Denotes : List Char → Int → Prop where
  | plain {ds : List Char} (h : Digits ds) : Denotes ds (decimal ds)
  | minus {ds : List Char} (h : Digits ds) : Denotes ('-' :: ds) (-decimal ds)

theorem decimal_eq (ds : List Char) : decimal ds = Nat.ofDigitChars 10 ds 0 := by
  unfold decimal Nat.ofDigitChars
  rw [Nat.ofDigits_eq_foldr, List.foldr_map, List.foldr_reverse]
  simp only [Nat.cast_id, Nat.add_comm]

namespace Denotes

variable {cs : List Char} {i j : Int}

theorem readInteger (h : Denotes cs i) : readInteger cs = some i := by
  cases h with
  | plain h =>
    rw [h.readInteger, decimal_eq]
    rfl
  | minus h =>
    rw [h.readInteger_minus, decimal_eq]
    rfl

theorem unique (hi : Denotes cs i) (hj : Denotes cs j) : i = j :=
  Option.some.inj (hi.readInteger.symm.trans hj.readInteger)

theorem whole (h : Denotes cs i) : Whole cs := by
  cases h with
  | plain h => exact ⟨_, h, Or.inl rfl⟩
  | minus h => exact ⟨_, h, Or.inr rfl⟩

end Denotes

theorem Whole.exists_denotes {cs : List Char} (h : Whole cs) : ∃ i, Denotes cs i := by
  obtain ⟨ds, hds, rfl | rfl⟩ := h
  · exact ⟨_, .plain hds⟩
  · exact ⟨_, .minus hds⟩

theorem Whole.point_not_mem {cs : List Char} (h : Whole cs) : '.' ∉ cs := by
  obtain ⟨ds, hds, heq⟩ := h
  have hpoint : '.' ∉ ds := fun hm => absurd (hds.digit '.' hm) (by decide)
  rcases heq with rfl | rfl
  · exact hpoint
  · exact fun hm => hpoint (List.mem_of_ne_of_mem (by decide) hm)

theorem readDigits_of_point {cs : List Char} (h : '.' ∈ cs) : readDigits cs = none := by
  have hall : cs.all Char.isDigit = false := List.all_eq_false.mpr ⟨'.', h, by decide⟩
  simp [readDigits, hall]

theorem readInteger_of_point {cs : List Char} (h : '.' ∈ cs) : readInteger cs = none := by
  unfold readInteger
  split
  · rw [readDigits_of_point (List.mem_of_ne_of_mem (by decide) h)]
    rfl
  · rw [readDigits_of_point (List.mem_of_ne_of_mem (by decide) h)]
    rfl
  · rw [readDigits_of_point h]
    rfl

namespace Numeral

variable {cs : List Char}

/-- Of numbers, those without a point denote an integer. -/
theorem whole_of_point (h : Numeral cs) (hpoint : '.' ∉ cs) : Whole cs := by
  refine h.resolve_right ?_
  rintro ⟨whole, part, -, -, rfl⟩
  exact hpoint (by simp)

theorem readInteger_eq_some (h : Numeral cs) {i : Int} :
    readInteger cs = some i ↔ Denotes cs i := by
  refine ⟨fun hread => ?_, Denotes.readInteger⟩
  by_cases hpoint : '.' ∈ cs
  · rw [readInteger_of_point hpoint] at hread
    cases hread
  · obtain ⟨j, hj⟩ := (h.whole_of_point hpoint).exists_denotes
    rw [hj.readInteger] at hread
    cases hread
    exact hj

end Numeral

namespace Value

theorem ofLiteral_int_eq_ok {raw : String} {n : Int32} :
    ofLiteral .int (.bare raw) = .ok (.int n) ↔ readInteger raw.toList = some n.toInt := by
  rw [← readInt32_eq_some]
  unfold ofLiteral ofWord read?
  dsimp only
  cases readInt32 raw.toList with
  | none => exact ⟨nofun, nofun⟩
  | some m => simp

/-- A word that is no integer of 32 bits is refused as a whole. -/
theorem ofLiteral_int_cases (raw : String) :
    (∃ n, ofLiteral .int (.bare raw) = .ok (.int n)) ∨
      ofLiteral .int (.bare raw) = .error (.unreadable raw .int) := by
  unfold ofLiteral ofWord read?
  dsimp only
  cases readInt32 raw.toList with
  | none => exact Or.inr rfl
  | some n => exact Or.inl ⟨n, rfl⟩

end Value

/-- Fields with a space between them are scanned one by one, each as if it stood alone. -/
theorem Token.scan_intercalate {fields : List String} {found : List (List Token)}
    (h : fields.Forall₂ (fun field tokens => scan field = .ok tokens) found) :
    scan (" ".intercalate fields) = .ok found.flatten := by
  have hspace : " ".toList = [' '] := rfl
  unfold scan at h ⊢
  rw [String.toList_intercalate, hspace]
  induction h with
  | nil => rfl
  | @cons field tokens fields found hfirst hrest ih =>
    cases hrest with
    | nil =>
      rw [List.map_singleton, List.intercalate_singleton, List.flatten_singleton]
      exact hfirst
    | cons hnext hothers =>
      rw [List.map_cons, List.map_cons, List.intercalate_cons_cons, List.append_assoc,
        List.singleton_append, Scan.run_append_space hfirst (by decide), ← List.map_cons, ih]
      rfl

theorem Value.scan_render_int (n : Int32) :
    Token.scan (Value.int n).render = .ok [.number (Value.int n).render] := by
  have hspells := (signed_toString_int n.toInt).spells.run
  rwa [String.ofList_toList] at hspells

/-- A number is read as an integer exactly if it has no point and denotes one that fits into 32
bits, and then as that one; and each of these integers is written as a number that is read back as
it, wherever it stands among other fields. -/
theorem Value.integers_exact :
    (∀ (text : String) (tokens : List Token) (raw : String),
      Token.scanStatement text = .ok tokens → .number raw ∈ tokens →
      ('.' ∉ raw.toList → ∃! i, Denotes raw.toList i) ∧
      ((∃ n, ofLiteral .int (.bare raw) = .ok (.int n)) ↔
        '.' ∉ raw.toList ∧ ∃ i, Denotes raw.toList i ∧ -2147483648 ≤ i ∧ i ≤ 2147483647) ∧
      (∀ n, ofLiteral .int (.bare raw) = .ok (.int n) → Denotes raw.toList n.toInt) ∧
      ((∃ n, ofLiteral .int (.bare raw) = .ok (.int n)) ∨
        ofLiteral .int (.bare raw) = .error (.unreadable raw .int))) ∧
    ∀ (n : Int32) (before after : List String) (front behind : List (List Token)),
      before.Forall₂ (fun field tokens => Token.scan field = .ok tokens) front →
      after.Forall₂ (fun field tokens => Token.scan field = .ok tokens) behind →
      Token.scan (" ".intercalate (before ++ (Value.int n).render :: after)) =
          .ok (front.flatten ++ .number (Value.int n).render :: behind.flatten) ∧
        ofLiteral .int (.bare (Value.int n).render) = .ok (.int n) := by
  constructor
  · intro text tokens raw hscan hm
    have hnumeral : Numeral raw.toList := by
      obtain ⟨found, hfound, heq⟩ := bind_eq_ok.mp hscan
      cases heq
      have hmem : .number raw ∈ found := by simpa using hm
      exact Token.wellFormed_of_scan hfound _ hmem
    have hok : ∀ n : Int32, ofLiteral .int (.bare raw) = .ok (.int n) ↔
        Denotes raw.toList n.toInt := by
      intro n
      rw [ofLiteral_int_eq_ok, hnumeral.readInteger_eq_some]
    refine ⟨?_, ?_, fun n => (hok n).mp, ofLiteral_int_cases raw⟩
    · intro hpoint
      obtain ⟨i, hi⟩ := (hnumeral.whole_of_point hpoint).exists_denotes
      exact ⟨i, hi, fun j hj => hj.unique hi⟩
    · simp only [hok]
      constructor
      · rintro ⟨n, hn⟩
        exact ⟨hn.whole.point_not_mem, n.toInt, hn, n.minValue_le_toInt, n.toInt_le⟩
      · rintro ⟨-, i, hi, hmin, hmax⟩
        have hback : (Int32.ofInt i).toInt = i := Int32.toInt_ofInt_of_le hmin (by omega)
        exact ⟨Int32.ofInt i, by rwa [hback]⟩
  · intro n before after front behind hfront hbehind
    constructor
    · have hall := List.rel_append hfront (.cons (scan_render_int n) hbehind)
      rw [Token.scan_intercalate hall, List.flatten_append, List.flatten_cons,
        List.singleton_append]
    · exact ofLiteral_int_eq_ok.mpr (readInteger_toString n.toInt)

/-- The least integer with zeros in front of it, the first past the greatest, and one with a point;
and the least once more between a text and null. -/
theorem Value.integers_exact_bounds :
    Token.scanStatement "-002147483648 2147483648 7." =
        .ok [.number "-002147483648", .number "2147483648", .number "7.", .stop] ∧
      ofLiteral .int (.bare "-002147483648") = .ok (.int Int32.minValue) ∧
      ofLiteral .int (.bare "2147483648") = .error (.unreadable "2147483648" .int) ∧
      ofLiteral .int (.bare "7.") = .error (.unreadable "7." .int) ∧
      Token.scan (" ".intercalate ["'a b'", (Value.int Int32.minValue).render, "NULL"]) =
        .ok [.text "a b", .number (Value.int Int32.minValue).render, .keyword .null] := by
  have hscan : Token.scanStatement "-002147483648 2147483648 7." =
      .ok [.number "-002147483648", .number "2147483648", .number "7.", .stop] := by
    decide +kernel
  have hfilled : Digits "002147483648".toList := ⟨by decide, List.all_eq_true.mp (by decide)⟩
  have hleast : Denotes "-002147483648".toList (-2147483648) := .minus hfilled
  have hdigits : Digits "2147483648".toList := ⟨by decide, List.all_eq_true.mp (by decide)⟩
  have hpast : Denotes "2147483648".toList 2147483648 := .plain hdigits
  refine ⟨hscan, ?_, ?_, ?_, ?_⟩
  · obtain ⟨-, hfits, hdenotes, -⟩ := integers_exact.1 _ _ "-002147483648" hscan (by decide)
    obtain ⟨n, hn⟩ := hfits.mpr ⟨by decide, _, hleast, by decide, by decide⟩
    have hvalue : n = Int32.minValue := Int32.toInt_inj.mp ((hdenotes n hn).unique hleast)
    rw [hn, hvalue]
  · obtain ⟨-, hfits, -, hcases⟩ := integers_exact.1 _ _ "2147483648" hscan (by decide)
    refine hcases.resolve_left fun hn => ?_
    obtain ⟨-, i, hi, -, hmax⟩ := hfits.mp hn
    rw [hi.unique hpast] at hmax
    exact absurd hmax (by decide)
  · obtain ⟨-, hfits, -, hcases⟩ := integers_exact.1 _ _ "7." hscan (by decide)
    exact hcases.resolve_left fun hn => (hfits.mp hn).1 (by decide)
  · exact (integers_exact.2 Int32.minValue ["'a b'"] ["NULL"] [[.text "a b"]] [[.keyword .null]]
      (.cons (by decide +kernel) .nil) (.cons (by decide +kernel) .nil)).1

end Tabular
