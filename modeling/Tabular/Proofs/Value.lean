import Mathlib.Data.List.Lex
import Mathlib.Data.String.Basic
import Mathlib.Order.Monotone.Basic
import Tabular.Value

namespace Tabular

namespace Format

variable {f : Format}

theorem units_of_lt {m : Nat} (h : m < Nat.pow 2 f.fraction) : f.units m = m :=
  if_pos h

theorem units_add_mul {r : Nat} (h : r < Nat.pow 2 f.fraction) (q : Nat) :
    f.units (r + Nat.pow 2 f.fraction * (q + 1)) = (Nat.pow 2 f.fraction + r) * 2 ^ q := by
  have hpos : 0 < Nat.pow 2 f.fraction := Nat.zero_lt_of_lt h
  have hlarge : ¬ r + Nat.pow 2 f.fraction * (q + 1) < Nat.pow 2 f.fraction := by
    rw [Nat.mul_succ]
    omega
  unfold units
  dsimp only
  rw [if_neg hlarge, Nat.add_mul_mod_self_left, Nat.add_mul_div_left _ _ hpos, Nat.mod_eq_of_lt h,
    Nat.div_eq_of_lt h, Nat.zero_add, Nat.add_sub_cancel]
  rfl

theorem units_zero (f : Format) : f.units 0 = 0 :=
  units_of_lt (Nat.pow_pos Nat.two_pos)

/-- The next magnitude is more units, also where the exponent grows. -/
theorem units_lt_succ (f : Format) (m : Nat) : f.units m < f.units (m + 1) := by
  have hpos : 0 < Nat.pow 2 f.fraction := Nat.pow_pos Nat.two_pos
  by_cases hm : m < Nat.pow 2 f.fraction
  · rw [units_of_lt hm]
    rcases Nat.lt_or_eq_of_le hm with hnext | hnext
    · rw [units_of_lt hnext]
      exact Nat.lt_succ_self m
    · have hfirst := units_add_mul hpos 0
      rw [Nat.zero_add, Nat.mul_one, Nat.add_zero, Nat.pow_zero, Nat.mul_one] at hfirst
      rw [show m + 1 = Nat.pow 2 f.fraction from hnext, hfirst]
      exact hm
  · obtain ⟨q, r, hr, rfl⟩ : ∃ q r, r < Nat.pow 2 f.fraction ∧
        m = r + Nat.pow 2 f.fraction * (q + 1) := by
      have hquotient : 0 < m / Nat.pow 2 f.fraction := Nat.div_pos (Nat.le_of_not_lt hm) hpos
      refine ⟨m / Nat.pow 2 f.fraction - 1, m % Nat.pow 2 f.fraction, Nat.mod_lt m hpos, ?_⟩
      rw [Nat.sub_add_cancel hquotient]
      exact (Nat.mod_add_div m _).symm
    rw [units_add_mul hr]
    rcases Nat.lt_or_eq_of_le hr with hnext | hnext
    · rw [Nat.add_right_comm, units_add_mul hnext]
      exact Nat.mul_lt_mul_of_pos_right (by omega) (Nat.pow_pos Nat.two_pos)
    · have hcarry : r + Nat.pow 2 f.fraction * (q + 1) + 1 =
          0 + Nat.pow 2 f.fraction * (q + 1 + 1) := by
        rw [Nat.mul_succ _ (q + 1)]
        omega
      rw [hcarry, units_add_mul hpos, Nat.add_zero, Nat.pow_succ, ← Nat.mul_assoc,
        Nat.mul_right_comm]
      exact Nat.mul_lt_mul_of_pos_right (by omega) (Nat.pow_pos Nat.two_pos)

theorem strictMono_units (f : Format) : StrictMono f.units :=
  strictMono_nat_of_lt_succ f.units_lt_succ

end Format

namespace Binary
open rank (signed)

variable {f : Format}

/-- A finite number, in units of the least positive one. -/
def number : Binary f → Int
  | .finite negative magnitude => signed negative (f.units magnitude)
  | _ => 0

/-- Numbers with a sign keep their order where those without one do. -/
theorem signed_compares {u : Nat → Nat} (hu : StrictMono u) (hzero : u 0 = 0) {o : Ordering}
    {p q : Bool} {m n : Nat} :
    o.Compares (signed p (u m)) (signed q (u n)) ↔ o.Compares (signed p m) (signed q n) := by
  have hlt := hu.lt_iff_lt (a := m) (b := n)
  have hgt := hu.lt_iff_lt (a := n) (b := m)
  have hm := hu.lt_iff_lt (a := 0) (b := m)
  have hn := hu.lt_iff_lt (a := 0) (b := n)
  rw [hzero] at hm hn
  cases o <;> cases p <;> cases q <;>
    simp only [Ordering.Compares, signed, ↓reduceIte, Bool.false_eq_true] <;> omega

end Binary

namespace Value

variable {a b c : Value}

theorem order_swap (a b : Value) : b.order a = (a.order b).map Ordering.swap := by
  have hranks : ∀ p q : Option Int, order.ranks q p = (order.ranks p q).map Ordering.swap := by
    intro p q
    cases p <;> cases q <;> try rfl
    exact congrArg some Std.OrientedCmp.eq_swap
  cases a <;> cases b <;> try rfl
  case int.int => exact congrArg some Std.OrientedCmp.eq_swap
  case float.float => exact hranks _ _
  case double.double => exact hranks _ _
  case bool.bool => exact congrArg some Std.OrientedCmp.eq_swap
  case text.text => exact congrArg some Std.OrientedCmp.eq_swap

theorem same_comm (a b : Value) : a.same b = b.same a := by
  unfold same
  rw [order_swap a b, Bool.and_comm]
  congr 1
  rcases a.order b with _ | _ | _ | _ <;> rfl

/-- The place of a value among those of its kind, which is one number or, for a text, one for each
of its characters. -/
def mark : Value → List Int
  | .null => []
  | .int i => [i.toInt]
  | .float x => [x.number]
  | .double x => [x.number]
  | .bool b => [b.toNat]
  | .text s => s.toList.map fun c => (c.toNat : Int)

theorem compare_compares [LinearOrder α] (i j : α) : (Ord.compare i j).Compares i j := by
  rw [← cmp_eq_compare]
  exact cmp_compares i j

theorem compares_singleton {o : Ordering} {i j : Int} : o.Compares [i] [j] ↔ o.Compares i j := by
  have hmono : StrictMono fun i : Int => [i] :=
    fun _ _ h => List.cons_lt_cons_iff.mpr (Or.inl h)
  exact hmono.compares

theorem exists_ranks {f : Format} {x y : Binary f} (hx : x.isFinite = true)
    (hy : y.isFinite = true) :
    ∃ o, order.ranks x.rank y.rank = some o ∧ o.Compares [x.number] [y.number] := by
  cases x with
  | finite p m =>
    cases y with
    | finite q n =>
      exact ⟨_, rfl, compares_singleton.mpr ((Binary.signed_compares f.strictMono_units
        (Format.units_zero f)).mpr (compare_compares _ _))⟩
    | _ => cases hy
  | _ => cases hx

theorem map_strictMono [LinearOrder α] [LinearOrder β] {f : α → β} (hf : StrictMono f) :
    StrictMono (List.map f) := by
  intro l
  induction l with
  | nil =>
    intro l' h
    cases l' with
    | nil => exact absurd h (List.not_lt_nil _)
    | cons d l' => exact List.nil_lt_cons _ _
  | cons c l ih =>
    intro l' h
    cases l' with
    | nil => exact absurd h (List.not_lt_nil _)
    | cons d l' =>
      rw [List.map_cons, List.map_cons, List.cons_lt_cons_iff]
      rcases List.cons_lt_cons_iff.mp h with hfirst | ⟨rfl, hrest⟩
      · exact Or.inl (hf hfirst)
      · exact Or.inr ⟨rfl, ih hrest⟩

theorem compares_text (s t : String) : (Ord.compare s t).Compares (text s).mark (text t).mark := by
  have hmono : StrictMono fun s : String => s.toList.map fun c => (c.toNat : Int) := by
    intro s t h
    refine map_strictMono (fun c d h => ?_) (String.lt_iff_toList_lt.mp h)
    exact Int.ofNat_lt.mpr h
  exact hmono.compares.mpr (compare_compares s t)

/-- Finite values of one kind are ordered as their marks are. -/
theorem exists_order (ha : a.isFinite = true) (hb : b.isFinite = true) {kind : Kind}
    (hak : a.kind? = some kind) (hbk : b.kind? = some kind) :
    ∃ o, a.order b = some o ∧ o.Compares a.mark b.mark := by
  have hk : a.kind? = b.kind? := hak.trans hbk.symm
  cases a <;> cases b <;> try cases hk
  case null.null => cases hak
  case int.int => exact ⟨_, rfl, compares_singleton.mpr (compare_compares _ _)⟩
  case float.float => exact exists_ranks ha hb
  case double.double => exact exists_ranks ha hb
  case bool.bool p q =>
    have hmono : StrictMono fun n : Nat => (n : Int) := fun _ _ h => Int.ofNat_lt.mpr h
    exact ⟨_, rfl, compares_singleton.mpr (hmono.compares.mpr (compare_compares _ _))⟩
  case text.text s t => exact ⟨_, rfl, compares_text s t⟩

/-- Values of different kinds are in no order, and null is in none with any value. -/
theorem order_eq_none (h : a.isNull = true ∨ b.isNull = true ∨ a.kind? ≠ b.kind?) :
    a.order b = none := by
  cases a <;> cases b <;> first | rfl | simp [isNull, kind?] at h

theorem mark_text_lt_iff {s t : String} :
    (text s).mark < (text t).mark ↔ s.toList.map Char.toNat < t.toList.map Char.toNat := by
  have hmono : StrictMono fun n : Nat => (n : Int) := fun _ _ h => Int.ofNat_lt.mpr h
  have hmark : ∀ s : String,
      (text s).mark = (s.toList.map Char.toNat).map fun n : Nat => (n : Int) :=
    fun s => List.map_map.symm
  rw [hmark, hmark]
  exact (map_strictMono hmono).lt_iff_lt

/-- A value is null, or it has a kind. -/
theorem null_or_kind (a : Value) : a = .null ∨ ∃ kind, a.kind? = some kind := by
  cases a <;> simp [kind?]

theorem order_eq_lt_iff (ha : a.isFinite = true) (hb : b.isFinite = true) :
    a.order b = some .lt ↔ a.kind? = b.kind? ∧ a.mark < b.mark := by
  by_cases hk : a.kind? = b.kind?
  · rcases a.null_or_kind with rfl | ⟨kind, hak⟩
    · cases b <;> simp_all [order, kind?, mark]
    · obtain ⟨o, ho, hc⟩ := exists_order ha hb hak (hk.symm.trans hak)
      rw [ho, Option.some.injEq, hc.eq_lt]
      exact (and_iff_right hk).symm
  · rw [order_eq_none (Or.inr (Or.inr hk))]
    simp [hk]

theorem same_iff (ha : a.isFinite = true) (hb : b.isFinite = true) :
    a.same b = true ↔ a.kind? = b.kind? ∧ a.mark = b.mark := by
  unfold same
  by_cases hk : a.kind? = b.kind?
  · rcases a.null_or_kind with rfl | ⟨kind, hak⟩
    · cases b <;> simp_all [order, kind?, mark, isNull]
    · obtain ⟨o, ho, hc⟩ := exists_order ha hb hak (hk.symm.trans hak)
      have hnull : a.isNull = false := by
        rw [isNull, hak]
        rfl
      rw [hnull, Bool.false_and, Bool.false_or, ho, beq_iff_eq, Option.some.injEq, hc.eq_eq]
      exact (and_iff_right hk).symm
  · rw [order_eq_none (Or.inr (Or.inr hk))]
    cases a <;> cases b <;> simp_all [isNull, kind?]

theorem same_self (h : a.isFinite = true) : a.same a = true :=
  (same_iff h h).mpr ⟨rfl, rfl⟩

section Congr

variable {a' b' : Value} (ha : a.isFinite = true) (hb : b.isFinite = true)
  (ha' : a'.isFinite = true) (hb' : b'.isFinite = true) (hsame : a.same a' = true)
  (hsame' : b.same b' = true)

include ha hb ha' hb' hsame hsame'

theorem order_congr : a.order b = a'.order b' := by
  obtain ⟨hkind, hmark⟩ := (same_iff ha ha').mp hsame
  obtain ⟨hkind', hmark'⟩ := (same_iff hb hb').mp hsame'
  by_cases hk : a.kind? = b.kind?
  · cases hak : a.kind? with
    | none =>
      have hnull : a.isNull = true := by rw [isNull, hak, Option.isNone_none]
      have hnull' : a'.isNull = true := by rw [isNull, ← hkind, hak, Option.isNone_none]
      rw [order_eq_none (Or.inl hnull), order_eq_none (Or.inl hnull')]
    | some kind =>
      have hbk : b.kind? = some kind := hk.symm.trans hak
      obtain ⟨o, ho, hc⟩ := exists_order ha hb hak hbk
      obtain ⟨o', ho', hc'⟩ := exists_order ha' hb' (hkind.symm.trans hak) (hkind'.symm.trans hbk)
      rw [hmark, hmark'] at hc
      rw [ho, ho', hc.inj hc']
  · rw [order_eq_none (Or.inr (Or.inr hk)), order_eq_none]
    rw [← hkind, ← hkind']
    exact Or.inr (Or.inr hk)

/-- Values that equal two others are compared as those are. -/
theorem compare_congr (comparator : Comparator) :
    a.compare comparator b = a'.compare comparator b' := by
  have horder := order_congr ha hb ha' hb' hsame hsame'
  have hnull : a.isNull = a'.isNull := congrArg Option.isNone ((same_iff ha ha').mp hsame).1
  have hnull' : b.isNull = b'.isNull := congrArg Option.isNone ((same_iff hb hb').mp hsame').1
  unfold compare same
  rw [horder, hnull, hnull']

end Congr

end Value

end Tabular
