import Mathlib.Data.List.Forall2
import Mathlib.Data.List.Nodup

namespace Tabular

/-- What comes of a step that may be refused. -/
def checked (refusal : Option ε) (a : α) : Except ε α :=
  match refusal with
  | some e => .error e
  | none => .ok a

theorem bind_eq_ok {x : Except ε α} {f : α → Except ε β} {b : β} :
    x >>= f = .ok b ↔ ∃ a, x = .ok a ∧ f a = .ok b := by
  cases x with
  | error e => exact ⟨nofun, nofun⟩
  | ok a => exact ⟨fun h => ⟨a, rfl, h⟩, fun ⟨_, ha, h⟩ => by cases ha; exact h⟩

theorem map_eq_ok {x : Except ε α} {f : α → β} {b : β} :
    x.map f = .ok b ↔ ∃ a, x = .ok a ∧ f a = b := by
  cases x with
  | error e => exact ⟨nofun, nofun⟩
  | ok a => simp [Except.map]

theorem bind_eq_error {x : Except ε α} {f : α → Except ε β} {e : ε} :
    x >>= f = .error e ↔ x = .error e ∨ ∃ a, x = .ok a ∧ f a = .error e := by
  cases x with
  | error e' => simp [bind, Except.bind]
  | ok a => simp [bind, Except.bind]

theorem map_eq_error {x : Except ε α} {f : α → β} {e : ε} :
    x.map f = .error e ↔ x = .error e := by
  cases x with
  | error e' => simp [Except.map]
  | ok a => simp [Except.map]

theorem mapError_eq_ok {x : Except ε α} {f : ε → ε'} {a : α} :
    x.mapError f = .ok a ↔ x = .ok a := by
  cases x with
  | error e => exact ⟨nofun, nofun⟩
  | ok b => simp [Except.mapError]

theorem toOption_eq_some {x : Except ε α} {a : α} : x.toOption = some a ↔ x = .ok a := by
  cases x <;> simp [Except.toOption]

theorem toOption_bind {x : Except ε α} {f : α → Except ε β} :
    (x >>= f).toOption = x.toOption.bind fun a => (f a).toOption := by
  cases x <;> rfl

theorem toOption_mapM {f : α → Except ε β} (l : List α) :
    (l.mapM f).toOption = l.mapM fun a => (f a).toOption := by
  induction l with
  | nil => rfl
  | cons a l ih =>
    rw [List.mapM_cons, List.mapM_cons, ← ih]
    cases f a with
    | error e => rfl
    | ok b => cases l.mapM f <;> rfl

theorem isSome_mapM {f : α → Option β} {l : List α} :
    (l.mapM f).isSome = true ↔ ∀ a ∈ l, (f a).isSome = true := by
  induction l with
  | nil => exact ⟨fun _ => nofun, fun _ => rfl⟩
  | cons a l ih =>
    rw [List.mapM_cons, List.forall_mem_cons, ← ih]
    cases f a with
    | none => exact ⟨nofun, fun h => nomatch h.1⟩
    | some b => cases l.mapM f <;> exact ⟨fun h => ⟨rfl, h⟩, fun h => h.2⟩

theorem mem_of_mapM_eq_some {f : α → Option β} {l : List α} {found : List β}
    (h : l.mapM f = some found) {b : β} (hb : b ∈ found) : ∃ a ∈ l, f a = some b := by
  induction l generalizing found with
  | nil =>
    cases h
    cases hb
  | cons a l ih =>
    rw [List.mapM_cons] at h
    obtain ⟨first, hfirst, h⟩ := Option.bind_eq_some_iff.mp h
    obtain ⟨others, hothers, h⟩ := Option.bind_eq_some_iff.mp h
    cases h
    rcases List.mem_cons.mp hb with rfl | hb
    · exact ⟨a, List.mem_cons_self, hfirst⟩
    · obtain ⟨c, hc, heq⟩ := ih hothers hb
      exact ⟨c, List.mem_cons_of_mem a hc, heq⟩

theorem mapM_some_of_forall {f : α → Option β} {g : α → β} {l : List α}
    (h : ∀ a ∈ l, f a = some (g a)) : l.mapM f = some (l.map g) := by
  induction l with
  | nil => rfl
  | cons a l ih =>
    rw [List.mapM_cons, h a List.mem_cons_self, ih fun b hb => h b (List.mem_cons_of_mem a hb)]
    rfl

theorem map_eq_map_of_forall₂ {R : α → β → Prop} {f : α → γ} {g : β → γ} {l : List α}
    {l' : List β} (h : l.Forall₂ R l') (hfg : ∀ a b, R a b → f a = g b) : l.map f = l'.map g := by
  rw [← List.forall₂_eq_eq_eq, List.forall₂_map_left_iff, List.forall₂_map_right_iff]
  exact h.imp hfg

theorem exists_of_mem_forall₂_right {R : α → β → Prop} {l : List α} {l' : List β}
    (h : l.Forall₂ R l') {b : β} (hb : b ∈ l') : ∃ a ∈ l, R a b := by
  induction h with
  | nil => cases hb
  | @cons a _ l _ hab _ ih =>
    rcases List.mem_cons.mp hb with rfl | hb
    · exact ⟨a, List.mem_cons_self, hab⟩
    · obtain ⟨c, hc, hcb⟩ := ih hb
      exact ⟨c, List.mem_cons_of_mem a hc, hcb⟩

theorem forall₂_append_cons_left {R : α → β → Prop} {before after : List α} {a : α} {l : List β}
    (h : (before ++ a :: after).Forall₂ R l) : ∃ before' b after', l = before' ++ b :: after' ∧
      before.Forall₂ R before' ∧ R a b ∧ after.Forall₂ R after' := by
  induction before generalizing l with
  | nil =>
    obtain ⟨b, after', hab, hafter, rfl⟩ := List.forall₂_cons_left_iff.mp h
    exact ⟨[], b, after', rfl, .nil, hab, hafter⟩
  | cons c before ih =>
    obtain ⟨d, rest, hcd, hrest, rfl⟩ := List.forall₂_cons_left_iff.mp h
    obtain ⟨before', b, after', rfl, hbefore, hab, hafter⟩ := ih hrest
    exact ⟨d :: before', b, after', rfl, .cons hcd hbefore, hab, hafter⟩

theorem mapM_cons_eq_ok {f : α → Except ε β} {a : α} {l : List α} {found : List β} :
    (a :: l).mapM f = .ok found ↔
      ∃ b others, f a = .ok b ∧ l.mapM f = .ok others ∧ found = b :: others := by
  rw [List.mapM_cons, bind_eq_ok]
  constructor
  · rintro ⟨b, hb, h⟩
    obtain ⟨others, hothers, h⟩ := bind_eq_ok.mp h
    cases h
    exact ⟨b, others, hb, hothers, rfl⟩
  · rintro ⟨b, others, hb, hothers, rfl⟩
    exact ⟨b, hb, bind_eq_ok.mpr ⟨others, hothers, rfl⟩⟩

/-- The results stand in the order of what they come from. -/
theorem mapM_eq_ok {f : α → Except ε β} {l : List α} {found : List β} :
    l.mapM f = .ok found ↔ l.Forall₂ (fun a b => f a = .ok b) found := by
  induction l generalizing found with
  | nil =>
    rw [List.forall₂_nil_left_iff]
    exact ⟨fun h => (Except.ok.inj h).symm, fun h => h ▸ rfl⟩
  | cons a l ih =>
    rw [mapM_cons_eq_ok, List.forall₂_cons_left_iff]
    simp only [ih]

theorem exists_mapM_ok {f : α → Except ε β} {l : List α} :
    (∃ found, l.mapM f = .ok found) ↔ ∀ a ∈ l, ∃ b, f a = .ok b := by
  simp only [← toOption_eq_some, toOption_mapM, ← Option.isSome_iff_exists, isSome_mapM]

theorem mapM_cons_eq_error {f : α → Except ε β} {a : α} {l : List α} {e : ε} :
    (a :: l).mapM f = .error e ↔
      f a = .error e ∨ (∃ b, f a = .ok b) ∧ l.mapM f = .error e := by
  rw [List.mapM_cons, bind_eq_error]
  refine or_congr_right ⟨?_, ?_⟩
  · rintro ⟨b, hb, h⟩
    rcases bind_eq_error.mp h with h | ⟨_, -, h⟩
    · exact ⟨⟨b, hb⟩, h⟩
    · cases h
  · rintro ⟨⟨b, hb⟩, h⟩
    exact ⟨b, hb, bind_eq_error.mpr (Or.inl h)⟩

/-- The first element that is refused decides. -/
theorem mapM_eq_error {f : α → Except ε β} {l : List α} {e : ε} :
    l.mapM f = .error e ↔ ∃ before a after, l = before ++ a :: after ∧
      (∀ b ∈ before, ∃ c, f b = .ok c) ∧ f a = .error e := by
  constructor
  · intro h
    induction l with
    | nil => cases h
    | cons a l ih =>
      rcases mapM_cons_eq_error.mp h with ha | ⟨ha, h⟩
      · exact ⟨[], a, l, rfl, nofun, ha⟩
      · obtain ⟨before, b, after, rfl, hbefore, hb⟩ := ih h
        exact ⟨a :: before, b, after, rfl, List.forall_mem_cons.mpr ⟨ha, hbefore⟩, hb⟩
  · rintro ⟨before, a, after, rfl, hbefore, ha⟩
    induction before with
    | nil => exact mapM_cons_eq_error.mpr (Or.inl ha)
    | cons b before ih =>
      obtain ⟨hb, hbefore⟩ := List.forall_mem_cons.mp hbefore
      exact mapM_cons_eq_error.mpr (Or.inr ⟨hb, ih hbefore⟩)

/-- A checked pass over a list fails at the first refusal, or else it changes every element. -/
theorem mapM_checked {f : α → Except ε β} {r : α → Option ε} {g : α → β}
    (h : ∀ a, f a = checked (r a) (g a)) (l : List α) :
    l.mapM f = checked (l.findSome? r) (l.map g) := by
  induction l with
  | nil => rfl
  | cons a l ih =>
    rw [List.mapM_cons, h a, ih, List.findSome?_cons]
    cases r a with
    | some e => rfl
    | none => cases l.findSome? r <;> rfl

/-- Where marks are distinct, each of them leads to its bearer. -/
theorem find?_of_nodup [BEq β] [LawfulBEq β] {mark : α → β} {l : List α} (h : (l.map mark).Nodup)
    {a : α} (ha : a ∈ l) : l.find? (mark · == mark a) = some a := by
  cases hf : l.find? (mark · == mark a) with
  | none => exact absurd BEq.rfl (List.find?_eq_none.mp hf a ha)
  | some found =>
    have heq : mark found = mark a := by simpa using List.find?_some hf
    rw [List.inj_on_of_nodup_map h (List.mem_of_find?_eq_some hf) ha heq]

end Tabular
