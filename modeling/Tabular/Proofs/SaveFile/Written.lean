import Tabular.Proofs.Result
import Tabular.SaveFile.Encode

namespace Tabular

/-- No text of the table would break a line. -/
def Table.Unbroken (t : Table) : Prop :=
  ∀ row ∈ t.rows, ∀ content, Value.text content ∈ row →
    '\n' ∉ content.toList ∧ '\r' ∉ content.toList

theorem Table.not_unbroken {t : Table} : ¬ t.Unbroken ↔
    ∃ row ∈ t.rows, ∃ content, Value.text content ∈ row ∧
      ('\n' ∈ content.toList ∨ '\r' ∈ content.toList) := by
  simp only [Unbroken, not_forall, not_and_or, not_not, exists_prop]

namespace SaveFile

def rowLine (row : Row) : String :=
  " ".intercalate (row.map literal)

def tableLines (t : Table) : List String :=
  header t ++ t.rows.map rowLine

theorem breaksLine_eq_false {text : String} :
    breaksLine text = false ↔ '\n' ∉ text.toList ∧ '\r' ∉ text.toList := by
  unfold breaksLine
  rw [List.any_eq_false]
  constructor
  · intro h
    exact ⟨fun hm => h _ hm (by decide), fun hm => h _ hm (by decide)⟩
  · rintro ⟨hn, hr⟩ c hc hbreak
    rcases of_decide_eq_true hbreak with rfl | rfl
    · exact hn hc
    · exact hr hc

theorem brokenText_eq_none {row : Row} :
    brokenText row = none ↔ ∀ content, Value.text content ∈ row →
      '\n' ∉ content.toList ∧ '\r' ∉ content.toList := by
  unfold brokenText
  rw [List.findSome?_eq_none_iff]
  constructor
  · intro h content hm
    have := h _ hm
    rw [← breaksLine_eq_false]
    by_contra hb
    simp [hb] at this
  · intro h v hv
    cases v <;> try rfl
    case text content =>
      have := breaksLine_eq_false.mpr (h content hv)
      simp [this]

theorem encodeRow_eq_ok {line : Nat} {row : Row} {text : String} :
    encodeRow line row = .ok text ↔ brokenText row = none ∧ text = rowLine row := by
  unfold encodeRow
  cases brokenText row with
  | some content => exact ⟨nofun, nofun⟩
  | none =>
    constructor
    · intro h
      cases h
      exact ⟨rfl, rfl⟩
    · rintro ⟨-, rfl⟩
      rfl

theorem encodeRows_eq_ok {line : Nat} {rows : List Row} {texts : List String} :
    encodeRows line rows = .ok texts ↔
      (∀ row ∈ rows, brokenText row = none) ∧ texts = rows.map rowLine := by
  induction rows generalizing line texts with
  | nil =>
    constructor
    · intro h
      cases h
      exact ⟨nofun, rfl⟩
    · rintro ⟨-, rfl⟩
      rfl
  | cons row rest ih =>
    unfold encodeRows
    simp only [bind_eq_ok, encodeRow_eq_ok, ih, List.forall_mem_cons, List.map_cons]
    constructor
    · rintro ⟨_, ⟨hrow, rfl⟩, _, ⟨hrest, rfl⟩, h⟩
      cases h
      exact ⟨⟨hrow, hrest⟩, rfl⟩
    · rintro ⟨⟨hrow, hrest⟩, rfl⟩
      exact ⟨_, ⟨hrow, rfl⟩, _, ⟨hrest, rfl⟩, rfl⟩

theorem encodeTables_eq_ok {line : Nat} {ts : List Table} {texts : List String} :
    encodeTables line ts = .ok texts ↔
      (∀ t ∈ ts, t.Unbroken) ∧ texts = ts.flatMap tableLines := by
  induction ts generalizing line texts with
  | nil =>
    constructor
    · intro h
      cases h
      exact ⟨nofun, rfl⟩
    · rintro ⟨-, rfl⟩
      rfl
  | cons t rest ih =>
    unfold encodeTables
    simp only [bind_eq_ok, encodeRows_eq_ok, ih, List.forall_mem_cons, List.flatMap_cons]
    constructor
    · rintro ⟨_, ⟨hrows, rfl⟩, _, ⟨hrest, rfl⟩, h⟩
      cases h
      exact ⟨⟨fun row hr => brokenText_eq_none.mp (hrows row hr), hrest⟩, rfl⟩
    · rintro ⟨⟨hrows, hrest⟩, rfl⟩
      exact ⟨_, ⟨fun row hr => brokenText_eq_none.mpr (hrows row hr), rfl⟩, _, ⟨hrest, rfl⟩, rfl⟩

/-- Every line of a save file, the number of tables first. -/
def fileLines (ts : List Table) : List String :=
  toString ts.length :: ts.flatMap tableLines

/-- Only a text that would break its line keeps tables from being written. -/
theorem encode_eq_ok {ts : List Table} {text : String} :
    encode ts = .ok text ↔
      (∀ t ∈ ts, t.Unbroken) ∧ text = String.join ((fileLines ts).map (· ++ "\n")) := by
  unfold encode
  simp only [bind_eq_ok, encodeTables_eq_ok]
  constructor
  · rintro ⟨_, ⟨hts, rfl⟩, h⟩
    cases h
    exact ⟨hts, rfl⟩
  · rintro ⟨hts, rfl⟩
    exact ⟨_, ⟨hts, rfl⟩, rfl⟩

theorem encode_eq_error {ts : List Table} :
    (∃ fault, encode ts = .error fault) ↔ ¬ ∀ t ∈ ts, t.Unbroken := by
  constructor
  · rintro ⟨fault, hf⟩ hu
    have hok := encode_eq_ok.mpr ⟨hu, rfl⟩
    rw [hf] at hok
    cases hok
  · intro hu
    cases he : encode ts with
    | error fault => exact ⟨fault, rfl⟩
    | ok text => exact absurd (encode_eq_ok.mp he).1 hu

end SaveFile

end Tabular
