import Tabular.Proofs.SaveFile.Made
import Tabular.Proofs.Table.Layout

namespace Tabular

/-- A table is new, or comes of an operation on a table made before, of other tables, or of a save
file. An operation that fails makes no other table. -/
inductive Table.Made : Table → Prop where
  | empty (name : String) : Made (empty name)
  | ofSchema (name : String) (schema : Schema) : Made (ofSchema name schema)
  | apply {t t' : Table} {op : Operation} (ht : Made t) (h : t.apply op = .ok t') : Made t'
  | find {t t' : Table} {condition : Condition} (ht : Made t) (h : t.find condition = .ok t') :
    Made t'
  | select {t t' : Table} {places : List Nat} (ht : Made t) (h : t.select places = .ok t') :
    Made t'
  | innerJoin {left right t' : Table} {l r : Nat} (hl : Made left) (hr : Made right)
    (h : left.innerJoin right l r = .ok t') : Made t'
  | leftJoin {left right t' : Table} {l r : Nat} (hl : Made left) (hr : Made right)
    (h : left.leftJoin right l r = .ok t') : Made t'
  | rightJoin {left right t' : Table} {l r : Nat} (hl : Made left) (hr : Made right)
    (h : left.rightJoin right l r = .ok t') : Made t'
  | decode {text : String} {ts : List Table} {t : Table} (h : SaveFile.decode text = .ok ts)
    (ht : t ∈ ts) : Made t

namespace Table

theorem Shows.sound {t : Table} {result : Except Error Table} {meaning : Option Sheet}
    (h : Shows result meaning) (ht : result = .ok t) : t.Sound := by
  subst ht
  exact h.1

theorem Made.sound {t : Table} (h : t.Made) : t.Sound := by
  induction h with
  | empty name => exact sound_empty name
  | ofSchema name schema => exact sound_ofSchema name schema
  | @apply t t' op _ h ih =>
    have hm := ih.apply op
    rw [h] at hm
    exact hm.1
  | @find t t' condition _ h ih => exact (ih.find condition).sound h
  | @select t t' places _ h ih => exact (ih.select places).sound h
  | @innerJoin left right t' l r _ _ h ihl ihr => exact (ihl.join ihr l r false).sound h
  | @leftJoin left right t' l r _ _ h ihl ihr => exact (ihl.join ihr l r true).sound h
  | @rightJoin left right t' l r _ _ h ihl ihr => exact (ihr.join ihl r l true).sound h
  | decode h ht => exact (SaveFile.built_of_decode h _ ht).sound_fit.1

/-- The arrays of a table that is made row by row are those of the table. -/
theorem ofRows_stored (name : String) (schema : Schema) (rows : List Row) :
    (StoredTable.ofSchema name schema).insertAll rows =
      some ((ofRows name schema rows).map stored) := by
  rw [← stored_ofSchema]
  exact (sound_ofSchema name schema).insertAll_stored rows

/-- Whatever is done to a table that was made, in any order and with any failures, is done to its
arrays without a gap: no access fails, the answers are those of the table, and what is left is even
and holds the rows of the table, each as wide as the schema. -/
theorem Made.stored_even {t : Table} (h : t.Made) (ops : List Operation) :
    let last := (replay Table.apply t ops).1
    t.stored.replay ops = some (last.stored, (replay Table.apply t ops).2) ∧
      last.stored.Even ∧
      (∀ i, last.stored.row i = some (last.row? i)) ∧
      (∀ i, (last.row? i).isSome = true ↔ i < last.rowCount) ∧
      last.stored.rows = some last.rows ∧
      last.rows.length = last.rowCount ∧
      (∀ row ∈ last.rows, row.length = last.schema.length) ∧
      ∀ name schema rows, (StoredTable.ofSchema name schema).insertAll rows =
        some ((ofRows name schema rows).map stored) := by
  intro last
  have hlast : last.Sound := (h.sound.replay ops).1
  refine ⟨h.sound.replay_stored ops, hlast.even, hlast.row_stored, ?_, hlast.rows_stored,
    hlast.length_rows, fun row hr => (hlast.holds hr).1, ofRows_stored⟩
  intro i
  rw [hlast.row?_eq]
  by_cases hi : i < last.rowCount <;> simp [hi]

/-- A row that is too short, a text that becomes null, a key that a row repeats, a row that leaves,
and a column that comes late. -/
def aisle : List Operation :=
  [.insert [.int 1, .text "a"], .insert [], .setKey [0], .update 0 1 .null, .insert [.int 1],
    .delete 0, .addColumn ⟨"paid", .bool⟩]

theorem stored_even_aisle :
    let first := ofSchema "aisle" [⟨"place", .int⟩, ⟨"note", .text⟩]
    ∃ last : Table, first.stored.replay aisle = some (last.stored, [.ok (), .ok (), .ok (), .ok (),
        .error (.duplicateKey "aisle" [("place", .int 1)]), .ok (), .ok ()]) ∧
      last.stored.Even ∧ last.rows = [[.null, .null, .null]] := by
  intro first
  have hresults : (replay Table.apply first aisle).2 = [.ok (), .ok (), .ok (), .ok (),
      .error (.duplicateKey "aisle" [("place", .int 1)]), .ok (), .ok ()] := by
    decide +kernel
  have hrows : (replay Table.apply first aisle).1.rows = [[.null, .null, .null]] := by
    decide +kernel
  obtain ⟨hreplay, heven, -⟩ :=
    (Made.ofSchema "aisle" [⟨"place", .int⟩, ⟨"note", .text⟩]).stored_even aisle
  rw [hresults] at hreplay
  exact ⟨_, hreplay, heven, hrows⟩

end Table

end Tabular
