import Tabular.Host.Memory
import Tabular.Proofs.Database.Reachable
import Tabular.Proofs.Directory
import Tabular.Proofs.SaveFile.RoundTrip
import Tabular.Proofs.Text.Bytes

namespace Tabular

/-- What saving a database writes to its file. -/
def Database.saved (db : Database) : Except Failure ByteArray :=
  db.encode.map String.toUTF8

theorem Console.save_eq {m : Type → Type} [Monad m] [LawfulMonad m] [Host m] (db : Database)
    (file : String) : Console.save (m := m) db file = match db.saved with
      | .error failure => pure (.error failure)
      | .ok content => Except.mapError .file <$> Host.write file content := by
  unfold Console.save Database.saved
  cases db.encode with
  | error failure => rfl
  | ok text =>
    dsimp only [Except.map]
    rw [map_eq_pure_bind]

/-- What has been written to a file is read from it again. -/
theorem Memory.read_of_write {memory : Memory} {file : String} {content : ByteArray}
    (h : ((writeFile file content).run memory).1 = .ok ()) :
    ((writeFile file content).run memory).2.directory.read file = .ok content := by
  cases hwrite : memory.directory.write file content with
  | ok d =>
    have hrun : (writeFile file content).run memory =
        (.ok (), { memory with directory := d }) := by
      simp only [writeFile, StateT.run_bind, StateT.run_get, pure_bind, hwrite]
      rfl
    rw [hrun]
    exact Directory.read_of_write hwrite
  | error fault =>
    have hrun : (writeFile file content).run memory = (.error fault, memory) := by
      simp only [writeFile, StateT.run_bind, StateT.run_get, pure_bind, hwrite]
      rfl
    rw [hrun] at h
    cases h

namespace Database

/-- A machine word counts the tables, and in each of them the columns and rows, as it does for
anything that is held in memory. -/
structure Counted (db : Database) : Prop where
  tables : db.tables.length ≤ indexLimit
  widths : ∀ t ∈ db.tables, t.width ≤ indexLimit
  rowCounts : ∀ t ∈ db.tables, t.rowCount ≤ indexLimit

variable {db : Database}

theorem add_of_free {t : Table} (h : t.name ∉ db.names) : db.add t = .ok ⟨db.tables ++ [t]⟩ := by
  have hnone : db.find? t.name = none := by
    unfold find?
    rw [List.find?_eq_none]
    intro other hother hname
    exact h (List.mem_map.mpr ⟨other, hother, beq_iff_eq.mp hname⟩)
  unfold add
  rw [hnone]
  rfl

theorem addAll_of_nodup {ts : List Table} (h : (db.names ++ ts.map Table.name).Nodup) :
    db.addAll ts = .ok ⟨db.tables ++ ts⟩ := by
  induction ts generalizing db with
  | nil =>
    rw [List.append_nil]
    rfl
  | cons t ts ih =>
    have hfree : t.name ∉ db.names := fun hm =>
      (List.nodup_append.mp h).2.2 t.name hm t.name List.mem_cons_self rfl
    have hrest : addAll ⟨db.tables ++ [t]⟩ ts = .ok ⟨db.tables ++ [t] ++ ts⟩ :=
      ih (by rw [names_append, List.append_assoc]; exact h)
    rw [List.append_assoc] at hrest
    exact bind_eq_ok.mpr ⟨_, add_of_free hfree, hrest⟩

theorem Built.storable (h : db.Built) (hc : db.Counted) {t : Table} (ht : t ∈ db.tables)
    (hu : t.Unbroken) : t.Storable :=
  have hbuilt := (h.tables t ht).sound_fit
  ⟨hbuilt.1, hbuilt.2, hu, hc.widths t ht, hc.rowCounts t ht⟩

theorem load_of_decode {next : Database} {text : String} {ts : List Table}
    (hd : SaveFile.decode text = .ok ts) (ha : db.addAll ts = .ok next) :
    db.load (.ok text.toUTF8) = (next, .ok ts.length) := by
  have hrestore : db.restore text.toUTF8 = .ok (next, ts.length) := by
    refine bind_eq_ok.mpr ⟨text, mapError_eq_ok.mpr (decodeText_toUTF8 text), ?_⟩
    refine bind_eq_ok.mpr ⟨ts, mapError_eq_ok.mpr hd, ?_⟩
    exact bind_eq_ok.mpr ⟨next, mapError_eq_ok.mpr ha, rfl⟩
  unfold load
  dsimp only
  rw [hrestore]

/-- Loading from the file reads it and does nothing else. -/
theorem run_load (db : Database) (memory : Memory) (file : String) :
    (Console.load (m := StateM Memory) db file).run memory =
      (db.load (memory.directory.read file), memory) := by
  rw [Console.load_eq]
  rfl

theorem Built.load_of_encode (h : db.Built) (hc : db.Counted) {text : String}
    (he : SaveFile.encode db.tables = .ok text) :
    ∃ restored, restored.tables.map Table.sheet = db.tables.map Table.sheet ∧
      empty.load (.ok text.toUTF8) = (restored, .ok db.tables.length) := by
  obtain ⟨hu, -⟩ := SaveFile.encode_eq_ok.mp he
  obtain ⟨written, restored, hw, hd, hsheets⟩ := SaveFile.decode_encode hc.tables
    fun t ht => h.storable hc ht (hu t ht)
  obtain rfl : written = text := Except.ok.inj (hw.symm.trans he)
  have hnames : restored.map Table.name = db.names := by
    have hmap := congrArg (List.map Sheet.name) hsheets
    rwa [List.map_map, List.map_map] at hmap
  have hadd : empty.addAll restored = .ok ⟨restored⟩ :=
    addAll_of_nodup (by rw [hnames]; exact h.names)
  have hlen : restored.length = db.tables.length := by
    simpa using congrArg List.length hsheets
  exact ⟨⟨restored⟩, hsheets, by rw [load_of_decode hd hadd, hlen]⟩

/-- A database is saved unless one of its texts would break a line, and then nothing is written. A
file that it is saved to, or that holds what is saved, gives the same tables to an empty database. -/
theorem restores_saved (actions : List Action) :
    let db := after actions
    ((∃ fault, SaveFile.encode db.tables = .error fault) ↔
      ∃ t ∈ db.tables, ∃ row ∈ t.rows, ∃ content, Value.text content ∈ row ∧
        ('\n' ∈ content.toList ∨ '\r' ∈ content.toList)) ∧
    (∀ {m : Type → Type} [Monad m] [LawfulMonad m] [Host m] (file : String),
      Console.save (m := m) db file = match SaveFile.encode db.tables with
        | .error fault => pure (.error (.saveFile fault))
        | .ok text => Except.mapError .file <$> Host.write file text.toUTF8) ∧
    (db.Counted → ∀ text, SaveFile.encode db.tables = .ok text →
      ∃ restored, restored.tables.map Table.sheet = db.tables.map Table.sheet ∧
        ∀ (memory : Memory) (file : String),
          (memory.directory.read file = .ok text.toUTF8 →
            (Console.load (m := StateM Memory) empty file).run memory =
              ((restored, .ok db.tables.length), memory)) ∧
          let saved := (Console.save (m := StateM Memory) db file).run memory
          saved.1 = .ok () →
            (Console.load (m := StateM Memory) empty file).run saved.2 =
              ((restored, .ok db.tables.length), saved.2)) := by
  intro db
  have hbuilt := built_after actions
  have hsave : ∀ {m : Type → Type} [Monad m] [LawfulMonad m] [Host m] (file : String),
      Console.save (m := m) db file = match SaveFile.encode db.tables with
        | .error fault => pure (.error (.saveFile fault))
        | .ok text => Except.mapError .file <$> Host.write file text.toUTF8 := by
    intro m _ _ _ file
    rw [Console.save_eq]
    unfold saved encode
    cases SaveFile.encode db.tables <;> rfl
  refine ⟨?_, hsave, ?_⟩
  · rw [SaveFile.encode_eq_error]
    simp only [not_forall, Table.not_unbroken, exists_prop]
  · intro hc text he
    obtain ⟨restored, hsheets, hload⟩ := hbuilt.load_of_encode hc he
    have hread : ∀ (memory : Memory) (file : String),
        memory.directory.read file = .ok text.toUTF8 →
          (Console.load (m := StateM Memory) empty file).run memory =
            ((restored, .ok db.tables.length), memory) := by
      intro memory file h
      rw [run_load, h, hload]
    refine ⟨restored, hsheets, fun memory file => ⟨hread memory file, ?_⟩⟩
    intro saved hsaved
    have hrun : saved = (((Memory.writeFile file text.toUTF8).run memory).1.mapError .file,
        ((Memory.writeFile file text.toUTF8).run memory).2) := by
      unfold saved
      rw [hsave, he]
      rfl
    rw [hrun] at hsaved ⊢
    exact hread _ file (Memory.read_of_write (mapError_eq_ok.mp hsaved))

/-- A text that holds a quote and a keyword, a negative zero, and nulls. -/
def noted : List Action :=
  [.execute "CREATE TABLE note (id INT, body VARCHAR(20), rate FLOAT, PRIMARY KEY (id))",
    .execute "INSERT INTO note VALUES (1, 'it''s NULL', -0.0), (2, NULL, 1.5)"]

def notedFile : String :=
  "1\nnote\n3\nint id\nvarchar body\nfloat rate\n1 0\n2\n1 'it''s NULL' -0\n2 NULL 1.5\n"

theorem restores_saved_noted :
    let memory := Memory.ofDirectory .empty
    let saved := (Console.save (m := StateM Memory) (after noted) "notes").run memory
    saved.1 = .ok () ∧
      ∃ restored, (Console.load (m := StateM Memory) empty "notes").run saved.2 =
          ((restored, .ok 1), saved.2) ∧
        restored.tables.map Table.sheet = (after noted).tables.map Table.sheet := by
  intro memory saved
  have hsizes : (after noted).tables.map (fun t => (t.width, t.rowCount)) = [(3, 2)] := by
    decide +kernel
  obtain ⟨t, htables, heq⟩ := List.map_eq_singleton_iff.mp hsizes
  simp only [Prod.mk.injEq] at heq
  have hcounted : (after noted).Counted := by
    constructor <;> simp [htables, heq, indexLimit]
  have hencode : SaveFile.encode (after noted).tables = .ok notedFile := by
    decide +kernel
  obtain ⟨-, hsave, hrestores⟩ := restores_saved noted
  have hsaved : saved.1 = .ok () := by
    unfold saved
    rw [hsave, hencode]
    rfl
  obtain ⟨restored, hsheets, hload⟩ := hrestores hcounted notedFile hencode
  have hlast := (hload memory "notes").2 hsaved
  rw [htables] at hlast
  exact ⟨hsaved, restored, hlast, hsheets⟩

end Database

end Tabular
