import Tabular.Proofs.Database.Restore

namespace Tabular

/-- The tables in a file, if there is such a file and it is the text of a save file. -/
def SaveFile.ofFile (file : Except FileFault ByteArray) : Except Failure (List Table) :=
  match file >>= decodeText with
  | .error fault => .error (.file fault)
  | .ok text => (decode text).mapError .saveFile

/-- A file that gives no tables is no fault of the database. -/
theorem SaveFile.ofFile_ne_engine (file : Except FileFault ByteArray) (e : Error) :
    ofFile file ≠ .error (.engine e) := by
  unfold ofFile
  split
  · exact nofun
  · rename_i text _
    cases decode text <;> exact nofun

theorem SaveFile.ofFile_toUTF8 (text : String) :
    ofFile (.ok text.toUTF8) = (decode text).mapError .saveFile := by
  have hread : (Except.ok text.toUTF8 >>= decodeText) = decodeText text.toUTF8 := rfl
  unfold ofFile
  rw [hread, decodeText_toUTF8]

namespace Database

variable {db : Database} {t : Table} {ts : List Table}

/-- One of the tables has the name of a table of the database, or of one in front of it. -/
def Clashes (db : Database) (ts : List Table) : Prop :=
  ∃ before t behind, ts = before ++ t :: behind ∧
    (t.name ∈ db.names ∨ t.name ∈ before.map Table.name)

theorem clashes_cons :
    db.Clashes (t :: ts) ↔ t.name ∈ db.names ∨ Clashes ⟨db.tables ++ [t]⟩ ts := by
  constructor
  · rintro ⟨before, found, behind, heq, hname⟩
    cases before with
    | nil =>
      cases heq
      exact Or.inl (hname.resolve_right List.not_mem_nil)
    | cons first before =>
      cases heq
      refine Or.inr ⟨before, found, behind, rfl, ?_⟩
      rw [names_append, List.mem_append, List.map_singleton, List.mem_singleton]
      rw [List.map_cons, List.mem_cons] at hname
      tauto
  · rintro (hname | ⟨before, found, behind, rfl, hname⟩)
    · exact ⟨[], t, ts, rfl, Or.inl hname⟩
    · refine ⟨t :: before, found, behind, rfl, ?_⟩
      rw [names_append, List.mem_append, List.map_singleton, List.mem_singleton] at hname
      rw [List.map_cons, List.mem_cons]
      tauto

theorem add_of_taken (h : t.name ∈ db.names) : db.add t = .error (.tableExists t.name) := by
  cases hadd : db.add t with
  | ok next => exact absurd h (add_eq_ok hadd).1
  | error e =>
    unfold add at hadd
    split at hadd
    · exact hadd.symm
    · cases hadd

/-- Of tables that clash none is added, whichever of them it is. -/
theorem addAll_of_clashes (h : db.Clashes ts) :
    ∃ name, db.addAll ts = .error (.tableExists name) := by
  induction ts generalizing db with
  | nil =>
    obtain ⟨before, t, behind, heq, -⟩ := h
    simp at heq
  | cons t ts ih =>
    by_cases hname : t.name ∈ db.names
    · refine ⟨t.name, ?_⟩
      change db.add t >>= _ = _
      rw [add_of_taken hname]
      rfl
    · obtain ⟨name, herror⟩ := ih ((clashes_cons.mp h).resolve_left hname)
      refine ⟨name, ?_⟩
      change db.add t >>= _ = _
      rw [add_of_free hname]
      exact herror

theorem nodup_of_not_clashes (h : db.names.Nodup) (hc : ¬ db.Clashes ts) :
    (db.names ++ ts.map Table.name).Nodup := by
  induction ts generalizing db with
  | nil => rwa [List.map_nil, List.append_nil]
  | cons t ts ih =>
    rw [clashes_cons, not_or] at hc
    have hall := ih (nodup_names_append h hc.1) hc.2
    rwa [names_append, List.append_assoc] at hall

theorem load_eq (db : Database) (file : Except FileFault ByteArray) :
    db.load file = match SaveFile.ofFile file with
      | .error failure => (db, .error failure)
      | .ok ts => match db.addAll ts with
        | .error e => (db, .error (.engine e))
        | .ok next => (next, .ok ts.length) := by
  cases file with
  | error fault => rfl
  | ok content =>
    have hread : (Except.ok content >>= decodeText) = decodeText content := rfl
    unfold load restore SaveFile.ofFile
    rw [hread]
    dsimp only
    cases ht : decodeText content with
    | error fault => rfl
    | ok text =>
      cases hd : SaveFile.decode text with
      | error fault => simp [hd, Except.mapError, bind, Except.bind]
      | ok ts =>
        cases ha : db.addAll ts <;>
          simp [hd, ha, Except.mapError, bind, Except.bind, pure, Except.pure]

variable {file : Except FileFault ByteArray}

theorem load_of_error {failure : Failure} (h : SaveFile.ofFile file = .error failure) :
    db.load file = (db, .error failure) := by
  rw [load_eq, h]

theorem load_of_clashes (h : SaveFile.ofFile file = .ok ts) (hc : db.Clashes ts) :
    ∃ name, db.load file = (db, .error (.engine (.tableExists name))) := by
  obtain ⟨name, hadd⟩ := addAll_of_clashes hc
  refine ⟨name, ?_⟩
  rw [load_eq, h]
  dsimp only
  rw [hadd]

theorem load_of_not_clashes (hn : db.names.Nodup) (h : SaveFile.ofFile file = .ok ts)
    (hc : ¬ db.Clashes ts) : db.load file = (⟨db.tables ++ ts⟩, .ok ts.length) := by
  rw [load_eq, h]
  dsimp only
  rw [addAll_of_nodup (nodup_of_not_clashes hn hc)]

theorem load_eq_error {failure : Failure} (h : (db.load file).2 = .error failure) :
    (db.load file).1 = db := by
  rw [load_eq] at h ⊢
  split at h
  · rfl
  · split at h
    · rfl
    · cases h

theorem load_tableExists_iff (h : db.names.Nodup) :
    (∃ name, (db.load file).2 = .error (.engine (.tableExists name))) ↔
      ∃ ts, SaveFile.ofFile file = .ok ts ∧ db.Clashes ts := by
  constructor
  · rintro ⟨name, herror⟩
    cases hheld : SaveFile.ofFile file with
    | error failure =>
      rw [load_of_error hheld] at herror
      cases herror
      exact absurd hheld (SaveFile.ofFile_ne_engine file _)
    | ok ts =>
      refine ⟨ts, rfl, ?_⟩
      by_contra hfree
      rw [load_of_not_clashes h hheld hfree] at herror
      cases herror
  · rintro ⟨ts, hheld, hclash⟩
    obtain ⟨name, hload⟩ := load_of_clashes hheld hclash
    exact ⟨name, congrArg Prod.snd hload⟩

/-- A database that cannot be encoded is not written. -/
theorem run_save (db : Database) (memory : Memory) (file : String) {fault : SaveFile.Fault}
    (h : SaveFile.encode db.tables = .error fault) :
    (Console.save (m := StateM Memory) db file).run memory =
      (.error (.saveFile fault), memory) := by
  have hsaved : db.saved = .error (.saveFile fault) := by
    unfold saved encode
    rw [h]
    rfl
  rw [Console.save_eq, hsaved]
  rfl

/-- A load that fails leaves the database as it was, and only a name that is taken makes it fail on
tables that are decoded; a save leaves the database as it was, and the files too if it cannot be
encoded. -/
theorem load_save_whole (db : Database) (memory : Memory) (file : String) :
    let held := SaveFile.ofFile (memory.directory.read file)
    let loaded := (Console.load (m := StateM Memory) db file).run memory
    loaded.2 = memory ∧
      (∀ failure, loaded.1.2 = .error failure → loaded.1.1 = db) ∧
      (∀ failure, held = .error failure → loaded.1.2 = .error failure) ∧
      (db.names.Nodup →
        ((∃ name, loaded.1.2 = .error (.engine (.tableExists name))) ↔
          ∃ ts, held = .ok ts ∧ db.Clashes ts) ∧
        ∀ ts, held = .ok ts → ¬ db.Clashes ts → loaded.1.2 = .ok ts.length ∧
          loaded.1.1.tables = db.tables ++ ts ∧ loaded.1.1.names.Nodup) ∧
      (∀ folder, ((Console.perform (m := StateM Memory) folder db (.save file)).run memory).1.1 =
        db) ∧
      ∀ fault, SaveFile.encode db.tables = .error fault →
        (Console.save (m := StateM Memory) db file).run memory =
          (.error (.saveFile fault), memory) := by
  intro held loaded
  have hloaded : loaded = (db.load (memory.directory.read file), memory) :=
    run_load db memory file
  rw [hloaded]
  refine ⟨rfl, fun _ => load_eq_error, ?_, ?_, fun _ => rfl, fun _ => run_save db memory file⟩
  · intro failure hheld
    exact congrArg Prod.snd (load_of_error hheld)
  · intro hnames
    refine ⟨load_tableExists_iff hnames, fun ts hheld hfree => ?_⟩
    rw [load_of_not_clashes hnames hheld hfree]
    refine ⟨rfl, rfl, ?_⟩
    rw [names_append]
    exact nodup_of_not_clashes hnames hfree

/-- A text with a line break, and a file with a table of the name that is taken. -/
def lettered : List Action :=
  [.execute "CREATE TABLE seat (note VARCHAR(20))", .execute "INSERT INTO seat VALUES ('a\nb')"]

def hallsFile : String := "2\nhall\n0\n0\n0\nseat\n0\n0\n0\n"

theorem load_save_whole_lettered :
    let db := after lettered
    let memory := Memory.ofDirectory ⟨[(["halls"], .file hallsFile.toUTF8)]⟩
    let loaded := (Console.load (m := StateM Memory) db "halls").run memory
    (∃ name, loaded.1.2 = .error (.engine (.tableExists name))) ∧ loaded.1.1 = db ∧
      ∃ fault, (Console.save (m := StateM Memory) db "halls").run memory =
        (.error (.saveFile fault), memory) := by
  have hnames : (after lettered).names = ["seat"] := by
    decide +kernel
  have hbroken : (SaveFile.encode (after lettered).tables).isOk = false := by
    decide +kernel
  have hshown : (SaveFile.decode hallsFile).map (·.map Table.name) = .ok ["hall", "seat"] := by
    decide +kernel
  intro db memory loaded
  have hnames : db.names = ["seat"] := hnames
  have hbroken : (SaveFile.encode db.tables).isOk = false := hbroken
  have hread : memory.directory.read "halls" = .ok hallsFile.toUTF8 := by
    rfl
  -- The rest would otherwise run the statements and the host over and over.
  clear_value db memory
  obtain ⟨-, hkept, -, hclash, -, hsave⟩ := load_save_whole db memory "halls"
  obtain ⟨ts, hdecode, hts⟩ := map_eq_ok.mp hshown
  obtain ⟨hall, rest, rfl, -, hrest⟩ := List.map_eq_cons_iff.mp hts
  obtain ⟨seat, rfl, hseat⟩ := List.map_eq_singleton_iff.mp hrest
  have hheld : SaveFile.ofFile (memory.directory.read "halls") = .ok [hall, seat] := by
    rw [hread, SaveFile.ofFile_toUTF8]
    exact mapError_eq_ok.mpr hdecode
  have htaken : db.Clashes [hall, seat] := by
    refine ⟨[hall], seat, [], rfl, Or.inl ?_⟩
    rw [hseat, hnames]
    exact List.mem_singleton_self "seat"
  have hnodup : db.names.Nodup := by
    rw [hnames]
    exact List.nodup_singleton "seat"
  obtain ⟨name, hname⟩ := (hclash hnodup).1.mpr ⟨_, hheld, htaken⟩
  refine ⟨⟨name, hname⟩, hkept _ hname, ?_⟩
  cases hencode : SaveFile.encode db.tables with
  | ok text =>
    rw [hencode] at hbroken
    cases hbroken
  | error fault => exact ⟨fault, hsave fault hencode⟩

end Database

end Tabular
