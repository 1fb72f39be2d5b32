import Tabular.Proofs.Database.Reachable
import Tabular.Proofs.Kind
import Tabular.Proofs.Statement.Accepted

namespace Tabular

/-- The tokens of a statement that is read are those of its text. -/
theorem Statement.spelling_of_read {sql : String} {st : Statement} (h : read sql = .ok st) :
    ∃ ts, st.Spelling ts ∧ ∀ t ∈ ts, t.WellFormed := by
  obtain ⟨_, hscan, h⟩ := bind_eq_ok.mp h
  obtain ⟨tokens, htokens, hend⟩ := bind_eq_ok.mp hscan
  cases hend
  have hformed := Token.wellFormed_of_scan htokens
  have hstop : Token.stop ∉ tokens := fun hm => hformed _ hm
  have hall : (tokens ++ [Token.stop]).takeWhile (· ≠ Token.stop) = tokens := by
    rw [List.takeWhile_append_of_pos fun t ht => by simpa using ne_of_mem_of_not_mem ht hstop]
    exact List.append_nil tokens
  unfold ofTokens at h
  rw [hall] at h
  obtain ⟨⟨found, rest⟩, hrun, rfl⟩ := map_eq_ok.mp h
  rcases ((Grammar.run_complete_eq_ok hstop).mp hrun).2 with hs | ⟨ts, rfl, hs⟩
  · exact ⟨tokens, hs, hformed⟩
  · exact ⟨ts, hs, fun t ht => hformed t (List.mem_append_left _ ht)⟩

theorem ColumnSpec.Spelling.mem {spec : ColumnSpec} {ts : List Token} (h : spec.Spelling ts) :
    .ident spec.typeWord ∈ ts := by
  cases h <;> simp

theorem ColumnSpec.mem_of_commas {b : Unit} {specs : List ColumnSpec} {ts : List Token}
    (h : Linked (fun _ : Unit => ColumnSpec.Spelling) (fun _ => .symbol .comma) b specs ts) :
    ∀ spec ∈ specs, .ident spec.typeWord ∈ ts := by
  induction h with
  | one h => exact List.forall_mem_singleton.mpr h.mem
  | more h _ ih =>
    refine List.forall_mem_cons.mpr ⟨List.mem_append_left _ h.mem, fun spec hspec => ?_⟩
    exact List.mem_append_right _ (List.mem_cons_of_mem _ (ih spec hspec))

/-- The type of a column is an identifier of the statement. -/
theorem Statement.worded_of_read {sql name : String} {specs : List ColumnSpec} {key : List String}
    (h : read sql = .ok (.change (.createTable name specs key))) :
    ∀ spec ∈ specs, Worded spec.typeWord.toList := by
  obtain ⟨ts, hspelling, hformed⟩ := spelling_of_read h
  cases hspelling with
  | createTable hcolumns _ =>
    intro spec hspec
    have hm := ColumnSpec.mem_of_commas hcolumns spec hspec
    have hident : Token.WellFormed (.ident spec.typeWord) := hformed _ (by simp [hm])
    exact Identifier.worded hident

namespace Sheet

/-- A name that the schema has leads to its first column there, and no other leads anywhere. -/
theorem place_eq (s : Sheet) (name : String) :
    s.place name =
      if name ∈ s.schema.map Field.name then .ok ((s.schema.map Field.name).idxOf name)
      else .error (.missing (.column name)) := by
  unfold place List.idxOf
  rw [List.findIdx_map]
  split
  · rename_i index hfound
    obtain ⟨hlt, hindex⟩ := List.findIdx?_eq_some_iff_findIdx_eq.mp hfound
    have hm : name ∈ s.schema.map Field.name := by
      have hname := List.findIdx_getElem (w := hindex ▸ hlt)
      exact List.mem_map.mpr ⟨_, List.getElem_mem _, by simpa using hname⟩
    rw [if_pos hm]
    exact congrArg Except.ok hindex.symm
  · rename_i hnone
    have hm : name ∉ s.schema.map Field.name := by
      intro hm
      obtain ⟨field, hfield, rfl⟩ := List.mem_map.mp hm
      simpa using List.findIdx?_eq_none_iff.mp hnone field hfield
    rw [if_neg hm]

theorem place_eq_ok {s : Sheet} {name : String} {index : Nat} :
    s.place name = .ok index ↔
      name ∈ s.schema.map Field.name ∧ (s.schema.map Field.name).idxOf name = index := by
  rw [place_eq]
  split <;> simp [*]

theorem place_eq_error {s : Sheet} {name : String} {e : Error} :
    s.place name = .error e ↔
      name ∉ s.schema.map Field.name ∧ e = .missing (.column name) := by
  rw [place_eq]
  split <;> simp [*, eq_comm]

theorem mapM_place_eq_ok {s : Sheet} {names : List String} {indices : List Nat} :
    names.mapM s.place = .ok indices ↔ (∀ name ∈ names, name ∈ s.schema.map Field.name) ∧
      names.map (s.schema.map Field.name).idxOf = indices := by
  simp only [mapM_eq_ok, place_eq_ok]
  rw [List.forall₂_and_left, ← List.forall₂_map_left_iff, List.forall₂_eq_eq_eq]

theorem setKeyByName_eq_ok {s s' : Sheet} {names : List String}
    (h : s.setKeyByName names = .ok s') :
    (∀ name ∈ names, name ∈ s.schema.map Field.name) ∧
      s' = { s with key := (names.map (s.schema.map Field.name).idxOf).toFinset } := by
  unfold setKeyByName at h
  split at h
  · cases h
  · rename_i indices hindices
    obtain ⟨hnames, rfl⟩ := mapM_place_eq_ok.mp hindices
    exact ⟨hnames, setKey_ok h⟩

/-- The first name without a column is refused, and nothing else is. -/
theorem setKeyByName_eq_error {s : Sheet} {names : List String} {e : Error}
    (h : s.setKeyByName names = .error e) :
    ∃ before name after, names = before ++ name :: after ∧
      (∀ earlier ∈ before, earlier ∈ s.schema.map Field.name) ∧
      name ∉ s.schema.map Field.name ∧ e = .missing (.column name) := by
  unfold setKeyByName at h
  split at h
  · rename_i hrefused
    cases h
    obtain ⟨before, name, after, rfl, hbefore, hname⟩ := mapM_eq_error.mp hrefused
    obtain ⟨hmissing, rfl⟩ := place_eq_error.mp hname
    refine ⟨before, name, after, rfl, fun earlier hm => ?_, hmissing, rfl⟩
    obtain ⟨index, hindex⟩ := hbefore earlier hm
    exact (place_eq_ok.mp hindex).1
  · rename_i indices hindices
    obtain ⟨hnames, rfl⟩ := mapM_place_eq_ok.mp hindices
    rw [setKey_of_bounded] at h
    · cases h
    · intro index hm
      obtain ⟨name, hname, rfl⟩ := List.mem_map.mp hm
      simpa using List.idxOf_lt_length_iff.mpr (hnames name hname)

end Sheet

/-- The columns stand as they are written, under the key are the first columns of its names, and
there are no rows. -/
structure Table.Declared (t : Table) (name : String) (specs : List ColumnSpec)
    (key : List String) : Prop where
  sound : t.Sound
  name : t.name = name
  fields : specs.Forall₂ (fun spec field => field.name = spec.name ∧ spec.Declares field.kind)
    t.schema
  key : t.key.toFinset = (key.map (specs.map ColumnSpec.name).idxOf).toFinset
  rows : t.rows = []

namespace ColumnSpec

/-- The column of a table that is declared so. -/
def field (spec : ColumnSpec) : Except Error Field :=
  (Kind.ofText spec.typeText).map (Field.mk spec.name)

variable {spec : ColumnSpec}

theorem field_eq_ok (h : Worded spec.typeWord.toList) {field : Field} :
    spec.field = .ok field ↔ field.name = spec.name ∧ spec.Declares field.kind := by
  rw [← ofText?_typeText h]
  unfold ColumnSpec.field Kind.ofText
  rw [map_eq_ok]
  constructor
  · rintro ⟨kind, hkind, rfl⟩
    split at hkind
    · cases hkind
      exact ⟨rfl, ‹_›⟩
    · cases hkind
  · rintro ⟨hname, hkind⟩
    rw [hkind]
    exact ⟨field.kind, rfl, by rw [← hname]⟩

theorem exists_field_ok (h : Worded spec.typeWord.toList) :
    (∃ field, spec.field = .ok field) ↔ ∃ kind, spec.Declares kind := by
  simp only [field_eq_ok h]
  exact ⟨fun ⟨field, _, hkind⟩ => ⟨field.kind, hkind⟩, fun ⟨kind, hkind⟩ => ⟨⟨_, kind⟩, rfl, hkind⟩⟩

theorem field_eq_error (h : Worded spec.typeWord.toList) {e : Error} :
    spec.field = .error e ↔ e = .unknownKind spec.typeText ∧ ∀ kind, ¬ spec.Declares kind := by
  simp only [← ofText?_typeText h, ← Option.eq_none_iff_forall_ne_some]
  unfold ColumnSpec.field Kind.ofText
  rw [map_eq_error]
  cases Kind.ofText? spec.typeText <;> simp [eq_comm]

section Specs

variable {specs : List ColumnSpec} (hwords : ∀ spec ∈ specs, Worded spec.typeWord.toList)

include hwords

theorem mapM_field_eq_ok {schema : Schema} (h : specs.mapM ColumnSpec.field = .ok schema) :
    (∀ spec ∈ specs, ∃ kind, spec.Declares kind) ∧
      specs.Forall₂ (fun spec field => field.name = spec.name ∧ spec.Declares field.kind)
        schema := by
  constructor
  · intro spec hm
    exact (exists_field_ok (hwords spec hm)).mp (exists_mapM_ok.mp ⟨schema, h⟩ spec hm)
  · exact ((List.forall₂_and_left _ _).mpr ⟨hwords, mapM_eq_ok.mp h⟩).imp
      fun spec field h => (field_eq_ok h.1).mp h.2

theorem mapM_field_eq_error {e : Error} (h : specs.mapM ColumnSpec.field = .error e) :
    ∃ before spec after, specs = before ++ spec :: after ∧
      (∀ earlier ∈ before, ∃ kind, earlier.Declares kind) ∧
      (∀ kind, ¬ spec.Declares kind) ∧ e = .unknownKind spec.typeText := by
  obtain ⟨before, spec, after, rfl, hbefore, hspec⟩ := mapM_eq_error.mp h
  obtain ⟨hbeforeWords, hspecWords⟩ := List.forall_mem_append.mp hwords
  obtain ⟨rfl, hkinds⟩ := (field_eq_error (List.forall_mem_cons.mp hspecWords).1).mp hspec
  refine ⟨before, spec, after, rfl, fun earlier hm => ?_, hkinds, rfl⟩
  exact (exists_field_ok (hbeforeWords earlier hm)).mp (hbefore earlier hm)

end Specs

end ColumnSpec

/-- The first name without a column is refused, and with none such the key lies on the first
columns of the names. -/
theorem Table.setKeyByName_cases (name : String) (schema : Schema) (key : List String) :
    (∃ before column after, key = before ++ column :: after ∧
        (∀ earlier ∈ before, earlier ∈ schema.map Field.name) ∧
        column ∉ schema.map Field.name ∧
        (ofSchema name schema).setKeyByName key = .error (.missing (.column column))) ∨
      (∀ column ∈ key, column ∈ schema.map Field.name) ∧
        ∃ t, (ofSchema name schema).setKeyByName key = .ok t ∧ t.Sound ∧
          t.sheet = ⟨name, schema, (key.map (schema.map Field.name).idxOf).toFinset, []⟩ := by
  have hm := (sound_ofSchema name schema).setKeyByName key
  rw [sheet_ofSchema] at hm
  cases hkey : (ofSchema name schema).setKeyByName key with
  | error e =>
    rw [hkey] at hm
    obtain ⟨before, column, after, hsplit, hbefore, hcolumn, rfl⟩ := Sheet.setKeyByName_eq_error hm
    exact Or.inl ⟨before, column, after, hsplit, hbefore, hcolumn, rfl⟩
  | ok t =>
    rw [hkey] at hm
    obtain ⟨hsound, hsheet⟩ := hm.ok
    obtain ⟨hkeyed, hsheet⟩ := Sheet.setKeyByName_eq_ok hsheet
    exact Or.inr ⟨hkeyed, t, rfl, hsound, hsheet⟩

namespace Database

/-- What a statement that creates a table needs: a name of its own for it, a type for every column,
and a column for every name in the key. -/
structure Creatable (db : Database) (name : String) (specs : List ColumnSpec)
    (key : List String) : Prop where
  free : name ∉ db.names
  typed : ∀ spec ∈ specs, ∃ kind, spec.Declares kind
  keyed : ∀ column ∈ key, column ∈ specs.map ColumnSpec.name

/-- The first thing that is missing: the name, then the first type that is none, then the first
name of the key that no column has. -/
inductive Declined (db : Database) (name : String) (specs : List ColumnSpec)
    (key : List String) : Error → Prop where
  | taken (h : name ∈ db.names) : Declined db name specs key (.tableExists name)
  | untyped {before after : List ColumnSpec} {spec : ColumnSpec} (hfree : name ∉ db.names)
    (hspecs : specs = before ++ spec :: after)
    (hbefore : ∀ earlier ∈ before, ∃ kind, earlier.Declares kind)
    (hspec : ∀ kind, ¬ spec.Declares kind) :
    Declined db name specs key (.unknownKind spec.typeText)
  | unknown {before after : List String} {column : String} (hfree : name ∉ db.names)
    (htyped : ∀ spec ∈ specs, ∃ kind, spec.Declares kind) (hkey : key = before ++ column :: after)
    (hbefore : ∀ earlier ∈ before, earlier ∈ specs.map ColumnSpec.name)
    (hcolumn : column ∉ specs.map ColumnSpec.name) :
    Declined db name specs key (.missing (.column column))

variable {db : Database} {name : String} {specs : List ColumnSpec} {key : List String}

theorem Declined.not_creatable {e : Error} (h : db.Declined name specs key e) :
    ¬ db.Creatable name specs key := by
  intro hc
  cases h with
  | taken hm => exact hc.free hm
  | untyped _ hspecs _ hspec =>
    subst hspecs
    obtain ⟨kind, hkind⟩ := hc.typed _ (List.mem_append_right _ List.mem_cons_self)
    exact hspec kind hkind
  | unknown _ _ hkey _ hcolumn =>
    subst hkey
    exact hcolumn (hc.keyed _ (List.mem_append_right _ List.mem_cons_self))

theorem create_eq (db : Database) (name : String) (specs : List ColumnSpec) (key : List String) :
    db.create name specs key =
      if (db.find? name).isSome then .error (.tableExists name)
      else specs.mapM ColumnSpec.field >>= fun schema =>
        (Table.ofSchema name schema).setKeyByName key >>= db.add := by
  have hfields : specs.foldlM (fun t spec => t.declareColumn spec.typeText spec.name)
      (Table.empty name) = (specs.mapM ColumnSpec.field).map (Table.ofSchema name) :=
    foldlM_declareColumn ColumnSpec.typeText specs _
  have hcreate : db.create name specs key =
      if (db.find? name).isSome then .error (.tableExists name)
      else specs.foldlM (fun t spec => t.declareColumn spec.typeText spec.name)
        (Table.empty name) >>= fun declared => declared.setKeyByName key >>= db.add := by
    unfold Database.create
    cases db.find? name <;> rfl
  rw [hcreate, hfields]
  cases specs.mapM ColumnSpec.field <;> rfl

/-- A statement is declined, or its table comes last. -/
theorem create_cases (db : Database) (name : String) {specs : List ColumnSpec}
    (key : List String) (hwords : ∀ spec ∈ specs, Worded spec.typeWord.toList) :
    (∃ e, db.Declined name specs key e ∧ db.create name specs key = .error e) ∨
      db.Creatable name specs key ∧
        ∃ t : Table, db.create name specs key = .ok ⟨db.tables ++ [t]⟩ ∧
          t.Declared name specs key := by
  rw [create_eq]
  cases hfind : db.find? name with
  | some t =>
    obtain ⟨ht, rfl⟩ := find?_eq_some hfind
    exact Or.inl ⟨_, .taken (List.mem_map_of_mem ht), if_pos rfl⟩
  | none =>
    have hfree := find?_eq_none hfind
    rw [if_neg (by simp)]
    cases hschema : specs.mapM ColumnSpec.field with
    | error e =>
      obtain ⟨before, spec, after, hspecs, hbefore, hspec, rfl⟩ :=
        ColumnSpec.mapM_field_eq_error hwords hschema
      exact Or.inl ⟨_, .untyped hfree hspecs hbefore hspec, rfl⟩
    | ok schema =>
      obtain ⟨htyped, hfields⟩ := ColumnSpec.mapM_field_eq_ok hwords hschema
      have hnames : schema.map Field.name = specs.map ColumnSpec.name :=
        (map_eq_map_of_forall₂ hfields fun _ _ h => h.1.symm).symm
      have hcases := Table.setKeyByName_cases name schema key
      rw [hnames] at hcases
      change (∃ e, _ ∧ (Table.ofSchema name schema).setKeyByName key >>= db.add = _) ∨
        _ ∧ ∃ t, (Table.ofSchema name schema).setKeyByName key >>= db.add = _ ∧ _
      rcases hcases with ⟨before, column, after, hkey, hbefore, hcolumn, hset⟩ |
        ⟨hkeyed, t, hset, hsound, hsheet⟩
      · rw [hset]
        exact Or.inl ⟨_, .unknown hfree htyped hkey hbefore hcolumn, rfl⟩
      · have hname : t.name = name := congrArg Sheet.name hsheet
        have hadd : db.add t = .ok ⟨db.tables ++ [t]⟩ := if_neg (by simp [hname, hfind])
        rw [hset]
        refine Or.inr ⟨⟨hfree, htyped, hkeyed⟩, t, hadd, hsound, hname, ?_,
          congrArg Sheet.key hsheet, congrArg Sheet.rows hsheet⟩
        rw [show t.schema = schema from congrArg Sheet.schema hsheet]
        exact hfields

/-- A statement that is read creates its table exactly where the name is free, every column has a
type and every name of the key has a column. The table then comes last, and otherwise the database
stays and the first thing that is missing is the error. -/
theorem execute_createTable {sql : String}
    (hread : Statement.read sql = .ok (.change (.createTable name specs key))) (db : Database) :
    ((∃ outcome, (db.execute sql).2 = .ok outcome) ↔ db.Creatable name specs key) ∧
      (db.Creatable name specs key → ∃ t : Table, t.Declared name specs key ∧
        db.execute sql = (⟨db.tables ++ [t]⟩, .ok (.created name))) ∧
      (¬ db.Creatable name specs key → ∃ e, db.Declined name specs key e ∧
        db.execute sql = (db, .error e)) := by
  have hexecute : db.execute sql = db.apply (.createTable name specs key) := by
    unfold Database.execute
    rw [hread]
  rw [hexecute]
  dsimp only [Database.apply]
  rcases db.create_cases name key (Statement.worded_of_read hread) with
    ⟨e, hdeclined, hcreate⟩ | ⟨hcreatable, t, hcreate, hdeclared⟩
  · have hnot := hdeclined.not_creatable
    rw [hcreate]
    exact ⟨⟨nofun, fun h => absurd h hnot⟩, fun h => absurd h hnot, fun _ => ⟨e, hdeclined, rfl⟩⟩
  · rw [hcreate]
    exact ⟨⟨fun _ => hcreatable, fun _ => ⟨_, rfl⟩⟩, fun _ => ⟨t, hdeclared, rfl⟩,
      fun h => absurd hcreatable h⟩

/-- Two columns of one name, of which the key has the first, and a width where none belongs. -/
theorem execute_createTable_widths :
    let db := after [.execute "CREATE TABLE hall (place INT)"]
    (∃ t : Table, t.Declared "seat" [⟨"place", "Int", none⟩, ⟨"hall", "VARCHAR", some 8⟩,
          ⟨"place", "BOOL", none⟩] ["hall", "place"] ∧
        db.execute "CREATE TABLE seat (place Int, hall VARCHAR(8), place BOOL,
            PRIMARY KEY (hall, place))" = (⟨db.tables ++ [t]⟩, .ok (.created "seat"))) ∧
      ∃ e, db.Declined "seat" [⟨"place", "INT", some 3⟩] ["row"] e ∧
        db.execute "CREATE TABLE seat (place INT(3), PRIMARY KEY (row))" = (db, .error e) := by
  intro db
  have hfree : "seat" ∉ db.names := by decide +kernel
  constructor
  · refine (execute_createTable (by decide +kernel) db).2.1 ⟨hfree, ?_, by decide⟩
    simp only [List.forall_mem_cons, List.not_mem_nil, false_imp_iff, implies_true, and_true]
    exact ⟨⟨.int, by decide⟩, ⟨.text, by decide⟩, ⟨.bool, by decide⟩⟩
  · exact (execute_createTable (by decide +kernel) db).2.2 fun h => absurd h.keyed (by decide)

end Database

end Tabular
