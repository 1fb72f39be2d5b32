import Tabular.Proofs.Database.Frame
import Tabular.Proofs.Database.Transfer
import Tabular.Proofs.SaveFile.Titles
import Tabular.Proofs.Table.Made

namespace Tabular
open Text

/-- The last operation that gives a name decides over it. -/
def renamed (name : String) (ops : List Operation) : String :=
  ops.foldl (fun name op => match op with
    | .rename other => other
    | _ => name) name

/-- What is done to a database from outside. -/
inductive Call where
  | execute (sql : String)
  | add (t : Table) (ht : t.Made)
  | drop (name : String)
  | load (file : Except FileFault ByteArray)
  | on (name : String) (ops : List Operation)

namespace Database

/-- A call may fail, and an operation on a table may. -/
def call (db : Database) : Call → Database
  | .execute sql => (db.execute sql).1
  | .add t _ => (db.add t).toOption.getD db
  | .drop name => (db.drop name).toOption.elim db Prod.snd
  | .load file => (db.load file).1
  | .on name ops => (db.find? name).elim db fun t => db.put name (replay Table.apply t ops).1

def served (calls : List Call) : Database :=
  calls.foldl call empty

end Database

/-- Only operations on a table can give it a name that another one has. -/
def Call.Free (db : Database) : Call → Prop
  | .on name ops => name ∈ db.names → renamed name ops = name ∨ renamed name ops ∉ db.names
  | _ => True

theorem SaveFile.made_of_ofFile {file : Except FileFault ByteArray} {ts : List Table}
    (h : ofFile file = .ok ts) : ∀ t ∈ ts, t.Made := by
  unfold ofFile at h
  split at h
  · cases h
  · exact fun t ht => .decode (mapError_eq_ok.mp h) ht

namespace Table

variable {t t' : Table} {op : Operation}

theorem Sound.name_apply (ht : t.Sound) (h : t.apply op = .ok t') :
    t'.name = renamed t.name [op] := by
  cases op with
  | addColumn field =>
    cases h
    rfl
  | declareColumn typeText name =>
    obtain ⟨kind, -, h⟩ := bind_eq_ok.mp h
    cases h
    rfl
  | setKey indices =>
    rw [setKey_eq_ok h]
    rfl
  | setKeyByName names =>
    obtain ⟨indices, -, h⟩ := bind_eq_ok.mp h
    rw [setKey_eq_ok h]
    rfl
  | insert row => exact (RowsOnly.insert h).name
  | update row column v => exact (RowsOnly.update ht h).name
  | delete row =>
    cases h
    exact t.name_delete row
  | clear =>
    cases h
    rfl
  | rename name =>
    cases h
    rfl

/-- A name is given without fail. -/
theorem renamed_of_error {e : Error} (h : t.apply op = .error e) (name : String) :
    renamed name [op] = name := by
  cases op <;> first | rfl | cases h

theorem Made.replay (ht : t.Made) (ops : List Operation) :
    (replay Table.apply t ops).1.Made ∧
      (replay Table.apply t ops).1.name = renamed t.name ops := by
  induction ops generalizing t with
  | nil => exact ⟨ht, rfl⟩
  | cons op rest ih =>
    have hcons : renamed t.name (op :: rest) = renamed (renamed t.name [op]) rest := rfl
    unfold Tabular.replay
    cases h : t.apply op with
    | error e =>
      rw [hcons, renamed_of_error h]
      exact ih ht
    | ok next =>
      rw [hcons, ← ht.sound.name_apply h]
      exact ih (ht.apply h)

/-- A write of a statement is an operation that it settles on as it goes. -/
theorem exists_operation {write : Write} (h : write.OfRows) (hw : write t = .ok t') :
    ∃ op, t.apply op = .ok t' := by
  cases h with
  | insert found =>
    obtain ⟨row, -, hinsert⟩ := bind_eq_ok.mp hw
    exact ⟨.insert row, hinsert⟩
  | update row column v => exact ⟨.update row column v, hw⟩
  | delete row => exact ⟨.delete row, hw⟩
  | clear => exact ⟨.clear, hw⟩

theorem Made.perform (ht : t.Made) {writes : List Write} (h : ∀ write ∈ writes, write.OfRows) :
    (t.perform writes).1.Made ∧ (t.perform writes).1.name = t.name := by
  refine perform_induction (P := fun t' => t'.Made ∧ t'.name = t.name) ?_ ⟨ht, rfl⟩
  rintro write hm old new ⟨hold, hname⟩ hw
  have hrows := RowsOnly.of_write (h write hm) hold.sound hw
  obtain ⟨op, hop⟩ := exists_operation (h write hm) hw
  exact ⟨hold.apply hop, hrows.name.trans hname⟩

theorem Made.undergo (ht : t.Made) {plan : Table → Except Error Plan} (hplan : Plan.OfRows plan) :
    (t.undergo plan).1.Made ∧ (t.undergo plan).1.name = t.name := by
  unfold Table.undergo
  cases hp : plan t with
  | error e => exact ⟨ht, rfl⟩
  | ok found => exact ht.perform (hplan t found hp)

end Table

namespace Database

variable {db next : Database} {t : Table}

/-- Every table of the next database was made, and its names are distinct if they were. -/
structure Follows (db next : Database) : Prop where
  made : ∀ t ∈ next.tables, t.Made
  nodup : db.names.Nodup → next.names.Nodup

variable (h : ∀ t ∈ db.tables, t.Made)

include h

theorem follows_self : db.Follows db := ⟨h, id⟩

theorem follows_add (ht : t.Made) (ha : db.add t = .ok next) : db.Follows next := by
  obtain ⟨hfree, rfl⟩ := add_eq_ok ha
  exact ⟨List.forall_mem_append.mpr ⟨h, List.forall_mem_singleton.mpr ht⟩,
    fun hn => nodup_names_append hn hfree⟩

theorem follows_addAll {ts : List Table} (hts : ∀ t ∈ ts, t.Made) (ha : db.addAll ts = .ok next) :
    db.Follows next := by
  induction ts generalizing db with
  | nil =>
    cases ha
    exact follows_self h
  | cons t ts ih =>
    obtain ⟨ht, hts⟩ := List.forall_mem_cons.mp hts
    obtain ⟨found, hfound, hrest⟩ := bind_eq_ok.mp ha
    have hfirst := follows_add h ht hfound
    have hlast := ih hfirst.made hts hrest
    exact ⟨hlast.made, fun hn => hlast.nodup (hfirst.nodup hn)⟩

theorem follows_drop {name : String} (hd : db.drop name = .ok (t, next)) : db.Follows next := by
  obtain ⟨found, -, hd⟩ := bind_eq_ok.mp hd
  cases hd
  have hsub : (db.tables.eraseP (·.name == name)).Sublist db.tables := List.eraseP_sublist
  exact ⟨fun t ht => h t (hsub.subset ht), fun hn => hn.sublist (hsub.map Table.name)⟩

theorem follows_put {name : String} {new : Table} (ht : new.Made) (hname : new.name = name) :
    db.Follows (db.put name new) := by
  refine ⟨fun t hm => ?_, fun hn => ?_⟩
  · rcases mem_put hm with rfl | hm
    · exact ht
    · exact h t hm
  · rwa [names_put db hname]

theorem follows_carryOut (name : String) {plan : Table → Except Error Plan}
    (hplan : Plan.OfRows plan) : db.Follows (db.carryOut name plan).1 := by
  rw [carryOut_undergo]
  cases hf : db.find? name with
  | none => exact follows_self h
  | some t =>
    obtain ⟨ht, hname⟩ := find?_eq_some hf
    obtain ⟨hmade, hkept⟩ := (h t ht).undergo hplan
    exact follows_put h hmade (hkept.trans hname)

theorem follows_create {name : String} {specs : List ColumnSpec} {key : List String}
    (hc : db.create name specs key = .ok next) : db.Follows next := by
  obtain ⟨schema, indices, t, -, hset, hadd⟩ := create_eq_ok hc
  have happly : (Table.ofSchema name schema).apply (.setKey indices) = .ok t := hset
  exact follows_add h (.apply (.ofSchema name schema) happly) hadd

theorem follows_apply (c : Change) : db.Follows (db.apply c).1 := by
  cases c with
  | createTable name specs key =>
    dsimp only [Database.apply]
    cases hc : db.create name specs key with
    | error e => exact follows_self h
    | ok next => exact follows_create h hc
  | dropTable name =>
    dsimp only [Database.apply]
    cases hd : db.drop name with
    | error e => exact follows_self h
    | ok found => exact follows_drop h hd
  | insert name columns groups => exact follows_carryOut h name fun _ _ hp => Plan.ofRows_insert hp
  | update name column literal filter =>
    exact follows_carryOut h name fun _ _ hp => Plan.ofRows_update hp
  | delete name filter => exact follows_carryOut h name fun _ _ hp => Plan.ofRows_delete hp

theorem follows_execute (sql : String) : db.Follows (db.execute sql).1 := by
  unfold execute
  cases Statement.read sql with
  | error fault => exact follows_self h
  | ok found =>
    cases found with
    | query q => exact follows_self h
    | change c => exact follows_apply h c

theorem follows_load (file : Except FileFault ByteArray) : db.Follows (db.load file).1 := by
  rw [load_eq]
  cases hts : SaveFile.ofFile file with
  | error failure => exact follows_self h
  | ok ts =>
    dsimp only
    cases ha : db.addAll ts with
    | error e => exact follows_self h
    | ok next => exact follows_addAll h (SaveFile.made_of_ofFile hts) ha

omit h

/-- A table in a place of its own can take any name that no other table has. -/
theorem nodup_names_put (hn : db.names.Nodup) (ht : t ∈ db.tables) {new : Table} :
    (db.put t.name new).names.Nodup ↔ new.name = t.name ∨ new.name ∉ db.names := by
  obtain ⟨before, behind, htables⟩ := List.append_of_mem ht
  have hnames : db.names = before.map Table.name ++ t.name :: behind.map Table.name := by
    unfold names
    rw [htables, List.map_append]
    rfl
  have hput : (db.put t.name new).names =
      before.map Table.name ++ new.name :: behind.map Table.name := by
    rw [put_of_nodup hn htables]
    exact List.map_append
  rw [hnames, List.nodup_middle, List.nodup_cons] at hn
  rw [hput, hnames, List.nodup_middle, List.nodup_cons]
  simp only [List.mem_append, List.mem_cons] at hn ⊢
  constructor
  · rintro ⟨hfree, -⟩
    tauto
  · rintro (heq | hfree)
    · rw [heq]
      exact hn
    · exact ⟨fun hm => hfree (hm.imp_right Or.inr), hn.2⟩

theorem followed (h : ∀ t ∈ db.tables, t.Made) (c : Call) :
    (∀ t ∈ (db.call c).tables, t.Made) ∧
      (db.names.Nodup → ((db.call c).names.Nodup ↔ c.Free db)) := by
  have hsafe : ∀ {next}, db.Follows next →
      (∀ t ∈ next.tables, t.Made) ∧ (db.names.Nodup → (next.names.Nodup ↔ True)) :=
    fun hf => ⟨hf.made, fun hn => iff_true_intro (hf.nodup hn)⟩
  cases c with
  | execute sql => exact hsafe (follows_execute h sql)
  | add t ht =>
    dsimp only [call]
    cases ha : db.add t with
    | error e => exact hsafe (follows_self h)
    | ok next => exact hsafe (follows_add h ht ha)
  | drop name =>
    dsimp only [call]
    cases hd : db.drop name with
    | error e => exact hsafe (follows_self h)
    | ok found => exact hsafe (follows_drop h hd)
  | load file => exact hsafe (follows_load h file)
  | on name ops =>
    dsimp only [call]
    cases hf : db.find? name with
    | none =>
      have hfree : Call.Free db (.on name ops) := fun hm => absurd hm (find?_eq_none hf)
      exact ⟨h, fun hn => iff_of_true hn hfree⟩
    | some t =>
      obtain ⟨ht, rfl⟩ := find?_eq_some hf
      obtain ⟨hmade, hname⟩ := (h t ht).replay ops
      refine ⟨fun t' hm => ?_, fun hn => ?_⟩
      · rcases mem_put hm with rfl | hm
        · exact hmade
        · exact h t' hm
      · have hmem : t.name ∈ db.names := List.mem_map_of_mem ht
        exact (nodup_names_put hn ht).trans (by simp [hname, Call.Free, hmem])

theorem served_append (front : List Call) (c : Call) :
    served (front ++ [c]) = (served front).call c := List.foldl_concat ..

theorem made_served (calls : List Call) : ∀ t ∈ (served calls).tables, t.Made := by
  induction calls using List.reverseRecOn with
  | nil => exact nofun
  | append_singleton front c ih =>
    rw [served_append]
    exact (followed ih c).1

/-- The names stay distinct all along just if no call gives a table the name of another one. -/
theorem nodup_served_iff (calls : List Call) :
    (∀ front, front <+: calls → (served front).names.Nodup) ↔
      ∀ front c, front ++ [c] <+: calls → c.Free (served front) := by
  constructor
  · intro h front c hp
    have hnext := h _ hp
    rw [served_append] at hnext
    have hfront := h front ((List.prefix_append front [c]).trans hp)
    exact ((followed (made_served front) c).2 hfront).mp hnext
  · intro h front
    induction front using List.reverseRecOn with
    | nil => exact fun _ => List.nodup_nil
    | append_singleton front c ih =>
      intro hp
      rw [served_append]
      have hfront := ih ((List.prefix_append front [c]).trans hp)
      exact ((followed (made_served front) c).2 hfront).mpr (h front c hp)

/-- Under distinct names, each table is the first under its name. -/
theorem nodup_names_iff (db : Database) : db.names.Nodup ↔
    ∀ i t, db.tables[i]? = some t → db.tables.findIdx? (·.name == t.name) = some i := by
  unfold names List.Nodup
  rw [List.pairwise_map, List.pairwise_iff_getElem]
  constructor
  · intro h i t ht
    obtain ⟨hi, rfl⟩ := List.getElem?_eq_some_iff.mp ht
    rw [List.findIdx?_eq_some_iff_getElem]
    exact ⟨hi, beq_self_eq_true _, fun j hj => by simpa using h j i (by omega) hi hj⟩
  · intro h i j hi hj hij heq
    obtain ⟨_, -, hfirst⟩ :=
      List.findIdx?_eq_some_iff_getElem.mp (h j _ (List.getElem?_eq_getElem hj))
    exact hfirst i hij (by simpa using heq)

theorem clashes_empty {ts : List Table} : empty.Clashes ts ↔ ¬ (ts.map Table.name).Nodup := by
  constructor
  · intro h hn
    obtain ⟨name, hadd⟩ := addAll_of_clashes h
    have hnames : (empty.names ++ ts.map Table.name).Nodup := hn
    rw [addAll_of_nodup hnames] at hadd
    cases hadd
  · intro h
    by_contra hfree
    exact h (nodup_of_not_clashes built_empty.names hfree)

theorem load_empty_tableExists_iff {text : String} :
    (∃ name, (empty.load (.ok text.toUTF8)).2 = .error (.engine (.tableExists name))) ↔
      ∃ ts, SaveFile.decode text = .ok ts ∧ ¬ (ts.map Table.name).Nodup := by
  rw [load_tableExists_iff built_empty.names, SaveFile.ofFile_toUTF8]
  simp only [mapError_eq_ok, clashes_empty]

/-- From the first call on, the names are distinct as long as no table is given one that another
table has. Then each table is found under its name, and if the names stand on their lines no two
tables come back under one name. -/
theorem names_distinct_iff (calls : List Call) :
    let db := served calls
    ((∀ front, front <+: calls → (served front).names.Nodup) ↔
        ∀ front c, front ++ [c] <+: calls → c.Free (served front)) ∧
      (db.names.Nodup ↔
        ∀ i t, db.tables[i]? = some t → db.tables.findIdx? (·.name == t.name) = some i) ∧
      (db.names.Nodup → ∀ t ∈ db.tables, db.find? t.name = some t) ∧
      (db.Counted →
        (∀ t ∈ db.tables, Title t.name.toList ∧ ∀ field ∈ t.schema, Word field.name.toList) →
        ∀ text, SaveFile.encode db.tables = .ok text →
          ((∃ name, (empty.load (.ok text.toUTF8)).2 = .error (.engine (.tableExists name))) ↔
            ¬ db.names.Nodup ∧ ∃ ts, SaveFile.decode text = .ok ts)) := by
  intro db
  refine ⟨nodup_served_iff calls, nodup_names_iff db, fun hn _ ht => find?_of_nodup hn ht, ?_⟩
  intro hc htitles text hencode
  have hunbroken := (SaveFile.encode_eq_ok.mp hencode).1
  have hlined : ∀ t ∈ db.tables, t.Lined := by
    intro t ht
    obtain ⟨hname, hfields⟩ := htitles t ht
    exact ⟨(made_served calls t ht).sound, hname, hfields, hunbroken t ht, hc.widths t ht,
      hc.rowCounts t ht⟩
  have hnames : ∀ ts, SaveFile.decode text = .ok ts → ts.map Table.name = db.names :=
    fun _ hd => SaveFile.names_of_decode hc.tables hlined hencode hd
  rw [load_empty_tableExists_iff]
  constructor
  · rintro ⟨ts, hd, hrepeats⟩
    rw [hnames ts hd] at hrepeats
    exact ⟨hrepeats, ts, hd⟩
  · rintro ⟨hrepeats, ts, hd⟩
    refine ⟨ts, hd, ?_⟩
    rwa [hnames ts hd]

/-- On its way to a name of its own, the second table has that of the first. -/
def freeName : List Call :=
  [.execute "CREATE TABLE hall (place INT)", .execute "CREATE TABLE seat (place INT)",
    .on "seat" [.rename "hall", .insert [.int 1], .rename "row"]]

theorem names_distinct_iff_freeName :
    (∀ front, front <+: freeName → (served front).names.Nodup) ∧
      (∀ t ∈ (served freeName).tables, (served freeName).find? t.name = some t) ∧
      ∃ text, SaveFile.encode (served freeName).tables = .ok text ∧
        ¬ ∃ name, (empty.load (.ok text.toUTF8)).2 = .error (.engine (.tableExists name)) := by
  have hshown : (served freeName).tables.map
      (fun t => (t.name, t.schema, t.width, t.rowCount)) =
        [("hall", [⟨"place", .int⟩], 1, 0), ("row", [⟨"place", .int⟩], 1, 1)] := by
    decide +kernel
  have hencode : SaveFile.encode (served freeName).tables =
      .ok "2\nhall\n1\nint place\n0\n0\nrow\n1\nint place\n0\n1\n1\n" := by
    decide +kernel
  have hfree : (served (freeName.take 2)).names = ["hall", "seat"] := by
    decide +kernel
  obtain ⟨hall, rest, htables, hhall, hrest⟩ := List.map_eq_cons_iff.mp hshown
  obtain ⟨row, rfl, hrow⟩ := List.map_eq_singleton_iff.mp hrest
  simp only [Prod.mk.injEq] at hhall hrow
  have hplace : Word "place".toList := by decide
  have hcounted : (served freeName).Counted := by
    constructor <;> simp [htables, hhall, hrow, indexLimit]
  have htitles : ∀ t ∈ (served freeName).tables,
      Title t.name.toList ∧ ∀ field ∈ t.schema, Word field.name.toList := by
    have hfirst : Word "hall".toList := by decide
    have hsecond : Word "row".toList := by decide
    simpa [htables, hhall, hrow] using
      ⟨⟨hfirst.title, hplace⟩, hsecond.title, hplace⟩
  have hnodup : (served freeName).names.Nodup := by
    simp [names, htables, hhall, hrow]
  obtain ⟨hdistinct, -, hfind, hload⟩ := names_distinct_iff freeName
  refine ⟨hdistinct.mpr ?_, hfind hnodup, _, hencode, ?_⟩
  · rintro front c ⟨behind, heq⟩
    rcases front with _ | ⟨a, _ | ⟨b, _ | ⟨d, front⟩⟩⟩
    · cases heq
      trivial
    · cases heq
      trivial
    · cases heq
      refine fun _ => Or.inr ?_
      change "row" ∉ (served (freeName.take 2)).names
      rw [hfree]
      decide
    · cases front <;> cases heq
  · rw [hload hcounted htitles _ hencode]
    exact fun h => h.1 hnodup

/-- The second table is given the name of the first. -/
def takenName : List Call :=
  [.execute "CREATE TABLE hall (place INT)", .execute "CREATE TABLE seat (place INT)",
    .on "seat" [.rename "hall"]]

/-- Two names that a line of a save file does not tell apart. -/
def spacedName : List Call :=
  [.add (.empty "hall") (.empty "hall"), .add (.empty " hall") (.empty " hall")]

theorem not_loaded_takenName :
    (¬ (served takenName).names.Nodup ∧
      (∃ t, (served takenName).tables[1]? = some t ∧
        (served takenName).tables.findIdx? (·.name == t.name) = some 0) ∧
      ∃ text, SaveFile.encode (served takenName).tables = .ok text ∧
        ∃ name, (empty.load (.ok text.toUTF8)).2 = .error (.engine (.tableExists name))) ∧
    (served spacedName).names.Nodup ∧
      ∃ text, SaveFile.encode (served spacedName).tables = .ok text ∧
        ∃ name, (empty.load (.ok text.toUTF8)).2 = .error (.engine (.tableExists name)) := by
  have htaken : (served takenName).names = ["hall", "hall"] := by
    decide +kernel
  have hspaced : (served spacedName).names = ["hall", " hall"] := by
    decide +kernel
  have hfirst : (served takenName).tables[1]?.map (fun t =>
      (served takenName).tables.findIdx? (·.name == t.name)) = some (some 0) := by
    decide +kernel
  have hencode : SaveFile.encode (served takenName).tables =
      .ok "2\nhall\n1\nint place\n0\n0\nhall\n1\nint place\n0\n0\n" := by
    decide +kernel
  have hencode' : SaveFile.encode (served spacedName).tables =
      .ok "2\nhall\n0\n0\n0\n hall\n0\n0\n0\n" := by
    decide +kernel
  have hread : (SaveFile.decode "2\nhall\n1\nint place\n0\n0\nhall\n1\nint place\n0\n0\n").map
      (·.map Table.name) = .ok ["hall", "hall"] := by
    decide +kernel
  have hread' : (SaveFile.decode "2\nhall\n0\n0\n0\n hall\n0\n0\n0\n").map
      (·.map Table.name) = .ok ["hall", "hall"] := by
    decide +kernel
  obtain ⟨t, ht, hplace⟩ := Option.map_eq_some_iff.mp hfirst
  obtain ⟨ts, hd, hnames⟩ := map_eq_ok.mp hread
  obtain ⟨ts', hd', hnames'⟩ := map_eq_ok.mp hread'
  rw [htaken, hspaced]
  refine ⟨⟨by decide, ⟨t, ht, hplace⟩, _, hencode, ?_⟩, by decide, _, hencode', ?_⟩
  · exact load_empty_tableExists_iff.mpr ⟨ts, hd, by rw [hnames]; decide⟩
  · exact load_empty_tableExists_iff.mpr ⟨ts', hd', by rw [hnames']; decide⟩

end Database

end Tabular
