import Tabular.Console
import Tabular.Proofs.SaveFile.Made
import Tabular.Proofs.Table.Inserts
import Tabular.Proofs.Token.Names

namespace Tabular
open Text

/-- What loading a file comes to, once the file has been read or has not. -/
def Database.load (db : Database) (file : Except FileFault ByteArray) :
    Database × Except Failure Nat :=
  match file with
  | .error fault => (db, .error (.file fault))
  | .ok content =>
    match db.restore content with
    | .ok (next, count) => (next, .ok count)
    | .error failure => (db, .error failure)

theorem Console.load_eq {m : Type → Type} [Monad m] [LawfulMonad m] [Host m] (db : Database)
    (file : String) : Console.load (m := m) db file = db.load <$> Host.read file := by
  unfold Console.load
  rw [map_eq_pure_bind]
  congr 1
  funext found
  unfold Database.load
  cases found with
  | error fault => rfl
  | ok content =>
    dsimp only
    cases db.restore content <;> rfl

inductive Action where
  | execute (sql : String)
  | load (file : Except FileFault ByteArray)

namespace Database

/-- An action that fails may have changed the database all the same. -/
def act (db : Database) : Action → Database
  | .execute sql => (db.execute sql).1
  | .load file => (db.load file).1

def after (actions : List Action) : Database :=
  actions.foldl act empty

/-- The tables are built from statements or save files, and no two have one name. -/
structure Built (db : Database) : Prop where
  tables : ∀ t ∈ db.tables, t.Built
  names : db.names.Nodup

end Database

/-- A write that goes through leaves a table that is built under the name it had. -/
def Write.Keeps (write : Write) : Prop :=
  ∀ t t', t.Built → write t = .ok t' → t'.Built ∧ t'.name = t.name

/-- The writes that statements make. -/
inductive Write.OfRows : Write → Prop where
  | insert (found : Except Error Row) : OfRows fun current => found >>= current.insert
  | update (row column : Nat) (v : Value) : OfRows fun current => current.update row column v
  | delete (row : Nat) : OfRows fun current => .ok (current.delete row)
  | clear : OfRows fun current => .ok current.clear

namespace Table

variable {t t' : Table}

theorem Built.name_insert (ht : t.Built) {row : Row} (h : t.insert row = .ok t') :
    t'.name = t.name := by
  have hm := ht.sound_fit.1.insert row
  rw [h] at hm
  obtain ⟨filled, -, -, -, -, heq⟩ := Sheet.insert_ok hm.ok.2
  exact congrArg Sheet.name heq

theorem Built.name_update (ht : t.Built) {row column : Nat} {v : Value}
    (h : t.update row column v = .ok t') : t'.name = t.name := by
  have hm := ht.sound_fit.1.update row column v
  rw [h] at hm
  obtain ⟨old, field, -, -, -, -, heq⟩ := Sheet.update_ok hm.ok.2
  exact congrArg Sheet.name heq

theorem name_delete (t : Table) (row : Nat) : (t.delete row).name = t.name := by
  unfold delete
  split <;> rfl

end Table

theorem Write.OfRows.keeps {write : Write} (h : write.OfRows) : write.Keeps := by
  intro t t' ht hw
  cases h with
  | insert found =>
    obtain ⟨row, -, hinsert⟩ := bind_eq_ok.mp hw
    exact ⟨ht.insert hinsert, ht.name_insert hinsert⟩
  | update row column v => exact ⟨ht.update hw, ht.name_update hw⟩
  | delete row =>
    cases hw
    exact ⟨ht.delete row, t.name_delete row⟩
  | clear =>
    cases hw
    exact ⟨ht.clear, rfl⟩

/-- The writes before one that is refused stay, and so does what holds of them. -/
theorem Table.Built.perform {t : Table} (ht : t.Built) {writes : List Write}
    (h : ∀ write ∈ writes, write.OfRows) :
    (t.perform writes).1.Built ∧ (t.perform writes).1.name = t.name := by
  refine perform_induction (P := fun t' => t'.Built ∧ t'.name = t.name) ?_ ⟨ht, rfl⟩
  rintro write hm old new ⟨hold, hname⟩ hw
  obtain ⟨hnew, hkept⟩ := (h write hm).keeps old new hold hw
  exact ⟨hnew, hkept.trans hname⟩

namespace Plan

variable {t : Table} {plan : Plan}

theorem ofRows_insert {columns : Option (List String)} {groups : List (List Literal)}
    (h : insert t columns groups = .ok plan) : ∀ write ∈ plan.writes, write.OfRows := by
  obtain ⟨targets, -, -, rfl⟩ := insert_eq_ok.mp h
  exact List.forall_mem_map.mpr fun group _ => .insert (t.schema.fill targets group)

theorem ofRows_update {column : String} {literal : Literal} {filter : Filter}
    (h : update t column literal filter = .ok plan) : ∀ write ∈ plan.writes, write.OfRows := by
  obtain ⟨target, -, h⟩ := bind_eq_ok.mp h
  obtain ⟨v, -, h⟩ := bind_eq_ok.mp h
  obtain ⟨rows, -, h⟩ := bind_eq_ok.mp h
  cases h
  exact List.forall_mem_map.mpr fun row _ => .update row target v

theorem ofRows_delete {filter : Filter} (h : delete t filter = .ok plan) :
    ∀ write ∈ plan.writes, write.OfRows := by
  unfold delete at h
  split at h
  · cases h
    exact List.forall_mem_singleton.mpr .clear
  · obtain ⟨rows, -, h⟩ := bind_eq_ok.mp h
    cases h
    exact List.forall_mem_map.mpr fun row _ => .delete row

end Plan

namespace Database

variable {db next : Database}

theorem built_empty : empty.Built := ⟨nofun, List.nodup_nil⟩

theorem find?_eq_none {name : String} (h : db.find? name = none) : name ∉ db.names := by
  intro hm
  obtain ⟨t, ht, rfl⟩ := List.mem_map.mp hm
  exact List.find?_eq_none.mp h t ht (beq_self_eq_true t.name)

theorem find?_eq_some {name : String} {t : Table} (h : db.find? name = some t) :
    t ∈ db.tables ∧ t.name = name :=
  ⟨List.mem_of_find?_eq_some h, by simpa using List.find?_some h⟩

theorem names_append (db : Database) (ts : List Table) :
    names ⟨db.tables ++ ts⟩ = db.names ++ ts.map Table.name :=
  List.map_append

theorem nodup_names_append (h : db.names.Nodup) {t : Table} (hfree : t.name ∉ db.names) :
    (names ⟨db.tables ++ [t]⟩).Nodup := by
  rw [names_append]
  exact List.nodup_append_comm.mp (List.nodup_cons.mpr ⟨hfree, h⟩)

theorem add_eq_ok {t : Table} (h : db.add t = .ok next) :
    t.name ∉ db.names ∧ next = ⟨db.tables ++ [t]⟩ := by
  unfold add at h
  split at h
  · cases h
  · rename_i hnone
    cases h
    exact ⟨find?_eq_none (by simpa using hnone), rfl⟩

theorem Built.add (h : db.Built) {t : Table} (ht : t.Built) (ha : db.add t = .ok next) :
    next.Built := by
  obtain ⟨hfree, rfl⟩ := add_eq_ok ha
  exact ⟨List.forall_mem_append.mpr ⟨h.tables, List.forall_mem_singleton.mpr ht⟩,
    nodup_names_append h.names hfree⟩

theorem Built.addAll (h : db.Built) {ts : List Table} (hts : ∀ t ∈ ts, t.Built)
    (ha : db.addAll ts = .ok next) : next.Built := by
  induction ts generalizing db with
  | nil =>
    cases ha
    exact h
  | cons t ts ih =>
    obtain ⟨ht, hts⟩ := List.forall_mem_cons.mp hts
    obtain ⟨found, hfound, hrest⟩ := bind_eq_ok.mp ha
    exact ih (h.add ht hfound) hts hrest

theorem Built.drop (h : db.Built) {name : String} {t : Table}
    (hd : db.drop name = .ok (t, next)) : next.Built := by
  obtain ⟨found, -, hd⟩ := bind_eq_ok.mp hd
  cases hd
  have hsub : (db.tables.eraseP (·.name == name)).Sublist db.tables := List.eraseP_sublist
  exact ⟨fun t ht => h.tables t (hsub.subset ht), h.names.sublist (hsub.map Table.name)⟩

theorem mem_put {name : String} {new t : Table} {ts : List Table} (h : t ∈ put.go name new ts) :
    t = new ∨ t ∈ ts := by
  induction ts with
  | nil => cases h
  | cons head rest ih =>
    unfold put.go at h
    split at h
    · exact (List.mem_cons.mp h).imp_right (List.mem_cons_of_mem head)
    · rcases List.mem_cons.mp h with rfl | h
      · exact Or.inr List.mem_cons_self
      · exact (ih h).imp_right (List.mem_cons_of_mem head)

theorem names_put (db : Database) {name : String} {new : Table} (h : new.name = name) :
    (db.put name new).names = db.names := by
  have hgo : ∀ ts : List Table, (put.go name new ts).map Table.name = ts.map Table.name := by
    intro ts
    induction ts with
    | nil => rfl
    | cons head rest ih =>
      unfold put.go
      split
      · rename_i hname
        rw [List.map_cons, List.map_cons, h, beq_iff_eq.mp hname]
      · rw [List.map_cons, List.map_cons, ih]
  exact hgo db.tables

theorem Built.put (h : db.Built) {name : String} {new : Table} (ht : new.Built)
    (hn : new.name = name) : (db.put name new).Built := by
  refine ⟨?_, ?_⟩
  · intro t hm
    rcases mem_put hm with rfl | hm
    · exact ht
    · exact h.tables t hm
  · rw [names_put db hn]
    exact h.names

/-- The columns of a new table are declared together before any of them is there. -/
theorem foldlM_declareColumn (typeText : ColumnSpec → String) (specs : List ColumnSpec)
    (t : Table) :
    specs.foldlM (fun t spec => t.declareColumn (typeText spec) spec.name) t =
      (specs.mapM fun spec => (Kind.ofText (typeText spec)).map (Field.mk spec.name)).map
        (·.foldl Table.addColumn t) := by
  induction specs generalizing t with
  | nil => rfl
  | cons spec rest ih =>
    rw [List.foldlM_cons, List.mapM_cons]
    unfold Table.declareColumn at ih ⊢
    cases Kind.ofText (typeText spec) with
    | error e => rfl
    | ok kind =>
      refine (ih (t.addColumn ⟨spec.name, kind⟩)).trans ?_
      cases rest.mapM fun spec => (Kind.ofText (typeText spec)).map (Field.mk spec.name) <;> rfl

theorem create_eq_ok {name : String} {specs : List ColumnSpec} {key : List String}
    (h : db.create name specs key = .ok next) : ∃ schema indices t,
      schema.map Field.name = specs.map ColumnSpec.name ∧
        (Table.ofSchema name schema).setKey indices = .ok t ∧ db.add t = .ok next := by
  unfold Database.create at h
  dsimp only at h
  split at h
  · cases h
  · obtain ⟨declared, hd, hrest⟩ := bind_eq_ok.mp h
    obtain ⟨t, hk, hadd⟩ := bind_eq_ok.mp hrest
    obtain ⟨indices, -, hset⟩ := bind_eq_ok.mp hk
    rw [foldlM_declareColumn] at hd
    obtain ⟨schema, hschema, rfl⟩ := map_eq_ok.mp hd
    refine ⟨schema, indices, t, ?_, hset, hadd⟩
    refine (map_eq_map_of_forall₂ (mapM_eq_ok.mp hschema) fun spec field hfield => ?_).symm
    obtain ⟨kind, -, rfl⟩ := map_eq_ok.mp hfield
    rfl

theorem Built.create (h : db.Built) {name : String} {specs : List ColumnSpec} {key : List String}
    (hname : Word name.toList) (hspecs : ∀ spec ∈ specs, Word spec.name.toList)
    (hc : db.create name specs key = .ok next) : next.Built := by
  obtain ⟨schema, indices, t, hnames, hset, hadd⟩ := create_eq_ok hc
  refine h.add (.declared hname.title ?_ hset) hadd
  intro field hf
  have hm : field.name ∈ specs.map ColumnSpec.name := by
    rw [← hnames]
    exact List.mem_map_of_mem hf
  obtain ⟨spec, hs, heq⟩ := List.mem_map.mp hm
  rw [← heq]
  exact hspecs spec hs

theorem Built.carryOut (h : db.Built) (name : String) {plan : Table → Except Error Plan}
    (hplan : ∀ t found, plan t = .ok found → ∀ write ∈ found.writes, write.OfRows) :
    (db.carryOut name plan).1.Built := by
  unfold Database.carryOut Database.table
  cases hf : db.find? name with
  | none => exact h
  | some old =>
    dsimp only
    obtain ⟨hold, hname⟩ := find?_eq_some hf
    cases hp : plan old with
    | error e => exact h
    | ok found =>
      dsimp only
      obtain ⟨hnew, hkept⟩ := (h.tables old hold).perform (hplan old found hp)
      split <;> rename_i heq <;> rw [heq] at hnew hkept
      · exact h.put hnew (hkept.trans hname)
      · exact h.put hnew (hkept.trans hname)

theorem Built.apply (h : db.Built) {change : Change} (hn : (Statement.change change).Named) :
    (db.apply change).1.Built := by
  cases change with
  | createTable name specs key =>
    dsimp only [Database.apply]
    cases hc : db.create name specs key with
    | error e => exact h
    | ok next => exact h.create hn.1 hn.2 hc
  | dropTable name =>
    dsimp only [Database.apply]
    cases hd : db.drop name with
    | error e => exact h
    | ok found => exact h.drop hd
  | insert name columns groups => exact h.carryOut name fun _ _ hp => Plan.ofRows_insert hp
  | update name column literal filter => exact h.carryOut name fun _ _ hp => Plan.ofRows_update hp
  | delete name filter => exact h.carryOut name fun _ _ hp => Plan.ofRows_delete hp

theorem Built.execute (h : db.Built) (sql : String) : (db.execute sql).1.Built := by
  unfold Database.execute
  cases hr : Statement.read sql with
  | error fault => exact h
  | ok found =>
    cases found with
    | query q => exact h
    | change c => exact h.apply (Statement.named_of_read hr)

theorem Built.load (h : db.Built) (file : Except FileFault ByteArray) :
    (db.load file).1.Built := by
  unfold Database.load
  cases file with
  | error fault => exact h
  | ok content =>
    dsimp only
    cases hr : db.restore content with
    | error failure => exact h
    | ok found =>
      obtain ⟨next, count⟩ := found
      obtain ⟨text, -, hr⟩ := bind_eq_ok.mp hr
      obtain ⟨ts, hts, hr⟩ := bind_eq_ok.mp hr
      obtain ⟨added, hadded, hr⟩ := bind_eq_ok.mp hr
      cases hr
      exact h.addAll (SaveFile.built_of_decode (mapError_eq_ok.mp hts)) (mapError_eq_ok.mp hadded)

theorem Built.act (h : db.Built) (action : Action) : (db.act action).Built := by
  cases action with
  | execute sql => exact h.execute sql
  | load file => exact h.load file

theorem built_after (actions : List Action) : (after actions).Built := by
  have hfrom : ∀ db : Database, db.Built → (actions.foldl Database.act db).Built := by
    induction actions with
    | nil => exact fun _ h => h
    | cons action rest ih => exact fun db h => ih _ (h.act action)
  exact hfrom empty built_empty

/-- However a database came about, two rows of one of its tables differ somewhere in the key, if
there is one. -/
theorem keys_distinct (actions : List Action) {t : Table} (ht : t ∈ (after actions).tables)
    (hkey : t.key ≠ []) {i j : Nat} {a b : Row} (hij : i ≠ j) (ha : t.row? i = some a)
    (hb : t.row? j = some b) :
    ∃ column ∈ t.key, (a.value column).same (b.value column) = false := by
  obtain ⟨hsound, hfit⟩ := ((built_after actions).tables t ht).sound_fit
  rw [← hsound.getElem?_rows] at ha hb
  have hne : t.sheet.key.Nonempty := by
    obtain ⟨index, hindex⟩ := List.exists_mem_of_ne_nil t.key hkey
    exact ⟨index, List.mem_toFinset.mpr hindex⟩
  have hdisagree : ¬ Row.agree t.key a b = true :=
    fun hagree => hfit.keyed hne i j a b hij ha hb ((Table.agree_iff t.key a b).mp hagree)
  simpa [Row.agree] using hdisagree

/-- The last of the rows is refused, and those before it stay. -/
def refusedRow : List Action :=
  [.execute "CREATE TABLE seat (hall INT, place INT, PRIMARY KEY (hall, place))",
    .execute "INSERT INTO seat VALUES (1, 2), (1, NULL), (1, 2)"]

theorem keys_distinct_refusedRow :
    ∃ t ∈ (after refusedRow).tables, t.row? 0 = some [.int 1, .int 2] ∧
      t.row? 1 = some [.int 1, .null] ∧ t.row? 2 = none ∧
      ∃ column ∈ t.key, (Row.value [.int 1, .int 2] column).same
        (Row.value [.int 1, .null] column) = false := by
  have hshown : ((after refusedRow).tables.map fun t => (t.key, t.row? 0, t.row? 1, t.row? 2)) =
      [([0, 1], some [.int 1, .int 2], some [.int 1, .null], none)] := by
    decide +kernel
  obtain ⟨t, htables, heq⟩ := List.map_eq_singleton_iff.mp hshown
  simp only [Prod.mk.injEq] at heq
  obtain ⟨hkey, h0, h1, h2⟩ := heq
  have ht : t ∈ (after refusedRow).tables := by
    rw [htables]
    exact List.mem_singleton_self t
  have hne : t.key ≠ [] := by
    rw [hkey]
    exact List.cons_ne_nil 0 [1]
  exact ⟨t, ht, h0, h1, h2, keys_distinct refusedRow ht hne Nat.zero_ne_one h0 h1⟩

end Database

end Tabular
