import Tabular.Directory
import Tabular.Proofs.Result

namespace Tabular.Directory

variable {d d' d'' : Directory}

theorem lookup_map_put {entries : List (Path × Entry)} (path : Path) (entry : Entry)
    (other : Path) :
    (entries.map fun (p, old) => (p, if p = path then entry else old)).lookup other =
      if other = path then (entries.lookup other).map fun _ => entry
      else entries.lookup other := by
  induction entries with
  | nil => simp
  | cons head rest ih =>
    obtain ⟨p, old⟩ := head
    rw [List.map_cons, List.lookup_cons, List.lookup_cons, ih]
    by_cases hp : other == p
    · rw [hp, beq_iff_eq.mp hp]
      dsimp only
      split <;> rfl
    · rw [Bool.eq_false_iff.mpr hp]

theorem find?_put {path : Path} (hne : path ≠ []) (entry : Entry) (other : Path) :
    (d.put path entry).find? other = if other = path then some entry else d.find? other := by
  unfold find?
  by_cases hother : other = []
  · subst hother
    rw [if_neg (Ne.symm hne)]
    rfl
  · simp only [List.isEmpty_iff, hother, ↓reduceIte]
    unfold put
    split
    · rename_i hsome
      rw [lookup_map_put]
      split
      · rename_i heq
        subst heq
        obtain ⟨old, hold⟩ := Option.isSome_iff_exists.mp hsome
        rw [hold]
        rfl
      · rfl
    · rename_i hnone
      rw [List.lookup_append, List.lookup_cons]
      by_cases heq : other == path
      · rw [heq, if_pos (beq_iff_eq.mp heq), beq_iff_eq.mp heq,
          Option.not_isSome_iff_eq_none.mp hnone]
        rfl
      · rw [Bool.eq_false_iff.mpr heq, if_neg fun he => heq (beq_iff_eq.mpr he)]
        exact Option.or_none

/-- The folders of one directory are those of the other. -/
def SameFolders (d d' : Directory) : Prop :=
  ∀ path, d.find? path = some .folder ↔ d'.find? path = some .folder

namespace SameFolders

theorem refl (d : Directory) : d.SameFolders d := fun _ => Iff.rfl

theorem symm (h : d.SameFolders d') : d'.SameFolders d := fun path => (h path).symm

theorem trans (h : d.SameFolders d') (h' : d'.SameFolders d'') : d.SameFolders d'' :=
  fun path => (h path).trans (h' path)

theorem enter (h : d.SameFolders d') {path next : Path} {name : String}
    (he : d.enter path name = .ok next) : d'.enter path name = .ok next := by
  unfold Directory.enter at he ⊢
  split at he
  · rename_i hstay
    rwa [if_pos hstay]
  · rename_i hstay
    rw [if_neg hstay]
    split at he
    · rename_i hup
      rwa [if_pos hup]
    · rename_i hup
      rw [if_neg hup]
      split at he
      · cases he
      · rename_i hlong
        rw [if_neg hlong]
        split at he
        · rename_i hfolder
          rw [(h _).mp hfolder]
          exact he
        · cases he
        · cases he

theorem foldlM_enter (h : d.SameFolders d') {names : List String} {path last : Path}
    (he : names.foldlM d.enter path = .ok last) : names.foldlM d'.enter path = .ok last := by
  induction names generalizing path with
  | nil => exact he
  | cons name names ih =>
    rw [List.foldlM_cons] at he ⊢
    obtain ⟨next, hnext, he⟩ := bind_eq_ok.mp he
    exact bind_eq_ok.mpr ⟨next, h.enter hnext, ih he⟩

end SameFolders

/-- A name leads to a path, whether or not there is anything under it. -/
def Leads (d : Directory) (name : String) (path : Path) : Prop :=
  checkName name = .ok () ∧ ∃ above last, d.locate name = .ok (above, last) ∧
    checkLast last = .ok () ∧ path = above ++ [last]

variable {name : String} {path : Path}

theorem Leads.ne_nil (h : d.Leads name path) : path ≠ [] := by
  obtain ⟨-, above, last, -, -, rfl⟩ := h
  simp

theorem SameFolders.leads (h : d.SameFolders d') (hl : d.Leads name path) :
    d'.Leads name path := by
  obtain ⟨hname, above, last, hlocate, hlast, rfl⟩ := hl
  obtain ⟨above, habove, heq⟩ := bind_eq_ok.mp hlocate
  cases heq
  exact ⟨hname, _, _, bind_eq_ok.mpr ⟨above, h.foldlM_enter habove, rfl⟩, hlast, rfl⟩

theorem read_eq_ok {content : ByteArray} : d.read name = .ok content ↔
    ∃ path, d.Leads name path ∧ d.find? path = some (.file content) := by
  constructor
  · intro h
    obtain ⟨⟨⟩, hname, h⟩ := bind_eq_ok.mp h
    obtain ⟨⟨above, last⟩, hlocate, h⟩ := bind_eq_ok.mp h
    obtain ⟨⟨⟩, hlast, h⟩ := bind_eq_ok.mp h
    refine ⟨above ++ [last], ⟨hname, above, last, hlocate, hlast, rfl⟩, ?_⟩
    split at h
    · rename_i hfind
      cases h
      exact hfind
    · cases h
    · cases h
  · rintro ⟨path, ⟨hname, above, last, hlocate, hlast, rfl⟩, hfind⟩
    refine bind_eq_ok.mpr ⟨(), hname, bind_eq_ok.mpr ⟨_, hlocate, bind_eq_ok.mpr ⟨(), hlast, ?_⟩⟩⟩
    rw [hfind]
    rfl

theorem write_eq_ok {content : ByteArray} : d.write name content = .ok d' ↔
    withoutSlashes name = name ∧ ∃ path, d.Leads name path ∧ d.find? path ≠ some .folder ∧
      d' = d.put path (.file content) := by
  unfold write
  by_cases hslash : withoutSlashes name = name
  · simp only [hslash, ne_eq, not_true_eq_false, ↓reduceIte, true_and]
    constructor
    · intro h
      obtain ⟨⟨⟩, hname, h⟩ := bind_eq_ok.mp h
      obtain ⟨⟨above, last⟩, hlocate, h⟩ := bind_eq_ok.mp h
      obtain ⟨⟨⟩, hlast, h⟩ := bind_eq_ok.mp h
      refine ⟨above ++ [last], ⟨hname, above, last, hlocate, hlast, rfl⟩, ?_⟩
      split at h
      · cases h
      · rename_i hfolder
        cases h
        exact ⟨hfolder, rfl⟩
    · rintro ⟨path, ⟨hname, above, last, hlocate, hlast, rfl⟩, hfolder, rfl⟩
      refine bind_eq_ok.mpr ⟨(), hname, bind_eq_ok.mpr ⟨_, hlocate, ?_⟩⟩
      refine bind_eq_ok.mpr ⟨(), hlast, ?_⟩
      split
      · rename_i hfound
        exact absurd hfound hfolder
      · rfl
  · simp only [hslash, ne_eq, not_false_eq_true, ↓reduceIte, false_and, iff_false]
    intro h
    obtain ⟨⟨⟩, hname, h⟩ := bind_eq_ok.mp h
    obtain ⟨located, -, h⟩ := bind_eq_ok.mp h
    cases h

/-- A file takes the place of a file or of nothing. -/
theorem sameFolders_put (hne : path ≠ []) (hfolder : d.find? path ≠ some .folder)
    (content : ByteArray) : d.SameFolders (d.put path (.file content)) := by
  intro other
  rw [find?_put hne]
  split
  · rename_i heq
    rw [heq]
    exact ⟨fun h => absurd h hfolder, nofun⟩
  · exact Iff.rfl

theorem sameFolders_write {content : ByteArray} (h : d.write name content = .ok d') :
    d.SameFolders d' := by
  obtain ⟨-, path, hleads, hfolder, rfl⟩ := write_eq_ok.mp h
  exact sameFolders_put hleads.ne_nil hfolder content

theorem read_put (hl : d.Leads name path) (hfolder : d.find? path ≠ some .folder)
    (content : ByteArray) : (d.put path (.file content)).read name = .ok content := by
  have hsame := sameFolders_put hl.ne_nil hfolder content
  refine read_eq_ok.mpr ⟨path, hsame.leads hl, ?_⟩
  rw [find?_put hl.ne_nil, if_pos rfl]

theorem read_of_write {content : ByteArray} (h : d.write name content = .ok d') :
    d'.read name = .ok content := by
  obtain ⟨-, path, hleads, hfolder, rfl⟩ := write_eq_ok.mp h
  exact read_put hleads hfolder content

/-- Whatever is written under a name, the file is read as before. -/
def Spares (d : Directory) (file name : String) : Prop :=
  ∀ content d', d.write name content = .ok d' → d'.read file = d.read file

/-- A name that spares a file leads elsewhere. -/
theorem Spares.ne {file : String} {content : ByteArray} {place : Path} (h : d.Spares file name)
    (hslash : withoutSlashes name = name) (hl : d.Leads name path)
    (hfolder : d.find? path ≠ some .folder) (hread : d.read file = .ok content)
    (hplace : d.Leads file place) : path ≠ place := by
  rintro rfl
  -- A byte more than the file holds would show in it.
  have hwrite : d.write name (content.push 0) = .ok (d.put path (.file (content.push 0))) :=
    write_eq_ok.mpr ⟨hslash, path, hl, hfolder, rfl⟩
  have hnew := read_put hplace hfolder (content.push 0)
  rw [h _ _ hwrite, hread] at hnew
  have hsize := congrArg ByteArray.size (Except.ok.inj hnew)
  rw [ByteArray.size_push] at hsize
  omega

/-- The folders are where they were at the start, and a file holds its content. -/
structure Keeps (start : Directory) (file : String) (content : ByteArray) (d : Directory) :
    Prop where
  folders : start.SameFolders d
  held : d.read file = .ok content

/-- A name that spares a file at the start goes on to do so. -/
theorem Keeps.write {start : Directory} {file : String} {content written : ByteArray}
    (h : start.Keeps file content d) (hs : start.Spares file name)
    (hstart : start.read file = .ok content) (hw : d.write name written = .ok d') :
    start.Keeps file content d' := by
  have hsame := sameFolders_write hw
  refine ⟨h.folders.trans hsame, ?_⟩
  obtain ⟨hslash, path, hl, hfolder, rfl⟩ := write_eq_ok.mp hw
  obtain ⟨place, hplace, hfind⟩ := read_eq_ok.mp h.held
  have hne : path ≠ place :=
    hs.ne hslash (h.folders.symm.leads hl) (fun hf => hfolder ((h.folders path).mp hf)) hstart
      (h.folders.symm.leads hplace)
  refine read_eq_ok.mpr ⟨place, hsame.leads hplace, ?_⟩
  rw [find?_put hl.ne_nil, if_neg (Ne.symm hne)]
  exact hfind

end Tabular.Directory
