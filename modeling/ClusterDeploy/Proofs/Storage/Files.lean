import ClusterDeploy.Storage.Memory
import Mathlib.Tactic.Lemma

set_option relaxedAutoImplicit false
set_option autoImplicit false

/-!
# The files of a storage in memory

What the calls of a storage in memory do to the file at a path. The list of the files need not be in
order for that, and a path may stand in it more than once: the first file counts. The local files
that are copied come first: those that can be read are regular files, but not the other way round.

## Main definitions

* `MemoryStorage.held?` — the content of a file and the number of its copies.
* `MemoryStorage.SameSettings` — storages that differ in their files and counts at most.

## Main results

* `FileSystem.isFile_of_read` — what can be read is a regular file.
* `FileSystem.locate_of_walk` — what lies at the place to which a path leads.
* `MemoryStorage.file?_upload`, `MemoryStorage.file?_deleteRecursive` — the files after a change.
* `MemoryStorage.setReplication_eq_ok_iff` — when the number of copies is changed.
* `MemoryStorage.deleteRecursive_eq_true_iff` — what is told of a deletion.
* `MemoryStorage.sameSettings_answer` — no call changes the settings.
-/

namespace ClusterDeploy

namespace FileSystem

variable {fs : FileSystem} {path : String}

/-- What can be read is a regular file. -/
lemma isFile_of_read {content : Bytes} (hread : fs.read path = .ok content) :
    fs.isFile path = true := by
  unfold read at hread
  unfold isFile
  rcases hlocate : fs.locate path with fault | ⟨place, _ | _ | _ | _⟩ <;>
    simp [hlocate] at hread ⊢

/-- A path that does not begin with a slash starts at the working directory. -/
lemma start_of_relative (hroot : path.toList.head? ≠ some '/') : start path = [] := by
  unfold start
  rw [if_neg]
  rw [String.startsWith_string_iff]
  rintro ⟨rest, hrest⟩
  rw [← hrest] at hroot
  exact hroot rfl

/-- A path without the character that no name has may only be too long. -/
lemma refusal?_of_nul_notMem (hnul : '\x00' ∉ path.toList) :
    refusal? path = if 4096 ≤ path.utf8ByteSize then some .nameTooLong else none := by
  unfold refusal?
  rw [String.contains_char_eq, if_neg (by simpa using hnul)]

/-- A path that begins with a slash starts at the root. -/
lemma start_of_absolute (hroot : path.toList.head? = some '/') : start path = root := by
  unfold start
  rw [if_pos]
  rw [String.startsWith_string_iff]
  obtain ⟨rest, hrest⟩ := List.head?_eq_some_iff.1 hroot
  exact ⟨rest, hrest.symm⟩

/-- What lies at the place to which a path leads that does not mean a directory. -/
lemma locate_of_walk {place : List String} {node : FileNode} (hnul : '\x00' ∉ path.toList)
    (hsize : path.utf8ByteSize < 4096) (hempty : path.isEmpty = false)
    (hdir : meansDirectory path = false)
    (hwalk : fs.walk (start path) (Text.components path) = .ok place)
    (hnode : fs.node? place = some node) : fs.locate path = .ok (place, node) := by
  unfold locate
  rw [refusal?_of_nul_notMem hnul, if_neg (Nat.not_le.2 hsize), hwalk]
  simp only [hempty, hdir, bind, Except.bind, hnode]
  cases node <;> rfl

/-- The content of a file whose path starts at the working directory. -/
lemma read_of_relative (place : List String) {content : Bytes}
    (hroot : path.toList.head? ≠ some '/') (hnul : '\x00' ∉ path.toList)
    (hsize : path.utf8ByteSize < 4096) (hempty : path.isEmpty = false)
    (hdir : meansDirectory path = false) (hwalk : fs.walk [] (Text.components path) = .ok place)
    (hnode : fs.node? place = some (.file content)) : fs.read path = .ok content := by
  rw [← start_of_relative hroot] at hwalk
  rw [read, locate_of_walk hnul hsize hempty hdir hwalk hnode]

end FileSystem

namespace MemoryStorage

variable {s t : MemoryStorage} {path q dir : String} {file : StoredFile} {factor : UInt16}
  {files : List (String × StoredFile)}

/-! ## Changes of the list -/

/-- A file that is put in is found under its path. -/
lemma find?_insertFile_self :
    (insertFile path file files).find? (fun entry => entry.1 == path) = some (path, file) := by
  induction files with
  | nil => simp [insertFile]
  | cons entry rest ih =>
    unfold insertFile
    split
    · simp
    · split
      · simp
      · next hne => rw [List.find?_cons, beq_eq_false_iff_ne.2 (Ne.symm hne), ih]

/-- A file that is put in changes nothing under other paths. -/
lemma find?_insertFile_of_ne (hq : q ≠ path) :
    (insertFile path file files).find? (fun entry => entry.1 == q) =
      files.find? (fun entry => entry.1 == q) := by
  have hnew : (path == q) = false := beq_eq_false_iff_ne.2 (Ne.symm hq)
  induction files with
  | nil => simp [insertFile, hnew]
  | cons entry rest ih =>
    unfold insertFile
    split
    · rw [List.find?_cons, hnew]
    · split
      · next heq => rw [List.find?_cons, List.find?_cons, ← heq, hnew]
      · rw [List.find?_cons, List.find?_cons, ih]

/-! ## Files after a change -/

/-- The content of the file at a path, and the number of its copies. -/
def held? (s : MemoryStorage) (path : String) : Option (Bytes × UInt16) :=
  (s.file? path).map fun file => (file.content, file.replication)

/-- What is held under a path is there exactly if a file is. -/
lemma isSome_held? : (s.held? path).isSome = (s.file? path).isSome :=
  Option.isSome_map

/-- A file that is written takes the place of the one that was there. -/
lemma file?_upload (content : Bytes) :
    (s.upload path content).file? q =
      if q = path then some ⟨content, s.defaultReplication, s.clock + 1⟩ else s.file? q := by
  unfold file? upload
  by_cases hq : q = path
  · subst hq
    rw [if_pos rfl, find?_insertFile_self]
    rfl
  · rw [if_neg hq, find?_insertFile_of_ne hq]

/-- A change of a file is seen under its path only. -/
lemma file?_changeFile (change : StoredFile → StoredFile) :
    (s.changeFile path change).file? q =
      if q = path then (s.file? q).map change else s.file? q := by
  unfold file? changeFile
  induction s.files with
  | nil => simp
  | cons entry rest ih =>
    rw [List.map_cons, List.find?_cons, List.find?_cons]
    by_cases hentry : entry.1 = path <;> by_cases hq : entry.1 = q <;> grind

/-- **When the number of copies is changed**: it is within the limit, and there is a file. -/
lemma setReplication_eq_ok_iff :
    (s.setReplication path factor).1 = .ok () ↔
      factor ≤ s.maxReplication ∧ (s.file? path).isSome = true := by
  unfold setReplication
  rcases hfile : s.file? path with _ | file <;>
    by_cases hfactor : s.maxReplication < factor <;> simp [hfactor, UInt16.not_lt.1]

/-- The number of copies that is set is seen under its path, if the storage allows it. -/
lemma file?_setReplication :
    (s.setReplication path factor).2.file? q =
      if factor ≤ s.maxReplication ∧ q = path then
        (s.file? q).map fun file => { file with replication := factor }
      else s.file? q := by
  unfold setReplication
  by_cases hfactor : s.maxReplication < factor
  · rw [if_pos hfactor, if_neg fun h => absurd h.1 (UInt16.not_le.2 hfactor)]
    rfl
  · rw [if_neg hfactor]
    have hle : factor ≤ s.maxReplication := UInt16.not_lt.1 hfactor
    split
    · next hnone =>
      by_cases hq : q = path
      · rw [if_pos ⟨hle, hq⟩, hq]
        rw [Option.isNone_iff_eq_none] at hnone
        exact hnone.trans (by rw [hnone]; rfl)
      · rw [if_neg fun h => hq h.2]
        rfl
    · rw [file?_changeFile]
      simp only [hle, true_and]
      rfl

/-- After the deletion of a directory there are no files below it, and all others are as before. -/
lemma file?_deleteRecursive :
    (s.deleteRecursive dir).2.file? q = if isBelow dir q then none else s.file? q := by
  unfold file? deleteRecursive
  rw [List.find?_filter]
  by_cases hq : isBelow dir q = true
  · rw [if_pos hq, List.find?_eq_none.2]
    · rfl
    · intro entry _
      by_cases hentry : entry.1 = q <;> simp [hentry, hq]
  · rw [if_neg hq]
    congr 2
    funext entry
    by_cases hentry : entry.1 = q <;> simp [hentry, hq]

/-- There is a file under a path exactly if an entry has the path. -/
lemma isSome_file?_iff : (s.file? path).isSome = true ↔ ∃ entry ∈ s.files, entry.1 = path := by
  unfold file?
  simp

/-- What is told of a deletion: whether there was a file at the path or below it. -/
lemma deleteRecursive_eq_true_iff :
    (s.deleteRecursive dir).1 = true ↔
      ∃ q, isBelow dir q = true ∧ (s.file? q).isSome = true := by
  unfold deleteRecursive
  rw [bne_iff_ne, ne_eq, List.length_filter_eq_length_iff]
  constructor
  · intro h
    obtain ⟨entry, hentry, hbelow⟩ : ∃ entry ∈ s.files, isBelow dir entry.1 = true := by
      simpa using h
    exact ⟨entry.1, hbelow, isSome_file?_iff.2 ⟨entry, hentry, rfl⟩⟩
  · rintro ⟨q, hbelow, hfile⟩ hall
    obtain ⟨entry, hentry, rfl⟩ := isSome_file?_iff.1 hfile
    have hkept := hall entry hentry
    rw [hbelow] at hkept
    exact nomatch hkept

/-! ## Settings -/

/-- Storages with the same home directory and the same numbers of copies. -/
structure SameSettings (s t : MemoryStorage) : Prop where
  home : t.home = s.home
  defaultReplication : t.defaultReplication = s.defaultReplication
  maxReplication : t.maxReplication = s.maxReplication

/-- A storage has its own settings. -/
lemma SameSettings.refl (s : MemoryStorage) : SameSettings s s :=
  ⟨rfl, rfl, rfl⟩

/-- The same settings are shared both ways. -/
lemma SameSettings.symm (h : SameSettings s t) : SameSettings t s :=
  ⟨h.home.symm, h.defaultReplication.symm, h.maxReplication.symm⟩

/-- Settings that are shared twice are shared throughout. -/
lemma SameSettings.trans {u : MemoryStorage} (h₁ : SameSettings s t) (h₂ : SameSettings t u) :
    SameSettings s u :=
  ⟨h₂.home.trans h₁.home, h₂.defaultReplication.trans h₁.defaultReplication,
    h₂.maxReplication.trans h₁.maxReplication⟩

/-- **No call changes the settings.** -/
lemma sameSettings_answer (fs : FileSystem) (s : MemoryStorage) (call : Storage.Call) :
    SameSettings s (s.answer fs call).2 := by
  cases call with
  | homeDirectory => exact .refl s
  | defaultReplication => exact .refl s
  | upload localPath remotePath =>
    simp only [answer]
    split <;> exact ⟨rfl, rfl, rfl⟩
  | setReplication path factor =>
    simp only [answer, setReplication]
    repeat' split
    all_goals exact ⟨rfl, rfl, rfl⟩
  | stat path => exact ⟨rfl, rfl, rfl⟩
  | deleteRecursive path => exact ⟨rfl, rfl, rfl⟩

end MemoryStorage

end ClusterDeploy
