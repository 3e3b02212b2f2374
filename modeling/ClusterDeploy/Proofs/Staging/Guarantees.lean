import ClusterDeploy.Proofs.Storage.Paths
import ClusterDeploy.Proofs.Storage.Serving

set_option relaxedAutoImplicit false
set_option autoImplicit false

/-!
# What staging guarantees

On a storage in memory it is known beforehand whether artifacts can be staged, and if they can, what
the storage holds afterwards and what the manifest says of it. The manifest can then be checked
against any later state of the storage.

## Main definitions

* `Staging.Valid` — entries that are found to be right before anything is copied.
* `Staging.Admissible` — entries that can be staged.
* `Staging.IsWithin` — numbers of copies that a storage makes.
* `Staging.Placed` — what a storage holds once artifacts were staged.

## Main results

* `Staging.carryOut_validate` — what is found out before anything is copied.
* `Staging.carryOut_stage_of_admissible`, `Staging.carryOut_stage_of_not_valid` — how staging goes.
* `Staging.exists_carryOut_stage_eq_ok_iff` — when artifacts are staged.
* `Staging.carryOut_verify_eq_ok_iff` — when a manifest is found to be right.
* `Staging.stage_guarantees` — the whole of it.
* `Staging.stage_failsUnread` — a regular file is not always enough.

## Implementation notes

What the storage holds before does not matter, not even at the paths to which artifacts are copied.
Before anything is copied it is asked whether each local file is a regular one, but not whether it
can be read. That is found out when its turn comes.
-/

namespace ClusterDeploy.Staging

open MemoryStorage (SameSettings)
open Work (carryOut carryOut_bind_of_ok carryOut_bind_of_error)

/-- Entries that are found to be right before anything is copied. -/
structure Valid (fs : FileSystem) (entries : List ArtifactEntry) : Prop where
  names : ∀ e ∈ entries, Storage.IsFileName e.remoteName
  distinct : (entries.map (·.remoteName)).Nodup
  files : ∀ e ∈ entries, fs.isFile e.localPath = true

/-- Entries that can be staged from local files: they are right, and the files can be read. -/
structure Admissible (fs : FileSystem) (entries : List ArtifactEntry) : Prop
    extends Valid fs entries where
  readable : ∀ e ∈ entries, ∃ content, fs.read e.localPath = .ok content

/-- Numbers of copies that a storage makes, if a number is asked for. -/
def IsWithin (s : MemoryStorage) (factor : Option UInt16) : Prop :=
  ∀ n, factor = some n → n ≤ s.maxReplication

/-- The number of copies that a storage makes, and who chose it. -/
def applied (s : MemoryStorage) : Option UInt16 → Replication
  | some n => .configured n
  | none => .storageDefault s.defaultReplication

/-- What storage `t` holds once artifacts were copied to a directory of storage `s`. -/
structure Placed (fs : FileSystem) (dir : String) (factor : UInt16)
    (artifacts : List StagedArtifact) (s t : MemoryStorage) : Prop where
  path : ∀ a ∈ artifacts, a.remotePath = Storage.remotePath dir a.entry.remoteName
  content : ∀ a ∈ artifacts, ∃ content, fs.read a.entry.localPath = .ok content ∧
    a.len = UInt64.ofNat content.length ∧ a.sha256 = Sha256.hex content ∧
    t.file? a.remotePath = some ⟨content, factor, a.modificationTime⟩
  others : ∀ path, path ∉ artifacts.map (·.remotePath) → t.file? path = s.file? path

variable {fs : FileSystem} {s t : MemoryStorage} {home label dir : String} {id : ApplicationId}
  {e : ArtifactEntry} {entries : List ArtifactEntry} {factor : Option UInt16} {seen : List String}
  {content : Bytes} {m : Manifest}

/-! ## Validation -/

/-- The check of a name accepts the names that can stand for files. -/
lemma isName_iff {name : String} : isName name = true ↔ Storage.IsFileName name := by
  simp [isName, Storage.IsFileName]

/-- The name of an entry is accepted exactly if it can stand for a file and is not taken. -/
lemma checkName_eq_none_iff :
    checkName seen e = none ↔ Storage.IsFileName e.remoteName ∧ e.remoteName ∉ seen := by
  unfold checkName
  by_cases hname : Storage.IsFileName e.remoteName
  · simp [isName_iff.2 hname, hname]
  · have hform : isName e.remoteName = false := Bool.eq_false_iff.2 fun h => hname (isName_iff.1 h)
    simp [hform, hname]

/-- Entries are right exactly if the first one is, no other has its name and the others are right.
-/
lemma valid_cons_iff :
    Valid fs (e :: entries) ↔
      Storage.IsFileName e.remoteName ∧ fs.isFile e.localPath = true ∧
        (∀ other ∈ entries, other.remoteName ≠ e.remoteName) ∧ Valid fs entries := by
  constructor
  · intro h
    obtain ⟨hname, hnames⟩ := List.forall_mem_cons.1 h.names
    obtain ⟨hfile, hfiles⟩ := List.forall_mem_cons.1 h.files
    obtain ⟨hnew, hdistinct⟩ := List.nodup_cons.1 h.distinct
    exact ⟨hname, hfile, fun other hother hsame => hnew (List.mem_map.2 ⟨other, hother, hsame⟩),
      hnames, hdistinct, hfiles⟩
  · rintro ⟨hname, hfile, hnew, h⟩
    refine ⟨List.forall_mem_cons.2 ⟨hname, h.names⟩, List.nodup_cons.2 ⟨?_, h.distinct⟩,
      List.forall_mem_cons.2 ⟨hfile, h.files⟩⟩
    intro hmem
    obtain ⟨other, hother, hsame⟩ := List.mem_map.1 hmem
    exact hnew other hother hsame

/-- Entries under distinct names whose local files can be read can be staged. -/
lemma Admissible.of_readable (hnames : ∀ e ∈ entries, Storage.IsFileName e.remoteName)
    (hdistinct : (entries.map (·.remoteName)).Nodup)
    (hread : ∀ e ∈ entries, ∃ content, fs.read e.localPath = .ok content) :
    Admissible fs entries where
  names := hnames
  distinct := hdistinct
  files e he := let ⟨_, h⟩ := hread e he; FileSystem.isFile_of_read h
  readable := hread

/-- **What is found out before anything is copied**: whether the entries can be staged. The storage
is not asked.

**Proof sketch.** Induction on the entries; the names that were seen grow. -/
lemma carryOut_validate (fs : FileSystem) (seen : List String) (entries : List ArtifactEntry) :
    ∃ r, (∀ s, carryOut fs (validate seen entries) s = (r, s)) ∧
      (r = .ok () ↔ Valid fs entries ∧ ∀ e ∈ entries, e.remoteName ∉ seen) := by
  induction entries generalizing seen with
  | nil => exact ⟨.ok (), fun _ => rfl, iff_of_true rfl ⟨⟨nofun, .nil, nofun⟩, nofun⟩⟩
  | cons e rest ih =>
    unfold validate
    rcases hname : checkName seen e with _ | error
    · obtain ⟨hform, hfresh⟩ := checkName_eq_none_iff.1 hname
      by_cases hfile : fs.isFile e.localPath = true
      · obtain ⟨r, hrun, hr⟩ := ih (e.remoteName :: seen)
        refine ⟨r, fun s => ?_, hr.trans ?_⟩
        · simpa [Work.carryOut_bind, hfile] using hrun s
        · rw [valid_cons_iff]
          simp only [List.mem_cons, not_or]
          grind
      · refine ⟨.error (.failed (failure
          s!"local artifact '{e.localPath}' does not exist or is not a file")), fun s => ?_,
          iff_of_false nofun fun h => hfile (valid_cons_iff.1 h.1).2.1⟩
        simp [Work.carryOut_bind, hfile]
    · refine ⟨.error (.failed error), fun s => rfl, iff_of_false nofun fun h => ?_⟩
      have hnone := checkName_eq_none_iff.2
        ⟨(valid_cons_iff.1 h.1).1, h.2 e List.mem_cons_self⟩
      rw [hname] at hnone
      exact nomatch hnone

/-! ## Copying -/

/-- The upload of a file that can be read stores its content. -/
lemma carryOut_storage_upload {path : String} (hread : fs.read e.localPath = .ok content) :
    carryOut fs (Work.storage (.upload e.localPath path)) s = (.ok (), s.upload path content) := by
  refine Work.carryOut_storage_of_answer ?_
  simp only [MemoryStorage.answer, hread]

/-- The number of copies of a stored file can be set within what the storage allows. -/
lemma carryOut_storage_setReplication (fs : FileSystem) {path : String} {n : UInt16}
    (hn : n ≤ s.maxReplication)
    (hfile : (s.file? path).isSome = true) :
    carryOut fs (Work.storage (.setReplication path n)) s =
      (.ok (), (s.setReplication path n).2) :=
  Work.carryOut_storage_of_answer
    (Prod.ext (MemoryStorage.setReplication_eq_ok_iff.2 ⟨hn, hfile⟩) rfl)

/-- The last step of copying: what the storage says of the file goes into the manifest. -/
lemma carryOut_upload_of_stat {path sha256 : String} {file : StoredFile}
    (hfile : s.file? path = some file) :
    carryOut fs (do
      match ← Work.storage (.stat path) with
      | none => Work.fail (failure s!"uploaded artifact '{path}' is not visible")
      | some status =>
        return (⟨e, path, sha256, status.len, status.modificationTime⟩ : StagedArtifact)) s =
      (.ok ⟨e, path, sha256, UInt64.ofNat file.content.length, file.modificationTime⟩,
        (s.stat path).2) := by
  have hstat : s.answer fs (.stat path) = (.ok (some file.status), (s.stat path).2) := by
    simp only [MemoryStorage.answer, MemoryStorage.stat, hfile]
    rfl
  rw [carryOut_bind_of_ok (Work.carryOut_storage_of_answer hstat)]
  rfl

/-- An artifact whose local file cannot be read is not copied. -/
lemma carryOut_upload_of_unreadable (dir : String) (factor : Option UInt16) {fault : FileFault}
    (hread : fs.read e.localPath = .error fault) :
    carryOut fs (upload dir factor e) s = (.error (.failed (failure
      s!"failed to read local artifact '{e.localPath}': {fault.message}")), s) := by
  have hdigest : carryOut fs (Work.digest e.localPath) s = (.ok (.error fault), s) := by
    rw [Work.carryOut_digest, hread]
    rfl
  unfold upload
  rw [carryOut_bind_of_ok hdigest]
  rfl

/-- An artifact whose local file can be read is copied if the storage makes as many copies. -/
lemma carryOut_upload_of_isWithin (dir : String) (hread : fs.read e.localPath = .ok content)
    (hfactor : IsWithin s factor) :
    ∃ a t, carryOut fs (upload dir factor e) s = (.ok a, t) ∧ a.entry = e ∧
      Placed fs dir (applied s factor).factor [a] s t := by
  have hdigest : carryOut fs (Work.digest e.localPath) s = (.ok (.ok (Sha256.hex content)), s) := by
    rw [Work.carryOut_digest, hread]
    rfl
  generalize hpath : Storage.remotePath dir e.remoteName = path
  -- only the files of the storage matter, and of those only the new one is changed
  have hplaced : ∀ u : MemoryStorage,
      (∀ q, u.file? q = if q = path then some ⟨content, (applied s factor).factor, s.clock + 1⟩
        else s.file? q) →
      Placed fs dir (applied s factor).factor
        [⟨e, path, Sha256.hex content, UInt64.ofNat content.length, s.clock + 1⟩] s
        (u.stat path).2 := by
    intro u hfiles
    have hfiles' : ∀ q, (u.stat path).2.file? q = u.file? q := fun q => rfl
    refine ⟨?_, ?_, ?_⟩
    · simp [hpath]
    · simp [hread, hfiles', hfiles]
    · intro q hq
      rw [hfiles', hfiles, if_neg fun h => hq (by simp [h])]
  unfold upload
  rw [hpath, carryOut_bind_of_ok hdigest, carryOut_bind_of_ok (Work.carryOut_pure _),
    carryOut_bind_of_ok (carryOut_storage_upload hread)]
  cases factor with
  | none =>
    have hfiles : ∀ q, (s.upload path content).file? q =
        if q = path then some ⟨content, (applied s none).factor, s.clock + 1⟩ else s.file? q :=
      fun q => MemoryStorage.file?_upload content
    exact ⟨_, _, carryOut_upload_of_stat ((hfiles path).trans (if_pos rfl)), rfl,
      hplaced _ hfiles⟩
  | some n =>
    have hn : n ≤ (s.upload path content).maxReplication := hfactor n rfl
    have hfiles : ∀ q, ((s.upload path content).setReplication path n).2.file? q =
        if q = path then some ⟨content, (applied s (some n)).factor, s.clock + 1⟩
        else s.file? q := by
      intro q
      rw [MemoryStorage.file?_setReplication, MemoryStorage.file?_upload]
      by_cases hq : q = path <;> simp [hq, hn, applied, Replication.factor]
    have hthere : ((s.upload path content).file? path).isSome = true := by
      rw [MemoryStorage.file?_upload, if_pos rfl]
      rfl
    have hreplicated := carryOut_storage_setReplication fs hn hthere
    exact ⟨_, _, (carryOut_bind_of_ok hreplicated).trans
      (carryOut_upload_of_stat ((hfiles path).trans (if_pos rfl))), rfl, hplaced _ hfiles⟩

/-- An artifact of which the storage does not make as many copies is copied nevertheless. -/
lemma carryOut_upload_of_beyond (dir : String) {n : UInt16}
    (hread : fs.read e.localPath = .ok content) (hn : s.maxReplication < n) :
    ∃ mishap t, carryOut fs (upload dir (some n) e) s = (.error mishap, t) ∧
      ∀ path, t.file? path =
        if path = Storage.remotePath dir e.remoteName then
          some ⟨content, s.defaultReplication, s.clock + 1⟩
        else s.file? path := by
  have hdigest : carryOut fs (Work.digest e.localPath) s = (.ok (.ok (Sha256.hex content)), s) := by
    rw [Work.carryOut_digest, hread]
    rfl
  generalize hpath : Storage.remotePath dir e.remoteName = path
  generalize hu : s.upload path content = u
  have hbeyond : u.maxReplication < n := hu ▸ hn
  have hrefused : ∃ mishap, carryOut fs (Work.storage (.setReplication path n)) u =
      (.error mishap, (u.setReplication path n).2) := by
    have herror : ∃ error, (u.setReplication path n).1 = .error error := by
      unfold MemoryStorage.setReplication
      rw [if_pos hbeyond]
      exact ⟨_, rfl⟩
    obtain ⟨error, herror⟩ := herror
    refine ⟨.failed error, ?_⟩
    rw [Work.carryOut_storage]
    simp only [MemoryStorage.answer, herror]
    rfl
  obtain ⟨mishap, hrefused⟩ := hrefused
  refine ⟨mishap, (u.setReplication path n).2, ?_, fun q => ?_⟩
  · unfold upload
    rw [hpath, carryOut_bind_of_ok hdigest, carryOut_bind_of_ok (Work.carryOut_pure _),
      carryOut_bind_of_ok (carryOut_storage_upload hread), hu]
    exact carryOut_bind_of_error hrefused
  · rw [MemoryStorage.file?_setReplication, if_neg fun h => UInt16.not_le.2 hbeyond h.1, ← hu,
      MemoryStorage.file?_upload]

/-- Which number of copies is applied depends on the settings of the storage only. -/
lemma applied_of_sameSettings (h : SameSettings s t) : applied t factor = applied s factor := by
  cases factor with
  | none => exact congrArg Replication.storageDefault h.defaultReplication
  | some n => rfl

/-- What is copied later does not disturb what was copied before. -/
lemma Placed.cons {a : StagedArtifact} {artifacts : List StagedArtifact} {u : MemoryStorage}
    {n : UInt16} (hfirst : Placed fs dir n [a] s u) (hrest : Placed fs dir n artifacts u t)
    (hnew : a.remotePath ∉ artifacts.map (·.remotePath)) :
    Placed fs dir n (a :: artifacts) s t where
  path := List.forall_mem_cons.2 ⟨hfirst.path a (List.mem_singleton_self a), hrest.path⟩
  content := by
    refine List.forall_mem_cons.2 ⟨?_, hrest.content⟩
    rw [hrest.others _ hnew]
    exact hfirst.content a (List.mem_singleton_self a)
  others := by
    intro path hpath
    obtain ⟨hne, hpath⟩ := not_or.1 (mt List.mem_cons.2 hpath)
    rw [hrest.others path hpath]
    exact hfirst.others path fun h => hne (List.mem_singleton.1 h)

/-- **All artifacts are copied** if the storage makes as many copies.

**Proof sketch.** Induction on the entries. The others have other names, and so other paths. -/
lemma carryOut_uploadAll (h : Admissible fs entries) (hfactor : IsWithin s factor) :
    ∃ artifacts t, carryOut fs (uploadAll dir factor entries) s = (.ok artifacts, t) ∧
      artifacts.map (·.entry) = entries ∧
      Placed fs dir (applied s factor).factor artifacts s t := by
  induction entries generalizing s with
  | nil => exact ⟨[], s, rfl, rfl, nofun, nofun, fun _ _ => rfl⟩
  | cons e rest ih =>
    obtain ⟨-, -, hdistinct, hrest⟩ := valid_cons_iff.1 h.toValid
    obtain ⟨⟨content, hread⟩, hreadable⟩ := List.forall_mem_cons.1 h.readable
    obtain ⟨a, u, hupload, rfl, hplaced⟩ :=
      carryOut_upload_of_isWithin dir hread hfactor
    have hsettings := Work.sameSettings_carryOut fs (upload dir factor a.entry) s
    rw [hupload] at hsettings
    obtain ⟨artifacts, t, hrun, rfl, hplaced'⟩ := ih ⟨hrest, hreadable⟩
      (s := u) fun n hn => hsettings.maxReplication ▸ hfactor n hn
    rw [applied_of_sameSettings hsettings] at hplaced'
    refine ⟨a :: artifacts, t, ?_, rfl, hplaced.cons hplaced' fun hmem => ?_⟩
    · unfold uploadAll
      rw [carryOut_bind_of_ok hupload, carryOut_bind_of_ok hrun]
      rfl
    · obtain ⟨b, hb, hsame⟩ := List.mem_map.1 hmem
      have hpaths : Storage.remotePath dir b.entry.remoteName =
          Storage.remotePath dir a.entry.remoteName := by
        rw [← hplaced'.path b hb, hsame, hplaced.path a (List.mem_singleton_self a)]
      exact hdistinct b.entry (List.mem_map_of_mem hb) (Storage.remotePath_inj hpaths)

/-- Artifacts are copied one after the other. -/
lemma exists_of_carryOut_uploadAll_cons {l : List StagedArtifact}
    (h : carryOut fs (uploadAll dir factor (e :: entries)) s = (.ok l, t)) :
    ∃ a u others, carryOut fs (upload dir factor e) s = (.ok a, u) ∧
      carryOut fs (uploadAll dir factor entries) u = (.ok others, t) ∧ l = a :: others := by
  unfold uploadAll at h
  obtain ⟨a, u, hupload, h⟩ := Work.exists_of_carryOut_bind_eq_ok h
  obtain ⟨others, v, hothers, h⟩ := Work.exists_of_carryOut_bind_eq_ok h
  obtain ⟨hl, rfl⟩ := Prod.mk.inj h
  exact ⟨a, u, others, hupload, hothers, (Except.ok.inj hl).symm⟩

/-- **If all artifacts are copied** then all local files can be read, and the storage makes as many
copies or there is nothing to copy.

**Proof sketch.** Induction on the entries. A file that cannot be read ends the copying, and so does
the first number of copies that is too great. -/
lemma readable_of_carryOut_uploadAll {l : List StagedArtifact}
    (h : carryOut fs (uploadAll dir factor entries) s = (.ok l, t)) :
    (∀ e ∈ entries, ∃ content, fs.read e.localPath = .ok content) ∧
      (IsWithin s factor ∨ entries = []) := by
  induction entries generalizing s l with
  | nil => exact ⟨List.forall_mem_nil _, .inr rfl⟩
  | cons e rest ih =>
    obtain ⟨a, u, others, hupload, hothers, rfl⟩ := exists_of_carryOut_uploadAll_cons h
    rcases hread : fs.read e.localPath with fault | content
    · rw [carryOut_upload_of_unreadable dir factor hread] at hupload
      exact nomatch (Prod.mk.inj hupload).1
    · refine ⟨List.forall_mem_cons.2 ⟨⟨content, hread⟩, (ih hothers).1⟩, .inl ?_⟩
      rintro n rfl
      refine UInt16.not_lt.1 fun hbeyond => ?_
      obtain ⟨mishap, v, hfails, -⟩ := carryOut_upload_of_beyond dir hread hbeyond
      exact nomatch (Prod.mk.inj (hfails.symm.trans hupload)).1

/-! ## Staging -/

/-- Entries that are not right leave the storage as it is. -/
lemma carryOut_stage_of_not_valid (id : ApplicationId) (label : String)
    (factor : Option UInt16) (h : ¬ Valid fs entries) :
    ∃ mishap, ∀ s, carryOut fs (stage id label entries factor) s = (.error mishap, s) := by
  obtain ⟨r, hrun, hr⟩ := carryOut_validate fs [] entries
  cases r with
  | ok u => exact absurd (hr.1 rfl).1 h
  | error mishap => exact ⟨mishap, fun s => carryOut_bind_of_error (hrun s)⟩

/-- Entries that are right are copied to the staging directory. -/
lemma carryOut_stage (h : Valid fs entries) :
    carryOut fs (stage id label entries factor) s =
      carryOut fs (do
        let artifacts ← uploadAll (Storage.stagingDir s.home label id) factor entries
        return (⟨id, Storage.stagingDir s.home label id, artifacts, applied s factor⟩ : Manifest))
        s := by
  obtain ⟨r, hrun, hr⟩ := carryOut_validate fs [] entries
  obtain rfl := hr.2 ⟨h, by simp⟩
  unfold stage
  rw [carryOut_bind_of_ok (hrun s),
    carryOut_bind_of_ok
      (show carryOut fs (Work.storage .homeDirectory) s = (.ok s.home, s) from rfl)]
  cases factor with
  | none =>
    have hdefault : carryOut fs
        (Replication.storageDefault <$> Work.storage .defaultReplication) s =
        (.ok (applied s none), s) := rfl
    exact carryOut_bind_of_ok hdefault
  | some n => exact carryOut_bind_of_ok (Work.carryOut_pure _)

/-- Staging goes well if the storage makes as many copies or there is nothing to copy. -/
lemma carryOut_stage_of_admissible (id : ApplicationId) (label : String) (h : Admissible fs entries)
    (hfactor : IsWithin s factor ∨ entries = []) :
    ∃ m t, carryOut fs (stage id label entries factor) s = (.ok m, t) ∧
      m.applicationId = id ∧ m.stagingDir = Storage.stagingDir s.home label id ∧
      m.artifacts.map (·.entry) = entries ∧ m.replication = applied s factor ∧
      Placed fs m.stagingDir m.replication.factor m.artifacts s t := by
  have hcopied : ∃ artifacts t,
      carryOut fs (uploadAll (Storage.stagingDir s.home label id) factor entries) s =
        (.ok artifacts, t) ∧ artifacts.map (·.entry) = entries ∧
      Placed fs (Storage.stagingDir s.home label id) (applied s factor).factor artifacts s t := by
    rcases hfactor with hfactor | rfl
    · exact carryOut_uploadAll h hfactor
    · exact ⟨[], s, rfl, rfl, nofun, nofun, fun _ _ => rfl⟩
  obtain ⟨artifacts, t, hrun, hentries, hplaced⟩ := hcopied
  exact ⟨_, t, (carryOut_stage h.toValid).trans (carryOut_bind_of_ok hrun), rfl, rfl, hentries,
    rfl, hplaced⟩

/-- **When artifacts are staged.** -/
lemma exists_carryOut_stage_eq_ok_iff :
    (∃ m, (carryOut fs (stage id label entries factor) s).1 = .ok m) ↔
      Admissible fs entries ∧ (IsWithin s factor ∨ entries = []) := by
  constructor
  · rintro ⟨m, hm⟩
    by_cases h : Valid fs entries
    · obtain ⟨artifacts, t, hcopied, -⟩ := Work.exists_of_carryOut_bind_eq_ok
        ((carryOut_stage h).symm.trans (Prod.ext hm rfl))
      obtain ⟨hread, hfactor⟩ := readable_of_carryOut_uploadAll hcopied
      exact ⟨⟨h, hread⟩, hfactor⟩
    · obtain ⟨mishap, hrun⟩ := carryOut_stage_of_not_valid id label factor h
      rw [hrun s] at hm
      exact nomatch hm
  · rintro ⟨h, hfactor⟩
    obtain ⟨m, t, hrun, -⟩ := carryOut_stage_of_admissible id label h hfactor
    exact ⟨m, congrArg Prod.fst hrun⟩

/-! ## Verification -/

/-- Whether an artifact is in a storage as the manifest says. -/
def IsThere (s : MemoryStorage) (m : Manifest) (a : StagedArtifact) : Prop :=
  ∃ file, s.file? a.remotePath = some file ∧ file.status.len = a.len ∧
    file.replication = m.replication.factor

/-- A status fits an artifact exactly if it tells the length and the number of copies in the
manifest. -/
lemma mismatch_eq_none_iff {a : StagedArtifact} {status : FileStatus} :
    mismatch m a status = none ↔
      status.len = a.len ∧ status.replication = m.replication.factor := by
  simp only [mismatch]
  by_cases hfactor : status.replication = m.replication.factor <;>
    by_cases hlen : status.len = a.len <;> simp [hfactor, hlen]

/-- Verification looks at the first file, and goes on exactly if it is there and fits. -/
lemma carryOut_verifyAll_cons {a : StagedArtifact} {rest : List StagedArtifact} :
    carryOut fs (verifyAll m (a :: rest)) s =
      match s.file? a.remotePath with
      | none => (.error (.failed (failure s!"staged artifact '{a.remotePath}' is missing")),
          (s.stat a.remotePath).2)
      | some file =>
        match mismatch m a file.status with
        | some error => (.error (.failed error), (s.stat a.remotePath).2)
        | none => carryOut fs (verifyAll m rest) (s.stat a.remotePath).2 := by
  have hstat : carryOut fs (Work.storage (.stat a.remotePath)) s =
      (.ok ((s.file? a.remotePath).map StoredFile.status), (s.stat a.remotePath).2) := rfl
  rw [verifyAll, carryOut_bind_of_ok hstat]
  rcases s.file? a.remotePath with _ | file
  · rfl
  · simp only [Option.map_some]
    rcases mismatch m a file.status with _ | error <;> rfl

/-- Checking a manifest leaves the files as they are, and finds out whether they are there.

**Proof sketch.** Induction on the artifacts. A question for the status of a file changes a count
only. -/
lemma carryOut_verifyAll {l : List StagedArtifact} :
    (∀ path, (carryOut fs (verifyAll m l) s).2.file? path = s.file? path) ∧
      ((carryOut fs (verifyAll m l) s).1 = .ok () ↔ ∀ a ∈ l, IsThere s m a) := by
  induction l generalizing s with
  | nil => exact ⟨fun _ => rfl, iff_of_true rfl nofun⟩
  | cons a rest ih =>
    rw [carryOut_verifyAll_cons, List.forall_mem_cons]
    rcases hfile : s.file? a.remotePath with _ | file
    · refine ⟨fun _ => rfl, iff_of_false nofun ?_⟩
      rintro ⟨⟨file, hthere, -⟩, -⟩
      rw [hfile] at hthere
      exact nomatch hthere
    · have hthere : IsThere s m a ↔ mismatch m a file.status = none := by
        rw [mismatch_eq_none_iff, IsThere, hfile]
        simp [StoredFile.status]
      rcases hmismatch : mismatch m a file.status with _ | error
      · obtain ⟨hfiles, hiff⟩ := ih (s := (s.stat a.remotePath).2)
        simp only [hmismatch]
        refine ⟨fun path => hfiles path, hiff.trans ?_⟩
        exact (and_iff_right (hthere.2 hmismatch)).symm
      · simp only [hmismatch]
        refine ⟨fun _ => rfl, iff_of_false nofun fun h => ?_⟩
        have hnone := hthere.1 h.1
        rw [hmismatch] at hnone
        exact nomatch hnone

/-- When a manifest is found to be right. -/
lemma carryOut_verify_eq_ok_iff :
    (carryOut fs (verify m) s).1 = .ok () ↔ ∀ a ∈ m.artifacts, IsThere s m a :=
  carryOut_verifyAll.2

/-! ## All together -/

/-- **What staging guarantees.** On a storage in memory in any state

1. artifacts are staged exactly if their names are distinct names of files, each local path is that
   of a regular file that can be read, and the storage makes as many copies as asked for or there is
   nothing to copy;
2. then the manifest names the application and its directory, and has the entries in order under
   distinct paths directly below the directory;
3. the storage holds at each of these paths the bytes of the local file in as many copies as the
   manifest says, which are the copies asked for or else the usual number, the length and the digest
   in the manifest are those of the file, and at all other paths the storage is as it was;
4. checking the manifest against any state of the storage finds out whether each file is there with
   the length and the number of copies of the manifest, and there are no complaints right away.

**Proof sketch.** Once the entries are found to be right, nothing can go wrong but that a local file
cannot be read, or the number of copies, which goes wrong with the first file. -/
theorem stage_guarantees (fs : FileSystem) (s : MemoryStorage) (id : ApplicationId) (label : String)
    (entries : List ArtifactEntry) (factor : Option UInt16) :
    let run := carryOut fs (stage id label entries factor) s
    ((∃ m, run.1 = .ok m) ↔ Admissible fs entries ∧ (IsWithin s factor ∨ entries = [])) ∧
    ∀ m, run.1 = .ok m →
      (m.applicationId = id ∧ m.stagingDir = Storage.stagingDir s.home label id ∧
        m.artifacts.map (·.entry) = entries ∧ (m.artifacts.map (·.remotePath)).Nodup ∧
        ∀ a ∈ m.artifacts, Storage.IsFileName a.entry.remoteName ∧
          a.remotePath = m.stagingDir ++ "/" ++ a.entry.remoteName) ∧
      (m.replication = applied s factor ∧
        Placed fs m.stagingDir m.replication.factor m.artifacts s run.2) ∧
      (∀ fs' s', (carryOut fs' (verify m) s').1 = .ok () ↔ ∀ a ∈ m.artifacts, IsThere s' m a) ∧
      (carryOut fs (verify m) run.2).1 = .ok () := by
  intro run
  refine ⟨exists_carryOut_stage_eq_ok_iff, fun m hm => ?_⟩
  obtain ⟨h, hfactor⟩ := exists_carryOut_stage_eq_ok_iff.1 ⟨m, hm⟩
  obtain ⟨m', t, hrun, hid, hdir, hentries, happlied, hplaced⟩ :=
    carryOut_stage_of_admissible id label h hfactor
  obtain ⟨rfl⟩ : m = m' := Except.ok.inj (hm.symm.trans (congrArg Prod.fst hrun))
  obtain rfl : run.2 = t := congrArg Prod.snd hrun
  have hentry : ∀ a ∈ m.artifacts, a.entry ∈ entries := fun a ha =>
    hentries ▸ List.mem_map_of_mem ha
  refine ⟨⟨hid, hdir, hentries, ?_, fun a ha => ⟨h.names _ (hentry a ha), ?_⟩⟩,
    ⟨happlied, hplaced⟩, fun _ _ => carryOut_verify_eq_ok_iff, carryOut_verify_eq_ok_iff.2 ?_⟩
  · have hpaths : m.artifacts.map (·.remotePath) =
        (entries.map (·.remoteName)).map (Storage.remotePath m.stagingDir) := by
      rw [← hentries, List.map_map, List.map_map]
      exact List.map_congr_left hplaced.path
    rw [hpaths]
    exact List.Pairwise.map _ (fun _ _ hne heq => hne (Storage.remotePath_inj heq)) h.distinct
  · rw [hplaced.path a ha, hdir, Storage.remotePath_stagingDir]
  · intro a ha
    obtain ⟨content, -, hlen, -, hfile⟩ := hplaced.content a ha
    exact ⟨_, hfile, hlen.symm, rfl⟩

/-- A file that lies where an artifact is to be staged is no obstacle. -/
theorem stage_guarantees_of_leftover :
    let fs : FileSystem := ⟨[(["a.jar"], .file [1, 2]), (["b"], .file [])], fun _ => []⟩
    let s : MemoryStorage :=
      { MemoryStorage.empty "/home/" 3 5 with
        files := [("/home/.p/application_1_0001/a.jar", ⟨[9], 1, 0⟩)] }
    let entries : List ArtifactEntry := [⟨"a.jar", "a.jar", .bundle⟩, ⟨"b", "lib", .library⟩]
    let run := carryOut fs (stage ⟨1, 1⟩ "p" entries (some 4)) s
    ∃ m, run.1 = .ok m ∧ m.artifacts.map (·.entry) = entries ∧ m.replication = .configured 4 ∧
      (carryOut fs (verify m) run.2).1 = .ok () := by
  intro fs s entries run
  obtain ⟨hiff, hgood⟩ := stage_guarantees fs s ⟨1, 1⟩ "p" entries (some 4)
  have hbundle : fs.read "a.jar" = .ok [1, 2] := by
    apply FileSystem.read_of_relative ["a.jar"] <;> decide +kernel
  have hlibrary : fs.read "b" = .ok [] := by
    apply FileSystem.read_of_relative ["b"] <;> decide +kernel
  have hadmissible : Admissible fs entries :=
    .of_readable (by unfold Storage.IsFileName; decide) (by decide)
      (List.forall_mem_cons.2 ⟨⟨_, hbundle⟩, List.forall_mem_singleton.2 ⟨_, hlibrary⟩⟩)
  have hwithin : IsWithin s (some 4) := fun n hn => Option.some.inj hn ▸ by decide
  obtain ⟨m, hm⟩ := hiff.2 ⟨hadmissible, .inl hwithin⟩
  obtain ⟨⟨-, -, hentries, -⟩, ⟨happlied, -⟩, -, hverified⟩ := hgood m hm
  exact ⟨m, hm, hentries, happlied, hverified⟩

/-- **A regular file is not always enough.** The memory of a running program is a regular file that
cannot be read from its start. Its name is fine, there is no other, and no number of copies is asked
for, but staging fails and copies nothing. -/
theorem stage_failsUnread :
    let entries : List ArtifactEntry := [⟨"/proc/self/mem", "mem", .library⟩]
    let s := MemoryStorage.empty "/user/flink" 3 512
    Config.IsStagingPrefix "jobcluster" ∧ Valid .empty entries ∧ IsWithin s none ∧
      carryOut .empty (stage ⟨1, 1⟩ "jobcluster" entries none) s =
        (.error (.failed (failure ("failed to read local artifact '/proc/self/mem': " ++
          "Input/output error (os error 5)"))), s) := by
  intro entries s
  have hlocate : FileSystem.empty.locate "/proc/self/mem" =
      .ok (["/", "proc", "self", "mem"], .unreadable .inputOutput) := by
    apply FileSystem.locate_of_walk
    case hwalk =>
      rw [FileSystem.start_of_absolute (by decide)]
      decide +kernel
    all_goals decide +kernel
  have hvalid : Valid .empty entries :=
    { names := by unfold Storage.IsFileName; decide
      distinct := by decide
      files := List.forall_mem_singleton.2 (by simp [FileSystem.isFile, hlocate]) }
  have hread : FileSystem.empty.read "/proc/self/mem" = .error .inputOutput := by
    simp [FileSystem.read, hlocate]
  have hlabel : Config.IsStagingPrefix "jobcluster" :=
    ⟨[("deployment.staging.prefix", "jobcluster")], _, rfl, rfl⟩
  refine ⟨hlabel, hvalid, fun n hn => absurd hn.symm (Option.some_ne_none n), ?_⟩
  have hmessage : toString "failed to read local artifact '" ++ toString "/proc/self/mem" ++
      toString "': " ++ toString FileFault.inputOutput.message =
      "failed to read local artifact '/proc/self/mem': " ++ "Input/output error (os error 5)" := by
    decide +kernel
  rw [carryOut_stage hvalid, ← hmessage]
  exact carryOut_bind_of_error (carryOut_bind_of_error (carryOut_upload_of_unreadable _ _ hread))

end ClusterDeploy.Staging
