import ClusterDeploy.Proofs.Staging.Guarantees

set_option relaxedAutoImplicit false
set_option autoImplicit false

/-!
# Applications do not interfere in the storage

Operations on staging directories, one after the other on a storage in memory, each for an
application and a label. What becomes of one directory depends on the operations on that directory
alone.

## Main definitions

* `Operation.place?` — the application and the label for which an operation works.
* `Operation.carryOutAll` — operations one after the other, with what comes of each.

## Main results

* `Staging.exists_overlay` — staging puts files over those that are there, always the same ones.
* `Operation.held?_carryOut_of_foreign` — an operation leaves other directories alone.
* `Operation.carryOutAll_isolated` — nothing that is done for others makes a difference.

## Implementation notes

The times of the files are left out: the clock of the storage counts the uploads of all.
-/

namespace ClusterDeploy

open MemoryStorage (SameSettings isBelow)
open Work (carryOut)

variable {fs : FileSystem} {s t : MemoryStorage} {dir label : String} {id : ApplicationId}
  {op : Operation}

/-- The deletion of a directory takes away what is below it, and nothing else. -/
lemma MemoryStorage.held?_deleteRecursive {path : String} :
    (s.deleteRecursive dir).2.held? path =
      if isBelow dir path then none else s.held? path := by
  unfold held?
  rw [file?_deleteRecursive]
  split <;> rfl

/-! ## What staging writes -/

namespace Staging

variable {entries : List ArtifactEntry} {factor : Option UInt16}

/-- What was copied lies over what was there. -/
lemma Placed.held?_eq_of_singleton {number : UInt16} {a : StagedArtifact} {content : Bytes}
    (h : Placed fs dir number [a] s t) (hread : fs.read a.entry.localPath = .ok content)
    (path : String) :
    t.held? path = (if path = Storage.remotePath dir a.entry.remoteName then some (content, number)
      else none).or (s.held? path) := by
  have ha : a ∈ [a] := List.mem_singleton_self a
  unfold MemoryStorage.held?
  by_cases hpath : path = Storage.remotePath dir a.entry.remoteName
  · obtain ⟨content', hread', -, -, hfile⟩ := h.content a ha
    obtain rfl := Except.ok.inj (hread.symm.trans hread')
    rw [if_pos hpath, hpath, ← h.path a ha, hfile]
    rfl
  · rw [if_neg hpath, h.others path]
    · rfl
    · rwa [List.map_singleton, List.mem_singleton, h.path a ha]

/-- **Copying an artifact puts a file over the one that is there, or none**, always the same one.
Whether the copying goes on depends on the local file and the settings of the storage. -/
lemma exists_overlay_upload (fs : FileSystem) (s : MemoryStorage) (dir : String)
    (factor : Option UInt16) (e : ArtifactEntry) :
    ∃ (goes : Bool) (written : String → Option (Bytes × UInt16)),
      (∀ path held, written path = some held → path = Storage.remotePath dir e.remoteName) ∧
      ∀ t, SameSettings s t →
        (carryOut fs (upload dir factor e) t).1.isOk = goes ∧
        ∀ path, (carryOut fs (upload dir factor e) t).2.held? path =
          (written path).or (t.held? path) := by
  rcases hread : fs.read e.localPath with fault | content
  · refine ⟨false, fun _ => none, nofun, fun t _ => ?_⟩
    rw [carryOut_upload_of_unreadable dir factor hread]
    exact ⟨rfl, fun _ => rfl⟩
  · by_cases hfactor : IsWithin s factor
    · refine ⟨true, fun path => if path = Storage.remotePath dir e.remoteName then
        some (content, (applied s factor).factor) else none, fun path held hheld =>
          (Option.ite_none_right_eq_some.1 hheld).1, fun t hst => ?_⟩
      have hwithin : IsWithin t factor := by
        unfold IsWithin at hfactor ⊢
        rwa [hst.maxReplication]
      obtain ⟨a, u, hrun, rfl, hplaced⟩ := carryOut_upload_of_isWithin dir hread hwithin
      rw [applied_of_sameSettings hst] at hplaced
      rw [hrun]
      exact ⟨rfl, hplaced.held?_eq_of_singleton hread⟩
    · -- the file is written all the same, and then its number of copies is refused
      obtain ⟨n, hn⟩ := Classical.not_forall.1 hfactor
      obtain ⟨rfl, hbeyond⟩ := Classical.not_imp.1 hn
      refine ⟨false, fun path => if path = Storage.remotePath dir e.remoteName then
        some (content, s.defaultReplication) else none, fun path held hheld =>
          (Option.ite_none_right_eq_some.1 hheld).1, fun t hst => ?_⟩
      have hbeyond' : t.maxReplication < n := by
        rw [hst.maxReplication]
        exact UInt16.not_le.1 hbeyond
      obtain ⟨mishap, u, hrun, hfiles⟩ := carryOut_upload_of_beyond dir hread hbeyond'
      rw [hrun]
      refine ⟨rfl, fun path => ?_⟩
      unfold MemoryStorage.held?
      rw [hfiles, hst.defaultReplication]
      by_cases hpath : path = Storage.remotePath dir e.remoteName <;> simp [hpath]

/-- Copying artifacts puts files over those that are there, always the same ones.

**Proof sketch.** Induction on the entries. If the first one ends the copying, it does so on every
storage with the same settings; otherwise the others lie over it. -/
lemma exists_overlay_uploadAll (fs : FileSystem) (s : MemoryStorage) (dir : String)
    (factor : Option UInt16) (entries : List ArtifactEntry) :
    ∃ written : String → Option (Bytes × UInt16),
      (∀ path held, written path = some held →
        ∃ e ∈ entries, path = Storage.remotePath dir e.remoteName) ∧
      ∀ t, SameSettings s t → ∀ path,
        (carryOut fs (uploadAll dir factor entries) t).2.held? path =
          (written path).or (t.held? path) := by
  induction entries with
  | nil => exact ⟨fun _ => none, nofun, fun _ _ _ => rfl⟩
  | cons e rest ih =>
    obtain ⟨goes, first, hfirst, hupload⟩ := exists_overlay_upload fs s dir factor e
    obtain ⟨others, hothers, hrest⟩ := ih
    refine ⟨fun path => if goes then (others path).or (first path) else first path,
      fun path held hheld => ?_, fun t hst path => ?_⟩
    · split at hheld
      · rcases Option.or_eq_some_iff.1 hheld with hlater | ⟨-, hnow⟩
        · obtain ⟨other, hother, hpath⟩ := hothers path held hlater
          exact ⟨other, List.mem_cons_of_mem _ hother, hpath⟩
        · exact ⟨e, List.mem_cons_self, hfirst path held hnow⟩
      · exact ⟨e, List.mem_cons_self, hfirst path held hheld⟩
    · obtain ⟨hgoes, hheld⟩ := hupload t hst
      have hsettings := Work.sameSettings_carryOut fs (upload dir factor e) t
      unfold uploadAll
      rcases hrun : carryOut fs (upload dir factor e) t with ⟨mishap | a, u⟩
      · rw [hrun] at hgoes hheld
        obtain rfl : false = goes := hgoes
        rw [Work.carryOut_bind_of_error hrun]
        exact hheld path
      · rw [hrun] at hgoes hheld hsettings
        obtain rfl : true = goes := hgoes
        rw [Work.carryOut_bind_of_ok hrun, Work.carryOut_bind]
        have hlater := hrest u (hst.trans hsettings) path
        rw [hheld path] at hlater
        rcases hcopied : carryOut fs (uploadAll dir factor rest) u with ⟨_ | _, v⟩ <;>
          rw [hcopied] at hlater <;> simpa [Option.or_assoc] using hlater

/-- **Staging puts files over those that are there, always the same ones.** They lie directly below
the staging directory.

**Proof sketch.** Whether the entries are right depends on the local files. If they are not, nothing
is copied. -/
lemma exists_overlay (fs : FileSystem) (s : MemoryStorage) (id : ApplicationId) (label : String)
    (entries : List ArtifactEntry) (factor : Option UInt16) :
    ∃ written : String → Option (Bytes × UInt16),
      (∀ path held, written path = some held → ∃ name, Storage.IsFileName name ∧
        path = Storage.remotePath (Storage.stagingDir s.home label id) name) ∧
      ∀ t, SameSettings s t → ∀ path,
        (carryOut fs (stage id label entries factor) t).2.held? path =
          (written path).or (t.held? path) := by
  by_cases h : Valid fs entries
  · obtain ⟨written, hbelow, hrun⟩ :=
      exists_overlay_uploadAll fs s (Storage.stagingDir s.home label id) factor entries
    refine ⟨written, fun path held hheld => ?_, fun t hst path => ?_⟩
    · obtain ⟨e, he, hpath⟩ := hbelow path held hheld
      exact ⟨e.remoteName, h.names e he, hpath⟩
    · have hcopied := hrun t hst path
      rw [carryOut_stage h, hst.home, Work.carryOut_bind]
      rcases hresult : carryOut fs
        (uploadAll (Storage.stagingDir s.home label id) factor entries) t with ⟨_ | _, u⟩ <;>
        rw [hresult] at hcopied <;> exact hcopied
  · obtain ⟨mishap, hrun⟩ := carryOut_stage_of_not_valid id label factor h
    exact ⟨fun _ => none, nofun, fun t _ path => by rw [hrun]; rfl⟩

/-- Removing the directory of an application is one deletion. -/
lemma carryOut_remove :
    carryOut fs (remove id label) s =
      (.ok (s.deleteRecursive (Storage.stagingDir s.home label id)).1,
        (s.deleteRecursive (Storage.stagingDir s.home label id)).2) :=
  rfl

end Staging

/-! ## Single operations -/

namespace Operation

/-- The application and the label for which an operation works. -/
def place? : Operation → Option (ApplicationId × String)
  | .stage id label _ _ => some (id, label)
  | .remove id label => some (id, label)
  | _ => none

/-- **An operation leaves other directories alone.** -/
lemma held?_carryOut_of_foreign {path : String}
    (hpath : ∀ id label, op.place? = some (id, label) →
      isBelow (Storage.stagingDir s.home label id) path = false) :
    (carryOut fs op.work s).2.held? path = s.held? path := by
  cases op with
  | platform call => rfl
  | ledger call => rfl
  | stage id label entries factor =>
    obtain ⟨written, hbelow, hrun⟩ := Staging.exists_overlay fs s id label entries factor
    have hnone : written path = none := by
      refine Option.eq_none_iff_forall_ne_some.2 fun held hheld => ?_
      obtain ⟨name, -, rfl⟩ := hbelow path held hheld
      have hother := hpath id label rfl
      rw [Storage.isBelow_remotePath] at hother
      exact nomatch hother
    exact (hrun s (.refl s) path).trans (by rw [hnone]; rfl)
  | verify m =>
    have hfile : (carryOut fs (Staging.verify m) s).2.file? path = s.file? path :=
      Staging.carryOut_verifyAll.1 path
    exact congrArg (Option.map fun file : StoredFile => (file.content, file.replication)) hfile
  | remove id label =>
    have hfile : (s.deleteRecursive (Storage.stagingDir s.home label id)).2.file? path =
        s.file? path := by
      rw [MemoryStorage.file?_deleteRecursive, hpath id label rfl]
      rfl
    exact congrArg (Option.map fun file : StoredFile => (file.content, file.replication)) hfile

/-- Storages with the same settings that hold the same below a directory. -/
structure Agree (dir : String) (s t : MemoryStorage) : Prop where
  settings : SameSettings s t
  held : ∀ path, isBelow dir path = true → t.held? path = s.held? path

/-- An operation on another directory makes no difference. -/
lemma Agree.carryOut_left (h : Agree dir s t)
    (hforeign : ∀ path, isBelow dir path = true → ∀ id label, op.place? = some (id, label) →
      isBelow (Storage.stagingDir s.home label id) path = false) :
    Agree dir (carryOut fs op.work s).2 t where
  settings := (Work.sameSettings_carryOut fs op.work s).symm.trans h.settings
  held path hpath := by
    rw [held?_carryOut_of_foreign (hforeign path hpath), h.held path hpath]

/-- Storages that agree below a directory still do so after an operation on it. -/
lemma Agree.carryOut (h : Agree dir s t) (hdir : dir = Storage.stagingDir s.home label id)
    (hop : op.place? = some (id, label)) :
    Agree dir (carryOut fs op.work s).2 (carryOut fs op.work t).2 where
  settings := (Work.sameSettings_carryOut fs op.work s).symm.trans
    (h.settings.trans (Work.sameSettings_carryOut fs op.work t))
  held path hpath := by
    cases op with
    | stage id' label' entries factor =>
      obtain ⟨rfl, rfl⟩ := Prod.mk.inj (Option.some.inj hop)
      obtain ⟨written, -, hrun⟩ := Staging.exists_overlay fs s id' label' entries factor
      have hs := hrun s (.refl s) path
      have ht := hrun t h.settings path
      exact ht.trans ((congrArg _ (h.held path hpath)).trans hs.symm)
    | remove id' label' =>
      obtain ⟨rfl, rfl⟩ := Prod.mk.inj (Option.some.inj hop)
      have hgone : ∀ u : MemoryStorage, u.home = s.home →
          (Work.carryOut fs (Operation.remove id' label').work u).2.held? path = none := by
        intro u hu
        change (u.deleteRecursive (Storage.stagingDir u.home label' id')).2.held? path = none
        rw [MemoryStorage.held?_deleteRecursive, hu, ← hdir, if_pos hpath]
      rw [hgone s rfl, hgone t h.settings.home]
    | _ => exact nomatch hop

/-- The same is told of a deletion. -/
lemma Agree.deleteRecursive_eq (h : Agree dir s t) :
    (t.deleteRecursive dir).1 = (s.deleteRecursive dir).1 := by
  rw [Bool.eq_iff_iff, MemoryStorage.deleteRecursive_eq_true_iff,
    MemoryStorage.deleteRecursive_eq_true_iff]
  refine exists_congr fun path => and_congr_right fun hpath => ?_
  rw [← MemoryStorage.isSome_held?, ← MemoryStorage.isSome_held?, h.held path hpath]

/-! ## Many operations -/

/-- An operation and what came of it. -/
structure Outcome where
  op : Operation
  result : Attempt op.Value

/-- What came of the deletion of the directory of an application under a label. -/
def Outcome.removal? (place : ApplicationId × String) : Outcome → Option (Attempt Bool)
  | ⟨.remove id label, result⟩ => if (id, label) = place then some result else none
  | _ => none

/-- Carries out operations one after the other. -/
def carryOutAll (fs : FileSystem) : List Operation → MemoryStorage → List Outcome × MemoryStorage
  | [], s => ([], s)
  | op :: rest, s =>
    let (result, t) := Work.carryOut fs op.work s
    let (outcomes, u) := carryOutAll fs rest t
    (⟨op, result⟩ :: outcomes, u)

/-- Operations leave the settings of a storage as they are. -/
lemma sameSettings_carryOutAll (ops : List Operation) (s : MemoryStorage) :
    SameSettings s (carryOutAll fs ops s).2 := by
  induction ops generalizing s with
  | nil => exact .refl s
  | cons op rest ih => exact (Work.sameSettings_carryOut fs op.work s).trans (ih _)

/-- The outcome of an operation for another directory tells of no removal of this one. -/
lemma removal?_of_foreign {place : ApplicationId × String} (hop : op.place? ≠ some place)
    (result : Attempt op.Value) : Outcome.removal? place ⟨op, result⟩ = none := by
  cases op with
  | remove id label => exact if_neg fun h => hop (congrArg some h)
  | _ => rfl

/-- Storages that agree below a directory give the same answer when it is deleted. -/
lemma Agree.removal?_eq (h : Agree dir s t) (hdir : dir = Storage.stagingDir s.home label id) :
    Outcome.removal? (id, label) ⟨op, (Work.carryOut fs op.work s).1⟩ =
      Outcome.removal? (id, label) ⟨op, (Work.carryOut fs op.work t).1⟩ := by
  cases op with
  | remove id' label' =>
    simp only [Outcome.removal?]
    split
    · next hplace =>
      obtain ⟨rfl, rfl⟩ := Prod.mk.inj hplace
      change some (Except.ok (s.deleteRecursive (Storage.stagingDir s.home label' id')).1) =
        some (Except.ok (t.deleteRecursive (Storage.stagingDir t.home label' id')).1)
      rw [h.settings.home, ← hdir, h.deleteRecursive_eq]
    · rfl
  | _ => rfl

variable {ops : List Operation}

/-- What is done for others may be left out.

**Proof sketch.** By induction on the operations, with two storages that agree below the directory.
An operation on the directory is carried out on both, every other one on the first only. -/
lemma Agree.carryOutAll (fs : FileSystem) (h : Agree dir s t)
    (hdir : dir = Storage.stagingDir s.home label id)
    (hlabel : '/' ∉ label.toList)
    (hops : ∀ op ∈ ops, ∀ id label, op.place? = some (id, label) → '/' ∉ label.toList) :
    Agree dir (carryOutAll fs ops s).2
        (carryOutAll fs (ops.filter fun op => op.place? = some (id, label)) t).2 ∧
      (carryOutAll fs ops s).1.filterMap (Outcome.removal? (id, label)) =
        (carryOutAll fs (ops.filter fun op => op.place? = some (id, label)) t).1.filterMap
          (Outcome.removal? (id, label)) := by
  induction ops generalizing s t with
  | nil => exact ⟨h, rfl⟩
  | cons op rest ih =>
    obtain ⟨hfirst, hrest⟩ := List.forall_mem_cons.1 hops
    have hdir' : dir = Storage.stagingDir (Work.carryOut fs op.work s).2.home label id := by
      rw [hdir, (Work.sameSettings_carryOut fs op.work s).home]
    by_cases hop : op.place? = some (id, label)
    · obtain ⟨hagree, hremovals⟩ := ih (h.carryOut hdir hop) hdir' hrest
      rw [List.filter_cons_of_pos (by simpa using hop)]
      refine ⟨hagree, ?_⟩
      unfold carryOutAll
      rw [List.filterMap_cons, List.filterMap_cons, h.removal?_eq hdir, hremovals]
    · have hforeign : ∀ path, isBelow dir path = true → ∀ id' label',
          op.place? = some (id', label') →
          isBelow (Storage.stagingDir s.home label' id') path = false := by
        intro path hpath id' label' hplace
        refine Bool.eq_false_iff.2 fun hbelow => hop ?_
        rw [hdir] at hpath
        obtain ⟨rfl, rfl⟩ := Storage.place_eq_of_isBelow hlabel (hfirst id' label' hplace) hpath
          hbelow
        exact hplace
      obtain ⟨hagree, hremovals⟩ := ih (h.carryOut_left hforeign) hdir' hrest
      rw [List.filter_cons_of_neg (by simpa using hop)]
      refine ⟨hagree, ?_⟩
      exact (List.filterMap_cons_none (removal?_of_foreign hop _)).trans hremovals

/-- **Nothing that is done for others makes a difference.** When operations are carried out one
after the other on a storage in memory, under labels that the settings of a deployment can have,
then for every application and label

1. the contents and the numbers of copies of the files below its directory, and
2. what is told of the deletions of the directory

are as if only the operations for this application and label had been carried out;

3. its directory may be deleted then: this tells whether there was a file below it, leaves none
   there and touches no file below the directory of another application or label;
4. what is staged for it is put nowhere but below its directory.

**Proof sketch.** An operation changes nothing but what is below the directory of its application
and label, and no path is below two of them. What it puts there depends on the local files and on
the settings of the storage, which nobody changes. -/
theorem carryOutAll_isolated (fs : FileSystem) (s : MemoryStorage) (ops : List Operation)
    (id : ApplicationId) (label : String) (hlabel : Config.IsStagingPrefix label)
    (hops : ∀ op ∈ ops, ∀ id label, op.place? = some (id, label) →
      Config.IsStagingPrefix label) :
    let dir := Storage.stagingDir s.home label id
    let all := carryOutAll fs ops s
    let alone := carryOutAll fs (ops.filter fun op => op.place? = some (id, label)) s
    let run := Work.carryOut fs (Operation.remove id label).work all.2
    (∀ path, isBelow dir path = true → all.2.held? path = alone.2.held? path) ∧
    all.1.filterMap (Outcome.removal? (id, label)) =
      alone.1.filterMap (Outcome.removal? (id, label)) ∧
    (∃ removed, run.1 = .ok removed ∧
      (removed = true ↔ ∃ path, isBelow dir path = true ∧ (all.2.file? path).isSome = true) ∧
      (∀ path, isBelow dir path = true → run.2.file? path = none) ∧
      ∀ id' label', Config.IsStagingPrefix label' → (id', label') ≠ (id, label) →
        ∀ path, isBelow (Storage.stagingDir s.home label' id') path = true →
          run.2.file? path = all.2.file? path) ∧
    ∀ entries factor path, isBelow dir path = false →
      (Work.carryOut fs (Operation.stage id label entries factor).work all.2).2.held? path =
        all.2.held? path := by
  intro dir all alone run
  have hhome : all.2.home = s.home := (sameSettings_carryOutAll ops s).home
  have hdir : Storage.stagingDir all.2.home label id = dir :=
    congrArg (Storage.stagingDir · label id) hhome
  have hsame : Agree dir s s := ⟨.refl s, fun _ _ => rfl⟩
  obtain ⟨hagree, hremovals⟩ := hsame.carryOutAll fs rfl hlabel.noSlash
    fun op hop id label hplace => (hops op hop id label hplace).noSlash
  have hrun : run = (.ok (all.2.deleteRecursive dir).1, (all.2.deleteRecursive dir).2) := by
    rw [← hdir]
    exact Staging.carryOut_remove
  rw [hrun]
  refine ⟨fun path hpath => (hagree.held path hpath).symm, hremovals,
    ⟨_, rfl, MemoryStorage.deleteRecursive_eq_true_iff, fun path hpath => ?_,
      fun id' label' hlabel' hne path hpath => ?_⟩, fun entries factor path hpath => ?_⟩
  · rw [MemoryStorage.file?_deleteRecursive, if_pos hpath]
  · rw [MemoryStorage.file?_deleteRecursive, if_neg]
    intro hbelow
    obtain ⟨rfl, rfl⟩ := Storage.place_eq_of_isBelow hlabel'.noSlash hlabel.noSlash hpath hbelow
    exact hne rfl
  · refine held?_carryOut_of_foreign fun id' label' hplace => ?_
    obtain ⟨rfl, rfl⟩ := Prod.mk.inj (Option.some.inj hplace)
    rwa [hdir]

/-- Two labels, one of which begins like the other: only the files under the other one are left. -/
theorem carryOutAll_isolated_of_similar_labels :
    let fs : FileSystem := ⟨[(["a.jar"], .file [1, 2])], fun _ => []⟩
    let s := MemoryStorage.empty "/home" 3 5
    let entries : List ArtifactEntry := [⟨"a.jar", "a.jar", .bundle⟩]
    let ops : List Operation := [.stage ⟨1, 1⟩ "a" entries none,
      .stage ⟨1, 1⟩ "ab" entries (some 9), .remove ⟨1, 1⟩ "a", .stage ⟨1, 10⟩ "a" entries none,
      .remove ⟨1, 1⟩ "a"]
    Config.IsStagingPrefix "a" ∧
      (∀ op ∈ ops, ∀ id label, op.place? = some (id, label) → Config.IsStagingPrefix label) ∧
      (carryOutAll fs ops s).1.filterMap (Outcome.removal? (⟨1, 1⟩, "a")) =
        (carryOutAll fs [.stage ⟨1, 1⟩ "a" entries none, .remove ⟨1, 1⟩ "a", .remove ⟨1, 1⟩ "a"]
          s).1.filterMap (Outcome.removal? (⟨1, 1⟩, "a")) := by
  intro fs s entries ops
  have hshort : Config.IsStagingPrefix "a" :=
    ⟨[("deployment.staging.prefix", "a")], _, rfl, rfl⟩
  have hlong : Config.IsStagingPrefix "ab" :=
    ⟨[("deployment.staging.prefix", "ab")], _, rfl, rfl⟩
  have hops : ∀ op ∈ ops, ∀ id label, op.place? = some (id, label) →
      Config.IsStagingPrefix label := by
    intro op hop id label hplace
    have hknown : label = "a" ∨ label = "ab" := by
      simp only [ops, List.mem_cons, List.not_mem_nil, or_false] at hop
      rcases hop with rfl | rfl | rfl | rfl | rfl <;> cases hplace <;> simp
    rcases hknown with rfl | rfl
    · exact hshort
    · exact hlong
  exact ⟨hshort, hops, (carryOutAll_isolated fs s ops ⟨1, 1⟩ "a" hshort hops).2.1⟩

end Operation

end ClusterDeploy
