import ClusterDeploy.Proofs.Staging.Protocol
import ClusterDeploy.Proofs.Storage.NameNode

set_option relaxedAutoImplicit false
set_option autoImplicit false

/-!
# What staging observes

Staging asks for the status of every file that it wrote, and copies the length and the time into the
manifest. It compares neither the length with that of the local file nor the number of copies with
the one in the manifest. So a manifest is given whatever the storage says of the files, and it is
left to verification to find a wrong number of copies; a wrong length is never found, for the
manifest has it too.

## Main definitions

* `Work.statuses` — what the storage told of files in a run.
* `Work.KeepsSaying` — the storage says of files what was told before.
* `Staging.ObservedRight` — what was told of the artifacts of a manifest was right.

## Main results

* `Staging.ends_stage_ok_iff` — the runs of staging that give a manifest.
* `Staging.eq_of_ends_verifyAll` — verification when the storage says the same again.
* `Staging.exists_stage_told` — staging gives a manifest whatever a name node says of the files.
* `Staging.stage_observedRight_iff` — when what was observed was right.

## Implementation notes

A storage may be anything that answers the calls, so nothing is assumed of the answers in a run. A
name node is one such storage, with conversations instead of answers.
-/

namespace ClusterDeploy

open Dialogue (Ends)

namespace Work

/-- The status of a file that the storage told, with its path. -/
def status? : Exchange → Option (String × FileStatus)
  | ⟨.storage (.stat path), .ok (some status)⟩ => some (path, status)
  | _ => none

/-- What the storage told of files in a run, in order. -/
def statuses (t : List Exchange) : List (String × FileStatus) :=
  t.filterMap status?

/-- What was told in two parts of a run is what was told in the whole. -/
lemma statuses_append (t u : List Exchange) : statuses (t ++ u) = statuses t ++ statuses u :=
  List.filterMap_append

/-- The storage says of files what was told of them before. -/
def KeepsSaying (told : List (String × FileStatus)) (t : List Exchange) : Prop :=
  ∀ p ∈ told, ∀ answer, ⟨.storage (.stat p.1), answer⟩ ∈ t → answer = .ok (some p.2)

end Work

namespace Staging

open Work (statuses statuses_append KeepsSaying)

/-- The number of copies in a manifest, and who chose it: the one that was asked for, or else the
usual one. -/
def chosen (usual : UInt16) : Option UInt16 → Replication
  | some n => .configured n
  | none => .storageDefault usual

/-- What the storage told of an artifact went into the manifest. -/
structure Told (a : StagedArtifact) (p : String × FileStatus) : Prop where
  path : p.1 = a.remotePath
  len : p.2.len = a.len
  modificationTime : p.2.modificationTime = a.modificationTime

/-- The local file of an artifact has this length. -/
def HasLength (fs : FileSystem) (a : StagedArtifact) (len : UInt64) : Prop :=
  ∃ content, fs.read a.entry.localPath = .ok content ∧ len.toNat = content.length

/-- What the storage told of the artifacts of a manifest, one after the other, was right: the
lengths are those of the local files, and the numbers of copies the one in the manifest. -/
def ObservedRight (fs : FileSystem) (m : Manifest) (t : List Work.Exchange) : Prop :=
  List.Forall₂ (fun a p => p.1 = a.remotePath ∧ HasLength fs a p.2.len ∧
    p.2.replication = m.replication.factor) m.artifacts (statuses t)

/-- What verification says of a file that has another number of copies than the manifest. -/
def complaint (m : Manifest) (path : String) (copies : UInt16) : DeployError :=
  failure (s!"staged artifact '{path}' has replication " ++
    s!"{copies.toNat} but {m.replication.factor.toNat} ({m.replication.source}) was applied")

/-- What is asked before the first artifact is copied, if all goes well. -/
def opening (entries : List ArtifactEntry) (home : String) (usual : UInt16)
    (factor : Option UInt16) : List Work.Exchange :=
  entries.map found ++ ⟨.storage .homeDirectory, .ok home⟩ ::
    if factor.isSome then [] else [⟨.storage .defaultReplication, .ok usual⟩]

variable {fs : FileSystem} {home label dir : String} {id : ApplicationId} {e : ArtifactEntry}
  {entries : List ArtifactEntry} {factor : Option UInt16} {seen : List String} {usual : UInt16}
  {a : StagedArtifact} {artifacts : List StagedArtifact} {m : Manifest}
  {t u part : List Work.Exchange} {parts : List (List Work.Exchange)}
  {told : List (String × FileStatus)} {p : String × FileStatus} {r : Attempt Unit}

/-! ## The runs that give a manifest -/

/-- Entries that are right are found to be so. -/
lemma ends_validate (h : Sound entries) (hfresh : ∀ e ∈ entries, e.remoteName ∉ seen) :
    Ends (validate seen entries).run (entries.map found) (.ok ()) := by
  induction entries generalizing seen with
  | nil => exact .done _
  | cons e rest ih =>
    obtain ⟨hname, hnames⟩ := List.forall_mem_cons.1 h.names
    obtain ⟨hnew, hdistinct⟩ := List.nodup_cons.1 h.distinct
    obtain ⟨he, hrest⟩ := List.forall_mem_cons.1 hfresh
    unfold validate
    rw [checkName_eq_none_iff.2 ⟨hname, he⟩]
    refine .ask (ih ⟨hnames, hdistinct⟩ fun other hother hmem => ?_)
    rcases List.mem_cons.1 hmem with hsame | hmem
    · exact hnew (List.mem_map.2 ⟨other, hother, hsame⟩)
    · exact hrest other hother hmem

/-- What is asked while an artifact is copied is enough to copy it. -/
lemma ends_upload_of_copied (hpath : a.remotePath = Storage.remotePath dir a.entry.remoteName)
    (h : Copied factor a part) : Ends (upload dir factor a.entry).run part (.ok a) := by
  obtain ⟨e, path, sha256, len, time⟩ := a
  obtain ⟨status, rfl, rfl, rfl⟩ := h
  dsimp only at hpath
  subst hpath
  cases factor with
  | none => exact .ask (.ask (.ask (.done _)))
  | some n => exact .ask (.ask (.ask (.ask (.done _))))

/-- Parts in which the artifacts are copied, one after the other, are a run that copies them all. -/
lemma ends_uploadAll_of_copied
    (hpaths : ∀ a ∈ artifacts, a.remotePath = Storage.remotePath dir a.entry.remoteName)
    (h : List.Forall₂ (Copied factor) artifacts parts) :
    Ends (uploadAll dir factor (artifacts.map (·.entry))).run parts.flatten (.ok artifacts) := by
  induction h with
  | nil => exact .done _
  | cons ha _ ih =>
    obtain ⟨hpath, hpaths⟩ := List.forall_mem_cons.1 hpaths
    refine Dialogue.ends_run_bind_ok_iff.2 ⟨_, _, _, rfl, ends_upload_of_copied hpath ha,
      Dialogue.ends_run_bind_ok_iff.2 ⟨_, [], _, ?_, ih hpaths, .done _⟩⟩
    rw [List.append_nil]

/-- The last step of staging, when the directory and the number of copies are known. -/
private lemma ends_copying_ok_iff {replication : Replication} :
    Ends (ExceptT.run (m := Dialogue Work.Question Work.Answer) do
        let artifacts ← uploadAll dir factor entries
        return (⟨id, dir, artifacts, replication⟩ : Manifest)) t (.ok m) ↔
      m.applicationId = id ∧ m.stagingDir = dir ∧ m.replication = replication ∧
        m.artifacts.map (·.entry) = entries ∧
        (∀ a ∈ m.artifacts, a.remotePath = Storage.remotePath dir a.entry.remoteName) ∧
        ∃ parts, t = parts.flatten ∧ List.Forall₂ (Copied factor) m.artifacts parts := by
  rw [Dialogue.ends_run_bind_ok_iff]
  constructor
  · rintro ⟨t₁, t₂, artifacts, rfl, hcopy, hend⟩
    obtain ⟨rfl, hm⟩ := Dialogue.ends_run_pure_iff.1 hend
    obtain rfl := Except.ok.inj hm
    obtain ⟨hentries, hpaths, parts, rfl, hparts⟩ := copied_of_ends_uploadAll hcopy
    exact ⟨rfl, rfl, rfl, hentries, hpaths, parts, List.append_nil _, hparts⟩
  · rintro ⟨rfl, rfl, rfl, rfl, hpaths, parts, rfl, hparts⟩
    exact ⟨_, [], _, (List.append_nil _).symm, ends_uploadAll_of_copied hpaths hparts, .done _⟩

/-- **The runs of staging that give a manifest.** -/
lemma ends_stage_ok_iff :
    Ends (stage id label entries factor).run t (.ok m) ↔
      Sound entries ∧ m.applicationId = id ∧ m.artifacts.map (·.entry) = entries ∧
        (∀ a ∈ m.artifacts, a.remotePath = Storage.remotePath m.stagingDir a.entry.remoteName) ∧
        ∃ home usual parts, m.stagingDir = Storage.stagingDir home label id ∧
          m.replication = chosen usual factor ∧
          t = opening entries home usual factor ++ parts.flatten ∧
          List.Forall₂ (Copied factor) m.artifacts parts := by
  unfold stage
  constructor
  · intro hrun
    obtain ⟨_, _, ⟨⟩, rfl, hvalidate, hhome⟩ := Dialogue.ends_run_bind_ok_iff.1 hrun
    obtain ⟨_, -, hfail⟩ | ⟨hsound, rfl, -⟩ :=
      rejected_or_sound (⟨nofun, .nil⟩ : Sound []) hvalidate
    · exact nomatch hfail
    obtain ⟨_, _, home, rfl, hasked, hfactor⟩ := Dialogue.ends_run_bind_ok_iff.1 hhome
    obtain rfl := Work.ends_storage_iff.1 hasked
    cases factor with
    | none =>
      obtain ⟨_, _, _, rfl, husual, hcopy⟩ := Dialogue.ends_run_bind_ok_iff.1 hfactor
      obtain ⟨_, _, n, rfl, hstorage, hnumber⟩ := Dialogue.ends_run_bind_ok_iff.1 husual
      obtain rfl := Work.ends_storage_iff.1 hstorage
      obtain ⟨rfl, hsame⟩ := Dialogue.ends_run_pure_iff.1 hnumber
      obtain rfl := Except.ok.inj hsame
      obtain ⟨hid, hdir, hreplication, hentries, hpaths, parts, rfl, hparts⟩ :=
        ends_copying_ok_iff.1 hcopy
      refine ⟨hsound, hid, hentries, hdir ▸ hpaths, home, n, parts, hdir, hreplication, ?_, hparts⟩
      simp [opening]
    | some n =>
      obtain ⟨hid, hdir, hreplication, hentries, hpaths, parts, rfl, hparts⟩ :=
        ends_copying_ok_iff.1 hfactor
      refine ⟨hsound, hid, hentries, hdir ▸ hpaths, home, n, parts, hdir, hreplication, ?_, hparts⟩
      simp [opening]
  · rintro ⟨hsound, hid, hentries, hpaths, home, usual, parts, hdir, hreplication, rfl, hparts⟩
    -- the parts of the run are put together in the order of the program
    have hcopy := ends_copying_ok_iff.2 ⟨hid, hdir, hreplication, hentries, hdir ▸ hpaths, parts,
      rfl, hparts⟩
    have hhome := (@Work.ends_storage_iff .homeDirectory _ (.ok home)).2 rfl
    have hvalidate := ends_validate hsound fun e _ => List.not_mem_nil (a := e.remoteName)
    rw [opening, List.append_assoc]
    refine Dialogue.ends_run_bind_ok_iff.2 ⟨_, _, _, rfl, hvalidate,
      Dialogue.ends_run_bind_ok_iff.2 ⟨[_], _, _, rfl, hhome, ?_⟩⟩
    cases factor with
    | none => exact .ask hcopy
    | some n => exact hcopy

/-! ## What was told -/

/-- Nothing is told of files before the first one is copied. -/
lemma statuses_opening : statuses (opening entries home usual factor) = [] := by
  refine List.filterMap_eq_nil_iff.2 (List.forall_mem_append.2 ⟨?_, ?_⟩)
  · exact List.forall_mem_map.2 fun _ _ => rfl
  · refine List.forall_mem_cons.2 ⟨rfl, ?_⟩
    cases factor with
    | none => exact List.forall_mem_singleton.2 rfl
    | some n => exact List.forall_mem_nil _

/-- While an artifact is copied its status is told, once. -/
lemma told_of_copied (h : Copied factor a part) : ∃ p, statuses part = [p] ∧ Told a p := by
  obtain ⟨status, hlen, htime, rfl⟩ := h
  refine ⟨(a.remotePath, status), ?_, rfl, hlen.symm, htime.symm⟩
  cases factor <;> rfl

/-- What is told while artifacts are copied goes into the manifest, one status for each artifact. -/
lemma told_of_forall₂_copied (h : List.Forall₂ (Copied factor) artifacts parts) :
    List.Forall₂ Told artifacts (statuses parts.flatten) := by
  induction h with
  | nil => exact .nil
  | cons ha _ ih =>
    obtain ⟨p, hp, htold⟩ := told_of_copied ha
    rw [List.flatten_cons, statuses_append, hp]
    exact .cons htold ih

/-- What the storage told went into the manifest, artifact by artifact. -/
lemma told_of_ends_stage (hrun : Ends (stage id label entries factor).run t (.ok m)) :
    List.Forall₂ Told m.artifacts (statuses t) := by
  obtain ⟨-, -, -, -, home, usual, parts, -, -, rfl, hparts⟩ := ends_stage_ok_iff.1 hrun
  rw [statuses_append, statuses_opening]
  exact told_of_forall₂_copied hparts

/-- The paths of which something was told are those of the artifacts. -/
lemma map_fst_told (h : List.Forall₂ Told artifacts told) :
    told.map (·.1) = artifacts.map (·.remotePath) := by
  induction h with
  | nil => rfl
  | cons ha _ ih => rw [List.map_cons, List.map_cons, ha.path, ih]

/-- No path is told of twice. -/
lemma nodup_told_of_ends_stage (hrun : Ends (stage id label entries factor).run t (.ok m)) :
    ((statuses t).map (·.1)).Nodup := by
  obtain ⟨hsound, -, rfl, hpaths, -⟩ := ends_stage_ok_iff.1 hrun
  have hmap : m.artifacts.map (·.remotePath) =
      ((m.artifacts.map (·.entry)).map (·.remoteName)).map (Storage.remotePath m.stagingDir) := by
    rw [List.map_map, List.map_map]
    exact List.map_congr_left hpaths
  rw [map_fst_told (told_of_ends_stage hrun), hmap]
  exact List.Pairwise.map _ (fun _ _ hne heq => hne (Storage.remotePath_inj heq)) hsound.distinct

/-- The digest of an artifact is that of the local file. -/
lemma exists_read_of_copied (h : Copied factor a part) (hfiles : ∀ x ∈ part, Work.Sees fs x) :
    ∃ content, fs.read a.entry.localPath = .ok content ∧ a.sha256 = Sha256.hex content := by
  obtain ⟨status, -, -, rfl⟩ := h
  have hdigest : .ok a.sha256 = (fs.read a.entry.localPath).map Sha256.hex :=
    hfiles ⟨.digest a.entry.localPath, .ok a.sha256⟩ List.mem_cons_self
  rcases hread : fs.read a.entry.localPath with fault | content
  · rw [hread] at hdigest
    exact nomatch hdigest
  · rw [hread] at hdigest
    exact ⟨content, rfl, Except.ok.inj hdigest⟩

/-- Artifacts that are copied can be read, and their digests are those of their content. -/
lemma exists_read_of_forall₂_copied (h : List.Forall₂ (Copied factor) artifacts parts)
    (hfiles : ∀ x ∈ parts.flatten, Work.Sees fs x) :
    ∀ a ∈ artifacts, ∃ content, fs.read a.entry.localPath = .ok content ∧
      a.sha256 = Sha256.hex content := by
  induction h with
  | nil => exact List.forall_mem_nil _
  | cons ha _ ih =>
    rw [List.flatten_cons, List.forall_mem_append] at hfiles
    exact List.forall_mem_cons.2 ⟨exists_read_of_copied ha hfiles.1, ih hfiles.2⟩

/-! ## Verification -/

/-- **Verification when the storage says the same again**: it finds the first artifact with another
number of copies than that in the manifest. The lengths are never found to be wrong.

**Proof sketch.** Induction on the artifacts. The length in the manifest is the one that was told,
so it is told again. -/
lemma eq_of_ends_verifyAll (htold : List.Forall₂ Told artifacts told)
    (hrun : Ends (verifyAll m artifacts).run u r) (hsame : KeepsSaying told u) :
    (r = .ok () ∧ ∀ p ∈ told, p.2.replication = m.replication.factor) ∨
      ∃ p ∈ told, p.2.replication ≠ m.replication.factor ∧
        r = .error (.failed (complaint m p.1 p.2.replication)) := by
  induction htold generalizing u with
  | nil =>
    obtain ⟨-, rfl⟩ := Dialogue.ends_run_pure_iff.1 hrun
    exact .inl ⟨rfl, List.forall_mem_nil _⟩
  | @cons a p artifacts told ha _ ih =>
    unfold verifyAll at hrun
    obtain ⟨t₁, t₂, answer, rfl, hstat, hrest⟩ := Dialogue.ends_run_bind_iff.1 hrun
    obtain rfl := Work.ends_storage_iff.1 hstat
    rw [← ha.path] at hsame hrest
    obtain rfl := hsame p List.mem_cons_self answer List.mem_cons_self
    simp only at hrest
    by_cases hfactor : p.2.replication = m.replication.factor
    · rw [mismatch_eq_none_iff.2 ⟨ha.len, hfactor⟩] at hrest
      have hsame' : KeepsSaying told t₂ := fun q hq answer hanswer =>
        hsame q (List.mem_cons_of_mem _ hq) answer (List.mem_cons_of_mem _ hanswer)
      refine (ih hrest hsame').imp ?_ ?_
      · rintro ⟨rfl, hall⟩
        exact ⟨rfl, List.forall_mem_cons.2 ⟨hfactor, hall⟩⟩
      · rintro ⟨q, hq, hwrong⟩
        exact ⟨q, List.mem_cons_of_mem _ hq, hwrong⟩
    · refine .inr ⟨p, List.mem_cons_self, hfactor, ?_⟩
      simp only [mismatch, hfactor, ne_eq, not_false_eq_true, if_true] at hrest
      rw [complaint, ha.path]
      exact (Dialogue.ends_run_throw_iff.1 hrest).2

/-- Somebody who says of files what was told of them. -/
def repeating (told : List (String × FileStatus)) : (q : Work.Question) → Work.Answer q
  | .storage (.stat path) => .ok ((told.find? fun p => p.1 == path).map (·.2))
  | .storage _ | .platform _ | .ledger _ => .error .died
  | .isFile _ => false
  | .digest _ => .error .notFound

/-- What was told of a file is found under its path. -/
lemma find?_told (hnodup : (told.map (·.1)).Nodup) (hp : p ∈ told) :
    told.find? (fun q => q.1 == p.1) = some p := by
  induction told with
  | nil => exact absurd hp List.not_mem_nil
  | cons q told ih =>
    obtain ⟨hq, hnodup⟩ := List.nodup_cons.1 hnodup
    rcases List.mem_cons.1 hp with rfl | hp
    · exact List.find?_cons_of_pos (beq_self_eq_true _)
    · have hne : q.1 ≠ p.1 := fun h => hq (List.mem_map.2 ⟨p, hp, h.symm⟩)
      rw [List.find?_cons_of_neg (by simpa using hne), ih hnodup hp]

/-- Verification can be told the same again. -/
lemma exists_ends_verify_keepsSaying (m : Manifest) (hnodup : (told.map (·.1)).Nodup) :
    ∃ u r, Ends (verify m).run u r ∧ KeepsSaying told u := by
  obtain ⟨⟨u, r⟩, ⟨hrun, hobeys⟩, -⟩ :=
    Dialogue.existsUnique_ends (verify m).run fun _ => repeating told
  refine ⟨u, r, hrun, fun p hp answer hanswer => ?_⟩
  obtain ⟨before, after, hsplit⟩ := List.append_of_mem hanswer
  have hrepeated : answer = .ok ((told.find? fun q => q.1 == p.1).map (·.2)) :=
    hobeys before _ after hsplit
  rw [hrepeated, find?_told hnodup hp, Option.map_some]

/-! ## Whatever is told -/

/-- Whatever a name node says of a file that is copied. -/
lemma exists_copied_told {w : WebHdfs} {content : Bytes} (hread : fs.read e.localPath = .ok content)
    (hask : w.CanAsk (Storage.remotePath dir e.remoteName)) (factor : Option UInt16)
    (status : FileStatus) :
    ∃ a part, a.entry = e ∧ a.remotePath = Storage.remotePath dir e.remoteName ∧
      Copied factor a part ∧ (statuses part).map (·.2) = [status] ∧
      ∀ x ∈ part, w.CanAnswer fs x := by
  let path := Storage.remotePath dir e.remoteName
  let part : List Work.Exchange := [⟨.digest e.localPath, .ok (Sha256.hex content)⟩,
      ⟨.storage (.upload e.localPath path), .ok ()⟩] ++
    (replicated factor path ++ [⟨.storage (.stat path), .ok (some status)⟩])
  refine ⟨⟨e, path, Sha256.hex content, status.len, status.modificationTime⟩, part, rfl, rfl,
    ⟨status, rfl, rfl, rfl⟩, ?_, ?_⟩
  · cases factor <;> rfl
  · have hdigest : w.CanAnswer fs ⟨.digest e.localPath, .ok (Sha256.hex content)⟩ := by
      change _ = (fs.read e.localPath).map Sha256.hex
      rw [hread]
      rfl
    refine List.forall_mem_append.2 ⟨List.forall_mem_cons.2 ⟨hdigest,
      List.forall_mem_singleton.2 ⟨hask, content, hread⟩⟩, List.forall_mem_append.2 ⟨?_,
      List.forall_mem_singleton.2 ⟨hask, [], rfl⟩⟩⟩
    cases factor with
    | none => exact List.forall_mem_nil _
    | some n => exact List.forall_mem_singleton.2 ⟨hask, [], rfl⟩

/-- Every list of statuses, one for each entry, can be told while the entries are copied. -/
lemma exists_forall₂_copied_told {w : WebHdfs} {l : List FileStatus} (dir : String)
    (hlength : l.length = entries.length)
    (hreadable : ∀ e ∈ entries, ∃ content, fs.read e.localPath = .ok content)
    (hask : ∀ e ∈ entries, w.CanAsk (Storage.remotePath dir e.remoteName))
    (factor : Option UInt16) :
    ∃ artifacts parts, artifacts.map (·.entry) = entries ∧
      (∀ a ∈ artifacts, a.remotePath = Storage.remotePath dir a.entry.remoteName) ∧
      List.Forall₂ (Copied factor) artifacts parts ∧ (statuses parts.flatten).map (·.2) = l ∧
      ∀ x ∈ parts.flatten, w.CanAnswer fs x := by
  induction entries generalizing l with
  | nil =>
    obtain rfl := List.length_eq_zero_iff.1 hlength
    exact ⟨[], [], rfl, List.forall_mem_nil _, .nil, rfl, List.forall_mem_nil _⟩
  | cons e rest ih =>
    obtain ⟨status, l, rfl⟩ := List.exists_cons_of_length_eq_add_one hlength
    obtain ⟨⟨content, hread⟩, hrest⟩ := List.forall_mem_cons.1 hreadable
    obtain ⟨hpath, hasks⟩ := List.forall_mem_cons.1 hask
    obtain ⟨a, part, rfl, ha, hcopied, htold, hcan⟩ :=
      exists_copied_told hread hpath factor status
    obtain ⟨artifacts, parts, rfl, hpaths, hparts, hall, hcans⟩ :=
      ih (Nat.succ.inj hlength) hrest hasks
    refine ⟨a :: artifacts, part :: parts, rfl, List.forall_mem_cons.2 ⟨ha, hpaths⟩,
      .cons hcopied hparts, ?_, List.forall_mem_append.2 ⟨hcan, hcans⟩⟩
    rw [List.flatten_cons, statuses_append, List.map_append, htold, hall]
    rfl

/-- **Staging gives a manifest whatever a name node says of the files.**

**Proof sketch.** The name node answers each call in turn: with the home directory and the usual
number of copies, that a file was written, that its number of copies was changed, and with any
status at all. Nothing that it says of the files decides how staging goes on. -/
lemma exists_stage_told (w : WebHdfs) (id : ApplicationId) (home label : String)
    (factor : Option UInt16) (usual : UInt16) {l : List FileStatus} (h : Admissible fs entries)
    (hroot : w.CanAsk "/") (hask : ∀ e ∈ entries, w.CanAsk (target home label id e))
    (hlength : l.length = entries.length) :
    ∃ said t m, Ends (stage id label entries factor).run t (.ok m) ∧ w.Serves fs said t ∧
      m.replication = chosen usual factor ∧ (statuses t).map (·.2) = l := by
  obtain ⟨artifacts, parts, hentries, hpaths, hparts, htold, hcans⟩ :=
    exists_forall₂_copied_told (Storage.stagingDir home label id) hlength h.readable
      (fun e he => remotePath_eq_target.symm ▸ hask e he) factor
  have hopening : ∀ x ∈ opening entries home usual factor, w.CanAnswer fs x := by
    refine List.forall_mem_append.2 ⟨List.forall_mem_map.2 fun e he => (h.files e he).symm,
      List.forall_mem_cons.2 ⟨⟨hroot, [], rfl⟩, ?_⟩⟩
    cases factor with
    | none => exact List.forall_mem_singleton.2 ⟨hroot, [], rfl⟩
    | some n => exact List.forall_mem_nil _
  obtain ⟨said, hserves⟩ := WebHdfs.exists_serves (List.forall_mem_append.2 ⟨hopening, hcans⟩)
  refine ⟨said, _, ⟨id, Storage.stagingDir home label id, artifacts, chosen usual factor⟩,
    ends_stage_ok_iff.2 ⟨⟨h.names, h.distinct⟩, rfl, hentries, hpaths, home, usual, parts, rfl, rfl,
      rfl, hparts⟩, hserves, rfl, ?_⟩
  rw [statuses_append, statuses_opening, List.nil_append, htold]

/-! ## What is right -/

/-- What was told was right exactly if the manifest has the lengths of the local files, and the
numbers of copies that were told are the one in the manifest. -/
lemma observedRight_iff (htold : List.Forall₂ Told m.artifacts (statuses t)) :
    ObservedRight fs m t ↔ (∀ a ∈ m.artifacts, HasLength fs a a.len) ∧
      ∀ p ∈ statuses t, p.2.replication = m.replication.factor := by
  unfold ObservedRight
  generalize m.artifacts = artifacts, statuses t = told at htold
  induction htold with
  | nil => simp
  | cons ha _ ih =>
    rw [List.forall₂_cons, ih, List.forall_mem_cons, List.forall_mem_cons, ha.len,
      and_iff_right ha.path]
    exact and_and_and_comm

/-! ## A name node that tells of one file -/

namespace OneFile

/-- The name node. -/
def client : WebHdfs := ⟨"http://nn", none⟩

/-- The local files. -/
def files : FileSystem := ⟨[(["a.jar"], .file (Utf8.encode "dist"))], fun _ => []⟩

/-- The path of the file. -/
def path : String := "/u/.p/application_1_0001/a.jar"

/-- The file to stage. -/
def entry : ArtifactEntry := ⟨"a.jar", "a.jar", .bundle⟩

/-- The staged file, when the name node tells this status of it. -/
def manifest (status : FileStatus) : Manifest :=
  ⟨⟨1, 1⟩, "/u/.p/application_1_0001",
    [⟨entry, path, Sha256.hex (Utf8.encode "dist"), status.len, status.modificationTime⟩],
    .storageDefault 3⟩

/-- A request to the name node, and the document that came back for it. -/
def exchange (method target : String) (content : Option Http.Content) (body : Json) :
    Dialogue.Exchange Http.Question Http.Answer :=
  ⟨.exchange ⟨⟨.name "nn", 80⟩, method, target, content⟩,
    (1, .answered 200 (some (Utf8.encode body.compact)))⟩

/-- The home directory is asked for. -/
def homeAsked : Dialogue.Exchange Http.Question Http.Answer :=
  exchange "GET" "/webhdfs/v1/?op=GETHOMEDIRECTORY" none (.object [("Path", .string "/u")])

/-- The usual number of copies is asked for. -/
def usualAsked : Dialogue.Exchange Http.Question Http.Answer :=
  exchange "GET" "/webhdfs/v1/?op=GETSERVERDEFAULTS" none
    (.object [("FsServerDefaults", .object [("replication", .number (.natural 3))])])

/-- It is asked where to write the file. -/
def location : Dialogue.Exchange Http.Question Http.Answer :=
  exchange "PUT" ("/webhdfs/v1/u/.p/application_1_0001/a.jar" ++
    "?op=CREATE&overwrite=true&noredirect=true") none
    (.object [("Location", .string "http://nn/data")])

/-- The file is written. -/
def written : Dialogue.Exchange Http.Question Http.Answer :=
  exchange "PUT" "/data" (some (WebHdfs.contentOf (Utf8.encode "dist"))) .null

/-- The status of the file is asked for. -/
def inspected (status : FileStatus) : Dialogue.Exchange Http.Question Http.Answer :=
  exchange "GET" ("/webhdfs/v1/u/.p/application_1_0001/a.jar" ++
    "?op=GETFILESTATUS") none (WebHdfs.statusDocument status)

/-- What is said to the name node. -/
def said (status : FileStatus) : Http.Conversation :=
  [homeAsked, usualAsked, location, written, inspected status]

/-- What is asked by staging. -/
def asked (status : FileStatus) : List Work.Exchange :=
  [⟨.isFile "a.jar", true⟩, ⟨.storage .homeDirectory, .ok "/u"⟩,
    ⟨.storage .defaultReplication, .ok 3⟩,
    ⟨.digest "a.jar", .ok (Sha256.hex (Utf8.encode "dist"))⟩,
    ⟨.storage (.upload "a.jar" path), .ok ()⟩, ⟨.storage (.stat path), .ok (some status)⟩]

/-- The content of the file. -/
private lemma read_files : files.read "a.jar" = .ok (Utf8.encode "dist") := by
  apply FileSystem.read_of_relative ["a.jar"] <;> decide +kernel

/-- Staging asks for this, and gives the manifest with the status that it was told. -/
private lemma ends_stage (status : FileStatus) :
    Ends (stage ⟨1, 1⟩ "p" [entry] none).run (asked status) (.ok (manifest status)) := by
  have hname : checkName [] entry = none := by decide +kernel
  have hdir : (manifest status).stagingDir = Storage.stagingDir "/u" "p" ⟨1, 1⟩ :=
    show "/u/.p/application_1_0001" = _ by decide +kernel
  have hpath : path = Storage.remotePath (manifest status).stagingDir "a.jar" :=
    show _ = Storage.remotePath "/u/.p/application_1_0001" _ by decide +kernel
  refine ends_stage_ok_iff.2 ⟨⟨?_, ?_⟩, rfl, rfl, List.forall_mem_singleton.2 hpath, "/u",
    3, [(asked status).drop 3], hdir, rfl, rfl, .cons ⟨status, rfl, rfl, rfl⟩ .nil⟩
  · exact List.forall_mem_singleton.2 (checkName_eq_none_iff.1 hname).1
  · exact List.nodup_cons.2 ⟨List.not_mem_nil, .nil⟩

/-- The name node answers what is asked of it. -/
private lemma serves (status : FileStatus) :
    client.Serves files (said status) (asked status) := by
  have hhome : Ends (client.answer (Storage.Call.homeDirectory.content files)
      .homeDirectory).run [homeAsked] (.ok "/u") :=
    WebHdfs.ends_fetch (Http.ends_send_of_target (by decide +kernel))
      ((Json.only_written "Path" _ _).trans (Json.text_written _))
  have husual : Ends (client.answer (Storage.Call.defaultReplication.content files)
      .defaultReplication).run [usualAsked] (.ok 3) :=
    Dialogue.ends_run_bind_ok_iff.2 ⟨[usualAsked], [], 3, rfl,
      WebHdfs.ends_fetch (Http.ends_send_of_target (by decide +kernel))
        ((Json.only_written "FsServerDefaults" _ _).trans
          ((Json.only_written "replication" _ _).trans
            (Json.naturalBelow_written (by decide)))), .done _⟩
  have hlocation : Ends (client.fetch (Json.only "Location" Json.text) "PUT" path "CREATE"
      [("overwrite", "true"), ("noredirect", "true")]).run [location] (.ok "http://nn/data") :=
    WebHdfs.ends_fetch (Http.ends_send_of_target (by decide +kernel))
      ((Json.only_written "Location" _ _).trans (Json.text_written _))
  have hupload : Ends (client.upload path (Utf8.encode "dist")).run [location, written] (.ok ()) :=
    Dialogue.ends_run_bind_ok_iff.2 ⟨[location], [written], _, rfl, hlocation,
      Dialogue.ends_run_lift_bind_iff.2 ⟨[written], [], _, rfl,
        Http.ends_send_of_target (by decide +kernel), .done _⟩⟩
  have hstat : Ends (client.answer ((Storage.Call.stat path).content files) (.stat path)).run
      [inspected status] (.ok (some status)) :=
    WebHdfs.ends_stat (Http.ends_send_of_target (by decide +kernel))
  have hcopied : client.Serves files [location, written, inspected status]
      [⟨.digest "a.jar", (files.read "a.jar").map Sha256.hex⟩,
        ⟨.storage (.upload "a.jar" path), .ok ()⟩,
        ⟨.storage (.stat path), .ok (some status)⟩] := by
    have hanswer : Ends (client.answer ((Storage.Call.upload "a.jar" path).content files)
        (.upload "a.jar" path)).run [location, written] (.ok ()) := by
      rw [Storage.Call.content, read_files]
      exact hupload
    exact .digest (.storage hanswer (.storage hstat .done))
  have hfound : files.isFile "a.jar" = true := FileSystem.isFile_of_read read_files
  rw [read_files] at hcopied
  have hserves : client.Serves files (said status)
      (⟨.isFile "a.jar", files.isFile "a.jar"⟩ :: (asked status).tail) :=
    .isFile (.storage hhome (.storage husual hcopied))
  rwa [hfound] at hserves

end OneFile

/-! ## All together -/

/-- **When what staging observed was right.** Local files do not change.

1. If staging gives a manifest, whatever the storage is, then the length and the time of every
   artifact are those that the storage told of it, the digest is that of the local file, and the
   number of copies is the one asked for, or else the usual one that the storage told.
2. Verification finds exactly the first artifact of which another number of copies was told, if the
   storage keeps saying the same. So what was told was right exactly if the lengths in the manifest
   are those of the local files and verification succeeds.
3. Nothing sees to that: a name node may tell any status of each file, and staging gives a manifest
   all the same, in which the number of copies is the one asked for or the usual one.

**Proof sketch.** The run of staging is known but for the answers, and an artifact takes its length
and time from the last answer about it. The length that verification compares is therefore the one
that is told again. For the third part the name node answers with documents of the values. -/
theorem stage_observedRight_iff (fs : FileSystem) (id : ApplicationId) (label : String)
    (entries : List ArtifactEntry) (factor : Option UInt16) :
    (∀ t m, Ends (stage id label entries factor).run t (.ok m) → (∀ x ∈ t, Work.Sees fs x) →
      (List.Forall₂ Told m.artifacts (statuses t) ∧
        ∀ a ∈ m.artifacts, ∃ content, fs.read a.entry.localPath = .ok content ∧
          a.sha256 = Sha256.hex content) ∧
      (∃ usual, m.replication = chosen usual factor ∧
        (factor = none → ⟨.storage .defaultReplication, .ok usual⟩ ∈ t)) ∧
      (∃ u r, Ends (verify m).run u r ∧ KeepsSaying (statuses t) u) ∧
      (∀ u r, Ends (verify m).run u r → KeepsSaying (statuses t) u →
        (r = .ok () ∧ ∀ p ∈ statuses t, p.2.replication = m.replication.factor) ∨
          ∃ p ∈ statuses t, p.2.replication ≠ m.replication.factor ∧
            r = .error (.failed (complaint m p.1 p.2.replication))) ∧
      (ObservedRight fs m t ↔ (∀ a ∈ m.artifacts, HasLength fs a a.len) ∧
        ∀ u r, Ends (verify m).run u r → KeepsSaying (statuses t) u → r = .ok ())) ∧
    ∀ (w : WebHdfs) (home : String) (usual : UInt16) (l : List FileStatus),
      Admissible fs entries → w.CanAsk "/" → (∀ e ∈ entries, w.CanAsk (target home label id e)) →
      l.length = entries.length →
      ∃ said t m, Ends (stage id label entries factor).run t (.ok m) ∧ w.Serves fs said t ∧
        m.replication = chosen usual factor ∧ (statuses t).map (·.2) = l := by
  refine ⟨fun t m hrun hfiles => ?_, fun w home usual l h hroot hask hlength =>
    exists_stage_told w id home label factor usual h hroot hask hlength⟩
  have htold := told_of_ends_stage hrun
  have hverified := fun u r (hverify : Ends (verify m).run u r) hsame =>
    eq_of_ends_verifyAll htold hverify hsame
  have hexists := exists_ends_verify_keepsSaying m (nodup_told_of_ends_stage hrun)
  refine ⟨⟨htold, ?_⟩, ?_, hexists, hverified, (observedRight_iff htold).trans
    (and_congr_right fun _ => ⟨fun hright u r hverify hsame => ?_, fun hok => ?_⟩)⟩
  · obtain ⟨-, -, -, -, home, usual, parts, -, -, rfl, hparts⟩ := ends_stage_ok_iff.1 hrun
    exact exists_read_of_forall₂_copied hparts (List.forall_mem_append.1 hfiles).2
  · obtain ⟨-, -, -, -, home, usual, parts, -, hchosen, rfl, -⟩ := ends_stage_ok_iff.1 hrun
    refine ⟨usual, hchosen, ?_⟩
    rintro rfl
    simp [opening]
  · obtain ⟨rfl, -⟩ | ⟨p, hp, hwrong, -⟩ := hverified u r hverify hsame
    · rfl
    · exact absurd (hright p hp) hwrong
  · obtain ⟨u, r, hverify, hsame⟩ := hexists
    obtain ⟨-, hright⟩ | ⟨p, -, -, rfl⟩ := hverified u r hverify hsame
    · exact hright
    · exact nomatch hok u _ hverify hsame

open OneFile in
/-- A file of which there are as many copies as usual, and which has its length: verification
succeeds. -/
theorem stage_observedRight_iff_of_threeCopies :
    let status : FileStatus := ⟨4, 3, 5⟩
    Ends (stage ⟨1, 1⟩ "p" [entry] none).run (asked status) (.ok (manifest status)) ∧
      client.Serves files (said status) (asked status) ∧
      ObservedRight files (manifest status) (asked status) ∧
      ∃ u, Ends (verify (manifest status)).run u (.ok ()) ∧
        KeepsSaying (statuses (asked status)) u := by
  intro status
  have hserves := serves status
  obtain ⟨hruns, -⟩ := stage_observedRight_iff files ⟨1, 1⟩ "p" [entry] none
  obtain ⟨-, -, ⟨u, r, hverify, hsame⟩, hverdict, hiff⟩ :=
    hruns _ _ (ends_stage status) hserves.sees
  have hok : ∀ u r, Ends (verify (manifest status)).run u r →
      KeepsSaying (statuses (asked status)) u → r = .ok () := by
    intro u r hverify hsame
    obtain ⟨rfl, -⟩ | ⟨p, hp, hwrong, -⟩ := hverdict u r hverify hsame
    · rfl
    · obtain rfl := List.mem_singleton.1 hp
      exact absurd rfl hwrong
  obtain rfl := hok u r hverify hsame
  refine ⟨ends_stage status, hserves, hiff.2 ⟨?_, hok⟩, u, hverify, hsame⟩
  exact List.forall_mem_singleton.2 ⟨_, read_files, rfl⟩

open OneFile in
/-- **Files that are wrong are staged**: one of which there is one copy although three are usual,
which verification finds as soon as the storage says so again, and one that was cut short. -/
theorem stage_missesWrongFiles :
    let lacking : FileStatus := ⟨4, 1, 5⟩
    let short : FileStatus := ⟨1, 3, 5⟩
    (Ends (stage ⟨1, 1⟩ "p" [entry] none).run (asked lacking) (.ok (manifest lacking)) ∧
      client.Serves files (said lacking) (asked lacking) ∧
      ¬ObservedRight files (manifest lacking) (asked lacking) ∧
      ∃ u, Ends (verify (manifest lacking)).run u (.error (.failed (failure
          ("staged artifact '/u/.p/application_1_0001/a.jar' has " ++
            "replication 1 but 3 (storage_default) was applied")))) ∧
        KeepsSaying (statuses (asked lacking)) u) ∧
    Ends (stage ⟨1, 1⟩ "p" [entry] none).run (asked short) (.ok (manifest short)) ∧
      client.Serves files (said short) (asked short) ∧
      ¬ObservedRight files (manifest short) (asked short) := by
  intro lacking short
  refine ⟨⟨ends_stage _, serves _, ?_, ?_⟩, ends_stage _, serves _, ?_⟩
  · intro h
    obtain ⟨⟨-, -, hfactor⟩, -⟩ := List.forall₂_cons.1 h
    exact absurd hfactor (by decide)
  · obtain ⟨u, r, hverify, hsame⟩ := exists_ends_verify_keepsSaying (manifest lacking)
      (nodup_told_of_ends_stage (ends_stage lacking))
    obtain ⟨-, hright⟩ | ⟨p, hp, -, rfl⟩ :=
      eq_of_ends_verifyAll (told_of_ends_stage (ends_stage lacking)) hverify hsame
    · exact absurd (hright (path, lacking) List.mem_cons_self) (by decide)
    · obtain rfl := List.mem_singleton.1 hp
      have hcomplaint : complaint (manifest lacking) path 1 = failure
          ("staged artifact '/u/.p/application_1_0001/a.jar' has " ++
            "replication 1 but 3 (storage_default) was applied") := by
        decide +kernel
      exact ⟨u, hcomplaint ▸ hverify, hsame⟩
  · intro h
    obtain ⟨⟨-, ⟨content, hread, hlen⟩, -⟩, -⟩ := List.forall₂_cons.1 h
    obtain rfl := Except.ok.inj (read_files.symm.trans hread)
    exact absurd hlen (by decide +kernel)

end Staging

end ClusterDeploy
