import ClusterDeploy.Proofs.Staging.Traces
import Mathlib.Data.List.Forall2

set_option relaxedAutoImplicit false
set_option autoImplicit false

/-!
# How artifacts are copied

What staging asks on the way to a manifest, in order: whether the files are there, what the storage
says of itself, and then for one artifact after the other its digest, its copy and what became of
it. The manifest says of each artifact what the storage said last.

## Main definitions

* `Staging.Copied` — what is asked while one artifact is copied.
* `Staging.Staged` — how a manifest fits to what was asked on the way to it.

## Main results

* `Staging.staged_of_ends` — the runs of staging that give a manifest.
-/

namespace ClusterDeploy

open Dialogue (Ends)

/-- A question that always has an answer is one step. -/
lemma Work.ends_ask_iff {q : Question} {t : List Exchange} {r : Attempt (Answer q)} :
    Ends (Work.ask q).run t r ↔ ∃ a, t = [⟨q, a⟩] ∧ r = .ok a := by
  constructor
  · rintro (_ | ⟨⟨⟩⟩)
    exact ⟨_, rfl, rfl⟩
  · rintro ⟨a, rfl, rfl⟩
    exact .ask (.done _)

namespace Staging

/-- The number of copies is set, if a number is asked for. -/
def replicated (factor : Option UInt16) (path : String) : List Work.Exchange :=
  (factor.map fun n => ⟨.storage (.setReplication path n), .ok ()⟩).toList

/-- What is asked while one artifact is copied: its digest is made, the file is written to its path,
and the size and the time of the artifact are those that the storage tells of this path then. -/
def Copied (factor : Option UInt16) (a : StagedArtifact) (asked : List Work.Exchange) : Prop :=
  ∃ status : FileStatus, a.len = status.len ∧ a.modificationTime = status.modificationTime ∧
    asked = [⟨.digest a.entry.localPath, .ok a.sha256⟩,
        ⟨.storage (.upload a.entry.localPath a.remotePath), .ok ()⟩] ++
      (replicated factor a.remotePath ++ [⟨.storage (.stat a.remotePath), .ok (some status)⟩])

/-- Exchanges that are no attempt to write a file. -/
def WritesNothing (x : Work.Exchange) : Prop :=
  ∀ localPath path, x.question ≠ .storage (.upload localPath path)

/-- How a manifest fits to what was asked on the way to it. -/
structure Staged (entries : List ArtifactEntry) (factor : Option UInt16) (m : Manifest)
    (asked : List Work.Exchange) : Prop where
  /-- The artifacts are the entries, in their order. -/
  entries : m.artifacts.map (·.entry) = entries
  /-- Their names are different from each other. -/
  distinct : (m.artifacts.map (·.entry.remoteName)).Nodup
  /-- They lie in the staging directory. -/
  path : ∀ a ∈ m.artifacts, a.remotePath = Storage.remotePath m.stagingDir a.entry.remoteName
  /-- They were copied one after the other, and nothing else was. -/
  copied : ∃ opening parts, asked = opening ++ parts.flatten ∧ (∀ x ∈ opening, WritesNothing x) ∧
    List.Forall₂ (Copied factor) m.artifacts parts

variable {label dir : String} {id : ApplicationId} {e : ArtifactEntry}
  {entries : List ArtifactEntry} {factor : Option UInt16} {seen : List String}
  {a : StagedArtifact} {artifacts : List StagedArtifact} {m : Manifest} {t : List Work.Exchange}

/-- Entries that are found to be right have different names, and nothing is written meanwhile. -/
lemma nodup_of_ends_validate (hrun : Ends (validate seen entries).run t (.ok ())) :
    (entries.map (·.remoteName)).Nodup ∧ (∀ e ∈ entries, e.remoteName ∉ seen) ∧
      ∀ x ∈ t, WritesNothing x := by
  induction entries generalizing seen t with
  | nil =>
    obtain ⟨rfl, -⟩ := Dialogue.ends_run_pure_iff.1 hrun
    exact ⟨.nil, fun _ he => absurd he List.not_mem_nil, fun _ hx => absurd hx List.not_mem_nil⟩
  | cons e entries ih =>
    unfold validate at hrun
    cases hname : checkName seen e with
    | some error =>
      simp only [hname] at hrun
      obtain ⟨_, _, _, -, hfail, -⟩ := Dialogue.ends_run_bind_ok_iff.1 hrun
      cases (Dialogue.ends_run_throw_iff.1 hfail).2
    | none =>
      simp only [hname] at hrun
      obtain ⟨_, _, found, rfl, hfile, hrest⟩ := Dialogue.ends_run_bind_ok_iff.1 hrun
      obtain ⟨_, rfl, -⟩ := Work.ends_ask_iff.1 hfile
      cases found with
      | false =>
        obtain ⟨_, _, _, -, hfail, -⟩ := Dialogue.ends_run_bind_ok_iff.1 hrest
        cases (Dialogue.ends_run_throw_iff.1 hfail).2
      | true =>
        obtain ⟨hdistinct, hfresh, hnothing⟩ := ih hrest
        obtain ⟨-, hnew⟩ := checkName_eq_none_iff.1 hname
        have hname' : e.remoteName ∉ entries.map (·.remoteName) := by
          intro hmem
          obtain ⟨e', he', hsame⟩ := List.mem_map.1 hmem
          exact hfresh e' he' (hsame ▸ List.mem_cons_self)
        refine ⟨List.nodup_cons.2 ⟨hname', hdistinct⟩, List.forall_mem_cons.2 ⟨hnew, ?_⟩,
          List.forall_mem_cons.2 ⟨?_, hnothing⟩⟩
        · exact fun e' he' hseen => hfresh e' he' (List.mem_cons_of_mem _ hseen)
        · rintro _ _ ⟨⟩

/-- The last step of copying tells the size and the time of the file. -/
private lemma exists_status_of_ends {path sha256 : String}
    (hrun : Ends (ExceptT.run (m := Dialogue Work.Question Work.Answer) do
      match ← Work.storage (.stat path) with
      | none => Work.fail (failure s!"uploaded artifact '{path}' is not visible")
      | some status =>
        return (⟨e, path, sha256, status.len, status.modificationTime⟩ : StagedArtifact))
      t (.ok a)) :
    ∃ status : FileStatus, a = ⟨e, path, sha256, status.len, status.modificationTime⟩ ∧
      t = [⟨.storage (.stat path), .ok (some status)⟩] := by
  obtain ⟨_, _, status, rfl, hstat, hend⟩ := Dialogue.ends_run_bind_ok_iff.1 hrun
  obtain rfl := Work.ends_storage_iff.1 hstat
  cases status with
  | none => exact nomatch (Dialogue.ends_run_throw_iff.1 hend).2
  | some status =>
    obtain ⟨rfl, ha⟩ := Dialogue.ends_run_pure_iff.1 hend
    exact ⟨status, Except.ok.inj ha, rfl⟩

/-- How one artifact is copied. -/
lemma copied_of_ends_upload (hrun : Ends (upload dir factor e).run t (.ok a)) :
    a.entry = e ∧ a.remotePath = Storage.remotePath dir e.remoteName ∧ Copied factor a t := by
  unfold upload at hrun
  obtain ⟨_, _, digest, rfl, hdigest, hread⟩ := Dialogue.ends_run_bind_ok_iff.1 hrun
  obtain ⟨_, rfl, hdigested⟩ := Work.ends_ask_iff.1 hdigest
  cases Except.ok.inj hdigested
  cases digest with
  | error fault =>
    obtain ⟨_, _, _, -, hfail, -⟩ := Dialogue.ends_run_bind_ok_iff.1 hread
    exact nomatch (Dialogue.ends_run_throw_iff.1 hfail).2
  | ok digest =>
    obtain ⟨_, _, sha256, rfl, hsha256, hcopy⟩ := Dialogue.ends_run_bind_ok_iff.1 hread
    obtain ⟨rfl, hsame⟩ := Dialogue.ends_run_pure_iff.1 hsha256
    cases Except.ok.inj hsame
    obtain ⟨_, _, ⟨⟩, rfl, hupload, hwritten⟩ := Dialogue.ends_run_bind_ok_iff.1 hcopy
    obtain rfl := Work.ends_storage_iff.1 hupload
    cases factor with
    | none =>
      obtain ⟨status, rfl, rfl⟩ := exists_status_of_ends hwritten
      exact ⟨rfl, rfl, status, rfl, rfl, rfl⟩
    | some n =>
      obtain ⟨_, _, ⟨⟩, rfl, hreplicated, hstat⟩ := Dialogue.ends_run_bind_ok_iff.1 hwritten
      obtain rfl := Work.ends_storage_iff.1 hreplicated
      obtain ⟨status, rfl, rfl⟩ := exists_status_of_ends hstat
      exact ⟨rfl, rfl, status, rfl, rfl, rfl⟩

/-- Artifacts are copied one after the other. -/
lemma copied_of_ends_uploadAll (hrun : Ends (uploadAll dir factor entries).run t (.ok artifacts)) :
    artifacts.map (·.entry) = entries ∧
      (∀ a ∈ artifacts, a.remotePath = Storage.remotePath dir a.entry.remoteName) ∧
      ∃ parts : List (List Work.Exchange), t = parts.flatten ∧
        List.Forall₂ (Copied factor) artifacts parts := by
  induction entries generalizing t artifacts with
  | nil =>
    obtain ⟨rfl, hnil⟩ := Dialogue.ends_run_pure_iff.1 hrun
    cases hnil
    exact ⟨rfl, fun _ ha => absurd ha List.not_mem_nil, [], rfl, .nil⟩
  | cons e entries ih =>
    obtain ⟨part, _, a, rfl, hupload, hothers⟩ := Dialogue.ends_run_bind_ok_iff.1 hrun
    obtain ⟨t₂, _, rest, rfl, hrest, hend⟩ := Dialogue.ends_run_bind_ok_iff.1 hothers
    obtain ⟨rfl, hartifacts⟩ := Dialogue.ends_run_pure_iff.1 hend
    cases Except.ok.inj hartifacts
    obtain ⟨rfl, hpath, hcopied⟩ := copied_of_ends_upload hupload
    obtain ⟨hentries, hpaths, parts, rfl, hparts⟩ := ih hrest
    refine ⟨congrArg _ hentries, List.forall_mem_cons.2 ⟨hpath, hpaths⟩, part :: parts, ?_,
      .cons hcopied hparts⟩
    rw [List.append_nil, List.flatten_cons]

/-- **The runs of staging that give a manifest.** -/
lemma staged_of_ends (hrun : Ends (stage id label entries factor).run t (.ok m)) :
    Staged entries factor m t := by
  -- the copying is the same whoever chose the number of copies
  have hend : ∀ {home : String} {replication : Replication} {opening copying : List Work.Exchange},
      (entries.map (·.remoteName)).Nodup → (∀ x ∈ opening, WritesNothing x) →
      Ends (ExceptT.run (m := Dialogue Work.Question Work.Answer) do
        let artifacts ← uploadAll (Storage.stagingDir home label id) factor entries
        return ⟨id, Storage.stagingDir home label id, artifacts, replication⟩) copying (.ok m) →
      Staged entries factor m (opening ++ copying) := by
    intro home replication opening copying hdistinct hnothing hcopy
    obtain ⟨t₁, _, artifacts, rfl, hupload, hend⟩ := Dialogue.ends_run_bind_ok_iff.1 hcopy
    obtain ⟨rfl, hm⟩ := Dialogue.ends_run_pure_iff.1 hend
    cases Except.ok.inj hm
    obtain ⟨rfl, hpaths, parts, rfl, hparts⟩ := copied_of_ends_uploadAll hupload
    rw [List.map_map] at hdistinct
    refine ⟨rfl, hdistinct, hpaths, opening, parts, ?_, hnothing, hparts⟩
    rw [List.append_nil]
  unfold stage at hrun
  obtain ⟨t₁, _, _, rfl, hvalidate, hhome⟩ := Dialogue.ends_run_bind_ok_iff.1 hrun
  obtain ⟨hdistinct, -, hnothing⟩ := nodup_of_ends_validate hvalidate
  obtain ⟨_, t₂, home, rfl, hasked, hfactor⟩ := Dialogue.ends_run_bind_ok_iff.1 hhome
  obtain rfl := Work.ends_storage_iff.1 hasked
  have hopening : ∀ x ∈ t₁ ++ [⟨.storage .homeDirectory, .ok home⟩], WritesNothing x :=
    List.forall_mem_append.2 ⟨hnothing, List.forall_mem_singleton.2 fun _ _ hask => nomatch hask⟩
  cases factor with
  | none =>
    obtain ⟨_, _, replication, rfl, husual, hcopy⟩ := Dialogue.ends_run_bind_ok_iff.1 hfactor
    obtain ⟨_, _, n, rfl, hstorage, hnumber⟩ := Dialogue.ends_run_bind_ok_iff.1 husual
    obtain rfl := Work.ends_storage_iff.1 hstorage
    obtain ⟨rfl, -⟩ := Dialogue.ends_run_pure_iff.1 hnumber
    have hasked : ∀ x ∈ (t₁ ++ [⟨.storage .homeDirectory, .ok home⟩]) ++
        [⟨.storage .defaultReplication, .ok n⟩], WritesNothing x :=
      List.forall_mem_append.2
        ⟨hopening, List.forall_mem_singleton.2 fun _ _ hask => nomatch hask⟩
    have hstaged := hend hdistinct hasked hcopy
    simpa only [List.append_assoc, List.nil_append] using hstaged
  | some n =>
    rw [← List.append_assoc]
    exact hend hdistinct hopening hfactor

end Staging

end ClusterDeploy
