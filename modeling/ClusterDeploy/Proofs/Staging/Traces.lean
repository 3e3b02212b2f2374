import ClusterDeploy.Proofs.Dialogue.Questions
import ClusterDeploy.Proofs.Staging.Guarantees
import ClusterDeploy.Proofs.Task.Serving

set_option relaxedAutoImplicit false
set_option autoImplicit false

/-!
# What staging asks

Other work may go on in the storage between any two calls that staging makes. Whatever the answers
are, staging writes files to its own directory only, and deletes nothing; and if it gives a
manifest, each artifact in it was written.

## Main definitions

* `Work.AnswersHome` — an answer that names a home directory, if it is one to the question for it.
* `Staging.IsStagingQuestion` — the questions of staging.
* `Work.Uploads` — exchanges that write a file.

## Main results

* `Staging.asks_stage_home` — staging asks no other questions.
* `Staging.exists_uploads_of_ends_stage` — every artifact of a manifest was written.
* `Rehearsal.runFrom_operation` — what becomes of operations on the storage in a rehearsal.
-/

namespace ClusterDeploy

open Dialogue (Asks Ends Reaches)
open MemoryStorage (isBelow)

namespace Work

/-- A question of work and its answer. -/
abbrev Exchange := Dialogue.Exchange Question Answer

/-- An answer that names a home directory, if it is one to the question for it. -/
def AnswersHome (home : String) : (q : Question) → Answer q → Prop
  | .storage .homeDirectory, answer => answer = .ok home
  | _, _ => True

/-- A file was written. -/
def Uploads (path : String) (x : Exchange) : Prop :=
  ∃ localPath, x = ⟨.storage (.upload localPath path), .ok ()⟩

section Asking

variable {asked : Question → Prop} {answered : (q : Question) → Answer q → Prop}

/-- A call of the storage asks one question. -/
lemma asks_storage {call : Storage.Call} (h : asked (.storage call)) :
    Asks asked answered (fun r => ∀ value, r = .ok value → True) (storage call).run :=
  ⟨h, fun _ _ _ _ => trivial⟩

/-- Its result is an answer. -/
lemma asks_storage_told {call : Storage.Call} (h : asked (.storage call)) :
    Asks asked answered (fun r => ∀ value, r = .ok value → answered (.storage call) (.ok value))
      (storage call).run :=
  ⟨h, fun _ hanswer _ hvalue => hvalue ▸ hanswer⟩

/-- A check of a local file asks for this file. -/
lemma asks_isFile {path : String} (h : asked (.isFile path)) :
    Asks asked answered (fun r => ∀ value, r = .ok value → True) (isFile path).run :=
  ⟨h, fun _ _ _ _ => trivial⟩

/-- A digest asks for its file. -/
lemma asks_digest {path : String} (h : asked (.digest path)) :
    Asks asked answered (fun r => ∀ value, r = .ok value → True) (digest path).run :=
  ⟨h, fun _ _ _ _ => trivial⟩

/-- A value asks for nothing. -/
lemma asks_pure {α : Type} {given : α → Prop} {a : α} (h : given a) :
    Asks asked answered (fun r => ∀ a, r = .ok a → given a) (pure a : Work α).run :=
  fun _ ha => Except.ok.inj ha ▸ h

/-- A failure asks for nothing, and gives nothing. -/
lemma asks_fail {α : Type} {given : α → Prop} {e : DeployError} :
    Asks asked answered (fun r => ∀ a, r = .ok a → given a) (fail e : Work α).run :=
  fun _ ha => nomatch ha

end Asking

/-- A call of the storage is one question. -/
lemma ends_storage_iff {call : Storage.Call} {t : List Exchange} {r : Attempt call.Value} :
    Ends (storage call).run t r ↔ t = [⟨.storage call, r⟩] := by
  constructor
  · rintro (_ | ⟨⟨⟩⟩)
    rfl
  · rintro rfl
    exact .ask (.done r)

/-- A call of the ledger is one question. -/
lemma eq_of_reaches_ledger {call : Ledger.Call} {t : List Exchange}
    {left : Dialogue Question Answer (Attempt call.Value)}
    (h : Reaches (ledger call).run t left) : t = [] ∨ ∃ answer, t = [⟨.ledger call, answer⟩] := by
  rcases Dialogue.reaches_ask_iff.1 h with ⟨rfl, -⟩ | ⟨answer, rest, rfl, hrest⟩
  · exact .inl rfl
  · cases hrest
    exact .inr ⟨answer, rfl⟩

/-- A call of the platform is one question. -/
lemma eq_of_reaches_platform {call : Platform.Call} {t : List Exchange}
    {left : Dialogue Question Answer (Attempt call.Value)}
    (h : Reaches (platform call).run t left) :
    t = [] ∨ ∃ answer, t = [⟨.platform call, answer⟩] := by
  rcases Dialogue.reaches_ask_iff.1 h with ⟨rfl, -⟩ | ⟨answer, rest, rfl, hrest⟩
  · exact .inl rfl
  · cases hrest
    exact .inr ⟨answer, rfl⟩

end Work

namespace Staging

variable {home label dir : String} {id : ApplicationId} {entries : List ArtifactEntry}
  {factor : Option UInt16} {e : ArtifactEntry} {m : Manifest} {t : List Work.Exchange}

/-- The questions of staging: what it writes are files of its directory, and it deletes nothing. -/
def IsStagingQuestion (dir : String) : Work.Question → Prop
  | .storage (.upload _ path) =>
    ∃ name, Storage.IsFileName name ∧ path = Storage.remotePath dir name
  | .storage (.deleteRecursive _) => False
  | .platform _ => False
  | .ledger _ => False
  | _ => True

/-- The questions of a removal: it deletes its directory only. -/
def IsRemovalQuestion (dir : String) (q : Work.Question) : Prop :=
  q = .storage .homeDirectory ∨ q = .storage (.deleteRecursive dir)

/-! ## Questions -/

variable {asked : Work.Question → Prop} {answered : (q : Work.Question) → Work.Answer q → Prop}

/-- Entries that are found to be right have names that can stand for files. -/
lemma asks_validate (hasked : ∀ path, asked (.isFile path)) (seen : List String)
    (entries : List ArtifactEntry) :
    Asks asked answered
      (fun r => ∀ u, r = .ok u → ∀ e ∈ entries, Storage.IsFileName e.remoteName)
      (validate seen entries).run := by
  induction entries generalizing seen with
  | nil => exact Work.asks_pure fun e he => absurd he List.not_mem_nil
  | cons e rest ih =>
    unfold validate
    cases hname : checkName seen e with
    | some error => exact Work.asks_fail
    | none =>
      refine Asks.run_bind (Work.asks_isFile (hasked _)) fun isFile _ => ?_
      cases isFile with
      | false => exact Work.asks_fail
      | true =>
        refine (ih _).mono_result fun r hr u hu => List.forall_mem_cons.2 ⟨?_, hr u hu⟩
        exact (checkName_eq_none_iff.1 hname).1

/-- The last step of copying only looks at the file. -/
private lemma asks_upload_of_stat {path sha256 : String} :
    Asks (IsStagingQuestion dir) answered (fun r => ∀ a, r = .ok a → True) (do
      match ← Work.storage (.stat path) with
      | none => Work.fail (failure s!"uploaded artifact '{path}' is not visible")
      | some status =>
        return (⟨e, path, sha256, status.len, status.modificationTime⟩ : StagedArtifact)).run := by
  refine (Work.asks_storage trivial).run_bind_any fun status => ?_
  cases status with
  | none => exact Work.asks_fail
  | some status => exact Work.asks_pure trivial

/-- The copy of an artifact asks for nothing but what staging may ask. -/
lemma asks_upload (factor : Option UInt16) (hname : Storage.IsFileName e.remoteName) :
    Asks (IsStagingQuestion dir) answered (fun r => ∀ a, r = .ok a → True)
      (upload dir factor e).run := by
  unfold upload
  refine Asks.run_bind (Work.asks_digest trivial) fun digest _ => ?_
  cases digest with
  | error fault => exact Work.asks_fail
  | ok sha256 =>
    refine (Work.asks_pure trivial).run_bind_any fun sha256 => ?_
    refine (Work.asks_storage ⟨_, hname, rfl⟩).run_bind_any fun _ => ?_
    cases factor with
    | none => exact asks_upload_of_stat
    | some n => exact (Work.asks_storage trivial).run_bind_any fun _ => asks_upload_of_stat

/-- The copying of all artifacts asks for nothing but what staging may ask. -/
lemma asks_uploadAll (factor : Option UInt16)
    (hnames : ∀ e ∈ entries, Storage.IsFileName e.remoteName) :
    Asks (IsStagingQuestion dir) answered (fun r => ∀ l, r = .ok l → True)
      (uploadAll dir factor entries).run := by
  induction entries with
  | nil => exact Work.asks_pure trivial
  | cons e rest ih =>
    obtain ⟨hname, hrest⟩ := List.forall_mem_cons.1 hnames
    exact (asks_upload factor hname).run_bind fun _ _ =>
      (ih hrest).run_bind fun _ _ => Work.asks_pure trivial

/-- The questions of staging, whatever home directory it is told. -/
lemma asks_stage (id : ApplicationId) (label : String) (entries : List ArtifactEntry)
    (factor : Option UInt16) (hopening : ∀ q, (∀ dir, IsStagingQuestion dir q) → asked q)
    (hasked : ∀ home, answered (.storage .homeDirectory) (.ok home) →
      ∀ q, IsStagingQuestion (Storage.stagingDir home label id) q → asked q) :
    Asks asked answered (fun r => ∀ m, r = .ok m → True) (stage id label entries factor).run := by
  unfold stage
  refine (asks_validate (fun _ => hopening _ fun _ => trivial) [] entries).run_bind
    fun _ hnames => ?_
  refine (Work.asks_storage_told (hopening (.storage .homeDirectory) fun _ => trivial)).run_bind
    fun home hhome => ?_
  have hcopied : ∀ factor, Asks asked answered (fun r => ∀ l, r = .ok l → True)
      (uploadAll (Storage.stagingDir home label id) factor entries).run := fun factor =>
    (asks_uploadAll factor hnames).mono (hasked home hhome)
  rcases factor with _ | n
  · refine Asks.run_bind_any ?_ fun replication => ?_
    · have husual : asked (.storage .defaultReplication) := hopening _ fun _ => trivial
      exact (Work.asks_storage husual).run_bind_any fun _ => Work.asks_pure trivial
    · exact (hcopied _).run_bind_any fun _ => Work.asks_pure trivial
  · refine (Work.asks_pure trivial).run_bind_any fun replication => ?_
    exact (hcopied _).run_bind_any fun _ => Work.asks_pure trivial

/-- A check asks for the state of files. -/
lemma asks_verify (m : Manifest) (hasked : ∀ path, asked (.storage (.stat path))) :
    Asks asked answered (fun r => ∀ u, r = .ok u → True) (verify m).run := by
  unfold verify
  generalize m.artifacts = artifacts
  induction artifacts with
  | nil => exact Work.asks_pure trivial
  | cons a rest ih =>
    unfold verifyAll
    refine (Work.asks_storage (hasked _)).run_bind_any fun status => ?_
    cases status with
    | none => exact Work.asks_fail
    | some status =>
      dsimp only
      cases mismatch m a status with
      | some error => exact Work.asks_fail
      | none => exact ih

/-- The questions of a removal, whatever home directory it is told. -/
lemma asks_remove (id : ApplicationId) (label : String) (hhome : asked (.storage .homeDirectory))
    (hasked : ∀ home, answered (.storage .homeDirectory) (.ok home) →
      asked (.storage (.deleteRecursive (Storage.stagingDir home label id)))) :
    Asks asked answered (fun r => ∀ removed, r = .ok removed → True) (remove id label).run :=
  (Work.asks_storage_told hhome).run_bind fun home htold => Work.asks_storage (hasked home htold)

/-- **Staging asks no other questions** when it is told its home directory. -/
lemma asks_stage_home (home : String) (id : ApplicationId) (label : String)
    (entries : List ArtifactEntry) (factor : Option UInt16) :
    Asks (IsStagingQuestion (Storage.stagingDir home label id)) (Work.AnswersHome home)
      (fun r => ∀ m, r = .ok m → True) (stage id label entries factor).run := by
  refine asks_stage id label entries factor (fun _ hq => hq _) fun home' htold q hq => ?_
  obtain rfl : home' = home := Except.ok.inj htold
  exact hq

/-- A removal deletes its directory only when it is told its home directory. -/
lemma asks_remove_home (home : String) (id : ApplicationId) (label : String) :
    Asks (IsRemovalQuestion (Storage.stagingDir home label id)) (Work.AnswersHome home)
      (fun r => ∀ removed, r = .ok removed → True) (remove id label).run := by
  refine asks_remove id label (.inl rfl) fun home' htold => ?_
  obtain rfl : home' = home := Except.ok.inj htold
  exact .inr rfl

/-! ## What was done in the end -/

/-- The last step of copying tells the path of the file. -/
private lemma remotePath_of_ends (path sha256 : String) {a : StagedArtifact}
    (hrun : Ends (ExceptT.run (m := Dialogue Work.Question Work.Answer) do
      match ← Work.storage (.stat path) with
      | none => Work.fail (failure s!"uploaded artifact '{path}' is not visible")
      | some status =>
        return (⟨e, path, sha256, status.len, status.modificationTime⟩ : StagedArtifact))
      t (.ok a)) : a.remotePath = path := by
  obtain ⟨_, _, status, -, -, hend⟩ := Dialogue.ends_run_bind_ok_iff.1 hrun
  cases status with
  | none => exact nomatch (Dialogue.ends_run_throw_iff.1 hend).2
  | some status => rw [Except.ok.inj (Dialogue.ends_run_pure_iff.1 hend).2]

/-- An artifact that was copied was written. -/
lemma exists_uploads_of_ends_upload {a : StagedArtifact}
    (hrun : Ends (upload dir factor e).run t (.ok a)) :
    ∃ x ∈ t, Work.Uploads a.remotePath x := by
  unfold upload at hrun
  obtain ⟨_, _, digest, rfl, -, hdigest⟩ := Dialogue.ends_run_bind_ok_iff.1 hrun
  cases digest with
  | error fault =>
    obtain ⟨_, _, _, -, hfail, -⟩ := Dialogue.ends_run_bind_ok_iff.1 hdigest
    exact nomatch (Dialogue.ends_run_throw_iff.1 hfail).2
  | ok digest =>
    obtain ⟨_, _, sha256, rfl, -, hread⟩ := Dialogue.ends_run_bind_ok_iff.1 hdigest
    obtain ⟨_, _, ⟨⟩, rfl, hupload, hwritten⟩ := Dialogue.ends_run_bind_ok_iff.1 hread
    obtain rfl := Work.ends_storage_iff.1 hupload
    refine ⟨⟨.storage (.upload e.localPath _), .ok ()⟩, List.mem_append_right _
      (List.mem_append_right _ List.mem_cons_self), e.localPath, ?_⟩
    cases factor with
    | none => rw [remotePath_of_ends _ sha256 hwritten]
    | some n =>
      obtain ⟨_, _, _, -, -, hreplicated⟩ := Dialogue.ends_run_bind_ok_iff.1 hwritten
      rw [remotePath_of_ends _ sha256 hreplicated]

/-- Every artifact that is given was uploaded. -/
lemma exists_uploads_of_ends_uploadAll {artifacts : List StagedArtifact}
    (hrun : Ends (uploadAll dir factor entries).run t (.ok artifacts)) :
    ∀ a ∈ artifacts, ∃ x ∈ t, Work.Uploads a.remotePath x := by
  induction entries generalizing t artifacts with
  | nil =>
    obtain rfl := Except.ok.inj (Dialogue.ends_run_pure_iff.1 hrun).2
    exact fun _ ha => absurd ha List.not_mem_nil
  | cons e rest ih =>
    obtain ⟨t₁, _, a, rfl, hupload, hothers⟩ := Dialogue.ends_run_bind_ok_iff.1 hrun
    obtain ⟨t₂, _, artifacts', rfl, hrest, hend⟩ := Dialogue.ends_run_bind_ok_iff.1 hothers
    obtain ⟨rfl, hartifacts⟩ := Dialogue.ends_run_pure_iff.1 hend
    rw [Except.ok.inj hartifacts, List.append_nil]
    refine List.forall_mem_cons.2 ⟨?_, fun b hb => ?_⟩
    · obtain ⟨x, hx, hwritten⟩ := exists_uploads_of_ends_upload hupload
      exact ⟨x, List.mem_append_left _ hx, hwritten⟩
    · obtain ⟨x, hx, hwritten⟩ := ih hrest b hb
      exact ⟨x, List.mem_append_right _ hx, hwritten⟩

/-- **Every artifact of a manifest was written.** -/
lemma exists_uploads_of_ends_stage (hrun : Ends (stage id label entries factor).run t (.ok m)) :
    ∀ a ∈ m.artifacts, ∃ x ∈ t, Work.Uploads a.remotePath x := by
  have hend : ∀ {dir : String} {replication : Replication} {t' : List Work.Exchange},
      Ends (ExceptT.run (m := Dialogue Work.Question Work.Answer) do
        let artifacts ← uploadAll dir factor entries
        return ⟨id, dir, artifacts, replication⟩) t' (.ok m) →
      ∀ a ∈ m.artifacts, ∃ x ∈ t', Work.Uploads a.remotePath x := by
    intro dir replication t' hrun
    obtain ⟨t₁, _, artifacts, rfl, hupload, hend⟩ := Dialogue.ends_run_bind_ok_iff.1 hrun
    obtain ⟨rfl, hm⟩ := Dialogue.ends_run_pure_iff.1 hend
    rw [Except.ok.inj hm, List.append_nil]
    exact exists_uploads_of_ends_uploadAll hupload
  unfold stage at hrun
  obtain ⟨_, t₁, _, ht, -, hhome⟩ := Dialogue.ends_run_bind_ok_iff.1 hrun
  obtain ⟨_, t₂, home, ht₁, -, hfactor⟩ := Dialogue.ends_run_bind_ok_iff.1 hhome
  have hcopied : ∀ a ∈ m.artifacts, ∃ x ∈ t₂, Work.Uploads a.remotePath x := by
    intro a ha
    cases factor with
    | none =>
      obtain ⟨_, _, _, rfl, -, hcopy⟩ := Dialogue.ends_run_bind_ok_iff.1 hfactor
      obtain ⟨x, hx, hwritten⟩ := hend hcopy a ha
      exact ⟨x, List.mem_append_right _ hx, hwritten⟩
    | some n =>
      obtain ⟨_, _, _, rfl, -, hcopy⟩ := Dialogue.ends_run_bind_ok_iff.1 hfactor
      obtain ⟨x, hx, hwritten⟩ := hend hcopy a ha
      exact ⟨x, List.mem_append_right _ hx, hwritten⟩
  intro a ha
  obtain ⟨x, hx, hwritten⟩ := hcopied a ha
  exact ⟨x, by simp [ht, ht₁, hx], hwritten⟩

/-- What was removed in the end. -/
lemma mem_of_ends_remove {removed : Bool} (hrun : Ends (remove id label).run t (.ok removed))
    (hanswers : ∀ x ∈ t, Work.AnswersHome home x.question x.answer) :
    ⟨.storage (.deleteRecursive (Storage.stagingDir home label id)), .ok removed⟩ ∈ t := by
  obtain ⟨_, _, home', rfl, hhome, hremove⟩ := Dialogue.ends_run_bind_ok_iff.1 hrun
  obtain rfl := Work.ends_storage_iff.1 hhome
  obtain rfl := Work.ends_storage_iff.1 hremove
  obtain rfl : home' = home := Except.ok.inj (hanswers _ List.mem_cons_self)
  exact List.mem_cons_of_mem _ List.mem_cons_self

end Staging

/-! ## In a rehearsal -/

/-- Work that asks for the storage and local files only, whatever it is answered. -/
lemma Work.isLocal_of_asks {α : Type} {given : α → Prop} {p : Dialogue Question Answer α}
    (h : Asks Question.IsLocal (fun _ _ => True) given p) : IsLocal p := by
  induction p with
  | done a => trivial
  | ask q next ih => exact ⟨h.1, fun a => ih a (h.2 a trivial)⟩

/-- What staging may ask concerns the storage and local files only. -/
lemma Staging.isLocal_of_isStagingQuestion {dir : String} {q : Work.Question}
    (h : IsStagingQuestion dir q) : q.IsLocal := by
  cases q with
  | platform call => exact h
  | ledger call => exact h
  | _ => trivial

namespace Operation

/-- Operations on the storage. -/
def IsLocal : Operation → Prop
  | .platform _ => False
  | .ledger _ => False
  | _ => True

/-- Operations on the storage ask for it and for local files only. -/
lemma isLocal_work {op : Operation} (hop : op.IsLocal) : Work.IsLocal op.work.run := by
  cases op with
  | platform call => exact hop.elim
  | ledger call => exact hop.elim
  | stage id label entries factor =>
    refine Work.isLocal_of_asks (Staging.asks_stage id label entries factor ?_ ?_)
    · exact fun q hq => Staging.isLocal_of_isStagingQuestion (hq "")
    · exact fun _ _ _ => Staging.isLocal_of_isStagingQuestion
  | verify m => exact Work.isLocal_of_asks (Staging.asks_verify m fun _ => trivial)
  | remove id label =>
    exact Work.isLocal_of_asks (Staging.asks_remove id label trivial fun _ _ => trivial)

end Operation

/-- **In a rehearsal artifacts are staged, checked and removed** as work on a storage in memory is
carried out, if there are no rules and no connection is held. -/
lemma Rehearsal.runFrom_operation {b : Backends} {pass : Millis → Run Unit} {limit : Option Millis}
    {now : Millis} {w : World} {op : Operation} (hop : op.IsLocal) (hb : b.storage = .memory)
    (hw : w.IsPlain) :
    ∃ w' : World, w'.IsPlain ∧ w'.files = w.files ∧
      w'.storage = (op.work.carryOut w.files w.storage).2 ∧
      (runFrom pass limit (workThread b op.work) now).run w =
        (.over now (op.work.carryOut w.files w.storage).1, w') :=
  runFrom_workThread hb op.work (Operation.isLocal_work hop) hw

end ClusterDeploy
