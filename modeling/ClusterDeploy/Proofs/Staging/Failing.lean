import ClusterDeploy.Proofs.Dialogue.Questions
import ClusterDeploy.Staging

set_option relaxedAutoImplicit false
set_option autoImplicit false

/-!
# Staging that fails

The first call of the storage that fails is the end of staging, and its failure is what staging
gives. Nothing is tried again, and nothing is cleaned up.

## Main definitions

* `Dialogue.StopsAt` — programs for which some answers are the end.
* `Work.mishap?` — what went wrong in a call of the storage.

## Main results

* `Dialogue.StopsAt.eq_of_ends` — what a program gives in a run with such an answer.
* `Staging.eq_of_storage_failed` — what staging gives if a call of the storage fails.

## Implementation notes

Whether a program stops is said of the program as a tree, part by part. What it gives after other
failures, such as those of local files, does not matter here.
-/

namespace ClusterDeploy

open Dialogue (Ends)

namespace Dialogue

variable {Q : Type} {A : Q → Type} {α β ε : Type} {fatal : (q : Q) → A q → Option ε}

/-- Some answers are fatal: the program gives their failure and asks nothing more. -/
def StopsAt (fatal : (q : Q) → A q → Option ε) : Dialogue Q A (Except ε α) → Prop
  | done _ => True
  | ask q next => ∀ a, (∀ e, fatal q a = some e → next a = done (.error e)) ∧
      StopsAt fatal (next a)

namespace StopsAt

/-- A question whose answers are not fatal. -/
lemma ask {q : Q} {next : A q → Dialogue Q A (Except ε α)} (hq : ∀ a, fatal q a = none)
    (hnext : ∀ a, StopsAt fatal (next a)) : StopsAt fatal (Dialogue.ask q next) :=
  fun a => ⟨fun _ he => (nomatch (hq a).symm.trans he), hnext a⟩

/-- Programs in sequence: when the first one stops, the second one does not run. -/
lemma run_bind {p : ExceptT ε (Dialogue Q A) α} {f : α → ExceptT ε (Dialogue Q A) β}
    (hp : StopsAt fatal p.run) (hf : ∀ a, StopsAt fatal (f a).run) :
    StopsAt fatal (p >>= f).run := by
  rw [ExceptT.run_bind]
  generalize p.run = tree at hp ⊢
  induction tree with
  | done r =>
    cases r with
    | error e => exact trivial
    | ok a => exact hf a
  | ask q next ih =>
    intro a
    refine ⟨fun e he => ?_, ih a (hp a).2⟩
    change (next a >>= _) = _
    rw [(hp a).1 e he]
    rfl

/-- **A fatal answer is the end of a run.** -/
lemma eq_of_ends {p : Dialogue Q A (Except ε α)} {t : List (Exchange Q A)} {r : Except ε α}
    (h : StopsAt fatal p) (hrun : Ends p t r) {x : Exchange Q A} (hx : x ∈ t) {e : ε}
    (he : fatal x.question x.answer = some e) : r = .error e := by
  induction hrun with
  | done a => exact absurd hx List.not_mem_nil
  | @ask q next answer rest r hrest ih =>
    rcases List.mem_cons.1 hx with rfl | hx
    · rw [(h answer).1 e he] at hrest
      exact (ends_pure_iff.1 hrest).2
    · exact ih (h answer).2 hx

end StopsAt

end Dialogue

namespace Work

/-- What went wrong in a call of the storage. -/
def mishap? : (q : Question) → Answer q → Option Mishap
  | .storage _, .error mishap => some mishap
  | _, _ => none

/-- A call of the storage that fails is the end. -/
lemma stopsAt_storage (call : Storage.Call) : Dialogue.StopsAt mishap? (storage call).run := by
  rintro (mishap | value)
  · refine ⟨fun e he => ?_, trivial⟩
    rw [← Option.some.inj (show some mishap = some e from he)]
  · exact ⟨fun e he => (nomatch he), trivial⟩

/-- No answer about a local file is fatal. -/
lemma stopsAt_isFile (path : String) : Dialogue.StopsAt mishap? (isFile path).run :=
  .ask (fun _ => rfl) fun _ => trivial

/-- No digest is fatal by itself. -/
lemma stopsAt_digest (path : String) : Dialogue.StopsAt mishap? (digest path).run :=
  .ask (fun _ => rfl) fun _ => trivial

end Work

namespace Staging

open Dialogue (StopsAt)
open Work (mishap? stopsAt_storage)

/-- The storage is not called to check entries, so that it cannot fail there. -/
lemma stopsAt_validate (seen : List String) (entries : List ArtifactEntry) :
    StopsAt mishap? (validate seen entries).run := by
  induction entries generalizing seen with
  | nil => exact trivial
  | cons e rest ih =>
    unfold validate
    cases checkName seen e with
    | some error => exact trivial
    | none =>
      refine (Work.stopsAt_isFile _).run_bind fun isFile => ?_
      cases isFile with
      | false => exact trivial
      | true => exact ih _

/-- Copying one artifact, after its digest. -/
private lemma stopsAt_upload_of_digest {path sha256 : String} {e : ArtifactEntry}
    (factor : Option UInt16) :
    StopsAt mishap? (ExceptT.run (m := Dialogue Work.Question Work.Answer) do
      Work.storage (.upload e.localPath path)
      match factor with
      | some factor => Work.storage (.setReplication path factor)
      | none => pure ()
      match ← Work.storage (.stat path) with
      | none => Work.fail (failure s!"uploaded artifact '{path}' is not visible")
      | some status =>
        return (⟨e, path, sha256, status.len, status.modificationTime⟩ : StagedArtifact)) := by
  have hstat : StopsAt mishap? (ExceptT.run (m := Dialogue Work.Question Work.Answer) do
      match ← Work.storage (.stat path) with
      | none => Work.fail (failure s!"uploaded artifact '{path}' is not visible")
      | some status =>
        return (⟨e, path, sha256, status.len, status.modificationTime⟩ : StagedArtifact)) :=
    (stopsAt_storage _).run_bind fun status => by cases status <;> exact trivial
  refine (stopsAt_storage _).run_bind fun _ => ?_
  cases factor with
  | none => exact hstat
  | some n => exact (stopsAt_storage _).run_bind fun _ => hstat

/-- The copy of an artifact ends with the first call of the storage that fails. -/
lemma stopsAt_upload (dir : String) (factor : Option UInt16) (e : ArtifactEntry) :
    StopsAt mishap? (upload dir factor e).run := by
  unfold upload
  refine (Work.stopsAt_digest _).run_bind fun digest => ?_
  cases digest with
  | error fault => exact trivial
  | ok sha256 => exact stopsAt_upload_of_digest factor

/-- The copying of all artifacts ends with the first call of the storage that fails. -/
lemma stopsAt_uploadAll (dir : String) (factor : Option UInt16) (entries : List ArtifactEntry) :
    StopsAt mishap? (uploadAll dir factor entries).run := by
  induction entries with
  | nil => exact trivial
  | cons e rest ih =>
    exact (stopsAt_upload dir factor e).run_bind fun _ => ih.run_bind fun _ => trivial

/-- Staging ends with the first call of the storage that fails. -/
lemma stopsAt_stage (application : ApplicationId) (label : String) (entries : List ArtifactEntry)
    (factor : Option UInt16) : StopsAt mishap? (stage application label entries factor).run := by
  unfold stage
  refine (stopsAt_validate [] entries).run_bind fun _ => ?_
  refine (stopsAt_storage _).run_bind fun home => ?_
  have hcopied : ∀ replication : Replication, StopsAt mishap?
      (ExceptT.run (m := Dialogue Work.Question Work.Answer) do
        let artifacts ← uploadAll (Storage.stagingDir home label application) factor entries
        return (⟨application, Storage.stagingDir home label application, artifacts,
          replication⟩ : Manifest)) := fun _ =>
    (stopsAt_uploadAll _ factor entries).run_bind fun _ => trivial
  cases factor with
  | none =>
    have husual : StopsAt mishap?
        (Replication.storageDefault <$> Work.storage .defaultReplication).run :=
      (stopsAt_storage _).run_bind fun _ => trivial
    exact husual.run_bind hcopied
  | some n => exact hcopied _

/-- **What staging gives if a call of the storage fails** is the failure of this call. -/
lemma eq_of_storage_failed {application : ApplicationId} {label : String}
    {entries : List ArtifactEntry} {factor : Option UInt16} {result : Attempt Manifest}
    {asked : List (Dialogue.Exchange Work.Question Work.Answer)}
    (hrun : Ends (stage application label entries factor).run asked result)
    {call : Storage.Call} {mishap : Mishap}
    (hfails : ⟨.storage call, .error mishap⟩ ∈ asked) : result = .error mishap :=
  (stopsAt_stage application label entries factor).eq_of_ends hrun hfails rfl

end Staging

end ClusterDeploy
