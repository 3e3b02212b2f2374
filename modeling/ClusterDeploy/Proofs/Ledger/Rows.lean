import ClusterDeploy.Ledger.Store
import ClusterDeploy.Proofs.Application

set_option relaxedAutoImplicit false
set_option autoImplicit false

/-!
# Rows stand for records

The operations of the ledger write rows of one form only: each row of the deployments is a record,
written down cell by cell. Reading it gives the record back, and what an operation does to the row
it does to the record.

## Main definitions

* `Ledger.DeploymentRow.ofRecord` — the row that stands for a record, less its artifacts.
* `DeploymentRecord.started`, `DeploymentRecord.completed`, `DeploymentRecord.aborted`,
  `DeploymentRecord.cleaned` — what the operations do to a record.

## Main results

* `Ledger.readRow_ofRecord` — the row of a record is read as the record.
* `Ledger.readArtifact_of_ofArtifact` — the row of an artifact is read as the artifact.
* `Ledger.isSuspect_ofRecord` — the suspect rows are those of records that require inspection.
-/

namespace ClusterDeploy

/-! ## What the operations do to a record -/

namespace DeploymentRecord

/-- The record of a deployment that starts, less its artifacts. -/
def started (jobName : String) (m : Manifest) (seconds : Nat) : DeploymentRecord where
  applicationId := m.applicationId
  jobName := jobName
  stagingDir := m.stagingDir
  replication := m.replication
  artifacts := []
  outcome := none
  termination := none
  teardownError := none
  error := none
  startedAt := seconds
  finishedAt := none
  cleanedAt := none

/-- The record of a deployment that ended with a report. -/
def completed (report : DeploymentReport) (seconds : Nat) (r : DeploymentRecord) :
    DeploymentRecord :=
  { r with
    outcome := some report.outcome
    termination := some report.termination
    teardownError := report.teardownError.map DeployError.display
    error := none
    finishedAt := some seconds }

/-- The record of a deployment that ended with a failure. -/
def aborted (e : DeployError) (termination : Option Termination)
    (teardownError : Option DeployError) (seconds : Nat) (r : DeploymentRecord) :
    DeploymentRecord :=
  { r with
    termination := termination
    teardownError := teardownError.map DeployError.display
    error := some e.display
    finishedAt := some seconds }

/-- The record of a deployment whose staging directory is gone. -/
def cleaned (seconds : Nat) (r : DeploymentRecord) : DeploymentRecord :=
  { r with cleanedAt := some seconds }

end DeploymentRecord

namespace Ledger

/-! ## Rows of records -/

/-- A second or nothing. -/
def Cell.ofSecond? : Option Nat → Cell
  | none => .null
  | some n => .integer n

/-- The row that stands for a record, less its artifacts. -/
def DeploymentRow.ofRecord (r : DeploymentRecord) : DeploymentRow where
  applicationId := .text r.applicationId.display
  jobName := .text r.jobName
  stagingDir := .text r.stagingDir
  replication := .integer r.replication.factor.toNat
  replicationSource := .text r.replication.source
  outcome := Cell.ofText? (r.outcome.map JobOutcome.name)
  failurePayload := Cell.ofBytes? (r.outcome.bind JobOutcome.cause?)
  termination := Cell.ofText? (r.termination.map Termination.name)
  teardownError := Cell.ofText? r.teardownError
  errorMessage := Cell.ofText? r.error
  startedAt := .integer r.startedAt
  finishedAt := Cell.ofSecond? r.finishedAt
  cleanedAt := Cell.ofSecond? r.cleanedAt

variable {r : DeploymentRecord}

/-- The row of a completed deployment is that of its record. -/
lemma complete_ofRecord (report : DeploymentReport) (seconds : Nat) :
    (DeploymentRow.ofRecord r).complete report seconds = .ofRecord (r.completed report seconds) :=
  rfl

/-- The row of an aborted deployment is that of its record. -/
lemma abort_ofRecord (e : DeployError) (termination : Option Termination)
    (teardownError : Option DeployError) (seconds : Nat) :
    (DeploymentRow.ofRecord r).abort e termination teardownError seconds =
      .ofRecord (r.aborted e termination teardownError seconds) :=
  rfl

/-- A row belongs to the application of its record, and to no other. -/
lemma isOf_ofRecord (id : ApplicationId) :
    (DeploymentRow.ofRecord r).isOf id.display = decide (r.applicationId = id) := by
  by_cases h : r.applicationId = id
  · simp [DeploymentRow.isOf, DeploymentRow.ofRecord, h]
  · have hne : r.applicationId.display ≠ id.display := fun heq =>
      h (ApplicationId.text_injective heq)
    simp [DeploymentRow.isOf, DeploymentRow.ofRecord, h, hne]

/-- The suspect rows are those of records that require inspection. -/
lemma isSuspect_ofRecord : (DeploymentRow.ofRecord r).isSuspect = r.requiresInspection := by
  unfold DeploymentRow.isSuspect DeploymentRecord.requiresInspection DeploymentRow.ofRecord
  rcases r.teardownError with _ | _ <;> rcases r.termination with _ | (_ | _ | _) <;> rfl

/-! ## Reading -/

/-- An end of a cluster is read back from its name. -/
lemma parse_name (t : Termination) : Termination.parse t.name = some t := by
  cases t <;> decide

/-- A number of copies and who chose it are read back. -/
lemma readReplication_eq (a : Replication) :
    readReplication a.factor.toNat a.source = .ok a := by
  have hfactor : ¬((a.factor.toNat : Int) < 0 ∨ (UInt16.size : Int) ≤ a.factor.toNat) := by
    have := a.factor.toNat_lt_size
    omega
  unfold readReplication
  rw [if_neg hfactor]
  cases a <;> simp [Replication.ofParts, Replication.source, Replication.factor]

/-- A text is read back from its cell. -/
lemma field_text (s : String) (index : Nat) (column : String) :
    Field.text ⟨.text s, index, column⟩ = .ok s :=
  rfl

/-- A whole number is read back from its cell. -/
lemma field_integer (i : Int) (index : Nat) (column : String) :
    Field.integer ⟨.integer i, index, column⟩ = .ok i :=
  rfl

/-- A text that may be missing is read back from its cell. -/
lemma optional_ofText? (s : Option String) (index : Nat) (column : String) :
    Field.optional Field.text ⟨Cell.ofText? s, index, column⟩ = .ok s := by
  cases s <;> rfl

/-- Bytes that may be missing are read back from their cell. -/
lemma optional_ofBytes? (b : Option Bytes) (index : Nat) (column : String) :
    Field.optional Field.bytes ⟨Cell.ofBytes? b, index, column⟩ = .ok b := by
  cases b <;> rfl

/-- A time that may be missing is read back from its cell. -/
lemma optional_ofSecond? (n : Option Nat) (index : Nat) (column : String) :
    Field.optional Field.integer ⟨Cell.ofSecond? n, index, column⟩ = .ok (n.map Int.ofNat) := by
  cases n <;> rfl

/-- What may be missing is read if it is there. -/
private lemma mapM_some_of_ok {α β : Type} {f : α → Except Fault β} {a : α} {b : β}
    (hf : f a = .ok b) : (some a).mapM f = .ok (some b) := by
  change some <$> f a = _
  rw [hf]
  rfl

/-- An outcome and its cause are put together again. -/
lemma mapM_readOutcome (o : Option JobOutcome) :
    (o.map JobOutcome.name).mapM (fun text => readOutcome text (o.bind JobOutcome.cause?)) =
      .ok o := by
  rcases o with _ | (_ | cause)
  · rfl
  · exact mapM_some_of_ok rfl
  · exact mapM_some_of_ok rfl

/-- An end of a cluster that may be missing is read back. -/
lemma mapM_readTermination (t : Option Termination) :
    (t.map Termination.name).mapM readTermination = .ok t := by
  rcases t with _ | t
  · rfl
  · refine mapM_some_of_ok ?_
    unfold readTermination
    rw [parse_name]

/-- A time in seconds is read back. -/
lemma ofSeconds_natCast (n : Nat) : ofSeconds n = .ok n := by
  unfold ofSeconds
  rw [if_pos (Int.natCast_nonneg n), Int.toNat_natCast]

/-- A time in seconds that may be missing is read back. -/
lemma mapM_ofSeconds (n : Option Nat) : (n.map Int.ofNat).mapM ofSeconds = .ok n := by
  rcases n with _ | n
  · rfl
  · exact mapM_some_of_ok (ofSeconds_natCast n)

/-- After a value the reading goes on. -/
private lemma ok_bind {α β : Type} (a : α) (f : α → Except Fault β) : (Except.ok a >>= f) = f a :=
  rfl

/-- **The row of a record is read as the record**, less its artifacts. -/
lemma readRow_ofRecord (r : DeploymentRecord) :
    readRow (.ofRecord r) = .ok { r with artifacts := [] } := by
  have happlication : readApplication r.applicationId.display = .ok r.applicationId := by
    simp [readApplication, ApplicationId.parse_text]
  unfold readRow
  simp only [DeploymentRow.field, DeploymentRow.get, DeploymentRow.ofRecord, field_text,
    field_integer, optional_ofText?, optional_ofBytes?, optional_ofSecond?, ok_bind,
    readReplication_eq, happlication, mapM_readOutcome, mapM_readTermination, ofSeconds_natCast,
    mapM_ofSeconds]
  rfl

/-- A sequence of readings gives a value if its parts do. -/
lemma bind_eq_ok_iff {α β : Type} {x : Except Fault α} {f : α → Except Fault β} {b : β} :
    (x >>= f) = .ok b ↔ ∃ a, x = .ok a ∧ f a = .ok b := by
  rcases x with fault | a
  · exact ⟨nofun, nofun⟩
  · constructor
    · exact fun h => ⟨a, rfl, h⟩
    · rintro ⟨_, ⟨⟩, h⟩
      exact h

/-- A number that is stored is stored as itself. -/
lemma eq_of_toWord {n : Nat} {cell : Cell} (h : toWord n = .ok cell) : cell = .integer n := by
  unfold toWord at h
  split at h
  · exact (Except.ok.inj h).symm
  · exact nomatch h

/-- A role is read back from its name. -/
lemma parse_role (role : ArtifactRole) : ArtifactRole.parse role.name = some role := by
  cases role <;> decide

/-- A number of 64 bits is read back. -/
lemma ofWord_toNat (n : UInt64) : ofWord n.toNat = .ok n := by
  unfold ofWord
  rw [if_pos (Int.natCast_nonneg _), Int.toNat_natCast, UInt64.ofNat_toNat]

/-- **The row of an artifact is read as the artifact.** -/
lemma readArtifact_of_ofArtifact {id : String} {position : Nat} {a : StagedArtifact}
    {row : ArtifactRow} (hrow : ArtifactRow.ofArtifact id position a = .ok row) :
    readArtifact row = .ok a := by
  unfold ArtifactRow.ofArtifact at hrow
  obtain ⟨len, hlen, hrow⟩ := bind_eq_ok_iff.1 hrow
  obtain ⟨time, htime, hrow⟩ := bind_eq_ok_iff.1 hrow
  obtain rfl := Except.ok.inj hrow
  obtain rfl := eq_of_toWord hlen
  obtain rfl := eq_of_toWord htime
  unfold readArtifact
  simp only [ArtifactRow.field, ArtifactRow.get, field_text, field_integer, ok_bind, parse_role,
    ofWord_toNat]
  rfl

end Ledger

end ClusterDeploy
