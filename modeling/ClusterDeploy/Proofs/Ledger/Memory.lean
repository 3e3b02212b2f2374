import ClusterDeploy.Proofs.Ledger.Artifacts

set_option relaxedAutoImplicit false
set_option autoImplicit false

/-!
# The tables represent a map of records

What the two tables hold is a map from applications to records: the row of an application stands for
its record, and its rows among the artifacts stand for the artifacts of the record. Each operation
that succeeds changes the record of one application.

## Main definitions

* `Ledger.Memory` — maps from applications to records.
* `Ledger.Represents` — the tables represent a map.
* `Ledger.Call.application`, `Ledger.Call.revise` — the application that an operation is about, and
  what it makes of its record.
* `Ledger.Call.remember` — what an operation makes of a map.

## Main results

* `Ledger.runOn_readRecords` — records are read from their rows.
* `Ledger.Represents.readRecords` — the row of an application is read as its record.
* `Ledger.Represents.restart`, `Ledger.Represents.update` — a deployment starts, or its record is
  changed.
-/

namespace ClusterDeploy.Ledger

/-! ## Records -/

/-- Maps from applications to records. -/
abbrev Memory := ApplicationId → Option DeploymentRecord

/-- The application that an operation is about. -/
def Call.application : Call → ApplicationId
  | .recordStarted _ m => m.applicationId
  | .recordCompleted report => report.applicationId
  | .recordAborted id _ _ _ => id
  | .markCleaned id => id

/-- The record of a deployment that starts, with its artifacts. Of a record that the application has
already, only the time of the cleanup stays. -/
def freshRecord (jobName : String) (m : Manifest) (seconds : Nat)
    (old : Option DeploymentRecord) : DeploymentRecord :=
  { DeploymentRecord.started jobName m seconds with
    artifacts := m.artifacts
    cleanedAt := old.bind (·.cleanedAt) }

/-- What an operation makes of the record of the application that it is about. -/
def Call.revise (seconds : Nat) : Call → Option DeploymentRecord → Option DeploymentRecord
  | .recordStarted jobName m, old => some (freshRecord jobName m seconds old)
  | .recordCompleted report, old => old.map (.completed report seconds)
  | .recordAborted _ e termination teardownError, old =>
    old.map (.aborted e termination teardownError seconds)
  | .markCleaned _, old => old.map (.cleaned seconds)

/-- What an operation makes of a map. -/
def Call.remember (seconds : Nat) (call : Call) (memory : Memory) : Memory := fun id =>
  if id = call.application then call.revise seconds (memory id) else memory id

/-! ## Tables -/

/-- The rows of the tables represent a map: an application with a record has one row, which stands
for it, and its rows among the artifacts stand for the artifacts of the record. There are no rows of
anything that is not an application. -/
structure Represents (rows : List DeploymentRow) (artifacts : List ArtifactRow)
    (memory : Memory) : Prop where
  named : ∀ row ∈ rows, ∃ id : ApplicationId, row.isOf id.display = true
  rows : ∀ id, (rows.filter fun row => row.isOf id.display) = (memory id).toList.map .ofRecord
  artifacts : ∀ id, Written id.display 0 ((memory id).elim [] (·.artifacts))
    (artifacts.filter fun row => row.isOf id.display)

variable {rows : List DeploymentRow} {artifacts : List ArtifactRow} {memory : Memory}
  {id : ApplicationId} {record : DeploymentRecord} {access : Access} {db : Database}

/-- Different application ids have different texts. -/
lemma display_ne {a b : ApplicationId} (hne : a ≠ b) : a.display ≠ b.display := fun heq =>
  hne (ApplicationId.text_injective heq)

/-- **Records are read from their rows**, if the artifacts of their applications are read. -/
lemma runOn_readRecords {records : List DeploymentRecord} (hartifacts : ∀ r ∈ records,
      (artifactsOf r.applicationId).runOn access db = (.ok r.artifacts, db)) :
    (readRecords (records.map .ofRecord)).runOn access db = (.ok records, db) := by
  have hrows : (records.map DeploymentRow.ofRecord).mapM readRow =
      .ok (records.map fun r => { r with artifacts := [] }) := by
    rw [List.mapM_map]
    exact mapM_eq_ok fun r _ => readRow_ofRecord r
  rw [readRecords, hrows, runOn_bind_of_ok (runOn_ofReading _), List.mapM_map,
    runOn_mapM (g := id) fun r hr => ?_, List.map_id]
  rw [Function.comp_apply, runOn_bind_of_ok (hartifacts r hr)]
  rfl

namespace Represents

/-- Empty tables represent the map without records. -/
lemma empty : Represents [] [] fun _ => none :=
  ⟨fun _ hrow => absurd hrow List.not_mem_nil, fun _ => rfl, fun _ => .nil 0⟩

/-- A record is that of its application. -/
lemma applicationId_eq (h : Represents rows artifacts memory) (hrecord : memory id = some record) :
    record.applicationId = id := by
  have hmem : DeploymentRow.ofRecord record ∈ rows.filter fun row => row.isOf id.display := by
    rw [h.rows id, hrecord]
    exact List.mem_singleton_self _
  have hof := (List.mem_filter.1 hmem).2
  rw [isOf_ofRecord] at hof
  exact of_decide_eq_true hof

/-- An application has a row exactly if it has a record. -/
lemma any_isOf (h : Represents rows artifacts memory) (id : ApplicationId) :
    (rows.any fun row => row.isOf id.display) = (memory id).isSome := by
  have hfilter := h.rows id
  cases hrecord : memory id with
  | none =>
    rw [hrecord] at hfilter
    exact List.any_eq_false.2 (List.filter_eq_nil_iff.1 hfilter)
  | some record =>
    rw [hrecord] at hfilter
    have hmem : DeploymentRow.ofRecord record ∈ rows.filter fun row => row.isOf id.display := by
      rw [hfilter]
      exact List.mem_singleton_self _
    exact List.any_eq_true.2 ⟨_, List.mem_filter.1 hmem⟩

/-! ## Reading -/

/-- The artifacts of an application are those of its record. -/
lemma runOn_artifactsOf (h : Represents rows artifacts memory) (hdb : db.artifacts = some artifacts)
    (access : Access) (id : ApplicationId) :
    (artifactsOf id).runOn access db = (.ok ((memory id).elim [] (·.artifacts)), db) := by
  have hwritten := h.artifacts id
  rw [artifactsOf, runOn_bind_of_ok (runOn_getArtifacts hdb), runOn_ofReading, rowsOf,
    List.mergeSort_of_pairwise hwritten.ascends, hwritten.mapM_readArtifact]

/-- **The row of an application is read as its record**, with its artifacts. -/
lemma readRecords (h : Represents rows artifacts memory) (hdb : db.artifacts = some artifacts)
    (id : ApplicationId) :
    (Ledger.readRecords (rows.filter fun row => row.isOf id.display)).runOn access db =
      (.ok (memory id).toList, db) := by
  rw [h.rows id]
  refine runOn_readRecords fun r hr => ?_
  have hrecord : memory id = some r := Option.mem_toList.1 hr
  have hartifacts := h.runOn_artifactsOf hdb access id
  rwa [hrecord, ← h.applicationId_eq hrecord] at hartifacts

end Represents

/-- The record of an application, whatever the layout, as it is read from the tables. -/
def Database.recordOf (db : Database) (id : ApplicationId) : Option DeploymentRecord := do
  let table ← db.deployments
  let records ← ((readRecords (table.rows.filter fun row => row.isOf id.display)).runOn
    .reading db).1.toOption
  records.getLast?

/-! ## Recording -/

/-- A row belongs to one application only. -/
lemma isOf_other {row : DeploymentRow} {other : ApplicationId} (hne : other ≠ id)
    (hof : row.isOf id.display = true) : row.isOf other.display = false := by
  rw [DeploymentRow.isOf, eq_of_beq hof]
  simpa using display_ne hne.symm

/-- The rows of an application after those of some application were changed. -/
lemma filter_updated {other : ApplicationId} {change : DeploymentRow → DeploymentRow}
    (hkeeps : ∀ row, row.isOf id.display = true → (change row).isOf id.display = true) :
    ((Holds.updated id change rows).filter fun row => row.isOf other.display) =
      if other = id then (rows.filter fun row => row.isOf other.display).map change
      else rows.filter fun row => row.isOf other.display := by
  have hsame : ∀ row ∈ rows, ((fun row : DeploymentRow => row.isOf other.display) ∘
      fun row => if row.isOf id.display then change row else row) row =
        row.isOf other.display := by
    intro row _
    rw [Function.comp_apply]
    by_cases hof : row.isOf id.display = true
    · rw [if_pos hof]
      by_cases heq : other = id
      · rw [heq, hof, hkeeps row hof]
      · rw [isOf_other heq hof, isOf_other heq (hkeeps row hof)]
    · rw [if_neg hof]
  rw [Holds.updated, List.filter_map, List.filter_congr hsame]
  by_cases heq : other = id
  · rw [if_pos heq]
    refine List.map_congr_left fun row hrow => if_pos ?_
    rw [← heq]
    exact (List.mem_filter.1 hrow).2
  · rw [if_neg heq]
    refine (List.map_congr_left fun row hrow => if_neg ?_).trans (List.map_id' _)
    rw [isOf_other (Ne.symm heq) (List.mem_filter.1 hrow).2]
    exact Bool.false_ne_true

namespace Represents

/-- The rows are still those of applications after those of one were changed. -/
private lemma named_updated {change : DeploymentRow → DeploymentRow}
    (h : Represents rows artifacts memory)
    (hkeeps : ∀ row, row.isOf id.display = true → (change row).isOf id.display = true) :
    ∀ row ∈ Holds.updated id change rows,
      ∃ other : ApplicationId, row.isOf other.display = true := by
  refine List.forall_mem_map.2 fun row hrow => ?_
  by_cases hof : row.isOf id.display = true
  · rw [if_pos hof]
    exact ⟨id, hkeeps row hof⟩
  · rw [if_neg hof]
    exact h.named row hrow

/-- **The record of an application is changed** when its row is. -/
lemma update {change : DeploymentRow → DeploymentRow}
    {change' : DeploymentRecord → DeploymentRecord} (h : Represents rows artifacts memory)
    (hchange : ∀ r, change (.ofRecord r) = .ofRecord (change' r))
    (hkeeps : ∀ row, row.isOf id.display = true → (change row).isOf id.display = true)
    (hartifacts : ∀ r, (change' r).artifacts = r.artifacts) :
    Represents (Holds.updated id change rows) artifacts
      fun other => if other = id then (memory other).map change' else memory other := by
  refine ⟨h.named_updated hkeeps, fun other => ?_, fun other => ?_⟩
  · rw [filter_updated hkeeps, h.rows other]
    split
    · cases memory other with
      | none => rfl
      | some r => exact congrArg (fun row => [row]) (hchange r)
    · rfl
  · have hwritten := h.artifacts other
    split
    · cases hrecord : memory other with
      | none => rwa [hrecord] at hwritten
      | some r =>
        rw [hrecord] at hwritten
        rw [Option.map_some, Option.elim_some, hartifacts]
        exact hwritten
    · exact hwritten

/-- The row of a deployment that starts takes the place of the one that it has. -/
private lemma filter_startRow {jobName : String} {m : Manifest} {seconds : Nat}
    (h : Represents rows artifacts memory) (other : ApplicationId) :
    ((startRow m.applicationId.display (.ofStart jobName m seconds) rows).filter
        fun row => row.isOf other.display) =
      (if other = m.applicationId then some (freshRecord jobName m seconds (memory other))
        else memory other).toList.map .ofRecord := by
  have hnew : (DeploymentRow.ofStart jobName m seconds).isOf m.applicationId.display = true :=
    beq_self_eq_true _
  unfold startRow
  rw [h.any_isOf]
  cases hold : memory m.applicationId with
  | none =>
    -- the new row is behind all others
    rw [if_neg (by simp), List.filter_append, h.rows other]
    by_cases heq : other = m.applicationId
    · subst heq
      rw [if_pos rfl, hold, List.filter_cons, if_pos hnew]
      rfl
    · rw [if_neg heq, List.filter_cons, isOf_other heq hnew]
      exact List.append_nil _
  | some old =>
    -- the new row takes the place of the old one
    rw [if_pos Option.isSome_some]
    have hrestart : ∀ row : DeploymentRow, row.isOf m.applicationId.display = true →
        (row.restart (.ofStart jobName m seconds)).isOf m.applicationId.display = true :=
      fun _ _ => hnew
    refine (filter_updated hrestart).trans ?_
    rw [h.rows other]
    by_cases heq : other = m.applicationId
    · rw [if_pos heq, if_pos heq, heq, hold]
      rfl
    · rw [if_neg heq, if_neg heq]

/-- The row of a deployment that starts is that of an application, as the others are. -/
private lemma named_startRow {jobName : String} {m : Manifest} {seconds : Nat}
    (h : Represents rows artifacts memory) :
    ∀ row ∈ startRow m.applicationId.display (.ofStart jobName m seconds) rows,
      ∃ id : ApplicationId, row.isOf id.display = true := by
  have hnew : (DeploymentRow.ofStart jobName m seconds).isOf m.applicationId.display = true :=
    beq_self_eq_true _
  have hrestart : ∀ row : DeploymentRow, row.isOf m.applicationId.display = true →
      (row.restart (.ofStart jobName m seconds)).isOf m.applicationId.display = true :=
    fun _ _ => hnew
  unfold startRow
  split
  · exact h.named_updated hrestart
  · exact List.forall_mem_append.2 ⟨h.named, List.forall_mem_singleton.2 ⟨m.applicationId, hnew⟩⟩

/-- The rows of the artifacts of a deployment that starts take the place of those that it has. -/
lemma filter_artifacts {id other : ApplicationId} {l : List StagedArtifact}
    {new : List ArtifactRow} (hnew : Written id.display 0 l new) :
    (((artifacts.filter fun row => !row.isOf id.display) ++ new).filter
        fun row => row.isOf other.display) =
      if other = id then new else artifacts.filter fun row => row.isOf other.display := by
  rw [List.filter_append, List.filter_filter]
  by_cases heq : other = id
  · subst heq
    rw [if_pos rfl, hnew.filter_isOf, List.filter_eq_nil_iff.2 (by simp), List.nil_append]
  · rw [if_neg heq, hnew.filter_other (display_ne (Ne.symm heq)), List.append_nil]
    refine List.filter_congr fun row _ => ?_
    cases hof : row.isOf other.display with
    | false => rfl
    | true =>
      have hother : row.isOf id.display = false := by
        rw [ArtifactRow.isOf, eq_of_beq hof]
        simpa using display_ne heq
      rw [hother]
      rfl

/-- **A deployment starts**: its row takes the place of the one that it has, and so do the rows of
its artifacts. -/
lemma restart {jobName : String} {m : Manifest} {seconds : Nat} {new : List ArtifactRow}
    (h : Represents rows artifacts memory)
    (hnew : Written m.applicationId.display 0 m.artifacts new) :
    Represents (startRow m.applicationId.display (.ofStart jobName m seconds) rows)
      ((artifacts.filter fun row => !row.isOf m.applicationId.display) ++ new)
      fun other => if other = m.applicationId then
        some (freshRecord jobName m seconds (memory other)) else memory other := by
  refine ⟨h.named_startRow, filter_startRow h, fun other => ?_⟩
  rw [filter_artifacts hnew]
  by_cases heq : other = m.applicationId
  · rw [if_pos heq, if_pos heq, heq]
    exact hnew
  · rw [if_neg heq, if_neg heq]
    exact h.artifacts other

end Represents

end ClusterDeploy.Ledger
