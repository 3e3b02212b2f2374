import ClusterDeploy.Proofs.Ledger.Requests

set_option relaxedAutoImplicit false
set_option autoImplicit false

/-!
# Moving the layout of a ledger

Migrations may come at any time between the operations of a ledger. Each of them leaves the layout
of the version that it was asked for. A record is lost when the tables are, the time of a cleanup
when its column is, and nothing else is.

## Main definitions

* `Ledger.Database.columns`, `Ledger.columnsOf` — the tables that are there with their columns, and
  those of a version.
* `Ledger.Moved` — what a migration leaves.
* `Ledger.NeverBelow` — the layout never stood below a version.
* `Ledger.Survival` — what becomes of a record.

## Main results

* `Ledger.Remembers.isSome_of_neverBelow`, `Ledger.Remembers.eq_none_of_not_neverBelow`,
  `Ledger.Remembers.uncleaned_eq`, `Ledger.Remembers.cleanedAt_eq` — what becomes of the records of
  the map that the tables represent.
* `Ledger.serveAll_migrated` — moving the layout, and what becomes of the records.
-/

namespace ClusterDeploy.Ledger

/-! ## Columns -/

/-- The tables of the deployments that are there, with the names of their columns. -/
def Database.columns (db : Database) : List (String × List String) :=
  db.deployments.toList.map (fun table => (deploymentsName,
    (DeploymentColumn.all.filter fun c => table.hasCleanedAt || c != .cleanedAt).map (·.name))) ++
  db.artifacts.toList.map fun _ => (artifactsName, ArtifactColumn.all.map (·.name))

/-- The tables of a version with their columns. The second version adds a column to the first. -/
def columnsOf (version : Int) : List (String × List String) :=
  if version < 1 then []
  else
    [("deployments",
      ["application_id", "job_name", "staging_dir", "replication", "replication_source", "outcome",
        "failure_payload", "termination", "teardown_error", "error_message", "started_at_unix",
        "finished_at_unix"] ++ if version < 2 then [] else ["cleaned_at_unix"]),
    ("staged_artifacts",
      ["application_id", "position", "remote_name", "role", "local_path", "remote_path", "sha256",
        "len", "modification_time"])]

/-- What a migration to a version leaves: the layout stands there, the versions up to it are noted,
and the tables have the columns of this version. If the layout stood there before nothing
changed. -/
structure Moved (target : Int) (db db' : Database) : Prop where
  current : ∀ access, currentVersion.runOn access db' = (.ok target, db')
  versions : db'.versions = some (versionsTo target)
  columns : db'.columns = columnsOf target
  again : db.version = target → Unchanged db db'

variable {db db' : Database} {version : Int} {memory : Memory} {id : ApplicationId}

namespace Remembers

/-- The tables have the columns of the version where the layout stands. -/
lemma columns_eq (h : Remembers db version memory) : db.columns = columnsOf version := by
  cases h with
  | bare hdb =>
    have hdeployments : db.deployments = none := congrArg Database.deployments hdb
    have hartifacts : db.artifacts = none := congrArg Database.artifacts hdb
    rw [Database.columns, hdeployments, hartifacts]
    rfl
  | initial _ _ => rfl
  | cleaning _ => rfl

/-- A migration to a version that is there succeeds. -/
lemma exists_moved (h : Remembers db version memory) {target : Int}
    (hvalid : 0 ≤ target ∧ target ≤ latestVersion) :
    ∃ db', (Ledger.applyMigration target).runOn .writing db = (.ok (), db') ∧
      Moved target db db' := by
  obtain ⟨db', hmigrate, hopened, h', hagain⟩ := h.applyMigration hvalid.1 hvalid.2
  have hversions : db'.versions = some (versionsTo target) := by
    rw [← h'.versions_eq, ← hopened]
    rfl
  refine ⟨db', hmigrate, fun access => ?_, hversions, h'.columns_eq,
    fun heq => hagain (heq.symm.trans h.version_eq)⟩
  rw [currentVersion, runOn_bind_of_ok (runOn_ensureVersions hversions), runOn_readVersion,
    h'.version_eq]

end Remembers

/-! ## What is left of a record -/

/-- The layout never stood below a version while a ledger served requests, neither before nor
behind any of them. -/
def NeverBelow (bound : Int) : Database → List Request → Prop
  | db, [] => bound ≤ db.version
  | db, r :: rest => bound ≤ db.version ∧ NeverBelow bound (r.action.runOn .writing db).2 rest

/-- A version below which requests never go is not above that of the database. -/
lemma NeverBelow.version_le {bound : Int} {requests : List Request}
    (h : NeverBelow bound db requests) : bound ≤ db.version := by
  cases requests with
  | nil => exact h
  | cons r rest => exact h.1

/-- But for the time of the cleanup, what is told of a record does not depend on this time. -/
lemma map_uncleaned_toldAll {old old' : Option DeploymentRecord} (notes : List Note)
    (heq : old.map (·.uncleaned) = old'.map (·.uncleaned)) :
    (toldAll notes old).map (·.uncleaned) = (toldAll notes old').map (·.uncleaned) := by
  have hstep : ∀ seconds (call : Call) old, (call.revise seconds old).map (·.uncleaned) =
      (call.revise seconds (old.map (·.uncleaned))).map (·.uncleaned) := by
    intro seconds call old
    cases call <;> cases old <;> rfl
  induction notes generalizing old old' with
  | nil => exact heq
  | cons note rest ih => exact ih (by rw [hstep, heq, ← hstep])

namespace Entry

/-- Whether a request started a deployment of an application. -/
def Starts (id : ApplicationId) (e : Entry) : Prop :=
  ∃ note, e.noted id = some note ∧ note.2.isStart = true

/-- Whether a request noted a cleanup of an application. -/
def Cleans (id : ApplicationId) (e : Entry) : Prop :=
  ∃ note, e.noted id = some note ∧ note.2.isCleaning = true

variable {e : Entry}

/-- Where there is no record none comes, unless the deployment starts. -/
lemma revise_none (id : ApplicationId) (e : Entry) :
    e.revise id none = none ∨
      ∃ seconds jobName m, e.noted id = some (seconds, .recordStarted jobName m) ∧
        e.revise id none = some (freshRecord jobName m seconds none) := by
  unfold revise
  cases hmoved : e.movedTo with
  | some target =>
    refine .inl ?_
    dsimp only [keep]
    split
    · rfl
    · split <;> rfl
  | none =>
    cases hnoted : e.noted id with
    | none => exact .inl rfl
    | some note =>
      obtain ⟨seconds, call⟩ := note
      cases call with
      | recordStarted jobName m => exact .inr ⟨seconds, jobName, m, rfl, rfl⟩
      | recordCompleted report => exact .inl rfl
      | recordAborted id e termination teardownError => exact .inl rfl
      | markCleaned id => exact .inl rfl

/-- A record is there as long as the tables are, and but for the time of the cleanup it is what was
noted. -/
lemma revise_some (e : Entry) (version : Int) (r : DeploymentRecord) :
    e.revise id (some r) = none ∧ move version e < 1 ∨
      ∃ r', e.revise id (some r) = some r' ∧
        (some r').map (·.uncleaned) =
          (toldAll (e.noted id).toList (some r)).map (·.uncleaned) := by
  unfold revise move
  cases hmoved : e.movedTo with
  | some target =>
    rw [noted_of_movedTo hmoved]
    dsimp only [keep]
    by_cases hfirst : target < 1
    · exact .inl ⟨if_pos hfirst, hfirst⟩
    · rw [if_neg hfirst]
      by_cases hsecond : target < 2
      · exact .inr ⟨r.uncleaned, if_pos hsecond, rfl⟩
      · exact .inr ⟨r, if_neg hsecond, rfl⟩
  | none =>
    refine .inr ?_
    cases hnoted : e.noted id with
    | none => exact ⟨r, rfl, rfl⟩
    | some note =>
      obtain ⟨seconds, call⟩ := note
      cases call with
      | recordStarted jobName m => exact ⟨_, rfl, rfl⟩
      | recordCompleted report => exact ⟨_, rfl, rfl⟩
      | recordAborted id e termination teardownError => exact ⟨_, rfl, rfl⟩
      | markCleaned id => exact ⟨_, rfl, rfl⟩

/-- The time of the cleanup stays, unless its column is lost. -/
lemma cleanedAt_revise (version : Int) (old : Option DeploymentRecord) (hclean : ¬ e.Cleans id) :
    (e.revise id old).bind (·.cleanedAt) = old.bind (·.cleanedAt) ∨
      (e.revise id old).bind (·.cleanedAt) = none ∧ move version e < 2 := by
  unfold revise move
  cases hmoved : e.movedTo with
  | some target =>
    dsimp only [keep]
    by_cases hsecond : target < 2
    · refine .inr ⟨?_, hsecond⟩
      split
      · rfl
      · cases old <;> rfl
    · rw [if_neg (by omega), if_neg hsecond]
      exact .inl rfl
  | none =>
    refine .inl ?_
    cases hnoted : e.noted id with
    | none => rfl
    | some note =>
      obtain ⟨seconds, call⟩ := note
      cases call with
      | recordStarted jobName m => rfl
      | recordCompleted report => cases old <;> rfl
      | recordAborted id e termination teardownError => cases old <;> rfl
      | markCleaned id => exact absurd ⟨_, hnoted, rfl⟩ hclean

end Entry

namespace Remembers

/-- Where there is a record there are tables. -/
lemma pos_of_some {r : DeploymentRecord} (h : Remembers db version memory)
    (hr : memory id = some r) : 1 ≤ db.version := by
  rw [h.version_eq]
  cases h with
  | bare _ => exact nomatch hr
  | initial _ _ => decide
  | cleaning _ => decide

/-- **A record survives if the layout never stood at zero**: as long as there are tables it is in
them. -/
lemma isSome_of_neverBelow (h : Remembers db version memory) {r : DeploymentRecord}
    (hr : memory id = some r) {requests : List Request} (hnever : NeverBelow 1 db requests) :
    ((Ledger.serveAll db requests).1.foldl (Entry.revise id) (memory id)).isSome = true := by
  induction requests generalizing db version memory r with
  | nil => exact Option.isSome_iff_exists.2 ⟨r, hr⟩
  | cons request rest ih =>
    rcases hrun : request.action.runOn .writing db with ⟨result, db₁⟩
    rw [NeverBelow, hrun] at hnever
    rw [serveAll_cons hrun]
    have h₁ := (h.serve hrun).remembers
    rcases Entry.revise_some ⟨request, result⟩ version r with ⟨-, hmove⟩ | ⟨r', hr', -⟩
    · have hle := hnever.2.version_le
      rw [h₁.version_eq] at hle
      omega
    · rw [← hr] at hr'
      exact ih h₁ hr' hnever.2

/-- There is no record if there was none and no deployment starts. -/
lemma foldl_revise_none {log : List Entry} (hstarts : ∀ e ∈ log, ¬ e.Starts id) :
    log.foldl (Entry.revise id) none = none := by
  induction log with
  | nil => rfl
  | cons e rest ih =>
    obtain ⟨he, hrest⟩ := List.forall_mem_cons.1 hstarts
    rcases Entry.revise_none id e with hnone | ⟨seconds, jobName, m, hnoted, -⟩
    · rw [List.foldl_cons, hnone, ih hrest]
    · exact absurd ⟨_, hnoted, rfl⟩ he

/-- **A record is lost if the layout stood at zero**, unless the deployment is started again. -/
lemma eq_none_of_not_neverBelow (h : Remembers db version memory) {requests : List Request}
    (hstarts : ∀ e ∈ (Ledger.serveAll db requests).1, ¬ e.Starts id)
    (hbelow : ¬ NeverBelow 1 db requests) :
    (Ledger.serveAll db requests).1.foldl (Entry.revise id) (memory id) = none := by
  cases hr : memory id with
  | none => exact foldl_revise_none hstarts
  | some r =>
    rw [← hr]
    have hpos := h.pos_of_some hr
    induction requests generalizing db version memory r with
    | nil => exact absurd hpos hbelow
    | cons request rest ih =>
      rcases hrun : request.action.runOn .writing db with ⟨result, db₁⟩
      rw [NeverBelow, hrun, and_iff_right hpos] at hbelow
      rw [serveAll_cons hrun] at hstarts ⊢
      obtain ⟨-, hrest⟩ := List.forall_mem_cons.1 hstarts
      have h₁ := (h.serve hrun).remembers
      rw [List.foldl_cons]
      cases hr₁ : Entry.revise id (memory id) ⟨request, result⟩ with
      | none => exact foldl_revise_none hrest
      | some r₁ =>
        rw [← hr₁]
        exact ih h₁ hrest hbelow r₁ hr₁ (h₁.pos_of_some hr₁)

/-- **But for the time of the cleanup a record is what was noted of it.**

**Proof sketch.** By induction on the requests: as long as there is a record it is, but for the time
of the cleanup, what was noted so far. While there is none nothing but a start is noted, and what a
start makes of a record does not depend on the record. -/
lemma uncleaned_eq (h : Remembers db version memory) {last : DeploymentRecord}
    {told : Option DeploymentRecord} {requests : List Request}
    (hold : (memory id).isSome = true →
      (memory id).map (·.uncleaned) = told.map (·.uncleaned))
    (hlast : (Ledger.serveAll db requests).1.foldl (Entry.revise id) (memory id) = some last) :
    (some last).map (·.uncleaned) =
      (toldAll ((Ledger.serveAll db requests).1.filterMap (Entry.noted id)) told).map
        (·.uncleaned) := by
  induction requests generalizing db version memory told with
  | nil =>
    have hmemory : memory id = some last := hlast
    rw [← hmemory]
    exact hold (Option.isSome_iff_exists.2 ⟨last, hmemory⟩)
  | cons request rest ih =>
    rcases hrun : request.action.runOn .writing db with ⟨result, db₁⟩
    rw [serveAll_cons hrun] at hlast ⊢
    rw [Entry.toldAll_cons]
    refine ih (h.serve hrun).remembers (fun hsome => ?_) hlast
    cases hr : memory id with
    | some r =>
      rw [hr] at hsome hold
      rcases Entry.revise_some ⟨request, result⟩ version r with ⟨hlost, -⟩ | ⟨r', hr', heq⟩
      · rw [hlost] at hsome
        exact nomatch hsome
      · rw [hr', heq]
        exact map_uncleaned_toldAll _ (hold rfl)
    -- a record comes back only with a start, whose record forgets what was told before
    | none =>
      rw [hr] at hsome
      rcases Entry.revise_none id ⟨request, result⟩ with hnone | ⟨seconds, jobName, m, hnoted, hnew⟩
      · rw [hnone] at hsome
        exact nomatch hsome
      · rw [hnew, hnoted]
        rfl

/-- Where the column for the time of the cleanup is missing no record has such a time. -/
private lemma bind_cleanedAt_eq_none (h : Remembers db version memory) (hversion : version < 2) :
    (memory id).bind (·.cleanedAt) = none := by
  cases hr : memory id with
  | none => rfl
  | some r => exact h.cleanedAt_eq_none hversion hr

/-- **The time of the cleanup survives exactly if the layout never stood below two**, unless another
cleanup is noted.

**Proof sketch.** By induction on the requests. Below the second version no record has such a time,
and once there is none it takes a cleanup to get one. -/
lemma cleanedAt_eq (h : Remembers db version memory) {requests : List Request}
    (hcleans : ∀ e ∈ (Ledger.serveAll db requests).1, ¬ e.Cleans id) :
    (NeverBelow 2 db requests →
      ((Ledger.serveAll db requests).1.foldl (Entry.revise id) (memory id)).bind (·.cleanedAt) =
        (memory id).bind (·.cleanedAt)) ∧
    (¬ NeverBelow 2 db requests →
      ((Ledger.serveAll db requests).1.foldl (Entry.revise id) (memory id)).bind (·.cleanedAt) =
        none) := by
  induction requests generalizing db version memory with
  | nil =>
    refine ⟨fun _ => rfl, fun hbelow => h.bind_cleanedAt_eq_none ?_⟩
    rw [NeverBelow, h.version_eq] at hbelow
    exact Int.not_le.1 hbelow
  | cons request rest ih =>
    rcases hrun : request.action.runOn .writing db with ⟨result, db₁⟩
    rw [serveAll_cons hrun] at hcleans ⊢
    obtain ⟨hclean, hrest⟩ := List.forall_mem_cons.1 hcleans
    have h₁ := (h.serve hrun).remembers
    obtain ⟨hkeeps, hloses⟩ := ih h₁ hrest
    have hstep := Entry.cleanedAt_revise version (memory id) hclean
    rw [NeverBelow, hrun, h.version_eq, List.foldl_cons]
    refine ⟨fun hnever => ?_, fun hbelow => ?_⟩
    · rw [hkeeps hnever.2]
      refine hstep.resolve_right fun hlost => ?_
      have hle := hnever.2.version_le
      rw [h₁.version_eq] at hle
      omega
    -- either the layout stands below two now, or it comes to stand there later
    · by_cases hnever : NeverBelow 2 db₁ rest
      · have hversion : version < 2 := Int.not_le.1 fun hle => hbelow ⟨hle, hnever⟩
        rw [hkeeps hnever]
        exact hstep.elim (·.trans (h.bind_cleanedAt_eq_none hversion)) (·.1)
      · exact hloses hnever

end Remembers

/-! ## Histories -/

/-- What becomes of a record of an application while a ledger serves requests.

* The record survives exactly if the layout never stood at zero, unless the deployment is started
  again. But for the time of the cleanup it is what was noted of it.
* The time of the cleanup survives exactly if the layout never stood below two, unless another
  cleanup is noted.
* With the latest layout the record is found. -/
structure Survival (id : ApplicationId) (r : DeploymentRecord) (db : Database)
    (requests : List Request) : Prop where
  survives : NeverBelow 1 db requests → ((serveAll db requests).2.recordOf id).isSome = true
  lost : ¬ NeverBelow 1 db requests → (∀ e ∈ (serveAll db requests).1, ¬ e.Starts id) →
    (serveAll db requests).2.recordOf id = none
  told : ∀ last, (serveAll db requests).2.recordOf id = some last →
    some last.uncleaned =
      (toldAll ((serveAll db requests).1.filterMap (Entry.noted id)) (some r)).map (·.uncleaned)
  keepsCleanup : NeverBelow 2 db requests → (∀ e ∈ (serveAll db requests).1, ¬ e.Cleans id) →
    ∀ last, (serveAll db requests).2.recordOf id = some last → last.cleanedAt = r.cleanedAt
  losesCleanup : ¬ NeverBelow 2 db requests → (∀ e ∈ (serveAll db requests).1, ¬ e.Cleans id) →
    ∀ last, (serveAll db requests).2.recordOf id = some last → last.cleanedAt = none
  found : (serveAll db requests).2.version = latestVersion →
    ∀ access, (deployment id).runOn access (serveAll db requests).2 =
      (.ok ((serveAll db requests).2.recordOf id), (serveAll db requests).2)

/-- **Moving the layout, and what becomes of the records.** Whatever an empty ledger has served:

1. a migration to a version between zero and the latest one succeeds; the layout stands there then,
   the versions up to it are noted, the tables have the columns of this version, and nothing changed
   if it stood there before;
2. a migration to any other version fails and changes nothing;
3. whatever is served further, a record survives exactly if the layout never stood at zero, and the
   time of its cleanup exactly if the layout never stood below two.

**Proof sketch.** At any time the tables represent a map of records with the layout of some version.
What a request does to this map is known, and the rest is by induction on the requests. -/
theorem serveAll_migrated (requests : List Request) :
    let db := (serveAll .empty requests).2
    (∀ target, 0 ≤ target ∧ target ≤ latestVersion →
      ∃ db', (applyMigration target).runOn .writing db = (.ok (), db') ∧ Moved target db db') ∧
    (∀ target access, target < 0 ∨ latestVersion < target →
      (applyMigration target).runOn access db = (.error (.invalidTarget target), db)) ∧
    ∀ id r more, db.recordOf id = some r → Survival id r db more := by
  intro db
  obtain ⟨version, memory, h⟩ := exists_remembers requests
  refine ⟨fun _ => h.exists_moved, fun _ _ => runOn_applyMigration_of_invalid,
    fun id r more hrecord => ?_⟩
  have hr : memory id = some r := (h.recordOf id).symm.trans hrecord
  have h' := h.serveAll more
  have hlast := h'.recordOf id
  exact {
    survives := fun hnever => hlast ▸ h.isSome_of_neverBelow hr hnever
    lost := fun hbelow hstarts => hlast.trans (h.eq_none_of_not_neverBelow hstarts hbelow)
    told := fun last heq =>
      h.uncleaned_eq (fun _ => congrArg _ hr) (hlast.symm.trans heq)
    keepsCleanup := fun hnever hcleans last heq => by
      have hkeeps := (h.cleanedAt_eq hcleans).1 hnever
      rwa [← hlast, heq, hr] at hkeeps
    losesCleanup := fun hbelow hcleans last heq => by
      have hloses := (h.cleanedAt_eq hcleans).2 hbelow
      rwa [← hlast, heq] at hloses
    found := fun hversion access => by
      rw [h'.version_eq] at hversion
      rw [hlast]
      rw [hversion] at h'
      exact h'.deployment id }

/-- A deployment is recorded and cleaned up, the layout is moved back by one version and forth
again. -/
theorem serveAll_migrated_of_back_and_forth :
    let m : Manifest := ⟨default, "/s", [], .configured 2⟩
    let r : DeploymentRecord := (freshRecord "job" m 5 none).cleaned 7
    let before : List Request := [.migrate 2, .tell 5000 (.recordStarted "job" m),
      .tell 7000 (.markCleaned default)]
    let more : List Request := [.migrate 1, .migrate 2]
    let db := (serveAll .empty before).2
    db.recordOf default = some r ∧
      (∃ db', (applyMigration 1).runOn .writing db = (.ok (), db') ∧ Moved 1 db db') ∧
      ∀ access, (deployment default).runOn access (serveAll db more).2 =
        (.ok (some r.uncleaned), (serveAll db more).2) := by
  intro m r before more db
  obtain ⟨hmigrates, -, hsurvives⟩ := serveAll_migrated before
  have hrecord : db.recordOf default = some r :=
    ((Remembers.empty.serveAll before).recordOf default).trans (by decide +kernel)
  refine ⟨hrecord, hmigrates 1 (by decide), fun access => ?_⟩
  have hsurvival := hsurvives default r more hrecord
  have hdb : (serveAll .empty before).2 =
      ⟨some [1, 2], some ⟨true, [.ofRecord r]⟩, some [], true⟩ := by decide +kernel
  rw [hdb] at hsurvival
  rw [show db = _ from hdb]
  have hnever := hsurvival.survives ⟨by decide, by decide, show (1 : Int) ≤ 2 by decide⟩
  obtain ⟨last, hlast⟩ := Option.isSome_iff_exists.1 hnever
  have htold : some last.uncleaned = some r.uncleaned := hsurvival.told last hlast
  have hnone : last.cleanedAt = none := by
    refine hsurvival.losesCleanup (fun hnever => absurd hnever.2.1 (by decide)) ?_ last hlast
    change ∀ e ∈ ([⟨.migrate 1, .ok ()⟩, ⟨.migrate 2, .ok ()⟩] : List Entry), ¬ e.Cleans default
    rintro e he ⟨note, hnoted, -⟩
    obtain rfl | rfl : e = _ ∨ e = _ := by simpa using he
    · exact nomatch hnoted
    · exact nomatch hnoted
  rw [hsurvival.found rfl access, hlast, ← htold, DeploymentRecord.uncleaned, ← hnone]

end ClusterDeploy.Ledger
