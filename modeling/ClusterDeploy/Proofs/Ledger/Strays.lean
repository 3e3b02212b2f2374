import ClusterDeploy.Proofs.Ledger.Manifests
import ClusterDeploy.Proofs.Ledger.Migrations
import ClusterDeploy.Proofs.Ledger.Inspection

set_option relaxedAutoImplicit false
set_option autoImplicit false

/-!
# Stray artifacts are never seen

When the table of deployments is lost, the rows of the artifacts stay behind. Nobody ever sees them:
artifacts are looked up for the deployments that are there, and a deployment that starts removes
whatever rows of artifacts its application has. So a ledger with stray rows answers all requests as
a ledger without them.

## Main definitions

* `Ledger.Blind` — computations that do not look at the artifacts.
* `Ledger.Level` — a computation answers the same on two databases and changes neither.
* `Ledger.Littered` — a database with stray rows of artifacts, beside one without them.

## Main results

* `Ledger.blind_action` — only the start of a deployment has to do with artifacts.
* `Ledger.runOn_addArtifacts_congr` — whether artifacts can be added depends on the rows of their
  own application.
* `Ledger.Littered.serve`, `Ledger.Littered.serveAll` — stray rows are seen by no request, and in no
  history.
-/

namespace ClusterDeploy.Ledger

variable {α β : Type} {p : Action α} {f : α → Action β} {access : Access} {db clean : Database}
  {version now : Int} {memory : Memory} {key : String} {own all : List ArtifactRow}
  {id : ApplicationId}

/-! ## Computations that do not look at artifacts -/

/-- A computation that does not look at the artifacts, and leaves them as they are. -/
def Blind (p : Action α) : Prop :=
  ∀ access db artifacts, p.runOn access { db with artifacts := artifacts } =
    ((p.runOn access db).1, { (p.runOn access db).2 with artifacts := artifacts })

/-- A value does not depend on the artifacts. -/
lemma blind_pure (a : α) : Blind (pure a : Action α) := fun _ _ _ => rfl

/-- A fault does not depend on the artifacts. -/
lemma blind_throw (fault : Fault) : Blind (throw fault : Action α) := fun _ _ _ => rfl

/-- What was read does not depend on the artifacts. -/
lemma blind_ofReading (reading : Except Fault α) : Blind (ofReading reading) := fun _ _ _ => rfl

/-- Computations in sequence do not look at the artifacts if none of them does. -/
lemma Blind.bind (hp : Blind p) (hf : ∀ a, Blind (f a)) : Blind (p >>= f) := by
  intro access db artifacts
  rw [runOn_bind, runOn_bind, hp access db artifacts]
  rcases p.runOn access db with ⟨fault | a, db'⟩
  · rfl
  · exact hf a access db' artifacts

/-- What a computation that does not look at the artifacts leaves of them. -/
lemma Blind.artifacts_eq (hp : Blind p) : (p.runOn access db).2.artifacts = db.artifacts := by
  have h := hp access db db.artifacts
  exact congrArg (fun result => result.2.artifacts) h

/-- A look at the table of the deployments is none at the artifacts. -/
lemma blind_getDeployments : Blind getDeployments := by
  rintro access ⟨versions, _ | table, artifacts, startIndex⟩ _
  · rfl
  · rfl

/-- A new table of the deployments leaves the artifacts as they are. -/
lemma blind_setDeployments (table : DeploymentTable) : Blind (setDeployments table) := by
  rintro (_ | _) db artifacts
  · rfl
  · rfl

/-- The rows of the deployments are read without a look at the artifacts. -/
lemma blind_getReadable : Blind getReadable :=
  blind_getDeployments.bind fun table => by
    split
    · exact blind_pure _
    · exact blind_throw _

/-- A table of versions is made without a look at the artifacts. -/
lemma blind_ensureVersions : Blind ensureVersions := by
  rintro (_ | _) ⟨_ | numbers, deployments, artifacts, startIndex⟩ _
  · rfl
  · rfl
  · rfl
  · rfl

/-- The version is read without a look at the artifacts. -/
lemma blind_readVersion : Blind readVersion := fun _ _ _ => rfl

/-- The version is told without a look at the artifacts. -/
lemma blind_currentVersion : Blind currentVersion :=
  blind_ensureVersions.bind fun _ => blind_readVersion

/-- Whether a database is ready does not depend on the artifacts. -/
lemma blind_ensureReady : Blind ensureReady :=
  blind_ensureVersions.bind fun _ => blind_readVersion.bind fun _ => by
    split
    · exact blind_throw _
    · exact blind_pure _

/-- A row of a deployment is changed without a look at the artifacts. -/
lemma blind_updateRow (id : ApplicationId) (change : DeploymentRow → DeploymentRow) :
    Blind (updateRow id change) :=
  blind_getDeployments.bind fun _ => (blind_setDeployments _).bind fun _ => blind_pure _

/-- **Only the start of a deployment has to do with artifacts.** -/
lemma blind_action {call : Call} (hstart : call.isStart = false) : Blind (call.action now) := by
  have horThrow : ∀ (found : Bool) (missing : Fault),
      Blind (do if !found then throw missing : Action Unit) := by
    intro found missing
    cases found
    · exact blind_throw _
    · exact blind_pure _
  cases call with
  | recordStarted jobName m => exact nomatch hstart
  | recordCompleted report =>
    exact blind_ensureReady.bind fun _ => (blind_ofReading _).bind fun _ =>
      (blind_updateRow _ _).bind fun found => horThrow found _
  | recordAborted id e termination teardownError =>
    exact blind_ensureReady.bind fun _ => (blind_ofReading _).bind fun _ =>
      (blind_updateRow _ _).bind fun found => horThrow found _
  | markCleaned id =>
    exact blind_ensureReady.bind fun _ => (blind_ofReading _).bind fun _ =>
      blind_getReadable.bind fun _ => blind_updateRow _ _

/-! ## Stray rows -/

/-- A database in which there may be rows of artifacts that are not in another one, for applications
without a deployment. -/
inductive Littered (memory : Memory) : Database → Database → Prop where
  | tidy (db : Database) : Littered memory db db
  | strewn {clean : Database} {own all : List ArtifactRow} : clean.artifacts = some own →
    (∀ id r, memory id = some r → (all.filter fun row => row.isOf id.display) =
      own.filter fun row => row.isOf id.display) →
    Littered memory { clean with artifacts := some all } clean

/-- A computation that answers the same on two databases, and changes neither. -/
def Level (access : Access) (p : Action α) (db clean : Database) : Prop :=
  ∃ result, p.runOn access db = (result, db) ∧ p.runOn access clean = (result, clean)

/-- Computations in sequence answer the same on two databases if each of them does. -/
lemma Level.bind (hp : Level access p db clean)
    (hf : ∀ a, p.runOn access clean = (.ok a, clean) → Level access (f a) db clean) :
    Level access (p >>= f) db clean := by
  obtain ⟨fault | a, hdb, hclean⟩ := hp
  · refine ⟨.error fault, ?_, ?_⟩
    · rw [runOn_bind, hdb]
    · rw [runOn_bind, hclean]
  · obtain ⟨result, hdb', hclean'⟩ := hf a hclean
    exact ⟨result, by rw [runOn_bind_of_ok hdb, hdb'], by rw [runOn_bind_of_ok hclean, hclean']⟩

/-- A value is the same on two databases. -/
lemma level_pure (a : α) : Level access (pure a : Action α) db clean :=
  ⟨.ok a, rfl, rfl⟩

/-- What was read is the same on two databases. -/
lemma level_ofReading (reading : Except Fault α) : Level access (ofReading reading) db clean :=
  ⟨reading, rfl, rfl⟩

/-- What changes nothing and does not look at the artifacts answers the same, whatever artifacts
there are. -/
lemma Blind.level (hp : Blind p) (hpassive : Passive p) {first : Int} {rest : List Int}
    (hversions : clean.versions = some (first :: rest)) :
    Level access p { clean with artifacts := some all } clean := by
  have hsame : (p.runOn access clean).2 = clean :=
    (hpassive access clean).eq_of_versions hversions
  refine ⟨(p.runOn access clean).1, ?_, Prod.ext rfl hsame⟩
  rw [hp access clean (some all), hsame]

section Lookup

variable (h : Remembers clean version memory) (hown : clean.artifacts = some own)
  (hstrays : ∀ id r, memory id = some r → (all.filter fun row => row.isOf id.display) =
    own.filter fun row => row.isOf id.display)

include h hown

/-- Where there are artifacts the layout stands at some version. -/
lemma Remembers.pos_of_artifacts : 0 < clean.version ∧
    ∃ first rest, clean.versions = some (first :: rest) := by
  cases h with
  | bare hdb =>
    have hnone : clean.artifacts = none := congrArg Database.artifacts hdb
    exact nomatch hown.symm.trans hnone
  | initial _ _ => exact ⟨show (0 : Int) < greatestVersion [1] by decide, _, _, rfl⟩
  | cleaning _ => exact ⟨show (0 : Int) < greatestVersion [1, 2] by decide, _, _, rfl⟩

include hstrays

/-- Records are read alike from rows that are there. -/
lemma level_readRecords {table : DeploymentTable} (htable : clean.deployments = some table)
    {rows : List DeploymentRow} (hrows : ∀ row ∈ rows, row ∈ table.rows) :
    Level access (readRecords rows) { clean with artifacts := some all } clean := by
  obtain ⟨rows', artifacts, hdb, hdb', hrep, -⟩ := h.tables (h.pos_of_artifacts hown).1
  obtain rfl := Option.some.inj (htable.symm.trans hdb)
  obtain rfl := Option.some.inj (hown.symm.trans hdb')
  choose! read hread using fun row (hrow : row ∈ rows) => hrep.exists_record_of_mem (hrows row hrow)
  have hrecords : rows = (rows.map read).map .ofRecord := by
    rw [List.map_map]
    exact (List.map_id rows).symm.trans (List.map_congr_left fun row hrow => (hread row hrow).2)
  have hclean : ∀ r ∈ rows.map read,
      (artifactsOf r.applicationId).runOn access clean = (.ok r.artifacts, clean) := by
    refine List.forall_mem_map.2 fun row hrow => ?_
    rw [hrep.runOn_artifactsOf hown access, (hread row hrow).1]
    rfl
  rw [hrecords]
  refine ⟨_, runOn_readRecords fun r hr => ?_, runOn_readRecords hclean⟩
  -- the rows that are looked at are those of an application with a record
  obtain ⟨row, hrow, rfl⟩ := List.mem_map.1 hr
  have hread' := hclean _ hr
  rw [artifactsOf, runOn_bind_of_ok (runOn_getArtifacts hown), runOn_ofReading] at hread'
  rw [artifactsOf, runOn_bind_of_ok (runOn_getArtifacts rfl), runOn_ofReading, rowsOf,
    hstrays _ _ (hread row hrow).1]
  exact Prod.ext (Prod.mk.inj hread').1 rfl

/-- **Stray rows are not seen by who looks something up.** -/
lemma level_lookup {request : Request} (hlookup : request.isLookup = true) :
    Level access request.action { clean with artifacts := some all } clean := by
  obtain ⟨-, first, rest, hversions⟩ := h.pos_of_artifacts hown
  -- the rows of the deployments and the versions are no artifacts
  have hready : Level access ensureReady { clean with artifacts := some all } clean :=
    blind_ensureReady.level passive_ensureReady hversions
  have hreadable : Level access getReadable { clean with artifacts := some all } clean :=
    blind_getReadable.level passive_getReadable hversions
  have hrecords : ∀ {table : DeploymentTable} {rows : List DeploymentRow},
      getReadable.runOn access clean = (.ok table, clean) → (∀ row ∈ rows, row ∈ table.rows) →
      Level access (readRecords rows) { clean with artifacts := some all } clean :=
    fun hget => level_readRecords h hown hstrays (runOn_getReadable_eq_ok_iff.1 hget).1
  cases request with
  | tell now call => exact nomatch hlookup
  | migrate target => exact nomatch hlookup
  | currentVersion =>
    exact blind_currentVersion.level passive_currentVersion hversions
  | deployment id =>
    refine hready.bind fun _ _ => hreadable.bind fun table hget => ?_
    exact (hrecords hget fun row hrow => (List.mem_filter.1 hrow).1).bind fun _ _ => level_pure _
  | listRequiringInspection =>
    refine hready.bind fun _ _ => hreadable.bind fun table hget => hrecords hget fun row hrow => ?_
    exact (List.mem_filter.1 (List.mem_mergeSort.1 hrow)).1
  | listRecent limit =>
    change Level access (listRecent limit) _ _
    unfold listRecent
    split
    · exact level_pure _
    · refine hready.bind fun _ _ => (level_ofReading _).bind fun _ _ =>
        hreadable.bind fun table hget => hrecords hget fun row hrow => ?_
      exact List.mem_mergeSort.1 (List.mem_of_mem_take hrow)

end Lookup

/-! ## Starts of deployments -/

/-- Rows that stand for artifacts are determined by the artifacts. -/
lemma Written.unique {position : Nat} {l : List StagedArtifact} {rows rows' : List ArtifactRow}
    (h : Written key position l rows) (h' : Written key position l rows') : rows = rows' := by
  induction h generalizing rows' with
  | nil _ =>
    cases h'
    rfl
  | cons hrow _ ih =>
    cases h' with
    | cons hrow' hrest =>
      rw [Except.ok.inj (hrow.symm.trans hrow'), ih hrest]

/-- Whether an artifact with a row can be added is seen from the rows of its application. -/
lemma runOn_addArtifact_of_row {position : Nat} {a : StagedArtifact} {row : ArtifactRow}
    (hdb : db.artifacts = some all) (hrow : ArtifactRow.ofArtifact key position a = .ok row) :
    (addArtifact key position a).runOn .writing db =
      if ((all.filter fun other => other.isOf key).any
        fun other => other.remoteName == row.remoteName) = true
      then (.error (.notUnique artifactKey), db)
      else (.ok (), { db with artifacts := some (all ++ [row]) }) := by
  unfold addArtifact
  rw [hrow, runOn_bind_of_ok (runOn_ofReading _), runOn_bind_of_ok (runOn_getArtifacts hdb),
    List.any_filter]
  split
  · rfl
  · rfl

/-- **Whether artifacts can be added depends on the rows of their own application.**

**Proof sketch.** By induction on the artifacts. The name of the first one is compared with those in
the rows of the application; then either the fault is the same, or the same row is added to them. -/
lemma runOn_addArtifacts_congr {position : Nat} {l : List StagedArtifact} {db db' : Database}
    (hall : db.artifacts = some all) (hown : db'.artifacts = some own)
    (hsame : (all.filter fun row => row.isOf key) = own.filter fun row => row.isOf key) :
    ((addArtifacts key position l).runOn .writing db).1 =
      ((addArtifacts key position l).runOn .writing db').1 := by
  induction l generalizing db db' all own position with
  | nil => rfl
  | cons a l ih =>
    cases hrow : ArtifactRow.ofArtifact key position a with
    | error fault =>
      have hfails : ∀ db : Database,
          (addArtifacts key position (a :: l)).runOn .writing db = (.error fault, db) := by
        intro db
        unfold addArtifacts addArtifact
        rw [hrow]
        rfl
      rw [hfails, hfails]
    | ok row =>
      have hadd := runOn_addArtifact_of_row hall hrow
      have hadd' := runOn_addArtifact_of_row hown hrow
      rw [hsame] at hadd
      rw [addArtifacts]
      by_cases hused : ((own.filter fun other => other.isOf key).any
          fun other => other.remoteName == row.remoteName) = true
      · rw [if_pos hused] at hadd hadd'
        rw [runOn_bind, runOn_bind, hadd, hadd']
      · rw [if_neg hused] at hadd hadd'
        rw [runOn_bind_of_ok hadd, runOn_bind_of_ok hadd']
        refine ih rfl rfl ?_
        rw [List.filter_append, List.filter_append, hsame]

/-- **The start of a deployment is answered alike**, whatever rows of artifacts there are. -/
lemma runOn_recordStarted_congr {jobName : String} {m : Manifest} {table : DeploymentTable}
    (hready : 0 < clean.version) (htable : clean.deployments = some table)
    (hown : clean.artifacts = some own) :
    ((recordStarted now jobName m).runOn .writing { clean with artifacts := some all }).1 =
      ((recordStarted now jobName m).runOn .writing clean).1 := by
  have hready' : 0 < ({ clean with artifacts := some all } : Database).version := hready
  cases hclock : toSeconds now with
  | error fault =>
    have hfails : ∀ {db : Database}, 0 < db.version →
        ((recordStarted now jobName m).runOn .writing db).1 = .error fault := by
      intro db hready
      unfold recordStarted
      rw [runOn_bind_of_ok (runOn_ensureReady_writing hready), runOn_transaction, runOn_bind,
        runOn_ofReading, hclock]
    rw [hfails hready, hfails hready']
  | ok seconds =>
    have hgone : ∀ rows : List ArtifactRow,
        ((rows.filter fun row => !row.isOf m.applicationId.display).filter
          fun row => row.isOf m.applicationId.display) = [] := by
      intro rows
      rw [List.filter_filter, List.filter_eq_nil_iff]
      simp
    rw [runOn_recordStarted_fst hready htable hown hclock,
      runOn_recordStarted_fst hready' htable rfl hclock]
    exact runOn_addArtifacts_congr rfl rfl ((hgone all).trans (hgone own).symm)

/-! ## Histories -/

/-- Where there is a record after a request there was one before, unless the deployment started. -/
lemma Entry.exists_of_revise {e : Entry} {old : Option DeploymentRecord} {r : DeploymentRecord}
    (hstart : ∀ note, e.noted id = some note → note.2.isStart = false)
    (hr : e.revise id old = some r) : ∃ r', old = some r' := by
  cases old with
  | some r' => exact ⟨r', rfl⟩
  | none =>
    rcases Entry.revise_none id e with hnone | ⟨seconds, jobName, m, hnoted, -⟩
    · exact nomatch hr.symm.trans hnone
    · exact nomatch hstart _ hnoted

/-- The records stay where nothing is noted. -/
lemma Entry.revise_silent {request : Request} {result : Except Fault request.Value}
    (hsilent : request.isLookup = true ∨ ∃ fault, result = .error fault) :
    (fun id => Entry.revise id (memory id) ⟨request, result⟩) = memory := by
  obtain ⟨hmoved, hnoted⟩ := Entry.silent hsilent
  funext id
  unfold Entry.revise
  simp only [hmoved, hnoted]
  rfl

/-- Moving the layout takes all rows of artifacts away, or it leaves them. -/
lemma runOn_applyMigration_artifacts (h : Remembers clean version memory)
    (hown : clean.artifacts = some own) {target : Int}
    (hvalid : 0 ≤ target ∧ target ≤ latestVersion) :
    (∀ artifacts,
        (applyMigration target).runOn .writing { clean with artifacts := some artifacts } =
          (.ok (), ⟨some [], none, none, false⟩)) ∨
      ∃ moved : Database, ∀ artifacts,
        (applyMigration target).runOn .writing { clean with artifacts := some artifacts } =
          (.ok (), { moved with artifacts := some artifacts }) := by
  have htarget : target = 0 ∨ target = 1 ∨ target = 2 := by
    have hlatest : latestVersion = 2 := rfl
    omega
  cases h with
  | bare hdb =>
    have hnone : clean.artifacts = none := congrArg Database.artifacts hdb
    exact nomatch hown.symm.trans hnone
  | @initial rows _ _ _ _ =>
    rcases htarget with rfl | rfl | rfl
    · exact .inl fun _ => rfl
    · exact .inr ⟨⟨some [1], some ⟨false, rows⟩, none, true⟩, fun _ => rfl⟩
    · exact .inr ⟨⟨some [1, 2], some ⟨true, rows⟩, none, true⟩, fun _ => rfl⟩
  | @cleaning rows _ _ _ =>
    rcases htarget with rfl | rfl | rfl
    · exact .inl fun _ => rfl
    · exact .inr ⟨⟨some [1], some ⟨false, rows.map fun row => { row with cleanedAt := .null }⟩,
        none, true⟩, fun _ => rfl⟩
    · exact .inr ⟨⟨some [1, 2], some ⟨true, rows⟩, none, true⟩, fun _ => rfl⟩

namespace Littered

section Step

variable (h : Remembers clean version memory) (hown : clean.artifacts = some own)
  (hstrays : ∀ id r, memory id = some r → (all.filter fun row => row.isOf id.display) =
    own.filter fun row => row.isOf id.display)

include h hown hstrays

/-- The start of a deployment leaves no stray rows of its application. -/
lemma serve_start {jobName : String} {m : Manifest} {result : Except Fault Unit}
    (hrun : (recordStarted now jobName m).runOn .writing clean = (result, db)) :
    ∃ db', (recordStarted now jobName m).runOn .writing { clean with artifacts := some all } =
        (result, db') ∧
      Littered
        (fun id => Entry.revise id (memory id) ⟨.tell now (.recordStarted jobName m), result⟩)
        db' db := by
  obtain ⟨hpos, first, rest, hversions⟩ := h.pos_of_artifacts hown
  obtain ⟨rows, artifacts, htable, -⟩ := h.tables hpos
  have hsame : ((recordStarted now jobName m).runOn .writing
      { clean with artifacts := some all }).1 = ((recordStarted now jobName m).runOn .writing
        clean).1 :=
    runOn_recordStarted_congr hpos htable hown
  rcases hrun' : (recordStarted now jobName m).runOn .writing { clean with artifacts := some all }
    with ⟨result', db'⟩
  obtain rfl : result' = result := by rwa [hrun, hrun'] at hsame
  refine ⟨db', rfl, ?_⟩
  cases result' with
  | error fault =>
    -- neither database is changed
    have hatomic := atomic_action now (.recordStarted jobName m) .writing
    obtain rfl : db = clean := (hatomic _ _ _ hrun).eq_of_versions hversions
    obtain rfl : db' = _ := (hatomic _ _ _ hrun').eq_of_versions hversions
    rw [Entry.revise_silent (.inr ⟨fault, rfl⟩)]
    exact .strewn hown hstrays
  | ok value =>
    obtain ⟨-, seconds, table, own', new, hseconds, htable, hown', hwritten, -, rfl⟩ :=
      exists_written_of_recordStarted hrun
    obtain ⟨-, seconds', table', all', new', hseconds', htable', hall', hwritten', -, rfl⟩ :=
      exists_written_of_recordStarted hrun'
    obtain rfl := Except.ok.inj (hseconds.symm.trans hseconds')
    obtain rfl := Option.some.inj (htable.symm.trans htable')
    obtain rfl := Option.some.inj (hown.symm.trans hown')
    obtain rfl : all = all' := Option.some.inj hall'
    obtain rfl := hwritten.unique hwritten'
    refine @Littered.strewn _ { clean.opened with
        deployments := some { table with
          rows := startRow m.applicationId.display (.ofStart jobName m seconds) table.rows }
        artifacts := some
          ((own.filter fun row => !row.isOf m.applicationId.display) ++ new) } _ _ rfl
      fun id r hr => ?_
    rw [Represents.filter_artifacts hwritten, Represents.filter_artifacts hwritten]
    by_cases hid : id = m.applicationId
    · rw [if_pos hid, if_pos hid]
    · rw [if_neg hid, if_neg hid]
      have hnone : Entry.noted id ⟨.tell now (.recordStarted jobName m), .ok value⟩ = none :=
        Entry.noted_other fun _ _ heq => by
          cases heq
          exact Ne.symm hid
      obtain ⟨r', hr'⟩ := Entry.exists_of_revise (fun _ hnote => nomatch hnone.symm.trans hnote) hr
      exact hstrays id r' hr'

omit h in
/-- What is told of a deployment that started has nothing to do with artifacts. -/
lemma serve_told {call : Call} {result : Except Fault call.Value} (hstart : call.isStart = false)
    (hrun : (call.action now).runOn .writing clean = (result, db)) :
    ∃ db', (call.action now).runOn .writing { clean with artifacts := some all } = (result, db') ∧
      Littered (fun id => Entry.revise id (memory id) ⟨.tell now call, result⟩) db' db := by
  have hblind : Blind (call.action now) := blind_action hstart
  have hkept : db.artifacts = some own := by
    have hkept : ((call.action now).runOn .writing clean).2.artifacts = clean.artifacts :=
      hblind.artifacts_eq
    rwa [hrun, hown] at hkept
  refine ⟨{ db with artifacts := some all }, ?_, .strewn hkept fun id r hr => ?_⟩
  · rw [hblind, hrun]
  · have hnoted : ∀ note, Entry.noted id ⟨.tell now call, result⟩ = some note →
        note.2.isStart = false := by
      intro note hnote
      cases result with
      | error fault => exact nomatch hnote
      | ok value =>
        change (if _ then (toSeconds now).toOption.map _ else none) = some note at hnote
        split at hnote
        · obtain ⟨seconds, -, rfl⟩ := Option.map_eq_some_iff.1 hnote
          exact hstart
        · exact nomatch hnote
    obtain ⟨r', hr'⟩ := Entry.exists_of_revise hnoted hr
    exact hstrays id r' hr'

/-- Moving the layout leaves the stray rows, or takes them away with the tables. -/
lemma serve_migrate {target : Int} {result : Except Fault Unit}
    (hrun : (applyMigration target).runOn .writing clean = (result, db)) :
    ∃ db', (applyMigration target).runOn .writing { clean with artifacts := some all } =
        (result, db') ∧
      Littered (fun id => Entry.revise id (memory id) ⟨.migrate target, result⟩) db' db := by
  by_cases hvalid : 0 ≤ target ∧ target ≤ latestVersion
  · have hstrays' : ∀ id r, Entry.revise id (memory id) ⟨.migrate target, result⟩ = some r →
        (all.filter fun row => row.isOf id.display) =
          own.filter fun row => row.isOf id.display := by
      intro id r hr
      have hnone : Entry.noted id ⟨.migrate target, result⟩ = none := by cases result <;> rfl
      obtain ⟨r', hr'⟩ := Entry.exists_of_revise (fun _ hnote => nomatch hnone.symm.trans hnote) hr
      exact hstrays id r' hr'
    have hsame : clean = { clean with artifacts := some own } := by rw [← hown]
    rw [hsame] at hrun
    rcases runOn_applyMigration_artifacts h hown hvalid with hgone | ⟨moved, hmoved⟩
    · obtain ⟨rfl, rfl⟩ := Prod.mk.inj (hrun.symm.trans (hgone own))
      exact ⟨_, hgone all, .tidy _⟩
    · obtain ⟨rfl, rfl⟩ := Prod.mk.inj (hrun.symm.trans (hmoved own))
      exact ⟨_, hmoved all,
        @Littered.strewn _ { moved with artifacts := some own } _ _ rfl hstrays'⟩
  · have hinvalid : target < 0 ∨ latestVersion < target := by omega
    obtain ⟨rfl, rfl⟩ := Prod.mk.inj (hrun.symm.trans (runOn_applyMigration_of_invalid hinvalid))
    refine ⟨_, runOn_applyMigration_of_invalid hinvalid, ?_⟩
    rw [Entry.revise_silent (.inr ⟨_, rfl⟩)]
    exact .strewn hown hstrays

end Step

/-- **Stray rows are seen by no request**, and a request leaves stray rows at most. -/
lemma serve (hl : Littered memory db clean) (h : Remembers clean version memory)
    {request : Request} {result : Except Fault request.Value} {clean' : Database}
    (hrun : request.action.runOn .writing clean = (result, clean')) :
    ∃ db', request.action.runOn .writing db = (result, db') ∧
      Littered (fun id => Entry.revise id (memory id) ⟨request, result⟩) db' clean' := by
  cases hl with
  | tidy _ => exact ⟨clean', hrun, .tidy _⟩
  | @strewn _ own all hown hstrays =>
    by_cases hlookup : request.isLookup = true
    · obtain ⟨result', hdb, hclean⟩ :
          Level .writing request.action { clean with artifacts := some all } clean :=
        level_lookup h hown hstrays hlookup
      obtain ⟨rfl, rfl⟩ := Prod.mk.inj (hclean.symm.trans hrun)
      refine ⟨_, hdb, ?_⟩
      rw [Entry.revise_silent (.inl hlookup)]
      exact .strewn hown hstrays
    cases request with
    | deployment id => exact (hlookup rfl).elim
    | listRecent limit => exact (hlookup rfl).elim
    | listRequiringInspection => exact (hlookup rfl).elim
    | currentVersion => exact (hlookup rfl).elim
    | migrate target => exact serve_migrate h hown hstrays hrun
    | tell now call =>
      cases hstart : call.isStart with
      | false => exact serve_told hown hstrays hstart hrun
      | true =>
        obtain ⟨jobName, m, rfl⟩ := Call.exists_of_isStart hstart
        exact serve_start h hown hstrays hrun

/-- **Stray rows are seen in no history.** -/
lemma serveAll (hl : Littered memory db clean) (h : Remembers clean version memory)
    (requests : List Request) :
    (Ledger.serveAll db requests).1 = (Ledger.serveAll clean requests).1 := by
  induction requests generalizing db clean version memory with
  | nil => rfl
  | cons request rest ih =>
    rcases hrun : request.action.runOn .writing clean with ⟨result, clean'⟩
    obtain ⟨db', hdb, hl'⟩ := hl.serve h hrun
    rw [serveAll_cons hrun, serveAll_cons hdb, ih hl' (h.serve hrun).remembers]

end Littered

end ClusterDeploy.Ledger
