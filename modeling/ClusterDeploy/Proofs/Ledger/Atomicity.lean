import ClusterDeploy.Proofs.Ledger.Requests

set_option relaxedAutoImplicit false
set_option autoImplicit false

/-!
# A failure changes nothing

Whatever a ledger that was empty once has served, and wherever its layout stands: a request that
fails leaves all rows, all columns and the version of the layout as they were, and so does a request
that looks something up.

## Main definitions

* `Ledger.Still` — computations that change nothing where the database may only be read.

## Main results

* `Ledger.still_applyMigration` — nobody moves the layout who may only read.
* `Ledger.runOn_error_unchanged` — a request that fails changes nothing.

## Implementation notes

The operations that record something are atomic on every database. Moving the layout is not: each
step is a transaction of its own. But no step fails on a database whose layout is that of a version,
unless the database may only be read, and then nothing changes at all.
-/

namespace ClusterDeploy.Ledger

/-! ## Who may only read -/

/-- A computation that changes nothing where the database may only be read. -/
def Still {α : Type} (p : Action α) : Prop :=
  ∀ db, (p.runOn .reading db).2 = db

section Still

variable {α β : Type} {p : Action α} {f : α → Action β}

/-- A value changes nothing where the database may only be read. -/
lemma still_pure (a : α) : Still (pure a : Action α) := fun _ => rfl

/-- A fault changes nothing where the database may only be read. -/
lemma still_throw (fault : Fault) : Still (throw fault : Action α) := fun _ => rfl

/-- A look at the database changes nothing. -/
lemma still_get : Still (get : Action Database) := fun _ => rfl

/-- The only way to change the database is closed. -/
lemma still_change (g : Database → Database) : Still (change g) := fun _ => rfl

/-- Computations in sequence change nothing if none of them does. -/
lemma Still.bind (hp : Still p) (hf : ∀ a, Still (f a)) : Still (p >>= f) := fun db => by
  have h := hp db
  rw [runOn_bind]
  rcases hrun : p.runOn .reading db with ⟨fault | a, db'⟩
  · rwa [hrun] at h
  · rw [hrun] at h
    exact (hf a db').trans h

/-- A transaction changes nothing if what is done in it does not. -/
lemma Still.transaction (hp : Still p) : Still (transaction p) := fun db => by
  have h := hp db
  rw [runOn_transaction]
  rcases hrun : p.runOn .reading db with ⟨fault | a, db'⟩
  · rfl
  · rwa [hrun] at h

end Still

/-- A look at the table of the deployments changes nothing. -/
lemma still_getDeployments : Still getDeployments :=
  still_get.bind fun db => by
    split
    · exact still_pure _
    · exact still_throw _

/-- The table of versions is not made where the database may only be read. -/
lemma still_ensureVersions : Still ensureVersions :=
  still_get.bind fun db => by
    split
    · exact still_change _
    · exact still_pure _

/-- A look at the version changes nothing. -/
lemma still_readVersion : Still readVersion := fun _ => rfl

/-- The steps to a version and back from it. -/
lemma still_steps {v : SchemaVersion} (hv : v ∈ schemaVersions) : Still v.up ∧ Still v.down := by
  obtain rfl | rfl : v = _ ∨ v = _ := by simpa [schemaVersions] using hv
  · refine ⟨still_get.bind fun db => ?_, still_change _⟩
    split
    · exact still_change _
    · exact still_pure _
  · refine ⟨still_getDeployments.bind fun table => ?_, still_getDeployments.bind fun table => ?_⟩
    · split
      · exact still_change _
      · exact still_pure _
    · split
      · exact still_change _
      · exact still_throw _

/-- What is done with a version that has to be defined. -/
lemma still_definedVersion_bind {α : Type} {number : Int} {f : SchemaVersion → Action α}
    (hf : ∀ v ∈ schemaVersions, Still (f v)) : Still (definedVersion number >>= f) := by
  unfold definedVersion
  cases hfind : schemaVersion? number with
  | none => exact fun _ => rfl
  | some v => exact hf v (List.mem_of_find?_eq_some hfind)

/-- A step up changes nothing where the database may only be read. -/
lemma still_stepUp (number : Int) : Still (stepUp number) :=
  still_definedVersion_bind fun _ hv =>
    ((still_steps hv).1.bind fun _ => still_change _).transaction

/-- A step down changes nothing where the database may only be read. -/
lemma still_stepDown (number : Int) : Still (stepDown number) :=
  still_definedVersion_bind fun _ hv =>
    ((still_steps hv).2.bind fun _ => still_change _).transaction

/-- Steps up change nothing where the database may only be read. -/
lemma still_climb (count : Nat) (current : Int) : Still (climb count current) := by
  induction count generalizing current with
  | zero => exact still_pure _
  | succ count ih => exact (still_stepUp _).bind fun _ => ih _

/-- Steps down change nothing where the database may only be read. -/
lemma still_descend (count : Nat) (current : Int) : Still (descend count current) := by
  induction count generalizing current with
  | zero => exact still_pure _
  | succ count ih => exact (still_stepDown _).bind fun _ => ih _

/-- A repair changes nothing where the database may only be read. -/
lemma still_repair (count : Nat) (current : Int) : Still (repair count current) := by
  induction count generalizing current with
  | zero => exact still_pure _
  | succ count ih =>
    exact still_definedVersion_bind fun _ hv => (still_steps hv).1.bind fun _ => ih _

/-- **Nobody moves the layout who may only read.** -/
lemma still_applyMigration (target : Int) : Still (applyMigration target) := by
  have hmove : Still (do
      ensureVersions
      let current ← readVersion
      if target = current then repair target.toNat 0
      else if current < target then climb (target - current).toNat current
      else descend (current - target).toNat current) :=
    still_ensureVersions.bind fun _ => still_readVersion.bind fun current => by
      split
      · exact still_repair _ _
      · split
        · exact still_climb _ _
        · exact still_descend _ _
  unfold applyMigration
  split
  · exact fun _ => rfl
  · exact hmove

/-! ## Failures -/

variable {db db' : Database} {version : Int} {memory : Memory}

namespace Remembers

/-- A request that fails changes nothing. -/
lemma unchanged_of_error (h : Remembers db version memory) {r : Request} {access : Access}
    {fault : Fault} (hrun : r.action.runOn access db = (.error fault, db')) : Unchanged db db' := by
  by_cases hlookup : r.isLookup = true
  · exact (Request.passive_action hlookup).atomic access db fault db' hrun
  cases r with
  | deployment id => exact (hlookup rfl).elim
  | listRecent limit => exact (hlookup rfl).elim
  | listRequiringInspection => exact (hlookup rfl).elim
  | currentVersion => exact (hlookup rfl).elim
  | tell now call => exact atomic_action now call access db fault db' hrun
  | migrate target =>
    by_cases hvalid : 0 ≤ target ∧ target ≤ latestVersion
    -- its steps are no single transaction, but none of them fails where the layout may be written
    · cases access with
      | reading =>
        have hstill := still_applyMigration target db
        rw [show (Ledger.applyMigration target).runOn .reading db = _ from hrun] at hstill
        obtain rfl : db' = db := hstill
        exact .refl db'
      | writing =>
        obtain ⟨db₁, hmigrate, -⟩ := h.applyMigration hvalid.1 hvalid.2
        exact nomatch (Prod.mk.inj (hrun.symm.trans hmigrate)).1
    · have hinvalid : (Ledger.applyMigration target).runOn access db = _ :=
        runOn_applyMigration_of_invalid (by omega)
      obtain ⟨-, rfl⟩ := Prod.mk.inj (hrun.symm.trans hinvalid)
      exact .refl _

/-- Where nothing changed the layout stands at the same version, and the records are the same. Once
there was a layout, not even the table of versions is another one. -/
lemma same_of_unchanged (h : Remembers db version memory) (hsame : Unchanged db db') :
    db'.version = db.version ∧ (∀ id, db'.recordOf id = db.recordOf id) ∧
      (0 < db.version → db' = db) := by
  have h' := h.unchanged hsame
  have hversion := h.version_eq
  refine ⟨h'.version_eq.trans hversion.symm,
    fun id => (h'.recordOf id).trans (h.recordOf id).symm, fun hpos => ?_⟩
  cases h with
  | bare _ => exact absurd (hversion ▸ hpos) (Int.lt_irrefl 0)
  | initial _ _ => exact hsame.eq_of_versions rfl
  | cleaning _ => exact hsame.eq_of_versions rfl

end Remembers

/-- The start of a deployment is not recorded before 1970, or with artifacts that cannot be stored,
whatever was recorded before. -/
lemma recordStarted_fails {now : Int} {jobName : String} {m : Manifest} {access : Access}
    (hbad : now < 0 ∨ ¬ m.IsStorable) :
    ∃ fault, ((recordStarted now jobName m).runOn access db).1 = .error fault := by
  rcases hrun : (recordStarted now jobName m).runOn access db with ⟨fault | ⟨⟩, db'⟩
  · exact ⟨fault, rfl⟩
  · obtain ⟨-, seconds, _, _, _, hclock, -, -, -, hstorable, -⟩ :=
      exists_written_of_recordStarted hrun
    rcases hbad with hbefore | hbad
    · rw [toSeconds, if_pos hbefore] at hclock
      exact nomatch hclock
    · exact absurd hstorable hbad

/-- **A request that fails changes nothing.** Whatever an empty ledger has served, wherever its
layout stands and whatever may be done with the database:

1. a request that fails leaves all rows, all columns and the versions as they were;
2. so does a request that looks something up, whether it fails or not;
3. the start of a deployment is not recorded before 1970, with an artifact whose numbers do not fit
   in a signed word, or with a name that is used twice, whatever was recorded before;
4. where the rows, the columns and the versions are as they were, the layout stands at the same
   version, and every record has all its fields and all its artifacts.

**Proof sketch.** The operations that record something change a table in the last step that can
fail, or else in a transaction. A migration can only fail because of its target or because the
database may only be read. -/
theorem runOn_error_unchanged (requests : List Request) (access : Access) :
    let db := (serveAll .empty requests).2
    (∀ (r : Request) (fault : Fault) (db' : Database),
      r.action.runOn access db = (.error fault, db') → Unchanged db db') ∧
    (∀ r : Request, r.isLookup = true → Unchanged db (r.action.runOn access db).2) ∧
    (∀ (now : Int) (jobName : String) (m : Manifest), now < 0 ∨ ¬ m.IsStorable →
      ∃ fault, ((recordStarted now jobName m).runOn access db).1 = .error fault) ∧
    ∀ db', Unchanged db db' →
      db'.version = db.version ∧ (∀ id, db'.recordOf id = db.recordOf id) ∧
        (0 < db.version → db' = db) := by
  obtain ⟨version, memory, h⟩ := exists_remembers requests
  exact ⟨fun _ _ _ => h.unchanged_of_error,
    fun _ hlookup => Request.passive_action hlookup access _,
    fun _ _ _ => recordStarted_fails, fun _ => h.same_of_unchanged⟩

/-- A deployment with one artifact is recorded, and started again with an artifact too many. -/
theorem runOn_error_unchanged_of_name_used_twice :
    let a : StagedArtifact := ⟨⟨"job.jar", "job.jar", .bundle⟩, "/s/job.jar", "", 1, 1⟩
    let first : Manifest := ⟨default, "/s", [a], .configured 2⟩
    let again : Manifest := { first with artifacts := [a, a] }
    let db :=
      (serveAll .empty [.migrate latestVersion, .tell 0 (.recordStarted "job" first)]).2
    ∃ fault, (recordStarted 0 "job" again).runOn .writing db = (.error fault, db) ∧
      db.recordOf default = some (freshRecord "job" first 0 none) ∧
      Unchanged db (listRequiringInspection.runOn .writing db).2 := by
  intro a first again db
  obtain ⟨herror, hlookup, hfails, hsame⟩ := runOn_error_unchanged
    [.migrate latestVersion, .tell 0 (.recordStarted "job" first)] .writing
  have hbad : ¬ again.IsStorable := fun h => absurd h.distinct (by decide)
  obtain ⟨fault, hfault⟩ := hfails 0 "job" again (.inr hbad)
  have hunchanged := herror (.tell 0 (.recordStarted "job" again)) fault _ (Prod.ext hfault rfl)
  have heq := (hsame _ hunchanged).2.2 (by decide)
  exact ⟨fault, Prod.ext hfault heq, (Remembers.empty.serveAll _).recordOf default,
    hlookup .listRequiringInspection rfl⟩

end ClusterDeploy.Ledger
