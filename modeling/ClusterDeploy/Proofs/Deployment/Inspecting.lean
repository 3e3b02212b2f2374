import ClusterDeploy.Proofs.Deployment.Orphans

set_option relaxedAutoImplicit false
set_option autoImplicit false

/-!
# Which deployments are inspected

A deployment that had a cluster is listed for inspection exactly if it tried to kill the cluster by
force and did not succeed. It does not matter whether the deployment gave a report or a failure, nor
what else the ledger served meanwhile.

## Main definitions

* `Ledger.Accepts` — a ledger that accepts all that it is told in the course of a deployment.

## Main results

* `Ledger.Accepts.exists_last` — what such a ledger did last.
* `Deployment.Lived.mayBeRunning_iff` — a cluster may be running if the attempt to kill it failed.
* `Deployment.requiresInspection_agrees` — there is one notion of requiring inspection.
-/

namespace ClusterDeploy

open Dialogue (Ends)

namespace Ledger

/-- A ledger that accepts all that it is told in the course of a deployment, with its database
before and after. Before each thing that it is told it may serve other requests. -/
inductive Accepts : Database → Task.Course → Database → Prop where
  | nil (db : Database) : Accepts db [] db
  | told {db db₁ db' : Database} {now : Int} {call : Call} {value : call.Value}
      {course : Task.Course} (others : List Request) :
    (call.action now).runOn .writing (serveAll db others).2 = (.ok value, db₁) →
    Accepts db₁ course db' → Accepts db (Deployment.recording call (.ok value) :: course) db'
  | silent {db db' : Database} {x : Task.Step} {course : Task.Course} :
    x.isRecording = false → Accepts db course db' → Accepts db (x :: course) db'

variable {db db' : Database} {version : Int} {memory : Memory}

/-- **What the ledger did last**: it was told the last thing when its tables represented some map.

**Proof sketch.** Induction on the steps before the last one. Whatever the ledger is told and serves
on the way, its tables represent a map. -/
lemma Accepts.exists_last {call : Call} {answer : Attempt call.Value} (before : Task.Course)
    (h : Remembers db version memory)
    (haccepts : Accepts db (before ++ [Deployment.recording call answer]) db') :
    ∃ db₁ version₁ memory₁ now value, Remembers db₁ version₁ memory₁ ∧
      (call.action now).runOn .writing db₁ = (.ok value, db') := by
  induction before generalizing db version memory with
  | nil =>
    cases haccepts with
    | told others hrun hend =>
      cases hend
      exact ⟨_, _, _, _, _, h.serveAll others, hrun⟩
    | silent hsilent _ => exact absurd hsilent.symm Bool.false_ne_true
  | cons x before ih =>
    cases haccepts with
    | told others hrun hrest =>
      obtain ⟨_, -, -, h₁⟩ := (h.serveAll others).action hrun
      exact ih h₁ hrest
    | silent _ hrest => exact ih h hrest

end Ledger

namespace Deployment

section Inspecting

variable {config : Config} {request : DeploymentRequest} {job : Job} {application : ApplicationId}
  {m : Manifest} {course : Task.Course} {result : Except DeployError DeploymentReport}
  {teardown : Option SupervisionReport} {h : ClusterHandle}

/-! ## What became of the cluster -/

/-- No poll and no pause is an attempt to kill a cluster. -/
lemma killResults_of_polls {polls : Task.Course} {finished : Bool} {count : Nat}
    (hpolls : Supervisor.Polls h polls finished count) : polls.killResults = [] :=
  List.filterMap_eq_nil_iff.2 (hpolls.forall_mem (p := fun x => x.killResult? = none)
    (fun _ _ => rfl) fun _ => rfl)

/-- A cluster that there was one attempt to kill may be running exactly if that did not work in
time. -/
lemma mayBeRunning_verdict_iff {s : Supervisor} {ending : Ending Unit} {polls : Counter}
    (hkill : course.killResults = [ending.within s.callTimeout]) :
    mayBeRunning (some ⟨(s.verdict h ending).1, (s.verdict h ending).2, polls⟩) = true ↔
      ∃ came ∈ course.killResults, came ≠ some (.ok ()) := by
  rw [hkill]
  simp only [List.mem_singleton, exists_eq_left]
  by_cases hend : ending.within s.callTimeout = some (.ok ())
  · rw [Supervisor.verdict_of_success hend]
    exact iff_of_false Bool.false_ne_true (not_not_intro hend)
  · obtain ⟨e, -, hverdict⟩ := Supervisor.verdict_of_failure (h := h) hend
    rw [hverdict]
    exact iff_of_true rfl hend

/-- **A cluster that was created may be running exactly if there was an attempt to kill it, and it
did not work in time.**

**Proof sketch.** A case for each way in which a cluster comes to its end. There is one attempt to
kill it, unless a poll saw it finished: then there is none. -/
lemma Lived.mayBeRunning_iff (hlife : Lived config job application m course result teardown)
    (hcreated : course.handles ≠ []) :
    mayBeRunning teardown = true ↔ ∃ came ∈ course.killResults, came ≠ some (.ok ()) := by
  cases hlife with
  | uncreated hfailed =>
    obtain ⟨mishap, rfl⟩ := Task.exists_mishap_of_settle hfailed
    exact absurd rfl hcreated
  | unsubmitted _ hrun =>
    obtain ⟨ending, rfl, rfl⟩ := Supervisor.ends_terminateNow_iff.1 hrun
    exact mayBeRunning_verdict_iff (by simp)
  | cancelled _ hrun =>
    obtain ⟨ending, rfl, rfl⟩ := Supervisor.ends_terminateNow_iff.1 hrun
    exact mayBeRunning_verdict_iff (by simp)
  | unwatched _ _ hrun =>
    obtain ⟨ending, rfl, rfl⟩ := Supervisor.ends_terminateNow_iff.1 hrun
    exact mayBeRunning_verdict_iff (by simp)
  | completed _ _ hrun =>
    obtain ⟨polls, count, ⟨hpolls, rfl, rfl⟩ | ⟨hpolls, ending, rfl, rfl⟩⟩ :=
      Supervisor.ends_conclude_iff.1 hrun
    · obtain ⟨_, hgrammar, -⟩ := Supervisor.polls_of_ends _ _ _ _ _ hpolls
      simp [killResults_of_polls hgrammar, mayBeRunning]
    · obtain ⟨_, hgrammar, -⟩ := Supervisor.polls_of_ends _ _ _ _ _ hpolls
      exact mayBeRunning_verdict_iff (by simp [killResults_of_polls hgrammar])

/-! ## The whole deployment -/

/-- How a deployment with a cluster ends on a ledger that accepts all that it is told: the record of
its application requires inspection exactly if an attempt to kill the cluster failed.

**Proof sketch.** Of the ways in which a deployment ends only the last one creates a cluster. The
last that the ledger is told says whether the cluster may be running (`Lived.suspects?_closing`),
and that it accepted this means that the application has a record, which says the same. -/
lemma exists_record_of_accepts {db db' : Ledger.Database} {version : Int} {memory : Ledger.Memory}
    {cluster : ClusterRequest} (hrun : Ends (run true config request) course result)
    (hdb : Ledger.Remembers db version memory) (hcreation : creation cluster (.ok h) ∈ course)
    (haccepts : Ledger.Accepts db course db') :
    ∃ application ending rest version' memory' r, course = allocation config ending :: rest ∧
      ending.within config.askTimeout = some (.ok application) ∧
      Ledger.Remembers db' version' memory' ∧ memory' application = some r ∧
      (r.requiresInspection = true ↔ ∃ came ∈ course.killResults, came ≠ some (.ok ())) := by
  have hhandle : h ∈ course.handles := List.mem_filterMap.2 ⟨_, hcreation, rfl⟩
  cases ran_of_ends hrun with
  | unallocated _ => simp at hcreation
  | unstaged _ _ => simp at hcreation
  | cancelled _ => simp at hcreation
  | unrecorded _ hopened =>
    obtain ⟨answer, rfl, -⟩ := ends_record_true_iff.1 hopened
    simp at hcreation
  | @lived ending application m _ life _ _ teardown _ hallocated hopened hlife hclosed =>
    obtain ⟨opened, rfl, -⟩ := ends_record_true_iff.1 hopened
    obtain ⟨answer, rfl, -⟩ := ends_record_true_iff.1 hclosed
    have hlast : allocation config ending :: staging config request application (.ok m) ::
        cancellation false :: ([recording (.recordStarted request.job.name m) opened] ++
          (life ++ [recording (closing application teardown result) answer])) =
        (allocation config ending :: staging config request application (.ok m) ::
          cancellation false :: recording (.recordStarted request.job.name m) opened :: life) ++
          [recording (closing application teardown result) answer] := by simp
    rw [hlast] at haccepts
    obtain ⟨db₁, version₁, memory₁, now, value, h₁, htold⟩ := haccepts.exists_last _ hdb
    obtain ⟨memory', r, h', hrecord, hinspect⟩ := h₁.of_suspects? hlife.suspects?_closing htold
    rw [hlife.application_closing] at hrecord
    refine ⟨application, ending, _, version₁, memory', r, rfl,
      Task.settleWithin_eq_ok_iff.1 hallocated, h', hrecord, ?_⟩
    -- only from the creation on there is a cluster
    have hcreated : life.handles ≠ [] := by
      intro hnone
      rw [handles_prologue] at hhandle
      simp [hnone] at hhandle
    rw [hinspect, hlife.mayBeRunning_iff hcreated]
    simp

end Inspecting

/-- **There is one notion of a deployment that requires inspection.** Whatever a ledger served that
was empty once,

1. if it accepts the report of a deployment, then the record that it has of the deployment requires
   inspection exactly if the report does, and with the latest layout this is the record that is
   found;
2. with the latest layout it lists each record that requires inspection once, and no other record;
3. if it accepts all that it is told in the course of a deployment to which a cluster was created,
   and has the latest layout in the end, then it lists the application of the deployment exactly if
   there was an attempt to kill the cluster by force, and it failed. So it stays whatever else the
   ledger serves, unless the layout is moved or something is told of the application.

**Proof sketch.** The tables represent a map of records, whatever was served
(`Ledger.exists_remembers`). A record that is completed is as suspect as the report, the list is
made of the records in the map (`Ledger.Remembers.exists_listed`), and the last that is told of a
deployment says whether its cluster may be running (`exists_record_of_accepts`). -/
theorem requiresInspection_agrees (requests : List Ledger.Request) :
    let db := (Ledger.serveAll .empty requests).2
    (∀ (now : Int) (report : DeploymentReport) (db' : Ledger.Database),
      (Ledger.recordCompleted now report).runOn .writing db = (.ok (), db') →
      ∃ r, db'.recordOf report.applicationId = some r ∧
        r.requiresInspection = report.requiresInspection ∧
        (db.version = Ledger.latestVersion → ∀ access,
          (Ledger.deployment report.applicationId).runOn access db' = (.ok (some r), db'))) ∧
    (db.version = Ledger.latestVersion → ∃ found,
      (∀ access, Ledger.listRequiringInspection.runOn access db = (.ok found, db)) ∧
        (found.map (·.applicationId)).Nodup ∧
        ∀ r, r ∈ found ↔ r.requiresInspection = true ∧
          ∃ id, ∀ access, (Ledger.deployment id).runOn access db = (.ok (some r), db)) ∧
    ∀ (config : Config) (request : DeploymentRequest) (course : Task.Course)
      (result : Except DeployError DeploymentReport) (cluster : ClusterRequest) (h : ClusterHandle)
      (db' : Ledger.Database), Ends (run true config request) course result →
      creation cluster (.ok h) ∈ course → Ledger.Accepts db course db' →
      db'.version = Ledger.latestVersion →
      ∃ application ending rest, course = allocation config ending :: rest ∧
        ending.within config.askTimeout = some (.ok application) ∧
        ∀ later : List Ledger.Request, (∀ x ∈ later, x.isMigration = false) →
          (∀ now call, .tell now call ∈ later → call.application ≠ application) →
          (Ledger.Listed (Ledger.serveAll db' later).2 application ↔
            ∃ came ∈ course.killResults, came ≠ some (.ok ())) := by
  intro db
  obtain ⟨version, memory, hdb⟩ := Ledger.exists_remembers requests
  refine ⟨fun now report db' hrun => ?_, fun hlatest => ?_,
    fun config request course result cluster h db' hrun hcreation haccepts hlatest => ?_⟩
  · have htold : ((Ledger.Call.recordCompleted report).action now).runOn .writing db =
        (.ok (), db') := hrun
    obtain ⟨memory', r, hdb', hrecord, hinspect⟩ := hdb.of_suspects? rfl htold
    refine ⟨r, (hdb'.recordOf _).trans hrecord, hinspect, fun hlatest access => ?_⟩
    obtain rfl : version = Ledger.latestVersion := hdb.version_eq.symm.trans hlatest
    exact hrecord ▸ hdb'.deployment report.applicationId
  · obtain rfl : version = Ledger.latestVersion := hdb.version_eq.symm.trans hlatest
    obtain ⟨found, hlist, hnodup, hfound⟩ := hdb.exists_listed
    refine ⟨found, hlist, hnodup, fun r => ?_⟩
    rw [hfound, and_comm]
    refine and_congr_right fun _ => ⟨fun hrecord => ?_, ?_⟩
    · exact ⟨r.applicationId, fun access => hrecord ▸ hdb.deployment r.applicationId⟩
    · rintro ⟨id, hfind⟩
      obtain ⟨hsame, -⟩ := Prod.mk.inj ((hdb.deployment id).symm.trans (hfind .reading))
      have hrecord : memory id = some r := Except.ok.inj hsame
      exact (hdb.applicationId_eq hrecord).symm ▸ hrecord
  · obtain ⟨application, ending, rest, version', memory', r, hfirst, hwithin, hdb', hrecord,
      hinspect⟩ := exists_record_of_accepts hrun hdb hcreation haccepts
    obtain rfl : version' = Ledger.latestVersion := hdb'.version_eq.symm.trans hlatest
    refine ⟨application, ending, rest, hfirst, hwithin, fun later hstays hother => ?_⟩
    obtain ⟨memory'', hlater, hsame⟩ := hdb'.serveAll_other hstays hother
    rw [hlater.listed_iff, hsame, hrecord, ← hinspect]
    simp

/-! ## A cluster that cannot be killed -/

namespace Stuck

open Lost (application manifest cluster)

/-- The ledger is migrated, and a deployment of the application started before. -/
def requests : List Ledger.Request :=
  [.migrate 2, .tell 0 (.recordStarted Lost.request.job.name manifest)]

/-- The cluster. -/
def handle : ClusterHandle := ⟨application, "http://master:8081"⟩

/-- The job was not submitted in time. -/
def error : DeployError :=
  Rollout.asDeploymentError
    (Task.timeoutError .submission (some application) Config.default.askTimeout)

/-- The cluster was not killed in time. -/
def teardownError : DeployError :=
  Supervisor.teardownError application
    (Task.timeoutError .termination (some application) Config.default.askTimeout)

/-- A report of the earlier deployment. -/
def report : DeploymentReport := ⟨application, manifest, .succeeded, .running, some teardownError⟩

/-- What the ledger is told in the end. -/
def ended : Ledger.Call := .recordAborted application error (some .running) (some teardownError)

/-- The course of the deployment. -/
def course : Task.Course :=
  [allocation .default (.ended 1 (.ok application)),
    staging .default Lost.request application (.ok manifest), cancellation false,
    recording (.recordStarted Lost.request.job.name manifest) (.ok ()),
    creation cluster (.ok handle), submission .default handle Lost.request.job .endless,
    Supervisor.killed (.ofConfig .default) handle .endless, Supervisor.released handle,
    recording ended (.ok ())]

/-- The ledger before the deployment. -/
def served : Ledger.Database := (Ledger.serveAll .empty requests).2

/-- The ledger after the start of the deployment. -/
def opened : Ledger.Database :=
  ((Ledger.Call.action 5000 (.recordStarted Lost.request.job.name manifest)).runOn .writing
    served).2

/-- The ledger after the end of the deployment. -/
def closed : Ledger.Database :=
  ((Ledger.Call.action 9000 ended).runOn .writing opened).2

/-- The course is one of the deployment. -/
private lemma ends_course : Ends (run true .default Lost.request) course (.error error) :=
  .ask (.ask (.ask (.ask (.ask (.ask (.ask (.ask (.ask (.done _)))))))))

/-- The ledger records the start. -/
private lemma runOn_opened :
    (Ledger.Call.action 5000 (.recordStarted Lost.request.job.name manifest)).runOn .writing
      served = (.ok (), opened) :=
  rfl

/-- The ledger records the end. -/
private lemma runOn_closed :
    (Ledger.Call.action 9000 ended).runOn .writing opened = (.ok (), closed) :=
  rfl

/-- The ledger answers the deployment as its database does. -/
private lemma accepts_course : Ledger.Accepts served course closed :=
  .silent rfl (.silent rfl (.silent rfl (.told [] runOn_opened (.silent rfl (.silent rfl
    (.silent rfl (.silent rfl (.told [] runOn_closed (.nil _)))))))))

end Stuck

/-- A deployment tried to kill its cluster by force and did not succeed in time: the ledger lists
its application. -/
theorem requiresInspection_agrees_of_stuck :
    (∃ r, ((Ledger.recordCompleted 0 Stuck.report).runOn .writing Stuck.served).2.recordOf
        Lost.application = some r ∧ r.requiresInspection = true) ∧
      (∃ found, ∀ access, Ledger.listRequiringInspection.runOn access Stuck.served =
        (.ok found, Stuck.served)) ∧
      Ledger.Listed Stuck.closed Lost.application := by
  obtain ⟨hreport, hlist, hdeployment⟩ := requiresInspection_agrees Stuck.requests
  refine ⟨?_, ?_, ?_⟩
  · obtain ⟨r, hrecord, hinspect, -⟩ := hreport 0 Stuck.report _ rfl
    exact ⟨r, hrecord, hinspect⟩
  · obtain ⟨found, hfound, -⟩ := hlist rfl
    exact ⟨found, hfound⟩
  · obtain ⟨application, ending, rest, hfirst, hwithin, hlisted⟩ :=
      hdeployment .default Lost.request Stuck.course _ Lost.cluster Stuck.handle Stuck.closed
        Stuck.ends_course (by simp [Stuck.course]) Stuck.accepts_course rfl
    obtain rfl : application = Lost.application := by
      cases hfirst
      cases hwithin
      rfl
    refine (hlisted [] (by simp) (by simp)).2 ⟨none, ?_, nofun⟩
    simp [Stuck.course, Ending.within]

end Deployment

end ClusterDeploy
