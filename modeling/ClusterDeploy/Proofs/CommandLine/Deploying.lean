import ClusterDeploy.CommandLine.Program
import ClusterDeploy.Proofs.Deployment.Reporting
import ClusterDeploy.Proofs.Dialogue.Questions

set_option relaxedAutoImplicit false
set_option autoImplicit false

/-!
# The exit status of a deployment

The program that deploys a job reads its settings, brings the ledger up to date, reads the payload
of the job and deploys it. It succeeds exactly if all of this works, the job succeeds and the
cluster is gone.

## Main definitions

* `CommandLine.GaveSettings`, `CommandLine.GavePayload` — what was read from the files that are
  named on the command line.
* `CommandLine.Deployed` — a run of the program that comes as far as the deployment.

## Main results

* `CommandLine.cases_of_ends_execute` — the runs of the program that deploys a job.
* `CommandLine.execute_deploy` — when it succeeds, what that tells of the cluster, and what it
  writes.
-/

namespace ClusterDeploy.CommandLine

open Dialogue (Ends)

/-- What the program asked and what it was answered, in order. -/
abbrev Trace := List (Dialogue.Exchange Question Answer)

/-- The pairs that were read from the file of settings, if one is named. -/
def GaveSettings (trace : Trace) (entries : List (String × String)) : Option String → Prop
  | none => trace = [] ∧ entries = []
  | some path => ∃ content, trace = [⟨.readFile path, .ok content⟩] ∧
      (Utf8.decode? content).isSome = true ∧ fileEntries content = some entries

/-- The payload that was read from its file, if one is named. -/
def GavePayload (trace : Trace) (payload : Bytes) : Option String → Prop
  | none => trace = [] ∧ payload = []
  | some path => trace = [⟨.readFile path, .ok payload⟩]

/-- A run of the program that comes as far as the deployment: the configuration resolves, the ledger
is brought up to date, the payload is read, and the deployment has a result. -/
def Deployed (inv : Invocation) (a : DeployArguments) (config : Config) (payload : Bytes)
    (result : Except DeployError DeploymentReport) (trace : Trace) : Prop :=
  ∃ read entries defined loaded, GaveSettings read entries inv.config ∧
    defineEntries inv.defines = .ok defined ∧ Config.resolve (entries ++ defined) = .ok config ∧
    GavePayload loaded payload a.payload ∧
    trace = read ++ ⟨.migrate inv.ledger, .ok ()⟩ ::
      (loaded ++ [⟨.deploy (connection inv) config (requestOf a payload), result⟩])

section Runs

variable {inv : Invocation} {a : DeployArguments} {config : Config} {payload : Bytes}
  {trace : Trace} {out : Output}

/-! ## Files -/

/-- The pairs that are read are those that the file gives, if one is named. -/
lemma ends_readSettings_ok_iff {path : Option String} {entries : List (String × String)} :
    Ends (readSettings path) trace (.ok entries) ↔ GaveSettings trace entries path := by
  cases path with
  | none => simp [readSettings, GaveSettings]
  | some path =>
    constructor
    · intro hrun
      obtain ⟨read, rest, rfl, hrest⟩ := Dialogue.ends_question_bind_iff.1 hrun
      rcases read with fault | content
      · simp at hrest
      · by_cases htext : (Utf8.decode? content).isNone = true
        · simp [htext] at hrest
        · rcases hentries : fileEntries content with _ | found
          · simp [htext, hentries] at hrest
          · simp only [htext, hentries, Bool.false_eq_true, if_false, Dialogue.ends_pure_iff,
              Except.ok.injEq] at hrest
            obtain ⟨rfl, rfl⟩ := hrest
            exact ⟨content, rfl, Option.isSome_iff_ne_none.2 (by simpa using htext), hentries⟩
    · rintro ⟨content, rfl, htext, hentries⟩
      have htext' : (Utf8.decode? content).isNone = false := by
        rwa [← Option.not_isSome, Bool.not_eq_false']
      refine Dialogue.ends_question_bind_iff.2 ⟨.ok content, [], rfl, ?_⟩
      simp [htext', hentries]

/-- A configuration is read exactly if the pairs of the file and those of the command line resolve
to it. -/
lemma ends_resolveSettings_ok_iff :
    Ends (resolveSettings inv) trace (.ok config) ↔ ∃ entries defined,
      GaveSettings trace entries inv.config ∧ defineEntries inv.defines = .ok defined ∧
        Config.resolve (entries ++ defined) = .ok config := by
  unfold resolveSettings
  rw [Dialogue.ends_bind_iff]
  constructor
  · rintro ⟨t₁, t₂, read, rfl, hread, hrest⟩
    rcases read with message | entries
    · simp at hrest
    · rcases hdefined : defineEntries inv.defines with define | defined
      · simp [hdefined] at hrest
      · simp only [hdefined, Dialogue.ends_pure_iff] at hrest
        obtain ⟨rfl, hresolve⟩ := hrest
        rw [List.append_nil]
        exact ⟨entries, defined, ends_readSettings_ok_iff.1 hread, rfl,
          Task.mapError_eq_ok_iff.1 hresolve.symm⟩
  · rintro ⟨entries, defined, hread, hdefined, hresolve⟩
    refine ⟨trace, [], .ok entries, (List.append_nil trace).symm,
      ends_readSettings_ok_iff.2 hread, ?_⟩
    simp only [hdefined, Dialogue.ends_pure_iff, true_and]
    exact (Task.mapError_eq_ok_iff.2 hresolve).symm

/-- The payload that is read is the content of its file, if one is named. -/
lemma ends_readPayload_ok_iff {path : Option String} :
    Ends (readPayload path) trace (.ok payload) ↔ GavePayload trace payload path := by
  cases path with
  | none => simp [readPayload, GavePayload]
  | some path =>
    constructor
    · intro hrun
      obtain ⟨read, rest, rfl, hrest⟩ := Dialogue.ends_question_bind_iff.1 hrun
      obtain ⟨rfl, hread⟩ := Dialogue.ends_pure_iff.1 hrest
      cases read with
      | error fault => cases hread
      | ok content => rw [GavePayload, Except.ok.inj hread]
    · rintro rfl
      exact Dialogue.ends_question_bind_iff.2 ⟨.ok payload, [], rfl, .done _⟩

/-- A question for the content of a file. -/
def IsRead (q : Question) : Prop :=
  ∃ path, q = .readFile path

/-- While settings are resolved nothing but files is asked for. -/
lemma asks_resolveSettings (inv : Invocation) :
    Dialogue.Asks IsRead (fun _ _ => True) (fun _ => True) (resolveSettings inv) := by
  have hread : ∀ path,
      Dialogue.Asks IsRead (fun _ _ => True) (fun _ => True) (readSettings path) := by
    intro path
    cases path with
    | none => trivial
    | some path =>
      refine ⟨⟨path, rfl⟩, fun content _ => ?_⟩
      cases content with
      | error fault => trivial
      | ok content =>
        simp only [pure, Dialogue.bind]
        split
        · trivial
        · split <;> trivial
  refine (hread inv.config).bind fun entries _ => ?_
  cases entries with
  | error message => trivial
  | ok entries =>
    simp only
    split <;> trivial

/-- While the payload is read nothing but files is asked for. -/
lemma asks_readPayload (path : Option String) :
    Dialogue.Asks IsRead (fun _ _ => True) (fun _ => True) (readPayload path) := by
  cases path with
  | none => trivial
  | some path => exact ⟨⟨path, rfl⟩, fun _ _ => trivial⟩

/-- What only reads files asks for nothing else in its runs. -/
lemma forall_isRead {α : Type} {p : Program α} {b : α} (hrun : Ends p trace b)
    (hp : Dialogue.Asks IsRead (fun _ _ => True) (fun _ => True) p) :
    ∀ x ∈ trace, IsRead x.question :=
  hrun.reaches.forall_asked hp fun _ _ => trivial

/-! ## The program -/

/-- What the program leaves behind after a deployment. -/
def deployOutput : Except DeployError DeploymentReport → Output
  | .error e => fail [] e.display
  | .ok report => ⟨reportLines report, reportExit report⟩

/-- The program fails before it deploys anything. -/
def FailedEarly (trace : Trace) (out : Output) : Prop :=
  (∃ message, out = fail [] message) ∧ ∀ x ∈ trace, ∀ c config request,
    x.question ≠ .deploy c config request

/-- Who only reads files deploys nothing. -/
lemma forall_not_deploy (h : ∀ x ∈ trace, IsRead x.question) : ∀ x ∈ trace, ∀ c config request,
    x.question ≠ .deploy c config request := by
  intro x hx c config request hquestion
  obtain ⟨path, hread⟩ := h x hx
  exact nomatch hread.symm.trans hquestion

/-- A deployment is the last thing that the program does, if the payload could be read. -/
lemma cases_of_ends_deploy {c : Connection} (hrun : Ends (deploy c config a) trace out) :
    FailedEarly trace out ∨ ∃ payload loaded result, GavePayload loaded payload a.payload ∧
      trace = loaded ++ [⟨.deploy c config (requestOf a payload), result⟩] ∧
      out = deployOutput result := by
  unfold deploy at hrun
  obtain ⟨loaded, rest, read, rfl, hread, hrest⟩ := Dialogue.ends_bind_iff.1 hrun
  rcases read with message | payload
  · obtain ⟨rfl, rfl⟩ := Dialogue.ends_pure_iff.1 hrest
    rw [List.append_nil]
    exact .inl ⟨⟨message, rfl⟩, forall_not_deploy (forall_isRead hread (asks_readPayload _))⟩
  · obtain ⟨result, rest, rfl, hend⟩ := Dialogue.ends_question_bind_iff.1 hrest
    refine .inr ⟨payload, loaded, result, ends_readPayload_ok_iff.1 hread, ?_⟩
    rcases result with e | report <;> obtain ⟨rfl, rfl⟩ := Dialogue.ends_pure_iff.1 hend <;>
      exact ⟨rfl, rfl⟩

variable {arguments : List String} {env : List (String × String)}
  {result : Except DeployError DeploymentReport}

/-- The program that deploys a job, as far as it is the same for all jobs. -/
lemma execute_eq (hparse : parse arguments env = .ok inv) (hcommand : inv.command = .deploy a) :
    execute arguments env = (do
      match ← resolveSettings inv with
      | .error message => return fail [] message
      | .ok config =>
        match ← ask (.migrate inv.ledger) with
        | .error _ => return fail [] s!"failed to migrate ledger {inv.ledger}"
        | .ok () => deploy (connection inv) config a) := by
  have hperform : execute arguments env = perform inv := by
    unfold execute
    rw [hparse]
  cases inv
  cases hcommand
  exact hperform

/-- **The runs of the program that deploys a job**: it fails early, or it comes as far as the
deployment. -/
lemma cases_of_ends_execute (hparse : parse arguments env = .ok inv)
    (hcommand : inv.command = .deploy a) (hrun : Ends (execute arguments env) trace out) :
    FailedEarly trace out ∨ ∃ config payload result, Deployed inv a config payload result trace ∧
      out = deployOutput result := by
  rw [execute_eq hparse hcommand] at hrun
  obtain ⟨read, rest, settings, rfl, hread, hrest⟩ := Dialogue.ends_bind_iff.1 hrun
  have hreads := forall_isRead hread (asks_resolveSettings inv)
  rcases settings with message | config
  · obtain ⟨rfl, rfl⟩ := Dialogue.ends_pure_iff.1 hrest
    rw [List.append_nil]
    exact .inl ⟨⟨message, rfl⟩, forall_not_deploy hreads⟩
  · obtain ⟨migrated, rest, rfl, hmigrated⟩ := Dialogue.ends_question_bind_iff.1 hrest
    have hbefore : ∀ x ∈ read ++ [⟨.migrate inv.ledger, migrated⟩], ∀ c config request,
        x.question ≠ .deploy c config request := by
      refine List.forall_mem_append.2 ⟨forall_not_deploy hreads, ?_⟩
      exact List.forall_mem_singleton.2 fun _ _ _ => nofun
    rcases migrated with e | ⟨⟩
    · obtain ⟨rfl, rfl⟩ := Dialogue.ends_pure_iff.1 hmigrated
      exact .inl ⟨⟨_, rfl⟩, hbefore⟩
    · rcases cases_of_ends_deploy hmigrated with ⟨hfail, hquiet⟩ |
        ⟨payload, loaded, result, hloaded, rfl, rfl⟩
      · refine .inl ⟨hfail, ?_⟩
        rw [List.append_cons]
        exact List.forall_mem_append.2 ⟨hbefore, hquiet⟩
      · obtain ⟨entries, defined, hsettings, hdefined, hresolve⟩ :=
          ends_resolveSettings_ok_iff.1 hread
        exact .inr ⟨config, payload, result, ⟨read, entries, defined, loaded, hsettings, hdefined,
          hresolve, hloaded, rfl⟩, rfl⟩

/-- A run that comes as far as the deployment is a run of the program. -/
lemma Deployed.ends (h : Deployed inv a config payload result trace)
    (hparse : parse arguments env = .ok inv) (hcommand : inv.command = .deploy a) :
    Ends (execute arguments env) trace (deployOutput result) := by
  obtain ⟨read, entries, defined, loaded, hsettings, hdefined, hresolve, hloaded, rfl⟩ := h
  rw [execute_eq hparse hcommand]
  have hread := ends_resolveSettings_ok_iff.2 ⟨entries, defined, hsettings, hdefined, hresolve⟩
  refine Dialogue.ends_bind_iff.2 ⟨read, _, .ok config, rfl, hread, ?_⟩
  refine Dialogue.ends_question_bind_iff.2 ⟨.ok (), _, rfl, ?_⟩
  refine Dialogue.ends_bind_iff.2 ⟨loaded, _, .ok payload, rfl,
    ends_readPayload_ok_iff.2 hloaded, Dialogue.ends_question_bind_iff.2 ⟨result, [], rfl, ?_⟩⟩
  cases result <;> exact .done _

/-- What a run leaves behind that comes as far as the deployment. -/
lemma Deployed.output_eq (h : Deployed inv a config payload result trace)
    (hparse : parse arguments env = .ok inv) (hcommand : inv.command = .deploy a)
    (hrun : Ends (execute arguments env) trace out) : out = deployOutput result :=
  (hrun.append_inj (h.ends hparse hcommand) (rfl : trace ++ [] = trace ++ [])).2.1

/-- There is one deployment in a run that comes as far as that. -/
lemma Deployed.result_eq (h : Deployed inv a config payload result trace) {c : Connection}
    {config' : Config} {request : DeploymentRequest} {result' : Except DeployError DeploymentReport}
    (hmem : ⟨.deploy c config' request, result'⟩ ∈ trace) : result' = result := by
  obtain ⟨read, entries, defined, loaded, hsettings, hdefined, hresolve, hloaded, rfl⟩ := h
  have hread := forall_isRead (ends_resolveSettings_ok_iff.2
    ⟨entries, defined, hsettings, hdefined, hresolve⟩) (asks_resolveSettings inv)
  have hload := forall_isRead (ends_readPayload_ok_iff.2 hloaded) (asks_readPayload _)
  rcases List.mem_append.1 hmem with hmem | hmem
  · obtain ⟨path, hpath⟩ := hread _ hmem
    exact nomatch hpath
  · rcases List.mem_cons.1 hmem with hmigrate | hmem
    · exact nomatch hmigrate
    · rcases List.mem_append.1 hmem with hmem | hmem
      · obtain ⟨path, hpath⟩ := hload _ hmem
        exact nomatch hpath
      · cases List.mem_singleton.1 hmem
        rfl

/-! ## The exit status -/

/-- The program succeeds after a report exactly if the job succeeded and there is no error of
teardown. -/
lemma reportExit_eq_success_iff {r : DeploymentReport} :
    (reportExit r).status = 0 ↔ r.outcome = .succeeded ∧ r.teardownError = none := by
  obtain ⟨_, _, outcome, _, teardownError⟩ := r
  cases teardownError <;> cases outcome <;>
    simp [reportExit, JobOutcome.failure?, Exit.status]

/-- **The exit status of a deployment.** For every command line that asks for a deployment, and
whatever the files, the ledger and the deployment answer:

1. the program succeeds exactly if the configuration resolves, the ledger is brought up to date, the
   payload can be read if it is named, and the deployment gives a report with a job that succeeded
   and without an error of teardown;
2. then, however the deployment came to this report on its resource manager, there was one cluster,
   the resource manager reported that it is over or accepted a request to kill it, and its
   connection was closed;
3. whenever there is a report the program writes it, also if it fails then. It fails with the error
   of teardown if there is one, and otherwise with the cause of the failed job;
4. and the program comes as far as the deployment whenever it can: if the configuration resolves,
   the ledger is brought up to date and the payload is read, then whatever the deployment gives,
   there is a run of the program in which it gives this.

**Proof sketch.** A run fails early or comes as far as the deployment (`cases_of_ends_execute`), and
what it leaves behind then is determined (`Deployed.output_eq`). The second statement is about the
cluster of a report without an error of teardown (`Deployment.ended_of_report`). -/
theorem execute_deploy (arguments : List String) (env : List (String × String)) (inv : Invocation)
    (a : DeployArguments) (hparse : parse arguments env = .ok inv)
    (hcommand : inv.command = .deploy a) (trace : Trace) (out : Output)
    (hrun : Ends (execute arguments env) trace out) :
    (out.exit.status = 0 ↔ ∃ config payload report,
      Deployed inv a config payload (.ok report) trace ∧ report.outcome = .succeeded ∧
        report.teardownError = none) ∧
    (out.exit.status = 0 → ∀ config payload report,
      Deployed inv a config payload (.ok report) trace →
      ∀ talked : List (Task.Step × Http.Conversation),
        Ends (Deployment.run true config (requestOf a payload)) (talked.map Prod.fst)
          (.ok report) →
        (∀ p ∈ talked, p.1.TalkedTo (connection inv).platform p.2) →
        ∃ h, Task.Course.handles (talked.map Prod.fst) = [h] ∧
          h.applicationId = report.manifest.applicationId ∧
          Supervisor.released h ∈ talked.map Prod.fst ∧
          ∃ p ∈ talked, ∃ y ∈ p.2, (connection inv).platform.ReportedFinal h.applicationId y ∨
            (connection inv).platform.KillAccepted h.applicationId y) ∧
    (∀ c config request report, ⟨.deploy c config request, .ok report⟩ ∈ trace →
      out.lines = [s!"application:  {report.applicationId.display}",
        s!"staging dir:  {report.manifest.stagingDir}",
        s!"replication:  {report.manifest.replication.factor.toNat} ({
          report.manifest.replication.source})",
        s!"outcome:      {report.outcome.name}",
        s!"termination:  {report.termination.name}"] ∧
      match report.teardownError, report.outcome with
      | some e, _ => out.exit = .failure e.display
      | none, .failed cause =>
        out.exit = .failure s!"job failed: {(Failure.ofPayload cause).outermost.display}"
      | none, .succeeded => out.exit = .success) ∧
    ∀ config payload result whole, Deployed inv a config payload result whole →
      ∃ left, Ends (execute arguments env) whole left := by
  have hcases := cases_of_ends_execute hparse hcommand hrun
  -- a run that does not come as far as the report has another exit status
  have hgood : out.exit.status = 0 → ∃ config payload report,
      Deployed inv a config payload (.ok report) trace ∧ report.outcome = .succeeded ∧
        report.teardownError = none := by
    intro hstatus
    rcases hcases with ⟨⟨message, rfl⟩, -⟩ | ⟨config, payload, e | report, hdeployed, rfl⟩
    · exact nomatch hstatus
    · exact nomatch hstatus
    · exact ⟨config, payload, report, hdeployed, reportExit_eq_success_iff.1 hstatus⟩
  refine ⟨⟨hgood, ?_⟩, ?_, ?_, fun config payload result whole hdeployed =>
    ⟨_, hdeployed.ends hparse hcommand⟩⟩
  · rintro ⟨config, payload, report, hdeployed, hreport⟩
    rw [hdeployed.output_eq hparse hcommand hrun]
    exact reportExit_eq_success_iff.2 hreport
  · intro hstatus config payload report hdeployed talked hdeployment htalked
    rw [hdeployed.output_eq hparse hcommand hrun] at hstatus
    exact Deployment.ended_of_report hdeployment htalked (reportExit_eq_success_iff.1 hstatus).2
  · intro c config request report hmem
    rcases hcases with ⟨-, hquiet⟩ | ⟨_, _, result, hdeployed, rfl⟩
    · exact absurd rfl (hquiet _ hmem c config request)
    · rw [← hdeployed.result_eq hmem]
      refine ⟨rfl, ?_⟩
      rcases hteardown : report.teardownError with _ | e
      · cases houtcome : report.outcome <;>
          simp [deployOutput, reportExit, hteardown, houtcome, JobOutcome.failure?]
      · simp [deployOutput, reportExit, hteardown]

end Runs

/-! ## A deployment that works -/

namespace WordCount

/-- The command line. -/
def arguments : List String :=
  ["deploy", "--name", "word-count", "--bundle", "dist.jar", "--resource-manager-url", "http://rm"]

/-- What is deployed. -/
def deployment : DeployArguments :=
  ⟨"word-count", none, "dist.jar", [], [], 1, none⟩

/-- What was asked for. -/
def invocation : Invocation where
  config := none
  defines := []
  ledger := "jobcluster.sqlite3"
  namenodeUrl := "http://localhost:9870"
  storageUri := "hdfs://localhost:8020"
  resourceManagerUrl := "http://rm"
  user := none
  queue := none
  command := .deploy deployment

/-- The resource manager. -/
def manager : ResourceManager := (connection invocation).platform

/-- The deployment. -/
def request : DeploymentRequest := requestOf deployment []

/-- The staged artifacts. -/
def manifest : Manifest := ⟨⟨1, 1⟩, "/user/jobcluster/application_1_0001", [], .storageDefault 3⟩

/-- The cluster. -/
def handle : ClusterHandle := ⟨⟨1, 1⟩, "http://jm"⟩

/-- The job on the cluster. -/
def running : RunningJob := .polled "word-count" "http://jm/jobs/word-count/execution-result" 500

/-- What the resource manager and the cluster answer. -/
def answer : (q : Http.Question) → Http.Answer q
  | .exchange r => (1, .answered 200 (some (Utf8.encode
      (if r.method = "POST" then
        "\x7b\"application-id\":\"application_1_0001\",\"jobUrl\":\"\"\x7d"
      else if r.target = "/ws/v1/cluster/apps/application_1_0001" then
        "\x7b\"app\":\x7b\"state\":\"RUNNING\",\"trackingUrl\":\"http://jm\"\x7d\x7d"
      else "\x7b\"state\":\"FINISHED\"\x7d"))))
  | .pause _ => ()

/-- The report of the deployment. -/
def report : DeploymentReport := ⟨⟨1, 1⟩, manifest, .succeeded, .finished, none⟩

/-- A report of a job that failed, on a cluster that could not be killed. -/
def unkilledReport : DeploymentReport :=
  ⟨⟨1, 1⟩, manifest, .failed [], .running, some (.ofKind .teardown "no answer")⟩

/-- What the program asks when the deployment gives a report. -/
def trace (r : DeploymentReport) : Trace :=
  [⟨.migrate "jobcluster.sqlite3", .ok ()⟩,
    ⟨.deploy (connection invocation) .default request, .ok r⟩]

/-- The program comes as far as the deployment. -/
lemma deployed (r : DeploymentReport) :
    Deployed invocation deployment .default [] (.ok r) (trace r) :=
  ⟨[], [], [], [], ⟨rfl, rfl⟩, rfl, rfl, ⟨rfl, rfl⟩, rfl⟩

/-- The command line is understood. -/
lemma parse_arguments : parse arguments [] = .ok invocation := rfl

/-- The course of the deployment, as it is told to the resource manager. -/
private lemma exists_talked : ∃ talked : List (Task.Step × Http.Conversation),
    Ends (Deployment.run true .default request) (talked.map Prod.fst) (.ok report) ∧
      ∀ p ∈ talked, p.1.TalkedTo manager p.2 := by
  let cluster := Launch.request .default request.job manifest
  have htook : 1 < Config.default.askTimeout := by decide
  obtain ⟨allocated, hallocated⟩ : ∃ talk, Ends (manager.answer .newApplication).run talk
      (.ok ⟨1, 1⟩) := Dialogue.exists_ends_of_toOption answer (by decide +kernel)
  obtain ⟨created, hcreated⟩ : ∃ talk, Ends (manager.answer (.createCluster cluster)).run talk
      (.ok handle) := Dialogue.exists_ends_of_toOption answer (by decide +kernel)
  obtain ⟨submitted, hsubmitted⟩ : ∃ talk,
      Ends (manager.answer (.submitJob handle request.job)).run talk (.ok running) :=
    Dialogue.exists_ends_of_toOption answer (by decide +kernel)
  obtain ⟨finished, hfinished⟩ : ∃ talk, Ends (manager.answer (.queryStatus handle)).run talk
      (.ok .finished) := Dialogue.exists_ends_of_toOption answer (by decide +kernel)
  refine ⟨[(Deployment.allocation .default (.ended 1 (.ok ⟨1, 1⟩)), allocated),
    (Deployment.staging .default request ⟨1, 1⟩ (.ok manifest), []),
    (Deployment.cancellation false, []),
    (Deployment.recording (.recordStarted request.job.name manifest) (.ok ()), []),
    (Deployment.creation cluster (.ok handle), created),
    (Deployment.submission .default handle request.job (.ended 1 (.ok running)), submitted),
    (Deployment.cancellation false, []),
    (Deployment.watching .default handle running (.resolved (.ok .succeeded)), []),
    (Supervisor.polled handle 10000 (.ended 1 (.ok .finished)), finished),
    (Supervisor.released handle, []),
    (Deployment.recording (.recordCompleted report) (.error .died), [])], ?_, ?_⟩
  · have hpolls : Ends ((Supervisor.ofConfig .default).pollUntil handle
        (Supervisor.ofConfig .default).deadline Supervisor.burst 0)
        [Supervisor.polled handle 10000 (.ended 1 (.ok .finished))] (true, 1) := by
      rw [Supervisor.pollUntil]
      exact .ask (.done _)
    have hconclude := Supervisor.ends_conclude_iff.2 ⟨_, _, .inl ⟨hpolls, rfl, rfl⟩⟩
    refine .ask (.ask (.ask (.ask (.ask (.ask (.ask (.ask ?_)))))))
    refine Dialogue.ends_bind_iff.2 ⟨[], _, .ok .succeeded, rfl, .done _, ?_⟩
    exact Dialogue.ends_bind_iff.2 ⟨[_, _], [_], _, rfl, hconclude, .ask (.done _)⟩
  · simp only [List.forall_mem_cons, List.not_mem_nil, false_implies, implies_true, and_true]
    exact ⟨Task.Step.talkedTo_bounded htook hallocated, trivial, trivial, trivial,
      Task.Step.talkedTo_background hcreated, Task.Step.talkedTo_bounded htook hsubmitted, trivial,
      trivial, Task.Step.talkedTo_bounded (by decide) hfinished, trivial, trivial⟩

end WordCount

/-- A deployment whose cluster was reported to be over succeeds. If the job failed and the cluster
could not be killed, the program writes its report and fails with the error of teardown. -/
theorem execute_deploy_of_finished :
    (∃ talked : List (Task.Step × Http.Conversation),
      (∀ p ∈ talked, p.1.TalkedTo WordCount.manager p.2) ∧
      Ends (Deployment.run true .default WordCount.request) (talked.map Prod.fst)
        (.ok WordCount.report) ∧
      Ends (execute WordCount.arguments []) (WordCount.trace WordCount.report)
        ⟨reportLines WordCount.report, .success⟩ ∧
      ∃ h, h.applicationId = ⟨1, 1⟩ ∧ Supervisor.released h ∈ talked.map Prod.fst ∧
        ∃ p ∈ talked, ∃ y ∈ p.2, WordCount.manager.ReportedFinal h.applicationId y ∨
          WordCount.manager.KillAccepted h.applicationId y) ∧
    ∃ out, Ends (execute WordCount.arguments []) (WordCount.trace WordCount.unkilledReport) out ∧
      out.lines = ["application:  application_1_0001",
        "staging dir:  /user/jobcluster/application_1_0001",
        "replication:  3 (storage_default)", "outcome:      failed",
        "termination:  running"] ∧
      out.exit = .failure "Teardown: no answer" := by
  have hruns : ∀ r, Ends (execute WordCount.arguments []) (WordCount.trace r)
      (deployOutput (.ok r)) := fun r =>
    (WordCount.deployed r).ends WordCount.parse_arguments rfl
  obtain ⟨talked, hdeployment, htalked⟩ := WordCount.exists_talked
  obtain ⟨-, hcluster, -⟩ := execute_deploy WordCount.arguments [] WordCount.invocation
    WordCount.deployment WordCount.parse_arguments rfl _ _ (hruns WordCount.report)
  obtain ⟨h, -, hid, hreleased, hsaid⟩ := hcluster rfl .default [] WordCount.report
    (WordCount.deployed _) talked hdeployment htalked
  obtain ⟨-, -, hreport, -⟩ := execute_deploy WordCount.arguments [] WordCount.invocation
    WordCount.deployment WordCount.parse_arguments rfl _ _ (hruns WordCount.unkilledReport)
  obtain ⟨hlines, hexit⟩ := hreport (connection WordCount.invocation) .default WordCount.request
    WordCount.unkilledReport (List.mem_of_mem_tail (List.mem_singleton_self _))
  refine ⟨⟨talked, htalked, hdeployment, hruns _, h, hid, hreleased, hsaid⟩,
    _, hruns _, hlines.trans ?_, hexit.trans ?_⟩
  · rfl
  · rfl

end ClusterDeploy.CommandLine
