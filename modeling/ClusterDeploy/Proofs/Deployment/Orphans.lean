import ClusterDeploy.Proofs.Deployment.Recording
import ClusterDeploy.Proofs.Ledger.Inspection
import ClusterDeploy.Proofs.Task.Serving

set_option relaxedAutoImplicit false
set_option autoImplicit false

/-!
# Clusters that are left behind

A deployment on a resource manager asks for a cluster. Once the resource manager has accepted that,
somebody has to know what becomes of the cluster: the resource manager reports that it is over, it
accepts a request to kill it, or the ledger lists the application for inspection. If the deployment
got to know its cluster this is always so. If it did not, because the cluster did not come up, the
deployment relies on one request to kill it; when that is refused nobody knows of the cluster.

## Main definitions

* `Deployment.AccountedFor` — somebody knows what became of a cluster.
* `Deployment.mayBeRunning` — the supervision of a cluster could not see it to its end.
* `Deployment.EndsWell` — what the steps after its creation tell of the end of a cluster.

## Main results

* `Deployment.listed_iff` — the ledger lists an application exactly if its cluster may be running.
* `Deployment.Lived.ends_well` — what is known of the end of a cluster that came up.
* `Deployment.run_accountsForCluster_iff` — when a cluster is accounted for.
* `Deployment.run_losesCluster` — a cluster of which nobody knows.
-/

namespace ClusterDeploy

namespace Deployment

open Dialogue (Ends)

/-- Somebody knows what became of a cluster: the resource manager reported that it is over or
accepted a request to kill it, or the ledger lists its application for inspection. -/
def AccountedFor (rm : ResourceManager) (id : ApplicationId) (later : Http.Conversation)
    (db : Ledger.Database) : Prop :=
  (∃ y ∈ later, rm.ReportedFinal id y) ∨ (∃ y ∈ later, rm.KillAccepted id y) ∨ Ledger.Listed db id

/-- Whether the supervision of a cluster could not see it to its end, if there was one. -/
def mayBeRunning (teardown : Option SupervisionReport) : Bool :=
  teardown.any fun report => report.teardownError.isSome || report.termination == .running

section Accounting

variable {rm : ResourceManager} {config : Config} {job : Job} {application : ApplicationId}
  {m : Manifest} {course life : Task.Course} {result : Except DeployError DeploymentReport}
  {teardown : Option SupervisionReport} {h : ClusterHandle} {said talk : Http.Conversation}
  {db db' : Ledger.Database} {memory : Ledger.Memory}

/-! ## What the ledger lists -/

/-- The end of a deployment is told of its application. -/
lemma Lived.application_closing (hlife : Lived config job application m course result teardown) :
    (closing application teardown result).application = application := by
  cases result with
  | error e => rfl
  | ok report =>
    cases hlife
    rfl

/-- What is told in the end says whether the cluster may be running. -/
lemma Lived.suspects?_closing (hlife : Lived config job application m course result teardown) :
    (closing application teardown result).suspects? = some (mayBeRunning teardown) := by
  cases result with
  | error e => cases teardown <;> rfl
  | ok report =>
    cases hlife with
    | @completed _ _ _ _ _ _ supervision _ _ _ =>
      obtain ⟨termination, _, _⟩ := supervision
      cases termination <;> rfl

/-- **The ledger lists an application exactly if its cluster may be running**, by what it was told
in the end. -/
lemma listed_iff (hlife : Lived config job application m life result teardown)
    (hledger : Ledger.Remembers db Ledger.latestVersion memory)
    {now : Int} {value : (closing application teardown result).Value}
    (hrun : ((closing application teardown result).action now).runOn .writing db =
      (.ok value, db')) :
    Ledger.Listed db' application ↔ mayBeRunning teardown = true := by
  obtain ⟨_, r, hledger', hrecord, hinspect⟩ := hledger.of_suspects? hlife.suspects?_closing hrun
  rw [hlife.application_closing] at hrecord
  rw [hledger'.listed_iff, hrecord, ← hinspect]
  simp

/-! ## The end of a cluster -/

/-- What is known of the end of a cluster after some steps: a poll saw it finished, an attempt to
kill it worked, or its supervision says that it may be running. -/
def EndsWell (h : ClusterHandle) (steps : Task.Course) (report : SupervisionReport) : Prop :=
  (∃ limit ending, Supervisor.polled h limit ending ∈ steps ∧
      ending.within limit = some (.ok .finished)) ∨
    (∃ s ending, Supervisor.killed s h ending ∈ steps ∧
      ending.within s.callTimeout = some (.ok ())) ∨
    mayBeRunning (some report) = true

/-- A cluster that was to be killed was, or it may be running. -/
private lemma endsWell_of_killed (s : Supervisor) (ending : Ending Unit) {steps : Task.Course}
    {report : SupervisionReport} (hmem : Supervisor.killed s h ending ∈ steps)
    (htermination : report.termination = (s.verdict h ending).1) : EndsWell h steps report := by
  by_cases hend : ending.within s.callTimeout = some (.ok ())
  · exact .inr (.inl ⟨s, ending, hmem, hend⟩)
  · obtain ⟨e, -, hverdict⟩ := Supervisor.verdict_of_failure (h := h) hend
    refine .inr (.inr ?_)
    simp [mayBeRunning, htermination, hverdict]

/-- A poll that saw the cluster finished is one of the polls. -/
private lemma exists_polled {polls : Task.Course} {count : Nat}
    (hpolls : Supervisor.Polls h polls true count) :
    ∃ limit ending, Supervisor.polled h limit ending ∈ polls ∧
      ending.within limit = some (.ok .finished) := by
  generalize hfinished : true = finished at hpolls
  induction hpolls with
  | last limit ending =>
    refine ⟨limit, ending, List.mem_singleton_self _, ?_⟩
    unfold Supervisor.sawFinished at hfinished
    split at hfinished
    · assumption
    · exact absurd hfinished.symm Bool.false_ne_true
  | again _ _ ih =>
    obtain ⟨limit, ending, hmem, hwithin⟩ := ih hfinished
    exact ⟨limit, ending, by simp [hmem], hwithin⟩

/-- **What is known of the end of a cluster.** Either none was created, or it is known what became
of the one that was.

**Proof sketch.** A case for each way in which a cluster comes to its end. On all but the last one
it is killed. On the last one it is killed unless a poll saw it finished. -/
lemma Lived.ends_well (hlife : Lived config job application m course result teardown) :
    (course.handles = [] ∧ teardown = none) ∨
      ∃ h steps report, course = creation (Launch.request config job m) (.ok h) :: steps ∧
        course.handles ≠ [] ∧ teardown = some report ∧ EndsWell h steps report := by
  cases hlife with
  | uncreated hcreated =>
    obtain ⟨mishap, rfl⟩ := Task.exists_mishap_of_settle hcreated
    exact .inl ⟨rfl, rfl⟩
  | @unsubmitted h _ _ _ _ _ hrun =>
    obtain ⟨ending, rfl, rfl⟩ := Supervisor.ends_terminateNow_iff.1 hrun
    exact .inr ⟨h, _, _, rfl, by simp, rfl,
      endsWell_of_killed (Supervisor.ofConfig config) ending (by simp) rfl⟩
  | @cancelled h _ _ _ _ _ hrun =>
    obtain ⟨ending, rfl, rfl⟩ := Supervisor.ends_terminateNow_iff.1 hrun
    exact .inr ⟨h, _, _, rfl, by simp, rfl,
      endsWell_of_killed (Supervisor.ofConfig config) ending (by simp) rfl⟩
  | @unwatched h _ _ _ _ _ _ _ _ hrun =>
    obtain ⟨ending, rfl, rfl⟩ := Supervisor.ends_terminateNow_iff.1 hrun
    exact .inr ⟨h, _, _, rfl, by simp, rfl,
      endsWell_of_killed (Supervisor.ofConfig config) ending (by simp) rfl⟩
  | @completed h _ _ _ _ conclusion supervision _ _ hrun =>
    refine .inr ⟨h, _, supervision, rfl, by simp, rfl, ?_⟩
    obtain ⟨polls, count, ⟨hpolls, rfl, rfl⟩ | ⟨hpolls, ending, rfl, rfl⟩⟩ :=
      Supervisor.ends_conclude_iff.1 hrun
    · obtain ⟨count', hgrammar, -⟩ := Supervisor.polls_of_ends _ h _ _ _ hpolls
      obtain ⟨limit, ending, hmem, hwithin⟩ := exists_polled hgrammar
      exact .inl ⟨limit, ending, by simp [hmem], hwithin⟩
    · exact endsWell_of_killed (Supervisor.ofConfig config) ending (by simp) rfl

variable {db'' : Ledger.Database}

/-- What is accounted for stays so, whatever else is said. -/
lemma AccountedFor.mono {id : ApplicationId} {later : Http.Conversation}
    (h : AccountedFor rm id said db) (hsub : ∀ y ∈ said, y ∈ later) :
    AccountedFor rm id later db := by
  rcases h with ⟨y, hy, hfinal⟩ | ⟨y, hy, hkill⟩ | hlisted
  · exact .inl ⟨y, hsub y hy, hfinal⟩
  · exact .inr (.inl ⟨y, hsub y hy, hkill⟩)
  · exact .inr (.inr hlisted)

/-- **A cluster that came up is accounted for**, in what was said after it was created and in what
the ledger lists. -/
lemma accountedFor_of_endsWell {steps : Task.Course} {report : SupervisionReport}
    (hserved : Task.Served rm steps said db db') (hends : EndsWell h steps report)
    (hlisted : mayBeRunning (some report) = true → Ledger.Listed db'' h.applicationId) :
    AccountedFor rm h.applicationId said db'' := by
  rcases hends with ⟨limit, ending, hmem, hwithin⟩ | ⟨s, ending, hmem, hwithin⟩ | hrunning
  · obtain ⟨talk, db₁, db₂, hanswers, htalk⟩ := hserved.exists_answers hmem
    have hrun : Ends (rm.queryStatus h).run talk (.ok .finished) :=
      Task.ends_of_answers_bounded (.queryStatus h) hanswers hwithin
    obtain ⟨y, hy, hfinal⟩ := ResourceManager.final_of_ends_queryStatus hrun
    exact .inl ⟨y, htalk y hy, hfinal⟩
  · obtain ⟨talk, db₁, db₂, hanswers, htalk⟩ := hserved.exists_answers hmem
    have hrun : Ends (rm.forceKill h).run talk (.ok ()) :=
      Task.ends_of_answers_bounded (.forceKill h) hanswers hwithin
    obtain ⟨y, hy, hkill⟩ := ResourceManager.kill_of_ends_forceKill hrun
    exact .inr (.inl ⟨y, htalk y hy, hkill⟩)
  · exact .inr (.inr (hlisted hrunning))

/-! ## The whole deployment -/

/-- What is said after the last element of some kind is said after every element of that kind. -/
private lemma mem_later {α : Type} {p : α → Prop} {l₁ l₂ before later : List α} {x : α}
    (hsplit : l₁ ++ l₂ = before ++ x :: later) (hnot : ∀ y ∈ l₂, ¬p y) (hx : p x) :
    ∀ y ∈ l₂, y ∈ later := by
  rcases List.append_eq_append_iff.1 hsplit with ⟨mid, -, hl₂⟩ | ⟨mid, -, hlater⟩
  · have hmem : x ∈ l₂ := by simp [hl₂]
    exact absurd hx (hnot x hmem)
  · cases mid with
    | nil =>
      have hmem : x ∈ l₂ := by simp [← hlater.trans (List.nil_append l₂)]
      exact absurd hx (hnot x hmem)
    | cons z mid =>
      obtain ⟨rfl, rfl⟩ := List.cons.inj hlater
      exact fun y hy => List.mem_append_right mid hy

/-- How a deployment that creates a cluster is served: with some first words, then with what is said
from the creation of the cluster to its end. Its application is listed exactly if the cluster may be
running.

**Proof sketch.** Of the ways in which a deployment ends only the last one creates a cluster. The
ledger is told of the start before that, and of the end after it.
-/
private lemma served_of_creation {request : DeploymentRequest} {cluster : ClusterRequest}
    {created : Attempt ClusterHandle} (hrun : Ends (run true config request) course result)
    (hhistory : Ledger.History db) (hserved : Task.Served rm course said db db')
    (hcreation : creation cluster created ∈ course) :
    ∃ m life teardown first lived db₁ db₂,
      Lived config request.job m.applicationId m life result teardown ∧
      cluster.applicationId = m.applicationId ∧ course.handles = life.handles ∧
      said = first ++ lived ∧ Task.Served rm life lived db₁ db₂ ∧
      (Ledger.Listed db' m.applicationId ↔ mayBeRunning teardown = true) := by
  cases ran_of_ends hrun with
  | unallocated _ => simp at hcreation
  | unstaged _ _ => simp at hcreation
  | cancelled _ => simp at hcreation
  | unrecorded _ hopened =>
    obtain ⟨answer, rfl, -⟩ := ends_record_true_iff.1 hopened
    simp at hcreation
  | @lived ending application m _ life _ _ teardown _ _ hopened hlife hclosed =>
    obtain ⟨opened, rfl, -⟩ := ends_record_true_iff.1 hopened
    obtain ⟨answer, rfl, -⟩ := ends_record_true_iff.1 hclosed
    obtain ⟨talk₁, _, db₁, rfl, hallocation, hserved⟩ := Task.served_cons_iff.1 hserved
    obtain ⟨talk₂, _, db₂, rfl, hstaging, hserved⟩ := Task.served_cons_iff.1 hserved
    obtain ⟨talk₃, _, db₃, rfl, hcancellation, hserved⟩ := Task.served_cons_iff.1 hserved
    obtain ⟨talk₄, _, db₄, rfl, hopening, hserved⟩ := Task.served_append_iff.1 hserved
    obtain ⟨lived, talk₅, db₅, rfl, hlived, hlast⟩ := Task.served_append_iff.1 hserved
    obtain ⟨rfl, now, _, hstarted⟩ := Task.runOn_of_served _ hopening
    obtain ⟨rfl, now', _, hended⟩ := Task.runOn_of_served _ hlast
    -- Only the start and the end are told the ledger; all other steps leave its database alone.
    obtain rfl := hallocation.db_eq rfl
    obtain rfl := hstaging.db_eq rfl
    obtain rfl := hcancellation.db_eq rfl
    obtain rfl := Task.applicationId_of_answers hstaging
    obtain ⟨created', rest, rfl, hrest⟩ := hlife.eq_creation
    obtain rfl : db₅ = db₄ := hlived.db_eq fun x hx => by
      rcases List.mem_cons.1 hx with rfl | hx
      · rfl
      · exact (hrest x hx).2
    obtain ⟨memory, hledger⟩ := Ledger.remembers_of_history hhistory
    obtain ⟨seconds, -, -, hledger⟩ := hledger.action hstarted
    refine ⟨m, _, teardown, talk₁ ++ (talk₂ ++ talk₃), lived, _, _, hlife, ?_, ?_, ?_, hlived,
      listed_iff hlife hledger hended⟩
    · have hnone : rest.filter Task.Step.isCreation = [] :=
        List.filter_eq_nil_iff.2 fun x hx => Bool.eq_false_iff.1 (hrest x hx).1
      have hmem := List.mem_filter.2
        ⟨hcreation, (rfl : (creation cluster created).isCreation = true)⟩
      obtain ⟨hcluster, -⟩ :
          cluster = Launch.request config request.job m ∧ HEq created created' := by
        simpa [List.filter_cons, hnone] using hmem
      rw [hcluster]
      rfl
    · simp
    · simp

/-- **When a cluster is accounted for.** Let a deployment on a resource manager, with a ledger that
fails no call, come to its end, and let the resource manager accept its request for a cluster.
Whatever else is answered or left unanswered, somebody knows what became of the cluster exactly if
the deployment got to know its cluster, or the resource manager later reported that it is over or
accepted a request to kill it. So a cluster is lost exactly if it does not come up, is not reported
to be over, and the one request to kill it is refused or not answered: the ledger does not list it.

**Proof sketch.** If the deployment got to know its cluster, a poll saw it finished, an attempt to
kill it worked, or its supervision says that it may be running (`Lived.ends_well`); the first two
are answers of the resource manager (`accountedFor_of_endsWell`), which come after the one to the
request for the cluster because only its creation asks for one. If it did not, the ledger is told
that there was no cluster, and lists nothing (`listed_iff`). -/
theorem run_accountsForCluster_iff (rm : ResourceManager) (config : Config)
    (request : DeploymentRequest) (course : Task.Course)
    (result : Except DeployError DeploymentReport) (said : Http.Conversation)
    (db db' : Ledger.Database) (hrun : Ends (run true config request) course result)
    (hhistory : Ledger.History db) (hserved : Task.Served rm course said db db')
    (cluster : ClusterRequest) (created : Attempt ClusterHandle)
    (hcreation : creation cluster created ∈ course) (before later : Http.Conversation)
    (x : ResourceManager.Exchange) (hsaid : said = before ++ x :: later)
    (hx : rm.Submitted cluster x) :
    AccountedFor rm cluster.applicationId later db' ↔
      course.handles ≠ [] ∨ (∃ y ∈ later, rm.ReportedFinal cluster.applicationId y) ∨
        ∃ y ∈ later, rm.KillAccepted cluster.applicationId y := by
  obtain ⟨m, life, teardown, first, lived, db₁, db₂, hlife, hcluster, hhandles, rfl, hlived,
    hlisted⟩ := served_of_creation hrun hhistory hserved hcreation
  rw [hcluster, hhandles]
  obtain ⟨created', others, hlifeEq, hothers⟩ := hlife.eq_creation
  rcases hlife.ends_well with ⟨hnone, rfl⟩ | ⟨h, steps, report, rfl, hsome, rfl, hends⟩
  · -- The ledger was told that there was no cluster.
    have hnot : ¬Ledger.Listed db' m.applicationId := by
      rw [hlisted]
      exact Bool.false_ne_true
    simp [AccountedFor, hnone, hnot]
  · refine ⟨fun _ => .inl hsome, fun _ => ?_⟩
    obtain ⟨-, rfl⟩ := List.cons.inj hlifeEq
    obtain ⟨talk, rest, db₃, rfl, hcreated, hsteps⟩ := Task.served_cons_iff.1 hlived
    have hcreate : Ends (rm.createCluster (Launch.request config request.job m)).run talk (.ok h) :=
      Task.ends_of_answers_background (.createCluster _) hcreated
    have hid : h.applicationId = m.applicationId :=
      ResourceManager.applicationId_of_ends_createCluster hcreate
    -- The later steps ask for no cluster, so what is said in them is said after `x`.
    have hsilent : ∀ y ∈ rest, ¬ResourceManager.IsSubmission y :=
      hsteps.not_isSubmission fun y hy => (hothers y hy).1
    have hlater : ∀ y ∈ rest, y ∈ later := by
      rw [← List.append_assoc] at hsaid
      exact mem_later hsaid hsilent hx.isSubmission
    rw [← hid] at hlisted ⊢
    exact (accountedFor_of_endsWell hsteps hends hlisted.2).mono hlater

end Accounting

/-! ## A cluster that is lost -/

namespace Lost

/-- The resource manager. -/
def manager : ResourceManager := .ofUrl "http://rm" ""

/-- A job with a single file. -/
def request : DeploymentRequest := ⟨default, "dist.jar", []⟩

/-- The application of the cluster. -/
def application : ApplicationId := ⟨1, 1⟩

/-- The staged file. -/
def manifest : Manifest :=
  let dir := Storage.stagingDir "/user" Config.default.stagingPrefix application
  ⟨application, dir, [⟨⟨"dist.jar", "dist.jar", .bundle⟩, Storage.remotePath dir "dist.jar", "", 0,
    0⟩], .storageDefault 1⟩

/-- The request for the cluster. -/
def cluster : ClusterRequest := Launch.request .default request.job manifest

/-- Nobody could tell whether the cluster is up. -/
def failure : DeployError :=
  ResourceManager.statusFailure "application report" 500 (some [])

/-- What the deployment gives. -/
def error : DeployError :=
  Rollout.asDeploymentError (failure.attributeTo (some application) .clusterCreation)

/-- A migrated ledger. -/
def migrated : Ledger.Database := ⟨some [1, 2], some ⟨true, []⟩, some [], true⟩

/-- The ledger after the start of the deployment. -/
def opened : Ledger.Database :=
  ((Ledger.Call.action 0 (.recordStarted request.job.name manifest)).runOn .writing migrated).2

/-- The ledger after the end of the deployment. -/
def closed : Ledger.Database :=
  ((Ledger.Call.action 0 (.recordAborted application error none none)).runOn .writing opened).2

/-- The course of the deployment. -/
def course : Task.Course :=
  [allocation .default (.ended 1 (.ok application)),
    staging .default request application (.ok manifest), cancellation false,
    recording (.recordStarted request.job.name manifest) (.ok ()),
    creation cluster (.error (.failed failure)),
    recording (.recordAborted application error none none) (.ok ())]

/-- A request to the resource manager, and what came back for it. -/
def exchange (method part : String) (content : Option Http.Content) (reply : Http.Reply) :
    ResourceManager.Exchange :=
  ⟨.exchange ⟨⟨.name "rm", 80⟩, method, "/ws/v1/cluster" ++ part, content⟩, (1, reply)⟩

/-- The application id is given out. -/
def allocated : ResourceManager.Exchange :=
  exchange "POST" "/apps/new-application" none
    (.answered 200 (some (Utf8.encode "\x7b\"application-id\":\"application_1_0001\"\x7d")))

/-- The request for the cluster is accepted. -/
def accepted : ResourceManager.Exchange :=
  exchange "POST" "/apps" (some (ResourceManager.contentOf (manager.submission cluster)))
    (.answered 202 (some []))

/-- There is no report of the application. -/
def unreported : ResourceManager.Exchange :=
  exchange "GET" "/apps/application_1_0001" none (.answered 500 (some []))

/-- There is some answer to the request to kill the application. -/
def killed (reply : Http.Reply) : ResourceManager.Exchange :=
  exchange "PUT" "/apps/application_1_0001/state" (some (ResourceManager.contentOf
    (ResourceManager.object [("state", .string "KILLED")]))) reply

/-- The resource manager allocates an application id. -/
private lemma ends_allocated : Ends manager.newApplication.run [allocated] (.ok application) := by
  have hbody : Http.readBody (Json.only "application-id" Json.text)
      (Utf8.encode "\x7b\"application-id\":\"application_1_0001\"\x7d") =
        some "application_1_0001" := by decide +kernel
  have hparse : ApplicationId.parse "application_1_0001" = some application := by decide +kernel
  refine Dialogue.ends_run_bind_ok_iff.2 ⟨[allocated], [], "application_1_0001", rfl,
    ResourceManager.ends_read_iff.2 ⟨_, Http.ends_send_of_target (by decide +kernel), ?_⟩, ?_⟩
  · simp [Http.Response.ofReply, ResourceManager.readResponse, hbody]
  · rw [hparse]
    exact .done _

/-- The staging of the empty request. -/
private lemma ends_staged : ∃ asked,
    Ends (Staging.stage application Config.default.stagingPrefix request.entries none).run asked
      (.ok manifest) := by
  have hentries : request.entries = [⟨"dist.jar", "dist.jar", .bundle⟩] := by decide +kernel
  have hname : Staging.checkName [] ⟨"dist.jar", "dist.jar", .bundle⟩ = none := by decide +kernel
  let path := Storage.remotePath manifest.stagingDir "dist.jar"
  refine ⟨[⟨.isFile "dist.jar", true⟩, ⟨.storage .homeDirectory, .ok "/user"⟩,
    ⟨.storage .defaultReplication, .ok 1⟩, ⟨.digest "dist.jar", .ok ""⟩,
    ⟨.storage (.upload "dist.jar" path), .ok ()⟩,
    ⟨.storage (.stat path), .ok (some ⟨0, 1, 0⟩)⟩], ?_⟩
  rw [hentries]
  unfold Staging.stage
  simp only [Staging.validate, hname]
  exact .ask (.ask (.ask (.ask (.ask (.ask (.done _))))))

/-- The resource manager accepts the cluster. -/
private lemma submitted_accepted : manager.Submitted cluster accepted :=
  ⟨some [], Http.ends_send_of_target (by decide +kernel)⟩

/-- The text of the application id. -/
private lemma display_cluster : cluster.applicationId.display = "application_1_0001" := by
  decide +kernel

/-- There is some answer to the request to kill the application. -/
private lemma ends_killed (reply : Http.Reply) :
    Ends (Http.send "PUT" (manager.clusterUrl s!"/apps/{cluster.applicationId.display}/state") []
        (some (ResourceManager.contentOf (ResourceManager.object [("state", .string "KILLED")]))))
      [killed reply] (.ofReply reply) := by
  rw [display_cluster]
  exact Http.ends_send_of_target (by decide +kernel)

/-- The cluster does not come up, whatever comes of the request to kill it. -/
private lemma ends_created (reply : Http.Reply) :
    Ends (manager.createCluster cluster).run [accepted, unreported, killed reply]
      (.error failure) := by
  have hreport : Ends (manager.awaitRunning cluster cluster.startupTimeout) [unreported]
      (.error failure) := by
    rw [ResourceManager.awaitRunning, display_cluster]
    exact Dialogue.ends_bind_iff.2 ⟨[unreported], [], (1, .failure 500 (some [])), rfl,
      Http.ends_sendTimed_of_target (by decide +kernel), .done _⟩
  have hkill := ResourceManager.ends_kill_iff.2 ⟨.ofReply reply, ends_killed reply, rfl⟩
  obtain ⟨body, haccepted⟩ := submitted_accepted
  refine Dialogue.ends_run_lift_bind_iff.2 ⟨[accepted], [unreported, killed reply], _, rfl,
    haccepted, ?_⟩
  refine Dialogue.ends_run_lift_bind_iff.2 ⟨[unreported], [killed reply], _, rfl, hreport, ?_⟩
  exact Dialogue.ends_run_lift_bind_iff.2 ⟨[killed reply], [], _, rfl, hkill, .done _⟩

/-- What is said to the resource manager, up to the answer to the request to kill the cluster. -/
def said (reply : Http.Reply) : Http.Conversation :=
  [allocated, accepted, unreported, killed reply]

/-- The course is one of the deployment. -/
private lemma ends_course : Ends (run true .default request) course (.error error) :=
  .ask (.ask (.ask (.ask (.ask (.ask (.done _))))))

/-- A ledger that was brought up to date has a history. -/
private lemma history_migrated : Ledger.History migrated :=
  .migrated Ledger.runOn_applyMigration_empty

/-- The ledger records the start. -/
private lemma runOn_opened : (Ledger.Call.action 0
    (.recordStarted request.job.name manifest)).runOn .writing migrated = (.ok (), opened) :=
  rfl

/-- The ledger records the end. -/
private lemma runOn_closed : (Ledger.Call.action 0
    (.recordAborted application error none none)).runOn .writing opened = (.ok (), closed) :=
  rfl

/-- The ledger was told that there was no cluster. -/
private lemma not_listed_closed : ¬Ledger.Listed closed application := by
  have hquiet : (Ledger.Call.recordAborted application error none none).suspects? = some false :=
    rfl
  obtain ⟨memory, hmigrated⟩ := Ledger.remembers_of_history history_migrated
  obtain ⟨seconds, -, -, hopened⟩ := hmigrated.action runOn_opened
  obtain ⟨_, r, hclosed, hrecord, hinspect⟩ := hopened.of_suspects? hquiet runOn_closed
  intro hlisted
  obtain ⟨r', hrecord', hinspect'⟩ := hclosed.listed_iff.1 hlisted
  obtain rfl := Option.some.inj (hrecord.symm.trans hrecord')
  exact Bool.false_ne_true (hinspect.symm.trans hinspect')

/-- The course is served, whatever comes of the request to kill the cluster. -/
private lemma served_course (reply : Http.Reply) :
    Task.Served manager course (said reply) migrated closed := by
  obtain ⟨asked, hstaged⟩ := ends_staged
  have hallocated : Ends (manager.answer .newApplication).run [allocated] (.ok application) :=
    ends_allocated
  have htook : 1 < Config.default.askTimeout := by decide
  refine Task.served_cons_iff.2 ⟨[allocated], _, migrated, rfl, .inTime htook hallocated, ?_⟩
  refine Task.served_cons_iff.2 ⟨[], _, migrated, rfl, .staging hstaged, ?_⟩
  refine Task.served_cons_iff.2 ⟨[], _, migrated, rfl, .isCancelled, ?_⟩
  refine Task.served_cons_iff.2 ⟨[], _, opened, rfl, .ledger runOn_opened, ?_⟩
  refine Task.served_cons_iff.2 ⟨[accepted, unreported, killed reply], [], opened, rfl,
    .background (r := .error failure) (ends_created reply), ?_⟩
  exact Task.served_cons_iff.2 ⟨[], [], closed, rfl, .ledger runOn_closed, .nil⟩

end Lost

/-- **A cluster that is lost.** The request for it is accepted, the report on it fails and so does
the request to kill it. Then the deployment gives a failure, and its ledger, which failed no call,
does not list the application for inspection. -/
theorem run_losesCluster :
    let refused : Http.Reply := .answered 500 (some [])
    let later : Http.Conversation := [Lost.unreported, Lost.killed refused]
    Ends (run true .default Lost.request) Lost.course (.error Lost.error) ∧
      Ledger.History Lost.migrated ∧
      Task.Served Lost.manager Lost.course (Lost.allocated :: Lost.accepted :: later) Lost.migrated
        Lost.closed ∧
      creation Lost.cluster (.error (.failed Lost.failure)) ∈ Lost.course ∧
      Lost.manager.Submitted Lost.cluster Lost.accepted ∧
      ¬AccountedFor Lost.manager Lost.cluster.applicationId later Lost.closed := by
  intro refused later
  refine ⟨Lost.ends_course, Lost.history_migrated, Lost.served_course refused,
    by simp [Lost.course], Lost.submitted_accepted, ?_⟩
  have hrefused : ∀ body, Http.Response.ofReply refused ≠ .success body := nofun
  rintro (⟨y, hy, hfinal⟩ | ⟨y, hy, hkill⟩ | hlisted)
  · obtain rfl | rfl : y = Lost.unreported ∨ y = Lost.killed refused := by simpa [later] using hy
    · exact ResourceManager.not_reportedFinal_of_refused hrefused hfinal
    · exact ResourceManager.not_reportedFinal_of_refused hrefused hfinal
  · obtain rfl | rfl : y = Lost.unreported ∨ y = Lost.killed refused := by simpa [later] using hy
    · exact ResourceManager.not_killAccepted_of_refused hrefused hkill
    · exact ResourceManager.not_killAccepted_of_refused hrefused hkill
  · exact Lost.not_listed_closed hlisted

/-- The same cluster is accounted for if the request to kill it is accepted. -/
theorem run_accountsForCluster_iff_of_killed :
    let later : Http.Conversation :=
      [Lost.unreported, Lost.killed (.answered 200 (some []))]
    AccountedFor Lost.manager Lost.cluster.applicationId later Lost.closed := by
  intro later
  refine (run_accountsForCluster_iff Lost.manager .default Lost.request Lost.course _
    (Lost.said (.answered 200 (some []))) Lost.migrated Lost.closed Lost.ends_course
    Lost.history_migrated (Lost.served_course _) Lost.cluster (.error (.failed Lost.failure))
    (by simp [Lost.course]) [Lost.allocated] later Lost.accepted rfl Lost.submitted_accepted).2
    (.inr (.inr ⟨Lost.killed (.answered 200 (some [])), by simp [later], some [], ?_⟩))
  exact Lost.ends_killed _

end Deployment

end ClusterDeploy
