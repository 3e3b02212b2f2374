import ClusterDeploy.Proofs.Deployment.Calls
import ClusterDeploy.Proofs.Deployment.Recording
import ClusterDeploy.Proofs.Launch
import ClusterDeploy.Proofs.Platform.Submission
import ClusterDeploy.Proofs.Staging.Copying

set_option relaxedAutoImplicit false
set_option autoImplicit false

/-!
# What a cluster is launched from

A cluster is launched from the files that were staged for it, and from nothing else. This is
followed from the request for the deployment to the bytes that are sent to the resource manager.

## Main definitions

* `Deployment.LaunchedFromStaged` — how the request for a cluster fits to what was asked before.

## Main results

* `Deployment.prologue_of_creation` — what a deployment did before it creates a cluster.
* `Deployment.run_launchesStaged` — a cluster is launched from exactly the staged files.
-/

namespace ClusterDeploy.Deployment

open Dialogue (Ends Reaches)
open ResourceManager (LocalResource)
open Staging (Copied WritesNothing)

/-- How the request for a cluster fits to what was asked before. -/
structure LaunchedFromStaged (config : Config) (request : DeploymentRequest)
    (asked : List Work.Exchange) (cluster : ClusterRequest) : Prop where
  /-- The artifacts are the bundle, the libraries and the jars of the job, in this order. -/
  entries : cluster.artifacts.map (·.entry) =
    ArtifactEntry.ofPath .bundle request.bundle ::
      (request.libraries.map (.ofPath .library) ++ request.job.jars.map (.ofPath .userJar))
  /-- Their names are different from each other. -/
  distinct : (cluster.artifacts.map (·.entry.remoteName)).Nodup
  /-- Every name on a classpath is that of one artifact. -/
  named : ∀ name ∈ cluster.systemClasspath ++ cluster.userClasspath,
    ∃! a, a ∈ cluster.artifacts ∧ a.entry.remoteName = name
  /-- Every artifact is on one classpath, once. -/
  placed : ∀ a ∈ cluster.artifacts,
    (cluster.systemClasspath ++ cluster.userClasspath).count a.entry.remoteName = 1
  /-- They lie in the staging directory that the cluster is told. -/
  path : ∀ a ∈ cluster.artifacts,
    a.remotePath = Storage.remotePath cluster.stagingDir a.entry.remoteName
  /-- The artifacts were copied one after the other, and nothing else was. -/
  copied : ∃ opening parts closing, asked = opening ++ parts.flatten ++ closing ∧
    (∀ x ∈ opening ++ closing, WritesNothing x) ∧
      List.Forall₂ (Copied config.replication) cluster.artifacts parts

section Prologue

variable {hasLedger : Bool} {config : Config} {request : DeploymentRequest}
  {before rest : Task.Course} {cluster : ClusterRequest} {held : Option ClusterHandle}
  {created : Attempt ClusterHandle} {result : Except DeployError DeploymentReport}

/-- No step of a record creates a cluster. -/
lemma not_isCreation_of_ends_record {application : ApplicationId} {call : Ledger.Call}
    {course : Task.Course} {r : Except DeployError Unit}
    (hrun : Ends (record hasLedger application call) course r) :
    ∀ x ∈ course, x.isCreation = false := by
  intro x hx
  obtain ⟨answer, rfl⟩ := exists_answer_of_mem_record hrun hx
  rfl

/-- **What a deployment did before it creates a cluster**: there is an application id, the artifacts
were staged, the deployment was not seen cancelled, and its start was recorded. -/
lemma prologue_of_creation (hran : Ran hasLedger config request
      (before ++ ⟨.background (.platform (.createCluster cluster)) held, created⟩ :: rest) result) :
    ∃ ending application m opening, ending.within config.askTimeout = some (.ok application) ∧
      Ends (record hasLedger m.applicationId (.recordStarted request.job.name m)) opening
        (.ok ()) ∧
      before = allocation config ending :: staging config request application (.ok m) ::
        cancellation false :: opening ∧
      cluster = Launch.request config request.job m := by
  generalize hcourse : before ++ _ :: rest = course at hran
  have hnone : ∀ {course : Task.Course}, (∀ x ∈ course, x.isCreation = false) →
      before ++ ⟨.background (.platform (.createCluster cluster)) held, created⟩ :: rest ≠ course :=
    fun hsteps hsplit => Bool.false_ne_true
      ((hsteps _ (hsplit ▸ List.mem_append_right _ List.mem_cons_self)).symm.trans rfl)
  cases hran with
  | unallocated _ => exact absurd hcourse (hnone (by simp))
  | unstaged _ _ => exact absurd hcourse (hnone (by simp))
  | cancelled _ => exact absurd hcourse (hnone (by simp))
  | unrecorded _ hopened =>
    refine absurd hcourse (hnone ?_)
    simpa using not_isCreation_of_ends_record hopened
  | @lived ending application m opening life last _ _ _ hallocated hopened hlife hclosed =>
    obtain ⟨created', more, rfl, hmore⟩ := hlife.eq_creation
    have hprologue : ∀ x ∈ allocation config ending :: staging config request application (.ok m) ::
        cancellation false :: opening, x.isCreation = false := by
      simpa using not_isCreation_of_ends_record hopened
    have hlast : ∀ x ∈ more ++ last, x.isCreation = false := List.forall_mem_append.2
      ⟨fun x hx => (hmore x hx).1, not_isCreation_of_ends_record hclosed⟩
    obtain rfl := eq_of_split hprologue hlast hcourse.symm rfl
    obtain ⟨hstep, -⟩ := List.cons.inj (List.append_cancel_left hcourse)
    cases hstep
    exact ⟨ending, application, m, opening, Task.settleWithin_eq_ok_iff.1 hallocated, hopened, rfl,
      rfl⟩

/-- What is told before a cluster is created writes nothing. -/
lemma writesNothing_of_does {application : ApplicationId} {m : Manifest} {opening : Task.Course}
    {asked : List Work.Exchange}
    (hopened : Ends (record hasLedger application (.recordStarted request.job.name m)) opening
      (.ok ()))
    (hdoes : Task.Does (cancellation false :: opening) asked) : ∀ x ∈ asked, WritesNothing x := by
  have hreports : ∀ x ∈ cancellation false :: opening, x.IsReport := by
    refine List.forall_mem_cons.2 ⟨(Task.Step.isPlatform_of_idle rfl).isReport, fun x hx => ?_⟩
    obtain ⟨answer, rfl⟩ := exists_answer_of_mem_record hopened hx
    exact mayFollow_recordStarted.1
  intro x hx localPath path hquestion
  rcases hdoes.of_reports hreports hx with ⟨call, answer, rfl⟩ | ⟨call, answer, _, _, rfl, -⟩
  · exact nomatch hquestion
  · exact nomatch hquestion

end Prologue

/-- **A cluster is launched from exactly the staged files.** Whatever the collaborators of a
deployment do, whenever it comes to the creation of a cluster: the artifacts of the request are the
bundle, the libraries and the jars, in this order and with different names; every name on a
classpath is that of exactly one artifact, and every artifact is on exactly one classpath, once; and
the artifacts were copied one after the other, each from its own local file, and nothing else was.
The document that a resource manager is sent then names exactly these artifacts in this order, each
with its name, the path to which it was copied, and the size and the time that the storage told of
this path after the copy. If the URL of the resource manager can be read, the creation does not come
to an end before the document was sent.

**Proof sketch.** Before a cluster is created staging came to its end (`prologue_of_creation`), and
what it asked fits to its manifest (`Staging.staged_of_ends`). The request for the cluster is made
of this manifest: its classpaths share out the artifacts (`Launch.classpath_perm`), and its document
names them (`ResourceManager.asksFor_of_reaches`) and is the first thing that is said
(`ResourceManager.exists_submission_of_ends`). -/
theorem run_launchesStaged (hasLedger : Bool) (config : Config) (request : DeploymentRequest)
    (before : Task.Course) (cluster : ClusterRequest) (held : Option ClusterHandle)
    (next : Attempt ClusterHandle → Task (Except DeployError DeploymentReport))
    (asked : List Work.Exchange)
    (hreaches : Reaches (run hasLedger config request) before
      (.ask (.background (.platform (.createCluster cluster)) held) next))
    (hdoes : Task.Does before asked) :
    LaunchedFromStaged config request asked cluster ∧
      ∀ (rm : ResourceManager) (said : Http.Conversation),
        (∀ left, Reaches (rm.createCluster cluster).run said left →
          rm.AsksFor (cluster.artifacts.map (LocalResource.ofArtifact rm)) said) ∧
        ((Url.parse (rm.clusterUrl "/apps")).isSome = true →
          ∀ created, Ends (rm.createCluster cluster).run said created →
            ∃ x ∈ said.head?, ResourceManager.IsSubmission x) := by
  refine ⟨?_, fun rm said => ⟨fun left => ResourceManager.asksFor_of_reaches,
    fun hurl created => ResourceManager.exists_submission_of_ends hurl⟩⟩
  obtain ⟨later, result, hleft, hends⟩ := Dialogue.exists_ends_of_reaches hreaches
  obtain ⟨created, rest, rfl, -⟩ := Dialogue.ends_ask_iff.1 hleft
  obtain ⟨ending, application, m, opening, hallocated, hopened, rfl, rfl⟩ :=
    prologue_of_creation (ran_of_ends hends)
  obtain ⟨work, rfl, hwork⟩ := Task.exists_of_does_bounded .newApplication hdoes hallocated
  obtain ⟨hnil, -⟩ | ⟨first, told, rfl, hstaged, htold⟩ := Task.does_background_iff.1 hwork
  · exact nomatch hnil
  obtain ⟨hentries, hdistinct, hpath, before, parts, rfl, hbefore, hparts⟩ :=
    Staging.staged_of_ends hstaged
  refine ⟨hentries, hdistinct, fun name => Launch.existsUnique_of_mem_classpath hdistinct,
    fun a => Launch.count_classpath _ hdistinct, hpath, ?_⟩
  refine ⟨⟨.platform .newApplication, .ok application⟩ :: before, parts, told, by simp, ?_, hparts⟩
  refine List.forall_mem_append.2 ⟨List.forall_mem_cons.2 ⟨?_, hbefore⟩,
    writesNothing_of_does hopened htold⟩
  exact fun localPath path hquestion => nomatch hquestion

namespace Sorting

/-! The artifacts of a job with a library and a jar of its own. -/

/-- A request for a job with a library and a jar. -/
def request : DeploymentRequest where
  job := ⟨"sort", "sort", 1, [], ["build/sort.jar"]⟩
  bundle := "dist/cluster.zip"
  libraries := ["lib/util.jar"]

/-- What the files and the storage answer. -/
def answer : (q : Work.Question) → Work.Answer q
  | .isFile _ => true
  | .digest path => .ok path
  | .storage .homeDirectory => .ok "/user/me"
  | .storage .defaultReplication => .ok 3
  | .storage (.upload _ _) => .ok ()
  | .storage (.setReplication _ _) => .ok ()
  | .storage (.stat _) => .ok (some ⟨100, 3, 1700⟩)
  | .storage (.deleteRecursive _) => .ok false
  | .platform _ => .error .died
  | .ledger _ => .error .died

/-- A file in the directory of the application. -/
def staged (role : ArtifactRole) (path name : String) : StagedArtifact :=
  ⟨⟨path, name, role⟩, "/user/me/.jobcluster/application_1_0001/" ++ name, path, 100, 1700⟩

/-- The manifest of the artifacts. -/
def manifest : Manifest where
  applicationId := ⟨1, 1⟩
  stagingDir := "/user/me/.jobcluster/application_1_0001"
  artifacts := [staged .bundle "dist/cluster.zip" "cluster.zip",
    staged .library "lib/util.jar" "util.jar", staged .userJar "build/sort.jar" "sort.jar"]
  replication := .storageDefault 3

/-- The request for the cluster. -/
def cluster : ClusterRequest :=
  Launch.request .default request.job manifest

end Sorting

/-- The cluster of a job with three files. -/
theorem run_launchesStaged_of_three_files :
    ∃ asked, LaunchedFromStaged .default Sorting.request asked Sorting.cluster ∧
      ∀ (rm : ResourceManager) (said : Http.Conversation),
        (∀ left, Reaches (rm.createCluster Sorting.cluster).run said left →
          rm.AsksFor (Sorting.cluster.artifacts.map (LocalResource.ofArtifact rm)) said) ∧
        ((Url.parse (rm.clusterUrl "/apps")).isSome = true →
          ∀ created, Ends (rm.createCluster Sorting.cluster).run said created →
            ∃ x ∈ said.head?, ResourceManager.IsSubmission x) := by
  obtain ⟨first, hstage⟩ : ∃ first, Ends (Staging.stage ⟨1, 1⟩ Config.default.stagingPrefix
      Sorting.request.entries Config.default.replication).run first (.ok Sorting.manifest) :=
    Dialogue.exists_ends_of_toOption Sorting.answer (by decide +kernel)
  have htook : 1 < Config.default.askTimeout := by decide
  refine ⟨_, run_launchesStaged false .default Sorting.request
    [allocation .default (.ended 1 (.ok ⟨1, 1⟩)),
      staging .default Sorting.request ⟨1, 1⟩ (.ok Sorting.manifest), cancellation false]
    Sorting.cluster none _ _ (.ask (.ask (.ask (.here _))))
    (.inTime htook (.background hstage (.idle rfl .nil)))⟩

end ClusterDeploy.Deployment
