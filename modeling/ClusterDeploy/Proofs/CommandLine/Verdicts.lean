import ClusterDeploy.Proofs.CommandLine.Deploying
import ClusterDeploy.Proofs.Platform.FailureCauses
import ClusterDeploy.Proofs.Platform.Looks

set_option relaxedAutoImplicit false
set_option autoImplicit false

/-!
# From the result of a job to the exit status

A job that is completed counts as failed exactly if its result gives a cause, and the program that
deployed it fails then. The status of the application in the same result is not looked at, so a job
that was cancelled without a cause counts as a success.

## Main definitions

* `JobResult.GivesApplicationStatus` — what the result of a job says of the application.
* `JobResult.IsCredible` — a success is in accord with all that the result says.

## Main results

* `JobResult.verdict_of_read` — which outcome is read from which document.
* `JobResult.isCredible_iff` — when a success is in accord with the result.
* `Deployment.exists_watching_of_report` — the outcome in a report is the one that was waited for.
* `CommandLine.execute_deploy_verdict` — the whole way.
-/

namespace ClusterDeploy

/-- Only null is read as null. -/
lemma Json.eq_null_of_ofSyntax {n : Nat} {doc : Json.Syntax}
    (h : Json.ofSyntax n doc = some .null) : doc = .null := by
  cases doc with
  | null => rfl
  | bool b => cases n <;> simp [Json.ofSyntax] at h
  | number x => cases n <;> simp [Json.ofSyntax] at h
  | string s => cases n <;> simp [Json.ofSyntax] at h
  | array items => cases n <;> simp [Json.ofSyntax] at h
  | object members => cases n <;> simp [Json.ofSyntax] at h

namespace JobResult

open Json (Syntax)

variable {doc : Syntax} {status : String} {cause : Option Syntax} {outcome : Option JobOutcome}
  {found : Option Json} {body : Bytes} {n : Nat}

/-- A completed job succeeded if the cause of a failure is absent or null. -/
lemma outcomeOf_eq_succeeded_iff (hfound : Json.optional Json.anything n cause = some found) :
    outcomeOf found = .succeeded ↔ IsAbsent cause := by
  constructor
  · rintro hsucceeded doc rfl
    by_contra hnull
    rw [Json.optional_of_ne_null hnull] at hfound
    obtain ⟨value, hvalue, rfl⟩ := Option.map_eq_some_iff.1 hfound
    have hvalue : Json.ofSyntax n doc = some value := hvalue
    cases value with
    | null => exact hnull (Json.eq_null_of_ofSyntax hvalue)
    | _ => exact nomatch hsucceeded
  · intro habsent
    rw [optional_of_isAbsent habsent] at hfound
    obtain rfl := Option.some.inj hfound
    rfl

/-- **Which outcome is read from which document.** It depends on the status of the job and on
whether a cause of a failure is given, and on nothing else. -/
lemma Reports.verdict (hreports : Reports doc status cause)
    (h : outcomeReader Json.maxDepth doc = some outcome) :
    (outcome = none ↔ status ≠ "COMPLETED") ∧
    (outcome = some .succeeded ↔ status = "COMPLETED" ∧ IsAbsent cause) ∧
    ((∃ payload, outcome = some (.failed payload)) ↔ status = "COMPLETED" ∧ ¬IsAbsent cause) := by
  obtain ⟨found, hfound, rfl⟩ := hreports.exists_cause h
  rw [← outcomeOf_eq_succeeded_iff hfound]
  by_cases hstatus : status = "COMPLETED"
  · rcases houtcome : outcomeOf found with _ | payload <;> simp [hstatus]
  · simp [hstatus]

/-- **The verdict on a job**, from the body of an answer that is read. -/
lemma verdict_of_read (hread : read (.success (some body)) = .ok outcome) :
    ∃ doc, Syntax.read (Utf8.encode (Http.bodyText body)) = some doc ∧
      ∃ status cause, Reports doc status cause ∧
        (outcome = none ↔ status ≠ "COMPLETED") ∧
        (outcome = some .succeeded ↔ status = "COMPLETED" ∧ IsAbsent cause) ∧
        ((∃ payload, outcome = some (.failed payload)) ↔
          status = "COMPLETED" ∧ ¬IsAbsent cause) := by
  obtain ⟨doc, hdoc, houtcome⟩ := read_eq_ok.1 hread
  obtain ⟨status, cause, hreports⟩ := exists_reports houtcome
  exact ⟨doc, hdoc, status, cause, hreports, hreports.verdict houtcome⟩

/-! ## The status of the application -/

/-- Holds if the result of a job says this of the application. -/
def GivesApplicationStatus (doc value : Syntax) : Prop :=
  ∃ statusSlot parts key,
    Json.slots ["status", "job-execution-result"] doc = some [statusSlot, some (.object parts)] ∧
      (key, value) ∈ parts ∧ Json.text? key = some "application-status"

/-- Holds if the outcome is no success, or the job is completed and the result says nothing of the
application but that it succeeded. -/
def IsCredible (doc : Syntax) (outcome : Option JobOutcome) : Prop :=
  outcome = some .succeeded → (∃ cause, Reports doc "COMPLETED" cause) ∧
    ∀ value, GivesApplicationStatus doc value → Json.text 0 value = some "SUCCEEDED"

/-- **When a success is in accord with the result.** It is not exactly if the job is completed, no
cause of a failure is given, and the result says something else of the application. -/
lemma isCredible_iff (hreports : Reports doc status cause)
    (hverdict : outcome = some .succeeded ↔ status = "COMPLETED" ∧ IsAbsent cause) :
    IsCredible doc outcome ↔ ¬(status = "COMPLETED" ∧ IsAbsent cause ∧
      ∃ value, GivesApplicationStatus doc value ∧ Json.text 0 value ≠ some "SUCCEEDED") := by
  rw [IsCredible, hverdict]
  constructor
  · rintro hcredible ⟨hstatus, habsent, value, hgives, hother⟩
    exact hother ((hcredible ⟨hstatus, habsent⟩).2 value hgives)
  · rintro hno ⟨rfl, habsent⟩
    refine ⟨⟨cause, hreports⟩, fun value hgives => ?_⟩
    by_contra hother
    exact hno ⟨rfl, habsent, value, hgives, hother⟩

/-- An outcome that ends the polling was read from the body of an answer. -/
lemma Decides.exists_body {url : String} {replies : Nat → Millis × Http.Reply}
    {outcome : JobOutcome} (h : Decides (answersOf url replies) n (.ok outcome)) :
    ∃ body, Http.Response.ofReply (replies n).2 = .success (some body) ∧
      read (.success (some body)) = .ok (some outcome) := by
  cases h with
  | completed _ hanswer =>
    unfold answersOf heard at hanswer
    rcases hurl : Url.parse url with _ | u
    · rw [hurl] at hanswer
      exact nomatch hanswer
    · rw [hurl] at hanswer
      rcases hreply : Http.Response.ofReply (replies n).2 with _ | _ | _ | body
      · rw [hreply] at hanswer
        exact nomatch hanswer
      · rw [hreply] at hanswer
        exact nomatch hanswer
      · rw [hreply] at hanswer
        exact nomatch hanswer
      · rw [hreply] at hanswer
        exact ⟨body, rfl, hanswer⟩

end JobResult

namespace Deployment

open Dialogue (Ends)

variable {hasLedger : Bool} {config : Config} {request : DeploymentRequest}
  {course : Task.Course} {report : DeploymentReport}

/-- **The outcome in a report is the one that was waited for.** -/
lemma exists_watching_of_report (hrun : Ends (run hasLedger config request) course (.ok report)) :
    ∃ h running, watching config h running (.resolved (.ok report.outcome)) ∈ course := by
  obtain ⟨application, life, supervision, hmem, -, hlife⟩ := exists_lived_of_report hrun
  generalize report.manifest = m at hlife
  cases hlife with
  | @completed h _ running watched outcome _ _ _ houtcome _ =>
    have hwatched : watched = .resolved (.ok outcome) := by
      cases watched with
      | resolved result =>
        cases result with
        | ok found => rw [Except.ok.inj houtcome]
        | error e => exact nomatch houtcome
      | expired => exact nomatch houtcome
      | cancelled => exact nomatch houtcome
    exact ⟨h, running, hmem _ (by simp [hwatched])⟩

end Deployment

namespace CommandLine

open Dialogue (Ends Obeys)

open JobResult

/-- **From the result of a job to the exit status.** For every body of an answer that is read, the
document in it reports a status, and

* there is no outcome unless the status is `COMPLETED`; then the job failed if a cause is given that
  is not null, and else it succeeded, whatever else the document says;
* a success is in accord with the result, unless no cause is given and the result says something
  else of the application than that it succeeded;
* for every deployment from the command line that gives a report, the outcome in it is the one that
  was waited for. If it came by polling, it came from the body of the answer that decides; if that
  is this body, the outcome is the one that is read from it, and the program succeeds exactly if no
  cause is given and there is no error of teardown. -/
theorem execute_deploy_verdict {body : Bytes} {outcome : Option JobOutcome}
    (hread : read (.success (some body)) = .ok outcome) :
    ∃ doc, Json.Syntax.read (Utf8.encode (Http.bodyText body)) = some doc ∧
      ∃ status cause, Reports doc status cause ∧
        (outcome = none ↔ status ≠ "COMPLETED") ∧
        (outcome = some .succeeded ↔ status = "COMPLETED" ∧ IsAbsent cause) ∧
        ((∃ payload, outcome = some (.failed payload)) ↔
          status = "COMPLETED" ∧ ¬IsAbsent cause) ∧
        (IsCredible doc outcome ↔ ¬(status = "COMPLETED" ∧ IsAbsent cause ∧
          ∃ value, GivesApplicationStatus doc value ∧
            Json.text 0 value ≠ some "SUCCEEDED")) ∧
        ∀ (arguments : List String) (env : List (String × String)) (inv : Invocation)
          (a : DeployArguments) (trace : Trace) (out : Output) (config : Config)
          (payload : Bytes) (report : DeploymentReport) (course : Task.Course),
          parse arguments env = .ok inv → inv.command = .deploy a →
          Ends (execute arguments env) trace out →
          Deployed inv a config payload (.ok report) trace →
          Ends (Deployment.run true config (requestOf a payload)) course (.ok report) →
          (∃ h running,
            Deployment.watching config h running (.resolved (.ok report.outcome)) ∈ course) ∧
          ∀ url replies n, Decides (answersOf url replies) n (.ok report.outcome) →
            ∃ answer, Http.Response.ofReply (replies n).2 = .success (some answer) ∧
              (answer = body → outcome = some report.outcome ∧
                (out.exit.status = 0 ↔ IsAbsent cause ∧ report.teardownError = none)) := by
  obtain ⟨doc, hdoc, status, cause, hreports, hnone, hsucceeded, hfailed⟩ := verdict_of_read hread
  refine ⟨doc, hdoc, status, cause, hreports, hnone, hsucceeded, hfailed,
    isCredible_iff hreports hsucceeded, ?_⟩
  intro arguments env inv a trace out config payload report course hparse hcommand hrun hdeployed
    hcourse
  refine ⟨Deployment.exists_watching_of_report hcourse, fun url replies n hdecides => ?_⟩
  obtain ⟨answer, hreply, hanswer⟩ := hdecides.exists_body
  refine ⟨answer, hreply, ?_⟩
  rintro rfl
  obtain rfl : outcome = some report.outcome := Except.ok.inj (hread.symm.trans hanswer)
  obtain rfl : status = "COMPLETED" := by
    by_contra hstatus
    exact nomatch hnone.2 hstatus
  have houtcome : report.outcome = .succeeded ↔ IsAbsent cause := by simpa using hsucceeded
  rw [hdeployed.output_eq hparse hcommand hrun, ← houtcome]
  exact ⟨rfl, reportExit_eq_success_iff⟩

/-! ## A result that gives a cause, and one that does not -/

namespace WordCount

/-- What the report says if the job has this outcome. -/
def reportOf (outcome : JobOutcome) : DeploymentReport :=
  { report with outcome }

/-- What is said of the job when it is completed, with these members in its result. -/
def resultOf (members : List (String × Json)) : Json :=
  .object [("job-execution-result", .object members),
    ("status", .object [("id", .string "COMPLETED")])]

/-- The body of the answer that says so. -/
def resultBody (members : List (String × Json)) : Bytes :=
  Utf8.encode (resultOf members).compact

/-- The document in the answer of a cluster is the result that it was made from. -/
lemma document_resultBody (members : List (String × Json)) :
    Json.Syntax.read (Utf8.encode (Http.bodyText (resultBody members))) =
      some (resultOf members).written := by
  rw [resultBody, Http.bodyText, Utf8.decodeLossy_encode, Json.read_compact]

/-- A deployment whose job has this outcome. -/
lemma exists_course (outcome : JobOutcome) :
    ∃ course, Ends (Deployment.run true .default request) course (.ok (reportOf outcome)) ∧
      Deployment.watching .default handle running (.resolved (.ok outcome)) ∈ course := by
  have hpolls : Ends ((Supervisor.ofConfig .default).pollUntil handle
      (Supervisor.ofConfig .default).deadline Supervisor.burst 0)
      [Supervisor.polled handle 10000 (.ended 1 (.ok .finished))] (true, 1) := by
    rw [Supervisor.pollUntil]
    exact .ask (.done _)
  have hconclude := Supervisor.ends_conclude_iff.2 ⟨_, _, .inl ⟨hpolls, rfl, rfl⟩⟩
  refine ⟨[Deployment.allocation .default (.ended 1 (.ok ⟨1, 1⟩)),
    Deployment.staging .default request ⟨1, 1⟩ (.ok manifest),
    Deployment.cancellation false,
    Deployment.recording (.recordStarted request.job.name manifest) (.ok ()),
    Deployment.creation (Launch.request .default request.job manifest) (.ok handle),
    Deployment.submission .default handle request.job (.ended 1 (.ok running)),
    Deployment.cancellation false,
    Deployment.watching .default handle running (.resolved (.ok outcome)),
    Supervisor.polled handle 10000 (.ended 1 (.ok .finished)),
    Supervisor.released handle,
    Deployment.recording (.recordCompleted (reportOf outcome)) (.ok ())], ?_, by simp⟩
  refine .ask (.ask (.ask (.ask (.ask (.ask (.ask (.ask ?_)))))))
  refine Dialogue.ends_bind_iff.2 ⟨[], _, .ok outcome, rfl, .done _, ?_⟩
  exact Dialogue.ends_bind_iff.2 ⟨[_, _], [_], _, rfl, hconclude, .ask (.done _)⟩

/-- The program, after a deployment whose job has this outcome. -/
lemma ends_execute (outcome : JobOutcome) :
    Ends (execute arguments []) (trace (reportOf outcome))
      (deployOutput (.ok (reportOf outcome))) :=
  (deployed _).ends parse_arguments rfl

/-- The answer to the first look decides if it tells an outcome. -/
lemma decides_of_read {body : Bytes} {outcome : JobOutcome}
    (hread : read (.success (some body)) = .ok (some outcome)) :
    Decides (answersOf "http://jm/jobs/word-count/execution-result"
      fun _ => (0, .answered 200 (some body))) 0 (.ok outcome) := by
  have hurl : ∃ u, Url.parse "http://jm/jobs/word-count/execution-result" = some u :=
    Option.isSome_iff_exists.1 (by decide +kernel)
  obtain ⟨u, hurl⟩ := hurl
  refine .completed isUndecided_zero ?_
  rw [answersOf, heard, hurl]
  exact hread

end WordCount

/-- A job that failed with a cause: the program fails. -/
theorem execute_deploy_verdict_of_cause :
    let cause := Json.object [("class", .string "java.lang.Exception")]
    let body := WordCount.resultBody [("application-status", .string "FAILED"),
      ("failure-cause", cause)]
    let outcome := JobOutcome.failed (Utf8.encode (withMessage cause).compact)
    read (.success (some body)) = .ok (some outcome) ∧
      (∃ doc, Json.Syntax.read (Utf8.encode (Http.bodyText body)) = some doc ∧
        IsCredible doc (some outcome)) ∧
      ∃ course out,
        Ends (Deployment.run true .default WordCount.request) course
          (.ok (WordCount.reportOf outcome)) ∧
        Ends (execute WordCount.arguments []) (WordCount.trace (WordCount.reportOf outcome)) out ∧
        out.exit.status ≠ 0 := by
  intro cause body outcome
  have hread : read (.success (some body)) = .ok (some outcome) :=
    read_eq_ok.2 ⟨_, WordCount.document_resultBody _, by decide +kernel⟩
  obtain ⟨course, hcourse, -⟩ := WordCount.exists_course outcome
  obtain ⟨doc, hdoc, _, _, -, -, -, hfailed, hcredible, hprogram⟩ := execute_deploy_verdict hread
  have hgiven := (hfailed.1 ⟨_, rfl⟩).2
  refine ⟨hread, ⟨doc, hdoc, hcredible.2 fun h => hgiven h.2.1⟩, course, _, hcourse,
    WordCount.ends_execute _, fun hstatus => ?_⟩
  obtain ⟨-, hpolled⟩ := hprogram WordCount.arguments [] WordCount.invocation
    WordCount.deployment _ _ .default [] _ course WordCount.parse_arguments rfl
    (WordCount.ends_execute outcome) (WordCount.deployed _) hcourse
  obtain ⟨answer, hreply, hexit⟩ := hpolled _ _ _ (WordCount.decides_of_read hread)
  obtain rfl : body = answer := Option.some.inj (Http.Response.success.inj hreply)
  exact hgiven ((hexit rfl).2.1 hstatus).1

/-- **A job that was cancelled counts as a success** if its result gives no cause: the polling ends
with a success, which is not in accord with the result, the report says so, and the program
succeeds. -/
theorem execute_deploy_hidesCancellation :
    let body := WordCount.resultBody [("application-status", .string "CANCELED")]
    read (.success (some body)) = .ok (some .succeeded) ∧
    (∃ doc, Json.Syntax.read (Utf8.encode (Http.bodyText body)) = some doc ∧
      ¬IsCredible doc (some .succeeded)) ∧
    (∀ c r, Ends (poll "http://jm/jobs/word-count/execution-result" 500 1 .start) c r →
      Obeys (hears fun _ => (0, .answered 200 (some body))) c → r = .inl (.ok .succeeded)) ∧
    ∃ course out,
      Ends (Deployment.run true .default WordCount.request) course
        (.ok (WordCount.reportOf .succeeded)) ∧
      Deployment.watching .default WordCount.handle
        (.polled "word-count" "http://jm/jobs/word-count/execution-result" 500)
        (.resolved (.ok .succeeded)) ∈ course ∧
      Ends (execute WordCount.arguments []) (WordCount.trace (WordCount.reportOf .succeeded)) out ∧
      out.exit.status = 0 := by
  intro body
  have hread : read (.success (some body)) = .ok (some .succeeded) :=
    read_eq_ok.2 ⟨_, WordCount.document_resultBody _, by decide +kernel⟩
  have hdecides := WordCount.decides_of_read hread
  obtain ⟨course, hcourse, hwatched⟩ := WordCount.exists_course .succeeded
  refine ⟨hread, ⟨_, WordCount.document_resultBody _, fun hcredible => ?_⟩,
    fun c r hends hobeys => ?_, course, _, hcourse, hwatched, WordCount.ends_execute _, rfl⟩
  · have hsays := (hcredible rfl).2 (Json.string "CANCELED").written
      ⟨_, _, _, Json.slots_written (by decide) (by decide), List.mem_singleton_self _,
        Json.text?_pieces _⟩
    exact absurd hsays (by decide +kernel)
  · rcases ends_poll hends hobeys with ⟨n, -, result, hdecides', rfl, -⟩ | ⟨hopen, -⟩
    · rw [(hdecides.unique hdecides').2]
    · exact absurd hopen (hdecides.not_isUndecided Nat.one_pos)

end CommandLine

end ClusterDeploy
