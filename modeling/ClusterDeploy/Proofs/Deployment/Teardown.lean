import ClusterDeploy.Proofs.Deployment.Course
import ClusterDeploy.Proofs.Task.Leaving

set_option relaxedAutoImplicit false
set_option autoImplicit false

/-!
# Clusters are torn down exactly once

Whatever its collaborators do, a deployment closes the connection to its cluster exactly once, and
kills the cluster before that unless it saw it finished. The same holds of a deployment that is left
at any point where it waits, with what leaving it does to the cluster.

## Main definitions

* `Deployment.Tenure` — where a deployment stands with its cluster.
* `Deployment.Tenure.Moves`, `Deployment.Tenure.Follows` — how a step, and a course, changes that.
* `Deployment.Tenure.Fits` — what was called when a deployment stands somewhere.

## Main results

* `Deployment.Tenure.Fits.follows` — the calls of a course fit where it leads.
* `Deployment.follows_of_ends` — every deployment ends without a cluster, or with its connection
  closed.
* `Deployment.run_tearsDownOnce` — exactly-once teardown.
-/

namespace ClusterDeploy

open Rehearsal (Call drops entered aftermath)

namespace Deployment

open Dialogue (Ends Reaches)

/-! ## Where a deployment stands -/

/-- Where a deployment stands with its cluster. -/
inductive Tenure where
  /-- No cluster was created. -/
  | vacant
  /-- The deployment holds the connection to a cluster. -/
  | holding (h : ClusterHandle)
  /-- The cluster was killed or seen finished, and its connection is about to be closed. -/
  | doomed (h : ClusterHandle)
  /-- The connection to the cluster is closed. -/
  | closed (h : ClusterHandle)

namespace Tenure

/-- The clusters that were created. -/
def handles : Tenure → List ClusterHandle
  | .vacant => []
  | .holding h => [h]
  | .doomed h => [h]
  | .closed h => [h]

/-- The clusters that are gone, or as good as gone. -/
def spent : Tenure → List ClusterHandle
  | .vacant => []
  | .holding _ => []
  | .doomed h => [h]
  | .closed h => [h]

/-- The clusters whose connections are closed. -/
def releases : Tenure → List ClusterHandle
  | .closed h => [h]
  | _ => []

/-- How a step changes where a deployment stands. -/
inductive Moves : Tenure → Task.Step → Tenure → Prop where
  /-- What does not concern a cluster may be done before there is one. -/
  | idle {x : Task.Step} : x.question.held = none → x.handle? = none →
    x.question.call?.bind Call.query? = none → x.question.call?.bind Call.kill? = none →
    x.question.call?.bind Call.release? = none → Moves .vacant x .vacant
  | create (request : ClusterRequest) (h : ClusterHandle) :
    Moves .vacant (creation request (.ok h)) (.holding h)
  /-- What does not end a cluster may be done while its connection is held. -/
  | use {x : Task.Step} {h : ClusterHandle} :
    (x.question.waits = true → x.question.held = some h) →
    (∀ late, x.question.lateHandle late = none) → x.question.call?.bind Call.kill? = none →
    x.question.call?.bind Call.release? = none → x.sawFinished = false →
    Moves (.holding h) x (.holding h)
  | see {h : ClusterHandle} {limit : Millis} {ending : Ending ApplicationStatus} :
    Supervisor.sawFinished limit ending = true →
    Moves (.holding h) (Supervisor.polled h limit ending) (.doomed h)
  | kill (s : Supervisor) (h : ClusterHandle) (ending : Ending Unit) :
    Moves (.holding h) (Supervisor.killed s h ending) (.doomed h)
  | close (h : ClusterHandle) : Moves (.doomed h) (Supervisor.released h) (.closed h)
  /-- When the connection is closed, only the ledger is told. -/
  | record (h : ClusterHandle) (call : Ledger.Call) (result : Attempt call.Value) :
    Moves (.closed h) (recording call result) (.closed h)

/-- How a course changes where a deployment stands. -/
inductive Follows : Tenure → Task.Course → Tenure → Prop where
  | nil (t : Tenure) : Follows t [] t
  | cons {t₁ t₂ t₃ : Tenure} {x : Task.Step} {c : Task.Course} :
    Moves t₁ x t₂ → Follows t₂ c t₃ → Follows t₁ (x :: c) t₃

variable {t t₁ t₂ t₃ : Tenure} {x : Task.Step} {c d : Task.Course} {h : ClusterHandle}

/-- A course that goes on from where another one stands follows it. -/
lemma Follows.append (hc : Follows t₁ c t₂) (hd : Follows t₂ d t₃) : Follows t₁ (c ++ d) t₃ := by
  induction hc with
  | nil t => exact hd
  | cons hmove _ ih => exact .cons hmove (ih hd)

/-- A course with a step in it may be broken off before this step. -/
lemma Follows.split (hcourse : Follows t₁ (c ++ x :: d) t₂) :
    ∃ t t', Follows t₁ c t ∧ Moves t x t' ∧ Follows t' d t₂ := by
  induction c generalizing t₁ with
  | nil =>
    cases hcourse with
    | cons hmove hrest => exact ⟨_, _, .nil _, hmove, hrest⟩
  | cons y c ih =>
    cases hcourse with
    | cons hfirst hrest =>
      obtain ⟨t, t', hbefore, hmove, hafter⟩ := ih hrest
      exact ⟨t, t', .cons hfirst hbefore, hmove, hafter⟩

/-- What was called when a deployment stands somewhere. -/
structure Fits (t : Tenure) (c : Task.Course) : Prop where
  handles : c.handles = t.handles
  queries : t = .vacant → Call.queries c.calls = []
  /-- A cluster that is gone was killed once unless it was seen finished. -/
  kills : Call.kills c.calls = if c.sawFinished then [] else t.spent
  sawFinished : c.sawFinished = true → t.spent ≠ []
  releases : Call.releases c.calls = t.releases
  /-- When the connection is closed, no further call to the platform was made. -/
  last : ∀ h, t = .closed h → Call.lastPlatform c.calls = some (.release h)

/-- Nothing was called before there is a cluster. -/
lemma fits_nil : Fits .vacant [] :=
  ⟨rfl, fun _ => rfl, rfl, fun h => absurd h Bool.false_ne_true, rfl, nofun⟩

/-- What does not ask about a cluster does not see one finished. -/
lemma sawFinished_eq_false (hquery : x.question.call?.bind Call.query? = none) :
    x.sawFinished = false := by
  obtain ⟨_ | ⟨op, _, _⟩ | _ | _ | _ | _, answer⟩ := x <;> try rfl
  obtain (_ | _ | _ | _ | _) | _ | _ | _ | _ := op <;> first | rfl | simp at hquery

/-- A step does not create what could not come late either. -/
lemma handle?_eq_none (hlate : ∀ late, x.question.lateHandle late = none) : x.handle? = none := by
  obtain ⟨⟨op, _⟩ | ⟨op, limit, _⟩ | _ | _ | _ | _, answer⟩ := x
  · exact hlate (some answer)
  · change (answer.within limit).bind op.handle? = none
    rcases answer.within limit with _ | result
    · rfl
    · exact hlate (some result)
  all_goals rfl

/-- The calls of a course with one more step. -/
private lemma calls_snoc : (c ++ [x]).calls = c.calls ++ x.question.call?.toList := by
  rw [Task.Course.calls_append, Task.Course.calls_cons, Task.Course.calls_nil, List.append_nil]

/-- The clusters of a course with one more step. -/
private lemma handles_snoc : (c ++ [x]).handles = c.handles ++ x.handle?.toList := by
  rw [Task.Course.handles_append, Task.Course.handles_cons, Task.Course.handles_nil,
    List.append_nil]

/-- Whether a course with one more step saw its cluster finished. -/
private lemma sawFinished_snoc : (c ++ [x]).sawFinished = (c.sawFinished || x.sawFinished) := by
  rw [Task.Course.sawFinished_append, Task.Course.sawFinished_cons, Task.Course.sawFinished_nil,
    Bool.or_false]

/-- **A step keeps the calls fitting.**

**Proof sketch.** A case for each kind of step. What an idle step, or a use of the cluster, does not
do is what would have to be counted; the other steps are counted one by one. -/
lemma Fits.moves (hfits : Fits t₁ c) (hmove : Moves t₁ x t₂) : Fits t₂ (c ++ [x]) := by
  obtain ⟨hhandles, hqueries, hkills, hsaw, hreleases, hlast⟩ := hfits
  -- a cluster that was seen finished counts as spent
  have hfinished : t₁.spent = [] → c.sawFinished = false := fun hspent =>
    Bool.eq_false_iff.2 fun h => hsaw h hspent
  cases hmove with
  | idle hheld hnone hquery hkill hrelease =>
    have hx := sawFinished_eq_false hquery
    have hc := hfinished rfl
    refine ⟨?_, fun _ => ?_, ?_, ?_, ?_, nofun⟩
    · rw [handles_snoc, hhandles, hnone]
      rfl
    · rw [calls_snoc, Call.queries_append, hqueries rfl, Call.queries_toList, hquery]
      rfl
    · rw [calls_snoc, Call.kills_append, hkills, Call.kills_toList, hkill, sawFinished_snoc, hc, hx]
      rfl
    · rw [sawFinished_snoc, hc, hx]
      exact fun h => absurd h Bool.false_ne_true
    · rw [calls_snoc, Call.releases_append, hreleases, Call.releases_toList, hrelease]
      rfl
  | create request h =>
    have hc := hfinished rfl
    refine ⟨?_, ?_, ?_, ?_, ?_, ?_⟩
    · simp [hhandles, Tenure.handles]
    · simp
    · simp [hkills, hc, spent]
    · simp [hc]
    · simp [hreleases, Tenure.releases]
    · simp
  | use hheld hlate hkill hrelease hx =>
    have hc := hfinished rfl
    have hnone := handle?_eq_none hlate
    refine ⟨?_, nofun, ?_, ?_, ?_, nofun⟩
    · rw [handles_snoc, hhandles, hnone]
      rfl
    · rw [calls_snoc, Call.kills_append, hkills, Call.kills_toList, hkill, sawFinished_snoc, hc, hx]
      rfl
    · rw [sawFinished_snoc, hc, hx]
      exact fun h => absurd h Bool.false_ne_true
    · rw [calls_snoc, Call.releases_append, hreleases, Call.releases_toList, hrelease]
      rfl
  | see hx =>
    have hc := hfinished rfl
    refine ⟨?_, ?_, ?_, ?_, ?_, ?_⟩
    · simp [hhandles, Tenure.handles]
    · simp
    · simp [hkills, hx, hc, spent]
    · simp [spent]
    · simp [hreleases, Tenure.releases]
    · simp
  | kill s h ending =>
    have hc := hfinished rfl
    refine ⟨?_, ?_, ?_, ?_, ?_, ?_⟩
    · simp [hhandles, Tenure.handles]
    · simp
    · simp [hkills, hc, spent]
    · simp [spent]
    · simp [hreleases, Tenure.releases]
    · simp
  | close h =>
    refine ⟨?_, ?_, ?_, ?_, ?_, ?_⟩
    · simp [hhandles, Tenure.handles]
    · simp
    · simp [hkills, spent]
    · simp [spent]
    · simp [hreleases, Tenure.releases]
    · rintro h ⟨⟩
      simp [Call.lastPlatform]
  | record h call result =>
    refine ⟨?_, ?_, ?_, ?_, ?_, ?_⟩
    · simp [hhandles]
    · simp
    · simp [hkills]
    · simp [spent]
    · simp [hreleases]
    · rintro h ⟨⟩
      simpa [Call.lastPlatform] using hlast h rfl

/-- **The calls of a course fit where it leads.** -/
lemma Fits.follows (hfits : Fits t₁ c) (hcourse : Follows t₁ d t₂) : Fits t₂ (c ++ d) := by
  induction hcourse generalizing c with
  | nil t => rwa [List.append_nil]
  | cons hmove _ ih =>
    rw [List.append_cons]
    exact ih (hfits.moves hmove)

end Tenure

/-! ## Where deployments lead -/

open Tenure (Moves Follows Fits)

variable {hasLedger : Bool} {config : Config} {job : Job} {application : ApplicationId}
  {m : Manifest} {course : Task.Course} {result : Except DeployError DeploymentReport}
  {teardown : Option SupervisionReport} {h : ClusterHandle}

/-- Polling leads nowhere unless it sees the cluster finished. -/
lemma follows_polls {finished : Bool} {count : Nat}
    (hpolls : Supervisor.Polls h course finished count) :
    Follows (.holding h) course (if finished then .doomed h else .holding h) := by
  induction hpolls with
  | last limit ending =>
    cases hsaw : Supervisor.sawFinished limit ending with
    | true => exact .cons (.see hsaw) (.nil _)
    | false => exact .cons (.use (fun _ => rfl) (by simp) rfl rfl hsaw) (.nil _)
  | again hsaw _ ih =>
    exact .cons (.use (fun _ => rfl) (by simp) rfl rfl hsaw)
      (.cons (.use (fun _ => rfl) (fun _ => rfl) rfl rfl rfl) ih)

/-- Killing a cluster at once ends with its connection closed. -/
lemma follows_terminateNow {s : Supervisor} {report : SupervisionReport}
    (hrun : Ends (s.terminateNow h) course report) : Follows (.holding h) course (.closed h) := by
  obtain ⟨ending, rfl, -⟩ := Supervisor.ends_terminateNow_iff.1 hrun
  exact .cons (.kill s h ending) (.cons (.close h) (.nil _))

/-- Concluding a cluster ends with its connection closed. -/
lemma follows_conclude {s : Supervisor} {report : SupervisionReport}
    (hrun : Ends (s.conclude h) course report) : Follows (.holding h) course (.closed h) := by
  obtain ⟨polls, count, ⟨hpolls, rfl, -⟩ | ⟨hpolls, ending, rfl, -⟩⟩ :=
    Supervisor.ends_conclude_iff.1 hrun
  · obtain ⟨_, hgrammar, -⟩ := Supervisor.polls_of_ends s h _ _ _ hpolls
    exact (follows_polls hgrammar).append (.cons (.close h) (.nil _))
  · obtain ⟨_, hgrammar, -⟩ := Supervisor.polls_of_ends s h _ _ _ hpolls
    exact (follows_polls hgrammar).append (.cons (.kill s h ending) (.cons (.close h) (.nil _)))

/-- After the submission of a job its cluster is still held. -/
private lemma moves_submission {ending : Ending RunningJob} :
    Moves (.holding h) (submission config h job ending) (.holding h) :=
  .use (fun _ => rfl) (by simp) rfl rfl rfl

/-- After a look at the cancellation the cluster is still held. -/
private lemma moves_cancellation {cancelled : Bool} :
    Moves (.holding h) (cancellation cancelled) (.holding h) :=
  .use nofun (fun _ => rfl) rfl rfl rfl

/-- After the wait for a job its cluster is still held. -/
private lemma moves_watching {running : RunningJob} {watched : Watched} :
    Moves (.holding h) (watching config h running watched) (.holding h) :=
  .use (fun _ => rfl) (fun _ => rfl) rfl rfl rfl

/-- From the creation of a cluster on a deployment comes to an end with its connection closed,
unless there never was one. -/
lemma follows_of_lived (hlife : Lived config job application m course result teardown) :
    Follows .vacant course .vacant ∨ ∃ h, Follows .vacant course (.closed h) := by
  cases hlife with
  | uncreated hcreated =>
    obtain ⟨mishap, rfl⟩ := Task.exists_mishap_of_settle hcreated
    exact .inl (.cons (.idle rfl rfl rfl rfl rfl) (.nil _))
  | @unsubmitted h _ _ _ _ _ hkill =>
    exact .inr ⟨h, .cons (.create _ h) (.cons moves_submission (follows_terminateNow hkill))⟩
  | @cancelled h _ _ _ _ _ hkill =>
    exact .inr ⟨h, .cons (.create _ h) (.cons moves_submission
      (.cons moves_cancellation (follows_terminateNow hkill)))⟩
  | @unwatched h _ _ _ _ _ _ _ _ hkill =>
    exact .inr ⟨h, .cons (.create _ h) (.cons moves_submission
      (.cons moves_cancellation (.cons moves_watching (follows_terminateNow hkill))))⟩
  | @completed h _ _ _ _ _ _ _ _ hconclude =>
    exact .inr ⟨h, .cons (.create _ h) (.cons moves_submission
      (.cons moves_cancellation (.cons moves_watching (follows_conclude hconclude))))⟩

/-- A deployment that fails did not see its cluster finished. -/
lemma sawFinished_of_lived_error {e : DeployError}
    (hlife : Lived config job application m course (.error e) teardown) :
    course.sawFinished = false := by
  have hkill : ∀ {s : Supervisor} {h : ClusterHandle} {kill : Task.Course}
      {report : SupervisionReport}, Ends (s.terminateNow h) kill report →
        kill.sawFinished = false := by
    intro s h kill report hrun
    obtain ⟨ending, rfl, -⟩ := Supervisor.ends_terminateNow_iff.1 hrun
    rfl
  cases hlife with
  | uncreated _ => rfl
  | unsubmitted _ h => simpa using hkill h
  | cancelled _ h => simpa using hkill h
  | unwatched _ _ h => simpa using hkill h

/-- The ledger is told nothing that concerns a cluster. -/
lemma follows_record {call : Ledger.Call} {r : Except DeployError Unit}
    (hrun : Ends (record hasLedger application call) course r) :
    Follows .vacant course .vacant ∧ (∀ h, Follows (.closed h) course (.closed h)) ∧
      course.sawFinished = false := by
  cases hasLedger with
  | false =>
    obtain ⟨rfl, -⟩ := ends_record_false_iff.1 hrun
    exact ⟨.nil _, fun h => .nil _, rfl⟩
  | true =>
    obtain ⟨answer, rfl, -⟩ := ends_record_true_iff.1 hrun
    exact ⟨.cons (.idle rfl rfl rfl rfl rfl) (.nil _),
      fun h => .cons (.record h call answer) (.nil _), rfl⟩

/-- The steps before there is a cluster. -/
private lemma follows_prologue {ending : Ending ApplicationId} {request : DeploymentRequest}
    {staged : Attempt Manifest} {cancelled : Bool} :
    Follows .vacant [allocation config ending, staging config request application staged,
      cancellation cancelled] .vacant := by
  refine .cons (.idle rfl (by simp) rfl rfl rfl) (.cons (.idle rfl ?_ rfl rfl rfl)
    (.cons (.idle rfl rfl rfl rfl rfl) (.nil _)))
  rcases staged with _ | _ <;> rfl

/-- **Every deployment ends without a cluster, or with its connection closed**; and if it fails, it
did not see its cluster finished. -/
lemma follows_of_ends {request : DeploymentRequest}
    (hrun : Ends (run hasLedger config request) course result) :
    (Follows .vacant course .vacant ∨ ∃ h, Follows .vacant course (.closed h)) ∧
      ∀ e, result = .error e → course.sawFinished = false := by
  cases ran_of_ends hrun with
  | unallocated _ =>
    exact ⟨.inl (.cons (.idle rfl (by simp) rfl rfl rfl) (.nil _)), fun e _ => rfl⟩
  | @unstaged _ _ staged _ _ hstaged =>
    refine ⟨.inl (.cons (.idle rfl (by simp) rfl rfl rfl) (.cons (.idle rfl ?_ rfl rfl rfl)
      (.nil _))), fun e _ => rfl⟩
    rcases staged with _ | _ <;> rfl
  | cancelled _ => exact ⟨.inl follows_prologue, fun e _ => rfl⟩
  | unrecorded _ hopened =>
    obtain ⟨hopening, -, hsaw⟩ := follows_record hopened
    exact ⟨.inl (follows_prologue.append hopening), fun e _ => by simpa using hsaw⟩
  | lived _ hopened hlife hclosed =>
    obtain ⟨hopening, -, hsaw⟩ := follows_record hopened
    obtain ⟨hvacant, hclosing, hsaw'⟩ := follows_record hclosed
    refine ⟨?_, fun e he => ?_⟩
    · rcases follows_of_lived hlife with hnone | ⟨h, hsome⟩
      · exact .inl (follows_prologue.append (hopening.append (hnone.append hvacant)))
      · exact .inr ⟨h, follows_prologue.append (hopening.append (hsome.append (hclosing h)))⟩
    · subst he
      simpa [hsaw, hsaw'] using sawFinished_of_lived_error hlife

/-! ## Exactly-once teardown -/

/-- What is called for the clusters that were created: nothing if there is none. There is never more
than one; its connection is closed once, and no call to the platform comes after that. -/
structure TornDown (handles : List ClusterHandle) (calls : List Call) : Prop where
  idle : handles = [] →
    Call.queries calls = [] ∧ Call.kills calls = [] ∧ Call.releases calls = []
  once : ∀ h ∈ handles, handles = [h] ∧ Call.releases calls = [h] ∧
    Call.lastPlatform calls = some (.release h)

/-- The calls of a deployment that is over. -/
private lemma tornDown_of_follows
    (hends : Follows .vacant course .vacant ∨ ∃ h, Follows .vacant course (.closed h)) :
    TornDown course.handles course.calls ∧
      Call.kills course.calls = if course.sawFinished then [] else course.handles := by
  rcases hends with hnone | ⟨h, hsome⟩
  · obtain ⟨hhandles, hqueries, hkills, -, hreleases, -⟩ := Tenure.fits_nil.follows hnone
    rw [List.nil_append] at hhandles hqueries hkills hreleases
    have hkills' : Call.kills course.calls = [] := by simpa [Tenure.spent] using hkills
    refine ⟨⟨fun _ => ⟨hqueries rfl, hkills', hreleases⟩, fun h hh => ?_⟩, ?_⟩
    · rw [hhandles] at hh
      exact absurd hh List.not_mem_nil
    · rw [hhandles]
      exact hkills
  · obtain ⟨hhandles, -, hkills, -, hreleases, hlast⟩ := Tenure.fits_nil.follows hsome
    rw [List.nil_append] at hhandles hkills hreleases hlast
    refine ⟨⟨fun hempty => ?_, fun h' hh' => ?_⟩, ?_⟩
    · rw [hhandles] at hempty
      exact absurd hempty (List.cons_ne_nil h [])
    · rw [hhandles] at hh' ⊢
      obtain rfl : h' = h := List.mem_singleton.1 hh'
      exact ⟨rfl, hreleases, hlast _ rfl⟩
    · rw [hhandles]
      exact hkills

/-- The calls of a deployment that is left while no connection was closed: whatever cluster there is
then, or comes too late, is killed and released. -/
private lemma tornDown_of_drops {q : Task.Question} {made : List ClusterHandle}
    (hreleases : Call.releases course.calls = [])
    (hrelease : q.call?.bind Call.release? = none) (hone : made.length ≤ 1)
    (hidle : made = [] → Call.queries course.calls = [] ∧ Call.kills course.calls = [] ∧
      q.call?.bind Call.query? = none ∧ q.call?.bind Call.kill? = none) :
    TornDown made (course.calls ++ q.call?.toList ++ drops made) := by
  refine ⟨fun hempty => ?_, fun h hh => ?_⟩
  · obtain ⟨hqueries, hkills, hquery, hkill⟩ := hidle hempty
    rw [hempty, Call.queries_append, Call.queries_append, Call.queries_toList, hqueries, hquery,
      Call.kills_append, Call.kills_append, Call.kills_toList, hkills, hkill,
      Call.releases_append, Call.releases_append, Call.releases_toList, hreleases, hrelease]
    exact ⟨rfl, rfl, rfl⟩
  · obtain rfl : made = [h] := by
      match made, hone, hh with
      | [h'], _, hh => rw [List.mem_singleton.1 hh]
    refine ⟨rfl, ?_, ?_⟩
    · rw [Call.releases_append, Call.releases_append, Call.releases_toList, hreleases, hrelease]
      rfl
    · simp [Call.lastPlatform, drops]

/-- What is called when a deployment is left at a question at which it waits. The call that is the
question itself has been made. -/
structure LeftBehind (course : Task.Course) (q : Task.Question) (late : q.Late)
    (after : List Call) : Prop where
  tornDown : TornDown (course.handles ++ (q.lateHandle late).toList)
    (course.calls ++ q.call?.toList ++ after)
  /-- If the connection was closed already, nothing more is called. Otherwise a cluster that there
  is, or that comes too late, is killed and released, whether or not a kill is under way. -/
  drop : (Call.releases course.calls = course.handles ++ (q.lateHandle late).toList ∧ after = [] ∧
      Call.kills (course.calls ++ q.call?.toList) =
        if course.sawFinished then [] else course.handles) ∨
    (Call.releases course.calls = [] ∧
      after = drops (course.handles ++ (q.lateHandle late).toList) ∧
      Call.kills (course.calls ++ q.call?.toList) = (q.call?.bind Call.kill?).toList)

section Left

variable {q : Task.Question} {late : q.Late}

/-- A deployment is left before its cluster was there. -/
private lemma leftBehind_of_vacant (hfits : Fits .vacant course) (hheld : q.held = none)
    (hquery : q.call?.bind Call.query? = none) (hkill : q.call?.bind Call.kill? = none)
    (hrelease : q.call?.bind Call.release? = none) :
    LeftBehind course q late (drops (q.held.toList ++ (q.lateHandle late).toList)) := by
  obtain ⟨hhandles, hqueries, hkills, -, hreleases, -⟩ := hfits
  have hnone : Call.kills course.calls = [] := by simpa [Tenure.spent] using hkills
  have hempty : course.handles = [] := hhandles
  have hmade : q.held.toList ++ (q.lateHandle late).toList =
      course.handles ++ (q.lateHandle late).toList := by
    rw [hheld, hempty]
    rfl
  rw [hmade]
  refine ⟨tornDown_of_drops hreleases hrelease ?_ fun _ => ⟨hqueries rfl, hnone, hquery, hkill⟩,
    .inr ⟨hreleases, rfl, ?_⟩⟩
  · rw [hempty]
    cases q.lateHandle late <;> simp
  · rw [Call.kills_append, hnone, Call.kills_toList]
    rfl

/-- A deployment is left while it holds the connection to its cluster. -/
private lemma leftBehind_of_holding (hfits : Fits (.holding h) course) (hheld : q.held = some h)
    (hlate : q.lateHandle late = none) (hrelease : q.call?.bind Call.release? = none) :
    LeftBehind course q late (drops (q.held.toList ++ (q.lateHandle late).toList)) := by
  obtain ⟨hhandles, -, hkills, -, hreleases, -⟩ := hfits
  have hnone : Call.kills course.calls = [] := by simpa [Tenure.spent] using hkills
  have hone : course.handles = [h] := hhandles
  have hmade : q.held.toList ++ (q.lateHandle late).toList =
      course.handles ++ (q.lateHandle late).toList := by
    rw [hheld, hone]
    rfl
  rw [hmade]
  refine ⟨tornDown_of_drops hreleases hrelease ?_ fun hempty => ?_, .inr ⟨hreleases, rfl, ?_⟩⟩
  · rw [hone, hlate]
    exact Nat.le_refl 1
  · rw [hone, hlate] at hempty
    exact absurd hempty (List.cons_ne_nil h [])
  · rw [Call.kills_append, hnone, Call.kills_toList]
    rfl

/-- A deployment is left while it tells the ledger how it ended. -/
private lemma leftBehind_of_closed {call : Ledger.Call} {late : Option (Attempt call.Value)}
    (hfits : Fits (.closed h) course) :
    LeftBehind course (.background (.ledger call) none) late [] := by
  obtain ⟨hhandles, -, hkills, -, hreleases, hlast⟩ := hfits
  have hone : course.handles = [h] := hhandles
  have hlate : (Task.Question.background (.ledger call) none).lateHandle late = none := by
    cases late <;> simp
  have hmade : course.handles ++
      ((Task.Question.background (.ledger call) none).lateHandle late).toList = [h] := by
    rw [hlate, hone]
    rfl
  refine ⟨?_, .inl ⟨?_, rfl, ?_⟩⟩
  · rw [hmade]
    refine ⟨fun hempty => absurd hempty (List.cons_ne_nil h []), fun h' hh' => ?_⟩
    obtain rfl : h' = h := List.mem_singleton.1 hh'
    refine ⟨rfl, by simpa [Tenure.releases] using hreleases, ?_⟩
    simpa [Call.lastPlatform] using hlast _ rfl
  · rw [hmade]
    exact hreleases
  · rw [hone]
    simpa [Tenure.spent] using hkills

/-- **A deployment may be left at any step at which it waits.**

**Proof sketch.** A case for each kind of step. Before there is a cluster, and while its connection
is held, nothing was released, and leaving does that. After a kill, or after it saw the cluster
finished, a deployment does not wait until the connection is closed; then there is nothing left. -/
private lemma leftBehind_of_moves {a : Task.Answer q} {t t' : Tenure} (hfits : Fits t course)
    (hmove : Moves t ⟨q, a⟩ t') (hwaits : q.waits = true) :
    LeftBehind course q late (drops (q.held.toList ++ (q.lateHandle late).toList)) := by
  cases hmove with
  | idle hheld _ hquery hkill hrelease =>
    exact leftBehind_of_vacant hfits hheld hquery hkill hrelease
  | create request h => exact leftBehind_of_vacant hfits rfl rfl rfl rfl
  | use hheld hlate _ hrelease _ =>
    exact leftBehind_of_holding hfits (hheld hwaits) (hlate late) hrelease
  | see _ => exact leftBehind_of_holding hfits rfl (by cases late <;> simp) rfl
  | kill s h ending => exact leftBehind_of_holding hfits rfl (by cases late <;> simp) rfl
  | close h => exact absurd hwaits Bool.false_ne_true
  | record h call answer =>
    have hnothing : drops ((Task.Question.background (.ledger call) none).held.toList ++
        ((Task.Question.background (.ledger call) none).lateHandle late).toList) = [] := by
      cases late <;> simp [drops]
    rw [hnothing]
    exact leftBehind_of_closed hfits

end Left

/-- **Exactly-once teardown.** Whatever its collaborators do and whenever it is cancelled, a
deployment that runs to its end calls nothing for a cluster that it never had. If it had one it
closed the connection exactly once, as its last call to the platform; it killed the cluster exactly
once before that if it failed or did not see the cluster finished, and never otherwise. A deployment
that is left where it waits does the rest on leaving, also if the cluster comes only then, or if its
kill is under way.

**Proof sketch.** The course of a deployment leads from no cluster to no cluster or to a connection
that is closed (`follows_of_ends`), and its calls fit where it leads (`Tenure.Fits.follows`). A
course that is broken off is the first part of a whole one, and fits where it leads as well. -/
theorem run_tearsDownOnce (hasLedger : Bool) (config : Config) (request : DeploymentRequest) :
    (∀ (course : Task.Course) result, Ends (run hasLedger config request) course result →
      TornDown course.handles course.calls ∧ Call.kills course.calls =
        match result with
        | .error _ => course.handles
        | .ok _ => if course.sawFinished then [] else course.handles) ∧
    (∀ (course : Task.Course) q next, Reaches (run hasLedger config request) course (.ask q next) →
      q.waits = true → ∀ (b : Rehearsal.Backends) (late : q.Late),
        (∀ rule, ∃ acts, Ends (aftermath b q late) acts () ∧ Dialogue.Obeys rule acts) ∧
        ∀ acts, Ends (aftermath b q late) acts () → LeftBehind course q late (entered acts)) := by
  refine ⟨fun course result hrun => ?_, fun course q next hreach hwaits b late =>
    ⟨fun rule => ?_, fun acts hacts => ?_⟩⟩
  · obtain ⟨hends, herror⟩ := follows_of_ends hrun
    obtain ⟨htorn, hkills⟩ := tornDown_of_follows hends
    refine ⟨htorn, ?_⟩
    cases result with
    | error e =>
      rw [hkills, herror e rfl]
      rfl
    | ok report => exact hkills
  · obtain ⟨⟨acts, ⟨⟩⟩, hacts, -⟩ := Dialogue.existsUnique_ends (aftermath b q late) rule
    exact ⟨acts, hacts⟩
  · obtain ⟨rest, result, hrest, hrun⟩ := Dialogue.exists_ends_of_reaches hreach
    obtain ⟨a, rest, rfl, -⟩ := Dialogue.ends_ask_iff.1 hrest
    have hsplit : ∃ t t', Follows .vacant course t ∧ Moves t ⟨q, a⟩ t' := by
      rcases (follows_of_ends hrun).1 with hnone | ⟨h, hsome⟩
      · obtain ⟨t, t', hbefore, hmove, -⟩ := hnone.split
        exact ⟨t, t', hbefore, hmove⟩
      · obtain ⟨t, t', hbefore, hmove, -⟩ := hsome.split
        exact ⟨t, t', hbefore, hmove⟩
    obtain ⟨t, t', hbefore, hmove⟩ := hsplit
    rw [Rehearsal.entered_of_ends_aftermath hacts]
    exact leftBehind_of_moves (Tenure.fits_nil.follows hbefore) hmove hwaits

/-- A deployment is left while its cluster is being created; the cluster comes later, and is killed
and released then. Another one is over at once, because it gets no application id. -/
theorem run_tearsDownOnce_of_late_cluster :
    let config : Config := .default
    let request : DeploymentRequest := default
    let m : Manifest := default
    let h : ClusterHandle := default
    let before : Task.Course := [allocation config (.ended 10 (.ok m.applicationId)),
      staging config request m.applicationId (.ok m), cancellation false]
    LeftBehind before
        (.background (.platform (.createCluster (Launch.request config request.job m))) none)
        (some (.ok h)) [.platform (.forceKill h), .release h] ∧
      TornDown [] [.platform .newApplication] := by
  intro config request m h before
  obtain ⟨hwhole, hleft⟩ := run_tearsDownOnce false config request
  constructor
  · have hreach : Reaches (run false config request) before (.ask _ _) :=
      .ask (.ask (.ask (.here _)))
    have hacts : Ends (aftermath ⟨.memory, .simulated .default⟩
        (.background (.platform (.createCluster (Launch.request config request.job m))) none)
        (some (.ok h)))
        [⟨.enter (.platform (.forceKill h)), ⟨[], none⟩⟩, ⟨.sleep 0, ()⟩,
          ⟨.platform (.forceKill h), .ok ()⟩, ⟨.enter (.release h), ⟨[], none⟩⟩, ⟨.release h, ()⟩]
        () :=
      .ask (.ask (.ask (.ask (.ask (.done _)))))
    exact (hleft before _ _ hreach rfl _ _).2 _ hacts
  · have hrun : Ends (run false config request) [allocation config .endless] _ := .ask (.done _)
    exact (hwhole _ _ hrun).1

end Deployment

end ClusterDeploy
