import ClusterDeploy.Proofs.Deployment.Course
import ClusterDeploy.Proofs.Staging.Traces

set_option relaxedAutoImplicit false
set_option autoImplicit false

/-!
# What deployments and cleanups ask of the storage and the ledger

The operations of a deployment and of a cleanup ask the storage, the platform and the ledger. This
module says which of these questions there are, in every course, whether it came to its end or was
broken off: a deployment writes files to the directory of the application id that it was given and
tells the ledger of its start once all of them are written; a cleanup deletes one directory and then
tells the ledger so.

## Main definitions

* `Task.Does`, `Task.IsAskedIn` — what the operations of a course ask.
* `Runtime.Call`, `Runtime.Call.Asks` — calls to a runtime, and what they ask up to some point.
* `Runtime.Deploys`, `Runtime.Cleans` — how the questions of a call and their answers fit together.

## Main results

* `Runtime.deploys_of_asks` — the questions of a deployment.
* `Runtime.cleans_of_asks` — the questions of a cleanup.

## Implementation notes

A call that is dropped or still under way has asked some first part of what it asks. An operation in
the background goes on when nobody waits for it any more, so the last operation of a course may be
at any point. A call of the platform that is too late is left out: it touches neither files nor the
ledger, and nobody learns of its answer.
-/

namespace ClusterDeploy

open Dialogue (Ends Reaches)
open Work (AnswersHome Uploads)

/-- Operations that touch no files and report no cleanup. -/
def Operation.IsReport : Operation → Prop
  | .platform _ => True
  | .ledger (.markCleaned _) => False
  | .ledger _ => True
  | _ => False

namespace Task

/-- A step whose operation, if it has one, is one of the platform. -/
def Step.IsPlatform (x : Step) : Prop :=
  ∀ op, x.question.operation? = some op → ∃ call, op = .platform call

/-- A step whose operation, if it has one, touches no files and reports no cleanup. -/
def Step.IsReport (x : Step) : Prop :=
  ∀ op, x.question.operation? = some op → op.IsReport

/-- A step at the platform touches no files and reports no removal. -/
lemma Step.IsPlatform.isReport {x : Step} (h : x.IsPlatform) : x.IsReport := by
  intro op hop
  obtain ⟨call, rfl⟩ := h op hop
  trivial

/-- A step without an operation counts to those at the platform. -/
lemma Step.isPlatform_of_idle {x : Step} (h : x.question.operation? = none) : x.IsPlatform :=
  fun _ hop => nomatch h.symm.trans hop

/-- What the operations of a course ask. -/
inductive Does : Course → List Work.Exchange → Prop where
  | nil : Does [] []
  /-- An operation that is waited for. -/
  | background {op : Operation} {held : Option ClusterHandle} {result : Attempt op.Value}
      {asked rest : List Work.Exchange} {c : Course} :
    Ends op.work.run asked result → Does c rest →
      Does (⟨.background op held, result⟩ :: c) (asked ++ rest)
  /-- The last operation, at any point. -/
  | unfinished {op : Operation} {held : Option ClusterHandle} {result : Attempt op.Value}
      {asked : List Work.Exchange} {left : Dialogue Work.Question Work.Answer (Attempt op.Value)} :
    Reaches op.work.run asked left → Does [⟨.background op held, result⟩] asked
  /-- A call of the platform that ends within its limit. -/
  | inTime {call : Platform.Call} {limit took : Millis} {held : Option ClusterHandle}
      {result : Attempt call.Value} {rest : List Work.Exchange} {c : Course} :
    took < limit → Does c rest →
      Does (⟨.bounded (.platform call) limit held, .ended took result⟩ :: c)
        (⟨.platform call, result⟩ :: rest)
  /-- A call of the platform that does not. -/
  | late {call : Platform.Call} {limit : Millis} {held : Option ClusterHandle}
      {ending : Ending call.Value} {rest : List Work.Exchange} {c : Course} :
    ending.within limit = none → Does c rest →
      Does (⟨.bounded (.platform call) limit held, ending⟩ :: c) rest
  /-- A step without an operation. -/
  | idle {x : Step} {rest : List Work.Exchange} {c : Course} :
    x.question.operation? = none → Does c rest → Does (x :: c) rest

variable {c : Course} {asked : List Work.Exchange} {op : Operation} {held : Option ClusterHandle}

/-- An operation that is waited for came to its end, unless nothing follows. -/
lemma does_background_iff {result : Attempt op.Value} :
    Does (⟨.background op held, result⟩ :: c) asked ↔
      (c = [] ∧ ∃ left, Reaches op.work.run asked left) ∨
        ∃ first rest, asked = first ++ rest ∧ Ends op.work.run first result ∧ Does c rest := by
  constructor
  · intro h
    cases h with
    | background hrun hrest => exact .inr ⟨_, _, rfl, hrun, hrest⟩
    | unfinished hrun => exact .inl ⟨rfl, _, hrun⟩
    | idle hnone _ => exact nomatch hnone
  · rintro (⟨rfl, left, hrun⟩ | ⟨first, rest, rfl, hrun, hrest⟩)
    · exact .unfinished hrun
    · exact .background hrun hrest

/-- The last operation may be at any point. -/
lemma exists_of_does_singleton {result : Attempt op.Value}
    (h : Does [⟨.background op held, result⟩] asked) : ∃ left, Reaches op.work.run asked left := by
  rcases does_background_iff.1 h with ⟨-, hrun⟩ | ⟨first, rest, rfl, hrun, hrest⟩
  · exact hrun
  · cases hrest
    exact ⟨_, by rw [List.append_nil]; exact hrun.reaches⟩

/-- A call of the platform that ends within its limit is one question. -/
lemma exists_of_does_bounded (call : Platform.Call) {limit : Millis} {ending : Ending call.Value}
    {result : Attempt call.Value}
    (h : Does (⟨.bounded (.platform call) limit held, ending⟩ :: c) asked)
    (hwithin : ending.within limit = some result) :
    ∃ rest, asked = ⟨.platform call, result⟩ :: rest ∧ Does c rest := by
  cases h with
  | @inTime _ _ took _ result' rest _ htook hrest =>
    rw [Ending.within, if_pos htook] at hwithin
    exact ⟨rest, by rw [Option.some.inj hwithin], hrest⟩
  | late hlate _ => cases hlate.symm.trans hwithin
  | idle hnone _ => cases hnone

/-- A question of a course: one to the platform, or one that an operation asked up to some point. -/
def IsAskedIn (c : Course) (x : Work.Exchange) : Prop :=
  (∃ call answer, x = ⟨.platform call, answer⟩) ∨
    ∃ (op : Operation) (held : Option ClusterHandle) (result : Attempt op.Value)
      (first : List Work.Exchange) (left : Dialogue Work.Question Work.Answer (Attempt op.Value)),
      ⟨.background op held, result⟩ ∈ c ∧ Reaches op.work.run first left ∧ x ∈ first

/-- What is asked in a course is asked in a longer one. -/
lemma IsAskedIn.cons {x : Work.Exchange} (h : IsAskedIn c x) (y : Step) : IsAskedIn (y :: c) x := by
  rcases h with hplatform | ⟨op, held, result, first, left, hmem, hrun, hx⟩
  · exact .inl hplatform
  · exact .inr ⟨op, held, result, first, left, List.mem_cons_of_mem _ hmem, hrun, hx⟩

/-- Every question is one of an operation. -/
lemma Does.isAskedIn (h : Does c asked) {x : Work.Exchange} (hx : x ∈ asked) : IsAskedIn c x := by
  induction h with
  | nil => exact absurd hx List.not_mem_nil
  | background hrun _ ih =>
    rcases List.mem_append.1 hx with hx | hx
    · exact .inr ⟨_, _, _, _, _, List.mem_cons_self, hrun.reaches, hx⟩
    · exact (ih hx).cons _
  | unfinished hrun => exact .inr ⟨_, _, _, _, _, List.mem_cons_self, hrun, hx⟩
  | inTime _ _ ih =>
    rcases List.mem_cons.1 hx with rfl | hx
    · exact .inl ⟨_, _, rfl⟩
    · exact (ih hx).cons _
  | late _ _ ih => exact (ih hx).cons _
  | idle _ _ ih => exact (ih hx).cons _

/-- Operations that touch no files ask the platform, and tell the ledger something. -/
lemma Does.of_reports (h : Does c asked) (hreports : ∀ x ∈ c, x.IsReport) {x : Work.Exchange}
    (hx : x ∈ asked) :
    (∃ call answer, x = ⟨.platform call, answer⟩) ∨
      ∃ call answer held result, x = ⟨.ledger call, answer⟩ ∧ (Operation.ledger call).IsReport ∧
        ⟨.background (.ledger call) held, result⟩ ∈ c := by
  rcases h.isAskedIn hx with hplatform | ⟨op, held, result, first, left, hmem, hrun, hx⟩
  · exact .inl hplatform
  · have hop : op.IsReport := hreports _ hmem op rfl
    cases op with
    | platform call =>
      rcases Work.eq_of_reaches_platform hrun with rfl | ⟨answer, rfl⟩
      · exact absurd hx List.not_mem_nil
      · exact .inl ⟨call, answer, List.mem_singleton.1 hx⟩
    | ledger call =>
      rcases Work.eq_of_reaches_ledger hrun with rfl | ⟨answer, rfl⟩
      · exact absurd hx List.not_mem_nil
      · exact .inr ⟨call, answer, held, result, List.mem_singleton.1 hx, hop, hmem⟩
    | stage _ _ _ _ => exact hop.elim
    | verify _ => exact hop.elim
    | remove _ _ => exact hop.elim

end Task

namespace Deployment

variable {config : Config} {request : DeploymentRequest} {job : Job} {application : ApplicationId}
  {m : Manifest} {course : Task.Course} {result : Except DeployError DeploymentReport}
  {teardown : Option SupervisionReport}

/-- From the creation of a cluster to its end all operations are those of the platform. -/
lemma Lived.forall_isPlatform (hlife : Lived config job application m course result teardown) :
    ∀ x ∈ course, x.IsPlatform := by
  have hcreation : ∀ {request created}, (creation request created).IsPlatform :=
    fun _ hop => ⟨_, (Option.some.inj hop).symm⟩
  have hsubmission : ∀ {h ending}, (submission config h job ending).IsPlatform :=
    fun _ hop => ⟨_, (Option.some.inj hop).symm⟩
  have hkilled : ∀ {s : Supervisor} {h ending}, Task.Step.IsPlatform (s.killed h ending) :=
    fun _ hop => ⟨_, (Option.some.inj hop).symm⟩
  have hreleased : ∀ {h}, Task.Step.IsPlatform (Supervisor.released h) :=
    Task.Step.isPlatform_of_idle rfl
  have hkill : ∀ {s : Supervisor} {h : ClusterHandle} {kill : Task.Course}
      {report : SupervisionReport}, Ends (s.terminateNow h) kill report →
        ∀ x ∈ kill, x.IsPlatform :=
    Supervisor.forall_mem_of_ends_terminateNow (fun _ => hkilled) hreleased
  cases hlife with
  | uncreated _ => exact List.forall_mem_singleton.2 hcreation
  | unsubmitted _ hrun =>
    exact List.forall_mem_cons.2 ⟨hcreation, List.forall_mem_cons.2 ⟨hsubmission, hkill hrun⟩⟩
  | cancelled _ hrun =>
    exact List.forall_mem_cons.2 ⟨hcreation, List.forall_mem_cons.2 ⟨hsubmission,
      List.forall_mem_cons.2 ⟨Task.Step.isPlatform_of_idle rfl, hkill hrun⟩⟩⟩
  | unwatched _ _ hrun =>
    exact List.forall_mem_cons.2 ⟨hcreation, List.forall_mem_cons.2 ⟨hsubmission,
      List.forall_mem_cons.2 ⟨Task.Step.isPlatform_of_idle rfl,
        List.forall_mem_cons.2 ⟨Task.Step.isPlatform_of_idle rfl, hkill hrun⟩⟩⟩⟩
  | completed _ _ hrun =>
    have hconclude := Supervisor.forall_mem_of_ends_conclude (p := Task.Step.IsPlatform)
      (fun _ _ _ hop => ⟨_, (Option.some.inj hop).symm⟩)
      (fun _ => Task.Step.isPlatform_of_idle rfl) (fun _ => hkilled) hreleased hrun
    exact List.forall_mem_cons.2 ⟨hcreation, List.forall_mem_cons.2 ⟨hsubmission,
      List.forall_mem_cons.2 ⟨Task.Step.isPlatform_of_idle rfl,
        List.forall_mem_cons.2 ⟨Task.Step.isPlatform_of_idle rfl, hconclude⟩⟩⟩⟩

/-- What may follow the staging of artifacts: nothing touches files, and the start of the deployment
is told with the manifest that staging gave. -/
def MayFollow (staged : Attempt Manifest) (x : Task.Step) : Prop :=
  x.IsReport ∧ ∀ jobName m held answer,
    x = ⟨.background (.ledger (.recordStarted jobName m)) held, answer⟩ → staged = .ok m

/-- A step at the platform may follow staging, whatever came of it. -/
lemma mayFollow_of_isPlatform {staged : Attempt Manifest} {x : Task.Step} (h : x.IsPlatform) :
    MayFollow staged x := by
  refine ⟨h.isReport, ?_⟩
  rintro jobName m held answer rfl
  obtain ⟨call, hcall⟩ := h _ rfl
  exact nomatch hcall

/-- A record of the start with the manifest may follow staging that gave this manifest. -/
lemma mayFollow_recordStarted {jobName : String} {answer : Attempt Unit} :
    MayFollow (.ok m) (recording (.recordStarted jobName m) answer) := by
  refine ⟨fun op hop => Option.some.inj hop ▸ trivial, ?_⟩
  rintro jobName' m' held answer' heq
  cases heq
  rfl

/-- The record with which a deployment ends may follow staging, whatever came of it. -/
lemma mayFollow_closing {staged : Attempt Manifest}
    {answer : Attempt (closing application teardown result).Value} :
    MayFollow staged (recording (closing application teardown result) answer) := by
  cases result with
  | ok report => exact ⟨fun op hop => Option.some.inj hop ▸ trivial, fun _ _ _ _ heq => nomatch heq⟩
  | error e => exact ⟨fun op hop => Option.some.inj hop ▸ trivial, fun _ _ _ _ heq => nomatch heq⟩

/-- **How a deployment starts**: an application id is reserved, then the artifacts are staged. -/
lemma Ran.opening (hran : Ran true config request course result) :
    ∃ ending rest, course = allocation config ending :: rest ∧
      (rest = [] ∨ ∃ application staged tail,
        ending.within config.askTimeout = some (.ok application) ∧
          rest = staging config request application staged :: tail ∧
          ∀ x ∈ tail, MayFollow staged x) := by
  have hcancellation : ∀ {staged cancelled}, MayFollow staged (cancellation cancelled) :=
    mayFollow_of_isPlatform (Task.Step.isPlatform_of_idle rfl)
  cases hran with
  | unallocated _ => exact ⟨_, _, rfl, .inl rfl⟩
  | unstaged hallocated _ =>
    exact ⟨_, _, rfl, .inr ⟨_, _, _, Task.settleWithin_eq_ok_iff.1 hallocated, rfl,
      fun _ hx => absurd hx List.not_mem_nil⟩⟩
  | cancelled hallocated =>
    exact ⟨_, _, rfl, .inr ⟨_, _, _, Task.settleWithin_eq_ok_iff.1 hallocated, rfl,
      List.forall_mem_singleton.2 hcancellation⟩⟩
  | unrecorded hallocated hopened =>
    obtain ⟨answer, rfl, -⟩ := ends_record_true_iff.1 hopened
    exact ⟨_, _, rfl, .inr ⟨_, _, _, Task.settleWithin_eq_ok_iff.1 hallocated, rfl,
      List.forall_mem_cons.2 ⟨hcancellation, List.forall_mem_singleton.2 mayFollow_recordStarted⟩⟩⟩
  | lived hallocated hopened hlife hclosed =>
    obtain ⟨answer, rfl, -⟩ := ends_record_true_iff.1 hopened
    obtain ⟨answer', rfl, -⟩ := ends_record_true_iff.1 hclosed
    exact ⟨_, _, rfl, .inr ⟨_, _, _, Task.settleWithin_eq_ok_iff.1 hallocated, rfl,
      List.forall_mem_cons.2 ⟨hcancellation, List.forall_mem_append.2
        ⟨List.forall_mem_singleton.2 mayFollow_recordStarted, List.forall_mem_append.2
          ⟨fun x hx => mayFollow_of_isPlatform (hlife.forall_isPlatform x hx),
            List.forall_mem_singleton.2 mayFollow_closing⟩⟩⟩⟩⟩

end Deployment

/-! ## Calls to a runtime -/

namespace Runtime

/-- Calls to a runtime with a ledger, each with its own settings. -/
inductive Call where
  | deploy (config : Config) (request : DeploymentRequest)
  | cleanup (application : ApplicationId) (label : String)

/-- What a call asks up to some point. -/
def Call.Asks (asked : List Work.Exchange) : Call → Prop
  | .deploy config request => ∃ course left,
      Reaches (Deployment.run true config request) course left ∧ Task.Does course asked
  | .cleanup application label => ∃ course left,
      Reaches (Deployment.cleanup true application label) course left ∧ Task.Does course asked

variable {config : Config} {request : DeploymentRequest} {home label : String}
  {id : ApplicationId} {asked : List Work.Exchange}

/-- The reservation of an application id. -/
abbrev allocated (id : ApplicationId) : Work.Exchange :=
  ⟨.platform .newApplication, .ok id⟩

/-- The start of a deployment is recorded. -/
abbrev started (jobName : String) (m : Manifest) : Work.Exchange :=
  ⟨.ledger (.recordStarted jobName m), .ok ()⟩

/-- The cleanup of a deployment that the ledger knows is recorded. -/
abbrev marked (id : ApplicationId) : Work.Exchange :=
  ⟨.ledger (.markCleaned id), .ok true⟩

/-- How the questions of a deployment and their answers fit together. -/
structure Deploys (config : Config) (home : String) (asked : List Work.Exchange) : Prop where
  /-- It deletes nothing. -/
  removes : ∀ x ∈ asked, ∀ dir, x.question ≠ .storage (.deleteRecursive dir)
  /-- It reports no cleanup. -/
  marks : ∀ x ∈ asked, ∀ id, x.question ≠ .ledger (.markCleaned id)
  /-- It writes files of the directory of its application only. -/
  uploads : ∀ x ∈ asked, ∀ path, Uploads path x → ∃ id name, allocated id ∈ asked ∧
    Storage.IsFileName name ∧
      path = Storage.remotePath (Storage.stagingDir home config.stagingPrefix id) name
  /-- When its start is recorded all artifacts were written to the directory of its application. -/
  starts : ∀ jobName m, started jobName m ∈ asked → allocated m.applicationId ∈ asked ∧
    ∀ a ∈ m.artifacts, (∃ x ∈ asked, Uploads a.remotePath x) ∧
      ∃ name, Storage.IsFileName name ∧ a.remotePath =
        Storage.remotePath (Storage.stagingDir home config.stagingPrefix m.applicationId) name

/-- How the questions of a cleanup and their answers fit together. -/
structure Cleans (home : String) (id : ApplicationId) (label : String)
    (asked : List Work.Exchange) : Prop where
  /-- It deletes one directory and reports one cleanup. -/
  questions : ∀ x ∈ asked, x.question = .storage .homeDirectory ∨
    x.question = .storage (.deleteRecursive (Storage.stagingDir home label id)) ∨
      x.question = .ledger (.markCleaned id)
  /-- Before it reports that, it deleted the directory. -/
  marks : ∀ x ∈ asked, x.question = .ledger (.markCleaned id) → ∃ removed,
    ⟨.storage (.deleteRecursive (Storage.stagingDir home label id)), .ok removed⟩ ∈ asked

/-- The parts of the questions of a deployment: those of the platform for an application id, those
of staging and those of what follows, as far as the deployment came. -/
lemma parts_of_asks (h : (Call.deploy config request).Asks asked) :
    (∀ x ∈ asked, ∃ call answer, x = ⟨.platform call, answer⟩) ∨
      ∃ application staged first left rest tail, asked = allocated application :: (first ++ rest) ∧
        Reaches (Staging.stage application config.stagingPrefix request.entries
          config.replication).run first left ∧
        Task.Does tail rest ∧ (∀ x ∈ tail, Deployment.MayFollow staged x) ∧
        (tail ≠ [] → Ends (Staging.stage application config.stagingPrefix request.entries
          config.replication).run first staged) := by
  obtain ⟨course, left, hreaches, hdoes⟩ := h
  obtain ⟨later, result, -, hends⟩ := Dialogue.exists_ends_of_reaches hreaches
  obtain ⟨ending, rest, hcourse, hrest⟩ := (Deployment.ran_of_ends hends).opening
  match course with
  | [] =>
    cases hdoes
    exact .inl fun _ hx => absurd hx List.not_mem_nil
  | [first] =>
    obtain ⟨rfl, -⟩ := List.cons.inj hcourse
    refine .inl fun x hx => (hdoes.isAskedIn hx).resolve_right ?_
    rintro ⟨op, held, result, _, _, hmem, -⟩
    exact nomatch List.mem_singleton.1 hmem
  | first :: second :: tail =>
    obtain ⟨rfl, hsecond⟩ := List.cons.inj hcourse
    rcases hrest with rfl | ⟨application, staged, _, hallocated, rfl, hfollows⟩
    · exact nomatch hsecond
    obtain ⟨rfl, rfl⟩ := List.cons.inj hsecond
    obtain ⟨rest, rfl, hstaged⟩ := Task.exists_of_does_bounded .newApplication hdoes hallocated
    have htail : ∀ x ∈ tail, Deployment.MayFollow staged x := fun x hx =>
      hfollows x (List.mem_append_left _ hx)
    rcases Task.does_background_iff.1 hstaged with
      ⟨rfl, left, hrun⟩ | ⟨first, rest, rfl, hrun, hdone⟩
    · exact .inr ⟨application, staged, rest, left, [], [], by rw [List.append_nil], hrun, .nil,
        htail, fun hne => absurd rfl hne⟩
    · exact .inr ⟨application, staged, first, _, rest, tail, rfl, hrun.reaches, hdone, htail,
        fun _ => hrun⟩

/-- **The questions of a deployment.**

**Proof sketch.** A question is one to the platform, one of staging, or something that is told to
the ledger after staging. If the start is told, staging came to its end, and what is told is the
manifest that it gave. -/
lemma deploys_of_asks (h : (Call.deploy config request).Asks asked)
    (hhome : ∀ x ∈ asked, AnswersHome home x.question x.answer) : Deploys config home asked := by
  rcases parts_of_asks h with hplatform |
    ⟨application, staged, first, left, rest, tail, rfl, hstage, hdoes, htail, hends⟩
  · constructor
    · intro x hx dir hquestion
      obtain ⟨call, answer, rfl⟩ := hplatform x hx
      exact nomatch hquestion
    · intro x hx id hquestion
      obtain ⟨call, answer, rfl⟩ := hplatform x hx
      exact nomatch hquestion
    · rintro x hx path ⟨localPath, rfl⟩
      obtain ⟨call, answer, heq⟩ := hplatform _ hx
      exact nomatch heq
    · intro jobName m hx
      obtain ⟨call, answer, heq⟩ := hplatform _ hx
      exact nomatch heq
  have hfirst := hstage.forall_asked (Staging.asks_stage_home home _ _ _ _) fun x hx =>
    hhome x (by simp [hx])
  -- what is asked is for the platform, or for staging, or one of the records
  have hkind : ∀ x ∈ allocated application :: (first ++ rest),
      (∃ call answer, x = ⟨.platform call, answer⟩) ∨
      Staging.IsStagingQuestion (Storage.stagingDir home config.stagingPrefix application)
        x.question ∨
      ∃ call answer held result, x = ⟨.ledger call, answer⟩ ∧ (Operation.ledger call).IsReport ∧
        ⟨.background (.ledger call) held, result⟩ ∈ tail := by
    refine List.forall_mem_cons.2 ⟨.inl ⟨_, _, rfl⟩, List.forall_mem_append.2
      ⟨fun x hx => .inr (.inl (hfirst x hx)), fun x hx => ?_⟩⟩
    exact (hdoes.of_reports (fun x hx => (htail x hx).1) hx).imp_right .inr
  constructor
  · intro x hx dir hquestion
    rcases hkind x hx with ⟨call, answer, rfl⟩ | hstaging | ⟨call, answer, _, _, rfl, -⟩
    · exact nomatch hquestion
    · rw [hquestion] at hstaging
      exact hstaging
    · exact nomatch hquestion
  · intro x hx id hquestion
    rcases hkind x hx with ⟨call, answer, rfl⟩ | hstaging | ⟨call, answer, _, _, rfl, hreport, -⟩
    · exact nomatch hquestion
    · rw [hquestion] at hstaging
      exact hstaging
    · rw [Work.Question.ledger.inj hquestion] at hreport
      exact hreport
  · rintro x hx path ⟨localPath, rfl⟩
    rcases hkind _ hx with ⟨call, answer, heq⟩ | ⟨name, hname, hpath⟩ | ⟨call, answer, _, _, heq, -⟩
    · exact nomatch heq
    · exact ⟨application, name, List.mem_cons_self, hname, hpath⟩
    · exact nomatch heq
  · intro jobName m hx
    rcases hkind _ hx with ⟨call, answer, heq⟩ | hstaging | ⟨_, _, _, _, heq, -, hmem⟩
    · exact nomatch heq
    · exact hstaging.elim
    · cases heq
      -- the manifest that is recorded is the one that staging gave
      obtain rfl := (htail _ hmem).2 _ _ _ _ rfl
      have hrun := hends (List.ne_nil_of_mem hmem)
      rw [Staging.applicationId_of_ends_stage hrun]
      refine ⟨List.mem_cons_self, fun a ha => ?_⟩
      obtain ⟨x, hx, localPath, rfl⟩ := Staging.exists_uploads_of_ends_stage hrun a ha
      exact ⟨⟨_, by simp [hx], localPath, rfl⟩, hfirst _ hx⟩

/-- The courses of a cleanup. -/
lemma course_of_ends_cleanup {course : Task.Course} {result : Except DeployError Bool}
    (hrun : Ends (Deployment.cleanup true id label) course result) :
    ∃ removed rest, course = ⟨.background (.remove id label) none, removed⟩ :: rest ∧
      (rest = [] ∨ ∃ answer, rest = [Deployment.recording (.markCleaned id) answer] ∧
        ∃ value, removed = .ok value) := by
  unfold Deployment.cleanup Task.remove Task.staging at hrun
  obtain ⟨c₁, c₂, settled, rfl, hremove, hrest⟩ := Dialogue.ends_bind_iff.1 hrun
  obtain ⟨removal, hrun, rfl⟩ := Dialogue.ends_bind_pure_iff.1 hremove
  obtain ⟨removed, rfl, rfl⟩ := Task.ends_background_iff.1 hrun
  refine ⟨removed, c₂, rfl, ?_⟩
  cases hsettled : (removed.settle Stage.staging (some id)).mapError Task.asStagingError with
  | error e =>
    rw [hsettled] at hrest
    exact .inl (Dialogue.ends_pure_iff.1 hrest).1
  | ok value =>
    rw [hsettled] at hrest
    obtain ⟨r, hrecord, -⟩ := Dialogue.ends_bind_pure_iff.1 hrest
    obtain ⟨answer, rfl, -⟩ := Deployment.ends_record_true_iff.1 hrecord
    exact .inr ⟨answer, rfl, value, Task.settle_eq_ok_iff.1 (Task.mapError_eq_ok_iff.1 hsettled)⟩

/-- **The questions of a cleanup.** -/
lemma cleans_of_asks (h : (Call.cleanup id label).Asks asked)
    (hhome : ∀ x ∈ asked, AnswersHome home x.question x.answer) : Cleans home id label asked := by
  obtain ⟨course, left, hreaches, hdoes⟩ := h
  obtain ⟨later, result, -, hends⟩ := Dialogue.exists_ends_of_reaches hreaches
  obtain ⟨removed, rest, hcourse, hrest⟩ := course_of_ends_cleanup hends
  have hremoval : ∀ {first : List Work.Exchange} {left}, (∀ x ∈ first, x ∈ asked) →
      Reaches (Staging.remove id label).run first left → ∀ x ∈ first,
        Staging.IsRemovalQuestion (Storage.stagingDir home label id) x.question :=
    fun hmem hrun => hrun.forall_asked (Staging.asks_remove_home home id label) fun x hx =>
      hhome x (hmem x hx)
  match course with
  | [] =>
    cases hdoes
    exact ⟨fun _ hx => absurd hx List.not_mem_nil, fun _ hx => absurd hx List.not_mem_nil⟩
  | [first] =>
    -- It did not come to its report.
    obtain ⟨rfl, -⟩ := List.cons.inj hcourse
    obtain ⟨left, hrun⟩ := Task.exists_of_does_singleton hdoes
    have hquestions := hremoval (fun _ hx => hx) hrun
    refine ⟨fun x hx => (hquestions x hx).imp_right .inl, fun x hx hmark => ?_⟩
    rcases hquestions x hx with hquestion | hquestion <;> exact nomatch hmark.symm.trans hquestion
  | first :: second :: tail =>
    obtain ⟨rfl, hsecond⟩ := List.cons.inj hcourse
    rcases hrest with rfl | ⟨answer, rfl, value, rfl⟩
    · exact nomatch hsecond
    obtain ⟨rfl, htail⟩ := List.cons.inj hsecond
    obtain ⟨rfl, -⟩ := List.append_eq_nil_iff.1 htail
    obtain ⟨hnil, -⟩ | ⟨first, rest, rfl, hrun, hreport⟩ := Task.does_background_iff.1 hdoes
    · exact nomatch hnil
    have hquestions := hremoval (fun _ hx => List.mem_append_left _ hx) hrun.reaches
    have hremoved := Staging.mem_of_ends_remove hrun fun x hx =>
      hhome x (List.mem_append_left _ hx)
    refine ⟨List.forall_mem_append.2 ⟨fun x hx => (hquestions x hx).imp_right .inl, fun x hx => ?_⟩,
      fun _ _ _ => ⟨value, List.mem_append_left _ hremoved⟩⟩
    obtain ⟨left, hreport⟩ := Task.exists_of_does_singleton hreport
    rcases Work.eq_of_reaches_ledger hreport with rfl | ⟨answer, rfl⟩
    · exact absurd hx List.not_mem_nil
    · rw [List.mem_singleton.1 hx]
      exact .inr (.inr rfl)

end Runtime

end ClusterDeploy
