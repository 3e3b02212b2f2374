import ClusterDeploy.Ledger.Store
import ClusterDeploy.Proofs.Platform.Conversations
import ClusterDeploy.Proofs.Task.Course

set_option relaxedAutoImplicit false
set_option autoImplicit false

/-!
# Tasks served by a resource manager and a ledger

The platform of a task may be a resource manager, which the task talks to by requests, and its
ledger a database. Then the course of the task is tied to what was said and to what was written.

## Main definitions

* `Task.Answers` — what is said to the resource manager in a step, and what the ledger writes.
* `Task.Served` — the same for a whole course.

## Main results

* `Task.served_append_iff` — a course is served part by part.
* `Task.Served.not_isSubmission` — where no cluster is created none is asked for.

## Implementation notes

What an operation says counts to its step, also if the task no longer waits for it: an operation
that is too late may have said any first part of what it says. So what is said in later steps, and
later in the same step, was said later. How a job is watched does not matter here, except that all
its requests are questions. The ledger fails no call. -/

namespace ClusterDeploy

/-- The manifest of staged artifacts is that of the application that they were staged for. -/
lemma Staging.applicationId_of_ends_stage {application : ApplicationId} {label : String}
    {entries : List ArtifactEntry} {factor : Option UInt16} {m : Manifest}
    {asked : List (Dialogue.Exchange Work.Question Work.Answer)}
    (hrun : Dialogue.Ends (Staging.stage application label entries factor).run asked (.ok m)) :
    m.applicationId = application := by
  have hend : ∀ {dir : String} {replication : Replication}
      {asked : List (Dialogue.Exchange Work.Question Work.Answer)},
      Dialogue.Ends (ExceptT.run (m := Dialogue Work.Question Work.Answer) do
        let artifacts ← Staging.uploadAll dir factor entries
        return ⟨application, dir, artifacts, replication⟩) asked (.ok m) →
      m.applicationId = application := by
    intro dir replication asked hupload
    obtain ⟨_, _, artifacts, -, -, hend⟩ := Dialogue.ends_run_bind_ok_iff.1 hupload
    rw [Except.ok.inj (Dialogue.ends_run_pure_iff.1 hend).2]
  unfold Staging.stage at hrun
  obtain ⟨_, _, _, -, -, hhome⟩ := Dialogue.ends_run_bind_ok_iff.1 hrun
  obtain ⟨_, _, home, -, -, hfactor⟩ := Dialogue.ends_run_bind_ok_iff.1 hhome
  cases factor with
  | none =>
    obtain ⟨_, _, replication, -, -, hupload⟩ := Dialogue.ends_run_bind_ok_iff.1 hfactor
    exact hend hupload
  | some n =>
    obtain ⟨_, _, replication, -, -, hupload⟩ := Dialogue.ends_run_bind_ok_iff.1 hfactor
    exact hend hupload

namespace Task

open Dialogue (Ends Reaches)
open Ledger (Database)

/-- What is said to a resource manager in a step, and the database of the ledger before and after.
-/
inductive Answers (rm : ResourceManager) :
    Step → Http.Conversation → Database → Database → Prop where
  /-- An operation of the platform, however long it takes. -/
  | background {call : Platform.Call} {held : Option ClusterHandle} {talk : Http.Conversation}
      {r : Except DeployError call.Value} {db : Database} :
    Ends (rm.answer call).run talk r →
    Answers rm ⟨.background (.platform call) held, r.mapError .failed⟩ talk db db
  /-- An operation of the platform that ends within its limit. -/
  | inTime {call : Platform.Call} {limit took : Millis} {held : Option ClusterHandle}
      {talk : Http.Conversation} {r : Except DeployError call.Value} {db : Database} :
    took < limit → Ends (rm.answer call).run talk r →
    Answers rm ⟨.bounded (.platform call) limit held, .ended took (r.mapError .failed)⟩ talk db db
  /-- An operation of the platform that does not. -/
  | late {call : Platform.Call} {limit : Millis} {held : Option ClusterHandle}
      {ending : Ending call.Value} {talk : Http.Conversation}
      {left : Http.Client (Except DeployError call.Value)} {db : Database} :
    ending.within limit = none → Reaches (rm.answer call).run talk left →
    Answers rm ⟨.bounded (.platform call) limit held, ending⟩ talk db db
  /-- A call to the ledger. -/
  | ledger {call : Ledger.Call} {held : Option ClusterHandle} {now : Int} {value : call.Value}
      {db db' : Database} :
    (call.action now).runOn .writing db = (.ok value, db') →
    Answers rm ⟨.background (.ledger call) held, .ok value⟩ [] db db'
  /-- Work with the storage. -/
  | staging {application : ApplicationId} {label : String} {entries : List ArtifactEntry}
      {factor : Option UInt16} {held : Option ClusterHandle} {result : Attempt Manifest}
      {asked : List (Dialogue.Exchange Work.Question Work.Answer)} {db : Database} :
    Ends (Staging.stage application label entries factor).run asked result →
    Answers rm ⟨.background (.stage application label entries factor) held, result⟩ [] db db
  /-- The wait for the end of a job. -/
  | watch {job : RunningJob} {timeout : Option Millis} {held : Option ClusterHandle}
      {watched : Watched} {talk : Http.Conversation} {db : Database} :
    (∀ x ∈ talk, ∃ url response, Ends (Http.send "GET" url [] none) [x] response) →
    Answers rm ⟨.watch job timeout held, watched⟩ talk db db
  | pause {span : Millis} {held : Option ClusterHandle} {db : Database} :
    Answers rm ⟨.pause span held, ()⟩ [] db db
  | isCancelled {cancelled : Bool} {db : Database} :
    Answers rm ⟨.isCancelled, cancelled⟩ [] db db
  | release {h : ClusterHandle} {db : Database} :
    Answers rm ⟨.release h, ()⟩ [] db db

/-- What is said to a resource manager in a course, and the database of the ledger before and after.
-/
inductive Served (rm : ResourceManager) :
    Course → Http.Conversation → Database → Database → Prop where
  | nil {db : Database} : Served rm [] [] db db
  | cons {x : Step} {course : Course} {talk said : Http.Conversation} {db db' db'' : Database} :
    Answers rm x talk db db' → Served rm course said db' db'' →
      Served rm (x :: course) (talk ++ said) db db''

variable {rm : ResourceManager} {x : Step} {course c d : Course} {talk said : Http.Conversation}
  {db db' : Database}

/-! ## Steps -/

/-- Only the creation of a cluster asks for one. -/
lemma Answers.not_isSubmission (hx : Answers rm x talk db db') (hnot : x.isCreation = false) :
    ∀ y ∈ talk, ¬ResourceManager.IsSubmission y := by
  cases hx with
  | @background call _ _ _ _ hrun =>
    exact ResourceManager.not_isSubmission_of_ends (fun request h => by simp [h] at hnot) hrun
  | @inTime call _ _ _ _ _ _ _ hrun =>
    exact ResourceManager.not_isSubmission_of_ends (fun request h => by simp [h] at hnot) hrun
  | @late call _ _ _ _ _ _ _ hrun =>
    exact ResourceManager.not_isSubmission_of_reaches (fun request h => by simp [h] at hnot) hrun
  | watch hgets =>
    intro y hy
    obtain ⟨url, response, hget⟩ := hgets y hy
    exact ResourceManager.not_isSubmission_of_ends_send (.inl (by decide)) hget y
      (List.mem_singleton_self y)
  | ledger _ => exact fun _ hy => absurd hy List.not_mem_nil
  | staging _ => exact fun _ hy => absurd hy List.not_mem_nil
  | pause => exact fun _ hy => absurd hy List.not_mem_nil
  | isCancelled => exact fun _ hy => absurd hy List.not_mem_nil
  | release => exact fun _ hy => absurd hy List.not_mem_nil

/-- Only calls to the ledger change its database. -/
lemma Answers.db_eq (hx : Answers rm x talk db db') (hnot : x.isRecording = false) : db' = db := by
  cases hx with
  | ledger _ => exact absurd hnot (by simp)
  | _ => rfl

/-- An operation of the platform that gave a value said all that it says. -/
lemma ends_of_answers_background (call : Platform.Call) {held : Option ClusterHandle}
    {value : call.Value}
    (hx : Answers rm ⟨.background (.platform call) held, .ok value⟩ talk db db') :
    Ends (rm.answer call).run talk (.ok value) := by
  generalize hresult : (Except.ok value : Attempt call.Value) = result at hx
  cases hx with
  | @background _ _ _ r _ hrun =>
    cases r with
    | error e => exact nomatch hresult
    | ok a => rwa [← Except.ok.inj hresult] at hrun

/-- The manifest of staged artifacts is that of the application that they were staged for. -/
lemma applicationId_of_answers {application : ApplicationId} {label : String}
    {entries : List ArtifactEntry} {factor : Option UInt16} {held : Option ClusterHandle}
    {m : Manifest}
    (hx : Answers rm ⟨.background (.stage application label entries factor) held, .ok m⟩ talk db
      db') : m.applicationId = application := by
  generalize hresult : (Except.ok m : Attempt Manifest) = result at hx
  cases hx with
  | staging hrun => exact Staging.applicationId_of_ends_stage (hresult ▸ hrun)

/-- An operation of the platform that gave a value in time said all that it says. -/
lemma ends_of_answers_bounded (call : Platform.Call) {limit : Millis}
    {held : Option ClusterHandle} {ending : Ending call.Value} {value : call.Value}
    (hx : Answers rm ⟨.bounded (.platform call) limit held, ending⟩ talk db db')
    (hvalue : ending.within limit = some (.ok value)) :
    Ends (rm.answer call).run talk (.ok value) := by
  cases hx with
  | @inTime _ _ took _ _ r _ htook hrun =>
    have hwithin : r.mapError Mishap.failed = .ok value := by
      simpa [Ending.within, htook] using hvalue
    cases r with
    | error e => exact nomatch hwithin
    | ok a => rwa [Except.ok.inj hwithin] at hrun
  | late hlate _ => exact absurd (hlate.symm.trans hvalue) (by simp)

/-! ## Courses -/

/-- Nothing is said in a course without steps, and the database stays as it is. -/
@[simp]
lemma served_nil_iff : Served rm [] said db db' ↔ said = [] ∧ db' = db := by
  constructor
  · rintro ⟨⟩
    exact ⟨rfl, rfl⟩
  · rintro ⟨rfl, rfl⟩
    exact .nil

/-- A course is served step by step. -/
lemma served_cons_iff :
    Served rm (x :: course) said db db' ↔ ∃ talk rest db₁, said = talk ++ rest ∧
      Answers rm x talk db db₁ ∧ Served rm course rest db₁ db' := by
  constructor
  · rintro (_ | ⟨hx, hcourse⟩)
    exact ⟨_, _, _, rfl, hx, hcourse⟩
  · rintro ⟨talk, rest, db₁, rfl, hx, hcourse⟩
    exact .cons hx hcourse

/-- A course is served part by part. -/
lemma served_append_iff :
    Served rm (c ++ d) said db db' ↔ ∃ said₁ said₂ db₁, said = said₁ ++ said₂ ∧
      Served rm c said₁ db db₁ ∧ Served rm d said₂ db₁ db' := by
  induction c generalizing said db with
  | nil =>
    constructor
    · exact fun h => ⟨[], said, db, rfl, .nil, h⟩
    · rintro ⟨said₁, said₂, db₁, rfl, hc, hd⟩
      obtain ⟨rfl, rfl⟩ := served_nil_iff.1 hc
      exact hd
  | cons x c ih =>
    rw [List.cons_append, served_cons_iff]
    constructor
    · rintro ⟨talk, rest, db₁, rfl, hx, hrest⟩
      obtain ⟨said₁, said₂, db₂, rfl, hc, hd⟩ := ih.1 hrest
      exact ⟨talk ++ said₁, said₂, db₂, (List.append_assoc _ _ _).symm, .cons hx hc, hd⟩
    · rintro ⟨said₁, said₂, db₂, rfl, hxc, hd⟩
      obtain ⟨talk, rest, db₁, rfl, hx, hc⟩ := served_cons_iff.1 hxc
      exact ⟨talk, rest ++ said₂, db₁, List.append_assoc _ _ _, hx,
        ih.2 ⟨rest, said₂, db₂, rfl, hc, hd⟩⟩

/-- A call to the ledger succeeds, and nothing is said to the resource manager. -/
lemma runOn_of_served (call : Ledger.Call) {held : Option ClusterHandle}
    {result : Attempt call.Value}
    (h : Served rm [⟨.background (.ledger call) held, result⟩] said db db') :
    said = [] ∧ ∃ now value, (call.action now).runOn .writing db = (.ok value, db') := by
  obtain ⟨talk, rest, db₁, rfl, hx, hnil⟩ := served_cons_iff.1 h
  obtain ⟨rfl, rfl⟩ := served_nil_iff.1 hnil
  cases hx with
  | ledger hrun => exact ⟨rfl, _, _, hrun⟩

namespace Served

/-- What is said in a step is said in the course. -/
lemma exists_answers (h : Served rm course said db db') (hx : x ∈ course) :
    ∃ talk db₁ db₂, Answers rm x talk db₁ db₂ ∧ ∀ y ∈ talk, y ∈ said := by
  induction h with
  | nil => exact absurd hx List.not_mem_nil
  | @cons x' course talk said _ _ _ hx' _ ih =>
    rcases List.mem_cons.1 hx with rfl | hx
    · exact ⟨talk, _, _, hx', fun y hy => List.mem_append_left said hy⟩
    · obtain ⟨talk', db₁, db₂, hanswers, hmem⟩ := ih hx
      exact ⟨talk', db₁, db₂, hanswers, fun y hy => List.mem_append_right talk (hmem y hy)⟩

/-- Where no cluster is created none is asked for. -/
lemma not_isSubmission (h : Served rm course said db db')
    (hnot : ∀ x ∈ course, x.isCreation = false) : ∀ y ∈ said, ¬ResourceManager.IsSubmission y := by
  induction h with
  | nil => exact fun _ hy => absurd hy List.not_mem_nil
  | cons hx _ ih =>
    obtain ⟨hfirst, hrest⟩ := List.forall_mem_cons.1 hnot
    exact List.forall_mem_append.2 ⟨hx.not_isSubmission hfirst, ih hrest⟩

/-- Where the ledger is told nothing its database stays as it is. -/
lemma db_eq (h : Served rm course said db db') (hnot : ∀ x ∈ course, x.isRecording = false) :
    db' = db := by
  induction h with
  | nil => rfl
  | cons hx _ ih =>
    obtain ⟨hfirst, hrest⟩ := List.forall_mem_cons.1 hnot
    rw [ih hrest, hx.db_eq hfirst]

end Served

end Task

end ClusterDeploy
