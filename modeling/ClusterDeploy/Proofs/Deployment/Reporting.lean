import ClusterDeploy.Proofs.Deployment.Orphans

set_option relaxedAutoImplicit false
set_option autoImplicit false

/-!
# What a report says of the cluster

A deployment that gives a report had a cluster, and closed the connection to it. If the report has
no error of teardown, the cluster is gone by what the platform said: a poll saw it finished, or an
attempt to kill it worked. On a resource manager these are two of its answers.

## Main definitions

* `Task.Step.TalkedTo` — what was said to a resource manager in a step.

## Main results

* `Deployment.ended_of_report` — the cluster of a report without an error of teardown is gone.

## Implementation notes

Here the ledger and the storage may answer anything, and so may the platform where it gives no
value: only a value that comes in time is tied to the conversation that gave it.
-/

namespace ClusterDeploy

open Dialogue (Ends)

/-- What was said to a resource manager in a step: a value that an operation of the platform gave in
time is what the resource manager answered. -/
def Task.Step.TalkedTo (rm : ResourceManager) (talk : Http.Conversation) : Task.Step → Prop
  | ⟨.background (.platform call) _, result⟩ =>
    ∀ value, result = .ok value → Ends (rm.answer call).run talk (.ok value)
  | ⟨.bounded (.platform call) limit _, ending⟩ =>
    ∀ value, ending.within limit = some (.ok value) → Ends (rm.answer call).run talk (.ok value)
  | _ => True

namespace Task.Step

variable {rm : ResourceManager} {talk : Http.Conversation} {call : Platform.Call}
  {held : Option ClusterHandle} {value : call.Value}

/-- What was said for a call that gave a value. -/
lemma talkedTo_background (hrun : Ends (rm.answer call).run talk (.ok value)) :
    TalkedTo rm talk ⟨.background (.platform call) held, .ok value⟩ := by
  rintro value' heq
  rwa [← Except.ok.inj heq]

/-- What was said for a call that gave a value within its limit. -/
lemma talkedTo_bounded {took limit : Millis} (htook : took < limit)
    (hrun : Ends (rm.answer call).run talk (.ok value)) :
    TalkedTo rm talk ⟨.bounded (.platform call) limit held, .ended took (.ok value)⟩ := by
  rintro value' heq
  rw [Ending.within, if_pos htook] at heq
  rwa [← Except.ok.inj (Option.some.inj heq)]

end Task.Step

namespace Deployment

variable {rm : ResourceManager} {hasLedger : Bool} {config : Config} {request : DeploymentRequest}
  {job : Job} {application : ApplicationId} {m : Manifest} {life : Task.Course}
  {report : DeploymentReport} {teardown : Option SupervisionReport} {h : ClusterHandle}

/-- A cluster that was concluded without an error of teardown is gone. -/
lemma termination_of_ends_conclude {s : Supervisor} {conclusion : Task.Course}
    {supervision : SupervisionReport} (hrun : Ends (s.conclude h) conclusion supervision)
    (hnone : supervision.teardownError = none) : supervision.termination ≠ .running := by
  obtain ⟨polls, count, ⟨-, -, rfl⟩ | ⟨-, ending, -, rfl⟩⟩ := Supervisor.ends_conclude_iff.1 hrun
  · exact nofun
  · by_cases hend : ending.within s.callTimeout = some (.ok ())
    · simp [Supervisor.verdict_of_success hend]
    · obtain ⟨e, -, hverdict⟩ := Supervisor.verdict_of_failure (h := h) hend
      simp [hverdict] at hnone

/-- No cluster may be running of which there is a report without an error of teardown. -/
lemma Lived.not_mayBeRunning (hlife : Lived config job application m life (.ok report) teardown)
    (hnone : report.teardownError = none) : mayBeRunning teardown = false := by
  cases hlife with
  | completed _ _ hconclude =>
    have hgone := termination_of_ends_conclude hconclude hnone
    simpa [mayBeRunning, hgone] using hnone

/-- The steps of a deployment that gives a report, from the creation of its cluster on. -/
lemma exists_lived_of_report {course : Task.Course}
    (hrun : Ends (run hasLedger config request) course (.ok report)) :
    ∃ application life supervision, (∀ x ∈ life, x ∈ course) ∧ course.handles = life.handles ∧
        Lived config request.job application report.manifest life (.ok report)
          (some supervision) := by
  cases ran_of_ends hrun with
  | @lived ending application m opening life last _ teardown _ _ hopened hlife hclosed =>
    have hquiet : ∀ {call : Ledger.Call} {steps : Task.Course} {r : Except DeployError Unit}
        {id : ApplicationId}, Ends (record hasLedger id call) steps r → steps.handles = [] := by
      intro call steps r id hrecord
      refine List.filterMap_eq_nil_iff.2 fun x hx => ?_
      obtain ⟨answer, rfl⟩ := exists_answer_of_mem_record hrecord hx
      simp
    obtain ⟨hmanifest, supervision, rfl⟩ : report.manifest = m ∧ ∃ s, teardown = some s := by
      cases hlife
      exact ⟨rfl, _, rfl⟩
    refine ⟨application, life, supervision, fun x hx => by simp [hx], ?_, hmanifest ▸ hlife⟩
    simp [hquiet hopened, hquiet hclosed]

/-- **The cluster of a report without an error of teardown is gone.** There was one cluster, and its
connection was closed; and the resource manager said that it is over or accepted a request to kill
it.

**Proof sketch.** What is known of the end of a cluster (`Lived.ends_well`) leaves three cases, and
without an error of teardown the cluster is not one that may be running. The poll that saw it
finished, or the attempt to kill it, gave a value in time, which is an answer of the resource
manager. -/
lemma ended_of_report {talked : List (Task.Step × Http.Conversation)}
    (hrun : Ends (run hasLedger config request) (talked.map Prod.fst) (.ok report))
    (htalked : ∀ p ∈ talked, p.1.TalkedTo rm p.2) (hnone : report.teardownError = none) :
    ∃ h, Task.Course.handles (talked.map Prod.fst) = [h] ∧
      h.applicationId = report.manifest.applicationId ∧
      Supervisor.released h ∈ talked.map Prod.fst ∧
      ∃ p ∈ talked, ∃ y ∈ p.2, rm.ReportedFinal h.applicationId y ∨
        rm.KillAccepted h.applicationId y := by
  obtain ⟨application, life, supervision, hmem, hhandles, hlife⟩ := exists_lived_of_report hrun
  have hsaid : ∀ x ∈ life, ∃ p ∈ talked, x.TalkedTo rm p.2 := by
    intro x hx
    obtain ⟨p, hp, rfl⟩ := List.mem_map.1 (hmem x hx)
    exact ⟨p, hp, htalked p hp⟩
  have hgone := hlife.not_mayBeRunning hnone
  rcases hlife.ends_well with ⟨-, hnothing⟩ | ⟨h, steps, _, rfl, hsome, heq, hends⟩
  · exact nomatch hnothing
  · obtain ⟨h', hone, hreleased⟩ := hlife.released_mem.resolve_left hsome
    obtain rfl : h = h' := by simpa using (List.cons.inj (hone.symm.trans rfl)).1.symm
    refine ⟨h, hhandles.trans hone, ?_, hmem _ hreleased, ?_⟩
    · obtain ⟨p, -, htalk⟩ := hsaid _ List.mem_cons_self
      exact ResourceManager.applicationId_of_ends_createCluster (htalk h rfl)
    · rcases hends with ⟨limit, ending, hpoll, hwithin⟩ | ⟨s, ending, hkill, hwithin⟩ | hrunning
      · obtain ⟨p, hp, htalk⟩ := hsaid _ (List.mem_cons_of_mem _ hpoll)
        obtain ⟨y, hy, hfinal⟩ := ResourceManager.final_of_ends_queryStatus (htalk _ hwithin)
        exact ⟨p, hp, y, hy, .inl hfinal⟩
      · obtain ⟨p, hp, htalk⟩ := hsaid _ (List.mem_cons_of_mem _ hkill)
        obtain ⟨y, hy, hkilled⟩ := ResourceManager.kill_of_ends_forceKill (htalk _ hwithin)
        exact ⟨p, hp, y, hy, .inr hkilled⟩
      · rw [← heq, hgone] at hrunning
        exact absurd hrunning Bool.false_ne_true

end Deployment

end ClusterDeploy
