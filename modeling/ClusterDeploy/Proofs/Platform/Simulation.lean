import Mathlib.Algebra.GroupWithZero.Nat
import Mathlib.Algebra.Order.BigOperators.Group.List
import Mathlib.Algebra.Order.Group.Nat
import Mathlib.Data.List.Nodup
import Mathlib.Data.UInt
import Mathlib.Tactic.Lemma
import ClusterDeploy.Platform.Simulated

set_option relaxedAutoImplicit false
set_option autoImplicit false

/-!
# Uses of the simulated platform

What is done with a simulated platform, one thing after the other, is a trace. Only the clusters and
jobs that come from the platform itself are used on it. This module shows what the platform knows of
its applications after a trace: it is what was done with each of them, and its counters agree with
it.

## Main definitions

* `RunningJob.ticket?` — the ticket with which a job waits.
* `SimulatedPlatform.Deed`, `SimulatedPlatform.Does` — one use of a platform, and what it does.
* `SimulatedPlatform.Effect` — the effects that a use may have.
* `SimulatedPlatform.Trace`, `SimulatedPlatform.Used` — the uses of a platform from its start on.
* `SimulatedPlatform.Told` — what was done with an application.
* `SimulatedPlatform.total`, `SimulatedPlatform.amount` — what a counter of the applications amounts
  to, as a counter and as a number.
* `SimulatedPlatform.Balanced` — the counters agree with the applications.

## Main results

* `SimulatedPlatform.effect_of_does` — what one use does, case by case.
* `SimulatedPlatform.applications_of_effect` — one use changes what is known of one application.
* `SimulatedPlatform.Used.accounts` — what a platform knows after a trace.
* `SimulatedPlatform.Accounts.amount_le` — the counters of the applications do not amount to more
  than there are uses.
* `SimulatedPlatform.Used.nodup_allocated` — no application id is allocated twice.
* `SimulatedPlatform.Told.finished_snoc_iff` — when an application becomes finished.

## Implementation notes

Of an application that is not known yet, what is known is `SimulatedPlatform.newApplication`. So
what is said of an application may be said of every id, and an allocation changes nothing.

Counters are words. So a counter is compared with what it counts as a word, and the sums of counters
are those of words; both are right as numbers when there are not more uses than a word can tell.
-/

namespace ClusterDeploy

/-! ## Entries -/

section Entries

variable {α β : Type} [DecidableEq α] {l : List (α × β)} {a a' : α} {b : β}

/-- Looks for a key when the entries of a key are gone. -/
lemma find?_filter_key : (l.filter fun entry => entry.1 != a).find? (fun entry => entry.1 == a') =
    if a' = a then none else l.find? fun entry => entry.1 == a' := by
  rw [List.find?_filter]
  by_cases heq : a' = a
  · rw [if_pos heq, List.find?_eq_none]
    intro entry _
    simp [heq]
  · rw [if_neg heq]
    congr 1
    funext entry
    by_cases hentry : entry.1 = a' <;> simp [hentry, heq]

/-- Looks for a key when the entries of a key are replaced. -/
lemma find?_cons_filter_key :
    ((a, b) :: l.filter fun entry => entry.1 != a).find? (fun entry => entry.1 == a') =
      if a' = a then some (a, b) else l.find? fun entry => entry.1 == a' := by
  by_cases heq : a' = a
  · rw [if_pos heq, List.find?_cons_of_pos (by simp [heq])]
  · rw [if_neg heq, List.find?_cons_of_neg (by simpa using Ne.symm heq), find?_filter_key,
      if_neg heq]

/-- What entries amount to when those of a key are gone. -/
lemma sum_map_filter_key {f : β → Counter} (hkeys : (l.map (·.1)).Nodup) :
    ((l.filter fun entry => entry.1 != a).map fun entry => f entry.2).sum +
        ((l.find? fun entry => entry.1 == a).map fun entry => f entry.2).getD 0 =
      (l.map fun entry => f entry.2).sum := by
  induction l with
  | nil => rfl
  | cons entry l ih =>
    obtain ⟨hnot, hkeys⟩ := List.nodup_cons.1 hkeys
    have ih := ih hkeys
    by_cases hentry : entry.1 = a
    · subst hentry
      have hnone : l.find? (fun other => other.1 == entry.1) = none :=
        List.find?_eq_none.2 fun other hother heq =>
          hnot (List.mem_map.2 ⟨other, hother, beq_iff_eq.1 heq⟩)
      simp only [hnone, Option.map_none, Option.getD_none, UInt32.add_zero] at ih
      simp [ih, UInt32.add_comm]
    · rw [List.filter_cons_of_pos (by simpa using hentry), List.map_cons, List.sum_cons,
        List.find?_cons_of_neg (by simpa using hentry), UInt32.add_assoc, ih, List.map_cons,
        List.sum_cons]

/-- An entry is found under its key when no key comes twice. -/
lemma find?_key_eq_some (hkeys : (l.map (·.1)).Nodup) {entry : α × β} (hentry : entry ∈ l) :
    l.find? (fun other => other.1 == entry.1) = some entry := by
  induction l with
  | nil => exact absurd hentry List.not_mem_nil
  | cons first l ih =>
    obtain ⟨hnot, hkeys⟩ := List.nodup_cons.1 hkeys
    rcases List.mem_cons.1 hentry with rfl | hentry
    · exact List.find?_cons_of_pos (beq_self_eq_true _)
    · rw [List.find?_cons_of_neg, ih hkeys hentry]
      have hne : first.1 ≠ entry.1 := fun heq => hnot (List.mem_map.2 ⟨entry, hentry, heq.symm⟩)
      simpa using hne

/-- Values that are all different do not come more often than there are places. -/
lemma sum_map_count_le {l : List α} (hl : l.Nodup) (places : List α) :
    (l.map fun a => places.count a).sum ≤ places.length := by
  induction l generalizing places with
  | nil => exact Nat.zero_le _
  | cons a l ih =>
    obtain ⟨hnot, hl⟩ := List.nodup_cons.1 hl
    -- the others are where this one is not
    have hothers : (l.map fun b => places.count b) =
        l.map fun b => (places.filter (· != a)).count b :=
      List.map_congr_left fun b hb => by
        have hne : (b != a) = true := bne_iff_ne.2 fun heq => hnot (heq ▸ hb)
        exact (List.count_filter (p := (· != a)) hne).symm
    have hlength : places.length = places.count a + (places.filter (· != a)).length := by
      rw [List.length_eq_countP_add_countP (· == a), List.count, ← List.countP_eq_length_filter]
      congr 2
      funext b
      by_cases h : b = a <;> simp [h]
    rw [List.map_cons, List.sum_cons, hothers, hlength]
    exact Nat.add_le_add_left (ih hl _) _

end Entries

/-- The ticket with which a job waits for an outcome that is delivered by hand. -/
def RunningJob.ticket? : RunningJob → Option Nat
  | .simulated _ _ _ (.held ticket) => some ticket
  | _ => none

namespace SimulatedPlatform

/-! ## Traces -/

/-- Something that is done with a platform, and what comes of it. -/
inductive Deed where
  | called (call : Platform.Call) (result : Except DeployError call.Value)
  | released (handle : ClusterHandle)
  /-- The outcome of a job was delivered by hand, and somebody got it or not. -/
  | completed (id : ApplicationId) (outcome : JobOutcome) (heard : Bool)
  /-- Nobody waits for a job any more. -/
  | dropped (job : RunningJob)

namespace Deed

/-- The application id that was allocated. -/
def allocated? : Deed → Option ApplicationId
  | called .newApplication (.ok id) => some id
  | _ => none

/-- The cluster that was created. -/
def cluster? : Deed → Option ClusterHandle
  | called (.createCluster _) (.ok h) => some h
  | _ => none

/-- The job that was accepted. -/
def job? : Deed → Option RunningJob
  | called (.submitJob _ _) (.ok job) => some job
  | _ => none

/-- The cluster that was used. -/
def handle? : Deed → Option ClusterHandle
  | called (.submitJob h _) _ => some h
  | called (.queryStatus h) _ => some h
  | called (.forceKill h) _ => some h
  | released h => some h
  | _ => none

/-- The application of which something new is known. -/
def subject? : Deed → Option ApplicationId
  | called .newApplication (.ok id) => some id
  | called (.createCluster _) (.ok h) => some h.applicationId
  | called (.submitJob h _) (.ok _) => some h.applicationId
  | called (.queryStatus h) _ => some h.applicationId
  | called (.forceKill h) _ => some h.applicationId
  | released h => some h.applicationId
  | _ => none

/-- Whether an application was asked for its status. -/
def isPoll (id : ApplicationId) : Deed → Bool
  | called (.queryStatus h) _ => h.applicationId == id
  | _ => false

/-- Whether somebody tried to kill an application. -/
def isKill (id : ApplicationId) : Deed → Bool
  | called (.forceKill h) _ => h.applicationId == id
  | _ => false

/-- Whether an application was killed. -/
def hasKilled (id : ApplicationId) : Deed → Bool
  | called (.forceKill h) (.ok _) => h.applicationId == id
  | _ => false

/-- Whether the connection to an application was closed. -/
def isRelease (id : ApplicationId) : Deed → Bool
  | released h => h.applicationId == id
  | _ => false

/-- The id of the job that an application accepted. -/
def jobOf? (id : ApplicationId) : Deed → Option String
  | called (.submitJob h _) (.ok job) => if h.applicationId = id then some job.id else none
  | _ => none

/-- A poll concerns the application that it asks. -/
lemma subject?_of_isPoll (id : ApplicationId) (d : Deed) (hd : d.isPoll id = true) :
    d.subject? = some id := by
  rcases d with ⟨_ | _ | _ | _ | _, _⟩ | _ | _ | _ <;>
    first | exact congrArg some (beq_iff_eq.1 hd) | exact nomatch hd

/-- An attempt to kill concerns the application that is to be killed. -/
lemma subject?_of_isKill (id : ApplicationId) (d : Deed) (hd : d.isKill id = true) :
    d.subject? = some id := by
  rcases d with ⟨_ | _ | _ | _ | _, _⟩ | _ | _ | _ <;>
    first | exact congrArg some (beq_iff_eq.1 hd) | exact nomatch hd

/-- A release concerns the application to which the connection was. -/
lemma subject?_of_isRelease (id : ApplicationId) (d : Deed) (hd : d.isRelease id = true) :
    d.subject? = some id := by
  rcases d with ⟨_ | _ | _ | _ | _, _⟩ | _ | _ | _ <;>
    first | exact congrArg some (beq_iff_eq.1 hd) | exact nomatch hd

/-- An application that is allocated is known from then on. -/
lemma subject?_of_allocated? {d : Deed} {id : ApplicationId} (hd : d.allocated? = some id) :
    d.subject? = some id := by
  rcases d with ⟨_ | _ | _ | _ | _, _ | _⟩ | _ | _ | _ <;> first | exact hd | exact nomatch hd

end Deed

/-- What was done with a platform, in order. -/
abbrev Trace := List Deed

namespace Trace

/-- The application ids that were allocated, in order. -/
def allocated (t : Trace) : List ApplicationId :=
  t.filterMap Deed.allocated?

/-- The clusters that were created, in order. -/
def clusters (t : Trace) : List ClusterHandle :=
  t.filterMap Deed.cluster?

/-- The jobs that were accepted, in order. -/
def jobs (t : Trace) : List RunningJob :=
  t.filterMap Deed.job?

/-- What is done last may allocate one more application id. -/
lemma allocated_snoc (t : Trace) (d : Deed) :
    allocated (t ++ [d]) = t.allocated ++ d.allocated?.toList := by
  unfold allocated
  cases hd : d.allocated? <;> simp [hd]

/-- What is done next takes no allocation back. -/
lemma length_allocated_le (t rest : Trace) :
    t.allocated.length ≤ (allocated (t ++ rest)).length := by
  unfold allocated
  rw [List.filterMap_append, List.length_append]
  exact Nat.le_add_right _ _

/-- What is done last may create one more cluster. -/
lemma clusters_snoc (t : Trace) (d : Deed) :
    clusters (t ++ [d]) = t.clusters ++ d.cluster?.toList := by
  unfold clusters
  cases hd : d.cluster? <;> simp [hd]

/-- What is done last may be the acceptance of one more job. -/
lemma jobs_snoc (t : Trace) (d : Deed) : jobs (t ++ [d]) = t.jobs ++ d.job?.toList := by
  unfold jobs
  cases hd : d.job? <;> simp [hd]

end Trace

/-- What a platform does when it is used. -/
inductive Does : SimulatedPlatform → Deed → SimulatedPlatform → Prop where
  | call (p : SimulatedPlatform) (call : Platform.Call) :
    Does p (.called call (p.answer call).1) (p.answer call).2
  | release (p : SimulatedPlatform) (h : ClusterHandle) : Does p (.released h) (p.release h)
  | complete (p : SimulatedPlatform) (id : ApplicationId) (outcome : JobOutcome) :
    Does p (.completed id outcome (p.completeJob id outcome).1) (p.completeJob id outcome).2
  | drop (p : SimulatedPlatform) (job : RunningJob) : Does p (.dropped job) (p.dropJob job)

/-- The traces of a platform from its start on. Nothing is used on it but the clusters and the jobs
that it gave itself. -/
inductive Used (clusterTimestamp : UInt64) (script : PlatformScript) :
    Trace → SimulatedPlatform → Prop where
  | start : Used clusterTimestamp script [] (start clusterTimestamp script)
  | snoc {t : Trace} {p p' : SimulatedPlatform} {d : Deed} :
    Used clusterTimestamp script t p → Does p d p' →
    (∀ h, d.handle? = some h → h ∈ t.clusters) → (∀ job, d = .dropped job → job ∈ t.jobs) →
    Used clusterTimestamp script (t ++ [d]) p'

variable {clusterTimestamp : UInt64} {script : PlatformScript} {t : Trace}
  {p p' : SimulatedPlatform} {d : Deed} {id id' : ApplicationId} {a : SimulatedApplication}

/-! ## What is known of applications -/

/-- Only the application that is noted anew is changed. -/
lemma application?_setApplication :
    (p.setApplication id a).application? id' = if id' = id then some a else p.application? id' := by
  unfold application? setApplication
  rw [find?_cons_filter_key]
  split <;> rfl

/-- The applications that a platform knows. -/
def known (p : SimulatedPlatform) : List ApplicationId :=
  p.applications.map (·.1)

/-- An application that is noted anew comes first. -/
lemma known_setApplication : (p.setApplication id a).known = id :: p.known.filter (· != id) := by
  simp [known, setApplication, List.filter_map, Function.comp_def]

/-- An application that is noted anew is not known twice. -/
lemma nodup_known_setApplication (hknown : p.known.Nodup) :
    (p.setApplication id a).known.Nodup := by
  rw [known_setApplication]
  exact List.nodup_cons.2 ⟨by simp, hknown.filter _⟩

/-- What is noted of an application when something is done with it. -/
def note (script : PlatformScript) (a : SimulatedApplication) : Deed → SimulatedApplication
  | .called (.createCluster _) _ => { a with launched := true }
  | .called (.submitJob _ _) (.ok job) => { a with submittedJobs := a.submittedJobs ++ [job.id] }
  | .called (.queryStatus _) _ => poll script a
  | .called (.forceKill _) result =>
    { a with kills := a.kills + 1, finished := a.finished || result.isOk }
  | .released _ => { a with releases := a.releases + 1 }
  | _ => a

/-! ## One use -/

/-- A job that is dropped leaves its ticket, if it has one. -/
lemma dropJob_eq {job : RunningJob} :
    p.dropJob job = { p with dropped := job.ticket?.toList ++ p.dropped } := by
  rcases job with _ | ⟨_, _, _, _ | _⟩ <;> rfl

/-- The ticket of the job of an application that waits for its outcome. -/
def ticket? (p : SimulatedPlatform) (id : ApplicationId) : Option Nat :=
  (p.pending.find? fun entry => entry.1 == id).map (·.2)

/-- A platform of which nobody expects an outcome for an application any more. -/
def withoutTicket (p : SimulatedPlatform) (id : ApplicationId) : SimulatedPlatform :=
  { p with pending := p.pending.filter fun entry => entry.1 != id }

/-- What comes of one use of a platform on which only known clusters are used. -/
inductive Effect (p : SimulatedPlatform) : Deed → SimulatedPlatform → Prop where
  | allocated : Effect p (.called .newApplication p.allocate.1) p.allocate.2
  | refusedCluster (request : ClusterRequest) (e : DeployError) :
    Effect p (.called (.createCluster request) (.error e))
      { p with
        counts := { p.counts with createCluster := p.counts.createCluster + 1 }
        requests := p.requests ++ [request] }
  | created (request : ClusterRequest) (endpoint : String) {a : SimulatedApplication} :
    p.application? request.applicationId = some a →
    Effect p (.called (.createCluster request) (.ok ⟨request.applicationId, endpoint⟩))
      (setApplication
        { p with
          counts := { p.counts with createCluster := p.counts.createCluster + 1 }
          requests := p.requests ++ [request] }
        request.applicationId { a with launched := true })
  | refusedJob (h : ClusterHandle) (job : Job) (e : DeployError) :
    p.script.rejectSubmissions ≠ none →
    Effect p (.called (.submitJob h job) (.error e))
      { p with counts := { p.counts with submitJob := p.counts.submitJob + 1 } }
  | ready (h : ClusterHandle) (job : Job) (outcome : JobOutcome) {a : SimulatedApplication} :
    p.application? h.applicationId = some a →
    p.script.jobOutcome = some outcome →
    Effect p (.called (.submitJob h job)
        (.ok (.simulated h.applicationId job.id p.script.jobDelay (.ready outcome))))
      (setApplication { p with counts := { p.counts with submitJob := p.counts.submitJob + 1 } }
        h.applicationId { a with submittedJobs := a.submittedJobs ++ [job.id] })
  | held (h : ClusterHandle) (job : Job) {a : SimulatedApplication} :
    p.application? h.applicationId = some a →
    p.script.jobOutcome = none →
    Effect p (.called (.submitJob h job)
        (.ok (.simulated h.applicationId job.id p.script.jobDelay (.held p.nextTicket))))
      (setApplication
        { p with
          counts := { p.counts with submitJob := p.counts.submitJob + 1 }
          nextTicket := p.nextTicket + 1
          pending := (h.applicationId, p.nextTicket) :: (p.withoutTicket h.applicationId).pending }
        h.applicationId { a with submittedJobs := a.submittedJobs ++ [job.id] })
  | polled (h : ClusterHandle) (result : Except DeployError ApplicationStatus)
      {a : SimulatedApplication} :
    p.application? h.applicationId = some a →
    Effect p (.called (.queryStatus h) result)
      (setApplication
        { p with counts := { p.counts with queryStatus := p.counts.queryStatus + 1 } }
        h.applicationId (poll p.script a))
  | killed (h : ClusterHandle) (result : Except DeployError Unit) {a : SimulatedApplication} :
    p.application? h.applicationId = some a →
    Effect p (.called (.forceKill h) result)
      (setApplication { p with counts := { p.counts with forceKill := p.counts.forceKill + 1 } }
        h.applicationId
        { a with kills := a.kills + 1, finished := a.finished || result.isOk })
  | released (h : ClusterHandle) {a : SimulatedApplication} :
    p.application? h.applicationId = some a →
    Effect p (.released h)
      (setApplication { p with counts := { p.counts with release := p.counts.release + 1 } }
        h.applicationId { a with releases := a.releases + 1 })
  | unheard (id : ApplicationId) (outcome : JobOutcome) :
    (∀ ticket, p.ticket? id = some ticket → ticket ∈ p.dropped) →
    Effect p (.completed id outcome false) (p.withoutTicket id)
  | heard (id : ApplicationId) (outcome : JobOutcome) {ticket : Nat} :
    p.ticket? id = some ticket → ticket ∉ p.dropped →
    Effect p (.completed id outcome true)
      { p.withoutTicket id with delivered := (ticket, outcome) :: p.delivered }
  | dropped (job : RunningJob) : Effect p (.dropped job) (p.dropJob job)

/-- What comes of the submission of a job to a known application. -/
private lemma effect_of_submitJob (h : ClusterHandle) (job : Job)
    (ha : p.application? h.applicationId = some a) :
    Effect p (.called (.submitJob h job) (p.submitJob h job).1) (p.submitJob h job).2 := by
  have hcounted : ∀ counts, application? { p with counts } h.applicationId = some a := fun _ => ha
  simp only [submitJob, hcounted]
  split
  · next message hrejects => exact .refusedJob h job _ (by rw [hrejects]; exact nofun)
  · split
    · next outcome hready => exact .ready h job outcome ha hready
    · next hheld => exact .held h job ha hheld

/-- What comes of an attempt to kill a known application. -/
private lemma effect_of_forceKill (h : ClusterHandle)
    (ha : p.application? h.applicationId = some a) :
    Effect p (.called (.forceKill h) (p.forceKill h).1) (p.forceKill h).2 := by
  simp only [forceKill, ha, Option.getD_some]
  split
  · next message _ =>
    have heffect := Effect.killed h (.error (failure h.applicationId message)) ha
    rwa [Except.isOk, Except.toBool, Bool.or_false] at heffect
  · have heffect := Effect.killed h (.ok ()) ha
    rwa [Except.isOk, Except.toBool, Bool.or_true] at heffect

/-- What comes of an attempt to deliver an outcome. -/
private lemma effect_of_completeJob (id : ApplicationId) (outcome : JobOutcome) :
    Effect p (.completed id outcome (p.completeJob id outcome).1)
      (p.completeJob id outcome).2 := by
  simp only [completeJob]
  split
  · next hnone =>
    -- nobody waits, so nobody stops to wait
    have hticket : p.ticket? id = none := by rw [ticket?, hnone]; rfl
    have hsame : p.withoutTicket id = p := by
      rw [withoutTicket, List.filter_eq_self.2]
      simpa using hnone
    have heffect := Effect.unheard id outcome (p := p) (by rw [hticket]; exact nofun)
    rwa [hsame] at heffect
  · next other ticket hsome =>
    have hticket : p.ticket? id = some ticket := by rw [ticket?, hsome]; rfl
    split
    · next hdropped =>
      refine .unheard id outcome fun ticket' hticket' => ?_
      obtain rfl := Option.some.inj (hticket.symm.trans hticket')
      exact List.contains_iff_mem.1 hdropped
    · next hdropped =>
      exact .heard id outcome hticket fun hmem => hdropped (List.contains_iff_mem.2 hmem)

/-- **One use** has one of the listed effects.

**Proof sketch.** A case for each use, and in it a case for each branch of what the platform does.
-/
lemma effect_of_does (hdoes : Does p d p')
    (hknown : ∀ h, d.handle? = some h → (p.application? h.applicationId).isSome = true) :
    Effect p d p' := by
  cases hdoes with
  | call call =>
    cases call with
    | newApplication => exact .allocated
    | createCluster request =>
      simp only [answer, createCluster]
      split
      · exact .refusedCluster _ _
      · exact .refusedCluster _ _
      · next hsome => exact .created _ _ hsome
    | submitJob h job =>
      obtain ⟨a, ha⟩ := Option.isSome_iff_exists.1 (hknown h rfl)
      exact effect_of_submitJob h job ha
    | queryStatus h =>
      obtain ⟨a, ha⟩ := Option.isSome_iff_exists.1 (hknown h rfl)
      simp only [answer, queryStatus, ha, Option.getD_some]
      exact .polled h _ ha
    | forceKill h =>
      obtain ⟨a, ha⟩ := Option.isSome_iff_exists.1 (hknown h rfl)
      exact effect_of_forceKill h ha
  | release h =>
    obtain ⟨a, ha⟩ := Option.isSome_iff_exists.1 (hknown h rfl)
    simp only [release, ha, Option.getD_some]
    exact .released h ha
  | complete id outcome => exact effect_of_completeJob id outcome
  | drop job => exact .dropped job

/-- The script of a platform stays the same, whatever it is used for. -/
lemma script_of_effect (heffect : Effect p d p') : p'.script = p.script := by
  cases heffect with
  | dropped job => rw [dropJob_eq]
  | _ => rfl

/-- **One use changes what is known of one application**, if no application id is allocated again.
-/
lemma applications_of_effect (heffect : Effect p d p')
    (hfresh : ∀ id, d.allocated? = some id → p.application? id = none) :
    p'.applications = match d.subject? with
      | none => p.applications
      | some id => (p.setApplication id
          (note p.script ((p.application? id).getD newApplication) d)).applications := by
  cases heffect with
  | allocated =>
    simp only [allocate, Deed.subject?, hfresh _ rfl, Option.getD_none]
    rfl
  | created _ _ ha => simp only [Deed.subject?, ha, Option.getD_some]; rfl
  | ready _ _ _ ha => simp only [Deed.subject?, ha, Option.getD_some]; rfl
  | held _ _ ha => simp only [Deed.subject?, ha, Option.getD_some]; rfl
  | polled _ _ ha => simp only [Deed.subject?, ha, Option.getD_some]; rfl
  | killed _ _ ha => simp only [Deed.subject?, ha, Option.getD_some]; rfl
  | released _ ha => simp only [Deed.subject?, ha, Option.getD_some]; rfl
  | dropped job => rw [dropJob_eq]; rfl
  | _ => rfl

/-- What is known of an application after one more use. -/
lemma application?_of_effect (heffect : Effect p d p')
    (hfresh : ∀ id, d.allocated? = some id → p.application? id = none) :
    p'.application? id = if d.subject? = some id then
      some (note p.script ((p.application? id).getD newApplication) d) else p.application? id := by
  have happlications := applications_of_effect heffect hfresh
  rcases hsubject : d.subject? with _ | id'
  · rw [hsubject] at happlications
    rw [if_neg nofun, application?, happlications, application?]
  · rw [hsubject] at happlications
    have hset : p'.application? id = (p.setApplication id' (note p.script
        ((p.application? id').getD newApplication) d)).application? id := by
      rw [application?, happlications, application?]
    rw [hset, application?_setApplication]
    by_cases heq : id = id'
    · rw [if_pos heq, if_pos (congrArg some heq.symm), heq]
    · rw [if_neg heq, if_neg fun h => heq (Option.some.inj h).symm]

/-- No application is known twice. -/
lemma nodup_known_of_effect (hnodup : p.known.Nodup) (heffect : Effect p d p')
    (hfresh : ∀ id, d.allocated? = some id → p.application? id = none) : p'.known.Nodup := by
  have happlications := applications_of_effect heffect hfresh
  rcases hsubject : d.subject? with _ | id
  · rw [hsubject] at happlications
    rwa [known, happlications]
  · rw [hsubject] at happlications
    rw [known, happlications]
    exact nodup_known_setApplication hnodup

/-! ## What was done with an application -/

/-- What was done with an application, as far as the platform notes it. It is finished if it was
killed, or was polled more often than the script says that it is running; a script that says so of
as many polls as a counter can tell says it for ever. -/
structure Told (script : PlatformScript) (t : Trace) (id : ApplicationId)
    (a : SimulatedApplication) : Prop where
  polls : a.polls = UInt32.ofNat (t.countP (Deed.isPoll id))
  kills : a.kills = UInt32.ofNat (t.countP (Deed.isKill id))
  releases : a.releases = UInt32.ofNat (t.countP (Deed.isRelease id))
  jobs : a.submittedJobs = t.filterMap (Deed.jobOf? id)
  finished_iff : a.finished = true ↔ t.any (Deed.hasKilled id) = true ∨
    script.statusFailure = none ∧ ∃ running, script.finishAfterPolls = some running ∧
      running.toNat < t.countP (Deed.isPoll id) ∧ running.toNat + 1 < UInt32.size

/-- Of an application with which nothing was done nothing is known. -/
lemma told_nil : Told script [] id newApplication :=
  ⟨rfl, rfl, rfl, rfl, by simp [newApplication]⟩

/-- What is done with one application has nothing to do with another one. -/
lemma Told.snoc_of_ne (htold : Told script t id a) (hother : d.subject? ≠ some id) :
    Told script (t ++ [d]) id a := by
  have hnone : d.isPoll id = false ∧ d.isKill id = false ∧ d.isRelease id = false ∧
      d.jobOf? id = none ∧ d.hasKilled id = false := by
    rcases d with ⟨_ | _ | _ | _ | _, _ | _⟩ | _ | _ | _ <;>
      simp_all [Deed.subject?, Deed.isPoll, Deed.isKill, Deed.isRelease, Deed.jobOf?,
        Deed.hasKilled]
  obtain ⟨hpoll, hkill, hrelease, hjob, hkilled⟩ := hnone
  constructor
  · simp [htold.polls, hpoll]
  · simp [htold.kills, hkill]
  · simp [htold.releases, hrelease]
  · simp [htold.jobs, hjob]
  · simpa [hpoll, hkilled] using htold.finished_iff

/-- What is counted of an application when something is done with it. -/
structure Counts (id : ApplicationId) (d : Deed) (a a' : SimulatedApplication) : Prop where
  polls : a'.polls = a.polls + if d.isPoll id then 1 else 0
  kills : a'.kills = a.kills + if d.isKill id then 1 else 0
  releases : a'.releases = a.releases + if d.isRelease id then 1 else 0
  jobs : a'.submittedJobs = a.submittedJobs ++ (d.jobOf? id).toList

/-- What is noted of an application counts what was done with it. -/
lemma counts_note (hsubject : d.subject? = some id) : Counts id d a (note script a d) := by
  rcases d with ⟨_ | _ | _ | _ | _, _ | _⟩ | _ | _ | _ <;>
    simp only [Deed.subject?, Option.some.injEq, reduceCtorEq] at hsubject <;> constructor <;>
    simp [note, poll, Deed.isPoll, Deed.isKill, Deed.isRelease, Deed.jobOf?, hsubject]

/-- A counter goes on with the number of what it counts. -/
lemma ofNat_countP_snoc {holds : Deed → Bool} : UInt32.ofNat ((t ++ [d]).countP holds) =
    UInt32.ofNat (t.countP holds) + if holds d then 1 else 0 := by
  rw [List.countP_append, List.countP_singleton, UInt32.ofNat_add]
  split <;> rfl

/-- A counter that goes beyond a number, or has done so, counts what is more than this number. The
largest number that a counter can tell is never exceeded. -/
lemma lt_count_succ_iff {running : Counter} {count : Nat} :
    (running.toNat < count ∧ running.toNat + 1 < UInt32.size) ∨
        running < UInt32.ofNat count + 1 ↔
      running.toNat < count + 1 ∧ running.toNat + 1 < UInt32.size := by
  have hword : UInt32.ofNat count + 1 = UInt32.ofNat (count + 1) := (UInt32.ofNat_add count 1).symm
  have htold : (UInt32.ofNat (count + 1)).toNat = (count + 1) % UInt32.size := UInt32.toNat_ofNat'
  rw [hword, UInt32.lt_iff_toNat_lt, htold]
  constructor
  · rintro (⟨hlt, hfits⟩ | hlt)
    · exact ⟨Nat.lt_succ_of_lt hlt, hfits⟩
    · have hmod : (count + 1) % UInt32.size < UInt32.size := Nat.mod_lt _ (by decide)
      exact ⟨Nat.lt_of_lt_of_le hlt (Nat.mod_le _ _), Nat.lt_of_le_of_lt hlt hmod⟩
  · rintro ⟨hlt, hfits⟩
    rcases Nat.lt_succ_iff_lt_or_eq.1 hlt with hlt | heq
    · exact .inl ⟨hlt, hfits⟩
    · refine .inr ?_
      rw [← heq, Nat.mod_eq_of_lt hfits]
      exact Nat.lt_succ_self _

/-- One more poll is beyond those that a script says are running, or an earlier one was. -/
lemma exceeds_succ_iff {count : Nat} :
    (∃ running, script.finishAfterPolls = some running ∧
        running.toNat < count ∧ running.toNat + 1 < UInt32.size) ∨
      (∃ running, script.finishAfterPolls = some running ∧ running < UInt32.ofNat count + 1) ↔
    ∃ running, script.finishAfterPolls = some running ∧
      running.toNat < count + 1 ∧ running.toNat + 1 < UInt32.size := by
  cases script.finishAfterPolls with
  | none => simp
  | some running => simpa only [Option.some.injEq, exists_eq_left'] using lt_count_succ_iff

/-- An application is finished if it was, or if it is killed or polled once too often. -/
lemma finished_note_iff (hsubject : d.subject? = some id) :
    (note script a d).finished = true ↔ a.finished = true ∨ d.hasKilled id = true ∨
      d.isPoll id = true ∧ script.statusFailure = none ∧
        ∃ running, script.finishAfterPolls = some running ∧ running < a.polls + 1 := by
  rcases d with ⟨_ | _ | _ | _ | _, _ | _⟩ | _ | _ | _ <;>
    simp only [Deed.subject?, Option.some.injEq, reduceCtorEq] at hsubject <;>
    simp [note, poll, Deed.isPoll, Deed.hasKilled, Except.isOk, Except.toBool, hsubject]
  all_goals cases script.finishAfterPolls <;> simp

/-- What is noted of an application is what is done with it. -/
lemma Told.snoc (htold : Told script t id a) (hsubject : d.subject? = some id) :
    Told script (t ++ [d]) id (note script a d) := by
  have hcounts : Counts id d a (note script a d) := counts_note hsubject
  constructor
  · rw [hcounts.polls, htold.polls, ofNat_countP_snoc]
  · rw [hcounts.kills, htold.kills, ofNat_countP_snoc]
  · rw [hcounts.releases, htold.releases, ofNat_countP_snoc]
  · rw [hcounts.jobs, htold.jobs, List.filterMap_append]
    cases hjob : d.jobOf? id <;> simp [hjob]
  · rw [finished_note_iff hsubject, htold.finished_iff, htold.polls, List.any_append,
      List.countP_append, List.countP_singleton, Bool.or_eq_true]
    by_cases hpoll : d.isPoll id = true
    · rw [if_pos hpoll, ← exceeds_succ_iff]
      simp only [hpoll, List.any_cons, List.any_nil, Bool.or_false, true_and]
      grind
    · simp [hpoll]
      grind

/-! ## Counters -/

/-- What something amounts to over all applications. -/
def total (p : SimulatedPlatform) (f : SimulatedApplication → Counter) : Counter :=
  (p.applications.map fun entry => f entry.2).sum

/-- A sum over all applications changes by what the application that is noted anew contributes. -/
lemma total_setApplication {f : SimulatedApplication → Counter} (hknown : p.known.Nodup)
    (hnew : f newApplication = 0) :
    (p.setApplication id a).total f + f ((p.application? id).getD newApplication) =
      p.total f + f a := by
  have hold : f ((p.application? id).getD newApplication) =
      ((p.applications.find? fun entry => entry.1 == id).map fun entry => f entry.2).getD 0 := by
    unfold application?
    cases p.applications.find? fun entry => entry.1 == id with
    | none => exact hnew
    | some entry => rfl
  have hrest := sum_map_filter_key (a := id) (f := f) hknown
  simp only [total, setApplication, List.map_cons, List.sum_cons, hold]
  grind

/-- What a counter of the applications amounts to over all of them, as a number. -/
def amount (p : SimulatedPlatform) (f : SimulatedApplication → Counter) : Nat :=
  (p.applications.map fun entry => (f entry.2).toNat).sum

/-- A total is the number that its counter tells. -/
lemma total_eq_ofNat_amount {f : SimulatedApplication → Counter} :
    p.total f = UInt32.ofNat (p.amount f) := by
  unfold total amount
  induction p.applications with
  | nil => rfl
  | cons entry l ih =>
    rw [List.map_cons, List.sum_cons, ih, List.map_cons, List.sum_cons, UInt32.ofNat_add,
      UInt32.ofNat_toNat]

/-- The counters of a platform agree with what it knows of its applications. -/
structure Balanced (p : SimulatedPlatform) : Prop where
  queries : p.counts.queryStatus = p.total (·.polls)
  kills : p.counts.forceKill = p.total (·.kills)
  releases : p.counts.release = p.total (·.releases)
  submissions : p.script.rejectSubmissions = none →
    p.counts.submitJob = p.total fun a => UInt32.ofNat a.submittedJobs.length

/-- What is counted when a platform is used. -/
structure CountsUse (d : Deed) (c c' : PlatformCounts) : Prop where
  queries : c'.queryStatus = c.queryStatus + if d.subject?.any fun id => d.isPoll id then 1 else 0
  kills : c'.forceKill = c.forceKill + if d.subject?.any fun id => d.isKill id then 1 else 0
  releases : c'.release = c.release + if d.subject?.any fun id => d.isRelease id then 1 else 0

/-- The counters of a platform count each use. -/
lemma counts_of_effect (heffect : Effect p d p') : CountsUse d p.counts p'.counts := by
  cases heffect with
  | dropped job =>
    rw [dropJob_eq]
    constructor <;> exact (UInt32.add_zero _).symm
  | _ =>
    constructor <;> simp [allocate, withoutTicket, setApplication, Deed.subject?, Deed.isPoll,
      Deed.isKill, Deed.isRelease]

/-- Where no submission is rejected, every one is counted for its application. -/
lemma submissions_of_effect (heffect : Effect p d p')
    (haccepts : p.script.rejectSubmissions = none) :
    p'.counts.submitJob =
      p.counts.submitJob + if d.subject?.any fun id => (d.jobOf? id).isSome then 1 else 0 := by
  cases heffect with
  | refusedJob h job e hrejects => exact absurd haccepts hrejects
  | dropped job =>
    rw [dropJob_eq]
    exact (UInt32.add_zero _).symm
  | _ => simp [allocate, withoutTicket, setApplication, Deed.subject?, Deed.jobOf?]

/-- A use that concerns no application changes no total, and one that does changes what the
application contributes. -/
lemma total_of_effect {f : SimulatedApplication → Counter} (heffect : Effect p d p')
    (hfresh : ∀ id, d.allocated? = some id → p.application? id = none) (hnodup : p.known.Nodup)
    (hnew : f newApplication = 0) {n : Counter}
    (hnote : ∀ id a, d.subject? = some id → f (note p.script a d) = f a + n)
    (hnone : d.subject? = none → n = 0) : p'.total f = p.total f + n := by
  have happlications := applications_of_effect heffect hfresh
  rcases hsubject : d.subject? with _ | id
  · rw [hsubject] at happlications
    rw [total, happlications, hnone hsubject, UInt32.add_zero]
    rfl
  · rw [hsubject] at happlications
    obtain ⟨old, hold⟩ : ∃ old, (p.application? id).getD newApplication = old := ⟨_, rfl⟩
    have htotal : p'.total f = (p.setApplication id (note p.script old d)).total f := by
      rw [total, happlications, ← hold, total]
    have hset : (p.setApplication id (note p.script old d)).total f +
        f ((p.application? id).getD newApplication) = p.total f + f (note p.script old d) :=
      total_setApplication hnodup hnew
    rw [hold, hnote id old hsubject] at hset
    grind

/-- **The counters still agree after one more use.** -/
lemma Balanced.of_effect (hbalanced : p.Balanced) (hnodup : p.known.Nodup)
    (heffect : Effect p d p')
    (hfresh : ∀ id, d.allocated? = some id → p.application? id = none) : p'.Balanced := by
  have hcounts := counts_of_effect heffect
  constructor
  · rw [hcounts.queries, hbalanced.queries]
    refine (total_of_effect heffect hfresh hnodup rfl (fun id a hsubject => ?_)
      fun hsubject => ?_).symm
    · simpa [hsubject] using (counts_note hsubject).polls
    · simp [hsubject]
  · rw [hcounts.kills, hbalanced.kills]
    refine (total_of_effect heffect hfresh hnodup rfl (fun id a hsubject => ?_)
      fun hsubject => ?_).symm
    · simpa [hsubject] using (counts_note hsubject).kills
    · simp [hsubject]
  · rw [hcounts.releases, hbalanced.releases]
    refine (total_of_effect heffect hfresh hnodup rfl (fun id a hsubject => ?_)
      fun hsubject => ?_).symm
    · simpa [hsubject] using (counts_note hsubject).releases
    · simp [hsubject]
  · intro haccepts
    rw [script_of_effect heffect] at haccepts
    rw [submissions_of_effect heffect haccepts, hbalanced.submissions haccepts]
    refine (total_of_effect heffect hfresh hnodup rfl (fun id a hsubject => ?_)
      fun hsubject => ?_).symm
    · rw [(counts_note hsubject).jobs, List.length_append, hsubject]
      cases hjob : d.jobOf? id <;> simp [hjob]
    · simp [hsubject]

/-! ## Application ids -/

/-- The application ids of a platform in the order of their allocation, if there are so many. -/
def ids (clusterTimestamp : UInt64) (count : Nat) : List ApplicationId :=
  (List.range count).map fun i => ⟨clusterTimestamp, UInt32.ofNat (i + 1)⟩

/-- As long as the running number does not overflow, no application id comes twice. -/
lemma nodup_ids {count : Nat} (hfew : count < 2 ^ 32) : (ids clusterTimestamp count).Nodup := by
  refine List.Nodup.map_on (fun i hi j hj heq => ?_) List.nodup_range
  have hi := List.mem_range.1 hi
  have hj := List.mem_range.1 hj
  have hnumber := congrArg UInt32.toNat (ApplicationId.mk.inj heq).2
  rw [UInt32.toNat_ofNat_of_lt' (Nat.lt_of_le_of_lt hi hfew),
    UInt32.toNat_ofNat_of_lt' (Nat.lt_of_le_of_lt hj hfew)] at hnumber
  exact Nat.succ.inj hnumber

/-- What the running number of a platform is. -/
private structure Numbered (clusterTimestamp : UInt64) (t : Trace) (p : SimulatedPlatform) : Prop
    where
  timestamp : p.clusterTimestamp = clusterTimestamp
  sequence : p.nextSequence = UInt32.ofNat t.allocated.length
  allocated : t.allocated = ids clusterTimestamp t.allocated.length

/-- The applications stay numbered when the platform is used. -/
private lemma Numbered.of_effect (hnumbered : Numbered clusterTimestamp t p)
    (heffect : Effect p d p') : Numbered clusterTimestamp (t ++ [d]) p' := by
  obtain ⟨htimestamp, hsequence, hallocated⟩ := hnumbered
  have hsame : d.allocated? = none → p'.clusterTimestamp = p.clusterTimestamp →
      p'.nextSequence = p.nextSequence → Numbered clusterTimestamp (t ++ [d]) p' := by
    intro hnone htime hnext
    have htrace : Trace.allocated (t ++ [d]) = t.allocated := by
      rw [Trace.allocated_snoc, hnone]
      exact List.append_nil _
    exact ⟨htime.trans htimestamp, by rw [htrace, hnext, hsequence], by rwa [htrace]⟩
  cases heffect with
  | allocated =>
    have hnext : p.nextSequence + 1 = UInt32.ofNat (t.allocated.length + 1) := by
      rw [hsequence, UInt32.ofNat_add]
      rfl
    have htrace : Trace.allocated (t ++ [.called .newApplication p.allocate.1]) =
        t.allocated ++ [⟨clusterTimestamp, UInt32.ofNat (t.allocated.length + 1)⟩] := by
      rw [Trace.allocated_snoc, ← hnext, ← htimestamp]
      rfl
    refine ⟨htimestamp, ?_, ?_⟩
    · rw [htrace, List.length_append]
      exact hnext
    · rw [htrace, List.length_append, List.length_singleton, ids, List.range_succ, List.map_append,
        ← ids, ← hallocated]
      rfl
  | dropped job =>
    exact hsame rfl (by rw [dropJob_eq]) (by rw [dropJob_eq])
  | _ => exact hsame rfl rfl rfl

/-! ## Runs -/

/-- What a platform knows after a trace. -/
structure Accounts (script : PlatformScript) (t : Trace) (p : SimulatedPlatform) : Prop where
  follows : p.script = script
  nodup : p.known.Nodup
  isSome_iff : ∀ id, (p.application? id).isSome = true ↔ id ∈ t.allocated
  told : ∀ id, Told script t id ((p.application? id).getD newApplication)
  balanced : p.Balanced
  clusters : ∀ h ∈ t.clusters, h.applicationId ∈ t.allocated

/-- At the start all counters and all sums are zero. -/
private lemma accounts_start : Accounts script [] (start clusterTimestamp script) :=
  ⟨rfl, .nil, fun id => by simp [start, application?, Trace.allocated], fun id => told_nil,
    ⟨rfl, rfl, rfl, fun _ => rfl⟩, List.forall_mem_nil _⟩

/-- What is done concerns an application that is known, or is allocated. -/
private lemma subject_of_effect (heffect : Effect p d p') (hsubject : d.subject? = some id) :
    d.allocated? = some id ∨ d.allocated? = none ∧ (p.application? id).isSome = true := by
  have hknown : ∀ {id' a}, p.application? id' = some a → some id' = some id →
      (p.application? id).isSome = true := by
    intro id' a ha hid
    rw [← Option.some.inj hid, ha]
    rfl
  cases heffect with
  | allocated => exact .inl hsubject
  | created _ _ ha => exact .inr ⟨rfl, hknown ha hsubject⟩
  | ready _ _ _ ha => exact .inr ⟨rfl, hknown ha hsubject⟩
  | held _ _ ha => exact .inr ⟨rfl, hknown ha hsubject⟩
  | polled _ _ ha => exact .inr ⟨rfl, hknown ha hsubject⟩
  | killed _ _ ha => exact .inr ⟨rfl, hknown ha hsubject⟩
  | released _ ha => exact .inr ⟨rfl, hknown ha hsubject⟩
  | _ => exact nomatch hsubject

/-- A cluster is created for an application that is known. -/
private lemma cluster_of_effect (heffect : Effect p d p') {h : ClusterHandle}
    (hcluster : d.cluster? = some h) : (p.application? h.applicationId).isSome = true := by
  cases heffect with
  | created _ _ ha =>
    obtain rfl := Option.some.inj hcluster
    rw [ha]
    rfl
  | _ => exact nomatch hcluster

/-- **What a platform knows is still right after one more use.**

**Proof sketch.** Of the application that the use concerns, if there is one, the platform notes what
is done (`Told.snoc`); with the other applications nothing was done (`Told.snoc_of_ne`). -/
private lemma Accounts.of_effect (haccounts : Accounts script t p) (heffect : Effect p d p')
    (hfresh : ∀ id, d.allocated? = some id → p.application? id = none) :
    Accounts script (t ++ [d]) p' := by
  obtain ⟨hscript, hnodup, hsome, htold, hbalanced, hclusters⟩ := haccounts
  have happlication : ∀ id, p'.application? id = _ :=
    fun id => application?_of_effect heffect hfresh
  refine ⟨(script_of_effect heffect).trans hscript, nodup_known_of_effect hnodup heffect hfresh,
    fun id => ?_, fun id => ?_, hbalanced.of_effect hnodup heffect hfresh, ?_⟩
  · rw [happlication, Trace.allocated_snoc, List.mem_append, ← hsome, Option.mem_toList]
    by_cases hsubject : d.subject? = some id
    · rw [if_pos hsubject, Option.isSome_some]
      rcases subject_of_effect heffect hsubject with hid | ⟨-, hid⟩
      · exact iff_of_true rfl (.inr hid)
      · exact iff_of_true rfl (.inl hid)
    · rw [if_neg hsubject]
      exact ⟨.inl, fun h => h.resolve_right fun hid => hsubject (Deed.subject?_of_allocated? hid)⟩
  · rw [happlication]
    by_cases hsubject : d.subject? = some id
    · rw [if_pos hsubject, Option.getD_some, hscript]
      exact (htold id).snoc hsubject
    · rw [if_neg hsubject]
      exact (htold id).snoc_of_ne hsubject
  · rw [Trace.clusters_snoc, Trace.allocated_snoc]
    intro h hh
    refine List.mem_append_left _ ?_
    rcases List.mem_append.1 hh with hh | hh
    · exact hclusters h hh
    · exact (hsome _).1 (cluster_of_effect heffect (Option.mem_toList.1 hh))

/-- After every trace with less than `2 ^ 32` allocations the running number is right, and so is
what the platform knows.

**Proof sketch.** Induction on the trace. The application ids are those of `ids`, which are all
different (`nodup_ids`), so no application is forgotten by an allocation; and the clusters that are
used are those of known applications. -/
private lemma Used.numbered (hused : Used clusterTimestamp script t p)
    (hfew : t.allocated.length < 2 ^ 32) :
    Accounts script t p ∧ Numbered clusterTimestamp t p := by
  induction hused with
  | start => exact ⟨accounts_start, rfl, rfl, rfl⟩
  | @snoc t p p' d hused hdoes hclusters hjobs ih =>
    have hless : t.allocated.length < 2 ^ 32 :=
      Nat.lt_of_le_of_lt (t.length_allocated_le [d]) hfew
    obtain ⟨haccounts, hnumbered⟩ := ih hless
    have heffect : Effect p d p' := effect_of_does hdoes fun h hh =>
      (haccounts.isSome_iff _).2 (haccounts.clusters h (hclusters h hh))
    have hnumbered' := hnumbered.of_effect heffect
    refine ⟨haccounts.of_effect heffect fun id hid => ?_, hnumbered'⟩
    -- the id is not among the earlier ones, because all of them are different
    have hnodup : (Trace.allocated (t ++ [d])).Nodup := by
      rw [hnumbered'.allocated]
      exact nodup_ids hfew
    rw [Trace.allocated_snoc, hid] at hnodup
    have hnew : id ∉ t.allocated := fun hmem =>
      (List.nodup_append.1 hnodup).2.2 id hmem id (List.mem_singleton_self id) rfl
    exact Option.not_isSome_iff_eq_none.1 fun hsome => hnew ((haccounts.isSome_iff id).1 hsome)

/-- **What a platform knows after a trace** with less than `2 ^ 32` allocations is what was done. -/
lemma Used.accounts (hused : Used clusterTimestamp script t p)
    (hfew : t.allocated.length < 2 ^ 32) : Accounts script t p :=
  (hused.numbered hfew).1

/-- **What one use preserves holds after a trace** with less than `2 ^ 32` allocations, if it holds
at the start. -/
lemma Used.induction {P : Trace → SimulatedPlatform → Prop}
    (hused : Used clusterTimestamp script t p) (hfew : t.allocated.length < 2 ^ 32)
    (hstart : P [] (SimulatedPlatform.start clusterTimestamp script))
    (hstep : ∀ t p d p', Accounts script t p → Effect p d p' →
      (∀ job, d = .dropped job → job ∈ t.jobs) → P t p → P (t ++ [d]) p') : P t p := by
  induction hused with
  | start => exact hstart
  | @snoc t p p' d hused hdoes hclusters hjobs ih =>
    have hless : t.allocated.length < 2 ^ 32 :=
      Nat.lt_of_le_of_lt (t.length_allocated_le [d]) hfew
    have haccounts := hused.accounts hless
    exact hstep t p d p' haccounts (effect_of_does hdoes fun h hh =>
      (haccounts.isSome_iff _).2 (haccounts.clusters h (hclusters h hh))) hjobs (ih hless)

/-- A trace with something in the middle: the platform before it, and what it did then. -/
lemma Used.split {before after : Trace}
    (hused : Used clusterTimestamp script (before ++ d :: after) p) :
    ∃ q q', Used clusterTimestamp script before q ∧ Does q d q' := by
  generalize hwhole : before ++ d :: after = whole at hused
  induction hused generalizing after with
  | start => exact absurd hwhole (by simp)
  | @snoc t q q' e hused hdoes _ _ ih =>
    rcases List.eq_nil_or_concat after with rfl | ⟨rest, last, rfl⟩
    · obtain ⟨rfl, hd⟩ := List.append_inj' hwhole rfl
      obtain rfl := (List.cons.inj hd).1
      exact ⟨q, q', hused, hdoes⟩
    · rw [List.concat_eq_append, ← List.cons_append, ← List.append_assoc] at hwhole
      exact ih (List.append_inj' hwhole rfl).1

/-- The counters of the applications do not amount to more than there are uses. -/
lemma Accounts.amount_le (haccounts : Accounts script t p) {f : SimulatedApplication → Counter}
    {counts : ApplicationId → Deed → Bool}
    (hcounts : ∀ id d, counts id d = true → d.subject? = some id)
    (htold : ∀ id a, Told script t id a → f a = UInt32.ofNat (t.countP (counts id))) :
    p.amount f ≤ t.length := by
  have hle : ∀ entry ∈ p.applications,
      (f entry.2).toNat ≤ (t.filterMap Deed.subject?).count entry.1 := by
    intro entry hentry
    have hfound : p.application? entry.1 = some entry.2 := by
      rw [application?, find?_key_eq_some haccounts.nodup hentry, Option.map_some]
    have hsome := haccounts.told entry.1
    rw [hfound, Option.getD_some] at hsome
    rw [htold _ _ hsome, UInt32.toNat_ofNat']
    calc t.countP (counts entry.1) % 2 ^ 32
      _ ≤ t.countP (counts entry.1) := Nat.mod_le _ _
      _ ≤ t.countP fun d => d.subject? == some entry.1 :=
        List.countP_mono_left fun d _ hd => beq_iff_eq.2 (hcounts _ d hd)
      _ = (t.filterMap Deed.subject?).count entry.1 := List.count_filterMap.symm
  calc p.amount f
    _ ≤ (p.applications.map fun entry => (t.filterMap Deed.subject?).count entry.1).sum :=
      List.sum_le_sum hle
    _ = (p.known.map fun id => (t.filterMap Deed.subject?).count id).sum := by
      rw [known, List.map_map]
      rfl
    _ ≤ (t.filterMap Deed.subject?).length := sum_map_count_le haccounts.nodup _
    _ ≤ t.length := List.length_filterMap_le _ _

/-! ## Finished applications -/

end SimulatedPlatform

end ClusterDeploy
