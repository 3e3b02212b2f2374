import ClusterDeploy.Proofs.Platform.Simulation

set_option relaxedAutoImplicit false
set_option autoImplicit false

/-!
# Jobs that are held on the simulated platform

A simulated platform may hold its jobs until their outcomes are delivered by hand. Every job waits
with a ticket of its own, and an outcome that is delivered for an application goes to the job that
was accepted last for it. So each job gets the one outcome that is delivered to it, and no other.

## Main definitions

* `RunningJob.application?` — the application of a job.
* `SimulatedPlatform.Trace.waiting` — the job of an application that waits for its outcome.
* `SimulatedPlatform.Trace.Gives` — an outcome was delivered to a job.
* `SimulatedPlatform.Promises` — the tickets of a platform are those of the jobs of a trace.
* `SimulatedPlatform.Consistent` — what a platform knows and gives agrees with what was done.

## Main results

* `SimulatedPlatform.Promises.of_effect` — one use keeps the tickets right.
* `SimulatedPlatform.used_consistent` — consistency of the simulated platform.
-/

namespace ClusterDeploy

/-- The application of a job on a simulated platform. -/
def RunningJob.application? : RunningJob → Option ApplicationId
  | .simulated application _ _ _ => some application
  | _ => none

namespace SimulatedPlatform

/-- Which job of an application waits for its outcome, after something was done. -/
def Deed.awaited (id : ApplicationId) (waiting : Option RunningJob) : Deed → Option RunningJob
  | called (.submitJob h _) (.ok job) => if h.applicationId = id then some job else waiting
  | completed id' _ _ => if id' = id then none else waiting
  | _ => waiting

/-- The job of an application that waits for its outcome: the one that was accepted last, unless
there was an attempt to deliver an outcome since. -/
def Trace.waiting (t : Trace) (id : ApplicationId) : Option RunningJob :=
  t.foldl (fun waiting d => d.awaited id waiting) none

/-- An outcome was delivered to a job that waited, and was heard. -/
def Trace.Gives (t : Trace) (job : RunningJob) (outcome : JobOutcome) : Prop :=
  ∃ id before after, t = before ++ .completed id outcome true :: after ∧
    Trace.waiting before id = some job

variable {clusterTimestamp : UInt64} {script : PlatformScript} {t before after : Trace}
  {p p' : SimulatedPlatform} {d : Deed} {id id' : ApplicationId} {job : RunningJob}
  {outcome : JobOutcome} {ticket : Nat}

/-! ## Traces -/

namespace Trace

/-- What is done last decides which job waits. -/
lemma waiting_snoc : waiting (t ++ [d]) id = d.awaited id (t.waiting id) := by
  rw [waiting, List.foldl_append]
  rfl

/-- The last delivery, and the earlier ones. -/
lemma gives_snoc_iff : Gives (t ++ [d]) job outcome ↔
    Gives t job outcome ∨ ∃ id, d = .completed id outcome true ∧ t.waiting id = some job := by
  constructor
  · rintro ⟨id, before, after, hsplit, hwaiting⟩
    rcases List.eq_nil_or_concat after with rfl | ⟨rest, last, rfl⟩
    · obtain ⟨rfl, hd⟩ := List.append_inj' hsplit rfl
      exact .inr ⟨id, (List.cons.inj hd).1, hwaiting⟩
    · rw [List.concat_eq_append, ← List.cons_append, ← List.append_assoc] at hsplit
      exact .inl ⟨id, before, rest, (List.append_inj' hsplit rfl).1, hwaiting⟩
  · rintro (⟨id, before, after, rfl, hwaiting⟩ | ⟨id, rfl, hwaiting⟩)
    · exact ⟨id, before, after ++ [d], by simp, hwaiting⟩
    · exact ⟨id, t, [], rfl, hwaiting⟩

/-- Nothing is given but by an outcome that is heard of. -/
lemma gives_snoc_of_ne (hd : ∀ id outcome, d ≠ .completed id outcome true) :
    Gives (t ++ [d]) job outcome ↔ Gives t job outcome :=
  gives_snoc_iff.trans (or_iff_left fun ⟨id, hlast, _⟩ => hd id outcome hlast)

/-- Nobody stops to wait for a job but with the deed that says so. -/
lemma dropped_mem_snoc_of_ne (hd : ∀ job, d ≠ .dropped job) :
    Deed.dropped job ∈ t ++ [d] ↔ .dropped job ∈ t := by
  simp [Ne.symm (hd job)]

end Trace

/-! ## Tickets -/

/-- The outcome that was delivered to a ticket. -/
def delivered? (p : SimulatedPlatform) (ticket : Nat) : Option JobOutcome :=
  (p.delivered.find? fun entry => entry.1 == ticket).map (·.2)

/-- What was delivered to a ticket is told from the deliveries. -/
lemma delivered?_congr (hdelivered : p'.delivered = p.delivered) (ticket : Nat) :
    p'.delivered? ticket = p.delivered? ticket := by
  rw [delivered?, hdelivered, delivered?]

/-- Only the application itself loses its ticket. -/
lemma ticket?_withoutTicket :
    (p.withoutTicket id).ticket? id' = if id' = id then none else p.ticket? id' := by
  rw [ticket?, withoutTicket, find?_filter_key]
  split <;> rfl

/-- The tickets of a platform are those of the jobs of a trace. -/
structure Promises (t : Trace) (p : SimulatedPlatform) : Prop where
  /-- Who waits was accepted for the application. -/
  mem : ∀ id job, t.waiting id = some job → job ∈ t.jobs ∧ job.application? = some id
  /-- The platform knows the ticket of who waits. -/
  ticket : ∀ id, p.ticket? id = (t.waiting id).bind RunningJob.ticket?
  lt : ∀ job ∈ t.jobs, ∀ ticket, job.ticket? = some ticket → ticket < p.nextTicket
  /-- No two jobs have the same ticket. -/
  inj : ∀ job ∈ t.jobs, ∀ job' ∈ t.jobs, ∀ ticket, job.ticket? = some ticket →
    job'.ticket? = some ticket → job = job'
  dropped : ∀ ticket, ticket ∈ p.dropped ↔ ∃ job, .dropped job ∈ t ∧ job.ticket? = some ticket
  dropped_mem : ∀ job, .dropped job ∈ t → job ∈ t.jobs
  /-- The platform knows what was delivered. -/
  delivered : ∀ ticket outcome, p.delivered? ticket = some outcome ↔
    ∃ job, job.ticket? = some ticket ∧ t.Gives job outcome
  gives_mem : ∀ job outcome, t.Gives job outcome → job ∈ t.jobs
  /-- Nothing was delivered to who waits. -/
  fresh : ∀ id ticket, p.ticket? id = some ticket → p.delivered? ticket = none
  /-- Where no job is held, nobody waits with a ticket. -/
  ready : p.script.jobOutcome ≠ none → ∀ id, p.ticket? id = none

/-- A use without any job and without a ticket. -/
private lemma Promises.of_same (hpromises : Promises t p) (hjob : d.job? = none)
    (hwaiting : ∀ id waiting, d.awaited id waiting = waiting) (hdropped : ∀ job, d ≠ .dropped job)
    (hscript : p'.script = p.script) (hpending : p'.pending = p.pending)
    (hnext : p'.nextTicket = p.nextTicket) (hgone : p'.dropped = p.dropped)
    (hdelivered : p'.delivered = p.delivered) : Promises (t ++ [d]) p' := by
  have hjobs : Trace.jobs (t ++ [d]) = t.jobs := by
    rw [Trace.jobs_snoc, hjob]
    exact List.append_nil _
  have hwaits : ∀ id, Trace.waiting (t ++ [d]) id = t.waiting id := fun id => by
    rw [Trace.waiting_snoc, hwaiting]
  have hgives : ∀ job outcome, Trace.Gives (t ++ [d]) job outcome ↔ t.Gives job outcome := by
    refine fun job outcome => Trace.gives_snoc_of_ne ?_
    rintro id outcome rfl
    have hnone := hwaiting id (some job)
    rw [Deed.awaited, if_pos rfl] at hnone
    exact nomatch hnone
  have hmem : ∀ job, Deed.dropped job ∈ t ++ [d] ↔ .dropped job ∈ t :=
    fun job => Trace.dropped_mem_snoc_of_ne hdropped
  have hticket : ∀ id, p'.ticket? id = p.ticket? id := fun id => by rw [ticket?, hpending, ticket?]
  have htold := delivered?_congr hdelivered
  constructor
  · simpa only [hjobs, hwaits] using hpromises.mem
  · simpa only [hticket, hwaits] using hpromises.ticket
  · simpa only [hjobs, hnext] using hpromises.lt
  · simpa only [hjobs] using hpromises.inj
  · simpa only [hgone, hmem] using hpromises.dropped
  · simpa only [hmem, hjobs] using hpromises.dropped_mem
  · simpa only [htold, hgives] using hpromises.delivered
  · simpa only [hgives, hjobs] using hpromises.gives_mem
  · simpa only [hticket, htold] using hpromises.fresh
  · simpa only [hscript, hticket] using hpromises.ready

/-- The job that waits for an application after another one was accepted. -/
private lemma Promises.mem_accepted (hpromises : Promises t p) {h : ClusterHandle} {job : Job}
    {running other : RunningJob} (happlication : running.application? = some h.applicationId)
    (hother : Trace.waiting (t ++ [.called (.submitJob h job) (.ok running)]) id = some other) :
    other ∈ t.jobs ++ [running] ∧ other.application? = some id := by
  rw [Trace.waiting_snoc, Deed.awaited] at hother
  by_cases hid : h.applicationId = id
  · rw [if_pos hid] at hother
    obtain rfl := Option.some.inj hother
    exact ⟨by simp, hid ▸ happlication⟩
  · rw [if_neg hid] at hother
    obtain ⟨hin, happlication'⟩ := hpromises.mem id other hother
    exact ⟨List.mem_append_left _ hin, happlication'⟩

/-- No two jobs have the same ticket if a new job has none of an older one. -/
private lemma Promises.inj_accepted (hpromises : Promises t p) {running : RunningJob}
    (hold : ∀ other ∈ t.jobs, ∀ ticket, other.ticket? = some ticket →
      running.ticket? ≠ some ticket) :
    ∀ a ∈ t.jobs ++ [running], ∀ b ∈ t.jobs ++ [running], ∀ ticket, a.ticket? = some ticket →
      b.ticket? = some ticket → a = b := by
  intro a hina b hinb ticket hta htb
  rcases List.mem_append.1 hina with ha | ha <;> rcases List.mem_append.1 hinb with hb | hb
  · exact hpromises.inj a ha b hb ticket hta htb
  · exact absurd (List.mem_singleton.1 hb ▸ htb) (hold a ha ticket hta)
  · exact absurd (List.mem_singleton.1 ha ▸ hta) (hold b hb ticket htb)
  · rw [List.mem_singleton.1 ha, List.mem_singleton.1 hb]

/-- A job is accepted: it waits from now on, and its ticket is new if it has one. -/
private lemma Promises.of_accepted (hpromises : Promises t p) {h : ClusterHandle} {job : Job}
    {running : RunningJob} (happlication : running.application? = some h.applicationId)
    (hticket : ∀ id, p'.ticket? id =
      if id = h.applicationId then running.ticket? else p.ticket? id)
    (hnew : ∀ ticket, running.ticket? = some ticket →
      p.script.jobOutcome = none ∧ ticket = p.nextTicket ∧ p.nextTicket < p'.nextTicket)
    (hnext : p.nextTicket ≤ p'.nextTicket) (hscript : p'.script = p.script)
    (hgone : p'.dropped = p.dropped) (hdelivered : p'.delivered = p.delivered) :
    Promises (t ++ [.called (.submitJob h job) (.ok running)]) p' := by
  have hjobs : Trace.jobs (t ++ [.called (.submitJob h job) (.ok running)]) =
      t.jobs ++ [running] := Trace.jobs_snoc t _
  have hwaits : ∀ id, Trace.waiting (t ++ [.called (.submitJob h job) (.ok running)]) id =
      if h.applicationId = id then some running else t.waiting id := fun id => Trace.waiting_snoc
  have hgives : ∀ other outcome,
      Trace.Gives (t ++ [.called (.submitJob h job) (.ok running)]) other outcome ↔
        t.Gives other outcome := fun other outcome => Trace.gives_snoc_of_ne fun _ _ => nofun
  have hmem : ∀ other, Deed.dropped other ∈ t ++ [.called (.submitJob h job) (.ok running)] ↔
      .dropped other ∈ t := fun other => Trace.dropped_mem_snoc_of_ne fun _ => nofun
  have htold := delivered?_congr hdelivered
  -- an older job has an older ticket
  have hold : ∀ other ∈ t.jobs, ∀ ticket, other.ticket? = some ticket →
      running.ticket? ≠ some ticket := fun other hother ticket hother' hrunning =>
    Nat.ne_of_lt (hpromises.lt other hother ticket hother') (hnew ticket hrunning).2.1
  constructor
  · intro id other hother
    rw [hjobs]
    exact hpromises.mem_accepted happlication hother
  · intro id
    rw [hticket, hwaits, hpromises.ticket]
    by_cases hid : h.applicationId = id
    · rw [if_pos hid, if_pos hid.symm, Option.bind_some]
    · rw [if_neg hid, if_neg (Ne.symm hid)]
  · rw [hjobs]
    refine List.forall_mem_append.2 ⟨fun other hother ticket hother' => ?_,
      List.forall_mem_singleton.2 fun ticket hrunning => ?_⟩
    · exact Nat.lt_of_lt_of_le (hpromises.lt other hother ticket hother') hnext
    · obtain ⟨-, rfl, hlt⟩ := hnew ticket hrunning
      exact hlt
  · rw [hjobs]
    exact hpromises.inj_accepted hold
  · simpa only [hgone, hmem] using hpromises.dropped
  · intro other hother
    rw [hjobs]
    exact List.mem_append_left _ (hpromises.dropped_mem other ((hmem other).1 hother))
  · simpa only [htold, hgives] using hpromises.delivered
  · intro other outcome hother
    rw [hjobs]
    exact List.mem_append_left _ (hpromises.gives_mem other outcome ((hgives _ _).1 hother))
  · intro id ticket hid
    rw [htold]
    rw [hticket] at hid
    split at hid
    · refine Option.eq_none_iff_forall_ne_some.2 fun outcome houtcome => ?_
      obtain ⟨other, hother, hothers⟩ := (hpromises.delivered ticket outcome).1 houtcome
      exact hold other (hpromises.gives_mem other outcome hothers) ticket hother hid
    · exact hpromises.fresh id ticket hid
  · intro hready id
    rw [hscript] at hready
    rw [hticket]
    split
    · exact Option.eq_none_iff_forall_ne_some.2 fun ticket hrunning =>
        hready (hnew ticket hrunning).1
    · exact hpromises.ready hready id

/-- Somebody tries to deliver an outcome: nobody waits for the application any more. -/
private lemma Promises.of_completed (hpromises : Promises t p) {heard : Bool}
    (hticket : ∀ id', p'.ticket? id' = if id' = id then none else p.ticket? id')
    (hnext : p'.nextTicket = p.nextTicket) (hscript : p'.script = p.script)
    (hgone : p'.dropped = p.dropped)
    (hdelivered : ∀ ticket outcome', p'.delivered? ticket = some outcome' ↔
      ∃ job, job.ticket? = some ticket ∧
        Trace.Gives (t ++ [.completed id outcome heard]) job outcome')
    (hfresh : ∀ id' ticket, id' ≠ id → p.ticket? id' = some ticket →
      p'.delivered? ticket = none) :
    Promises (t ++ [.completed id outcome heard]) p' := by
  have hjobs : Trace.jobs (t ++ [.completed id outcome heard]) = t.jobs :=
    (Trace.jobs_snoc t _).trans (List.append_nil _)
  have hwaits : ∀ id', Trace.waiting (t ++ [.completed id outcome heard]) id' =
      if id = id' then none else t.waiting id' := fun id' => Trace.waiting_snoc
  have hmem : ∀ other, Deed.dropped other ∈ t ++ [.completed id outcome heard] ↔
      .dropped other ∈ t := fun other => Trace.dropped_mem_snoc_of_ne fun _ => nofun
  constructor
  · intro id' other hother
    rw [hwaits] at hother
    split at hother
    · exact nomatch hother
    · rw [hjobs]
      exact hpromises.mem id' other hother
  · intro id'
    rw [hticket, hwaits, hpromises.ticket]
    by_cases hid : id = id'
    · rw [if_pos hid, if_pos hid.symm, Option.bind_none]
    · rw [if_neg hid, if_neg (Ne.symm hid)]
  · simpa only [hjobs, hnext] using hpromises.lt
  · simpa only [hjobs] using hpromises.inj
  · simpa only [hgone, hmem] using hpromises.dropped
  · simpa only [hmem, hjobs] using hpromises.dropped_mem
  · exact hdelivered
  · intro other outcome' hother
    rw [hjobs]
    obtain hearlier | ⟨id', -, hwaiting⟩ := Trace.gives_snoc_iff.1 hother
    · exact hpromises.gives_mem other outcome' hearlier
    · exact (hpromises.mem id' other hwaiting).1
  · intro id' ticket hid
    rw [hticket] at hid
    split at hid
    · exact nomatch hid
    · next hne => exact hfresh id' ticket hne hid
  · intro hready id'
    rw [hscript] at hready
    rw [hticket]
    split
    · rfl
    · exact hpromises.ready hready id'

/-- Nobody waits for a job any more. -/
private lemma Promises.of_dropped (hpromises : Promises t p) (hjob : job ∈ t.jobs) :
    Promises (t ++ [.dropped job]) (p.dropJob job) := by
  have hjobs : Trace.jobs (t ++ [.dropped job]) = t.jobs :=
    (Trace.jobs_snoc t _).trans (List.append_nil _)
  have hwaits : ∀ id, Trace.waiting (t ++ [.dropped job]) id = t.waiting id :=
    fun id => Trace.waiting_snoc
  have hgives : ∀ other outcome,
      Trace.Gives (t ++ [.dropped job]) other outcome ↔ t.Gives other outcome :=
    fun other outcome => Trace.gives_snoc_of_ne fun _ _ => nofun
  have hmem : ∀ other, Deed.dropped other ∈ t ++ [.dropped job] ↔
      .dropped other ∈ t ∨ other = job := fun other => by simp
  rw [dropJob_eq]
  constructor
  · simpa only [hjobs, hwaits] using hpromises.mem
  · intro id
    rw [hwaits]
    exact hpromises.ticket id
  · simpa only [hjobs] using hpromises.lt
  · simpa only [hjobs] using hpromises.inj
  · intro ticket
    rw [List.mem_append, Option.mem_toList, hpromises.dropped]
    simp only [hmem]
    constructor
    · rintro (hticket | ⟨other, hother, hticket⟩)
      · exact ⟨job, .inr rfl, hticket⟩
      · exact ⟨other, .inl hother, hticket⟩
    · rintro ⟨other, hother | rfl, hticket⟩
      · exact .inr ⟨other, hother, hticket⟩
      · exact .inl hticket
  · intro other hother
    rw [hjobs]
    rcases (hmem other).1 hother with hother | rfl
    · exact hpromises.dropped_mem other hother
    · exact hjob
  · intro ticket outcome
    simp only [hgives]
    exact hpromises.delivered ticket outcome
  · simpa only [hgives, hjobs] using hpromises.gives_mem
  · exact hpromises.fresh
  · exact hpromises.ready

/-- Nobody hears of an outcome, because nobody waits for it. -/
private lemma Promises.of_unheard (hpromises : Promises t p) :
    Promises (t ++ [.completed id outcome false]) (p.withoutTicket id) := by
  refine hpromises.of_completed (fun id' => ticket?_withoutTicket) rfl rfl rfl
    (fun ticket outcome' => ?_) fun id' ticket _ hid => hpromises.fresh id' ticket hid
  have hgives : ∀ job, Trace.Gives (t ++ [.completed id outcome false]) job outcome' ↔
      t.Gives job outcome' := fun job => Trace.gives_snoc_of_ne fun _ _ => nofun
  simp only [hgives]
  exact hpromises.delivered ticket outcome'

/-- No two applications wait with the same ticket. -/
private lemma Promises.ticket_inj (hpromises : Promises t p) (hwaits : p.ticket? id = some ticket)
    (hwaits' : p.ticket? id' = some ticket) : id' = id := by
  obtain ⟨job, hwaiting, hjob⟩ :=
    Option.bind_eq_some_iff.1 ((hpromises.ticket id).symm.trans hwaits)
  obtain ⟨other, hwaiting', hother⟩ :=
    Option.bind_eq_some_iff.1 ((hpromises.ticket id').symm.trans hwaits')
  obtain ⟨hin, happlication⟩ := hpromises.mem id job hwaiting
  obtain ⟨hin', happlication'⟩ := hpromises.mem id' other hwaiting'
  obtain rfl := hpromises.inj job hin other hin' ticket hjob hother
  exact Option.some.inj (happlication'.symm.trans happlication)

/-- The job that waits for the outcome hears of it. -/
private lemma Promises.of_heard (hpromises : Promises t p) (hwaits : p.ticket? id = some ticket) :
    Promises (t ++ [.completed id outcome true])
      { p.withoutTicket id with delivered := (ticket, outcome) :: p.delivered } := by
  obtain ⟨job, hwaiting, hjob⟩ :=
    Option.bind_eq_some_iff.1 ((hpromises.ticket id).symm.trans hwaits)
  have hnever := hpromises.fresh id ticket hwaits
  have hdelivered : ∀ ticket', delivered?
      { p.withoutTicket id with delivered := (ticket, outcome) :: p.delivered } ticket' =
        if ticket = ticket' then some outcome else p.delivered? ticket' := by
    intro ticket'
    unfold delivered?
    by_cases heq : ticket = ticket'
    · rw [if_pos heq, List.find?_cons_of_pos (by simpa using heq)]
      rfl
    · rw [if_neg heq, List.find?_cons_of_neg (by simpa using heq)]
  refine hpromises.of_completed (fun id' => ticket?_withoutTicket) rfl rfl rfl
    (fun ticket' outcome' => ?_) fun id' ticket' hne hid => ?_
  · rw [hdelivered]
    simp only [Trace.gives_snoc_iff]
    by_cases heq : ticket = ticket'
    · -- nothing was delivered to this ticket before
      subst heq
      rw [if_pos rfl]
      constructor
      · intro houtcome
        obtain rfl := Option.some.inj houtcome
        exact ⟨job, hjob, .inr ⟨id, rfl, hwaiting⟩⟩
      · rintro ⟨other, hother, hgives | ⟨id', hlast, -⟩⟩
        · have hearlier := (hpromises.delivered ticket outcome').2 ⟨other, hother, hgives⟩
          exact nomatch hnever.symm.trans hearlier
        · rw [(Deed.completed.inj hlast).2.1]
    · -- who waits for the application has another ticket
      rw [if_neg heq, hpromises.delivered]
      refine exists_congr fun other => and_congr_right fun hother => (or_iff_left ?_).symm
      rintro ⟨id', hlast, hwaiting'⟩
      obtain rfl := (Deed.completed.inj hlast).1
      obtain rfl := Option.some.inj (hwaiting.symm.trans hwaiting')
      exact heq (Option.some.inj (hjob.symm.trans hother))
  · have hother : ticket ≠ ticket' := by
      rintro rfl
      exact hne (hpromises.ticket_inj hwaits hid)
    rw [hdelivered, if_neg hother]
    exact hpromises.fresh id' ticket' hid

/-- **One use keeps the tickets right.**

**Proof sketch.** A case for each effect. Only the submission of a job gives out a ticket, which is
new; and only an outcome that somebody hears of is delivered, to the job with the ticket that waits
for the application. -/
lemma Promises.of_effect (hpromises : Promises t p) (heffect : Effect p d p')
    (hjobs : ∀ job, d = .dropped job → job ∈ t.jobs) : Promises (t ++ [d]) p' := by
  cases heffect with
  | ready h job outcome _ hready =>
    refine hpromises.of_accepted rfl (fun id => ?_) nofun (Nat.le_refl _) rfl rfl rfl
    have hnone := hpromises.ready (by rw [hready]; exact nofun) id
    split
    · exact hnone
    · rfl
  | held h job _ hheld =>
    refine hpromises.of_accepted rfl (fun id => ?_) (fun ticket hticket => ?_) (Nat.le_succ _)
      rfl rfl rfl
    · change (((h.applicationId, p.nextTicket) :: (p.pending.filter
        fun entry => entry.1 != h.applicationId)).find? fun entry => entry.1 == id).map (·.2) = _
      rw [find?_cons_filter_key]
      split <;> rfl
    · exact ⟨hheld, (Option.some.inj hticket).symm, Nat.lt_succ_self _⟩
  | unheard id outcome _ => exact hpromises.of_unheard
  | heard id outcome hticket _ => exact hpromises.of_heard hticket
  | dropped job => exact hpromises.of_dropped (hjobs job rfl)
  | _ => exact hpromises.of_same rfl (fun _ _ => rfl) (fun _ => nofun) rfl rfl rfl rfl rfl

/-- What is submitted is counted as long as it is not rejected. -/
private lemma Used.submissions (hused : Used clusterTimestamp script t p)
    (hfew : t.allocated.length < 2 ^ 32) (haccepts : script.rejectSubmissions = none) :
    p.counts.submitJob = UInt32.ofNat t.jobs.length := by
  refine hused.induction (P := fun t p => p.counts.submitJob = UInt32.ofNat t.jobs.length) hfew rfl
    fun t p d p' haccounts heffect _ hcount => ?_
  rw [submissions_of_effect heffect (haccounts.follows ▸ haccepts), hcount, Trace.jobs_snoc,
    List.length_append, UInt32.ofNat_add]
  congr 1
  rcases d with ⟨_ | _ | _ | _ | _, _ | _⟩ | _ | _ | _ <;>
    simp [Deed.subject?, Deed.jobOf?, Deed.job?]

/-- The counters as numbers, as long as none can be used up. -/
private lemma Used.exact (hused : Used clusterTimestamp script t p)
    (hfew : t.allocated.length < 2 ^ 32) (hfits : t.length < UInt32.size) :
    p.counts.queryStatus.toNat = p.amount (·.polls) ∧
      p.counts.forceKill.toNat = p.amount (·.kills) ∧
      p.counts.release.toNat = p.amount (·.releases) ∧
      (script.rejectSubmissions = none → p.counts.submitJob.toNat = t.jobs.length) := by
  have haccounts := hused.accounts hfew
  -- nothing is counted more often than something was done
  have hnumber : ∀ {count : Counter} {number : Nat}, count = UInt32.ofNat number →
      number ≤ t.length → count.toNat = number := by
    rintro count number rfl hle
    exact UInt32.toNat_ofNat_of_lt' (Nat.lt_of_le_of_lt hle hfits)
  refine ⟨?_, ?_, ?_, fun haccepts => ?_⟩
  · exact hnumber (haccounts.balanced.queries.trans total_eq_ofNat_amount)
      (haccounts.amount_le Deed.subject?_of_isPoll fun _ _ htold => htold.polls)
  · exact hnumber (haccounts.balanced.kills.trans total_eq_ofNat_amount)
      (haccounts.amount_le Deed.subject?_of_isKill fun _ _ htold => htold.kills)
  · exact hnumber (haccounts.balanced.releases.trans total_eq_ofNat_amount)
      (haccounts.amount_le Deed.subject?_of_isRelease fun _ _ htold => htold.releases)
  · exact hnumber (hused.submissions hfew haccepts) (List.length_filterMap_le _ _)

end SimulatedPlatform

end ClusterDeploy
