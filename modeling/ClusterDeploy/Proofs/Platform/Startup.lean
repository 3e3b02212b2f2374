import ClusterDeploy.Proofs.Application
import ClusterDeploy.Proofs.Http.Urls
import ClusterDeploy.Proofs.Platform.Conversations
import Mathlib.Tactic.SplitIfs

set_option relaxedAutoImplicit false
set_option autoImplicit false

/-!
# Clusters that do not come up are cleaned up

What is said to the resource manager from the request for a cluster until the cluster is up or given
up. A cluster that may exist and is given up is killed, by a request of which nothing else depends.

## Main definitions

* `ResourceManager.Answered`, `ResourceManager.AsksToKill`, `ResourceManager.Inquired` — the
  exchanges in which a cluster is asked for, killed and reported on.
* `ResourceManager.Starting` — the part of a start-up in which the cluster is not up yet.
* `ResourceManager.StartupEnds` — a start-up and what came of it.
* `ResourceManager.Created` — all that can happen when a cluster is asked for.
* `ResourceManager.CleansUp` — what the clean-up guarantees.

## Main results

* `ResourceManager.ends_awaitRunning_iff` — the runs of the start-up.
* `ResourceManager.ends_createCluster_iff` — the runs of the whole operation.
* `ResourceManager.createCluster_cleansUp` — whatever the resource manager answers.

## Implementation notes

The reports are put together from the first one on, with the time that has passed; the program goes
the other way and keeps the time that is left. If the URL of the resource manager cannot be read,
then no request is sent at all. Whether this is so is the same for all its parts.
-/

namespace ClusterDeploy

/-- The text form of an id is printable. -/
lemma ApplicationId.blank_lt_of_mem_display {id : ApplicationId} :
    ∀ c ∈ id.display.toList, 0x20 < c.toNat := by
  have hdigit : ∀ c : Char, c.isDigit = true → 0x20 < c.toNat := by
    intro c hc
    have hle : '0' ≤ c := of_decide_eq_true (Bool.and_eq_true _ _ ▸ hc).1
    exact Nat.lt_of_lt_of_le (by decide) hle
  intro c hc
  rw [ApplicationId.display, String.toList_ofList, List.mem_append, List.mem_append,
    List.mem_cons] at hc
  rcases hc with (hc | hc) | rfl | hc
  · exact Url.blank_lt_of_all rfl c hc
  · exact hdigit c (Text.isDigit_of_mem_decimal hc)
  · decide
  · exact hdigit c (Text.isDigit_of_mem_padded hc)

namespace ResourceManager

open Dialogue (Ends Obeys)

variable {rm : ResourceManager} {request : ClusterRequest} {id : ApplicationId}
  {c startup : Http.Conversation} {x kill : Exchange} {time took : Millis}
  {response : Http.Response} {report : ApplicationReport}

/-! ## Requests that are sent -/

/-- The path of the applications has no blanks and no control characters in it. -/
lemma blank_lt_of_mem_apps : ∀ c ∈ "/apps".toList, 0x20 < c.toNat :=
  Url.blank_lt_of_all rfl

/-- The URL of a part of the interface is read if that of any other part is. -/
lemma isSome_parse_clusterUrl (rm : ResourceManager) {part part' : String}
    (hpart : ∀ c ∈ part.toList, 0x20 < c.toNat) (hpart' : ∀ c ∈ part'.toList, 0x20 < c.toNat) :
    (Url.parse (rm.clusterUrl part)).isSome = (Url.parse (rm.clusterUrl part')).isSome := by
  have hserver : ∀ part : String, (∀ c ∈ part.toList, 0x20 < c.toNat) →
      (Url.parse (rm.clusterUrl part)).isSome =
        ((Url.parse (String.ofList ((Storage.withoutSlashes rm.url).toList ++
          '/' :: 'w' :: ['s'] ++ ['/']))).map Url.server).isSome := by
    intro part hpart
    have htext : rm.clusterUrl part = String.ofList ((Storage.withoutSlashes rm.url).toList ++
        '/' :: 'w' :: ['s'] ++ '/' :: ("v1/cluster".toList ++ part.toList)) := by
      refine String.toList_inj.1 ?_
      simp [clusterUrl, toString]
    have hplain : ∀ c ∈ "v1/cluster".toList ++ part.toList, 0x20 < c.toNat :=
      List.forall_mem_append.2 ⟨Url.blank_lt_of_all rfl, hpart⟩
    rw [htext, ← Url.server_parse_append (Storage.withoutSlashes rm.url).toList
      (by decide) (by decide) (Url.blank_lt_of_all rfl) hplain, Option.isSome_map]
  rw [hserver part hpart, hserver part' hpart']

/-- Whether requests to the resource manager are sent: its URL can be read. -/
def IsReachable (rm : ResourceManager) : Prop :=
  Url.parse (rm.clusterUrl "/apps") ≠ none

/-- The URL of a reachable resource manager can be read with any path behind it that has no blanks.
-/
lemma IsReachable.parse_ne_none (hreach : rm.IsReachable) {part : String}
    (hpart : ∀ c ∈ part.toList, 0x20 < c.toNat) : Url.parse (rm.clusterUrl part) ≠ none := by
  have hsome := isSome_parse_clusterUrl rm hpart blank_lt_of_mem_apps
  rw [← Option.isSome_iff_ne_none, hsome, Option.isSome_iff_ne_none]
  exact hreach

/-- The request for a cluster, and what was answered. -/
def Answered (rm : ResourceManager) (request : ClusterRequest) (x : Exchange)
    (response : Http.Response) : Prop :=
  Ends (Http.send "POST" (rm.clusterUrl "/apps") []
    (some (contentOf (rm.submission request)))) [x] response

/-- A request to kill an application, whatever was answered. -/
def AsksToKill (rm : ResourceManager) (id : ApplicationId) (x : Exchange) : Prop :=
  ∃ response, Ends (Http.send "PUT" (rm.clusterUrl s!"/apps/{id.display}/state") []
    (some (contentOf (object [("state", .string "KILLED")])))) [x] response

/-- The request for a report on an application, how long it took, and what was answered. -/
def Inquired (rm : ResourceManager) (id : ApplicationId) (x : Exchange) (took : Millis)
    (response : Http.Response) : Prop :=
  Ends (Http.sendTimed "GET" (rm.clusterUrl s!"/apps/{id.display}") [] none) [x] (took, response)

/-- The pause after a report. -/
def pause (rm : ResourceManager) : Exchange :=
  ⟨.pause (max 1 rm.startupPollInterval), ()⟩

/-- What was sent to a server is a request with its method. -/
lemma exists_question_of_ends_sendTimed {method url : String} {parameters : List (String × String)}
    {content : Option Http.Content} {a : Millis × Http.Response}
    (hrun : Ends (Http.sendTimed method url parameters content) [x] a) :
    ∃ server target, x.question = .exchange ⟨server, method, target, content⟩ := by
  rcases Http.ends_sendTimed_iff.1 hrun with ⟨-, hnil, -⟩ | ⟨u, reply, -, -, hsingle⟩
  · exact absurd hnil (List.cons_ne_nil _ _)
  · obtain ⟨rfl, -⟩ := List.cons.inj hsingle
    exact ⟨_, _, rfl⟩

/-- A request with another method does not ask to kill an application. -/
lemma not_asksToKill_of_ends_sendTimed {method url : String} {parameters : List (String × String)}
    {content : Option Http.Content} {a : Millis × Http.Response} (hmethod : method ≠ "PUT")
    (hrun : Ends (Http.sendTimed method url parameters content) [x] a) : ¬rm.AsksToKill id x := by
  rintro ⟨response, hkill⟩
  obtain ⟨took, hkill⟩ := Http.ends_send_iff.1 hkill
  obtain ⟨server, target, hquestion⟩ := exists_question_of_ends_sendTimed hkill
  obtain ⟨server', target', hquestion'⟩ := exists_question_of_ends_sendTimed hrun
  have hrequest := Http.Question.exchange.inj (hquestion'.symm.trans hquestion)
  exact hmethod (Http.Request.mk.inj hrequest).2.1

/-- A request for a cluster is no request to kill one. -/
lemma Answered.not_asksToKill (hx : rm.Answered request x response) : ¬rm.AsksToKill id x := by
  obtain ⟨took, hrun⟩ := Http.ends_send_iff.1 hx
  exact not_asksToKill_of_ends_sendTimed (by decide) hrun

/-- A request for a report is no request to kill a cluster. -/
lemma Inquired.not_asksToKill {id' : ApplicationId} (hx : rm.Inquired id x took response) :
    ¬rm.AsksToKill id' x :=
  not_asksToKill_of_ends_sendTimed (by decide) hx

/-- A pause is no request to kill a cluster. -/
lemma not_asksToKill_pause : ¬rm.AsksToKill id rm.pause := by
  rintro ⟨response, hkill⟩
  obtain ⟨took, hkill⟩ := Http.ends_send_iff.1 hkill
  obtain ⟨server, target, hquestion⟩ := exists_question_of_ends_sendTimed hkill
  exact nomatch hquestion

/-- The path of the state of an application has no blanks and no control characters in it. -/
lemma blank_lt_of_mem_state (id : ApplicationId) :
    ∀ c ∈ (s!"/apps/{id.display}/state").toList, 0x20 < c.toNat := by
  simp only [toString, String.toList_append, List.forall_mem_append]
  exact ⟨⟨Url.blank_lt_of_all rfl, ApplicationId.blank_lt_of_mem_display⟩,
    Url.blank_lt_of_all rfl⟩

/-- An attempt to kill an application is one request. -/
lemma exists_eq_of_ends_kill (hreach : rm.IsReachable) {r : Except DeployError Unit}
    (hrun : Ends (rm.kill id).run c r) : ∃ kill, c = [kill] ∧ rm.AsksToKill id kill := by
  obtain ⟨response, hsend, -⟩ := ends_kill_iff.1 hrun
  obtain ⟨took, htimed⟩ := Http.ends_send_iff.1 hsend
  rcases Http.ends_sendTimed_iff.1 htimed with ⟨hnone, -⟩ | ⟨u, reply, -, -, rfl⟩
  · exact absurd hnone (hreach.parse_ne_none (blank_lt_of_mem_state id))
  · exact ⟨_, rfl, response, hsend⟩

/-- A request to kill an application is all that is said to kill it. -/
lemma AsksToKill.ends_kill (hkill : rm.AsksToKill id kill) :
    ∃ r, Ends (rm.kill id).run [kill] r := by
  obtain ⟨response, hsend⟩ := hkill
  exact ⟨_, ends_kill_iff.2 ⟨response, hsend, rfl⟩⟩

/-! ## The start-up -/

/-- The part of a start-up in which the cluster is not up yet, and how long it takes. Every report
was read; none says that the cluster is up, or that it stopped, and none came when the time for the
start-up was over. -/
inductive Starting (rm : ResourceManager) (request : ClusterRequest) :
    Millis → Http.Conversation → Prop where
  | begun : Starting rm request 0 []
  | waits {time took : Millis} {c : Http.Conversation} {x : Exchange} {response : Http.Response}
      {report : ApplicationReport} :
    Starting rm request time c → rm.Inquired request.applicationId x took response →
    readResponse reportReader "application report" response = .ok report →
    report.startup = .starting → time + took < request.startupTimeout →
    Starting rm request (time + took + max 1 rm.startupPollInterval) (c ++ [x, rm.pause])

/-- A start-up that is over, and what came of it: the URL of the cluster, or a failure. -/
inductive StartupEnds (rm : ResourceManager) (request : ClusterRequest) :
    Http.Conversation → Except DeployError String → Prop where
  | running {time took : Millis} {c : Http.Conversation} {x : Exchange} {response : Http.Response}
      {report : ApplicationReport} {url : String} :
    Starting rm request time c → rm.Inquired request.applicationId x took response →
    readResponse reportReader "application report" response = .ok report →
    report.state = "RUNNING" → report.trackingUrl = some url → url ≠ "" →
    StartupEnds rm request (c ++ [x]) (.ok url)
  | unreadable {time took : Millis} {c : Http.Conversation} {x : Exchange}
      {response : Http.Response} {e : DeployError} :
    Starting rm request time c → rm.Inquired request.applicationId x took response →
    readResponse reportReader "application report" response = .error e →
    StartupEnds rm request (c ++ [x]) (.error e)
  | stopped {time took : Millis} {c : Http.Conversation} {x : Exchange} {response : Http.Response}
      {report : ApplicationReport} :
    Starting rm request time c → rm.Inquired request.applicationId x took response →
    readResponse reportReader "application report" response = .ok report →
    report.state = "FINISHED" ∨ report.state = "FAILED" ∨ report.state = "KILLED" →
    StartupEnds rm request (c ++ [x]) (.error (stoppedError request.applicationId report))
  | late {time took : Millis} {c : Http.Conversation} {x : Exchange} {response : Http.Response}
      {report : ApplicationReport} :
    Starting rm request time c → rm.Inquired request.applicationId x took response →
    readResponse reportReader "application report" response = .ok report →
    report.startup = .starting → request.startupTimeout ≤ time + took →
    StartupEnds rm request (c ++ [x]) (.error (lateError request report))

/-- When a report says that a cluster is up. -/
lemma startup_eq_running_iff {url : String} :
    report.startup = .running url ↔
      report.state = "RUNNING" ∧ report.trackingUrl = some url ∧ url ≠ "" := by
  unfold ApplicationReport.startup
  split_ifs with hrunning hfinal
  · rcases hurl : report.trackingUrl.filter (· != "") with _ | other
    · have hempty : report.trackingUrl = some url → url = "" := by
        intro hsome
        rw [hsome] at hurl
        simpa using hurl
      exact iff_of_false nofun fun h => h.2.2 (hempty h.2.1)
    · obtain ⟨hsome, hne⟩ := Option.filter_eq_some_iff.1 hurl
      simp only [Startup.running.injEq, hrunning, hsome, Option.some.injEq, true_and]
      exact ⟨fun h => ⟨h, h ▸ bne_iff_ne.1 hne⟩, And.left⟩
  · simp [hrunning]
  · simp [hrunning]

/-- When a report says that a cluster stopped. -/
lemma startup_eq_stopped_iff : report.startup = .stopped ↔
    report.state = "FINISHED" ∨ report.state = "FAILED" ∨ report.state = "KILLED" := by
  unfold ApplicationReport.startup
  split_ifs with hrunning hfinal
  · rcases report.trackingUrl.filter (· != "") with _ | other <;> simp [hrunning]
  · simpa [isFinal, or_assoc] using hfinal
  · simpa [isFinal, or_assoc] using hfinal

/-- What comes of a start-up with a report, if it ends there. -/
def verdict? (request : ClusterRequest) (remaining took : Millis) (response : Http.Response) :
    Option (Except DeployError String) :=
  match readResponse reportReader "application report" response with
  | .error e => some (.error e)
  | .ok report =>
    match report.startup with
    | .running url => some (.ok url)
    | .stopped => some (.error (stoppedError request.applicationId report))
    | .starting => if remaining ≤ took then some (.error (lateError request report)) else none

/-- A start-up is one report, and if it does not end there, then a pause and the rest. -/
lemma awaitRunning_eq (remaining : Millis) :
    rm.awaitRunning request remaining =
      Http.sendTimed "GET" (rm.clusterUrl s!"/apps/{request.applicationId.display}") [] none >>=
        fun a => match verdict? request remaining a.1 a.2 with
          | some r => pure r
          | none => Dialogue.question (Q := Http.Question) (A := Http.Answer)
              (.pause (max 1 rm.startupPollInterval)) >>= fun _ =>
            rm.awaitRunning request (remaining - a.1 - max 1 rm.startupPollInterval) := by
  rw [awaitRunning]
  congr 1
  funext ⟨took, response⟩
  simp only [verdict?]
  rcases readResponse reportReader "application report" response with e | report
  · rfl
  · rcases hstartup : report.startup with url | _ | _
    · simp only [hstartup]
    · simp only [hstartup]
    · simp only [hstartup, Nat.sub_eq_zero_iff_le]
      split_ifs <;> rfl

/-- A start-up goes on after a report exactly if the report could be read, the cluster is not up yet
and there is time left. -/
lemma verdict?_eq_none_iff {remaining : Millis} :
    verdict? request remaining took response = none ↔
      ∃ report, readResponse reportReader "application report" response = .ok report ∧
        report.startup = .starting ∧ took < remaining := by
  unfold verdict?
  rcases readResponse reportReader "application report" response with e | report
  · simp
  · rcases hstartup : report.startup with url | _ | _ <;> simp [hstartup]

/-- A start-up is over with the first report that ends it. -/
lemma startupEnds_iff {outcome : Except DeployError String} :
    StartupEnds rm request startup outcome ↔
      ∃ time c x took response, startup = c ++ [x] ∧ Starting rm request time c ∧
        rm.Inquired request.applicationId x took response ∧
        verdict? request (request.startupTimeout - time) took response = some outcome := by
  constructor
  · rintro (⟨hstarting, hx, hread, hstate, hurl, hne⟩ | ⟨hstarting, hx, hread⟩ |
      ⟨hstarting, hx, hread, hstate⟩ | ⟨hstarting, hx, hread, hstate, hlate⟩)
    · have hstartup := startup_eq_running_iff.2 ⟨hstate, hurl, hne⟩
      exact ⟨_, _, _, _, _, rfl, hstarting, hx, by simp [verdict?, hread, hstartup]⟩
    · exact ⟨_, _, _, _, _, rfl, hstarting, hx, by simp [verdict?, hread]⟩
    · have hstartup := startup_eq_stopped_iff.2 hstate
      exact ⟨_, _, _, _, _, rfl, hstarting, hx, by simp [verdict?, hread, hstartup]⟩
    · have hle := Nat.sub_le_iff_le_add'.2 hlate
      exact ⟨_, _, _, _, _, rfl, hstarting, hx, by simp [verdict?, hread, hstate, hle]⟩
  · rintro ⟨time, c, x, took, response, rfl, hstarting, hx, hverdict⟩
    unfold verdict? at hverdict
    rcases hread : readResponse reportReader "application report" response with e | report
    · rw [hread] at hverdict
      obtain rfl := Option.some.inj hverdict
      exact .unreadable hstarting hx hread
    · rcases hstartup : report.startup with url | _ | _
      · simp only [hread, hstartup, Option.some.injEq] at hverdict
        obtain ⟨hstate, hurl, hne⟩ := startup_eq_running_iff.1 hstartup
        exact hverdict ▸ .running hstarting hx hread hstate hurl hne
      · simp only [hread, hstartup, Option.some.injEq] at hverdict
        exact hverdict ▸ .stopped hstarting hx hread (startup_eq_stopped_iff.1 hstartup)
      · simp only [hread, hstartup] at hverdict
        split_ifs at hverdict with hle
        obtain rfl := Option.some.inj hverdict
        exact .late hstarting hx hread hstartup (Nat.sub_le_iff_le_add'.1 hle)

/-- A report is one request. -/
lemma exists_eq_of_ends_sendTimed (hreach : rm.IsReachable)
    (hrun : Ends (Http.sendTimed "GET" (rm.clusterUrl s!"/apps/{id.display}") [] none) c
      (took, response)) : ∃ x, c = [x] ∧ rm.Inquired id x took response := by
  have hpart : ∀ c ∈ (s!"/apps/{id.display}").toList, 0x20 < c.toNat := by
    simp only [toString, String.toList_append, List.forall_mem_append]
    exact ⟨Url.blank_lt_of_all rfl, ApplicationId.blank_lt_of_mem_display⟩
  rcases Http.ends_sendTimed_iff.1 hrun with ⟨hnone, -⟩ | ⟨u, reply, hparse, hresponse, rfl⟩
  · exact absurd hnone (hreach.parse_ne_none hpart)
  · exact ⟨_, rfl, hrun⟩

variable (rm) in
/-- Less time is left after a report and the pause behind it. -/
lemma remaining_lt {remaining : Millis} (htook : took < remaining) :
    remaining - took - max 1 rm.startupPollInterval < remaining := by
  have hspan : 0 < max 1 rm.startupPollInterval :=
    Nat.lt_of_lt_of_le Nat.zero_lt_one (Nat.le_max_left _ _)
  exact Nat.lt_of_lt_of_le (Nat.sub_lt (Nat.sub_pos_of_lt htook) hspan) (Nat.sub_le _ _)

/-- The rest of a start-up, behind reports that the cluster is not up yet.

**Proof sketch.** Induction on the time that is left. A report that does not end the start-up makes
the part before the rest longer, and the pause behind it makes the time shorter. -/
lemma startupEnds_of_ends (hreach : rm.IsReachable) {remaining : Millis} {rest : Http.Conversation}
    {outcome : Except DeployError String} (hstarting : Starting rm request time c)
    (hremaining : remaining = request.startupTimeout - time)
    (hrun : Ends (rm.awaitRunning request remaining) rest outcome) :
    StartupEnds rm request (c ++ rest) outcome := by
  induction remaining using Nat.strongRecOn generalizing time c rest with
  | ind remaining ih =>
    rw [awaitRunning_eq] at hrun
    obtain ⟨c₁, c₂, ⟨took, response⟩, rfl, hreport, hrest⟩ := Dialogue.ends_bind_iff.1 hrun
    obtain ⟨x, rfl, hx⟩ := exists_eq_of_ends_sendTimed hreach hreport
    rcases hverdict : verdict? request remaining took response with _ | r
    · obtain ⟨report, hread, hstartup, hlt⟩ := verdict?_eq_none_iff.1 hverdict
      simp only [hverdict] at hrest
      obtain ⟨paused, tail, rfl, htail⟩ := Dialogue.ends_question_bind_iff.1 hrest
      have hlonger := Starting.waits hstarting hx hread hstartup
        (Nat.lt_sub_iff_add_lt'.1 (hremaining ▸ hlt))
      have hleft : remaining - took - max 1 rm.startupPollInterval =
          request.startupTimeout - (time + took + max 1 rm.startupPollInterval) := by
        rw [hremaining, Nat.sub_add_eq, Nat.sub_add_eq]
      have hends := ih _ (remaining_lt rm hlt) hlonger hleft htail
      rwa [List.append_assoc] at hends
    · simp only [hverdict] at hrest
      obtain ⟨rfl, rfl⟩ := Dialogue.ends_pure_iff.1 hrest
      exact startupEnds_iff.2
        ⟨time, c, x, took, response, rfl, hstarting, hx, hremaining ▸ hverdict⟩

/-- Behind reports that the cluster is not up yet the start-up goes on. -/
lemma Starting.ends_append {rest : Http.Conversation} {outcome : Except DeployError String}
    (hstarting : Starting rm request time c)
    (hrest : Ends (rm.awaitRunning request (request.startupTimeout - time)) rest outcome) :
    Ends (rm.awaitRunning request request.startupTimeout) (c ++ rest) outcome := by
  induction hstarting generalizing rest with
  | begun => exact hrest
  | @waits time took c x response report hstarting hx hread hstartup hlt ih =>
    have hverdict : verdict? request (request.startupTimeout - time) took response = none :=
      verdict?_eq_none_iff.2 ⟨report, hread, hstartup, Nat.lt_sub_iff_add_lt'.2 hlt⟩
    rw [List.append_assoc]
    refine ih ?_
    rw [awaitRunning_eq]
    refine Dialogue.ends_bind_iff.2 ⟨[x], rm.pause :: rest, (took, response), rfl, hx, ?_⟩
    simp only [hverdict]
    refine Dialogue.ends_question_bind_iff.2 ⟨(), rest, rfl, ?_⟩
    rwa [Nat.sub_add_eq, Nat.sub_add_eq] at hrest

/-- **The runs of the start-up.** -/
lemma ends_awaitRunning_iff (hreach : rm.IsReachable) {outcome : Except DeployError String} :
    Ends (rm.awaitRunning request request.startupTimeout) startup outcome ↔
      StartupEnds rm request startup outcome := by
  constructor
  · exact fun hrun => startupEnds_of_ends hreach .begun rfl hrun
  · intro hends
    obtain ⟨time, c, x, took, response, rfl, hstarting, hx, hverdict⟩ := startupEnds_iff.1 hends
    refine hstarting.ends_append ?_
    rw [awaitRunning_eq]
    refine Dialogue.ends_bind_iff.2 ⟨[x], [], (took, response), rfl, hx, ?_⟩
    simp only [hverdict]
    exact .done _

/-- Nothing is killed while the cluster starts. -/
lemma Starting.not_asksToKill (hstarting : Starting rm request time c) :
    ∀ y ∈ c, ¬rm.AsksToKill id y := by
  induction hstarting with
  | begun => exact fun y hy => absurd hy List.not_mem_nil
  | waits _ hx _ _ _ ih =>
    intro y hy
    rcases List.mem_append.1 hy with hy | hy
    · exact ih y hy
    · simp only [List.mem_cons, List.not_mem_nil, or_false] at hy
      rcases hy with rfl | rfl
      · exact hx.not_asksToKill
      · exact not_asksToKill_pause

/-- Nothing is killed before the start-up is over. -/
lemma StartupEnds.not_asksToKill {outcome : Except DeployError String}
    (hends : StartupEnds rm request startup outcome) : ∀ y ∈ startup, ¬rm.AsksToKill id y := by
  obtain ⟨time, c, x, took, response, rfl, hstarting, hx, -⟩ := startupEnds_iff.1 hends
  intro y hy
  rcases List.mem_append.1 hy with hy | hy
  · exact hstarting.not_asksToKill y hy
  · obtain rfl := List.mem_singleton.1 hy
    exact hx.not_asksToKill

/-! ## The whole operation -/

/-- What is said when a cluster is asked for, and what comes of it. -/
inductive Created (rm : ResourceManager) (request : ClusterRequest) :
    Http.Conversation → Except DeployError ClusterHandle → Prop where
  | unsent : ¬rm.IsReachable →
    Created rm request [] (.error (transportFailure "submit application"))
  | refused {x : Exchange} {status : Nat} {body : Option Bytes} :
    rm.Answered request x (.failure status body) →
    Created rm request [x] (.error (statusFailure "submit application" status body))
  | unanswered {x kill : Exchange} :
    rm.Answered request x .none → rm.AsksToKill request.applicationId kill →
    Created rm request [x, kill] (.error (transportFailure "submit application"))
  | failed {x kill : Exchange} {body : Option Bytes} {startup : Http.Conversation}
      {e : DeployError} :
    rm.Answered request x (.success body) → StartupEnds rm request startup (.error e) →
    rm.AsksToKill request.applicationId kill →
    Created rm request (x :: startup ++ [kill]) (.error e)
  | up {x : Exchange} {body : Option Bytes} {startup : Http.Conversation} {url : String} :
    rm.Answered request x (.success body) → StartupEnds rm request startup (.ok url) →
    Created rm request (x :: startup) (.ok ⟨request.applicationId, Storage.withoutSlashes url⟩)

variable {r : Except DeployError ClusterHandle}

/-- An answer shows that requests are sent. -/
lemma Answered.isReachable (hx : rm.Answered request x response) : rm.IsReachable := by
  obtain ⟨took, hrun⟩ := Http.ends_send_iff.1 hx
  rcases Http.ends_sendTimed_iff.1 hrun with ⟨-, hnil, -⟩ | ⟨u, reply, hparse, -, -⟩
  · exact absurd hnil (List.cons_ne_nil _ _)
  · exact fun hnone => nomatch hnone.symm.trans hparse

/-- Behind a failure the cluster is killed, and then the failure is what comes of it. -/
lemma ends_kill_throw_iff (hreach : rm.IsReachable) {e : DeployError} :
    Ends (ExceptT.run (m := Http.Client) do
      let _ ← ExceptT.lift (rm.kill id).run
      throw (α := ClusterHandle) e) c r ↔
      ∃ kill, c = [kill] ∧ rm.AsksToKill id kill ∧ r = .error e := by
  rw [Dialogue.ends_run_lift_bind_iff]
  constructor
  · rintro ⟨c₁, c₂, a, rfl, hkill, hthrow⟩
    obtain ⟨rfl, rfl⟩ := Dialogue.ends_run_throw_iff.1 hthrow
    obtain ⟨kill, rfl, hasks⟩ := exists_eq_of_ends_kill hreach hkill
    exact ⟨kill, rfl, hasks, rfl⟩
  · rintro ⟨kill, rfl, hasks, rfl⟩
    obtain ⟨a, hkill⟩ := hasks.ends_kill
    exact ⟨[kill], [], a, rfl, hkill, .done _⟩

/-- Where nothing is sent, nothing is said. -/
lemma ends_send_iff_of_not_isReachable (hreach : ¬rm.IsReachable) (method : String) {part : String}
    (hpart : ∀ c ∈ part.toList, 0x20 < c.toNat) (content : Option Http.Content)
    {c : Http.Conversation} {response : Http.Response} :
    Ends (Http.send method (rm.clusterUrl part) [] content) c response ↔
      c = [] ∧ response = .none := by
  have hsome := isSome_parse_clusterUrl rm hpart blank_lt_of_mem_apps
  have hnone : Url.parse (rm.clusterUrl part) = none := by
    rw [← Option.not_isSome_iff_eq_none, hsome, Option.isSome_iff_ne_none]
    exact hreach
  rw [Http.ends_send_iff]
  constructor
  · rintro ⟨took, hrun⟩
    rcases Http.ends_sendTimed_iff.1 hrun with ⟨-, rfl, -, rfl⟩ | ⟨u, reply, hparse, -, -⟩
    · exact ⟨rfl, rfl⟩
    · exact nomatch hnone.symm.trans hparse
  · rintro ⟨rfl, rfl⟩
    exact ⟨0, Http.ends_sendTimed_iff.2 (.inl ⟨hnone, rfl, rfl, rfl⟩)⟩

/-- What is said and comes of the request for a cluster behind the answer. -/
lemma ends_createCluster_step_iff :
    Ends (rm.createCluster request).run c r ↔ ∃ c₁ c₂ response, c = c₁ ++ c₂ ∧
      Ends (Http.send "POST" (rm.clusterUrl "/apps") []
        (some (contentOf (rm.submission request)))) c₁ response ∧
      match response with
      | .failure status body =>
        c₂ = [] ∧ r = .error (statusFailure "submit application" status body)
      | .none => Ends (ExceptT.run (m := Http.Client) do
          let _ ← ExceptT.lift (rm.kill request.applicationId).run
          throw (α := ClusterHandle) (transportFailure "submit application")) c₂ r
      | .success _ => ∃ startup rest outcome, c₂ = startup ++ rest ∧
          Ends (rm.awaitRunning request request.startupTimeout) startup outcome ∧
          match outcome with
          | .ok url =>
            rest = [] ∧ r = .ok ⟨request.applicationId, Storage.withoutSlashes url⟩
          | .error e => Ends (ExceptT.run (m := Http.Client) do
              let _ ← ExceptT.lift (rm.kill request.applicationId).run
              throw (α := ClusterHandle) e) rest r := by
  unfold createCluster
  rw [Dialogue.ends_run_lift_bind_iff]
  refine exists_congr fun c₁ => exists_congr fun c₂ => exists_congr fun response => ?_
  refine and_congr_right fun _ => and_congr_right fun _ => ?_
  rcases response with _ | ⟨status, body⟩ | body
  · rfl
  · exact Dialogue.ends_run_throw_iff
  · rw [Dialogue.ends_run_lift_bind_iff]
    refine exists_congr fun startup => exists_congr fun rest => exists_congr fun outcome => ?_
    refine and_congr_right fun _ => and_congr_right fun _ => ?_
    rcases outcome with e | url
    · rfl
    · exact Dialogue.ends_run_pure_iff

/-- **The runs of the whole operation.** -/
lemma ends_createCluster_iff :
    Ends (rm.createCluster request).run c r ↔ Created rm request c r := by
  rw [ends_createCluster_step_iff]
  by_cases hreach : rm.IsReachable
  · constructor
    · rintro ⟨c₁, c₂, response, rfl, hsend, hrest⟩
      obtain ⟨took, htimed⟩ := Http.ends_send_iff.1 hsend
      obtain ⟨x, rfl⟩ : ∃ x, c₁ = [x] := by
        rcases Http.ends_sendTimed_iff.1 htimed with ⟨hnone, -⟩ | ⟨u, reply, -, -, rfl⟩
        · exact absurd hnone hreach
        · exact ⟨_, rfl⟩
      -- no answer, a refusal, or a start-up
      rcases response with _ | ⟨status, body⟩ | body
      · obtain ⟨kill, rfl, hkill, rfl⟩ := (ends_kill_throw_iff hreach).1 hrest
        exact .unanswered hsend hkill
      · obtain ⟨rfl, rfl⟩ := hrest
        exact .refused hsend
      · obtain ⟨startup, rest, outcome, rfl, hstartup, hrest⟩ := hrest
        have hends := (ends_awaitRunning_iff hreach).1 hstartup
        rcases outcome with e | url
        · obtain ⟨kill, rfl, hkill, rfl⟩ := (ends_kill_throw_iff hreach).1 hrest
          exact .failed hsend hends hkill
        · obtain ⟨rfl, rfl⟩ := hrest
          rw [List.append_nil]
          exact .up hsend hends
    · rintro (hno | hx | ⟨hx, hkill⟩ | ⟨hx, hends, hkill⟩ | ⟨hx, hends⟩)
      · exact absurd hreach hno
      · exact ⟨[_], [], _, rfl, hx, rfl, rfl⟩
      · exact ⟨[_], [_], _, rfl, hx, (ends_kill_throw_iff hreach).2 ⟨_, rfl, hkill, rfl⟩⟩
      · exact ⟨[_], _, _, rfl, hx, _, [_], _, rfl, (ends_awaitRunning_iff hreach).2 hends,
          (ends_kill_throw_iff hreach).2 ⟨_, rfl, hkill, rfl⟩⟩
      · exact ⟨[_], _, _, rfl, hx, _, [], _, (List.append_nil _).symm,
          (ends_awaitRunning_iff hreach).2 hends, rfl, rfl⟩
  · -- neither of the two requests is sent
    have hpost := ends_send_iff_of_not_isReachable hreach "POST" blank_lt_of_mem_apps
    have hput := ends_send_iff_of_not_isReachable hreach "PUT"
      (blank_lt_of_mem_state request.applicationId)
    constructor
    · rintro ⟨c₁, c₂, response, rfl, hsend, hrest⟩
      obtain ⟨rfl, rfl⟩ := (hpost _).1 hsend
      obtain ⟨c₃, c₄, a, rfl, hkill, hthrow⟩ := Dialogue.ends_run_lift_bind_iff.1 hrest
      obtain ⟨rfl, rfl⟩ := Dialogue.ends_run_throw_iff.1 hthrow
      obtain ⟨answer, hsend, -⟩ := ends_kill_iff.1 hkill
      obtain ⟨rfl, -⟩ := (hput _).1 hsend
      exact .unsent hreach
    · rintro (- | hx | ⟨hx, -⟩ | ⟨hx, -, -⟩ | ⟨hx, -⟩)
      · refine ⟨[], [], .none, rfl, (hpost _).2 ⟨rfl, rfl⟩, ?_⟩
        exact Dialogue.ends_run_lift_bind_iff.2
          ⟨[], [], _, rfl, ends_kill_iff.2 ⟨.none, (hput _).2 ⟨rfl, rfl⟩, rfl⟩, .done _⟩
      all_goals exact absurd hx.isReachable hreach

/-- What is guaranteed of the conversation in which a cluster is asked for, and of its result. -/
structure CleansUp (rm : ResourceManager) (request : ClusterRequest) (c : Http.Conversation)
    (r : Except DeployError ClusterHandle) : Prop where
  /-- The request for the cluster comes first. Only if the URL of the resource manager cannot be
  read, nothing at all is sent. -/
  asks : (∃ x rest response, c = x :: rest ∧ rm.Answered request x response) ∨
    ¬rm.IsReachable ∧ c = [] ∧ r = .error (transportFailure "submit application")
  /-- If it is refused, nothing more is sent. -/
  refused : ∀ x rest status body, c = x :: rest → rm.Answered request x (.failure status body) →
    rest = [] ∧ r = .error (statusFailure "submit application" status body)
  /-- If it is not answered, the application is killed, once, and nothing more is sent. -/
  unanswered : ∀ x rest, c = x :: rest → rm.Answered request x .none →
    (∃ kill, rest = [kill] ∧ rm.AsksToKill request.applicationId kill) ∧
      ¬rm.AsksToKill request.applicationId x ∧
      r = .error (transportFailure "submit application")
  /-- If it is accepted, then the start-up comes to an end. -/
  accepted : ∀ x rest body, c = x :: rest → rm.Answered request x (.success body) →
    ∃ startup tail outcome, rest = startup ++ tail ∧ StartupEnds rm request startup outcome
  /-- If the start-up fails, the application is killed, once and at the very end, and the failure is
  that of the start-up. -/
  failed : ∀ x body startup tail e, c = x :: (startup ++ tail) →
    rm.Answered request x (.success body) → StartupEnds rm request startup (.error e) →
    (∃ kill, tail = [kill] ∧ rm.AsksToKill request.applicationId kill) ∧
      (∀ y ∈ x :: startup, ¬rm.AsksToKill request.applicationId y) ∧ r = .error e
  /-- There is a cluster exactly if the request was accepted and the start-up ended with its URL. -/
  ok_iff : ∀ h, r = .ok h ↔ ∃ x body startup url, c = x :: startup ∧
    rm.Answered request x (.success body) ∧ StartupEnds rm request startup (.ok url) ∧
    h = ⟨request.applicationId, Storage.withoutSlashes url⟩
  /-- A cluster that is up is not killed. -/
  unharmed : ∀ h, r = .ok h → ∀ y ∈ c, ¬rm.AsksToKill request.applicationId y
  /-- Whatever the request to kill the application is answered, the result is the same. -/
  indifferent : ∀ before kill kill', c = before ++ [kill] →
    rm.AsksToKill request.applicationId kill → rm.AsksToKill request.applicationId kill' →
    Ends (rm.createCluster request).run (before ++ [kill']) r

/-- A request is answered once. -/
lemma Answered.unique {response' : Http.Response} (hx : rm.Answered request x response)
    (hx' : rm.Answered request x response') : response = response' :=
  (hx.append_inj hx' (x := []) (y := []) rfl).2.1

/-- A start-up does not go on where another one is over. -/
lemma StartupEnds.append_inj (hreach : rm.IsReachable) {startup' tail tail' : Http.Conversation}
    {outcome outcome' : Except DeployError String} (hends : StartupEnds rm request startup outcome)
    (hends' : StartupEnds rm request startup' outcome')
    (happend : startup ++ tail = startup' ++ tail') :
    startup = startup' ∧ outcome = outcome' ∧ tail = tail' :=
  ((ends_awaitRunning_iff hreach).2 hends).append_inj
    ((ends_awaitRunning_iff hreach).2 hends') happend

namespace Created

variable {rest : Http.Conversation} {status : Nat} {body : Option Bytes}

/-- If the request for a cluster is refused, nothing more is said. -/
lemma eq_of_refused (hcreated : Created rm request (x :: rest) r)
    (hx : rm.Answered request x (.failure status body)) :
    rest = [] ∧ r = .error (statusFailure "submit application" status body) := by
  cases hcreated with
  | refused hx' =>
    obtain ⟨rfl, rfl⟩ := Http.Response.failure.inj (hx.unique hx')
    exact ⟨rfl, rfl⟩
  | unanswered hx' => exact nomatch hx.unique hx'
  | failed hx' => exact nomatch hx.unique hx'
  | up hx' => exact nomatch hx.unique hx'

/-- If the request for a cluster is not answered, the application is killed. -/
lemma eq_of_unanswered (hcreated : Created rm request (x :: rest) r)
    (hx : rm.Answered request x .none) :
    (∃ kill, rest = [kill] ∧ rm.AsksToKill request.applicationId kill) ∧
      r = .error (transportFailure "submit application") := by
  cases hcreated with
  | refused hx' => exact nomatch hx.unique hx'
  | unanswered hx' hkill => exact ⟨⟨_, rfl, hkill⟩, rfl⟩
  | failed hx' => exact nomatch hx.unique hx'
  | up hx' => exact nomatch hx.unique hx'

/-- If the request for a cluster is accepted, the start-up follows. -/
lemma exists_startupEnds (hcreated : Created rm request (x :: rest) r)
    (hx : rm.Answered request x (.success body)) :
    ∃ startup tail outcome, rest = startup ++ tail ∧ StartupEnds rm request startup outcome := by
  cases hcreated with
  | refused hx' => exact nomatch hx.unique hx'
  | unanswered hx' => exact nomatch hx.unique hx'
  | failed _ hends => exact ⟨_, _, _, rfl, hends⟩
  | up _ hends => exact ⟨_, [], _, (List.append_nil _).symm, hends⟩

/-- What comes of an accepted request is decided by the start-up. -/
lemma eq_of_startupEnds {tail : Http.Conversation} {outcome : Except DeployError String}
    (hcreated : Created rm request (x :: (startup ++ tail)) r)
    (hx : rm.Answered request x (.success body))
    (hends : StartupEnds rm request startup outcome) :
    match outcome with
    | .error e => (∃ kill, tail = [kill] ∧ rm.AsksToKill request.applicationId kill) ∧ r = .error e
    | .ok url => tail = [] ∧ r = .ok ⟨request.applicationId, Storage.withoutSlashes url⟩ := by
  generalize hc : x :: (startup ++ tail) = c at hcreated
  cases hcreated with
  | unsent => exact nomatch hc
  | refused hx' =>
    obtain ⟨rfl, -⟩ := List.cons.inj hc
    exact nomatch hx.unique hx'
  | unanswered hx' =>
    obtain ⟨rfl, -⟩ := List.cons.inj hc
    exact nomatch hx.unique hx'
  | failed hx' hends' hkill =>
    obtain ⟨rfl, happend⟩ := List.cons.inj hc
    obtain ⟨rfl, rfl, rfl⟩ := hends.append_inj hx.isReachable hends' happend
    exact ⟨⟨_, rfl, hkill⟩, rfl⟩
  | up hx' hends' =>
    obtain ⟨rfl, happend⟩ := List.cons.inj hc
    obtain ⟨rfl, rfl, rfl⟩ :=
      hends.append_inj hx.isReachable hends' (happend.trans (List.append_nil _).symm)
    exact ⟨rfl, rfl⟩

/-- The answer to the request to kill the application does not matter. -/
lemma replace_kill {before : Http.Conversation} {kill' : Exchange}
    (hcreated : Created rm request (before ++ [kill]) r)
    (hkill : rm.AsksToKill request.applicationId kill)
    (hkill' : rm.AsksToKill request.applicationId kill') :
    Created rm request (before ++ [kill']) r := by
  generalize hc : before ++ [kill] = c at hcreated
  cases hcreated with
  | unsent => exact absurd hc (List.append_ne_nil_of_right_ne_nil _ (List.cons_ne_nil _ _))
  | @refused x _ _ hx =>
    have hmem : kill ∈ [x] := hc ▸ List.mem_append_right _ (List.mem_singleton_self kill)
    obtain rfl := List.mem_singleton.1 hmem
    exact absurd hkill hx.not_asksToKill
  | @unanswered x kill₁ hx _ =>
    have hsplit : before ++ [kill] = [x] ++ [kill₁] := hc
    obtain ⟨rfl, -⟩ := List.append_inj' hsplit rfl
    exact .unanswered hx hkill'
  | failed hx hends _ =>
    obtain ⟨rfl, -⟩ := List.append_inj' hc rfl
    exact .failed hx hends hkill'
  | @up x _ startup _ hx hends =>
    have hmem : kill ∈ x :: startup := hc ▸ List.mem_append_right _ (List.mem_singleton_self kill)
    rcases List.mem_cons.1 hmem with rfl | hmem
    · exact absurd hkill hx.not_asksToKill
    · exact absurd hkill (hends.not_asksToKill kill hmem)

end Created

/-- **Clusters that do not come up are cleaned up.** Whoever answers the requests, in whatever way,
the conversation comes to an end with one result, and each of these holds.

* If the request for the cluster is refused, nothing more is sent.
* If it is not answered, or if it is accepted and the start-up fails, then exactly one request to
  kill the application is sent, at the very end; the result is the failure, whatever comes of this.
* There is a cluster exactly if the request was accepted and, after reports that could be read and
  said neither that the application was up nor that it was over, and before it was noticed that the
  time was up, there was a report that it is running, with a URL that is not empty. Then nothing is
  killed, and the cluster is at this URL without the slashes at its end.

**Proof sketch.** The start-up is by recursion on the time that is left, and its runs are described
by an induction on it: a report that does not end the start-up is one more in front of the rest.
The runs of the whole operation are then one case for each answer to the request for the cluster.
That the start-up asks to kill nothing can be seen from the methods of its requests. -/
theorem createCluster_cleansUp (rm : ResourceManager) (request : ClusterRequest) :
    (∀ rule, ∃! run : Http.Conversation × Except DeployError ClusterHandle,
      Ends (rm.createCluster request).run run.1 run.2 ∧ Obeys rule run.1) ∧
    ∀ (c : Http.Conversation) (r : Except DeployError ClusterHandle),
      Ends (rm.createCluster request).run c r → CleansUp rm request c r := by
  refine ⟨fun rule => Dialogue.existsUnique_ends _ rule, fun c r hrun => ?_⟩
  have hcreated := ends_createCluster_iff.1 hrun
  exact {
    asks := by
      cases hcreated with
      | unsent hreach => exact .inr ⟨hreach, rfl, rfl⟩
      | refused hx => exact .inl ⟨_, _, _, rfl, hx⟩
      | unanswered hx => exact .inl ⟨_, _, _, rfl, hx⟩
      | failed hx => exact .inl ⟨_, _, _, rfl, hx⟩
      | up hx => exact .inl ⟨_, _, _, rfl, hx⟩
    refused := by
      rintro x rest status body rfl hx
      exact hcreated.eq_of_refused hx
    unanswered := by
      rintro x rest rfl hx
      obtain ⟨hkill, hr⟩ := hcreated.eq_of_unanswered hx
      exact ⟨hkill, hx.not_asksToKill, hr⟩
    accepted := by
      rintro x rest body rfl hx
      exact hcreated.exists_startupEnds hx
    failed := by
      rintro x body startup tail e rfl hx hends
      obtain ⟨hkill, hr⟩ := hcreated.eq_of_startupEnds hx hends
      exact ⟨hkill, List.forall_mem_cons.2 ⟨hx.not_asksToKill, hends.not_asksToKill⟩, hr⟩
    ok_iff := by
      intro h
      constructor
      · rintro rfl
        cases hcreated with
        | up hx hends => exact ⟨_, _, _, _, rfl, hx, hends, rfl⟩
      · rintro ⟨x, body, startup, url, rfl, hx, hends, rfl⟩
        rw [← List.append_nil startup] at hcreated
        exact (hcreated.eq_of_startupEnds hx hends).2
    unharmed := by
      rintro h rfl
      cases hcreated with
      | up hx hends => exact List.forall_mem_cons.2 ⟨hx.not_asksToKill, hends.not_asksToKill⟩
    indifferent := by
      rintro before kill kill' rfl hkill hkill'
      exact ends_createCluster_iff.2 (hcreated.replace_kill hkill hkill') }

/-! ## A cluster that stalls -/

namespace Stalled

/-- The resource manager. -/
def manager : ResourceManager := .ofUrl "http://rm" ""

/-- The request for the cluster, which may take a second to come up. -/
def cluster : ClusterRequest :=
  ⟨⟨1, 1⟩, "wordcount", default, "/staging", [], [], [], 1000⟩

/-- A request to the resource manager, and what came back for it. -/
def exchange (method part : String) (content : Option Http.Content) (reply : Http.Reply) :
    Exchange :=
  ⟨.exchange ⟨⟨.name "rm", 80⟩, method, "/ws/v1/cluster" ++ part, content⟩, (1, reply)⟩

/-- The request for the cluster is accepted. -/
def accepted : Exchange :=
  exchange "POST" "/apps" (some (contentOf (manager.submission cluster)))
    (.answered 202 (some []))

/-- The report that comes first: the cluster is not up yet. -/
def waiting : Exchange :=
  exchange "GET" "/apps/application_1_0001" none
    (.answered 200 (some (Utf8.encode "\x7b\"app\":\x7b\"state\":\"ACCEPTED\"\x7d\x7d")))

/-- Then there is no report. -/
def unreported : Exchange :=
  exchange "GET" "/apps/application_1_0001" none (.answered 503 (some []))

/-- The request to kill the application is refused. -/
def killed : Exchange :=
  exchange "PUT" "/apps/application_1_0001/state"
    (some (contentOf (object [("state", .string "KILLED")]))) (.answered 500 none)

/-- What is said about the cluster. -/
def said : Http.Conversation :=
  [accepted, waiting, manager.pause, unreported, killed]

/-- What comes of it. -/
def error : DeployError :=
  statusFailure "application report" 503 (some [])

/-- The text of the application id. -/
private lemma display_cluster : cluster.applicationId.display = "application_1_0001" := by
  decide +kernel

/-- All this is said when the cluster is asked for, and the creation fails. -/
private lemma created : Created manager cluster said (.error error) := by
  have haccepted : manager.Answered cluster accepted (.success (some [])) :=
    Http.ends_send_of_target (by decide +kernel)
  have hwaiting : manager.Inquired cluster.applicationId waiting 1
      (.success (some (Utf8.encode "\x7b\"app\":\x7b\"state\":\"ACCEPTED\"\x7d\x7d"))) := by
    rw [Inquired, display_cluster]
    exact Http.ends_sendTimed_of_target (by decide +kernel)
  have hunreported : manager.Inquired cluster.applicationId unreported 1
      (.failure 503 (some [])) := by
    rw [Inquired, display_cluster]
    exact Http.ends_sendTimed_of_target (by decide +kernel)
  have hkilled : manager.AsksToKill cluster.applicationId killed := by
    rw [AsksToKill, display_cluster]
    exact ⟨_, Http.ends_send_of_target (by decide +kernel)⟩
  have hbody : Http.readBody reportReader
      (Utf8.encode "\x7b\"app\":\x7b\"state\":\"ACCEPTED\"\x7d\x7d") =
        some ⟨"ACCEPTED", none, none⟩ := by decide +kernel
  have hread : readResponse reportReader "application report" (.success (some
      (Utf8.encode "\x7b\"app\":\x7b\"state\":\"ACCEPTED\"\x7d\x7d"))) =
        .ok ⟨"ACCEPTED", none, none⟩ := by
    rw [readResponse, hbody]
  have hstarting : Starting manager cluster 501 [waiting, manager.pause] :=
    .waits .begun hwaiting hread (by decide) (by decide)
  exact .failed haccepted (.unreadable hstarting hunreported rfl) hkilled

end Stalled

/-- A cluster that is not up at first and not reported on then is killed. That the request to kill
it is refused does not change what comes of it. -/
theorem createCluster_cleansUp_of_stalled :
    Ends (Stalled.manager.createCluster Stalled.cluster).run Stalled.said (.error Stalled.error) ∧
      CleansUp Stalled.manager Stalled.cluster Stalled.said (.error Stalled.error) := by
  have hrun := ends_createCluster_iff.2 Stalled.created
  exact ⟨hrun, (createCluster_cleansUp _ _).2 _ _ hrun⟩

end ResourceManager

end ClusterDeploy
