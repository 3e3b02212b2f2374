import ClusterDeploy.Platform.ResourceManager
import ClusterDeploy.Proofs.Dialogue.Runs

set_option relaxedAutoImplicit false
set_option autoImplicit false

/-!
# Conversations with the resource manager

What the operations of the resource manager say to it, and what their results tell about its
answers.

## Main definitions

* `ResourceManager.Submitted` — the request for a cluster was answered with success.
* `ResourceManager.KillAccepted` — a request to kill an application was answered with success.
* `ResourceManager.ReportedFinal` — an application was reported to be over.
* `ResourceManager.IsSubmission` — an exchange that may be a request for a cluster.

## Main results

* `ResourceManager.kill_of_ends_forceKill`, `ResourceManager.final_of_ends_queryStatus` — a cluster
  that was killed, or seen finished, was so by an answer of the resource manager.
* `ResourceManager.not_isSubmission_of_ends` — only the creation of a cluster asks for one.
-/

namespace ClusterDeploy

namespace Http

open Dialogue (Ends)

/-- What was said to a server, in order. -/
abbrev Conversation := List (Dialogue.Exchange Question Answer)

/-- Every question of a client can be answered. -/
instance (q : Question) : Nonempty (Answer q) :=
  match q with
  | .exchange _ => ⟨(0, .dropped)⟩
  | .pause _ => ⟨()⟩

variable {method url : String} {parameters : List (String × String)} {content : Option Content}
  {c : Conversation}

/-- A request is one exchange, unless its URL cannot be read. -/
lemma ends_sendTimed_iff {took : Millis} {response : Response} :
    Ends (sendTimed method url parameters content) c (took, response) ↔
      (Url.parse url = none ∧ c = [] ∧ took = 0 ∧ response = .none) ∨
        ∃ u reply, Url.parse url = some u ∧ response = .ofReply reply ∧
          c = [⟨.exchange ⟨u.server, method, (u.withParameters parameters).target, content⟩,
            (took, reply)⟩] := by
  unfold sendTimed
  rcases hurl : Url.parse url with _ | u
  · simp
  · simp only [reduceCtorEq, false_and, Option.some.injEq, false_or]
    rw [Dialogue.ends_question_bind_iff]
    constructor
    · rintro ⟨⟨time, reply⟩, rest, rfl, hrest⟩
      obtain ⟨rfl, hpair⟩ := Dialogue.ends_pure_iff.1 hrest
      obtain ⟨rfl, rfl⟩ := Prod.mk.inj hpair
      exact ⟨u, reply, rfl, rfl, rfl⟩
    · rintro ⟨u, reply, rfl, rfl, rfl⟩
      exact ⟨(took, reply), [], rfl, .done _⟩

/-- Sending a request is sending it with a stop watch at which nobody looks. -/
lemma ends_send_iff {response : Response} :
    Ends (send method url parameters content) c response ↔
      ∃ took, Ends (sendTimed method url parameters content) c (took, response) := by
  unfold send
  rw [Dialogue.ends_bind_pure_iff]
  constructor
  · rintro ⟨⟨took, _⟩, hrun, rfl⟩
    exact ⟨took, hrun⟩
  · rintro ⟨took, hrun⟩
    exact ⟨(took, response), hrun, rfl⟩

/-- A request to a URL that can be read is answered by what comes back for it. -/
lemma ends_sendTimed_of_target {server : Server} {target : String} {took : Millis} {reply : Reply}
    (htarget : (Url.parse url).map (fun u => (u.server, (u.withParameters parameters).target)) =
      some (server, target)) :
    Ends (sendTimed method url parameters content)
      [⟨.exchange ⟨server, method, target, content⟩, (took, reply)⟩] (took, .ofReply reply) := by
  obtain ⟨u, hparse, hu⟩ := Option.map_eq_some_iff.1 htarget
  obtain ⟨rfl, rfl⟩ := Prod.mk.inj hu
  exact ends_sendTimed_iff.2 (.inr ⟨u, reply, hparse, rfl, rfl⟩)

/-- A request that reaches a server is one exchange with it. -/
lemma ends_send_of_target {server : Server} {target : String} {took : Millis} {reply : Reply}
    (htarget : (Url.parse url).map (fun u => (u.server, (u.withParameters parameters).target)) =
      some (server, target)) :
    Ends (send method url parameters content)
      [⟨.exchange ⟨server, method, target, content⟩, (took, reply)⟩] (.ofReply reply) :=
  ends_send_iff.2 ⟨took, ends_sendTimed_of_target htarget⟩

/-- Whatever comes back for a request, there is a conversation in which it does, if the URL can be
read. -/
lemma exists_ends_send {url : String} (hurl : (Url.parse url).isSome = true)
    (method : String) (parameters : List (String × String)) (content : Option Content)
    (reply : Reply) : ∃ c, Ends (send method url parameters content) c (.ofReply reply) := by
  obtain ⟨u, hu⟩ := Option.isSome_iff_exists.1 hurl
  exact ⟨_, ends_send_iff.2 ⟨0, ends_sendTimed_iff.2 (.inr ⟨u, reply, hu, rfl, rfl⟩)⟩⟩

/-- What a request was answered with was said in one exchange. -/
lemma exists_eq_singleton_of_ends_send {response : Response} (hne : response ≠ .none)
    (hrun : Ends (send method url parameters content) c response) : ∃ x, c = [x] := by
  obtain ⟨took, hrun⟩ := ends_send_iff.1 hrun
  rcases ends_sendTimed_iff.1 hrun with ⟨-, -, -, hnone⟩ | ⟨u, reply, -, -, rfl⟩
  · exact absurd hnone hne
  · exact ⟨_, rfl⟩

/-- A request to a URL that can be read is one exchange. -/
lemma exists_eq_exchange_of_ends_send {u : Url} {response : Response} (hu : Url.parse url = some u)
    (hrun : Ends (send method url parameters content) c response) :
    ∃ took reply, c = [⟨.exchange ⟨u.server, method, (u.withParameters parameters).target, content⟩,
      (took, reply)⟩] := by
  obtain ⟨took, hrun⟩ := ends_send_iff.1 hrun
  rcases ends_sendTimed_iff.1 hrun with ⟨hnone, -⟩ | ⟨v, reply, hv, -, rfl⟩
  · exact nomatch hnone.symm.trans hu
  · obtain rfl := Option.some.inj (hv.symm.trans hu)
    exact ⟨took, reply, rfl⟩

/-- The answer to a request is what came back for it. -/
lemma eq_ofReply_of_ends_send {request : Request} {took : Millis} {reply : Reply}
    {response : Response}
    (hrun : Ends (send method url parameters content) [⟨.exchange request, (took, reply)⟩]
      response) : response = .ofReply reply := by
  obtain ⟨took', hrun⟩ := ends_send_iff.1 hrun
  rcases ends_sendTimed_iff.1 hrun with ⟨-, hnil, -⟩ | ⟨u, reply', -, rfl, hsingle⟩
  · exact absurd hnil (List.cons_ne_nil _ _)
  · obtain ⟨hexchange, -⟩ := List.cons.inj hsingle
    cases hexchange
    rfl

end Http

namespace ResourceManager

open Dialogue (Ends)

/-- A request to a resource manager and its answer. -/
abbrev Exchange := Dialogue.Exchange Http.Question Http.Answer

variable {rm : ResourceManager} {α β : Type} {c : Http.Conversation} {id : ApplicationId}

/-! ## Answers -/

/-- The request for a cluster was answered with success. -/
def Submitted (rm : ResourceManager) (request : ClusterRequest) (x : Exchange) : Prop :=
  ∃ body, Ends (Http.send "POST" (rm.clusterUrl "/apps") []
    (some (contentOf (rm.submission request)))) [x] (.success body)

/-- A request to kill an application was answered with success. -/
def KillAccepted (rm : ResourceManager) (id : ApplicationId) (x : Exchange) : Prop :=
  ∃ body, Ends (Http.send "PUT" (rm.clusterUrl s!"/apps/{id.display}/state") []
    (some (contentOf (object [("state", .string "KILLED")])))) [x] (.success body)

/-- An application was reported to be over, in a report or when its state was asked for. -/
def ReportedFinal (rm : ResourceManager) (id : ApplicationId) (x : Exchange) : Prop :=
  (∃ response report,
      Ends (Http.send "GET" (rm.clusterUrl s!"/apps/{id.display}") [] none) [x] response ∧
      readResponse reportReader "application report" response = .ok report ∧
      isFinal report.state = true) ∨
    ∃ response state,
      Ends (Http.send "GET" (rm.clusterUrl s!"/apps/{id.display}/state") [] none) [x] response ∧
      readResponse (Json.only "state" Json.text) "application state" response = .ok state ∧
      isFinal state = true

variable {request : Http.Request} {took : Millis} {reply : Http.Reply}

/-- What is refused is not killed. -/
lemma not_killAccepted_of_refused (hrefused : ∀ body, Http.Response.ofReply reply ≠ .success body) :
    ¬rm.KillAccepted id ⟨.exchange request, (took, reply)⟩ := by
  rintro ⟨body, hsend⟩
  exact hrefused body (Http.eq_ofReply_of_ends_send hsend).symm

/-- What is refused is not reported. -/
lemma not_reportedFinal_of_refused
    (hrefused : ∀ body, Http.Response.ofReply reply ≠ .success body) :
    ¬rm.ReportedFinal id ⟨.exchange request, (took, reply)⟩ := by
  have hread : ∀ {α : Type} (read : Json.Reader α) (operation : String) (a : α),
      readResponse read operation (.ofReply reply) ≠ .ok a := by
    intro α read operation a
    rcases hresponse : Http.Response.ofReply reply with _ | ⟨status, body⟩ | body
    · exact nofun
    · exact nofun
    · exact absurd hresponse (hrefused body)
  rintro (⟨response, report, hsend, hreport, -⟩ | ⟨response, state, hsend, hstate, -⟩)
  · rw [Http.eq_ofReply_of_ends_send hsend] at hreport
    exact hread _ _ _ hreport
  · rw [Http.eq_ofReply_of_ends_send hsend] at hstate
    exact hread _ _ _ hstate

/-- An exchange that may be a request for a cluster: a document is posted. -/
def IsSubmission (x : Exchange) : Prop :=
  ∃ server target bytes,
    x.question = .exchange ⟨server, "POST", target, some ⟨"application/json", bytes⟩⟩

/-- A request that was submitted is a submission. -/
lemma Submitted.isSubmission {request : ClusterRequest} {x : Exchange}
    (hx : rm.Submitted request x) : IsSubmission x := by
  obtain ⟨body, hrun⟩ := hx
  obtain ⟨took, hrun⟩ := Http.ends_send_iff.1 hrun
  rcases Http.ends_sendTimed_iff.1 hrun with ⟨-, hnone, -⟩ | ⟨u, reply, -, -, heq⟩
  · exact absurd hnone (List.cons_ne_nil x [])
  · obtain ⟨rfl, -⟩ := List.cons.inj heq
    exact ⟨_, _, _, rfl⟩

/-! ## Operations -/

/-- A value that is read from the answer to a request. -/
lemma ends_read_iff {read : Json.Reader α} {operation method url : String}
    {parameters : List (String × String)} {content : Option Http.Content}
    {r : Except DeployError α} :
    Ends (ExceptT.run (m := Http.Client) (ExceptT.mk do
        return readResponse read operation (← Http.send method url parameters content))) c r ↔
      ∃ response, Ends (Http.send method url parameters content) c response ∧
        r = readResponse read operation response :=
  Dialogue.ends_bind_pure_iff

/-- What comes of an attempt to kill an application, by the answer. -/
def killResult : Http.Response → Except DeployError Unit
  | .success _ => .ok ()
  | .failure status body => .error (statusFailure "kill application" status body)
  | .none => .error (transportFailure "kill application")

/-- An attempt to kill an application is one request. -/
lemma ends_kill_iff {r : Except DeployError Unit} :
    Ends (rm.kill id).run c r ↔
      ∃ response, Ends (Http.send "PUT" (rm.clusterUrl s!"/apps/{id.display}/state") []
          (some (contentOf (object [("state", .string "KILLED")])))) c response ∧
        r = killResult response := by
  have hkill : (rm.kill id).run = Http.send "PUT" (rm.clusterUrl s!"/apps/{id.display}/state") []
      (some (contentOf (object [("state", .string "KILLED")]))) >>= fun response =>
        pure (killResult response) := by
    unfold kill
    rw [ExceptT.run_bind, ExceptT.run_lift]
    simp only [map_eq_pure_bind, bind_assoc, pure_bind]
    congr 1
    funext response
    cases response <;> rfl
  rw [hkill, Dialogue.ends_bind_pure_iff]

/-- **A cluster that was killed** was so by an answer of the resource manager. -/
lemma kill_of_ends_forceKill {h : ClusterHandle} (hrun : Ends (rm.forceKill h).run c (.ok ())) :
    ∃ x ∈ c, rm.KillAccepted h.applicationId x := by
  obtain ⟨r, hkill, hr⟩ := Dialogue.ends_bind_pure_iff.1 hrun
  obtain ⟨response, hsend, rfl⟩ := ends_kill_iff.1 hkill
  rcases response with _ | ⟨status, body⟩ | body
  · exact nomatch hr
  · exact nomatch hr
  · obtain ⟨x, rfl⟩ := Http.exists_eq_singleton_of_ends_send (by simp) hsend
    exact ⟨x, List.mem_singleton_self x, body, hsend⟩

/-- The question for the status of a cluster is one request. -/
lemma ends_queryStatus_iff {h : ClusterHandle} {r : Except DeployError ApplicationStatus} :
    Ends (rm.queryStatus h).run c r ↔
      ∃ response, Ends (Http.send "GET"
          (rm.clusterUrl s!"/apps/{h.applicationId.display}/state") [] none) c response ∧
        r = (readResponse (Json.only "state" Json.text) "application state" response).map
          fun state => if isFinal state then .finished else .running := by
  have hquery : (rm.queryStatus h).run =
      Http.send "GET" (rm.clusterUrl s!"/apps/{h.applicationId.display}/state") [] none >>=
        fun response => pure
          ((readResponse (Json.only "state" Json.text) "application state" response).map
            fun state => if isFinal state then .finished else .running) := by
    unfold queryStatus
    rw [ExceptT.run_bind, ExceptT.run_mk]
    simp only [bind_assoc, pure_bind]
    congr 1
    funext response
    cases readResponse (Json.only "state" Json.text) "application state" response <;> rfl
  rw [hquery, Dialogue.ends_bind_pure_iff]

/-- **A cluster that was seen finished** was reported to be over. -/
lemma final_of_ends_queryStatus {h : ClusterHandle}
    (hrun : Ends (rm.queryStatus h).run c (.ok .finished)) :
    ∃ x ∈ c, rm.ReportedFinal h.applicationId x := by
  obtain ⟨response, hsend, hr⟩ := ends_queryStatus_iff.1 hrun
  rcases hread : readResponse (Json.only "state" Json.text) "application state" response with
    e | state
  · rw [hread] at hr
    exact nomatch hr
  · have hfinal : isFinal state = true := by
      rw [hread] at hr
      by_cases hfinal : isFinal state = true
      · exact hfinal
      · simp [Except.map, hfinal] at hr
    have hne : response ≠ .none := by
      rintro rfl
      exact nomatch hread
    obtain ⟨x, rfl⟩ := Http.exists_eq_singleton_of_ends_send hne hsend
    exact ⟨x, List.mem_singleton_self x, .inr ⟨response, state, hsend, hread, hfinal⟩⟩

/-- The handle of a new cluster names the application that was asked for. -/
lemma applicationId_of_ends_createCluster {request : ClusterRequest} {h : ClusterHandle}
    (hrun : Ends (rm.createCluster request).run c (.ok h)) :
    h.applicationId = request.applicationId := by
  unfold createCluster at hrun
  obtain ⟨c₁, c₂, response, -, -, hrest⟩ := Dialogue.ends_run_lift_bind_iff.1 hrun
  rcases response with _ | ⟨status, body⟩ | body
  · obtain ⟨c₃, c₄, r, -, -, hthrow⟩ := Dialogue.ends_run_lift_bind_iff.1 hrest
    exact nomatch (Dialogue.ends_run_throw_iff.1 hthrow).2
  · exact nomatch (Dialogue.ends_run_throw_iff.1 hrest).2
  · obtain ⟨c₃, c₄, r, -, -, hfinish⟩ := Dialogue.ends_run_lift_bind_iff.1 hrest
    cases r with
    | error e =>
      obtain ⟨c₅, c₆, r, -, -, hthrow⟩ := Dialogue.ends_run_lift_bind_iff.1 hfinish
      exact nomatch (Dialogue.ends_run_throw_iff.1 hthrow).2
    | ok url =>
      obtain ⟨-, hok⟩ := Dialogue.ends_run_pure_iff.1 hfinish
      rw [Except.ok.inj hok]

/-! ## Who asks for clusters -/

/-- A request with another method, or without a document, does not ask for a cluster. -/
lemma not_isSubmission_of_ends_send {method url : String} {parameters : List (String × String)}
    {content : Option Http.Content} {response : Http.Response}
    (hother : method ≠ "POST" ∨ ∀ bytes, content ≠ some ⟨"application/json", bytes⟩)
    (hrun : Ends (Http.send method url parameters content) c response) :
    ∀ x ∈ c, ¬IsSubmission x := by
  obtain ⟨took, hrun⟩ := Http.ends_send_iff.1 hrun
  rcases Http.ends_sendTimed_iff.1 hrun with ⟨-, rfl, -⟩ | ⟨u, reply, -, -, rfl⟩
  · exact fun _ hx => absurd hx List.not_mem_nil
  · rintro x hx ⟨server, target, bytes, hquestion⟩
    rw [List.mem_singleton.1 hx] at hquestion
    obtain ⟨-, hmethod, -, hcontent⟩ := Http.Request.mk.inj (Http.Question.exchange.inj hquestion)
    rcases hother with hne | hne
    · exact hne hmethod
    · exact hne bytes hcontent

/-- A program that fails where its first part fails, and otherwise says nothing more, asks for no
cluster if its first part asks for none. -/
private lemma not_isSubmission_of_bind {p : Program α} {f : α → Program β}
    {r : Except DeployError β} (hrun : Ends (p >>= f).run c r)
    (hp : ∀ {c a}, Ends p.run c a → ∀ x ∈ c, ¬IsSubmission x)
    (hf : ∀ a {c r}, Ends (f a).run c r → c = []) : ∀ x ∈ c, ¬IsSubmission x := by
  obtain ⟨c₁, c₂, a, rfl, hfirst, hrest⟩ := Dialogue.ends_run_bind_iff.1 hrun
  have hnil : c₂ = [] := by
    cases a with
    | error e => exact (Dialogue.ends_pure_iff.1 hrest).1
    | ok a => exact hf a hrest
  rw [hnil, List.append_nil]
  exact hp hfirst

/-- **Only the creation of a cluster asks for one.** -/
lemma not_isSubmission_of_ends {call : Platform.Call} {r : Except DeployError call.Value}
    (hcall : ∀ request, call ≠ .createCluster request) (hrun : Ends (rm.answer call).run c r) :
    ∀ x ∈ c, ¬IsSubmission x := by
  cases call with
  | newApplication =>
    refine not_isSubmission_of_bind hrun (fun hread => ?_) fun text {c r} hrest => ?_
    · obtain ⟨response, hsend, -⟩ := ends_read_iff.1 hread
      exact not_isSubmission_of_ends_send (.inr (by simp)) hsend
    · rcases hparse : ApplicationId.parse text with _ | id
      · rw [hparse] at hrest
        exact (Dialogue.ends_run_throw_iff.1 hrest).1
      · rw [hparse] at hrest
        exact (Dialogue.ends_run_pure_iff.1 hrest).1
  | createCluster request => exact absurd rfl (hcall request)
  | submitJob h job =>
    refine not_isSubmission_of_bind hrun (fun hread => ?_) fun text {c r} hrest => ?_
    · obtain ⟨response, hsend, -⟩ := ends_read_iff.1 hread
      exact not_isSubmission_of_ends_send (.inr (by simp)) hsend
    · exact (Dialogue.ends_run_pure_iff.1 hrest).1
  | queryStatus h =>
    obtain ⟨response, hsend, -⟩ := ends_queryStatus_iff.1 hrun
    exact not_isSubmission_of_ends_send (.inl (by decide)) hsend
  | forceKill h =>
    obtain ⟨r, hkill, -⟩ := Dialogue.ends_bind_pure_iff.1 hrun
    obtain ⟨response, hsend, -⟩ := ends_kill_iff.1 hkill
    exact not_isSubmission_of_ends_send (.inl (by decide)) hsend

/-- A part of an operation that is no creation of a cluster asks for none either. -/
lemma not_isSubmission_of_reaches {call : Platform.Call}
    {left : Http.Client (Except DeployError call.Value)}
    (hcall : ∀ request, call ≠ .createCluster request)
    (hrun : Dialogue.Reaches (rm.answer call).run c left) : ∀ x ∈ c, ¬IsSubmission x := by
  obtain ⟨rest, r, -, hends⟩ := Dialogue.exists_ends_of_reaches hrun
  exact fun x hx => not_isSubmission_of_ends hcall hends x (List.mem_append_left rest hx)

end ResourceManager

end ClusterDeploy
