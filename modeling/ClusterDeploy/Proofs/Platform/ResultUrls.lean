import ClusterDeploy.Proofs.Http.Requests
import ClusterDeploy.Proofs.Platform.Looks
import Mathlib.Data.Bool.AllAny

set_option relaxedAutoImplicit false
set_option autoImplicit false

/-!
# Where the result of a job is looked for

A job is submitted with its id as a parameter, and its result is then looked for at a URL in which
the id stands as it is. The server reads the same id in both exactly if the id is the literal name
of a segment. With any other id the result of another job may be what is found, or nothing at all.

## Main definitions

* `Url.IsName` — texts that are literal as a segment of a path.
* `JobResult.IsResultRequest` — requests for the result of a job.

## Main results

* `JobResult.requests_of_ends_poll` — all looks are the same request.
* `JobResult.isResultRequest_iff` — when this is the request for the result of the job.
* `ResourceManager.submitJob_polls_iff` — what is polled after a job was submitted.
-/

namespace ClusterDeploy

open Dialogue (Ends)
open Text (splitAt unescape)
open Url (IsBase IsLiteral IsPlain)
open Utf8 (bytesOf)

/-! ## Names of segments -/

namespace Url

variable {id : List Char}

/-- Holds if a text is literal as a segment of a path. -/
structure IsName (name : List Char) : Prop where
  noMark : ∀ c ∈ name, c ∉ ['/', '?', '#', '\\', '\t', '\n', '\r']
  plain : IsPlain name

/-- The id of a job that stands for itself has no slash in it. -/
lemma IsName.noSlash (h : IsName id) : '/' ∉ id :=
  fun hmem => h.noMark _ hmem List.mem_cons_self

/-- The path of the result of a job, behind its first slash. -/
def belowJobs (id : List Char) : List Char :=
  "jobs".toList ++ '/' :: (id ++ '/' :: "execution-result".toList)

/-- The parts of the path of a result: the jobs, the id cut at its slashes, and the result. -/
lemma splitAt_belowJobs (id : List Char) :
    splitAt '/' (belowJobs id) =
      "jobs".toList :: (splitAt '/' id ++ ["execution-result".toList]) := by
  have hjobs : splitAt '/' "jobs".toList = ["jobs".toList] := by decide
  have hresult : splitAt '/' "execution-result".toList = ["execution-result".toList] := by decide
  rw [belowJobs, Text.splitAt_append, Text.splitAt_append, hjobs, hresult, List.singleton_append]

/-- **When the path of a result is literal**, and the id is one segment of it. -/
lemma isLiteral_belowJobs_iff : IsLiteral ('/' :: belowJobs id) ∧ '/' ∉ id ↔ IsName id := by
  constructor
  · rintro ⟨h, hslash⟩
    have hmem : ∀ c ∈ id, c ∈ '/' :: belowJobs id := fun c hc =>
      List.mem_cons_of_mem _ (List.mem_append_right _
        (List.mem_cons_of_mem _ (List.mem_append_left _ hc)))
    have hpart : id ∈ splitAt '/' (belowJobs id) := by
      rw [splitAt_belowJobs, Text.splitAt_of_notMem hslash]
      exact List.mem_cons_of_mem _ List.mem_cons_self
    refine ⟨fun c hc hmark => ?_, (isLiteral_cons_iff.1 h).2 id hpart⟩
    rcases List.mem_cons.1 hmark with rfl | hmark
    · exact hslash hc
    · exact h.noMark c (hmem c hc) hmark
  · intro h
    have hjobs : IsLiteral ('/' :: "jobs".toList) :=
      isLiteral_of_all (by decide) (by decide)
    have hresult : IsLiteral ('/' :: "execution-result".toList) :=
      isLiteral_of_all (by decide) (by decide)
    -- the path is taken apart at the slashes around the id
    have htext : '/' :: belowJobs id =
        '/' :: "jobs".toList ++ '/' :: (id ++ '/' :: "execution-result".toList) := rfl
    have hparts : splitAt '/' ('/' :: belowJobs id) =
        [[], "jobs".toList, id, "execution-result".toList] := by
      rw [Text.splitAt_cons_self, splitAt_belowJobs, Text.splitAt_of_notMem h.noSlash]
      rfl
    refine ⟨⟨?_, fun c hc => ?_, ?_, ?_⟩, h.noSlash⟩
    · rw [htext]
      exact List.forall_mem_append.2 ⟨hjobs.noMark, List.forall_mem_cons.2 ⟨by decide,
        List.forall_mem_append.2 ⟨fun c hc hmark => h.noMark c hc (List.mem_cons_of_mem _ hmark),
          hresult.noMark⟩⟩⟩
    · refine hresult.noEnd c ?_
      rwa [htext, List.getLast?_append_of_ne_nil _ (List.cons_ne_nil _ _), ← List.cons_append,
        List.getLast?_append_of_ne_nil _ (List.cons_ne_nil _ _)] at hc
    · have hid : ¬Text.HasEscape ('/' :: id) := by
        rw [Text.hasEscape_cons_iff, Text.startsEscape_cons_iff]
        rintro (⟨hpercent, -⟩ | hescape)
        · exact absurd hpercent (by decide)
        · exact h.plain.noEscape hescape
      rw [htext, Text.hasEscape_append_slash, ← List.cons_append, Text.hasEscape_append_slash]
      exact not_or.2 ⟨hjobs.noEscape, not_or.2 ⟨hid, hresult.noEscape⟩⟩
    · rw [hparts]
      exact List.forall_mem_cons.2 ⟨by decide, List.forall_mem_cons.2 ⟨by decide,
        List.forall_mem_cons.2 ⟨⟨h.plain.noDot, h.plain.noDots⟩, by decide⟩⟩⟩

end Url

namespace JobResult

variable {endpoint id url : String} {e u : Url} {c : Http.Conversation} {interval : Millis}
  {request : Http.Request}

/-! ## Looks -/

/-- A look is one request for the result of the job. -/
lemma requests_of_ends_look {p : Polling} {r : Except DeployError JobOutcome ⊕ Polling}
    (hu : Url.parse url = some u) (hends : Ends (look url p) c r) : requests c = [inquiry u] := by
  obtain ⟨response, hsend, -⟩ := Dialogue.ends_bind_pure_iff.1 hends
  obtain ⟨took, reply, rfl⟩ := Http.exists_eq_exchange_of_ends_send hu hsend
  rfl

/-- **All looks are the same request**, whatever is answered to them, and there is at least one. -/
lemma requests_of_ends_poll {p : Polling} {bound : Nat}
    {r : Except DeployError JobOutcome ⊕ Polling} (hu : Url.parse url = some u)
    (hends : Ends (poll url interval (bound + 1) p) c r) :
    ∃ n, requests c = List.replicate (n + 1) (inquiry u) := by
  induction bound generalizing c p with
  | zero =>
    obtain ⟨c₁, c₂, looked, rfl, hlook, hrest⟩ := Dialogue.ends_bind_iff.1 hends
    refine ⟨0, ?_⟩
    rw [requests_append, requests_of_ends_look hu hlook]
    rcases looked with result | next
    · obtain ⟨rfl, -⟩ := Dialogue.ends_pure_iff.1 hrest
      rfl
    · obtain ⟨pause, c₃, rfl, hover⟩ := Dialogue.ends_question_bind_iff.1 hrest
      obtain ⟨rfl, -⟩ := Dialogue.ends_pure_iff.1 hover
      rfl
  | succ bound ih =>
    obtain ⟨c₁, c₂, looked, rfl, hlook, hrest⟩ := Dialogue.ends_bind_iff.1 hends
    rw [requests_append, requests_of_ends_look hu hlook]
    rcases looked with result | next
    · obtain ⟨rfl, -⟩ := Dialogue.ends_pure_iff.1 hrest
      exact ⟨0, rfl⟩
    · obtain ⟨pause, c₃, rfl, hgoesOn⟩ := Dialogue.ends_question_bind_iff.1 hrest
      obtain ⟨n, hn⟩ := ih hgoesOn
      refine ⟨n + 1, ?_⟩
      have hpause : requests (⟨.pause interval, pause⟩ :: c₃) = requests c₃ := rfl
      rw [hpause, hn]
      rfl

/-! ## The request for a result -/

/-- Holds of a request for the result of a job: its path is that of the endpoint and three segments
more, of which the second one is read as the id, and it has no query. -/
def IsResultRequest (endpoint id : String) (request : Http.Request) : Prop :=
  ∃ e segment, Url.parse (endpoint ++ "/") = some e ∧ '/' ∉ segment ∧
    unescape segment = Utf8.encode id ∧
    request.path = Url.textOf
      (e.segments.dropLast ++ ["jobs".toList, segment, "execution-result".toList]) ∧
    request.query = none

/-- The URL of a result is the endpoint of the cluster with the path of the result behind it. -/
lemma resultUrl_eq (endpoint id : String) :
    ResourceManager.resultUrl endpoint id =
      String.ofList (endpoint.toList ++ '/' :: Url.belowJobs id.toList) := by
  refine String.toList_inj.1 ?_
  simp [ResourceManager.resultUrl, Url.belowJobs, toString]

/-- What is read in the path of a request for a result. -/
lemma unescape_textOf_result {segment : List Char} (dir : List (List Char))
    (hread : unescape segment = Utf8.encode id) :
    unescape (Url.textOf (dir ++ ["jobs".toList, segment, "execution-result".toList])) =
      unescape (Url.textOf dir) ++ bytesOf ('/' :: Url.belowJobs id.toList) := by
  have hjobs : unescape "jobs".toList = bytesOf "jobs".toList :=
    Text.unescape_eq_of_not_hasEscape (Text.not_hasEscape_of_notMem (by decide))
  have hresult : unescape "execution-result".toList = bytesOf "execution-result".toList :=
    Text.unescape_eq_of_not_hasEscape (Text.not_hasEscape_of_notMem (by decide))
  rw [Url.unescape_textOf_append, Url.unescape_textOf_cons, Url.unescape_textOf_cons,
    Url.unescape_textOf_cons, Url.textOf_nil, unescape, hread, hjobs, hresult, Url.belowJobs,
    Utf8.encode_eq, Utf8.bytesOf_cons, Utf8.bytesOf_append, Utf8.bytesOf_cons, Utf8.bytesOf_append,
    Utf8.bytesOf_cons, List.append_nil]

/-- The id is the whole of a segment if it stands between two others. -/
lemma noSlash_of_textOf_eq {segment : List Char} {dir : List (List Char)}
    (hslash : '/' ∉ segment)
    (h : Url.textOf (dir ++ (splitAt '/' (Url.belowJobs id.toList)).map
        (Url.escapeAll Url.isEscapedInPath)) =
      Url.textOf (dir ++ ["jobs".toList, segment, "execution-result".toList])) :
    '/' ∉ id.toList := by
  have hjobs : Url.escapeAll Url.isEscapedInPath "jobs".toList = "jobs".toList := by decide
  have hresult : Url.escapeAll Url.isEscapedInPath "execution-result".toList =
      "execution-result".toList := by decide
  simp only [Url.splitAt_belowJobs, List.map_cons, List.map_append, List.map_nil, hjobs, hresult,
    Url.textOf_append, Url.textOf_cons, Url.textOf_nil, List.append_nil, List.append_right_inj,
    List.cons.injEq, true_and] at h
  rw [← List.cons_append, List.append_left_inj] at h
  have hparts := Url.textOf_splitAt id.toList
  obtain ⟨first, others, hsplit⟩ := List.exists_cons_of_ne_nil (Text.splitAt_ne_nil '/' id.toList)
  rw [hsplit] at h hparts
  cases others with
  | nil =>
    have hid : first = id.toList := by simpa using hparts
    exact hid ▸ Text.notMem_of_mem_splitAt (hsplit ▸ List.mem_cons_self)
  | cons second others =>
    refine absurd ?_ hslash
    rw [← List.tail_eq_of_cons_eq h]
    exact List.mem_append_right _ List.mem_cons_self

/-- **When the request for the result of a job is made**: the endpoint has to be the URL of a
directory, and the id has to be literal.

**Proof sketch.** If there is a query or a fragment in the endpoint, then no segment is appended to
its path. Otherwise what is read is the path that was appended only if it is literal, and then the
id is one segment only if there is no slash in it. -/
lemma isResultRequest_iff (hu : Url.parse (ResourceManager.resultUrl endpoint id) = some u)
    (htarget : request.target = u.target) :
    IsResultRequest endpoint id request ↔
      (∃ e, IsBase endpoint e) ∧ Url.IsName id.toList := by
  have htarget' : request.target = (u.withParameters []).target := htarget
  have hpath := Http.Request.path_eq hu htarget'
  have hmark : ∀ s ∈ u.segments, '?' ∉ s := fun s hs => (Url.notMem_of_mem_segments hu hs).2
  have hquery := (Http.Request.path_and_query_of_target hmark htarget).2
  rw [resultUrl_eq] at hu
  constructor
  · rintro ⟨e, segment, he, hslash, hread, hsame, -⟩
    have htext : Url.textOf u.segments = Url.textOf
        (e.segments.dropLast ++ ["jobs".toList, segment, "execution-result".toList]) := by
      rw [← Url.pathText_eq, ← hpath, hsame]
    -- behind a query or a fragment nothing would be added to the path of the endpoint
    have hnone : ¬('?' ∈ endpoint.toList ∨ '#' ∈ endpoint.toList) := by
      intro hmark
      rw [Url.segments_of_mark hmark he hu] at htext
      rcases List.eq_nil_or_concat e.segments with hnil | ⟨init, last, hlast⟩
      · rw [hnil] at htext
        exact absurd htext (List.cons_ne_nil _ _).symm
      · rw [List.concat_eq_append] at hlast
        rw [hlast, List.dropLast_concat, Url.textOf_append, Url.textOf_append,
          List.append_right_inj, Url.textOf_cons, Url.textOf_nil, List.append_nil,
          Url.textOf_cons] at htext
        have hsegment := List.tail_eq_of_cons_eq htext
        refine (Url.notMem_of_mem_segments he (s := last) ?_).1 ?_
        · rw [hlast]
          exact List.mem_append_right _ List.mem_cons_self
        · rw [hsegment]
          exact List.mem_append_right _ List.mem_cons_self
    obtain ⟨hnoQuery, hnoFragment⟩ := not_or.1 hnone
    have hbase : IsBase endpoint e := ⟨he, hnoQuery, hnoFragment⟩
    have hliteral : IsLiteral ('/' :: Url.belowJobs id.toList) := by
      refine (Url.unescape_below_iff hbase hu).1 ?_
      rw [Url.pathText_eq, htext, unescape_textOf_result _ hread]
    rw [(Url.segments_below hbase hu hliteral).1] at htext
    exact ⟨⟨e, hbase⟩, Url.isLiteral_belowJobs_iff.1 ⟨hliteral, noSlash_of_textOf_eq hslash htext⟩⟩
  · rintro ⟨⟨e, hbase⟩, hname⟩
    obtain ⟨hliteral, hslash⟩ := Url.isLiteral_belowJobs_iff.2 hname
    obtain ⟨hsegments, hnone⟩ := Url.segments_below hbase hu hliteral
    refine ⟨e, Url.escapeAll Url.isEscapedInPath id.toList, hbase.parse, fun hmem => ?_, ?_, ?_, ?_⟩
    · exact hslash (Url.mem_of_mem_escapeAll (by decide) (by decide) hmem).1
    · rw [Url.unescape_escapeAll_path, Text.unescape_eq_of_not_hasEscape hname.plain.noEscape,
        Utf8.encode_eq]
    · rw [hpath, Url.pathText_eq, hsegments, Url.splitAt_belowJobs, Text.splitAt_of_notMem hslash]
      rfl
    · rw [hquery, hnone]
      rfl

/-- Literal ids are looked for at different places. -/
lemma eq_of_inquiry_eq {id' : String} {u' : Url} (hbase : IsBase endpoint e)
    (hu : Url.parse (ResourceManager.resultUrl endpoint id) = some u)
    (hu' : Url.parse (ResourceManager.resultUrl endpoint id') = some u')
    (hname : Url.IsName id.toList) (hname' : Url.IsName id'.toList)
    (hsame : inquiry u = inquiry u') : id = id' := by
  have htarget : (inquiry u).target = (u.withParameters []).target := rfl
  have htarget' : (inquiry u).target = (u'.withParameters []).target :=
    congrArg Http.Request.target hsame
  have hpath := (Http.Request.path_eq hu htarget).symm.trans (Http.Request.path_eq hu' htarget')
  rw [resultUrl_eq] at hu hu'
  have hbelow := Url.below_injective hbase hu hu' (Url.isLiteral_belowJobs_iff.2 hname).1
    (Url.isLiteral_belowJobs_iff.2 hname').1 hpath
  rw [Url.belowJobs, Url.belowJobs, List.append_right_inj, List.cons.injEq,
    List.append_left_inj] at hbelow
  exact String.toList_inj.1 hbelow.2

end JobResult

namespace ResourceManager

open JobResult (IsResultRequest Polling inquiry poll requests)

variable {rm : ResourceManager} {handle : ClusterHandle} {job : Job} {c : Http.Conversation}
  {running : RunningJob} {endpoint : String} {u : Url}

/-! ## Submission -/

/-- The parameters with which a job is submitted. -/
def jobParameters (job : Job) : List (String × String) :=
  [("jobId", job.id), ("jobName", job.name),
    ("parallelism", String.ofList (Text.decimal job.parallelism.toNat))]

/-- The runs in which a job is submitted. -/
lemma ends_submitJob_ok_iff :
    Ends (rm.submitJob handle job).run c (.ok running) ↔
      running = .polled job.id (resultUrl handle.endpoint job.id) rm.resultPollInterval ∧
        ∃ response jobUrl, Ends (Http.send "POST" s!"{handle.endpoint}/jobs" (jobParameters job)
            (some ⟨"application/octet-stream", job.payload⟩)) c response ∧
          readResponse (Json.only "jobUrl" Json.text) "submit job" response = .ok jobUrl := by
  unfold submitJob
  rw [Dialogue.ends_run_bind_ok_iff]
  constructor
  · rintro ⟨c₁, c₂, jobUrl, rfl, hsubmit, hrest⟩
    obtain ⟨response, hsend, hread⟩ := ends_read_iff.1 hsubmit
    obtain ⟨rfl, hrunning⟩ := Dialogue.ends_run_pure_iff.1 hrest
    rw [List.append_nil]
    exact ⟨Except.ok.inj hrunning, response, jobUrl, hsend, hread.symm⟩
  · rintro ⟨rfl, response, jobUrl, hsend, hread⟩
    exact ⟨c, [], jobUrl, (List.append_nil c).symm, ends_read_iff.2 ⟨response, hsend, hread.symm⟩,
      Dialogue.ends_run_pure_iff.2 ⟨rfl, rfl⟩⟩

/-- What was submitted to an endpoint can be looked for there. -/
lemma exists_parse_resultUrl (hu : Url.parse s!"{endpoint}/jobs" = some u) (id : String) :
    ∃ v, Url.parse (resultUrl endpoint id) = some v := by
  have htext : s!"{endpoint}/jobs" = String.ofList (endpoint.toList ++ '/' :: "jobs".toList) :=
    String.toList_inj.1 (by simp [toString])
  have htail : Url.tailOf "jobs".toList = "jobs".toList := by decide
  have hfilter : "jobs".toList.filter Url.isCounted = "jobs".toList := by decide
  rw [htext, Url.parse_append_slash, htail] at hu
  obtain ⟨r, hr, hrest⟩ := Option.bind_eq_some_iff.1 hu
  obtain ⟨server, hserver, -⟩ := Option.map_eq_some_iff.1 hrest
  have hne : ((r ++ '/' :: "jobs".toList).map Url.asSlash).dropWhile (· == '/') ≠ [] := by
    intro hnil
    have hletter : 'j' ∈ (r ++ '/' :: "jobs".toList).map Url.asSlash :=
      List.mem_map.2 ⟨'j', List.mem_append_right _ (by decide), rfl⟩
    exact absurd (List.dropWhile_eq_nil_iff.1 hnil _ hletter) (by decide)
  rw [JobResult.resultUrl_eq, Url.parse_append_slash, hr, Option.bind_some, Url.belowJobs,
    Url.tailOf_append_slash, hfilter, ← List.cons_append, ← List.append_assoc, Url.ofRest,
    Url.takeWhile_hostAndPath_append_slash hne, hserver]
  exact ⟨_, rfl⟩

/-- **What is polled after a job was submitted.** The job was submitted with its id as a parameter.
All looks at its result are the same request, and

* it is the one for the result of this job exactly if the endpoint is the URL of a directory and the
  id is the literal name of a segment;
* if so, then it is not the request for any other job with such an id. -/
theorem submitJob_polls_iff (rm : ResourceManager) (handle : ClusterHandle) (job : Job)
    {c : Http.Conversation} {running : RunningJob}
    (hrun : Ends (rm.submitJob handle job).run c (.ok running)) :
    ∃ u submission answer,
      running = .polled job.id (resultUrl handle.endpoint job.id) rm.resultPollInterval ∧
      Url.parse (resultUrl handle.endpoint job.id) = some u ∧
      c = [⟨.exchange submission, answer⟩] ∧
      Url.encoded ("jobId", job.id) ∈ submission.parameters ∧
      (∀ bound c' r', Ends (poll (resultUrl handle.endpoint job.id) rm.resultPollInterval
          (bound + 1) .start) c' r' →
        ∃ n, requests c' = List.replicate (n + 1) (inquiry u)) ∧
      (IsResultRequest handle.endpoint job.id (inquiry u) ↔
        (∃ e, IsBase handle.endpoint e) ∧ Url.IsName job.id.toList) ∧
      ((∃ e, IsBase handle.endpoint e) → Url.IsName job.id.toList →
        ∀ id' u', Url.IsName id'.toList →
          Url.parse (resultUrl handle.endpoint id') = some u' → inquiry u = inquiry u' →
            job.id = id') := by
  obtain ⟨rfl, response, jobUrl, hsend, hread⟩ := ends_submitJob_ok_iff.1 hrun
  obtain ⟨took, hsend⟩ := Http.ends_send_iff.1 hsend
  rcases Http.ends_sendTimed_iff.1 hsend with ⟨-, -, -, rfl⟩ | ⟨v, reply, hv, -, rfl⟩
  · exact nomatch hread
  · obtain ⟨u, hu⟩ := exists_parse_resultUrl hv job.id
    refine ⟨u, _, _, rfl, hu, rfl, ?_, fun _ _ _ hends => JobResult.requests_of_ends_poll hu hends,
      JobResult.isResultRequest_iff hu rfl, ?_⟩
    · rw [Http.Request.parameters_eq hv rfl]
      exact List.mem_append_right _ List.mem_cons_self
    · rintro ⟨e, hbase⟩ hname id' u' hname' hu' hsame
      exact JobResult.eq_of_inquiry_eq hbase hu hu' hname hname' hsame

/-! ## Jobs that are accepted -/

/-- A cluster whose endpoint can be read may accept any job. -/
lemma exists_ends_submitJob (rm : ResourceManager) (handle : ClusterHandle) (job : Job)
    (hendpoint : (Url.parse s!"{handle.endpoint}/jobs").isSome = true) :
    ∃ c, Ends (rm.submitJob handle job).run c
      (.ok (.polled job.id (resultUrl handle.endpoint job.id) rm.resultPollInterval)) := by
  let answer := Utf8.encode (Json.object [("jobUrl", .string "/jobs/1")]).compact
  have hread : Http.readBody (Json.only "jobUrl" Json.text) answer = some "/jobs/1" := by
    decide +kernel
  obtain ⟨c, hsend⟩ := Http.exists_ends_send hendpoint "POST" (jobParameters job)
    (some ⟨"application/octet-stream", job.payload⟩) (.answered 200 (some answer))
  refine ⟨c, ends_submitJob_ok_iff.2 ⟨rfl, _, "/jobs/1", hsend, ?_⟩⟩
  change readResponse _ "submit job" (.success (some answer)) = _
  rw [readResponse, hread]

/-- The handle of a cluster that is up. -/
def runningHandle : ClusterHandle :=
  ⟨⟨1, 1⟩, "http://jm"⟩

/-- The result of a job with a usual id is looked for where it is. -/
theorem submitJob_polls_iff_of_usual_id :
    ∃ u, Url.parse (resultUrl "http://jm" "wordcount") = some u ∧
      IsResultRequest "http://jm" "wordcount" (inquiry u) := by
  have hname : Url.IsName "wordcount".toList :=
    ⟨List.all_iff_forall_prop.1 (by decide), by decide, by decide,
      Text.not_hasEscape_of_notMem (by decide)⟩
  have hbase : IsBase "http://jm" ⟨⟨.name "jm", 80⟩, [[]], none⟩ :=
    ⟨by decide +kernel, by decide, by decide⟩
  obtain ⟨c, hrun⟩ := exists_ends_submitJob (ofUrl "http://rm" "hdfs://nn") runningHandle
    ⟨"wordcount", "word count", 1, [], []⟩ (by decide +kernel)
  obtain ⟨u, submission, answer, -, hu, -, -, -, hiff, -⟩ :=
    submitJob_polls_iff _ runningHandle _ hrun
  exact ⟨u, hu, hiff.2 ⟨⟨_, hbase⟩, hname⟩⟩

/-- **Two jobs with different ids may share a result**: the jobs `word#1` and `word#2` are both
accepted, and then the same request is made for the result of either, which is for neither. -/
theorem submitJob_sharesResult :
    ∃ request, ∀ id ∈ ["word#1", "word#2"],
      (∃ c, Ends ((ofUrl "http://rm" "hdfs://nn").submitJob runningHandle
          ⟨id, "word count", 1, [], []⟩).run c (.ok (.polled id (resultUrl "http://jm" id) 500))) ∧
        (Url.parse (resultUrl "http://jm" id)).map inquiry = some request ∧
          ¬IsResultRequest "http://jm" id request := by
  let request : Http.Request := ⟨⟨.name "jm", 80⟩, "GET", "/jobs/word", none⟩
  have hshared : ∀ id : String, '#' ∈ id.toList →
      (Url.parse (resultUrl "http://jm" id)).map inquiry = some request →
      (∃ c, Ends ((ofUrl "http://rm" "hdfs://nn").submitJob runningHandle
          ⟨id, "word count", 1, [], []⟩).run c (.ok (.polled id (resultUrl "http://jm" id) 500))) ∧
        (Url.parse (resultUrl "http://jm" id)).map inquiry = some request ∧
          ¬IsResultRequest "http://jm" id request := by
    intro id hmark hrequest
    obtain ⟨u, hu, hinquiry⟩ := Option.map_eq_some_iff.1 hrequest
    refine ⟨exists_ends_submitJob _ runningHandle _ (by decide +kernel), hrequest, ?_⟩
    rw [← hinquiry, JobResult.isResultRequest_iff hu rfl]
    rintro ⟨-, hname⟩
    exact hname.noMark _ hmark (by decide)
  refine ⟨request, List.forall_mem_cons.2 ⟨hshared _ (by decide) (by decide +kernel),
    List.forall_mem_singleton.2 (hshared _ (by decide) (by decide +kernel))⟩⟩

end ResourceManager

end ClusterDeploy
