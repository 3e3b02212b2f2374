import ClusterDeploy.Proofs.Platform.Conversations
import ClusterDeploy.Storage.WebHdfs

set_option relaxedAutoImplicit false
set_option autoImplicit false

/-!
# What an upload to WebHDFS says of the file

The name node is asked where to write the file, and the content is sent there. The upload is a
success if both answers are, and the first one names a place. But a redirection is a success too:
then the content was not written, although the upload says so.

## Main definitions

* `Http.sentContents`, `Http.statusesOf` — what was sent in a conversation, and the statuses of the
  answers.
* `WebHdfs.Wrote` — the conversation of an upload in which all requests were answered.
* `WebHdfs.Stored` — an upload after which the file is stored.

## Main results

* `WebHdfs.ends_upload_iff` — the runs of an upload.
* `WebHdfs.upload_stored_iff` — when an upload that is a success has stored the file.
-/

namespace ClusterDeploy

open Dialogue (Ends Obeys)

namespace Http

variable {method url : String} {parameters : List (String × String)} {content : Option Content}
  {c : Conversation} {reply : Reply} {response : Response} {body : Option Bytes}

/-! ## Answers -/

/-- Answers with these statuses are taken for a success. -/
def IsAccepted (status : Nat) : Prop :=
  100 ≤ status ∧ status < 400

/-- Whether a status is accepted can be decided. -/
instance (status : Nat) : Decidable (IsAccepted status) :=
  inferInstanceAs (Decidable (100 ≤ status ∧ status < 400))

/-- The statuses of success. -/
def IsSuccess (status : Nat) : Prop :=
  200 ≤ status ∧ status < 300

/-- Whether a status is a success can be decided. -/
instance (status : Nat) : Decidable (IsSuccess status) :=
  inferInstanceAs (Decidable (200 ≤ status ∧ status < 300))

/-- **What is taken for a success.** -/
lemma ofReply_eq_success_iff :
    Response.ofReply reply = .success body ↔ ∃ status sent, reply = .answered status sent ∧
      IsAccepted status ∧ body = if status = 204 ∨ status = 304 then some [] else sent := by
  cases reply with
  | dropped => simp [Response.ofReply]
  | answered status sent =>
    simp only [Response.ofReply, Reply.answered.injEq, IsAccepted]
    constructor
    · intro h
      split at h
      · exact nomatch h
      · split at h
        · exact nomatch h
        · exact ⟨status, sent, ⟨rfl, rfl⟩, by omega, (Response.success.inj h).symm⟩
    · rintro ⟨status', sent', ⟨rfl, rfl⟩, haccepted, rfl⟩
      rw [if_neg (by omega), if_neg (by omega)]

/-! ## Conversations -/

/-- What is sent with a question. -/
def contentOf? (x : Dialogue.Exchange Question Answer) : Option Content :=
  match x.question with
  | .exchange request => request.content
  | .pause _ => none

/-- The status of an answer. -/
def statusOf? : Dialogue.Exchange Question Answer → Option Nat
  | ⟨.exchange _, (_, .answered status _)⟩ => some status
  | _ => none

/-- What was sent in a conversation, in order. -/
def sentContents (c : Conversation) : List Content :=
  c.filterMap contentOf?

/-- The statuses of the answers in a conversation, in order. -/
def statusesOf (c : Conversation) : List Nat :=
  c.filterMap statusOf?

/-- A request that was answered with success, with the body that counts. -/
lemma ends_send_success_iff :
    Ends (send method url parameters content) c (.success body) ↔
      ∃ u took status sent, Url.parse url = some u ∧ IsAccepted status ∧
        body = (if status = 204 ∨ status = 304 then some [] else sent) ∧
        c = [⟨.exchange ⟨u.server, method, (u.withParameters parameters).target, content⟩,
          (took, .answered status sent)⟩] := by
  rw [ends_send_iff]
  constructor
  · rintro ⟨took, hrun⟩
    rcases ends_sendTimed_iff.1 hrun with ⟨-, -, -, hnone⟩ | ⟨u, reply, hu, hreply, rfl⟩
    · exact nomatch hnone
    · obtain ⟨status, sent, rfl, haccepted, hbody⟩ := ofReply_eq_success_iff.1 hreply.symm
      exact ⟨u, took, status, sent, hu, haccepted, hbody, rfl⟩
  · rintro ⟨u, took, status, sent, hu, haccepted, hbody, rfl⟩
    exact ⟨took, ends_sendTimed_iff.2 (.inr ⟨u, _, hu,
      (ofReply_eq_success_iff.2 ⟨status, sent, rfl, haccepted, hbody⟩).symm, rfl⟩)⟩

/-- With a request something is sent once, or not at all if the URL cannot be read. -/
lemma sentContents_of_ends_send (hrun : Ends (send method url parameters content) c response) :
    sentContents c = [] ∨ sentContents c = content.toList := by
  obtain ⟨took, hrun⟩ := ends_send_iff.1 hrun
  rcases ends_sendTimed_iff.1 hrun with ⟨-, rfl, -⟩ | ⟨u, reply, -, -, rfl⟩
  · exact .inl rfl
  · right
    cases content <;> rfl

end Http

namespace WebHdfs

open Http (IsAccepted IsSuccess sentContents statusesOf)

variable {w : WebHdfs} {content : Except FileFault Bytes} {bytes : Bytes}
  {localPath path : String} {c : Http.Conversation} {r : Except DeployError Unit}

/-! ## Requests of an upload -/

/-- The place that is named in a body. -/
def locationReader : Json.Reader String :=
  Json.only "Location" Json.text

/-- What comes of an upload, by the answer to the request with the content. -/
def uploadResult (path : String) : Http.Response → Except DeployError Unit
  | .success _ => .ok ()
  | .failure status body => .error (statusFailure "CREATE" path status body)
  | .none => .error (transportFailure "CREATE" path)

/-- The question where to write a file. -/
def create (w : WebHdfs) (path : String) : Http.Client Http.Response :=
  w.request "PUT" path "CREATE" [("overwrite", "true"), ("noredirect", "true")]

/-- The content of a file goes to a place. -/
def write (location : String) (bytes : Bytes) : Http.Client Http.Response :=
  Http.send "PUT" location [] (some (contentOf bytes))

/-- What is said after the content was sent. -/
private lemma ends_write_iff {location : String} :
    Ends (ExceptT.run (m := Http.Client) (do
      match ← ExceptT.lift (write location bytes) with
      | .success _ => return ()
      | .failure status body => throw (statusFailure "CREATE" path status body)
      | .none => throw (transportFailure "CREATE" path))) c r ↔
        ∃ response, Ends (write location bytes) c response ∧ r = uploadResult path response := by
  rw [Dialogue.ends_run_lift_bind_iff]
  constructor
  · rintro ⟨t₁, t₂, response, rfl, hsend, hrest⟩
    refine ⟨response, ?_⟩
    cases response <;>
    · obtain ⟨rfl, rfl⟩ := Dialogue.ends_pure_iff.1 hrest
      exact ⟨by rwa [List.append_nil], rfl⟩
  · rintro ⟨response, hsend, rfl⟩
    refine ⟨c, [], response, (List.append_nil c).symm, hsend, ?_⟩
    cases response <;> exact .done _

/-- **The runs of an upload.** The content is sent if a place was named. -/
lemma ends_upload_iff :
    Ends (w.upload path bytes).run c r ↔
      ∃ c₁ c₂ response, c = c₁ ++ c₂ ∧ Ends (w.create path) c₁ response ∧
        ((∃ e, readResponse locationReader "CREATE" path response = .error e ∧ c₂ = [] ∧
            r = .error e) ∨
          ∃ location response', readResponse locationReader "CREATE" path response = .ok location ∧
            Ends (write location bytes) c₂ response' ∧ r = uploadResult path response') := by
  unfold upload
  rw [Dialogue.ends_run_bind_iff]
  constructor
  · rintro ⟨c₁, c₂, fetched, rfl, hfetch, hrest⟩
    obtain ⟨response, hcreate, hfetched⟩ := Dialogue.ends_bind_pure_iff.1 hfetch
    refine ⟨c₁, c₂, response, rfl, hcreate, ?_⟩
    cases fetched with
    | error e => exact .inl ⟨e, hfetched.symm, Dialogue.ends_pure_iff.1 hrest⟩
    | ok location =>
      obtain ⟨response', hwrite, hr⟩ := ends_write_iff.1 hrest
      exact .inr ⟨location, response', hfetched.symm, hwrite, hr⟩
  · rintro ⟨c₁, c₂, response, rfl, hcreate, hrest⟩
    refine ⟨c₁, c₂, readResponse locationReader "CREATE" path response, rfl,
      Dialogue.ends_bind_pure_iff.2 ⟨response, hcreate, rfl⟩, ?_⟩
    rcases hrest with ⟨e, hread, hnil, hr⟩ | ⟨location, response', hread, hwrite, hr⟩
    · rw [hread]
      exact Dialogue.ends_pure_iff.2 ⟨hnil, hr⟩
    · rw [hread]
      exact ends_write_iff.2 ⟨response', hwrite, hr⟩

/-! ## Results of an upload -/

/-- A value is read from a response exactly if it is a success with a body from which it is read. -/
lemma readResponse_eq_ok_iff {α : Type} {read : Json.Reader α} {operation : String}
    {response : Http.Response} {a : α} :
    readResponse read operation path response = .ok a ↔
      ∃ body, response = .success (some body) ∧ Http.readBody read body = some a := by
  rcases response with _ | ⟨status, body⟩ | _ | body
  · simp [readResponse]
  · simp [readResponse]
  · simp [readResponse]
  · rcases hread : Http.readBody read body with _ | value <;> simp [readResponse, hread]

/-- An answer that is not understood is a failure of the storage. -/
lemma exists_failure_of_readResponse {α : Type} {read : Json.Reader α} {operation : String}
    {response : Http.Response} {e : DeployError}
    (h : readResponse read operation path response = .error e) :
    ∃ message, e = Storage.failure message := by
  rcases response with _ | ⟨status, body⟩ | _ | body
  · exact ⟨_, (Except.error.inj h).symm⟩
  · exact ⟨_, (Except.error.inj h).symm⟩
  · exact ⟨_, (Except.error.inj h).symm⟩
  · simp only [readResponse] at h
    split at h
    · exact nomatch h
    · exact ⟨_, (Except.error.inj h).symm⟩

/-- An upload succeeds exactly if the request with the content does. -/
lemma uploadResult_eq_ok_iff {response : Http.Response} :
    uploadResult path response = .ok () ↔ ∃ body, response = .success body := by
  rcases response with _ | ⟨status, body⟩ | body <;> simp [uploadResult]

/-- An upload that fails is a failure of the storage. -/
lemma exists_failure_of_uploadResult {response : Http.Response} {e : DeployError}
    (h : uploadResult path response = .error e) : ∃ message, e = Storage.failure message := by
  rcases response with _ | ⟨status, body⟩ | body
  · exact ⟨_, (Except.error.inj h).symm⟩
  · exact ⟨_, (Except.error.inj h).symm⟩
  · exact nomatch h

/-- The parameters of the question where to write a file. -/
def createParameters (w : WebHdfs) : List (String × String) :=
  ("op", "CREATE") :: w.user.toList.map (fun name => ("user.name", name)) ++
    [("overwrite", "true"), ("noredirect", "true")]

/-- Holds of the conversation of an upload if the name node answered with a document that names a
place, and the content was sent to this place, once, and all of it. The answers have these
statuses. -/
def Wrote (w : WebHdfs) (path : String) (bytes : Bytes) (first second : Nat)
    (c : Http.Conversation) : Prop :=
  ∃ u v took took' body body' location,
    Url.parse (Storage.withoutSlashes w.url ++ root ++ path) = some u ∧
      Http.readBody locationReader body = some location ∧ Url.parse location = some v ∧
      c = [⟨.exchange ⟨u.server, "PUT", (u.withParameters w.createParameters).target, none⟩,
          (took, .answered first (some body))⟩,
        ⟨.exchange ⟨v.server, "PUT", v.target, some (contentOf bytes)⟩,
          (took', .answered second body')⟩]

/-- **The runs of an upload that is a success.** -/
lemma ends_upload_ok_iff :
    Ends (w.upload path bytes).run c (.ok ()) ↔
      ∃ first second, IsAccepted first ∧ first ≠ 204 ∧ first ≠ 304 ∧ IsAccepted second ∧
        w.Wrote path bytes first second c := by
  have hempty : Http.readBody locationReader [] = none := by decide +kernel
  rw [ends_upload_iff]
  constructor
  · rintro ⟨c₁, c₂, response, rfl, hcreate,
      ⟨e, -, -, hr⟩ | ⟨location, response', hread, hwrite, hr⟩⟩
    · exact nomatch hr
    · obtain ⟨body, rfl, hbody⟩ := readResponse_eq_ok_iff.1 hread
      obtain ⟨body', rfl⟩ := uploadResult_eq_ok_iff.1 hr.symm
      obtain ⟨u, took, first, sent, hu, hfirst, hsent, rfl⟩ := Http.ends_send_success_iff.1 hcreate
      obtain ⟨v, took', second, sent', hv, hsecond, -, rfl⟩ := Http.ends_send_success_iff.1 hwrite
      have hstatus : ¬(first = 204 ∨ first = 304) := by
        intro hstatus
        rw [if_pos hstatus] at hsent
        rw [Option.some.inj hsent, hempty] at hbody
        exact nomatch hbody
      rw [if_neg hstatus] at hsent
      subst hsent
      exact ⟨first, second, hfirst, fun h => hstatus (.inl h), fun h => hstatus (.inr h), hsecond,
        u, v, took, took', body, sent', location, hu, hbody, hv, rfl⟩
  · rintro ⟨first, second, hfirst, hcontent, hmodified, hsecond, u, v, took, took', body, body',
      location, hu, hbody, hv, rfl⟩
    refine ⟨[_], [_], .success (some body), rfl,
      Http.ends_send_success_iff.2 ⟨u, took, first, _, hu, hfirst, ?_, rfl⟩,
      .inr ⟨location, .success _, readResponse_eq_ok_iff.2 ⟨body, rfl, hbody⟩,
        Http.ends_send_success_iff.2 ⟨v, took', second, body', hv, hsecond, rfl, rfl⟩, rfl⟩⟩
    exact (if_neg (not_or.2 ⟨hcontent, hmodified⟩)).symm

/-- Every other upload is a failure of the storage. -/
lemma exists_failure_of_ends_upload {e : DeployError}
    (hrun : Ends (w.upload path bytes).run c (.error e)) :
    ∃ message, e = Storage.failure message := by
  obtain ⟨c₁, c₂, response, rfl, -, ⟨e', hread, -, hr⟩ | ⟨location, response', -, -, hr⟩⟩ :=
    ends_upload_iff.1 hrun
  · rw [Except.error.inj hr]
    exact exists_failure_of_readResponse hread
  · exact exists_failure_of_uploadResult hr.symm

/-- The content is sent at most once. -/
lemma sentContents_of_ends_upload (hrun : Ends (w.upload path bytes).run c r) :
    sentContents c = [] ∨ sentContents c = [contentOf bytes] := by
  obtain ⟨c₁, c₂, response, rfl, hcreate, hrest⟩ := ends_upload_iff.1 hrun
  have hfirst : sentContents c₁ = [] := (Http.sentContents_of_ends_send hcreate).elim id id
  have happend : sentContents (c₁ ++ c₂) = sentContents c₂ := by
    rw [sentContents, List.filterMap_append]
    exact (congrArg (· ++ _) hfirst).trans (List.nil_append _)
  rw [happend]
  rcases hrest with ⟨e, -, rfl, -⟩ | ⟨location, response', -, hwrite, -⟩
  · exact .inl rfl
  · exact Http.sentContents_of_ends_send hwrite

/-! ## Stored files -/

/-- Holds of the conversation of an upload if the file is stored: the content could be read, and
both answers were successes. -/
def Stored (w : WebHdfs) (path : String) (content : Except FileFault Bytes)
    (c : Http.Conversation) : Prop :=
  ∃ bytes first second, content = .ok bytes ∧ IsSuccess first ∧ IsSuccess second ∧
    w.Wrote path bytes first second c

/-- The statuses in the conversation of an upload are those of its two answers. -/
lemma statusesOf_of_wrote {first second : Nat} (h : w.Wrote path bytes first second c) :
    statusesOf c = [first, second] := by
  obtain ⟨u, v, took, took', body, body', location, -, -, -, rfl⟩ := h
  rfl

/-- **What an upload says of the file.** Whatever the peers answer, there is exactly one run of the
upload, and

* it is a success exactly if the local file could be read, the question where to write the file was
  answered with a status from 100 to 399 and a document that names a place, and the content was sent
  to this place and answered with a status from 100 to 399;
* otherwise it is a failure of the storage;
* the content is sent at most once, and all of it;
* nothing is sent if the local file cannot be read;
* if it is a success, then the file is stored exactly if both statuses are those of success. -/
theorem upload_stored_iff (w : WebHdfs) (content : Except FileFault Bytes)
    (localPath path : String) :
    (∀ rule : Http.Conversation → (q : Http.Question) → Http.Answer q,
      ∃! run : Http.Conversation × Except DeployError Unit,
        Ends (w.answer content (.upload localPath path)).run run.1 run.2 ∧ Obeys rule run.1) ∧
    ∀ c r, Ends (w.answer content (.upload localPath path)).run c r →
      (r = .ok () ↔ ∃ bytes first second, content = .ok bytes ∧
        IsAccepted first ∧ first ≠ 204 ∧ first ≠ 304 ∧ IsAccepted second ∧
          w.Wrote path bytes first second c) ∧
      (r = .ok () ∨ ∃ message, r = .error (Storage.failure message)) ∧
      (sentContents c = [] ∨ ∃ bytes, content = .ok bytes ∧ sentContents c = [contentOf bytes]) ∧
      (∀ fault, content = .error fault → c = []) ∧
      (r = .ok () → (w.Stored path content c ↔ ∀ status ∈ statusesOf c, IsSuccess status)) := by
  refine ⟨fun rule => Dialogue.existsUnique_ends _ rule, fun c r hrun => ?_⟩
  cases content with
  | error fault =>
    obtain ⟨rfl, rfl⟩ := Dialogue.ends_run_throw_iff.1 hrun
    refine ⟨⟨nofun, ?_⟩, .inr ⟨_, rfl⟩, .inl rfl, fun _ _ => rfl, nofun⟩
    rintro ⟨bytes, _, _, hcontent, -⟩
    exact nomatch hcontent
  | ok bytes =>
    have hok : r = .ok () → ∃ first second, IsAccepted first ∧ first ≠ 204 ∧ first ≠ 304 ∧
        IsAccepted second ∧ w.Wrote path bytes first second c := by
      rintro rfl
      exact ends_upload_ok_iff.1 hrun
    refine ⟨⟨fun hr => ?_, ?_⟩, ?_, ?_, nofun, fun hr => ⟨?_, fun hstatuses => ?_⟩⟩
    · obtain ⟨first, second, h⟩ := hok hr
      exact ⟨bytes, first, second, rfl, h⟩
    · rintro ⟨_, first, second, hbytes, h⟩
      obtain rfl := Except.ok.inj hbytes
      -- one conversation has one result
      have hsame : Ends (w.answer (.ok bytes) (.upload localPath path)).run c (.ok ()) :=
        ends_upload_ok_iff.2 ⟨first, second, h⟩
      exact (hrun.append_inj (x := []) (y := []) hsame rfl).2.1
    · cases r with
      | ok => exact .inl rfl
      | error e =>
        obtain ⟨message, rfl⟩ := exists_failure_of_ends_upload hrun
        exact .inr ⟨message, rfl⟩
    · exact (sentContents_of_ends_upload hrun).imp_right fun h => ⟨bytes, rfl, h⟩
    · rintro ⟨_, first, second, -, hfirst, hsecond, hwrote⟩
      rw [statusesOf_of_wrote hwrote]
      exact List.forall_mem_cons.2 ⟨hfirst, List.forall_mem_singleton.2 hsecond⟩
    · obtain ⟨first, second, -, -, -, -, hwrote⟩ := hok hr
      rw [statusesOf_of_wrote hwrote] at hstatuses
      obtain ⟨hfirst, hsecond⟩ := List.forall_mem_cons.1 hstatuses
      exact ⟨bytes, first, second, rfl, hfirst, List.forall_mem_singleton.1 hsecond, hwrote⟩

/-! ## An upload of one file -/

/-- The document that names the place. -/
def location : Json :=
  .object [("Location", .string "http://dn/data")]

/-- The conversation of an upload in which the content is answered with a status. -/
def saidOnce (status : Nat) : Http.Conversation :=
  [⟨.exchange ⟨⟨.name "nn", 80⟩, "PUT",
      "/webhdfs/v1/u/a.jar?op=CREATE&overwrite=true&noredirect=true", none⟩,
    (1, .answered 200 (some (Utf8.encode location.compact)))⟩,
   ⟨.exchange ⟨⟨.name "dn", 80⟩, "PUT", "/data", some (contentOf (Utf8.encode "dist"))⟩,
    (1, .answered status (some []))⟩]

/-- Any status below 400 is taken for a success. -/
lemma ends_saidOnce (status : Nat) (h : IsAccepted status) :
    Ends ((⟨"http://nn", none⟩ : WebHdfs).answer (.ok (Utf8.encode "dist"))
      (.upload "a.jar" "/u/a.jar")).run (saidOnce status) (.ok ()) := by
  have hcreate : (Url.parse "http://nn/webhdfs/v1/u/a.jar").map (fun u => (u.server,
      (u.withParameters (createParameters ⟨"http://nn", none⟩)).target)) =
        some (⟨.name "nn", 80⟩,
          "/webhdfs/v1/u/a.jar?op=CREATE&overwrite=true&noredirect=true") := by
    decide +kernel
  have hwrite : (Url.parse "http://dn/data").map (fun u => (u.server, u.target)) =
      some (⟨.name "dn", 80⟩, "/data") := by
    decide +kernel
  have hbody : Http.readBody locationReader (Utf8.encode location.compact) =
      some "http://dn/data" := by
    decide +kernel
  have hurl : Storage.withoutSlashes "http://nn" ++ root ++ "/u/a.jar" =
      "http://nn/webhdfs/v1/u/a.jar" := by
    decide +kernel
  obtain ⟨u, hu, hcreate⟩ := Option.map_eq_some_iff.1 hcreate
  obtain ⟨v, hv, hwrite⟩ := Option.map_eq_some_iff.1 hwrite
  obtain ⟨hserver, htarget⟩ := Prod.mk.inj hcreate
  obtain ⟨hserver', htarget'⟩ := Prod.mk.inj hwrite
  refine (ends_upload_ok_iff (w := ⟨_, _⟩)).2 ⟨200, status, by decide, by decide, by decide, h,
    u, v, 1, 1, _, some [], _, ?_, hbody, hv, ?_⟩
  · rw [hurl]
    exact hu
  · rw [hserver, htarget, hserver', htarget']
    rfl

/-- A file that was created is stored. -/
theorem upload_stored_iff_of_created :
    Ends ((⟨"http://nn", none⟩ : WebHdfs).answer (.ok (Utf8.encode "dist"))
        (.upload "a.jar" "/u/a.jar")).run (saidOnce 201) (.ok ()) ∧
      (⟨"http://nn", none⟩ : WebHdfs).Stored "/u/a.jar" (.ok (Utf8.encode "dist"))
        (saidOnce 201) := by
  have hrun := ends_saidOnce 201 (by decide)
  refine ⟨hrun, ((upload_stored_iff ⟨"http://nn", none⟩ (.ok (Utf8.encode "dist")) "a.jar"
    "/u/a.jar").2 _ _ hrun).2.2.2.2 rfl |>.2 ?_⟩
  exact List.forall_mem_cons.2 ⟨by decide, List.forall_mem_singleton.2 (by decide)⟩

/-- **A redirection is taken for a success**: the place to which the content was sent names another
one, and nothing is sent there. -/
theorem upload_missesRedirection :
    Ends ((⟨"http://nn", none⟩ : WebHdfs).answer (.ok (Utf8.encode "dist"))
        (.upload "a.jar" "/u/a.jar")).run (saidOnce 307) (.ok ()) ∧
      ¬(⟨"http://nn", none⟩ : WebHdfs).Stored "/u/a.jar" (.ok (Utf8.encode "dist"))
        (saidOnce 307) := by
  refine ⟨ends_saidOnce 307 (by decide), ?_⟩
  rintro ⟨bytes, first, second, -, -, hsecond, hwrote⟩
  have hstatuses := statusesOf_of_wrote hwrote
  have hsame : [200, 307] = [first, second] := hstatuses
  obtain ⟨-, hsame⟩ := List.cons.inj hsame
  rw [← (List.cons.inj hsame).1] at hsecond
  exact absurd hsecond (by decide)

end WebHdfs

end ClusterDeploy
