import ClusterDeploy.Proofs.Http.Requests
import ClusterDeploy.Proofs.Storage.NameNode
import ClusterDeploy.Proofs.Storage.Paths
import ClusterDeploy.Proofs.Storage.Uploading

set_option relaxedAutoImplicit false
set_option autoImplicit false

/-!
# Which files WebHDFS is asked about

The path that a call is about is appended to the URL of the name node as it is. So the name node is
asked about this path exactly if it is literal. With any other path it is asked about another file,
and two files with different names may be the same for it.

## Main definitions

* `Storage.Call.operation` — the operations of WebHDFS.
* `Http.inquiries` — the requests of a conversation with which nothing is sent.
* `WebHdfs.Addresses` — requests for an operation on a path.

## Main results

* `WebHdfs.ends_answer_cases` — every call begins with a question about its path.
* `WebHdfs.answer_addresses_iff` — when the name node is asked about the path that is meant.
-/

namespace ClusterDeploy

open Dialogue (Ends)
open Text (unescape)
open Url (IsBase IsLiteral)
open Utf8 (bytesOf)

/-! ## Ids of applications -/

/-- A digit does not end an authority. -/
lemma Url.isEnd_of_isDigit {c : Char} (h : c.isDigit = true) : isEnd c = false := by
  have hlow : '0'.toNat ≤ c.toNat := by
    simp only [Char.isDigit, Bool.and_eq_true, decide_eq_true_eq] at h
    exact UInt32.le_iff_toNat_le.1 h.1
  exact decide_eq_false (Nat.not_le.2 (Nat.lt_of_lt_of_le (by decide) hlow))

/-- An id ends with a digit. -/
lemma ApplicationId.isDigit_of_mem_getLast? {id : ApplicationId} {c : Char}
    (hc : c ∈ id.display.toList.getLast?) : c.isDigit = true := by
  rw [display, String.toList_ofList, List.getLast?_append_of_ne_nil _ (List.cons_ne_nil _ _),
    List.getLast?_cons_of_ne_nil Text.padded_ne_nil] at hc
  exact Text.isDigit_of_mem_padded (List.mem_of_mem_getLast? hc)

/-! ## Questions to the name node -/

namespace Storage.Call

/-- The operation of WebHDFS that a call asks for. -/
def operation : Call → String
  | .homeDirectory => "GETHOMEDIRECTORY"
  | .defaultReplication => "GETSERVERDEFAULTS"
  | .upload _ _ => "CREATE"
  | .setReplication _ _ => "SETREPLICATION"
  | .stat _ => "GETFILESTATUS"
  | .deleteRecursive _ => "DELETE"

end Storage.Call

namespace Http

/-- A request with which nothing is sent. -/
def inquiry? (x : Dialogue.Exchange Question Answer) : Option Request :=
  match x.question with
  | .exchange request => if request.content.isNone then some request else none
  | .pause _ => none

/-- The requests of a conversation with which nothing is sent, in order. -/
def inquiries (c : Conversation) : List Request :=
  c.filterMap inquiry?

/-- The inquiries of two parts are those of the first, and then those of the second. -/
lemma inquiries_append (c d : Conversation) : inquiries (c ++ d) = inquiries c ++ inquiries d :=
  List.filterMap_append

variable {method url : String} {parameters : List (String × String)} {c : Conversation}
  {response : Response}

/-- A request without content is the only one, if its URL can be read. -/
lemma inquiries_of_ends_send {u : Url} (hu : Url.parse url = some u)
    (hrun : Ends (send method url parameters none) c response) :
    inquiries c = [⟨u.server, method, (u.withParameters parameters).target, none⟩] := by
  obtain ⟨took, reply, rfl⟩ := exists_eq_exchange_of_ends_send hu hrun
  rfl

/-- A request with content is none of them. -/
lemma inquiries_of_ends_send_some {content : Content}
    (hrun : Ends (send method url parameters (some content)) c response) : inquiries c = [] := by
  obtain ⟨took, hrun⟩ := ends_send_iff.1 hrun
  rcases ends_sendTimed_iff.1 hrun with ⟨-, rfl, -⟩ | ⟨v, reply, -, -, rfl⟩ <;> rfl

end Http

namespace WebHdfs

variable {w : WebHdfs} {content : Except FileFault Bytes} {call : Storage.Call}
  {c : Http.Conversation} {path operation : String} {e u : Url} {request : Http.Request}

/-- A call begins with a question about its path, and nothing more is asked of the name node. But
nothing is asked for an upload if the local file cannot be read. -/
lemma ends_answer_cases {r : Except DeployError call.Value}
    (hrun : Ends (w.answer content call).run c r) :
    (c = [] ∧ ∃ fault localPath path, content = .error fault ∧ call = .upload localPath path) ∨
      ∃ method parameters c₁ c₂ response, c = c₁ ++ c₂ ∧
        Ends (w.request method call.path call.operation parameters) c₁ response ∧
          Http.inquiries c₂ = [] := by
  -- most calls ask for one document, and that is all
  have hfetch : ∀ {α : Type} {read : Json.Reader α} {method : String}
      {parameters : List (String × String)} {c₁ c₂ : Http.Conversation} {fetched : Except _ α},
      c = c₁ ++ c₂ →
      Ends (w.fetch read method call.path call.operation parameters).run c₁ fetched → c₂ = [] →
        ∃ method parameters c₁ c₂ response, c = c₁ ++ c₂ ∧
          Ends (w.request method call.path call.operation parameters) c₁ response ∧
            Http.inquiries c₂ = [] := by
    rintro α read method parameters c₁ c₂ fetched hc hfetch rfl
    obtain ⟨response, hrequest, -⟩ := Dialogue.ends_bind_pure_iff.1 hfetch
    exact ⟨method, parameters, c₁, [], response, hc, hrequest, rfl⟩
  cases call with
  | homeDirectory => exact .inr (hfetch (List.append_nil c).symm hrun rfl)
  | defaultReplication =>
    obtain ⟨c₁, c₂, fetched, hc, hfirst, hrest⟩ := Dialogue.ends_run_bind_iff.1 hrun
    refine .inr (hfetch hc hfirst ?_)
    cases fetched <;> exact (Dialogue.ends_pure_iff.1 hrest).1
  | upload localPath path =>
    cases content with
    | error fault =>
      exact .inl ⟨(Dialogue.ends_run_throw_iff.1 hrun).1, fault, localPath, path, rfl, rfl⟩
    | ok bytes =>
      obtain ⟨c₁, c₂, response, hc, hcreate, hrest⟩ := ends_upload_iff.1 hrun
      refine .inr ⟨_, _, c₁, c₂, response, hc, hcreate, ?_⟩
      rcases hrest with ⟨_, -, rfl, -⟩ | ⟨location, response', -, hwrite, -⟩
      · rfl
      · exact Http.inquiries_of_ends_send_some hwrite
  | setReplication path factor =>
    obtain ⟨c₁, c₂, fetched, hc, hfirst, hrest⟩ := Dialogue.ends_run_bind_iff.1 hrun
    refine .inr (hfetch hc hfirst ?_)
    rcases fetched with _ | _ | _ <;> exact (Dialogue.ends_pure_iff.1 hrest).1
  | stat path =>
    obtain ⟨c₁, c₂, response, hc, hfirst, hrest⟩ := Dialogue.ends_bind_iff.1 hrun
    refine .inr ⟨_, _, c₁, c₂, response, hc, hfirst, ?_⟩
    have hnil : c₂ = [] := by
      split at hrest <;> exact (Dialogue.ends_pure_iff.1 hrest).1
    rw [hnil]
    rfl
  | deleteRecursive path => exact .inr (hfetch (List.append_nil c).symm hrun rfl)

/-! ## What a request is about -/

/-- Holds of a request for an operation on a path, where the name node is in a directory: what is
read is the path of the directory, then that of the interface and then this one, and the first
parameter is the operation. -/
structure Addresses (e : Url) (path operation : String) (request : Http.Request) : Prop where
  path : unescape request.path =
    unescape (Url.textOf e.segments.dropLast) ++ Utf8.encode (root ++ path)
  operation : request.parameters.head? = some (Utf8.encode "op", Utf8.encode operation)

/-- A path of the interface, behind its first slash. -/
def belowRoot (path : String) : List Char :=
  "webhdfs/v1".toList ++ path.toList

/-- Every address of the file system begins with the same root. -/
lemma toList_root_append (path : String) : (root ++ path).toList = '/' :: belowRoot path := by
  rw [String.toList_append]
  rfl

/-- The URL of a path of the interface. -/
lemma parse_request (w : WebHdfs) (path : String) :
    Url.parse (Storage.withoutSlashes w.url ++ root ++ path) =
      Url.parse
        (String.ofList ((Storage.withoutSlashes w.url).toList ++ '/' :: belowRoot path)) := by
  have htext : Storage.withoutSlashes w.url ++ root ++ path =
      String.ofList ((Storage.withoutSlashes w.url).toList ++ '/' :: belowRoot path) := by
    refine String.toList_inj.1 ?_
    rw [String.append_assoc, String.toList_append, toList_root_append, String.toList_ofList]
  rw [htext]

/-- **A request is for an operation on a path exactly if the path is literal.** -/
lemma addresses_iff {parameters : List (String × String)}
    (hbase : IsBase (Storage.withoutSlashes w.url) e)
    (hu : Url.parse (Storage.withoutSlashes w.url ++ root ++ path) = some u)
    (htarget : request.target = (u.withParameters (("op", operation) :: parameters)).target) :
    Addresses e path operation request ↔ IsLiteral (root ++ path).toList := by
  have hpath := Http.Request.path_eq hu htarget
  have hparameters := Http.Request.parameters_eq hu htarget
  rw [parse_request] at hu
  have hbytes : Utf8.encode (root ++ path) = bytesOf ('/' :: belowRoot path) := by
    rw [Utf8.encode_eq, toList_root_append]
  rw [toList_root_append]
  constructor
  · intro h
    have hread := h.path
    rw [hpath, hbytes] at hread
    exact (Url.unescape_below_iff hbase hu).1 hread
  · intro h
    refine ⟨?_, ?_⟩
    · rw [hpath, hbytes]
      exact (Url.unescape_below_iff hbase hu).2 h
    · rw [hparameters, (Url.segments_below hbase hu h).2]
      rfl

/-- A call asks one question, for its operation, unless it is an upload of a file that cannot be
read. -/
lemma exists_inquiry {r : Except DeployError call.Value}
    (hbase : IsBase (Storage.withoutSlashes w.url) e)
    (hrun : Ends (w.answer content call).run c r) :
    (c = [] ∧ ∃ fault localPath path, content = .error fault ∧ call = .upload localPath path) ∨
      ∃ u request parameters, Http.inquiries c = [request] ∧
        Url.parse (Storage.withoutSlashes w.url ++ root ++ call.path) = some u ∧
          request.target = (u.withParameters (("op", call.operation) :: parameters)).target := by
  rcases ends_answer_cases hrun with
    hnone | ⟨method, parameters, c₁, c₂, response, rfl, hfirst, hrest⟩
  · exact .inl hnone
  · obtain ⟨u, hu⟩ :
        ∃ u, Url.parse (Storage.withoutSlashes w.url ++ root ++ call.path) = some u := by
      rw [parse_request]
      exact ⟨_, Url.parse_below hbase (belowRoot call.path)⟩
    have hone := Http.inquiries_of_ends_send hu hfirst
    rw [Http.inquiries_append, hrest, List.append_nil]
    exact .inr ⟨u, _, _, hone, hu, rfl⟩

/-- **Which files WebHDFS is asked about**, if the URL of the name node is that of a directory.

* Every call asks one question, unless it is an upload of a file that cannot be read; then nothing
  is said at all. The question is for the operation of the call on its path exactly if the path is
  literal.
* Calls about different paths ask about different paths, if these are literal.
* The path of a staged file is literal exactly if that of its directory is, and the name behind a
  slash. -/
theorem answer_addresses_iff (w : WebHdfs) (e : Url)
    (hbase : IsBase (Storage.withoutSlashes w.url) e) :
    (∀ content call c r, Ends (w.answer content call).run c r →
      (c = [] ∧ ∃ fault localPath path, content = .error fault ∧ call = .upload localPath path) ∨
        ∃ request, Http.inquiries c = [request] ∧
          (Addresses e call.path call.operation request ↔
            IsLiteral (root ++ call.path).toList)) ∧
    (∀ content call c r content' call' c' r', Ends (w.answer content call).run c r →
      Ends (w.answer content' call').run c' r' →
      IsLiteral (root ++ call.path).toList → IsLiteral (root ++ call'.path).toList →
        ∀ request ∈ Http.inquiries c, ∀ request' ∈ Http.inquiries c',
          request.path = request'.path → call.path = call'.path) ∧
    ∀ home label id name,
      IsLiteral (root ++ Storage.remotePath (Storage.stagingDir home label id) name).toList ↔
        IsLiteral (root ++ Storage.stagingDir home label id).toList ∧
          IsLiteral ('/' :: name.toList) := by
  refine ⟨fun content call c r hrun => ?_,
    fun content call c r content' call' c' r' hrun hrun' hliteral hliteral' request hrequest
      request' hrequest' hsame => ?_,
    fun home label id name => ?_⟩
  · rcases exists_inquiry hbase hrun with hnone | ⟨u, request, parameters, hone, hu, htarget⟩
    · exact .inl hnone
    · exact .inr ⟨request, hone, addresses_iff hbase hu htarget⟩
  · rcases exists_inquiry hbase hrun with ⟨rfl, -⟩ | ⟨u, x, parameters, hone, hu, htarget⟩
    · exact absurd hrequest List.not_mem_nil
    rcases exists_inquiry hbase hrun' with ⟨rfl, -⟩ | ⟨u', x', parameters', hone', hu', htarget'⟩
    · exact absurd hrequest' List.not_mem_nil
    rw [hone, List.mem_singleton] at hrequest
    rw [hone', List.mem_singleton] at hrequest'
    subst hrequest hrequest'
    -- each request is read as the path of its call, behind the same directory
    have hread := ((addresses_iff hbase hu htarget).2 hliteral).path
    rw [hsame, ((addresses_iff hbase hu' htarget').2 hliteral').path, List.append_right_inj,
      Utf8.encode_eq, Utf8.encode_eq] at hread
    have hpath := Utf8.bytesOf_injective hread
    rw [String.toList_append, String.toList_append, List.append_right_inj] at hpath
    exact (String.toList_inj.1 hpath).symm
  · have hname : (root ++ Storage.remotePath (Storage.stagingDir home label id) name).toList =
        (root ++ Storage.stagingDir home label id).toList ++ '/' :: name.toList := by
      rw [Storage.remotePath_stagingDir]
      simp
    rw [hname]
    refine Url.isLiteral_append_iff fun c hc => ?_
    rw [String.toList_append, Storage.toList_stagingDir, ← List.append_assoc,
      List.getLast?_append_of_ne_nil _ (List.cons_ne_nil _ _),
      List.getLast?_cons_of_ne_nil id.display_ne_nil] at hc
    exact Url.isEnd_of_isDigit (ApplicationId.isDigit_of_mem_getLast? hc)

/-! ## A name node without a directory -/

/-- The question where to write a file is the only one of an upload. -/
lemma inquiries_of_ends_upload {bytes : Bytes} {r : Except DeployError Unit}
    (question : Http.Server × String)
    (hquestion : (Url.parse (Storage.withoutSlashes w.url ++ root ++ path)).map (fun u =>
      (u.server, (u.withParameters w.createParameters).target)) = some question)
    (hrun : Ends (w.upload path bytes).run c r) :
    Http.inquiries c = [⟨question.1, "PUT", question.2, none⟩] := by
  obtain ⟨u, hu, rfl⟩ := Option.map_eq_some_iff.1 hquestion
  obtain ⟨c₁, c₂, response, rfl, hcreate, hrest⟩ := ends_upload_iff.1 hrun
  have hone := Http.inquiries_of_ends_send hu hcreate
  have hnil : Http.inquiries c₂ = [] := by
    rcases hrest with ⟨_, -, rfl, -⟩ | ⟨location, response', -, hwrite, -⟩
    · rfl
    · exact Http.inquiries_of_ends_send_some hwrite
  rw [Http.inquiries_append, hnil, List.append_nil]
  exact hone

/-- The directory of a name node without one. -/
def rootUrl : Url :=
  ⟨⟨.name "nn", 80⟩, [[]], none⟩

/-- A file with a usual name is asked about by its path. -/
theorem answer_addresses_iff_of_usual_name :
    ∃ request, Http.inquiries (saidOnce 201) = [request] ∧
      Addresses rootUrl "/u/a.jar" "CREATE" request := by
  have hbase : IsBase (Storage.withoutSlashes "http://nn") rootUrl := by
    have htext : Storage.withoutSlashes "http://nn" = "http://nn" := by decide +kernel
    rw [htext]
    exact ⟨by decide +kernel, by decide, by decide⟩
  have hliteral : IsLiteral (root ++ "/u/a.jar").toList :=
    Url.isLiteral_of_all (by decide +kernel) (by decide +kernel)
  have hrun := ends_saidOnce 201 (by decide)
  rcases (answer_addresses_iff ⟨"http://nn", none⟩ rootUrl hbase).1 _ _ _ _ hrun with
    ⟨-, _, _, _, hcontent, -⟩ | ⟨request, hone, hiff⟩
  · exact nomatch hcontent
  · exact ⟨request, hone, hiff.2 hliteral⟩

/-- **Two files with different names may be the same for a name node**: with the names `lib#1.jar`
and `lib#2.jar`, which can both be staged, the same question is asked where to write them, and it is
about neither. -/
theorem answer_confusesNames :
    Config.IsStagingPrefix "jobcluster" ∧ Staging.isName "lib#1.jar" = true ∧
      Staging.isName "lib#2.jar" = true ∧
      ∃ request, ∀ name ∈ ["lib#1.jar", "lib#2.jar"],
        ¬Addresses rootUrl (Storage.remotePath (Storage.stagingDir "/u" "jobcluster" ⟨1, 1⟩) name)
            "CREATE" request ∧
          ∀ bytes c r, Ends ((⟨"http://nn", none⟩ : WebHdfs).answer (.ok bytes) (.upload "a.jar"
            (Storage.remotePath (Storage.stagingDir "/u" "jobcluster" ⟨1, 1⟩) name))).run c r →
              Http.inquiries c = [request] := by
  let target := "/webhdfs/v1/u/.jobcluster/application_1_0001/lib?op=CREATE&overwrite=true" ++
    "&noredirect=true"
  refine ⟨⟨[], _, rfl, rfl⟩, by decide, by decide, ⟨⟨.name "nn", 80⟩, "PUT", target, none⟩, ?_⟩
  rw [List.forall_mem_cons, List.forall_mem_singleton]
  refine ⟨⟨fun h => ?_, fun bytes c r hrun => ?_⟩, ⟨fun h => ?_, fun bytes c r hrun => ?_⟩⟩
  · exact absurd h.path (by decide +kernel)
  · exact inquiries_of_ends_upload (⟨.name "nn", 80⟩, target) (by decide +kernel) hrun
  · exact absurd h.path (by decide +kernel)
  · exact inquiries_of_ends_upload (⟨.name "nn", 80⟩, target) (by decide +kernel) hrun

end WebHdfs

end ClusterDeploy
