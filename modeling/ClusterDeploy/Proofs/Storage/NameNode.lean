import ClusterDeploy.Proofs.Json.Rewriting
import ClusterDeploy.Proofs.Platform.Conversations
import ClusterDeploy.Proofs.Staging.Traces
import ClusterDeploy.Storage.WebHdfs

set_option relaxedAutoImplicit false
set_option autoImplicit false

/-!
# What a name node may answer

Nothing that WebHDFS tells is checked against anything: for every call and every value there is a
conversation with the name node after which the call gives this value. So the work of an operation
may be told anything by this storage.

## Main definitions

* `Work.Sees` — answers about local files that do not change.
* `WebHdfs.CanAsk` — paths about which the name node can be asked.
* `WebHdfs.Serves` — work whose calls of the storage are answered by WebHDFS.

## Main results

* `WebHdfs.exists_ends_answer` — a call may give any value.
* `WebHdfs.exists_serves` — work may be told anything.
-/

namespace ClusterDeploy

open Dialogue (Ends)

/-! ## Documents that are read -/

namespace Json

variable {depth : Nat}

/-- The field of a record that has one field. -/
lemma only_written {α : Type} (name : String) (read : Reader α) (value : Json) :
    only name read (depth + 1) (Json.object [(name, value)]).written =
      read depth value.written := by
  rw [only, record, slots_written (List.nodup_cons.2 ⟨List.not_mem_nil, .nil⟩)
    (List.pairwise_singleton _ _)]
  simp [get?, required]

/-- A text is read back from its document. -/
lemma text_written (s : String) : text depth (Json.string s).written = some s :=
  text?_pieces s

/-- A number below the bound is read. -/
lemma naturalBelow_written {n bound : Nat} (hn : n < bound) :
    naturalBelow bound depth (Json.number (.natural n)).written = some n := by
  simp [written, Number.numeral, naturalBelow, Numeral.isWhole, hn]

/-- A body that is the text of a value is read. -/
lemma readBody_compact {α : Type} (read : Reader α) (value : Json) :
    Http.readBody read (Utf8.encode value.compact) = read maxDepth value.written := by
  rw [Http.readBody, Http.bodyText, Utf8.decodeLossy_encode, readWhole, read_compact,
    Option.bind_some]

end Json

/-! ## Calls -/

namespace Storage.Call

/-- The path that a call is about. -/
def path : Call → String
  | .homeDirectory | .defaultReplication => "/"
  | .upload _ path | .setReplication path _ | .stat path | .deleteRecursive path => path

/-- The content of the local file that a call writes. -/
def content (fs : FileSystem) : Call → Except FileFault Bytes
  | .upload localPath _ => fs.read localPath
  | _ => .ok []

end Storage.Call

/-- Answers about local files that do not change. -/
def Work.Sees (fs : FileSystem) : Work.Exchange → Prop
  | ⟨.isFile path, there⟩ => there = fs.isFile path
  | ⟨.digest path, digest⟩ => digest = (fs.read path).map Sha256.hex
  | _ => True

namespace WebHdfs

variable {w : WebHdfs} {fs : FileSystem} {path method operation : String}
  {parameters : List (String × String)}

/-- A path about which the name node can be asked: the URL can be read. -/
def CanAsk (w : WebHdfs) (path : String) : Prop :=
  (Url.parse (Storage.withoutSlashes w.url ++ root ++ path)).isSome = true

/-- A request under a path for which the name node can be asked may get any reply. -/
lemma exists_ends_request (hask : w.CanAsk path) (method operation : String)
    (parameters : List (String × String)) (reply : Http.Reply) :
    ∃ c, Ends (w.request method path operation parameters) c (.ofReply reply) :=
  Http.exists_ends_send hask _ _ _ reply

/-- A value is fetched from a document in which it is read. -/
lemma ends_fetch {α : Type} {read : Json.Reader α} {value : Json} {a : α} {c : Http.Conversation}
    (hrun : Ends (w.request method path operation parameters) c
      (.success (some (Utf8.encode value.compact))))
    (hread : read Json.maxDepth value.written = some a) :
    Ends (w.fetch read method path operation parameters).run c (.ok a) := by
  refine Dialogue.ends_bind_pure_iff.2 ⟨_, hrun, ?_⟩
  rw [readResponse, Json.readBody_compact, hread]

/-- Any value may be told by the name node if it is read back from its document. -/
lemma exists_ends_fetch {α : Type} {read : Json.Reader α} {a : α} (hask : w.CanAsk path)
    (method operation : String) (parameters : List (String × String)) (value : Json)
    (hread : read Json.maxDepth value.written = some a) :
    ∃ c, Ends (w.fetch read method path operation parameters).run c (.ok a) := by
  obtain ⟨c, hrun⟩ := exists_ends_request hask method operation parameters
    (.answered 200 (some (Utf8.encode value.compact)))
  exact ⟨c, ends_fetch hrun hread⟩

/-- The status of a file as a document. -/
def statusDocument (status : FileStatus) : Json :=
  .object [("FileStatus", .object [("length", .number (.natural status.len.toNat)),
    ("modificationTime", .number (.natural status.modificationTime.toNat)),
    ("replication", .number (.natural status.replication.toNat))])]

/-- Any status is read in its document. -/
lemma statusReader_written (status : FileStatus) :
    statusReader Json.maxDepth (statusDocument status).written = some status := by
  have hlen := @Json.naturalBelow_written 125 _ _ status.len.toNat_lt_size
  have hreplication := @Json.naturalBelow_written 125 _ _ status.replication.toNat_lt_size
  have htime := @Json.naturalBelow_written 125 _ _ status.modificationTime.toNat_lt_size
  have hascend : [("length", Json.number (.natural status.len.toNat)),
      ("modificationTime", .number (.natural status.modificationTime.toNat)),
      ("replication", .number (.natural status.replication.toNat))].Pairwise
        fun m n => m.1 < n.1 := by
    simp only [List.pairwise_cons, List.forall_mem_cons, List.not_mem_nil, false_imp_iff,
      implies_true, and_true, List.Pairwise.nil]
    decide +kernel
  rw [statusReader, statusDocument, Json.maxDepth, Json.only_written, Json.record,
    Json.slots_written (by decide) hascend]
  simp only [Json.get?, List.map_cons, List.map_nil]
  simp [Json.required, Json.defaulted, hlen, hreplication, htime]

/-- A file of which a status was told is there, with this status. -/
lemma ends_stat {status : FileStatus} {c : Http.Conversation}
    (hrun : Ends (w.request "GET" path "GETFILESTATUS" []) c
      (.success (some (Utf8.encode (statusDocument status).compact)))) :
    Ends (w.stat path).run c (.ok (some status)) := by
  refine Dialogue.ends_bind_iff.2 ⟨c, [], _, (List.append_nil c).symm, hrun, ?_⟩
  simp [readResponse, Json.readBody_compact, statusReader_written, Except.map]

/-- **A call may give any value**, if the name node can be asked about its path, and a local file
that is to be written can be read.

**Proof sketch.** The name node answers with the document of the value, or, if there is no file,
that it did not find one. Where to send the content of a file is up to the name node. -/
lemma exists_ends_answer {call : Storage.Call} (hask : w.CanAsk call.path) (content : Bytes)
    (value : call.Value) : ∃ c, Ends (w.answer (.ok content) call).run c (.ok value) := by
  cases call with
  | homeDirectory =>
    exact exists_ends_fetch hask _ _ _ (.object [("Path", .string value)])
      ((Json.only_written "Path" _ _).trans (Json.text_written value))
  | defaultReplication =>
    obtain ⟨c, hrun⟩ := exists_ends_fetch hask "GET" "GETSERVERDEFAULTS" []
      (.object [("FsServerDefaults", .object [("replication", .number (.natural value.toNat))])])
      ((Json.only_written "FsServerDefaults" _ _).trans
        ((Json.only_written "replication" _ _).trans
          (Json.naturalBelow_written (UInt16.toNat_lt_size value))))
    refine ⟨c ++ [], Dialogue.ends_run_bind_ok_iff.2 ⟨c, [], _, rfl, hrun, ?_⟩⟩
    exact Dialogue.ends_run_pure_iff.2 ⟨rfl, by rw [UInt16.ofNat_toNat]⟩
  | upload localPath path =>
    let location := Storage.withoutSlashes w.url ++ root ++ path
    obtain ⟨c, hrun⟩ := exists_ends_fetch hask "PUT" "CREATE"
      [("overwrite", "true"), ("noredirect", "true")] (.object [("Location", .string location)])
      ((Json.only_written "Location" _ _).trans (Json.text_written location))
    obtain ⟨sent, hsent⟩ := Http.exists_ends_send hask "PUT" [] (some (contentOf content))
      (.answered 201 none)
    exact ⟨c ++ (sent ++ []), Dialogue.ends_run_bind_ok_iff.2 ⟨c, _, location, rfl, hrun,
      Dialogue.ends_run_lift_bind_iff.2 ⟨sent, [], _, rfl, hsent, .done _⟩⟩⟩
  | setReplication path factor =>
    obtain ⟨c, hrun⟩ := exists_ends_fetch hask "PUT" "SETREPLICATION"
      [("replication", String.ofList (Text.decimal factor.toNat))]
      (.object [("boolean", .bool true)]) (Json.only_written "boolean" Json.truth _)
    exact ⟨c ++ [], Dialogue.ends_run_bind_ok_iff.2 ⟨c, [], true, rfl, hrun, .done _⟩⟩
  | stat path =>
    cases value with
    | none =>
      obtain ⟨c, hrun⟩ := exists_ends_request hask "GET" "GETFILESTATUS" [] (.answered 404 none)
      exact ⟨c ++ [], Dialogue.ends_bind_iff.2 ⟨c, [], _, rfl, hrun, .done _⟩⟩
    | some status =>
      obtain ⟨c, hrun⟩ := exists_ends_request hask "GET" "GETFILESTATUS" []
        (.answered 200 (some (Utf8.encode (statusDocument status).compact)))
      exact ⟨c, ends_stat hrun⟩
  | deleteRecursive path =>
    exact exists_ends_fetch hask _ _ _ (.object [("boolean", .bool value)])
      (Json.only_written "boolean" Json.truth _)

/-! ## Work -/

/-- Work whose calls of the storage are answered by WebHDFS, one after the other, with what was said
to the name node meanwhile. The local files do not change. -/
inductive Serves (w : WebHdfs) (fs : FileSystem) :
    Http.Conversation → List Work.Exchange → Prop where
  | done : Serves w fs [] []
  | storage {call : Storage.Call} {result : Except DeployError call.Value}
      {said later : Http.Conversation} {t : List Work.Exchange} :
    Ends (w.answer (call.content fs) call).run said result → Serves w fs later t →
    Serves w fs (said ++ later) (⟨.storage call, result.mapError .failed⟩ :: t)
  | isFile {path : String} {later : Http.Conversation} {t : List Work.Exchange} :
    Serves w fs later t → Serves w fs later (⟨.isFile path, fs.isFile path⟩ :: t)
  | digest {path : String} {later : Http.Conversation} {t : List Work.Exchange} :
    Serves w fs later t → Serves w fs later (⟨.digest path, (fs.read path).map Sha256.hex⟩ :: t)

/-- What WebHDFS may be asked, and what it may answer then. -/
def CanAnswer (w : WebHdfs) (fs : FileSystem) : Work.Exchange → Prop
  | ⟨.storage call, .ok _⟩ => w.CanAsk call.path ∧ ∃ content, call.content fs = .ok content
  | ⟨.storage _, .error _⟩ | ⟨.platform _, _⟩ | ⟨.ledger _, _⟩ => False
  | x => Work.Sees fs x

/-- **Work may be told anything** by a name node. -/
lemma exists_serves {t : List Work.Exchange} (h : ∀ x ∈ t, w.CanAnswer fs x) :
    ∃ c, w.Serves fs c t := by
  induction t with
  | nil => exact ⟨[], .done⟩
  | cons x t ih =>
    obtain ⟨hx, ht⟩ := List.forall_mem_cons.1 h
    obtain ⟨later, hlater⟩ := ih ht
    obtain ⟨q, answer⟩ := x
    cases q with
    | storage call =>
      cases answer with
      | error mishap => exact hx.elim
      | ok value =>
        obtain ⟨hask, content, hcontent⟩ := hx
        obtain ⟨c, hrun⟩ := exists_ends_answer hask content value
        exact ⟨c ++ later, .storage (hcontent ▸ hrun) hlater⟩
    | platform call => exact hx.elim
    | ledger call => exact hx.elim
    | isFile path =>
      obtain rfl : answer = _ := hx
      exact ⟨later, .isFile hlater⟩
    | digest path =>
      obtain rfl : answer = _ := hx
      exact ⟨later, .digest hlater⟩

/-- The local files do not change. -/
lemma Serves.sees {c : Http.Conversation} {t : List Work.Exchange} (h : w.Serves fs c t) :
    ∀ x ∈ t, Work.Sees fs x := by
  induction h with
  | done => exact List.forall_mem_nil _
  | storage _ _ ih => exact List.forall_mem_cons.2 ⟨trivial, ih⟩
  | isFile _ ih => exact List.forall_mem_cons.2 ⟨rfl, ih⟩
  | digest _ ih => exact List.forall_mem_cons.2 ⟨rfl, ih⟩

end WebHdfs

end ClusterDeploy
