import ClusterDeploy.Proofs.Json.Values
import ClusterDeploy.Proofs.Platform.Startup

set_option relaxedAutoImplicit false
set_option autoImplicit false

/-!
# The request for a cluster

A cluster is asked for with a document, which names the files that it starts from. What a reader
makes of the bytes that are sent is what was meant: the artifacts in their order, with their names,
places, sizes and times.

## Main definitions

* `ResourceManager.LocalResource` — a file that a cluster starts from.
* `ResourceManager.localResources?` — the files that are named in the bytes of a document.
* `ResourceManager.AsksFor` — a conversation in which at most one cluster is asked for.

## Main results

* `ResourceManager.localResources?_submission` — the files in the request for a cluster.
* `ResourceManager.asksFor_of_reaches` — the conversations in which a cluster is created.
* `ResourceManager.exists_submission_of_ends` — a cluster is asked for if its creation ends.
-/

namespace ClusterDeploy.ResourceManager

open Dialogue (Ends Reaches)
open Json (Canonical)

/-- A file that a cluster starts from. -/
structure LocalResource where
  /-- The name that it has for the cluster. -/
  key : String
  /-- Where it lies. -/
  resource : String
  size : Nat
  timestamp : Nat
  deriving DecidableEq, Repr

namespace LocalResource

/-- The file of an artifact. -/
def ofArtifact (rm : ResourceManager) (a : StagedArtifact) : LocalResource where
  key := a.entry.remoteName
  resource := Storage.withoutSlashes rm.storageUri ++ a.remotePath
  size := a.len.toNat
  timestamp := a.modificationTime.toNat

/-- The file that an entry of a document names. -/
def ofJson? (doc : Json) : Option LocalResource := do
  let .string key ← doc.get? "key" | none
  let value ← doc.get? "value"
  let .string resource ← value.get? "resource" | none
  let .number (.natural size) ← value.get? "size" | none
  let .number (.natural timestamp) ← value.get? "timestamp" | none
  return ⟨key, resource, size, timestamp⟩

end LocalResource

/-- The files that are named in the bytes of a document, in order. -/
def localResources? (bytes : Bytes) : Option (List LocalResource) := do
  let doc ← Json.parse bytes
  let spec ← doc.get? "am-container-spec"
  let resources ← spec.get? "local-resources"
  let .array entries ← resources.get? "entry" | none
  entries.mapM LocalResource.ofJson?

/-- In a conversation at most one cluster is asked for, before anything else is said, and it starts
from these files. It is asked for if the URL of the resource manager can be read. -/
structure AsksFor (rm : ResourceManager) (resources : List LocalResource)
    (said : Http.Conversation) : Prop where
  body : ∀ x ∈ said, ∀ server target bytes,
    x.question = .exchange ⟨server, "POST", target, some ⟨"application/json", bytes⟩⟩ →
      localResources? bytes = some resources
  only : ∀ x ∈ said.tail, ¬IsSubmission x
  first : (Url.parse (rm.clusterUrl "/apps")).isSome = true → ∀ x ∈ said.head?, IsSubmission x

variable {rm : ResourceManager} {request : ClusterRequest} {c : Http.Conversation} {depth : Nat}

/-! ## The document -/

/-- The number in a field of 64 bits can be read back. -/
lemma canonical_number (n : UInt64) : Canonical depth (number n.toNat) :=
  .natural n.toNat_lt

/-- The document of a staged artifact is written in the form in which it is read. -/
lemma canonical_localResource (a : StagedArtifact) :
    Canonical (depth + 2) (rm.localResource a) := by
  have hvalue : Canonical (depth + 1) (object [
      ("resource", .string (Storage.withoutSlashes rm.storageUri ++ a.remotePath)),
      ("type", .string "FILE"), ("visibility", .string "APPLICATION"),
      ("size", number a.len.toNat), ("timestamp", number a.modificationTime.toNat)]) := by
    refine Json.canonical_object ?_
    simp [Canonical.string, canonical_number]
  refine Json.canonical_object ?_
  simp [Canonical.string, hvalue]

/-- The request for a cluster can be read back. -/
lemma canonical_submission : Canonical (depth + 6) (rm.submission request) := by
  have hentry : ∀ key value : String,
      Canonical (depth + 2) (object [("key", .string key), ("value", .string value)]) := by
    intro key value
    refine Json.canonical_object ?_
    simp [Canonical.string]
  have hresources : Canonical (depth + 4)
      (object [("entry", .array (request.artifacts.map rm.localResource))]) := by
    refine Json.canonical_object (List.forall_mem_singleton.2 (.array ?_))
    exact List.forall_mem_map.2 fun a _ => canonical_localResource a
  have henvironment : Canonical (depth + 4) (object [("entry", .array
      ((environment request).map fun m =>
        object [("key", .string m.1), ("value", .string m.2)]))]) := by
    refine Json.canonical_object (List.forall_mem_singleton.2 (.array ?_))
    exact List.forall_mem_map.2 fun m _ => hentry m.1 m.2
  have hcommands : Canonical (depth + 4) (object [("command", .string rm.launchCommand)]) :=
    Json.canonical_object (List.forall_mem_singleton.2 .string)
  have hspec : Canonical (depth + 5) (object [
      ("local-resources", object [("entry", .array (request.artifacts.map rm.localResource))]),
      ("environment", object [("entry", .array ((environment request).map fun m =>
        object [("key", .string m.1), ("value", .string m.2)]))]),
      ("commands", object [("command", .string rm.launchCommand)])]) := by
    refine Json.canonical_object ?_
    simp [hresources, henvironment, hcommands]
  have hresource : Canonical (depth + 5) (object [
      ("memory", number request.specification.masterMemoryMb.toNat), ("vCores", number 1)]) := by
    refine Json.canonical_object ?_
    simp [canonical_number, show Canonical (depth + 4) (number 1) from .natural (by decide)]
  refine Json.canonical_object (List.forall_mem_append.2 ⟨?_, ?_⟩)
  · exact List.forall_mem_map.2 fun _ _ => .string
  · simp [Canonical.string, Canonical.bool, hspec, hresource,
      show Canonical (depth + 5) (number 1) from .natural (by decide)]

/-- The file that the entry of an artifact names. -/
lemma ofJson?_localResource (a : StagedArtifact) :
    LocalResource.ofJson? (rm.localResource a) = some (.ofArtifact rm a) := by
  simp [LocalResource.ofJson?, localResource, object, Json.membersOf, Json.get?,
    Json.find?_insertMember, LocalResource.ofArtifact, number]

/-- **The files in the request for a cluster** are the artifacts, in their order. -/
lemma localResources?_submission :
    localResources? (Utf8.encode (rm.submission request).compact) =
      some (request.artifacts.map (.ofArtifact rm)) := by
  have hparse : Json.parse (Utf8.encode (rm.submission request).compact) =
      some (rm.submission request) :=
    Json.parse_compact (canonical_submission : Canonical (121 + 6) _)
  have hentries : (request.artifacts.map rm.localResource).mapM LocalResource.ofJson? =
      some (request.artifacts.map (.ofArtifact rm)) :=
    Json.mapM_map_eq_some fun a _ => ofJson?_localResource a
  rw [localResources?, hparse]
  simp [submission, object, Json.membersOf, Json.get?, Json.find?_insertMember, List.foldl_append,
    hentries]

/-! ## The conversation -/

/-- An attempt to kill a cluster asks for none. -/
lemma not_isSubmission_of_ends_kill {id : ApplicationId} {r : Except DeployError Unit}
    (hrun : Ends (rm.kill id).run c r) : ∀ x ∈ c, ¬IsSubmission x := by
  obtain ⟨response, hsend, -⟩ := ends_kill_iff.1 hrun
  exact not_isSubmission_of_ends_send (.inl (by decide)) hsend

/-- While a cluster comes up no other one is asked for.

**Proof sketch.** Induction on the time that is left; each round is a report and a pause. -/
lemma not_isSubmission_of_ends_awaitRunning {remaining : Millis} {r : Except DeployError String}
    (hrun : Ends (rm.awaitRunning request remaining) c r) : ∀ x ∈ c, ¬IsSubmission x := by
  induction remaining using Nat.strongRecOn generalizing c with
  | ind remaining ih =>
    rw [awaitRunning_eq] at hrun
    obtain ⟨c₁, c₂, ⟨took, response⟩, rfl, hreport, hrest⟩ := Dialogue.ends_bind_iff.1 hrun
    refine List.forall_mem_append.2
      ⟨not_isSubmission_of_ends_send (.inl (by decide)) (Http.ends_send_iff.2 ⟨took, hreport⟩), ?_⟩
    rcases hverdict : verdict? request remaining took response with _ | outcome
    · obtain ⟨report, -, -, hlt⟩ := verdict?_eq_none_iff.1 hverdict
      simp only [hverdict] at hrest
      obtain ⟨paused, tail, rfl, htail⟩ := Dialogue.ends_question_bind_iff.1 hrest
      refine List.forall_mem_cons.2 ⟨?_, ih _ (remaining_lt rm hlt) htail⟩
      rintro ⟨server, target, bytes, hquestion⟩
      exact nomatch hquestion
    · simp only [hverdict] at hrest
      obtain ⟨rfl, -⟩ := Dialogue.ends_pure_iff.1 hrest
      exact fun _ hx => absurd hx List.not_mem_nil

/-- A cluster is asked for in one request; nothing that follows asks for another one. -/
lemma exists_of_ends_createCluster {r : Except DeployError ClusterHandle}
    (hrun : Ends (rm.createCluster request).run c r) :
    ∃ first rest response, c = first ++ rest ∧
      Ends (Http.send "POST" (rm.clusterUrl "/apps") []
        (some (contentOf (rm.submission request)))) first response ∧
      ∀ x ∈ rest, ¬IsSubmission x := by
  unfold createCluster at hrun
  obtain ⟨first, rest, response, rfl, hsend, hrest⟩ := Dialogue.ends_run_lift_bind_iff.1 hrun
  refine ⟨first, rest, response, rfl, hsend, ?_⟩
  rcases response with _ | ⟨status, body⟩ | body
  · obtain ⟨c₁, c₂, killed, rfl, hkill, hthrow⟩ := Dialogue.ends_run_lift_bind_iff.1 hrest
    obtain ⟨rfl, -⟩ := Dialogue.ends_run_throw_iff.1 hthrow
    rw [List.append_nil]
    exact not_isSubmission_of_ends_kill hkill
  · obtain ⟨rfl, -⟩ := Dialogue.ends_run_throw_iff.1 hrest
    exact fun _ hx => absurd hx List.not_mem_nil
  · obtain ⟨c₁, c₂, started, rfl, hawait, hfinish⟩ := Dialogue.ends_run_lift_bind_iff.1 hrest
    refine List.forall_mem_append.2 ⟨not_isSubmission_of_ends_awaitRunning hawait, ?_⟩
    cases started with
    | ok url =>
      obtain ⟨rfl, -⟩ := Dialogue.ends_run_pure_iff.1 hfinish
      exact fun _ hx => absurd hx List.not_mem_nil
    | error e =>
      obtain ⟨c₃, c₄, killed, rfl, hkill, hthrow⟩ := Dialogue.ends_run_lift_bind_iff.1 hfinish
      obtain ⟨rfl, -⟩ := Dialogue.ends_run_throw_iff.1 hthrow
      rw [List.append_nil]
      exact not_isSubmission_of_ends_kill hkill

/-- What was said up to some point asks for no more than all that was said. -/
lemma AsksFor.of_append {resources : List LocalResource} {later : Http.Conversation}
    (h : rm.AsksFor resources (c ++ later)) : rm.AsksFor resources c := by
  refine ⟨fun x hx => h.body x (List.mem_append_left later hx), ?_, ?_⟩
  · cases c with
    | nil => exact fun _ hx => absurd hx List.not_mem_nil
    | cons x c => exact fun y hy => h.only y (List.mem_append_left later hy)
  · cases c with
    | nil => exact fun _ _ hx => absurd hx (by simp)
    | cons x c => exact h.first

/-- The document that is sent while a cluster is created is the request for it. -/
lemma bytes_of_ends_createCluster {r : Except DeployError ClusterHandle}
    (hrun : Ends (rm.createCluster request).run c r) : ∀ x ∈ c, ∀ server target bytes,
      x.question = .exchange ⟨server, "POST", target, some ⟨"application/json", bytes⟩⟩ →
        bytes = Utf8.encode (rm.submission request).compact := by
  obtain ⟨first, rest, response, rfl, hsend, hrest⟩ := exists_of_ends_createCluster hrun
  refine List.forall_mem_append.2 ⟨?_, fun x hx server target bytes hquestion =>
    absurd ⟨server, target, bytes, hquestion⟩ (hrest x hx)⟩
  obtain ⟨took, hsend⟩ := Http.ends_send_iff.1 hsend
  rcases Http.ends_sendTimed_iff.1 hsend with ⟨-, rfl, -⟩ | ⟨u, reply, -, -, rfl⟩
  · exact List.forall_mem_nil _
  · refine List.forall_mem_singleton.2 fun server target bytes hquestion => ?_
    obtain ⟨-, -, -, hcontent⟩ := Http.Request.mk.inj (Http.Question.exchange.inj hquestion)
    exact (Http.Content.mk.inj (Option.some.inj hcontent)).2.symm

/-- A whole conversation in which a cluster is created. -/
lemma asksFor_of_ends {r : Except DeployError ClusterHandle}
    (hrun : Ends (rm.createCluster request).run c r) :
    rm.AsksFor (request.artifacts.map (.ofArtifact rm)) c := by
  have hbody : ∀ x ∈ c, ∀ server target bytes,
      x.question = .exchange ⟨server, "POST", target, some ⟨"application/json", bytes⟩⟩ →
        localResources? bytes = some (request.artifacts.map (.ofArtifact rm)) :=
    fun x hx server target bytes hquestion => by
      rw [bytes_of_ends_createCluster hrun x hx server target bytes hquestion]
      exact localResources?_submission
  obtain ⟨first, rest, response, rfl, hsend, hrest⟩ := exists_of_ends_createCluster hrun
  obtain ⟨took, hsend⟩ := Http.ends_send_iff.1 hsend
  rcases Http.ends_sendTimed_iff.1 hsend with ⟨hurl, rfl, -⟩ | ⟨u, reply, -, -, rfl⟩
  · refine ⟨hbody, fun x hx => hrest x (List.mem_of_mem_tail hx), fun hsome => ?_⟩
    rw [hurl] at hsome
    exact absurd hsome (by simp)
  · refine ⟨hbody, hrest, fun _ x hx => ?_⟩
    obtain rfl := Option.some.inj hx
    exact ⟨_, _, _, rfl⟩

/-- **A cluster is asked for** whenever its creation comes to an end, if the URL of the resource
manager can be read. -/
lemma exists_submission_of_ends {r : Except DeployError ClusterHandle}
    (hurl : (Url.parse (rm.clusterUrl "/apps")).isSome = true)
    (hrun : Ends (rm.createCluster request).run c r) : ∃ x ∈ c.head?, IsSubmission x := by
  have hasks := (asksFor_of_ends hrun).first hurl
  obtain ⟨first, rest, response, rfl, hsend, -⟩ := exists_of_ends_createCluster hrun
  obtain ⟨took, hsend⟩ := Http.ends_send_iff.1 hsend
  rcases Http.ends_sendTimed_iff.1 hsend with ⟨hnone, -, -⟩ | ⟨u, reply, -, -, rfl⟩
  · rw [hnone] at hurl
    exact absurd hurl Bool.false_ne_true
  · exact ⟨_, rfl, hasks _ rfl⟩

/-- **The conversations in which a cluster is created**, also those that are broken off: the cluster
is asked for once, and it starts from the artifacts of the request. -/
lemma asksFor_of_reaches {left : Http.Client (Except DeployError ClusterHandle)}
    (hreaches : Reaches (rm.createCluster request).run c left) :
    rm.AsksFor (request.artifacts.map (.ofArtifact rm)) c := by
  obtain ⟨later, r, -, hends⟩ := Dialogue.exists_ends_of_reaches hreaches
  exact (asksFor_of_ends hends).of_append

end ClusterDeploy.ResourceManager
