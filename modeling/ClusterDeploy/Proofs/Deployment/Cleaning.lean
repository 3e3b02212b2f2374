import ClusterDeploy.Proofs.Deployment.Stores

set_option relaxedAutoImplicit false
set_option autoImplicit false

/-!
# Cleaned is not gone

Deployments and cleanups are called on one runtime, in any order and at the same time, over a
storage in memory and a ledger. When the ledger has the time of a cleanup in the record of an
application, the files that the record lists need not be gone: a cleanup deletes the directory under
the label that its caller gives, whatever the record says, and reports itself whether or not there
was anything to delete. A listed file is gone exactly if a directory in which it lies was deleted
after it was written for the last time.

## Main definitions

* `Runtime.IsLogOf` — a log in which each call asks what it asks.
* `Runtime.Orderly` — calls one after the other, of which the cleanups name the right label.

## Main results

* `Runtime.run_cleaned` — when a record has the time of a cleanup and when its files are gone.
* `Runtime.run_cleanedNotGone` — a record with the time of a cleanup whose file is there.
-/

namespace ClusterDeploy

open Dialogue (Ends Reaches)
open Ledger (latestVersion)
open MemoryStorage (isBelow)
open Work (AnswersHome Uploads)

namespace Runtime

/-- A log in which each call, as far as it came, asks what it asks. -/
def IsLogOf (calls : Nat → Call) (log : Log) : Prop :=
  ∀ n, (calls n).Asks ((log.filter fun x => x.1 = n).map (·.2))

/-- Calls come one after the other, and the cleanups of an application name the label under which
its artifacts are staged. Its id is given out once. -/
structure Orderly (calls : Nat → Call) (log : Log) (id : ApplicationId) : Prop where
  allocated : ∀ j k, (j, allocated id) ∈ log → (k, allocated id) ∈ log → j = k
  ordered : log.Pairwise fun x y => x.1 ≤ y.1
  labels : ∀ n k label config request, calls n = .cleanup id label →
    calls k = .deploy config request → (k, Runtime.allocated id) ∈ log →
      config.stagingPrefix = label

section Cleaning

variable {calls : Nat → Call} {log : Log} {s t : Stores} {id : ApplicationId} {n : Nat}
  {x : Work.Exchange}

/-- What a call asked is what the log has under its number. -/
lemma mem_asked_iff : x ∈ (log.filter fun x => x.1 = n).map (·.2) ↔ (n, x) ∈ log := by
  simp

namespace IsLogOf

variable (hcalls : IsLogOf calls log) (hrun : Run s log t)

include hcalls hrun

/-- What a deployment asks fits together. -/
lemma deploys {config : Config} {request : DeploymentRequest}
    (hn : calls n = .deploy config request) :
    Deploys config s.storage.home ((log.filter fun x => x.1 = n).map (·.2)) := by
  refine deploys_of_asks (hn ▸ hcalls n) fun x hx => ?_
  exact hrun.answersHome _ (mem_asked_iff.1 hx)

/-- What a cleanup asks fits together. -/
lemma cleans {label : String} (hn : calls n = .cleanup id label) :
    Cleans s.storage.home id label ((log.filter fun x => x.1 = n).map (·.2)) := by
  refine cleans_of_asks (hn ▸ hcalls n) fun x hx => ?_
  exact hrun.answersHome _ (mem_asked_iff.1 hx)

/-- Only cleanups delete. -/
lemma exists_of_removes {path : String} (hx : (n, x) ∈ log) (hremoves : Work.Removes path x) :
    ∃ id label, calls n = .cleanup id label ∧
      x.question = .storage (.deleteRecursive (Storage.stagingDir s.storage.home label id)) ∧
      isBelow (Storage.stagingDir s.storage.home label id) path = true := by
  obtain ⟨dir, answer, rfl, hbelow⟩ := hremoves
  cases hn : calls n with
  | deploy config request =>
    exact absurd rfl ((deploys hcalls hrun hn).removes _ (mem_asked_iff.2 hx) dir)
  | cleanup id label =>
    rcases (cleans hcalls hrun hn).questions _ (mem_asked_iff.2 hx) with h | h | h
    · exact nomatch h
    · obtain rfl := Storage.Call.deleteRecursive.inj (Work.Question.storage.inj h)
      exact ⟨id, label, rfl, rfl, hbelow⟩
    · exact nomatch h

/-- Only cleanups report that something was cleaned up, each after it deleted its directory. -/
lemma exists_of_marked (hx : (n, marked id) ∈ log) :
    ∃ label, calls n = .cleanup id label ∧ ∃ removed, (n, (⟨.storage (.deleteRecursive
      (Storage.stagingDir s.storage.home label id)), .ok removed⟩ : Work.Exchange)) ∈ log := by
  cases hn : calls n with
  | deploy config request =>
    exact absurd rfl ((deploys hcalls hrun hn).marks _ (mem_asked_iff.2 hx) id)
  | cleanup id' label =>
    rcases (cleans hcalls hrun hn).questions _ (mem_asked_iff.2 hx) with h | h | h
    · exact nomatch h
    · exact nomatch h
    · cases h
      obtain ⟨removed, hremoved⟩ := (cleans hcalls hrun hn).marks _ (mem_asked_iff.2 hx) rfl
      exact ⟨label, rfl, removed, mem_asked_iff.1 hremoved⟩

/-- Only deployments write files, each to the directory of its application. -/
lemma exists_of_uploads {path : String} (hx : (n, x) ∈ log) (hupload : Uploads path x) :
    ∃ config request id name, calls n = .deploy config request ∧ (n, allocated id) ∈ log ∧
      Storage.IsFileName name ∧ path =
        Storage.remotePath (Storage.stagingDir s.storage.home config.stagingPrefix id) name := by
  cases hn : calls n with
  | deploy config request =>
    obtain ⟨id, name, hallocated, hname, hpath⟩ :=
      (deploys hcalls hrun hn).uploads _ (mem_asked_iff.2 hx) path hupload
    exact ⟨config, request, id, name, rfl, mem_asked_iff.1 hallocated, hname, hpath⟩
  | cleanup id label =>
    obtain ⟨localPath, rfl⟩ := hupload
    rcases (cleans hcalls hrun hn).questions _ (mem_asked_iff.2 hx) with h | h | h <;>
      exact nomatch h

/-- Only deployments record their start, each with files that it wrote. -/
lemma exists_of_started {jobName : String} {m : Manifest} (hx : (n, started jobName m) ∈ log) :
    ∃ config request, calls n = .deploy config request ∧ (n, allocated m.applicationId) ∈ log ∧
      ∀ a ∈ m.artifacts, (∃ x ∈ log, Uploads a.remotePath x.2) ∧
        ∃ name, Storage.IsFileName name ∧ a.remotePath = Storage.remotePath
          (Storage.stagingDir s.storage.home config.stagingPrefix m.applicationId) name := by
  cases hn : calls n with
  | deploy config request =>
    obtain ⟨hallocated, hwritten⟩ := (deploys hcalls hrun hn).starts _ _ (mem_asked_iff.2 hx)
    refine ⟨config, request, rfl, mem_asked_iff.1 hallocated, fun a ha => ?_⟩
    obtain ⟨⟨y, hy, hupload⟩, hname⟩ := hwritten a ha
    exact ⟨⟨_, mem_asked_iff.1 hy, hupload⟩, hname⟩
  | cleanup id label =>
    rcases (cleans hcalls hrun hn).questions _ (mem_asked_iff.2 hx) with h | h | h <;>
      exact nomatch h

end IsLogOf

/-- Of elements of some kind in a list one is the last. -/
private lemma exists_last {α : Type} {p : α → Prop} {l : List α} (h : ∃ x ∈ l, p x) :
    ∃ before x after, l = before ++ x :: after ∧ p x ∧ ∀ y ∈ after, ¬p y := by
  induction l with
  | nil =>
    obtain ⟨x, hx, -⟩ := h
    exact absurd hx List.not_mem_nil
  | cons z rest ih =>
    by_cases hrest : ∃ x ∈ rest, p x
    · obtain ⟨before, x, after, rfl, hx, hafter⟩ := ih hrest
      exact ⟨z :: before, x, after, rfl, hx, hafter⟩
    · obtain ⟨x, hx, hp⟩ := h
      rcases List.mem_cons.1 hx with rfl | hx
      · exact ⟨[], x, rest, rfl, hp, fun y hy hpy => hrest ⟨y, hy, hpy⟩⟩
      · exact absurd ⟨x, hx, hp⟩ hrest

/-- The stores of a runtime at first: some storage, and a ledger in which nothing was recorded. -/
def Stores.fresh (storage : MemoryStorage) : Stores :=
  ⟨storage, Ledger.migrated [latestVersion]⟩

/-- A fresh ledger remembers no deployment. -/
lemma remembers_fresh (storage : MemoryStorage) :
    Ledger.Remembers (Stores.fresh storage).ledger latestVersion fun _ => none := by
  obtain ⟨version, h⟩ := Ledger.Remembers.empty.serveAll_migrations [latestVersion]
  obtain rfl : version = latestVersion := h.version_eq.symm
  exact h

/-- When a record has the time of a cleanup its application was recorded before that. -/
lemma Run.exists_start_before {storage : MemoryStorage} {before after : Log}
    (hrun : Run (.fresh storage) (before ++ (n, marked id) :: after) t) :
    ∃ x ∈ before, ∃ jobName m, x.2 = started jobName m ∧ m.applicationId = id := by
  obtain ⟨u, hbefore, _ | ⟨hmarked, -⟩⟩ := run_append_iff.1 hrun
  obtain ⟨memory, hu, htells⟩ := hbefore.remembers (remembers_fresh storage)
  obtain ⟨_, -, -, hknown⟩ := hmarked.remembers hu n
  obtain ⟨r, hr⟩ := Option.isSome_iff_exists.1 (hknown id rfl)
  rcases (htells id).artifacts r hr with ⟨x, hx, jobName, m, hstart, hid, -⟩ | ⟨_, hnone, -⟩
  · exact ⟨x, hx, jobName, m, hstart, hid⟩
  · exact nomatch hnone

/-- **When calls come one after the other and name the right label**, a cleanup that is recorded
deletes the files of its application after they were written.

**Proof sketch.** The application was recorded before its cleanup was, by an earlier call. All calls
that write its files were given its id, so they are this one. -/
lemma Orderly.exists_removes {storage : MemoryStorage} {before after : Log} {k : Nat}
    {jobName : String} {m : Manifest} {a : StagedArtifact} {y : Nat × Work.Exchange}
    (horderly : Orderly calls log id) (hcalls : IsLogOf calls log)
    (hrun : Run (.fresh storage) log t) (hmarked : (n, marked id) ∈ log)
    (hstarted : (k, started jobName m) ∈ log) (hid : m.applicationId = id) (ha : a ∈ m.artifacts)
    (hlog : log = before ++ y :: after) (hy : Uploads a.remotePath y.2) :
    ∃ x ∈ after, Work.Removes a.remotePath x.2 := by
  subst hid
  obtain ⟨label, hn, removed, hremoved⟩ := hcalls.exists_of_marked hrun hmarked
  obtain ⟨config, request, hk, hallocated, hwritten⟩ := hcalls.exists_of_started hrun hstarted
  obtain ⟨-, name, hname, hpath⟩ := hwritten a ha
  have hlabel := horderly.labels n k label config request hn hk hallocated
  -- The file was written by the deployment that was recorded.
  obtain ⟨config', request', id', name', hj, hallocated', hname', hpath'⟩ :=
    hcalls.exists_of_uploads hrun (n := y.1) (x := y.2) (by simp [hlog]) hy
  obtain ⟨rfl, -, -⟩ :=
    Storage.place_eq_of_remotePath_eq hname'.2 hname.2 (hpath'.symm.trans hpath)
  have hjk : y.1 = k := horderly.allocated _ _ hallocated' hallocated
  -- An application is known before its cleanup is recorded, so its deployment came first.
  have hkn : k < n := by
    obtain ⟨first, rest, hsplit⟩ := List.append_of_mem hmarked
    have hordered := horderly.ordered
    rw [hsplit] at hrun hordered
    obtain ⟨⟨i, x⟩, hx, jobName', m', hstart, hsame⟩ := hrun.exists_start_before
    obtain rfl : x = started jobName' m' := hstart
    obtain ⟨_, _, hi, hallocated', -⟩ :=
      hcalls.exists_of_started (hsplit ▸ hrun) (show (i, started jobName' m') ∈ log by
        simp [hsplit, hx])
    obtain rfl : i = k := horderly.allocated _ _ (hsame ▸ hallocated') hallocated
    have hle : i ≤ n := (List.pairwise_append.1 hordered).2.2 _ hx _ List.mem_cons_self
    refine Nat.lt_of_le_of_ne hle ?_
    rintro rfl
    exact nomatch hn.symm.trans hi
  have hordered := horderly.ordered
  rw [hlog] at hremoved hordered
  refine ⟨(n, ⟨.storage (.deleteRecursive _), .ok removed⟩), ?_, _, _, rfl, ?_⟩
  · rcases List.mem_append.1 hremoved with hbefore | hrest
    · have hle : n ≤ y.1 := (List.pairwise_append.1 hordered).2.2 _ hbefore _ List.mem_cons_self
      exact absurd (hjk ▸ hle) (Nat.not_le.2 hkn)
    · rcases List.mem_cons.1 hrest with rfl | hafter
      · exact absurd hjk.symm (Nat.ne_of_lt hkn)
      · exact hafter
  · rw [hpath, hlabel]
    exact Storage.isBelow_remotePath

/-- **When a record has the time of a cleanup, and when its files are gone.** Deployments and
cleanups are called, each with its own settings, over a storage in memory and a ledger in which
nothing was recorded; their questions come in any order, and each of them may be broken off. If the
ledger has a record of an application then

1. the record has the time of a cleanup exactly if some cleanup of the application was recorded;
2. every file that it lists was written, and it is gone exactly if after it was written for the last
   time some cleanup deleted a directory in which it lies;
3. so if the calls came one after the other, the id of the application was given out once and its
   cleanups name the label under which it was deployed, the files are gone when the record has the
   time of a cleanup.

**Proof sketch.** What the storage holds at a path and what the ledger has of an application can be
told from the questions and their answers (`Run.file?_eq_none_iff`, `Run.remembers`). Files are
written by deployments only, before they record their start, and deleted by cleanups only, before
they report that. -/
theorem run_cleaned (calls : Nat → Call) (log : Log) (storage : MemoryStorage) (t : Stores)
    (id : ApplicationId) (r : DeploymentRecord) (hcalls : IsLogOf calls log)
    (hrun : Run (.fresh storage) log t)
    (hfound : (Ledger.deployment id).runOn .reading t.ledger = (.ok (some r), t.ledger)) :
    (r.cleanedAt.isSome = true ↔
      ∃ n label, calls n = .cleanup id label ∧ (n, marked id) ∈ log) ∧
    (∀ a ∈ r.artifacts, ∃ before written after, log = before ++ written :: after ∧
      Uploads a.remotePath written.2 ∧ (∀ x ∈ after, ¬Uploads a.remotePath x.2) ∧
      (t.storage.file? a.remotePath = none ↔ ∃ x ∈ after, ∃ id' label,
        calls x.1 = .cleanup id' label ∧
        x.2.question = .storage (.deleteRecursive (Storage.stagingDir storage.home label id')) ∧
        isBelow (Storage.stagingDir storage.home label id') a.remotePath = true)) ∧
    (Orderly calls log id → r.cleanedAt.isSome = true →
      ∀ a ∈ r.artifacts, t.storage.file? a.remotePath = none) := by
  obtain ⟨memory, hremembers, htells⟩ := hrun.remembers (remembers_fresh storage)
  have hrecord : memory id = some r :=
    Except.ok.inj (congrArg Prod.fst ((hremembers.deployment id).symm.trans hfound))
  obtain ⟨hartifacts, hcleaned⟩ := htells id
  rw [hrecord] at hartifacts hcleaned
  have hmark : r.cleanedAt.isSome = true ↔ ∃ x ∈ log, x.2 = marked id :=
    hcleaned.trans (or_iff_left (by simp))
  obtain ⟨⟨k, _⟩, hstarted, jobName, m, rfl, hid, hsame⟩ :=
    (hartifacts r rfl).resolve_right fun ⟨_, hnone, _⟩ => nomatch hnone
  obtain ⟨_, _, -, -, hwritten⟩ := hcalls.exists_of_started hrun hstarted
  -- every artifact was written, so there is a last time
  have hlast : ∀ a ∈ r.artifacts, ∃ before written after, log = before ++ written :: after ∧
      Uploads a.remotePath written.2 ∧ ∀ x ∈ after, ¬Uploads a.remotePath x.2 := fun a ha =>
    exists_last (hwritten a (hsame ▸ ha)).1
  refine ⟨hmark.trans ⟨?_, ?_⟩, fun a ha => ?_, fun horderly hr a ha => ?_⟩
  · rintro ⟨⟨n, _⟩, hx, rfl⟩
    obtain ⟨label, hn, -⟩ := hcalls.exists_of_marked hrun hx
    exact ⟨n, label, hn, hx⟩
  · rintro ⟨n, label, -, hx⟩
    exact ⟨_, hx, rfl⟩
  · obtain ⟨before, written, after, rfl, hupload, hafter⟩ := hlast a ha
    refine ⟨before, written, after, rfl, hupload, hafter,
      (hrun.file?_eq_none_iff hupload hafter).trans ⟨?_, ?_⟩⟩
    · rintro ⟨x, hx, hremoves⟩
      exact ⟨x, hx, hcalls.exists_of_removes hrun (n := x.1) (x := x.2) (by simp [hx]) hremoves⟩
    · rintro ⟨⟨n, q, answer⟩, hx, id', label, -, rfl, hbelow⟩
      exact ⟨_, hx, _, answer, rfl, hbelow⟩
  · obtain ⟨⟨n, _⟩, hx, rfl⟩ := hmark.1 hr
    obtain ⟨before, written, after, hlog, hupload, hafter⟩ := hlast a ha
    have hremoves := horderly.exists_removes hcalls hrun hx hstarted hid (hsame ▸ ha) hlog hupload
    rw [hlog] at hrun
    exact (hrun.file?_eq_none_iff hupload hafter).2 hremoves

end Cleaning

/-! ## A cleanup under another label -/

namespace Leftover

/-- The application. -/
def application : ApplicationId := ⟨1, 1⟩

/-- A job with a single file. -/
def request : DeploymentRequest := ⟨default, "dist.jar", []⟩

/-- The directory of the application under a label. -/
def dir (label : String) : String := Storage.stagingDir "/user" label application

/-- The staged file. -/
def path : String := Storage.remotePath (dir Config.default.stagingPrefix) "dist.jar"

/-- The manifest of the staged file. -/
def manifest : Manifest :=
  ⟨application, dir Config.default.stagingPrefix,
    [⟨⟨"dist.jar", "dist.jar", .bundle⟩, path, Sha256.hex [], 0, 1⟩], .storageDefault 1⟩

/-- The creation of the cluster dies. -/
def failure : DeployError := Attempt.deathError .clusterCreation (some application)

/-- What the deployment asks to stage its file. -/
def staging : List Work.Exchange :=
  [⟨.isFile "dist.jar", true⟩, ⟨.storage .homeDirectory, .ok "/user"⟩,
    ⟨.storage .defaultReplication, .ok 1⟩, ⟨.digest "dist.jar", .ok (Sha256.hex [])⟩,
    ⟨.storage (.upload "dist.jar" path), .ok ()⟩,
    ⟨.storage (.stat path), .ok (some ⟨0, 1, 1⟩)⟩]

/-- What the deployment asks. -/
def deployed : List Work.Exchange :=
  allocated application :: (staging ++ [started request.job.name manifest,
    ⟨.platform (.createCluster (Launch.request .default request.job manifest)), .error .died⟩,
    ⟨.ledger (.recordAborted application failure none none), .ok ()⟩])

/-- What a cleanup asks. -/
def cleaned (label : String) (removed : Bool) : List Work.Exchange :=
  [⟨.storage .homeDirectory, .ok "/user"⟩, ⟨.storage (.deleteRecursive (dir label)), .ok removed⟩,
    marked application]

/-- A deployment and cleanups under a label. -/
def calls (label : String) : Nat → Call
  | 0 => .deploy .default request
  | _ => .cleanup application label

/-- The deployment, and then one cleanup. -/
def log (label : String) (removed : Bool) : Log :=
  deployed.map (0, ·) ++ (cleaned label removed).map (1, ·)

/-- The file is staged. -/
lemma ends_staging :
    Ends (Staging.stage application Config.default.stagingPrefix request.entries none).run staging
      (.ok manifest) := by
  have hentries : request.entries = [⟨"dist.jar", "dist.jar", .bundle⟩] := by decide +kernel
  have hname : Staging.checkName [] ⟨"dist.jar", "dist.jar", .bundle⟩ = none := by decide +kernel
  rw [hentries]
  unfold Staging.stage
  simp only [Staging.validate, hname]
  exact .ask (.ask (.ask (.ask (.ask (.ask (.done _))))))

/-- The course of the deployment. -/
def course : Task.Course :=
  [Deployment.allocation .default (.ended 1 (.ok application)),
    Deployment.staging .default request application (.ok manifest), Deployment.cancellation false,
    Deployment.recording (.recordStarted request.job.name manifest) (.ok ()),
    Deployment.creation (Launch.request .default request.job manifest) (.error .died),
    Deployment.recording (.recordAborted application failure none none) (.ok ())]

/-- The deployment comes to its end in this way. -/
private lemma reaches_course :
    Reaches (Deployment.run true .default request) course (.done (.error failure)) :=
  .ask (.ask (.ask (.ask (.ask (.ask (.here _))))))

/-- A call that is waited for is one question. -/
private lemma ends_ledger (call : Ledger.Call) (answer : Attempt call.Value) :
    Ends (Operation.ledger call).work.run [⟨.ledger call, answer⟩] answer :=
  .ask (.done _)

/-- What is done in the course of the deployment. -/
private lemma does_course : Task.Does course deployed := by
  have hcreated : Ends (Operation.platform
      (.createCluster (Launch.request .default request.job manifest))).work.run
      [⟨.platform (.createCluster (Launch.request .default request.job manifest)), .error .died⟩]
      (.error .died) := .ask (.done _)
  refine .inTime (by decide) (Task.does_background_iff.2 (.inr ⟨_, _, rfl, ends_staging, ?_⟩))
  refine .idle rfl (.background (ends_ledger _ _) (.background hcreated ?_))
  exact .background (ends_ledger _ _) .nil

/-- What the deployment asks of the storage and the ledger. -/
private lemma asks_deployed : (Call.deploy .default request).Asks deployed :=
  ⟨course, _, reaches_course, does_course⟩

/-- What the removal of the staged file asks of them. -/
private lemma asks_cleaned (label : String) (removed : Bool) :
    (Call.cleanup application label).Asks (cleaned label removed) := by
  have hreaches : Reaches (Deployment.cleanup true application label)
      [⟨.background (.remove application label) none, .ok removed⟩,
        Deployment.recording (.markCleaned application) (.ok true)] (.done (.ok removed)) :=
    .ask (.ask (.here _))
  have hremoved : Ends (Operation.remove application label).work.run
      [⟨.storage .homeDirectory, .ok "/user"⟩,
        ⟨.storage (.deleteRecursive (dir label)), .ok removed⟩]
      (.ok removed) := .ask (.ask (.done _))
  exact ⟨_, _, hreaches, .background hremoved (.background (ends_ledger _ _) .nil)⟩

/-- The log is one of these two calls. -/
private lemma isLogOf (label : String) (removed : Bool) :
    IsLogOf (calls label) (log label removed) := by
  intro n
  match n with
  | 0 => exact asks_deployed
  | 1 => exact asks_cleaned label removed
  | n + 2 =>
    refine ⟨[], _, .here _, ?_⟩
    have hnil : ((log label removed).filter fun x => x.1 = n + 2).map (·.2) = [] := by
      simp [log, deployed, staging, cleaned]
    rw [hnil]
    exact .nil

/-! ### The stores -/

/-- The local files. -/
def fs : FileSystem :=
  ⟨[(["dist.jar"], .file [])], fun _ => []⟩

/-- A ledger after it was told something. -/
def told (call : Ledger.Call) (db : Ledger.Database) : Ledger.Database :=
  ((call.action 0).runOn .writing db).2

/-- The storage once the file is staged. -/
def staged : MemoryStorage :=
  (((MemoryStorage.empty "/user" 1 1).upload path []).stat path).2

/-- The ledger after the deployment. -/
def recorded : Ledger.Database :=
  told (.recordAborted application failure none none)
    (told (.recordStarted request.job.name manifest) (Ledger.migrated [latestVersion]))

/-- The stores after a cleanup. -/
def final (label : String) : Stores :=
  ⟨(staged.deleteRecursive (dir label)).2, told (.markCleaned application) recorded⟩

/-- Whether there is something under a label. -/
def isStaged (label : String) : Bool :=
  (staged.deleteRecursive (dir label)).1

/-- The file is empty. -/
private lemma read_fs : fs.read "dist.jar" = .ok [] := by
  apply FileSystem.read_of_relative ["dist.jar"] <;> decide +kernel

/-- The file is a regular one. -/
private lemma isFile_fs : fs.isFile "dist.jar" = true :=
  FileSystem.isFile_of_read read_fs

/-- The storage answers, and the ledger stays. -/
private lemma answers_storage {s : Stores} {call : Storage.Call} {value : call.Value}
    {storage : MemoryStorage} (h : s.storage.answer fs call = (.ok value, storage)) :
    s.Answers ⟨storage, s.ledger⟩ ⟨.storage call, .ok value⟩ :=
  ⟨rfl, fs, by rw [h]; rfl, by rw [h]⟩

/-- The ledger answers, and the storage stays. -/
private lemma answers_ledger {s : Stores} {call : Ledger.Call} {value : call.Value}
    (h : ((call.action 0).runOn .writing s.ledger).1 = .ok value) :
    s.Answers ⟨s.storage, told call s.ledger⟩ ⟨.ledger call, .ok value⟩ :=
  ⟨rfl, 0, Prod.ext h rfl⟩

/-- What becomes of the storage and the ledger. -/
private lemma run_log (label : String) :
    Run (.fresh (.empty "/user" 1 1)) (log label (isStaged label)) (final label) := by
  have hupload : (MemoryStorage.empty "/user" 1 1).answer fs (.upload "dist.jar" path) =
      (.ok (), (MemoryStorage.empty "/user" 1 1).upload path []) := by
    simp only [MemoryStorage.answer, read_fs]
  have hstat : ((MemoryStorage.empty "/user" 1 1).upload path []).answer fs (.stat path) =
      (.ok (some ⟨0, 1, 1⟩), staged) := by
    have hfile : ((MemoryStorage.empty "/user" 1 1).upload path []).file? path =
        some ⟨[], 1, 1⟩ := by
      rw [MemoryStorage.file?_upload, if_pos rfl]
      rfl
    simp only [MemoryStorage.answer, MemoryStorage.stat, hfile]
    rfl
  refine .cons (show _ = _ from rfl) (.cons ⟨rfl, fs, isFile_fs.symm⟩ ?_)
  refine .cons (answers_storage rfl) (.cons (answers_storage rfl) ?_)
  refine .cons ⟨rfl, fs, by rw [read_fs]; rfl⟩ ?_
  refine .cons (answers_storage hupload) (.cons (answers_storage hstat) ?_)
  refine .cons (answers_ledger rfl) ?_
  refine .cons (show _ = _ from rfl) ?_
  refine .cons (answers_ledger rfl) ?_
  refine .cons (answers_storage rfl) (.cons (answers_storage rfl) ?_)
  refine .cons (answers_ledger rfl) (.nil _)

/-- A ledger that was told something represents what became of the map of its records. -/
private lemma remembers_told (call : Ledger.Call) (value : call.Value) {db : Ledger.Database}
    {memory : Ledger.Memory} (h : Ledger.Remembers db latestVersion memory)
    (hrun : ((call.action 0).runOn .writing db).1 = .ok value) :
    ∃ seconds, Ledger.Remembers (told call db) latestVersion (call.remember seconds memory) := by
  obtain ⟨seconds, -, -, h'⟩ := h.action (Prod.ext hrun rfl)
  exact ⟨seconds, h'⟩

/-- The ledger has a record of the deployment, which is marked as removed. -/
private lemma exists_found (label : String) : ∃ r,
    (Ledger.deployment application).runOn .reading (final label).ledger =
      (.ok (some r), (final label).ledger) ∧
    r.cleanedAt.isSome = true ∧ r.artifacts = manifest.artifacts := by
  have h₀ := remembers_fresh (.empty "/user" 1 1)
  obtain ⟨_, h₁⟩ := remembers_told (.recordStarted request.job.name manifest) () h₀ rfl
  obtain ⟨_, h₂⟩ := remembers_told (.recordAborted application failure none none) () h₁ rfl
  obtain ⟨_, h₃⟩ := remembers_told (.markCleaned application) true h₂ rfl
  exact ⟨_, h₃.deployment application, rfl, rfl⟩

/-- Nothing is stored but the staged file. -/
private lemma file?_staged (q : String) :
    staged.file? q = if q = path then some ⟨[], 1, 1⟩ else none :=
  (MemoryStorage.file?_upload (s := .empty "/user" 1 1) []).trans rfl

/-- The directory under another label has no path in common with the one of the file. -/
private lemma isBelow_other {q : String} (hq : isBelow (dir "other") q = true) : q ≠ path := by
  rintro rfl
  exact absurd (Storage.place_eq_of_isBelow (by decide) (by decide) hq
    Storage.isBelow_remotePath).2 (by decide)

/-- Under the other label nothing is removed. -/
private lemma isStaged_other : isStaged "other" = false := by
  refine Bool.eq_false_iff.2 fun h => ?_
  obtain ⟨q, hbelow, hfile⟩ := MemoryStorage.deleteRecursive_eq_true_iff.1 h
  rw [file?_staged, if_neg (isBelow_other hbelow)] at hfile
  exact nomatch hfile

/-- After the removal under the other label the staged file is still there. -/
private lemma file?_final_other : (final "other").storage.file? path = some ⟨[], 1, 1⟩ := by
  refine MemoryStorage.file?_deleteRecursive.trans ?_
  rw [if_neg fun hbelow => isBelow_other hbelow rfl, file?_staged, if_pos rfl]

/-- Under the right label the calls are made in order. -/
private lemma orderly :
    Orderly (calls "jobcluster") (log "jobcluster" (isStaged "jobcluster")) application where
  allocated := by
    have hzero : ∀ j, (j, allocated application) ∈ log "jobcluster" (isStaged "jobcluster") →
        j = 0 := by
      intro j hj
      simpa [log, deployed, staging, cleaned] using hj
    exact fun j k hj hk => (hzero j hj).trans (hzero k hk).symm
  ordered := by
    have hnumbers : ((log "jobcluster" (isStaged "jobcluster")).map (·.1)).Pairwise (· ≤ ·) := by
      decide
    exact List.pairwise_map.1 hnumbers
  labels := by
    intro n k label config request' hn hk _
    match n, k with
    | 0, _ => exact nomatch hn
    | n + 1, k + 1 => exact nomatch hk
    | n + 1, 0 =>
      have hlabel : "jobcluster" = label := (Call.cleanup.inj hn).2
      have hconfig : Config.default = config := (Call.deploy.inj hk).1
      rw [← hlabel, ← hconfig]
      rfl

end Leftover

/-- **A record with the time of a cleanup whose file is there.** A deployment stages a file, its
cluster cannot be created, and its application is cleaned up under another label. The cleanup finds
nothing to delete; then the ledger has the time of the cleanup in the record, and the storage the
file that the record lists. -/
theorem run_cleanedNotGone :
    let calls := Leftover.calls "other"
    let log := Leftover.log "other" false
    let t := Leftover.final "other"
    IsLogOf calls log ∧ Run (.fresh (.empty "/user" 1 1)) log t ∧
      ∃ r, (Ledger.deployment Leftover.application).runOn .reading t.ledger =
          (.ok (some r), t.ledger) ∧
        r.cleanedAt.isSome = true ∧
        ∃ a ∈ r.artifacts, (t.storage.file? a.remotePath).isSome = true := by
  intro calls log t
  obtain ⟨r, hfound, hcleaned, hartifacts⟩ := Leftover.exists_found "other"
  refine ⟨Leftover.isLogOf _ _, ?_, r, hfound, hcleaned, ?_⟩
  · have hrun := Leftover.run_log "other"
    rwa [Leftover.isStaged_other] at hrun
  · rw [hartifacts]
    refine ⟨_, List.mem_singleton_self _, ?_⟩
    exact congrArg Option.isSome Leftover.file?_final_other

/-- Under the right label the file is gone. -/
theorem run_cleaned_of_right_label :
    ∃ r, (Ledger.deployment Leftover.application).runOn .reading
        (Leftover.final "jobcluster").ledger =
          (.ok (some r), (Leftover.final "jobcluster").ledger) ∧
      r.cleanedAt.isSome = true ∧
      ∀ a ∈ r.artifacts, (Leftover.final "jobcluster").storage.file? a.remotePath = none := by
  obtain ⟨r, hfound, hcleaned, -⟩ := Leftover.exists_found "jobcluster"
  have hresult := run_cleaned (Leftover.calls "jobcluster") _ _ _ Leftover.application r
    (Leftover.isLogOf _ _) (Leftover.run_log "jobcluster") hfound
  exact ⟨r, hfound, hcleaned, hresult.2.2 Leftover.orderly hcleaned⟩

end Runtime

end ClusterDeploy
