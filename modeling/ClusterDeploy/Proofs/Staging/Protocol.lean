import ClusterDeploy.Proofs.Staging.Copying

set_option relaxedAutoImplicit false
set_option autoImplicit false

/-!
# The calls of staging

Staging checks all entries before it calls the storage for the first time. From then on it is known
which calls it makes and in which order, but for the home directory that the storage tells. The
first failure, be it of a call or of a local file, is the end.

## Main definitions

* `Work.fails` — answers after which work cannot go on.
* `Work.InTurn`, `Work.Follows` — runs and programs that ask questions in order, until one fails.
* `Staging.Sound`, `Staging.Rejected` — entries that can be staged, and the first one that cannot.
* `Staging.questions`, `Staging.calls` — what staging asks once its entries were checked.
* `Staging.Proceeds` — how far it comes.

## Main results

* `Work.Follows.bind` — programs in sequence.
* `Staging.rejected_or_sound` — what is asked while entries are checked.
* `Staging.stage_calls` — the calls of staging, whatever the answers are.
-/

namespace ClusterDeploy

open Dialogue (Ends Obeys)

/-- Whether a call of the storage did what it was for, given what it told. -/
def Storage.Call.isDone : (call : Storage.Call) → call.Value → Bool
  | .stat _, status => status.isSome
  | _, _ => true

namespace Work

/-! ## Questions in turn -/

/-- Answers after which work cannot go on that needs all that it asks for. -/
def fails : Exchange → Bool
  | ⟨.storage call, .ok value⟩ => !call.isDone value
  | ⟨.platform _, .ok _⟩ => false
  | ⟨.ledger _, .ok _⟩ => false
  | ⟨.isFile _, there⟩ => !there
  | ⟨.digest _, .ok _⟩ => false
  | ⟨.storage _, .error _⟩ => true
  | ⟨.platform _, .error _⟩ => true
  | ⟨.ledger _, .error _⟩ => true
  | ⟨.digest _, .error _⟩ => true

/-- Runs that ask questions in their order and stop right after the first answer that is a failure.
It is told whether there was none. -/
inductive InTurn : List Question → List Exchange → Bool → Prop where
  | done : InTurn [] [] true
  | stop {x : Exchange} {later : List Question} :
    fails x = true → InTurn (x.question :: later) [x] false
  | next {x : Exchange} {later : List Question} {t : List Exchange} {well : Bool} :
    fails x = false → InTurn later t well → InTurn (x.question :: later) (x :: t) well

/-- The calls of the storage among questions. -/
def storageCall? : Question → Option Storage.Call
  | .storage call => some call
  | _ => none

/-- The calls of the storage in a run, in order. -/
def storageCalls (t : List Exchange) : List Storage.Call :=
  (t.map (·.question)).filterMap storageCall?

variable {asked later : List Question} {t u : List Exchange} {well : Bool}

namespace InTurn

/-- Other questions are asked when all went well. -/
lemma append (ht : InTurn asked t true) (hu : InTurn later u well) :
    InTurn (asked ++ later) (t ++ u) well := by
  generalize htrue : true = all at ht
  induction ht with
  | done => exact hu
  | stop _ => exact nomatch htrue
  | next hx _ ih => exact .next hx (ih htrue)

/-- No other question is asked after a failure. -/
lemma append_right (ht : InTurn asked t false) : InTurn (asked ++ later) t false := by
  generalize hfalse : false = all at ht
  induction ht with
  | done => exact nomatch hfalse
  | stop hx => exact .stop hx
  | next hx _ ih => exact .next hx (ih hfalse)

/-- Questions in turn are a beginning of all that would be asked. -/
lemma questions_prefix (ht : InTurn asked t well) : t.map (·.question) <+: asked := by
  induction ht with
  | done => exact List.prefix_rfl
  | stop _ => exact List.cons_prefix_cons.2 ⟨rfl, List.nil_prefix⟩
  | next _ _ ih => exact List.cons_prefix_cons.2 ⟨rfl, ih⟩

/-- All went well exactly if everything was asked and no answer is a failure. -/
lemma eq_true_iff (ht : InTurn asked t well) :
    well = true ↔ t.map (·.question) = asked ∧ ∀ x ∈ t, fails x = false := by
  induction ht with
  | done => exact iff_of_true rfl ⟨rfl, List.forall_mem_nil _⟩
  | @stop x later hx =>
    refine iff_of_false Bool.false_ne_true fun h => ?_
    exact Bool.false_ne_true ((h.2 x (List.mem_singleton_self x)).symm.trans hx)
  | next hx _ ih =>
    rw [ih, List.map_cons, List.cons_inj_right, List.forall_mem_cons, and_iff_right hx]

/-- A failure is the end. -/
lemma stops (ht : InTurn asked t well) {before after : List Exchange} {x : Exchange}
    (hsplit : t = before ++ x :: after) (hx : fails x = true) : after = [] ∧ well = false := by
  induction ht generalizing before with
  | done => simp at hsplit
  | @stop y later hy =>
    obtain ⟨rfl, hrest⟩ | ⟨before, rfl, hrest⟩ := List.cons_eq_append_iff.1 hsplit
    · exact ⟨(List.cons.inj hrest).2, rfl⟩
    · simp at hrest
  | @next y later t well hy _ ih =>
    obtain ⟨rfl, hrest⟩ | ⟨before, rfl, hrest⟩ := List.cons_eq_append_iff.1 hsplit
    · obtain ⟨rfl, -⟩ := List.cons.inj hrest
      exact nomatch hx.symm.trans hy
    · exact ih hrest

/-- The end that comes too early is a failure. -/
lemma exists_fails (ht : InTurn asked t false) :
    ∃ before x, t = before ++ [x] ∧ fails x = true := by
  generalize hfalse : false = well at ht
  induction ht with
  | done => exact nomatch hfalse
  | @stop x later hx => exact ⟨[], x, rfl, hx⟩
  | @next y later t well _ _ ih =>
    obtain ⟨before, x, rfl, hx⟩ := ih hfalse
    exact ⟨y :: before, x, rfl, hx⟩

end InTurn

/-- Programs that ask questions in turn, and give a value exactly if none of them fails. -/
def Follows {α : Type} (asked : List Question) (p : Work α) : Prop :=
  ∀ t r, Ends p.run t r → InTurn asked t r.isOk

section Follows

variable {α β : Type} {p : Work α} {f : α → Work β}

/-- A value needs no questions. -/
lemma follows_pure (a : α) : Follows [] (pure a : Work α) := by
  intro t r hrun
  obtain ⟨rfl, rfl⟩ := Dialogue.ends_run_pure_iff.1 hrun
  exact .done

/-- Programs in sequence ask their questions in turn. -/
lemma Follows.bind (hp : Follows asked p) (hf : ∀ a, Follows later (f a)) :
    Follows (asked ++ later) (p >>= f) := by
  intro t r hrun
  obtain ⟨t₁, t₂, r₁, rfl, hfirst, hrest⟩ := Dialogue.ends_run_bind_iff.1 hrun
  cases r₁ with
  | error e =>
    obtain ⟨rfl, rfl⟩ := Dialogue.ends_pure_iff.1 hrest
    rw [List.append_nil]
    exact (hp _ _ hfirst).append_right
  | ok a => exact (hp _ _ hfirst).append (hf a _ _ hrest)

/-- A question whose failures are the end of the program. -/
lemma follows_ask_bind {q : Question} {f : Answer q → Work β}
    (hfails : ∀ a, fails ⟨q, a⟩ = true → ∃ e, f a = fail e)
    (hnext : ∀ a, fails ⟨q, a⟩ = false → Follows later (f a)) :
    Follows (q :: later) (ask q >>= f) := by
  intro t r hrun
  obtain ⟨t₁, t₂, r₁, rfl, hfirst, hrest⟩ := Dialogue.ends_run_bind_iff.1 hrun
  obtain ⟨a, rfl, rfl⟩ := ends_ask_iff.1 hfirst
  cases hfail : fails ⟨q, a⟩ with
  | true =>
    obtain ⟨e, he⟩ := hfails a hfail
    change Ends (f a).run t₂ r at hrest
    rw [he] at hrest
    obtain ⟨rfl, rfl⟩ := Dialogue.ends_run_throw_iff.1 hrest
    exact InTurn.stop (x := ⟨q, a⟩) hfail
  | false => exact InTurn.next (x := ⟨q, a⟩) hfail (hnext a hfail _ _ hrest)

/-- A call of the storage whose failures are the end of the program. -/
lemma follows_storage_bind {call : Storage.Call} {f : call.Value → Work β}
    (hfails : ∀ a, call.isDone a = false → ∃ e, f a = fail e)
    (hnext : ∀ a, call.isDone a = true → Follows later (f a)) :
    Follows (.storage call :: later) (storage call >>= f) := by
  intro t r hrun
  obtain ⟨t₁, t₂, r₁, rfl, hfirst, hrest⟩ := Dialogue.ends_run_bind_iff.1 hrun
  obtain rfl := ends_storage_iff.1 hfirst
  cases r₁ with
  | error mishap =>
    obtain ⟨rfl, rfl⟩ := Dialogue.ends_pure_iff.1 hrest
    exact InTurn.stop (x := ⟨.storage call, .error mishap⟩) rfl
  | ok a =>
    cases hdone : call.isDone a with
    | true =>
      exact InTurn.next (x := ⟨.storage call, .ok a⟩) (congrArg not hdone)
        (hnext a hdone _ _ hrest)
    | false =>
      obtain ⟨e, he⟩ := hfails a hdone
      change Ends (f a).run t₂ r at hrest
      rw [he] at hrest
      obtain ⟨rfl, rfl⟩ := Dialogue.ends_run_throw_iff.1 hrest
      exact InTurn.stop (x := ⟨.storage call, .ok a⟩) (congrArg not hdone)

end Follows

end Work

namespace Staging

open Work (InTurn Follows storageCall? storageCalls)

/-! ## Checking entries -/

/-- A local file that was found to be there. -/
def found (e : ArtifactEntry) : Work.Exchange :=
  ⟨.isFile e.localPath, true⟩

/-- Entries whose names are right. -/
structure Sound (entries : List ArtifactEntry) : Prop where
  names : ∀ e ∈ entries, Storage.IsFileName e.remoteName
  distinct : (entries.map (·.remoteName)).Nodup

/-- The first entry that is not right decides why entries are rejected: by the form of its name, or
else by its name being taken, or else by its local file. What was asked are the local files of the
entries before it, and in the last case its own. -/
inductive Rejected : List ArtifactEntry → List Work.Exchange → DeployError → Prop where
  | form {before after : List ArtifactEntry} {e : ArtifactEntry} :
    Sound before → ¬ Storage.IsFileName e.remoteName →
    Rejected (before ++ e :: after) (before.map found)
      (failure s!"artifact '{e.localPath}' has an invalid remote name '{e.remoteName}'")
  | taken {before after : List ArtifactEntry} {e : ArtifactEntry} :
    Sound before → Storage.IsFileName e.remoteName → e.remoteName ∈ before.map (·.remoteName) →
    Rejected (before ++ e :: after) (before.map found)
      (failure s!"more than one artifact would be staged as '{e.remoteName}'")
  | file {before after : List ArtifactEntry} {e : ArtifactEntry} :
    Sound (before ++ [e]) →
    Rejected (before ++ e :: after) (before.map found ++ [⟨.isFile e.localPath, false⟩])
      (failure s!"local artifact '{e.localPath}' does not exist or is not a file")

variable {home label dir : String} {id : ApplicationId} {e : ArtifactEntry}
  {entries before : List ArtifactEntry} {factor : Option UInt16} {t : List Work.Exchange}

/-- One more entry is right exactly if its name can stand for a file and is new. -/
lemma sound_append_singleton_iff :
    Sound (before ++ [e]) ↔ Sound before ∧ Storage.IsFileName e.remoteName ∧
      e.remoteName ∉ before.map (·.remoteName) := by
  constructor
  · rintro ⟨hnames, hdistinct⟩
    obtain ⟨hbefore, hname⟩ := List.forall_mem_append.1 hnames
    rw [List.map_append, List.nodup_append] at hdistinct
    refine ⟨⟨hbefore, hdistinct.1⟩, hname e List.mem_cons_self, fun hmem => ?_⟩
    exact hdistinct.2.2 _ hmem _ List.mem_cons_self rfl
  · rintro ⟨hbefore, hname, hnew⟩
    refine ⟨List.forall_mem_append.2 ⟨hbefore.names, List.forall_mem_singleton.2 hname⟩, ?_⟩
    rw [List.map_append, List.nodup_append]
    refine ⟨hbefore.distinct, List.pairwise_singleton _ _, fun name hmem other hother hsame => ?_⟩
    obtain rfl : other = e.remoteName := List.mem_singleton.1 hother
    exact hnew (hsame ▸ hmem)

/-- No call of the storage is made to reject entries. -/
lemma Rejected.storageCalls_eq_nil {error : DeployError} (h : Rejected entries t error) :
    storageCalls t = [] := by
  have hfound : ∀ l : List ArtifactEntry, storageCalls (l.map found) = [] := by
    intro l
    rw [storageCalls, List.map_map]
    exact List.filterMap_eq_nil_iff.2 (List.forall_mem_map.2 fun _ _ => rfl)
  cases h with
  | form _ _ => exact hfound _
  | taken _ _ _ => exact hfound _
  | @file before after e _ =>
    have hsplit : storageCalls (before.map found ++ [⟨.isFile e.localPath, false⟩]) =
        storageCalls (before.map found) ++ [] := by
      rw [storageCalls, List.map_append, List.filterMap_append]
      rfl
    rw [hsplit, hfound]
    rfl

/-- An entry whose name is found to be wrong is the first one of which that is so. -/
lemma rejected_of_checkName {after : List ArtifactEntry} {error : DeployError}
    (hbefore : Sound before)
    (hname : checkName (before.map (·.remoteName)).reverse e = some error) :
    Rejected (before ++ e :: after) (before.map found) error := by
  unfold checkName at hname
  by_cases hform : Storage.IsFileName e.remoteName
  · rw [isName_iff.2 hform, Bool.not_true, if_neg Bool.false_ne_true] at hname
    split at hname
    · next htaken =>
      obtain rfl := Option.some.inj hname
      exact .taken hbefore hform (List.mem_reverse.1 (List.contains_iff_mem.1 htaken))
    · exact nomatch hname
  · rw [Bool.eq_false_iff.2 (hform ∘ isName_iff.1), Bool.not_false, if_pos rfl] at hname
    obtain rfl := Option.some.inj hname
    exact .form hbefore hform

/-- **What is asked while entries are checked** are local files, and the first entry that is not
right is the end.

**Proof sketch.** Induction on the entries that are left. Those before them are right, and the
names that were seen are theirs. -/
lemma rejected_or_sound {r : Attempt Unit} (hbefore : Sound before)
    (hrun : Ends (validate (before.map (·.remoteName)).reverse entries).run t r) :
    (∃ e, Rejected (before ++ entries) (before.map found ++ t) e ∧ r = .error (.failed e)) ∨
      (Sound (before ++ entries) ∧ t = entries.map found ∧ r = .ok ()) := by
  induction entries generalizing before t with
  | nil =>
    obtain ⟨rfl, rfl⟩ := Dialogue.ends_run_pure_iff.1 hrun
    rw [List.append_nil]
    exact .inr ⟨hbefore, rfl, rfl⟩
  | cons e rest ih =>
    unfold validate at hrun
    cases hname : checkName (before.map (·.remoteName)).reverse e with
    | some error =>
      rw [hname] at hrun
      obtain ⟨rfl, rfl⟩ := Dialogue.ends_run_throw_iff.1 hrun
      rw [List.append_nil]
      exact .inl ⟨error, rejected_of_checkName hbefore hname, rfl⟩
    | none =>
      rw [hname] at hrun
      obtain ⟨hform, hnew⟩ := checkName_eq_none_iff.1 hname
      -- the name is right, so it is up to the local file
      have hsound : Sound (before ++ [e]) :=
        sound_append_singleton_iff.2 ⟨hbefore, hform, fun hmem => hnew (List.mem_reverse.2 hmem)⟩
      obtain ⟨t₁, t₂, r₁, rfl, hfile, hrest⟩ := Dialogue.ends_run_bind_iff.1 hrun
      obtain ⟨there, rfl, rfl⟩ := Work.ends_ask_iff.1 hfile
      cases there with
      | false =>
        obtain ⟨rfl, rfl⟩ := Dialogue.ends_run_throw_iff.1 hrest
        exact .inl ⟨_, .file hsound, rfl⟩
      | true =>
        have hseen : e.remoteName :: (before.map (·.remoteName)).reverse =
            ((before ++ [e]).map (·.remoteName)).reverse := by simp
        change Ends (validate (e.remoteName :: _) rest).run t₂ r at hrest
        rw [hseen] at hrest
        have hall := ih hsound hrest
        rw [List.map_append, List.append_assoc, List.append_assoc] at hall
        refine hall.imp_right ?_
        rintro ⟨hsound, rfl, rfl⟩
        exact ⟨hsound, rfl, rfl⟩

/-! ## Copying -/

/-- Where an entry is copied to: its name in the directory of the application, in the home directory
without slashes at its end. -/
def target (home label : String) (id : ApplicationId) (e : ArtifactEntry) : String :=
  s!"{Storage.withoutSlashes home}/.{label}/{id.display}/{e.remoteName}"

/-- The calls for an entry, all of them on one path. -/
def entryCalls (home label : String) (id : ApplicationId) (factor : Option UInt16)
    (e : ArtifactEntry) : List Storage.Call :=
  .upload e.localPath (target home label id e) ::
    ((factor.map (.setReplication (target home label id e))).toList ++
      [.stat (target home label id e)])

/-- The calls of staging, in their order. -/
def calls (home label : String) (id : ApplicationId) (entries : List ArtifactEntry)
    (factor : Option UInt16) : List Storage.Call :=
  .homeDirectory :: ((if factor.isSome then [] else [.defaultReplication]) ++
    entries.flatMap (entryCalls home label id factor))

/-- What is asked for an entry: its digest, and then the storage. -/
def entryQuestions (home label : String) (id : ApplicationId) (factor : Option UInt16)
    (e : ArtifactEntry) : List Work.Question :=
  .digest e.localPath :: (entryCalls home label id factor e).map .storage

/-- What is asked by staging once its entries were checked. -/
def questions (home label : String) (id : ApplicationId) (entries : List ArtifactEntry)
    (factor : Option UInt16) : List Work.Question :=
  .storage .homeDirectory :: ((if factor.isSome then [] else [.storage .defaultReplication]) ++
    entries.flatMap (entryQuestions home label id factor))

/-- Each entry is staged at its target. -/
lemma remotePath_eq_target :
    Storage.remotePath (Storage.stagingDir home label id) e.remoteName =
      target home label id e := by
  rw [Storage.remotePath_stagingDir]
  rfl

/-- The last step of copying. -/
private lemma follows_stat {path sha256 : String} :
    Follows [.storage (.stat path)] (do
      match ← Work.storage (.stat path) with
      | none => Work.fail (failure s!"uploaded artifact '{path}' is not visible")
      | some status =>
        return (⟨e, path, sha256, status.len, status.modificationTime⟩ : StagedArtifact)) := by
  refine Work.follows_storage_bind (fun status hstatus => ?_) fun status hstatus => ?_
  · cases status with
    | none => exact ⟨_, rfl⟩
    | some status => exact nomatch hstatus
  · cases status with
    | none => exact nomatch hstatus
    | some status => exact Work.follows_pure _

/-- One artifact is copied. -/
lemma follows_upload (home label : String) (id : ApplicationId) (factor : Option UInt16)
    (e : ArtifactEntry) :
    Follows (entryQuestions home label id factor e)
      (upload (Storage.stagingDir home label id) factor e) := by
  unfold upload
  rw [remotePath_eq_target]
  refine Work.follows_ask_bind (fun digest hdigest => ?_) fun digest hdigest => ?_
  · cases digest with
    | error fault => exact ⟨_, rfl⟩
    | ok sha256 => exact nomatch hdigest
  cases digest with
  | error fault => exact nomatch hdigest
  | ok sha256 =>
    refine (Work.follows_pure sha256).bind fun sha256 => ?_
    refine Work.follows_storage_bind (fun _ hdone => nomatch hdone) fun _ _ => ?_
    cases factor with
    | none => exact follows_stat
    | some n =>
      exact Work.follows_storage_bind (fun _ hdone => nomatch hdone) fun _ _ => follows_stat

/-- Artifacts are copied one after the other. -/
lemma follows_uploadAll (home label : String) (id : ApplicationId) (factor : Option UInt16)
    (entries : List ArtifactEntry) :
    Follows (entries.flatMap (entryQuestions home label id factor))
      (uploadAll (Storage.stagingDir home label id) factor entries) := by
  induction entries with
  | nil => exact Work.follows_pure []
  | cons e rest ih =>
    refine (follows_upload home label id factor e).bind fun a => ?_
    have hrest := ih.bind fun artifacts => Work.follows_pure (a :: artifacts)
    rwa [List.append_nil] at hrest

/-- What follows when the home directory is known. -/
lemma follows_copying (home label : String) (id : ApplicationId) (factor : Option UInt16)
    (entries : List ArtifactEntry) :
    Follows ((if factor.isSome then [] else [.storage .defaultReplication]) ++
        entries.flatMap (entryQuestions home label id factor)) (do
      let replication ← match factor with
        | some factor => pure (Replication.configured factor)
        | none => Replication.storageDefault <$> Work.storage .defaultReplication
      let artifacts ← uploadAll (Storage.stagingDir home label id) factor entries
      return (⟨id, Storage.stagingDir home label id, artifacts, replication⟩ : Manifest)) := by
  have hend : ∀ replication : Replication,
      Follows (entries.flatMap (entryQuestions home label id factor)) (do
        let artifacts ← uploadAll (Storage.stagingDir home label id) factor entries
        return (⟨id, Storage.stagingDir home label id, artifacts, replication⟩ : Manifest)) := by
    intro replication
    have hcopied := (follows_uploadAll home label id factor entries).bind fun artifacts =>
      Work.follows_pure (⟨id, Storage.stagingDir home label id, artifacts, replication⟩ : Manifest)
    rwa [List.append_nil] at hcopied
  cases factor with
  | none =>
    have husual : Follows [.storage .defaultReplication]
        (Replication.storageDefault <$> Work.storage .defaultReplication) :=
      Work.follows_storage_bind (fun _ hdone => nomatch hdone) fun n _ =>
        Work.follows_pure (Replication.storageDefault n)
    exact husual.bind hend
  | some n => exact (Work.follows_pure (Replication.configured n)).bind hend

/-! ## How far staging comes -/

/-- The calls of the storage among the questions of staging. -/
lemma filterMap_questions :
    (questions home label id entries factor).filterMap storageCall? =
      calls home label id entries factor := by
  have hentry : ∀ e, (entryQuestions home label id factor e).filterMap storageCall? =
      entryCalls home label id factor e := by
    intro e
    rw [entryQuestions, List.filterMap_cons, List.filterMap_map]
    exact List.filterMap_some
  have hentries : (entries.flatMap (entryQuestions home label id factor)).filterMap storageCall? =
      entries.flatMap (entryCalls home label id factor) := by
    rw [List.filterMap_flatMap]
    exact List.flatMap_congr fun e _ => hentry e
  unfold questions calls
  rw [List.filterMap_cons, List.filterMap_append, hentries]
  cases factor <;> rfl

/-- The last question is a call of the storage. -/
lemma exists_last_question :
    ∃ call, [.storage call] <:+ questions home label id entries factor := by
  rcases List.eq_nil_or_concat entries with rfl | ⟨before, e, rfl⟩
  · cases factor with
    | none => exact ⟨.defaultReplication, [.storage .homeDirectory], rfl⟩
    | some n => exact ⟨.homeDirectory, [], rfl⟩
  · have hentry : [.storage (.stat (target home label id e))] <:+
        entryQuestions home label id factor e := by
      rw [entryQuestions, entryCalls, List.map_cons, List.map_append]
      exact ((List.suffix_append _ _).trans (List.suffix_cons _ _)).trans (List.suffix_cons _ _)
    refine ⟨.stat (target home label id e), hentry.trans ?_⟩
    rw [questions, List.concat_eq_append, List.flatMap_append, List.flatMap_singleton]
    exact ((List.suffix_append _ _).trans (List.suffix_append _ _)).trans (List.suffix_cons _ _)

/-- How far staging comes, once its entries were checked, and what it gives. -/
structure Proceeds (id : ApplicationId) (label : String) (entries : List ArtifactEntry)
    (factor : Option UInt16) (t : List Work.Exchange) (r : Attempt Manifest) (home : String) :
    Prop where
  /-- The first call asks for the home directory, and this is it if there is an answer. -/
  told : ∃ answer later, t = ⟨.storage .homeDirectory, answer⟩ :: later ∧
    ∀ name, answer = .ok name → name = home
  /-- The calls of the storage are the first ones of those of staging. -/
  calls : storageCalls t <+: calls home label id entries factor
  /-- Each upload comes right behind the digest of its local file. -/
  questions : t.map (·.question) <+: questions home label id entries factor
  /-- The first failure is the end, and there is no manifest then. -/
  stops : ∀ before x after, t = before ++ x :: after → Work.fails x = true →
    after = [] ∧ r.isOk = false
  /-- If there is no manifest, the end was a failure. -/
  fails : r.isOk = false → ∃ before x, t = before ++ [x] ∧ Work.fails x = true
  /-- There is a manifest exactly if all calls of staging were made and did what they are for. -/
  ok_iff : r.isOk = true ↔ storageCalls t = Staging.calls home label id entries factor ∧
    ∀ x ∈ t, (storageCall? x.question).isSome = true → Work.fails x = false

/-- If all calls were made, the end was not a local file. -/
lemma isOk_of_storageCalls {r : Attempt Manifest}
    (ht : InTurn (questions home label id entries factor) t r.isOk)
    (hall : storageCalls t = calls home label id entries factor)
    (hdone : ∀ x ∈ t, (storageCall? x.question).isSome = true → Work.fails x = false) :
    r.isOk = true := by
  by_contra hnot
  rw [Bool.not_eq_true] at hnot
  obtain ⟨more, hmore⟩ := ht.questions_prefix
  rw [hnot] at ht
  obtain ⟨before, x, rfl, hx⟩ := ht.exists_fails
  have hnone : more.filterMap storageCall? = [] := by
    have hsplit := congrArg (List.filterMap storageCall?) hmore
    rw [List.filterMap_append, filterMap_questions, ← hall] at hsplit
    exact List.append_right_eq_self.1 hsplit
  obtain ⟨call, init, hlast⟩ :
      ∃ call, [.storage call] <:+ questions home label id entries factor := exists_last_question
  rw [← hlast] at hmore
  rcases List.eq_nil_or_concat more with rfl | ⟨more, q, rfl⟩
  · rw [List.append_nil, List.map_append, List.map_singleton] at hmore
    have hq : x.question = .storage call := (List.append_singleton_inj.1 hmore).2
    have hgood := hdone x (List.mem_append_right _ (List.mem_singleton_self x)) (by rw [hq]; rfl)
    exact Bool.false_ne_true (hgood.symm.trans hx)
  · rw [List.concat_eq_append, ← List.append_assoc] at hmore
    obtain rfl := (List.append_singleton_inj.1 hmore).2
    rw [List.concat_eq_append, List.filterMap_append] at hnone
    exact List.cons_ne_nil _ _ (List.append_eq_nil_iff.1 hnone).2

/-- A run whose questions come in turn goes through the phases of staging. -/
lemma proceeds_of_inTurn {r : Attempt Manifest}
    (ht : InTurn (questions home label id entries factor) t r.isOk)
    (htold : ∃ answer later, t = ⟨.storage .homeDirectory, answer⟩ :: later ∧
      ∀ name, answer = .ok name → name = home) :
    Proceeds id label entries factor t r home where
  told := htold
  calls := by
    have hcalls := ht.questions_prefix.filterMap storageCall?
    rwa [filterMap_questions] at hcalls
  questions := ht.questions_prefix
  stops _ _ _ hsplit hx := ht.stops hsplit hx
  fails hnot := (hnot ▸ ht).exists_fails
  ok_iff := by
    refine ⟨fun hok => ?_, fun ⟨hall, hdone⟩ => isOk_of_storageCalls ht hall hdone⟩
    obtain ⟨hall, hdone⟩ := ht.eq_true_iff.1 hok
    exact ⟨by rw [storageCalls, hall, filterMap_questions], fun x hx _ => hdone x hx⟩

/-- **The calls of staging**, whatever is answered. Staging comes to an end, and either

1. an entry is not right. The first such entry decides: the form of its name is checked before the
   novelty, and this before the local file. No call of the storage is made; or
2. all entries are right. Then the calls are the first ones of a list that is known beforehand but
   for the home directory, up to the first failure, and staging gives a manifest exactly if the
   whole list was called without a failure.

**Proof sketch.** While entries are checked only local files are asked for. Every part of what
follows asks its questions in turn, and stops at the first one that fails; so does the whole. The
last question is a call, so if all calls were made no local file was the end. -/
theorem stage_calls (id : ApplicationId) (label : String) (entries : List ArtifactEntry)
    (factor : Option UInt16) :
    (∀ rule, ∃ t r, Ends (stage id label entries factor).run t r ∧ Obeys rule t) ∧
    ∀ t r, Ends (stage id label entries factor).run t r →
      (∃ e, Rejected entries t e ∧ storageCalls t = [] ∧ r = .error (.failed e)) ∨
        (Sound entries ∧ ∃ u home, t = entries.map found ++ u ∧
          Proceeds id label entries factor u r home) := by
  constructor
  · intro rule
    obtain ⟨⟨t, r⟩, hrun, -⟩ := Dialogue.existsUnique_ends (stage id label entries factor).run rule
    exact ⟨t, r, hrun⟩
  · intro t r hrun
    obtain ⟨t₁, t₂, r₁, rfl, hchecked, hrest⟩ := Dialogue.ends_run_bind_iff.1 hrun
    obtain ⟨e, hrejected, rfl⟩ | ⟨hsound, rfl, rfl⟩ :=
      rejected_or_sound (⟨nofun, .nil⟩ : Sound []) hchecked
    · obtain ⟨rfl, rfl⟩ := Dialogue.ends_pure_iff.1 hrest
      rw [List.append_nil]
      exact .inl ⟨e, hrejected, hrejected.storageCalls_eq_nil, rfl⟩
    · refine .inr ⟨hsound, t₂, ?_⟩
      obtain ⟨t₁, t₃, r₁, rfl, hhome, hcopied⟩ := Dialogue.ends_run_bind_iff.1 hrest
      obtain rfl := Work.ends_storage_iff.1 hhome
      cases r₁ with
      | error mishap =>
        obtain ⟨rfl, rfl⟩ := Dialogue.ends_pure_iff.1 hcopied
        refine ⟨"", rfl, proceeds_of_inTurn ?_ ⟨_, _, rfl, nofun⟩⟩
        exact InTurn.stop (x := ⟨.storage .homeDirectory, .error mishap⟩) rfl
      | ok home =>
        refine ⟨home, rfl, proceeds_of_inTurn ?_ ⟨_, _, rfl, fun _ h => (Except.ok.inj h).symm⟩⟩
        exact InTurn.next (x := ⟨.storage .homeDirectory, .ok home⟩) rfl
          (follows_copying home label id factor entries _ _ hcopied)

/-- The second of two local files is gone when it is its turn: the calls for the first one were
made, and none for the second one. -/
theorem stage_calls_of_lost_file :
    let a : ArtifactEntry := ⟨"dist/a.jar", "a.jar", .userJar⟩
    let b : ArtifactEntry := ⟨"dist/b.jar", "b.jar", .bundle⟩
    let path := Storage.remotePath (Storage.stagingDir "/user/flink//" "jobs" default) a.remoteName
    let u : List Work.Exchange := [⟨.storage .homeDirectory, .ok "/user/flink//"⟩,
      ⟨.digest a.localPath, .ok "ab"⟩, ⟨.storage (.upload a.localPath path), .ok ()⟩,
      ⟨.storage (.setReplication path 2), .ok ()⟩, ⟨.storage (.stat path), .ok (some ⟨3, 2, 1⟩)⟩,
      ⟨.digest b.localPath, .error .notFound⟩]
    path = "/user/flink/.jobs/application_0_0000/a.jar" ∧
      ∃ r, Ends (stage default "jobs" [a, b] (some 2)).run ([a, b].map found ++ u) r ∧
        Proceeds default "jobs" [a, b] (some 2) u r "/user/flink//" ∧ r.isOk = false := by
  intro a b path u
  have hchecked : Ends (validate [] [a, b]).run ([a, b].map found) (.ok ()) := by
    have ha : checkName [] a = none := by decide +kernel
    have hb : checkName [a.remoteName] b = none := by decide +kernel
    unfold validate
    rw [ha]
    refine .ask ?_
    change Ends (validate [a.remoteName] [b]).run _ _
    unfold validate
    rw [hb]
    exact .ask (.done _)
  have hrun : Ends (stage default "jobs" [a, b] (some 2)).run ([a, b].map found ++ u) _ :=
    Dialogue.ends_run_bind_iff.2 ⟨_, _, _, rfl, hchecked,
      .ask (.ask (.ask (.ask (.ask (.ask (.done _))))))⟩
  refine ⟨by decide +kernel, _, hrun, ?_⟩
  obtain ⟨e, -, hnone, -⟩ | ⟨-, u', home, hu, h⟩ :=
    (stage_calls default "jobs" [a, b] (some 2)).2 _ _ hrun
  · exact absurd hnone (List.cons_ne_nil _ _)
  · obtain rfl := List.append_cancel_left hu
    obtain ⟨answer, later, hfirst, hhome⟩ := h.told
    obtain ⟨⟨⟩, -⟩ := List.cons.inj hfirst
    obtain rfl := hhome _ rfl
    exact ⟨h, (h.stops (u.dropLast) _ [] rfl rfl).2⟩

end Staging

end ClusterDeploy
