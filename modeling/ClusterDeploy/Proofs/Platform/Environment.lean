import ClusterDeploy.Proofs.Launch
import ClusterDeploy.Proofs.Platform.Submission
import ClusterDeploy.Proofs.Staging.Observing
import ClusterDeploy.Proofs.Text.Splitting

set_option relaxedAutoImplicit false
set_option autoImplicit false

/-!
# The classpaths in the environment of a cluster

A cluster learns its two classpaths from two variables of its environment. The names on a classpath
stand in its variable with colons between them, so whoever splits the value at the colons finds the
names again, unless there are colons in the names themselves. The check of the names before they are
staged does not rule that out.

## Main definitions

* `Staging.Accepts` — entries that pass the check before anything is copied.
* `ResourceManager.classpathEntries` — what a cluster finds in the value of a variable.
* `ResourceManager.valueOf?` — the value of a variable in the bytes of a document.

## Main results

* `ResourceManager.classpathEntries_join` — the names with colons between them, split again.
* `ResourceManager.classpathEntries_join_eq_iff` — when they are read back.
* `ResourceManager.join_eq_iff` — when two lists of names have the same value.
* `ResourceManager.valueOf?_submission` — the environment in the request for a cluster.
* `ResourceManager.classpath_readable_iff` — when the classpaths are read back.
-/

namespace ClusterDeploy

open Dialogue (Ends)

/-! ## Names -/

namespace Staging

/-- Entries that pass the check before anything is copied. -/
def Accepts (entries : List ArtifactEntry) : Prop :=
  ∃ asked, Ends (validate [] entries).run asked (.ok ())

/-- Entries pass the check, for some local files, exactly if their names are right. -/
lemma accepts_iff {entries : List ArtifactEntry} : Accepts entries ↔ Sound entries := by
  constructor
  · rintro ⟨asked, hrun⟩
    obtain ⟨e, -, hfailed⟩ | ⟨hsound, -⟩ := rejected_or_sound (⟨nofun, .nil⟩ : Sound []) hrun
    · exact nomatch hfailed
    · exact hsound
  · exact fun hsound => ⟨_, ends_validate hsound fun _ _ => List.not_mem_nil⟩

end Staging

namespace ResourceManager

variable {rm : ResourceManager} {request : ClusterRequest} {names names' : List String}
  {value value' : String}

/-! ## Values -/

/-- What a cluster finds in the value of a variable: the names between the colons. -/
def classpathEntries (value : String) : List String :=
  (Text.splitAt ':' value.toList).map String.ofList

/-- The value of a variable for names. -/
abbrev join (names : List String) : String :=
  classpathSeparator.intercalate names

/-- The first of several names is followed by a colon and the others. -/
lemma join_cons_cons {first second : String} {rest : List String} :
    (join (first :: second :: rest)).toList =
      first.toList ++ ':' :: (join (second :: rest)).toList := by
  simp [join, classpathSeparator]

/-- **Names with colons between them, split again,** are what each of the names is split into. -/
lemma classpathEntries_join (h : names ≠ []) :
    classpathEntries (join names) = names.flatMap classpathEntries := by
  induction names with
  | nil => exact absurd rfl h
  | cons first rest ih =>
    cases rest with
    | nil => simp
    | cons second rest =>
      rw [List.flatMap_cons, ← ih (List.cons_ne_nil second rest)]
      simp only [classpathEntries, join_cons_cons, Text.splitAt_append, List.map_append]

/-- A value has at least one entry, even if it is empty. -/
lemma classpathEntries_ne_nil (value : String) : classpathEntries value ≠ [] :=
  fun h => Text.splitAt_ne_nil ':' value.toList (List.map_eq_nil_iff.1 h)

/-- No name that is found has a colon in it. -/
lemma notMem_of_mem_classpathEntries {name : String} (h : name ∈ classpathEntries value) :
    ':' ∉ name.toList := by
  obtain ⟨part, hpart, rfl⟩ := List.mem_map.1 h
  rw [String.toList_ofList]
  exact Text.notMem_of_mem_splitAt hpart

/-- A value without a colon is its own only entry. -/
lemma classpathEntries_of_notMem (h : ':' ∉ value.toList) : classpathEntries value = [value] := by
  rw [classpathEntries, Text.splitAt_of_notMem h, List.map_singleton, String.ofList_toList]

/-- What is found tells the value. -/
lemma classpathEntries_inj (h : classpathEntries value = classpathEntries value') :
    value = value' := by
  have hparts : Text.splitAt ':' value.toList = Text.splitAt ':' value'.toList :=
    List.map_injective_iff.2 (fun s t hst => String.ofList_injective hst) h
  have hsame := congrArg (List.flatMap (':' :: ·)) hparts
  rw [Text.flatMap_splitAt, Text.flatMap_splitAt] at hsame
  exact String.toList_inj.1 (List.tail_eq_of_cons_eq hsame)

/-- Names are what they are split into exactly if there are no colons in them. -/
lemma flatMap_classpathEntries_eq_iff :
    names.flatMap classpathEntries = names ↔ ∀ name ∈ names, ':' ∉ name.toList := by
  constructor
  · intro h name hname
    rw [← h] at hname
    obtain ⟨whole, -, hpart⟩ := List.mem_flatMap.1 hname
    exact notMem_of_mem_classpathEntries hpart
  · intro h
    induction names with
    | nil => rfl
    | cons name names ih =>
      obtain ⟨hname, hnames⟩ := List.forall_mem_cons.1 h
      rw [List.flatMap_cons, classpathEntries_of_notMem hname, ih hnames, List.singleton_append]

/-- **Names are read back exactly if there are some, and no colons in them.** -/
lemma classpathEntries_join_eq_iff : classpathEntries (join names) = names ↔
    names ≠ [] ∧ ∀ name ∈ names, ':' ∉ name.toList := by
  by_cases hnames : names = []
  · subst hnames
    exact iff_of_false (classpathEntries_ne_nil _) fun h => h.1 rfl
  · rw [classpathEntries_join hnames, flatMap_classpathEntries_eq_iff, and_iff_right hnames]

/-- Names that are not empty are not joined to nothing. -/
lemma join_ne_empty (h : ∀ name ∈ names, name ≠ "") (hnames : names ≠ []) : join names ≠ "" := by
  obtain ⟨first, rest, rfl⟩ := List.exists_cons_of_ne_nil hnames
  cases rest with
  | nil => simpa using h
  | cons second rest =>
    intro hempty
    have hlist := congrArg String.toList hempty
    rw [join_cons_cons] at hlist
    simp at hlist

/-- Where there is a name there is an entry. -/
lemma flatMap_classpathEntries_ne_nil (h : names ≠ []) : names.flatMap classpathEntries ≠ [] := by
  rw [← classpathEntries_join h]
  exact classpathEntries_ne_nil _

/-- **Two lists of names have the same value exactly if they are split into the same names.** -/
lemma join_eq_iff (h : ∀ name ∈ names, name ≠ "") (h' : ∀ name ∈ names', name ≠ "") :
    join names' = join names ↔
      names'.flatMap classpathEntries = names.flatMap classpathEntries := by
  by_cases hnames : names = [] <;> by_cases hnames' : names' = []
  · rw [hnames, hnames']
    exact iff_of_true rfl rfl
  · subst hnames
    exact iff_of_false (join_ne_empty h' hnames') (flatMap_classpathEntries_ne_nil hnames')
  · subst hnames'
    exact iff_of_false (join_ne_empty h hnames).symm (flatMap_classpathEntries_ne_nil hnames).symm
  · rw [← classpathEntries_join hnames, ← classpathEntries_join hnames']
    exact ⟨congrArg classpathEntries, classpathEntries_inj⟩

/-! ## The document -/

/-- A variable that an entry of a document names, with its value. -/
def assignment? (doc : Json) : Option (String × String) := do
  let .string key ← doc.get? "key" | none
  let .string value ← doc.get? "value" | none
  return (key, value)

/-- The variables that are named in the bytes of a document, in order. -/
def environment? (bytes : Bytes) : Option (List (String × String)) := do
  let doc ← Json.parse bytes
  let spec ← doc.get? "am-container-spec"
  let environment ← spec.get? "environment"
  let .array entries ← environment.get? "entry" | none
  entries.mapM assignment?

/-- The value of a variable in the bytes of a document. -/
def valueOf? (name : String) (bytes : Bytes) : Option String :=
  (environment? bytes).bind (·.lookup name)

/-- **The variables in the request for a cluster** are those of its environment. -/
lemma environment?_submission :
    environment? (Utf8.encode (rm.submission request).compact) = some (environment request) := by
  have hparse : Json.parse (Utf8.encode (rm.submission request).compact) =
      some (rm.submission request) :=
    Json.parse_compact (canonical_submission : Json.Canonical (121 + 6) _)
  have hentries : ((environment request).map fun v =>
      object [("key", .string v.1), ("value", .string v.2)]).mapM assignment? =
        some ((environment request).map fun v => v) :=
    Json.mapM_map_eq_some fun v _ => by
      simp [assignment?, object, Json.membersOf, Json.get?, Json.find?_insertMember]
  rw [List.map_id'] at hentries
  rw [environment?, hparse]
  simpa [submission, object, Json.membersOf, Json.get?, Json.find?_insertMember,
    List.foldl_append] using hentries

/-- **The variables of the classpaths** in the request for a cluster. -/
lemma valueOf?_submission :
    valueOf? "JOBCLUSTER_CLASSPATH" (Utf8.encode (rm.submission request).compact) =
        some (join request.systemClasspath) ∧
      valueOf? "JOBCLUSTER_USER_CLASSPATH" (Utf8.encode (rm.submission request).compact) =
        some (join request.userClasspath) := by
  rw [valueOf?, valueOf?, environment?_submission]
  exact ⟨rfl, rfl⟩

/-! ## The classpaths -/

/-- The names on the classpaths of entries that pass the check are not empty. -/
lemma forall_ne_empty_of_accepts {config : Config} {job : Job} {m : Manifest}
    (h : Staging.Accepts (m.artifacts.map (·.entry))) :
    ∀ name ∈ (Launch.request config job m).systemClasspath ++
      (Launch.request config job m).userClasspath, name ≠ "" :=
  Launch.forall_mem_classpath_iff.2 fun a ha =>
    ((Staging.accepts_iff.1 h).names a.entry (List.mem_map_of_mem ha)).1

/-- **The requests for two clusters have the same values** exactly if the names on their classpaths
are split into the same names. -/
lemma valueOf?_submission_eq_iff {rm' : ResourceManager} {request' : ClusterRequest}
    (h : ∀ name ∈ request.systemClasspath ++ request.userClasspath, name ≠ "")
    (h' : ∀ name ∈ request'.systemClasspath ++ request'.userClasspath, name ≠ "") :
    (valueOf? "JOBCLUSTER_CLASSPATH" (Utf8.encode (rm'.submission request').compact) =
        some (join request.systemClasspath) ↔
      request'.systemClasspath.flatMap classpathEntries =
        request.systemClasspath.flatMap classpathEntries) ∧
    (valueOf? "JOBCLUSTER_USER_CLASSPATH" (Utf8.encode (rm'.submission request').compact) =
        some (join request.userClasspath) ↔
      request'.userClasspath.flatMap classpathEntries =
        request.userClasspath.flatMap classpathEntries) := by
  obtain ⟨hsystem, huser⟩ := List.forall_mem_append.1 h
  obtain ⟨hsystem', huser'⟩ := List.forall_mem_append.1 h'
  rw [valueOf?_submission.1, valueOf?_submission.2, Option.some_inj, Option.some_inj]
  exact ⟨join_eq_iff hsystem hsystem', join_eq_iff huser huser'⟩

/-- Names without colons are what they are split into. -/
lemma flatMap_classpathEntries_of_plain {config : Config} {job : Job} {m : Manifest}
    (h : ∀ a ∈ m.artifacts, ':' ∉ a.entry.remoteName.toList) :
    (Launch.request config job m).systemClasspath.flatMap classpathEntries =
        (Launch.request config job m).systemClasspath ∧
      (Launch.request config job m).userClasspath.flatMap classpathEntries =
        (Launch.request config job m).userClasspath :=
  (List.forall_mem_append.1 (Launch.forall_mem_classpath_iff.2 h)).imp
    flatMap_classpathEntries_eq_iff.2 flatMap_classpathEntries_eq_iff.2

/-- **The classpaths are read back exactly if there are no colons in the names.** For every manifest
whose entries pass the check before they are staged, and for every configuration, in particular
every policy about the jars of the job:

1. whatever is said while the cluster is created, the document that is sent is the request for it,
   and it has a value for each of the two variables;
2. a cluster that splits the value of a variable at the colons finds the names on the classpath
   exactly if there are some and none of them has a colon in it;
3. the request for another cluster has the same value exactly if the names on its classpath are
   split into the same names. So if no name has a colon in it, different classpaths have different
   values.

**Proof sketch.** Splitting the value is splitting each of the names (`classpathEntries_join`), and
a name without a colon is its only part. The value is told from its parts, and no name is empty. -/
theorem classpath_readable_iff (rm : ResourceManager) (config : Config) (job : Job) (m : Manifest)
    (haccepted : Staging.Accepts (m.artifacts.map (·.entry))) :
    let request := Launch.request config job m
    let body := Utf8.encode (rm.submission request).compact
    (∀ c r, Ends (rm.createCluster request).run c r → ∀ x ∈ c, ∀ server target bytes,
      x.question = .exchange ⟨server, "POST", target, some ⟨"application/json", bytes⟩⟩ →
        bytes = body) ∧
    ∃ system user, valueOf? "JOBCLUSTER_CLASSPATH" body = some system ∧
      valueOf? "JOBCLUSTER_USER_CLASSPATH" body = some user ∧
      (classpathEntries system = request.systemClasspath ↔
        request.systemClasspath ≠ [] ∧ ∀ name ∈ request.systemClasspath, ':' ∉ name.toList) ∧
      (classpathEntries user = request.userClasspath ↔
        request.userClasspath ≠ [] ∧ ∀ name ∈ request.userClasspath, ':' ∉ name.toList) ∧
      ∀ (rm' : ResourceManager) (config' : Config) (job' : Job) (m' : Manifest),
        Staging.Accepts (m'.artifacts.map (·.entry)) →
        let request' := Launch.request config' job' m'
        let body' := Utf8.encode (rm'.submission request').compact
        (valueOf? "JOBCLUSTER_CLASSPATH" body' = some system ↔
          request'.systemClasspath.flatMap classpathEntries =
            request.systemClasspath.flatMap classpathEntries) ∧
        (valueOf? "JOBCLUSTER_USER_CLASSPATH" body' = some user ↔
          request'.userClasspath.flatMap classpathEntries =
            request.userClasspath.flatMap classpathEntries) ∧
        ((∀ a ∈ m.artifacts ++ m'.artifacts, ':' ∉ a.entry.remoteName.toList) →
          (valueOf? "JOBCLUSTER_CLASSPATH" body' = some system ↔
            request'.systemClasspath = request.systemClasspath) ∧
          (valueOf? "JOBCLUSTER_USER_CLASSPATH" body' = some user ↔
            request'.userClasspath = request.userClasspath)) := by
  intro request body
  refine ⟨fun c r hrun => bytes_of_ends_createCluster hrun, join request.systemClasspath,
    join request.userClasspath, valueOf?_submission.1, valueOf?_submission.2,
    classpathEntries_join_eq_iff, classpathEntries_join_eq_iff, ?_⟩
  intro rm' config' job' m' haccepted' request' body'
  obtain ⟨hsystem, huser⟩ := valueOf?_submission_eq_iff
    (forall_ne_empty_of_accepts haccepted) (forall_ne_empty_of_accepts haccepted')
  refine ⟨hsystem, huser, fun hplain => ?_⟩
  obtain ⟨hm, hm'⟩ := List.forall_mem_append.1 hplain
  obtain ⟨hparts, hpartsUser⟩ := flatMap_classpathEntries_of_plain hm
  obtain ⟨hparts', hpartsUser'⟩ := flatMap_classpathEntries_of_plain hm'
  rw [hsystem, huser, hparts, hpartsUser, hparts', hpartsUser']
  exact ⟨Iff.rfl, Iff.rfl⟩

/-- A bundle, a library and a jar of the job, with usual names. -/
theorem classpath_readable_iff_of_usual_names :
    let artifact (role : ArtifactRole) (name : String) : StagedArtifact :=
      ⟨⟨name, name, role⟩, "/s/" ++ name, "", 1, 0⟩
    let m : Manifest := ⟨⟨1, 1⟩, "/s", [artifact .bundle "dist.jar", artifact .library "util-2.jar",
      artifact .userJar "job.jar"], .storageDefault 3⟩
    let rm : ResourceManager := .ofUrl "http://rm:8088" "hdfs://nn:8020"
    let body := Utf8.encode
      (rm.submission (Launch.request .default ⟨"j", "j", 1, [], ["job.jar"]⟩ m)).compact
    Staging.Accepts (m.artifacts.map (·.entry)) ∧
      valueOf? "JOBCLUSTER_CLASSPATH" body = some "util-2.jar:dist.jar" ∧
      classpathEntries "util-2.jar:dist.jar" = ["util-2.jar", "dist.jar"] ∧
      valueOf? "JOBCLUSTER_USER_CLASSPATH" body = some "job.jar" ∧
      classpathEntries "job.jar" = ["job.jar"] := by
  intro artifact m rm body
  have haccepted : Staging.Accepts (m.artifacts.map (·.entry)) :=
    Staging.accepts_iff.2 ⟨by simp only [Storage.IsFileName]; decide, by decide⟩
  obtain ⟨-, system, user, hsystem, huser, hreadable, hreadableUser, -⟩ :=
    classpath_readable_iff rm .default ⟨"j", "j", 1, [], ["job.jar"]⟩ m haccepted
  have hclasspath : (Launch.request .default ⟨"j", "j", 1, [], ["job.jar"]⟩ m).systemClasspath =
      ["util-2.jar", "dist.jar"] := by
    change Launch.sortNames ["util-2.jar"] ++ ["dist.jar"] = _
    rw [Launch.sortNames, List.mergeSort_singleton, List.singleton_append]
  have hvalue : system = "util-2.jar:dist.jar" := by
    rw [← Option.some.inj (valueOf?_submission.1.symm.trans hsystem), hclasspath]
    rfl
  have hvalueUser : user = "job.jar" :=
    (Option.some.inj (valueOf?_submission.2.symm.trans huser)).symm
  rw [hclasspath, hvalue] at hreadable
  rw [hvalueUser] at hreadableUser
  exact ⟨haccepted, hvalue ▸ hsystem, hreadable.2 ⟨by decide, by decide⟩, hvalueUser ▸ huser,
    hreadableUser.2 ⟨by decide, by decide⟩⟩

/-- **A colon in a name merges classpaths.** A bundle with a colon in its name passes the check, and
so do a library and a bundle with the parts of it as their names. Their classpaths are different,
but the variables have the same value, from which only the second classpath is read back. So a
cluster finds the jar of the job on the system classpath, although the policy keeps it off. -/
theorem classpath_merged :
    let artifact (role : ArtifactRole) (name : String) : StagedArtifact :=
      ⟨⟨name, name, role⟩, "/s/" ++ name, "", 1, 0⟩
    let m : Manifest := ⟨⟨1, 1⟩, "/s", [artifact .bundle "dist.jar:job.jar",
      artifact .userJar "job.jar"], .storageDefault 3⟩
    let m' : Manifest := ⟨⟨1, 1⟩, "/s", [artifact .bundle "job.jar", artifact .library "dist.jar"],
      .storageDefault 3⟩
    let rm : ResourceManager := .ofUrl "http://rm:8088" "hdfs://nn:8020"
    let config : Config := { Config.default with classpathInclusion := .disabled }
    let request (m : Manifest) := Launch.request config ⟨"j", "j", 1, [], []⟩ m
    let body (m : Manifest) := Utf8.encode (rm.submission (request m)).compact
    Staging.Accepts (m.artifacts.map (·.entry)) ∧ Staging.Accepts (m'.artifacts.map (·.entry)) ∧
      (request m).systemClasspath = ["dist.jar:job.jar"] ∧
      (request m).userClasspath = ["job.jar"] ∧
      (request m').systemClasspath = ["dist.jar", "job.jar"] ∧
      valueOf? "JOBCLUSTER_CLASSPATH" (body m) = some "dist.jar:job.jar" ∧
      valueOf? "JOBCLUSTER_CLASSPATH" (body m') = some "dist.jar:job.jar" ∧
      classpathEntries "dist.jar:job.jar" = (request m').systemClasspath ∧
      (request m').systemClasspath ≠ (request m).systemClasspath := by
  intro artifact m m' rm config request body
  have haccepted : Staging.Accepts (m.artifacts.map (·.entry)) :=
    Staging.accepts_iff.2 ⟨by simp only [Storage.IsFileName]; decide, by decide⟩
  have haccepted' : Staging.Accepts (m'.artifacts.map (·.entry)) :=
    Staging.accepts_iff.2 ⟨by simp only [Storage.IsFileName]; decide, by decide⟩
  have hclasspath : (request m).systemClasspath = ["dist.jar:job.jar"] := by
    change Launch.sortNames [] ++ ["dist.jar:job.jar"] = _
    rw [Launch.sortNames, List.mergeSort_nil, List.nil_append]
  have hclasspath' : (request m').systemClasspath = ["dist.jar", "job.jar"] := by
    change Launch.sortNames ["dist.jar"] ++ ["job.jar"] = _
    rw [Launch.sortNames, List.mergeSort_singleton, List.singleton_append]
  refine ⟨haccepted, haccepted', hclasspath, rfl, hclasspath', ?_, ?_, ?_, ?_⟩
  · rw [valueOf?_submission.1, hclasspath]
    rfl
  · rw [valueOf?_submission.1, hclasspath']
    rfl
  · rw [hclasspath']
    decide
  · rw [hclasspath, hclasspath']
    decide

end ResourceManager

end ClusterDeploy
