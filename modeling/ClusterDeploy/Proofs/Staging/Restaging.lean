import ClusterDeploy.Proofs.Staging.Guarantees
import ClusterDeploy.Proofs.Staging.Traces
import ClusterDeploy.Proofs.Storage.Times

set_option relaxedAutoImplicit false
set_option autoImplicit false

/-!
# Staging again

Staging writes its files over those that lie at their paths. If it is done again with the same
entries, the storage holds the same files in as many copies as before, and the manifest is the same
but for the times, each of which is later by the number of the entries.

## Main definitions

* `StagedArtifact.delayed`, `Manifest.delayed` — the same at a later time.

## Main results

* `Staging.eq_of_carryOut_upload` — what one artifact becomes.
* `Staging.eq_delayed_of_carryOut_uploadAll` — artifacts that are copied again.
* `Staging.eq_delayed_of_carryOut_stage` — the manifest that is given the second time.
* `Staging.stage_again` — the whole of it.

## Implementation notes

Times have 64 bits and are added up as such. That a time is later in the order of the numbers can be
said only as long as the clock does not start again.
-/

namespace ClusterDeploy

namespace StagedArtifact

/-- The artifact, written later. -/
def delayed (span : UInt64) (a : StagedArtifact) : StagedArtifact :=
  { a with modificationTime := a.modificationTime + span }

end StagedArtifact

namespace Manifest

/-- The manifest of artifacts that were all written later. -/
def delayed (span : UInt64) (m : Manifest) : Manifest :=
  { m with artifacts := m.artifacts.map (·.delayed span) }

end Manifest

namespace Staging

open MemoryStorage (Event)
open Work (carryOut exists_of_carryOut_bind_eq_ok)

variable {fs : FileSystem} {s s' t t' : MemoryStorage} {label dir : String} {id : ApplicationId}
  {e : ArtifactEntry} {entries : List ArtifactEntry} {factor factor' : Option UInt16}
  {a : StagedArtifact} {l l' : List StagedArtifact} {m m' : Manifest} {span : UInt64}

/-! ## One artifact -/

/-- **What one artifact becomes.** The clock goes on by one. -/
lemma eq_of_carryOut_upload (h : carryOut fs (upload dir factor e) s = (.ok a, t)) :
    t.clock = s.clock + 1 ∧ ∃ content, fs.read e.localPath = .ok content ∧
      a = ⟨e, Storage.remotePath dir e.remoteName, Sha256.hex content,
        UInt64.ofNat content.length, s.clock + 1⟩ := by
  have hdigest := @Work.carryOut_digest fs s e.localPath
  unfold upload at h
  rcases hread : fs.read e.localPath with fault | content
  · rw [Work.carryOut_bind_of_ok hdigest, hread] at h
    exact nomatch (Prod.mk.inj h).1
  · rw [Work.carryOut_bind_of_ok hdigest, hread] at h
    dsimp only [Except.map] at h
    rw [Work.carryOut_bind_of_ok (Work.carryOut_pure _),
      Work.carryOut_bind_of_ok (carryOut_storage_upload hread)] at h
    generalize Storage.remotePath dir e.remoteName = path at h ⊢
    have hfile : (s.upload path content).file? path =
        some ⟨content, s.defaultReplication, s.clock + 1⟩ := by
      rw [MemoryStorage.file?_upload, if_pos rfl]
    cases factor with
    | none =>
      obtain ⟨ha, rfl⟩ := Prod.mk.inj (h.symm.trans (carryOut_upload_of_stat hfile))
      exact ⟨rfl, content, rfl, Except.ok.inj ha⟩
    | some n =>
      obtain ⟨⟨⟩, u, hset, h⟩ := exists_of_carryOut_bind_eq_ok h
      obtain ⟨-, rfl⟩ := Prod.mk.inj hset
      -- whatever comes of the number of copies, the time stays
      obtain ⟨copies, hcopies⟩ : ∃ copies,
          ((s.upload path content).setReplication path n).2.file? path =
            some ⟨content, copies, s.clock + 1⟩ := by
        rw [MemoryStorage.file?_setReplication, hfile]
        split <;> exact ⟨_, rfl⟩
      obtain ⟨ha, rfl⟩ := Prod.mk.inj (h.symm.trans (carryOut_upload_of_stat hcopies))
      exact ⟨MemoryStorage.keepsTimes_setReplication.clock, content, rfl, Except.ok.inj ha⟩

/-! ## All artifacts -/

/-- **Artifacts that are copied again**, in whatever state the storage is then, are the same at a
later time.

**Proof sketch.** Induction on the entries: each artifact moves both clocks on by one. -/
lemma eq_delayed_of_carryOut_uploadAll
    (h : carryOut fs (uploadAll dir factor entries) s = (.ok l, t))
    (h' : carryOut fs (uploadAll dir factor' entries) s' = (.ok l', t'))
    (hclock : s'.clock = s.clock + span) : l' = l.map (·.delayed span) := by
  induction entries generalizing s s' l l' with
  | nil =>
    obtain rfl := Except.ok.inj (Prod.mk.inj h).1
    exact (Except.ok.inj (Prod.mk.inj h').1).symm
  | cons e rest ih =>
    obtain ⟨a, u, others, hupload, hothers, rfl⟩ := exists_of_carryOut_uploadAll_cons h
    obtain ⟨a', u', others', hupload', hothers', rfl⟩ := exists_of_carryOut_uploadAll_cons h'
    obtain ⟨hu, content, hread, rfl⟩ := eq_of_carryOut_upload hupload
    obtain ⟨hu', content', hread', rfl⟩ := eq_of_carryOut_upload hupload'
    obtain rfl := Except.ok.inj (hread.symm.trans hread')
    have hclock' : s'.clock + 1 = s.clock + 1 + span := by
      rw [hclock, UInt64.add_assoc, UInt64.add_assoc, UInt64.add_comm span]
    rw [ih hothers hothers' (by rw [hu', hu, hclock']), List.map_cons, StagedArtifact.delayed,
      hclock']

/-- The clock goes on by the number of the artifacts, and their times are those between. -/
lemma clock_of_carryOut_uploadAll
    (h : carryOut fs (uploadAll dir factor entries) s = (.ok l, t)) :
    t.clock = s.clock + UInt64.ofNat entries.length ∧
      ∀ a ∈ l, ∃ i < entries.length, a.modificationTime = s.clock + UInt64.ofNat (i + 1) := by
  induction entries generalizing s l with
  | nil =>
    obtain ⟨hl, rfl⟩ := Prod.mk.inj h
    obtain rfl := Except.ok.inj hl
    exact ⟨(UInt64.add_zero _).symm, List.forall_mem_nil _⟩
  | cons e rest ih =>
    obtain ⟨a, u, others, hupload, hothers, rfl⟩ := exists_of_carryOut_uploadAll_cons h
    obtain ⟨hu, content, -, rfl⟩ := eq_of_carryOut_upload hupload
    obtain ⟨hclock, htimes⟩ := ih hothers
    have hnext : ∀ n, u.clock + UInt64.ofNat n = s.clock + UInt64.ofNat (n + 1) := by
      intro n
      rw [hu, UInt64.add_assoc, UInt64.ofNat_add, UInt64.add_comm 1]
      rfl
    refine ⟨hclock.trans (hnext _), List.forall_mem_cons.2 ⟨⟨0, Nat.succ_pos _, rfl⟩, ?_⟩⟩
    intro b hb
    obtain ⟨i, hi, htime⟩ := htimes b hb
    exact ⟨i + 1, Nat.succ_lt_succ hi, htime.trans (hnext _)⟩

/-! ## Staging -/

/-- A manifest is given if all artifacts are copied. The settings of the storage stay as they
are. -/
lemma exists_of_carryOut_stage_eq_ok
    (h : carryOut fs (stage id label entries factor) s = (.ok m, t)) :
    s.SameSettings t ∧ Admissible fs entries ∧ (IsWithin s factor ∨ entries = []) ∧
      carryOut fs (uploadAll (Storage.stagingDir s.home label id) factor entries) s =
        (.ok m.artifacts, t) ∧
      m = ⟨id, Storage.stagingDir s.home label id, m.artifacts, applied s factor⟩ := by
  obtain ⟨hadmissible, hfactor⟩ :=
    exists_carryOut_stage_eq_ok_iff.1 ⟨m, congrArg Prod.fst h⟩
  have hsettings := Work.sameSettings_carryOut fs (stage id label entries factor) s
  rw [h] at hsettings
  rw [carryOut_stage hadmissible.toValid] at h
  obtain ⟨artifacts, u, hcopied, h⟩ := exists_of_carryOut_bind_eq_ok h
  obtain ⟨hm, rfl⟩ := Prod.mk.inj h
  obtain rfl := Except.ok.inj hm
  exact ⟨hsettings, hadmissible, hfactor, hcopied, rfl⟩

/-- What the storage holds once the artifacts of a manifest were copied. -/
lemma placed_of_carryOut_stage
    (h : carryOut fs (stage id label entries factor) s = (.ok m, t)) :
    Placed fs m.stagingDir m.replication.factor m.artifacts s t := by
  obtain ⟨-, hadmissible, hfactor, -⟩ := exists_of_carryOut_stage_eq_ok h
  obtain ⟨m', t', hrun, -, -, -, -, hplaced⟩ :=
    carryOut_stage_of_admissible id label hadmissible hfactor
  obtain ⟨hm, rfl⟩ := Prod.mk.inj (h.symm.trans hrun)
  obtain rfl := Except.ok.inj hm
  exact hplaced

/-- The listed files end with the number of copies that is asked for, or else with the usual one. -/
lemma Placed.replication {n : UInt16} (h : Placed fs dir n l s t) (ha : a ∈ l) :
    (t.file? a.remotePath).map (·.replication) = some n := by
  obtain ⟨content, -, -, -, hfile⟩ := h.content a ha
  rw [hfile]
  rfl

/-- Copying the same files to the same paths again changes nothing but their times. -/
lemma Placed.held?_eq_of_again {n : UInt16} (h : Placed fs dir n l s t)
    (h' : Placed fs dir n (l.map (·.delayed span)) t t') (path : String) :
    t'.held? path = t.held? path := by
  unfold MemoryStorage.held?
  by_cases hpath : path ∈ l.map (·.remotePath)
  · obtain ⟨a, ha, rfl⟩ := List.mem_map.1 hpath
    obtain ⟨content, hread, -, -, hfile⟩ := h.content a ha
    obtain ⟨content', hread', -, -, hfile'⟩ := h'.content (a.delayed span) (List.mem_map_of_mem ha)
    obtain rfl := Except.ok.inj (hread.symm.trans hread')
    rw [hfile, show t'.file? a.remotePath = _ from hfile']
    rfl
  · rw [h'.others path]
    rwa [List.map_map]

/-- **A manifest that is given right after another one** for the same entries is the same at a later
time, but for the number of copies. -/
lemma eq_delayed_of_carryOut_stage
    (h : carryOut fs (stage id label entries factor) s = (.ok m, t))
    (h' : carryOut fs (stage id label entries factor') t = (.ok m', t')) :
    m' = { m.delayed (UInt64.ofNat entries.length) with replication := applied s factor' } := by
  obtain ⟨hsettings, -, -, hcopied, hm⟩ := exists_of_carryOut_stage_eq_ok h
  obtain ⟨-, -, -, hcopied', hm'⟩ := exists_of_carryOut_stage_eq_ok h'
  rw [hsettings.home] at hcopied' hm'
  rw [applied_of_sameSettings hsettings] at hm'
  have hlater := eq_delayed_of_carryOut_uploadAll hcopied hcopied'
    (clock_of_carryOut_uploadAll hcopied).1
  have hid : m.applicationId = id := by rw [hm]
  have hdir : m.stagingDir = Storage.stagingDir s.home label id := by rw [hm]
  rw [hm', hlater, Manifest.delayed, hid, hdir]

/-- **Staging again** gives the same manifest at a later time, and the storage holds the same. -/
lemma exists_carryOut_stage_delayed
    (h : carryOut fs (stage id label entries factor) s = (.ok m, t)) :
    ∃ u, carryOut fs (stage id label entries factor) t =
        (.ok (m.delayed (UInt64.ofNat entries.length)), u) ∧
      Placed fs m.stagingDir m.replication.factor
        (m.delayed (UInt64.ofNat entries.length)).artifacts t u ∧
      ∀ path, u.held? path = t.held? path := by
  obtain ⟨hsettings, hadmissible, hfactor, -, hm⟩ := exists_of_carryOut_stage_eq_ok h
  obtain ⟨m', u, hrun, -⟩ := carryOut_stage_of_admissible id label hadmissible
    (hfactor.imp_left fun hwithin n hn => hsettings.maxReplication.symm ▸ hwithin n hn)
  have hreplication : m.replication = applied s factor := by rw [hm]
  have hm' : m' = m.delayed (UInt64.ofNat entries.length) := by
    rw [eq_delayed_of_carryOut_stage h hrun, ← hreplication]
    rfl
  obtain rfl := hm'
  have hplaced := placed_of_carryOut_stage hrun
  exact ⟨u, hrun, hplaced, (placed_of_carryOut_stage h).held?_eq_of_again hplaced⟩

/-- A time of the first manifest is before that of the second one, if the clock does not start again
meanwhile. -/
lemma modificationTime_lt_delayed (hclock : s.clock.toNat + 2 * entries.length < UInt64.size)
    (h : carryOut fs (uploadAll dir factor entries) s = (.ok l, t)) (ha : a ∈ l) :
    a.modificationTime < (a.delayed (UInt64.ofNat entries.length)).modificationTime := by
  obtain ⟨i, hi, htime⟩ := (clock_of_carryOut_uploadAll h).2 a ha
  rw [← UInt64.ofNat_toNat (x := s.clock), ← UInt64.ofNat_add] at htime
  rw [StagedArtifact.delayed, htime, ← UInt64.ofNat_add, UInt64.lt_iff_toNat_lt,
    UInt64.toNat_ofNat_of_lt' (by omega), UInt64.toNat_ofNat_of_lt' (by omega)]
  omega

/-- **Staging is idempotent but for the times.** On a storage in memory, after whatever happened to
it since it was empty,

1. times of files are numbers of uploads, of which the clock is the last one, and no two files have
   the same; so no time is ahead of the clock, and all times are different, until the clock starts
   again, which takes as many uploads as 64 bits can count;
2. if artifacts are staged, the manifest has one for each entry, in order, and the storage holds
   their files;
3. then they can be staged again right away with the same manifest at a later time: the files are
   written anew at these times, and all paths, contents and numbers of copies in the storage are
   those from before;
4. each of these times is strictly later, until the clock starts again;
5. if they are staged again with another number of copies, or without one, the manifest is the same
   at a later time with this number, and there are as many copies of each listed file then, or else
   the usual number, however many there were;
6. in a rehearsal in which the storage is in memory and no rule disturbs it, staging goes like this,
   with the local files and the storage of the moment.

**Proof sketch.** Staging depends on the local files and the settings of the storage only, except
for the times, and these follow the clock, which one staging moves on by the number of the entries.
What is written later has other paths. -/
theorem stage_again (home : String) (usual limit : UInt16) (events : List Event)
    (fs : FileSystem) (id : ApplicationId) (label : String) (entries : List ArtifactEntry)
    (factor : Option UInt16) :
    let s := (MemoryStorage.empty home usual limit).afterAll events
    let span := UInt64.ofNat entries.length
    ((∃ total number, total ≤ events.countP Event.isUpload ∧ s.Numbered total number) ∧
      (events.countP Event.isUpload < UInt64.size → s.HasOrderedTimes)) ∧
    (∀ m t, carryOut fs (stage id label entries factor) s = (.ok m, t) →
      (m.applicationId = id ∧ m.stagingDir = Storage.stagingDir home label id ∧
        m.artifacts.map (·.entry) = entries ∧ m.replication = applied s factor ∧
        Placed fs m.stagingDir m.replication.factor m.artifacts s t) ∧
      (∃ u, carryOut fs (stage id label entries factor) t = (.ok (m.delayed span), u) ∧
        Placed fs m.stagingDir m.replication.factor (m.delayed span).artifacts t u ∧
        ∀ path, u.held? path = t.held? path) ∧
      (s.clock.toNat + 2 * entries.length < UInt64.size → ∀ a ∈ m.artifacts,
        a.modificationTime < (a.delayed span).modificationTime) ∧
      ∀ factor' m' u, carryOut fs (stage id label entries factor') t = (.ok m', u) →
        m' = { m.delayed span with replication := applied s factor' } ∧
        ∀ a ∈ m.artifacts,
          (u.file? a.remotePath).map (·.replication) = some (factor'.getD usual)) ∧
    ∀ (b : Rehearsal.Backends) (pass : Millis → Rehearsal.Run Unit) (limit : Option Millis)
      (now : Millis) (w : Rehearsal.World), b.storage = .memory → w.IsPlain →
      ∃ w' : Rehearsal.World, w'.IsPlain ∧ w'.files = w.files ∧
        w'.storage = (carryOut w.files (stage id label entries factor) w.storage).2 ∧
        (Rehearsal.runFrom pass limit
          (Rehearsal.workThread b (stage id label entries factor)) now).run w =
          (.over now (carryOut w.files (stage id label entries factor) w.storage).1, w') := by
  intro s span
  obtain ⟨total, number, hle, hnumbered⟩ : ∃ total number,
      total ≤ 0 + events.countP Event.isUpload ∧ s.Numbered total number :=
    MemoryStorage.exists_numbered_afterAll (MemoryStorage.numbered_empty home usual limit) events
  rw [Nat.zero_add] at hle
  have hsettings := MemoryStorage.sameSettings_afterAll (.empty home usual limit) events
  have hlocal : (Operation.stage id label entries factor).IsLocal := trivial
  refine ⟨⟨⟨total, number, hle, hnumbered⟩,
    fun hfew => hnumbered.hasOrderedTimes (Nat.lt_of_le_of_lt hle hfew)⟩, fun m t h =>
    ⟨?_, exists_carryOut_stage_delayed h, fun hclock a ha => ?_, fun factor' m' u h' =>
      ⟨eq_delayed_of_carryOut_stage h h', fun a ha => ?_⟩⟩, fun b pass limit now w hb hw =>
    Rehearsal.runFrom_operation hlocal hb hw⟩
  · obtain ⟨-, hadmissible, hfactor, -⟩ := exists_of_carryOut_stage_eq_ok h
    obtain ⟨m', t', hrun, hid, hdir, hentries, happlied, hplaced⟩ :=
      carryOut_stage_of_admissible id label hadmissible hfactor
    obtain ⟨hm, rfl⟩ := Prod.mk.inj (h.symm.trans hrun)
    obtain rfl := Except.ok.inj hm
    rw [hsettings.home] at hdir
    exact ⟨hid, hdir, hentries, happlied, hplaced⟩
  · obtain ⟨-, -, -, hcopied, -⟩ := exists_of_carryOut_stage_eq_ok h
    exact modificationTime_lt_delayed hclock hcopied ha
  · have hplaced := placed_of_carryOut_stage h'
    rw [eq_delayed_of_carryOut_stage h h'] at hplaced
    have hfactor : (applied s factor').factor = factor'.getD usual := by
      cases factor' with
      | none => exact hsettings.defaultReplication
      | some n => rfl
    have hlisted : a.delayed span ∈ m.artifacts.map (·.delayed span) := List.mem_map_of_mem ha
    have hreplication := hplaced.replication hlisted
    rw [← hfactor]
    exact hreplication

/-- Something else lies where the first artifact goes, in a number of copies that nobody asked for.
The second time four copies are made again, or the usual three. -/
theorem stage_again_of_leftover :
    let fs : FileSystem := ⟨[(["a.jar"], .file [1, 2]), (["b"], .file [])], fun _ => []⟩
    let entries : List ArtifactEntry := [⟨"a.jar", "a.jar", .bundle⟩, ⟨"b", "lib", .library⟩]
    let s := (MemoryStorage.empty "/home" 3 5).afterAll
      [.call fs (.upload "b" "/home/.p/application_1_0001/a.jar"),
        .overwrite "/home/.p/application_1_0001/a.jar" 1]
    ∃ m t u v m', carryOut fs (stage ⟨1, 1⟩ "p" entries (some 4)) s = (.ok m, t) ∧
      m.artifacts.map (·.entry) = entries ∧
      carryOut fs (stage ⟨1, 1⟩ "p" entries (some 4)) t = (.ok (m.delayed 2), u) ∧
      (∀ a ∈ m.artifacts, a.modificationTime < (a.delayed 2).modificationTime) ∧
      carryOut fs (stage ⟨1, 1⟩ "p" entries none) t = (.ok m', v) ∧
      ∀ a ∈ m.artifacts, (v.file? a.remotePath).map (·.replication) = some 3 := by
  intro fs entries s
  obtain ⟨-, hagain, -⟩ := stage_again "/home" 3 5 [.call fs (.upload "b"
    "/home/.p/application_1_0001/a.jar"), .overwrite "/home/.p/application_1_0001/a.jar" 1] fs
    ⟨1, 1⟩ "p" entries (some 4)
  have hbundle : fs.read "a.jar" = .ok [1, 2] := by
    apply FileSystem.read_of_relative ["a.jar"] <;> decide +kernel
  have hlibrary : fs.read "b" = .ok [] := by
    apply FileSystem.read_of_relative ["b"] <;> decide +kernel
  have hadmissible : Admissible fs entries :=
    .of_readable (by unfold Storage.IsFileName; decide) (by decide)
      (List.forall_mem_cons.2 ⟨⟨_, hbundle⟩, List.forall_mem_singleton.2 ⟨_, hlibrary⟩⟩)
  have hclock : s.clock = 1 := by
    simp only [s, MemoryStorage.afterAll, List.foldl, MemoryStorage.after, MemoryStorage.answer,
      hlibrary]
    rfl
  have hlimit : s.maxReplication = 5 :=
    (MemoryStorage.sameSettings_afterAll _ _).maxReplication
  obtain ⟨m, t, hrun, -⟩ := carryOut_stage_of_admissible ⟨1, 1⟩ "p" hadmissible
    (.inl fun n hn => by
      rw [hlimit, ← Option.some.inj hn]
      decide : IsWithin s (some 4) ∨ entries = [])
  obtain ⟨m', v, hother, -⟩ := carryOut_stage_of_admissible ⟨1, 1⟩ "p" hadmissible
    (.inl fun n hn => absurd hn.symm (Option.some_ne_none n) : IsWithin t none ∨ entries = [])
  obtain ⟨⟨-, -, hentries, -⟩, ⟨u, hrun', -⟩, hlater, hfactor⟩ := hagain m t hrun
  refine ⟨m, t, u, v, m', hrun, hentries, hrun', hlater ?_, hother, (hfactor none m' v hother).2⟩
  rw [hclock]
  decide

end Staging

end ClusterDeploy
