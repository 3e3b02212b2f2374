import ClusterDeploy.Proofs.Ledger.Inspection
import Mathlib.Data.List.Pairwise

set_option relaxedAutoImplicit false
set_option autoImplicit false

/-!
# The newest deployments

The list of the newest deployments is cut off at a limit, so the order of the records decides which
of them are shown. Later starts come first. Of deployments that started in the same second the one
whose id has the greater text comes first, which need not be the one with the greater id: the texts
of ids are not all of one width.

## Main definitions

* `ApplicationId.Less`, `ApplicationId.TextLess` — the order of ids, and that of their texts.
* `DeploymentRecord.Before` — the order of records, for an order of ids.
* `Ledger.Newest` — what a list of the newest records is.
* `Ledger.Agree` — two orders of ids agree on what is found.
* `Ledger.manifest?` — the manifest that a start tells.

## Main results

* `Ledger.newest_newestFirst` — the list is that of the newest, by the texts of ids.
* `Ledger.Newest.iff_of_agree` — when it is that of the newest by the ids themselves.
* `Ledger.latest_manifest` — a record has the artifacts of the last start that was noted.
-/

namespace ClusterDeploy

namespace ApplicationId

/-- The order of ids: by time, then by running number. -/
def Less (a b : ApplicationId) : Prop :=
  b.le a = false

/-- The order of the texts of ids. -/
def TextLess (a b : ApplicationId) : Prop :=
  a.display < b.display

/-- The order of application ids can be decided. -/
instance (a b : ApplicationId) : Decidable (Less a b) :=
  inferInstanceAs (Decidable (_ = _))

/-- The order of their texts can be decided. -/
instance (a b : ApplicationId) : Decidable (TextLess a b) :=
  inferInstanceAs (Decidable (_ < _))

/-- Of two application ids one comes first, or they are the same. -/
lemma le_total {a b : ApplicationId} : a.le b = true ∨ b.le a = true := by
  simp only [le, Bool.or_eq_true, Bool.and_eq_true, decide_eq_true_eq, beq_iff_eq,
    UInt64.lt_iff_toNat_lt, UInt32.le_iff_toNat_le, ← UInt64.toNat_inj]
  omega

/-- No application id comes before one that comes before it. -/
lemma Less.asymm {a b : ApplicationId} (h : Less a b) : ¬ Less b a := by
  intro h'
  unfold Less at h h'
  rcases le_total (a := a) (b := b) with hle | hle
  · exact nomatch hle.symm.trans h'
  · exact nomatch hle.symm.trans h

/-- No text of an application id comes before one that comes before it. -/
lemma TextLess.asymm {a b : ApplicationId} (h : TextLess a b) : ¬ TextLess b a :=
  String.lt_asymm h

end ApplicationId

open ApplicationId

/-- Whether a record comes before another one in a list: it started later, or in the same second
with a greater id. -/
def DeploymentRecord.Before (less : ApplicationId → ApplicationId → Prop)
    (a b : DeploymentRecord) : Prop :=
  b.startedAt < a.startedAt ∨ a.startedAt = b.startedAt ∧ less b.applicationId a.applicationId

namespace Ledger

variable {db : Database} {version : Int} {memory : Memory} {access : Access}
  {records found : List DeploymentRecord} {limit : Nat}
  {less less' : ApplicationId → ApplicationId → Prop}

/-! ## The newest records -/

/-- **What a list of the newest records is**: there are as many as the limit allows, of different
applications; they are in order, and whatever is left out comes behind all of them. -/
structure Newest (less : ApplicationId → ApplicationId → Prop) (limit : Nat)
    (records found : List DeploymentRecord) : Prop where
  length : found.length = min limit records.length
  subset : ∀ r ∈ found, r ∈ records
  nodup : (found.map (·.applicationId)).Nodup
  ordered : found.Pairwise (DeploymentRecord.Before less)
  leftOut : ∀ r ∈ found, ∀ s ∈ records, s ∉ found → r.Before less s

/-- Whether two orders of ids agree on what is found among records of the same second. -/
def Agree (less less' : ApplicationId → ApplicationId → Prop)
    (records found : List DeploymentRecord) : Prop :=
  ∀ r ∈ found, ∀ s ∈ records, r.startedAt = s.startedAt →
    (less s.applicationId r.applicationId ↔ less' s.applicationId r.applicationId)

namespace Newest

/-- The newest records by one order are the newest by another one that agrees with it. -/
lemma of_agree (h : Newest less limit records found) (hagree : Agree less less' records found) :
    Newest less' limit records found := by
  have hbefore : ∀ r ∈ found, ∀ s ∈ records, r.Before less s → r.Before less' s := by
    intro r hr s hs
    apply Or.imp_right
    rintro ⟨hsame, hless⟩
    exact ⟨hsame, (hagree r hr s hs hsame).1 hless⟩
  refine ⟨h.length, h.subset, h.nodup, ?_, fun r hr s hs hout => ?_⟩
  · exact h.ordered.imp_of_mem fun hr hs => hbefore _ hr _ (h.subset _ hs)
  · exact hbefore r hr s hs (h.leftOut r hr s hs hout)

/-- Of two different records of the newest one comes before the other, by any order by which they
are the newest. -/
private lemma before_or (h : Newest less limit records found)
    (h' : Newest less' limit records found) {r s : DeploymentRecord} (hr : r ∈ found)
    (hs : s ∈ found) (hne : r ≠ s) :
    r.Before less s ∧ r.Before less' s ∨ s.Before less r ∧ s.Before less' r := by
  have hboth : found.Pairwise fun r s => r.Before less s ∧ r.Before less' s :=
    List.pairwise_and_iff.2 ⟨h.ordered, h'.ordered⟩
  have hsymm : found.Pairwise fun r s => r.Before less s ∧ r.Before less' s ∨
      s.Before less r ∧ s.Before less' r := hboth.imp .inl
  have hsymmetric : Std.Symm fun r s : DeploymentRecord => r.Before less s ∧ r.Before less' s ∨
      s.Before less r ∧ s.Before less' r := ⟨fun _ _ => Or.symm⟩
  exact hsymm.forall hr hs hne

/-- **By which orders the newest records are the newest**: by those that agree on what is found
among records of the same second.

**Proof sketch.** A record of the newest and any other record are in order, whichever of them comes
first. Where two orders both decide, and neither of them decides both ways, they agree. -/
lemma iff_of_agree (h : Newest less limit records found)
    (hasymm : ∀ {a b}, less a b → ¬ less b a) (hasymm' : ∀ {a b}, less' a b → ¬ less' b a) :
    Newest less' limit records found ↔ Agree less less' records found := by
  refine ⟨fun h' r hr s hs hsame => ?_, h.of_agree⟩
  have hties : ∀ {less : ApplicationId → ApplicationId → Prop} {r s : DeploymentRecord},
      r.startedAt = s.startedAt → r.Before less s → less s.applicationId r.applicationId :=
    fun hsame hbefore => (hbefore.resolve_left (by omega)).2
  by_cases heq : r = s
  · subst heq
    exact iff_of_false (fun hless => hasymm hless hless) fun hless => hasymm' hless hless
  by_cases hout : s ∈ found
  · rcases h.before_or h' hr hout heq with ⟨hbefore, hbefore'⟩ | ⟨hbefore, hbefore'⟩
    · exact iff_of_true (hties hsame hbefore) (hties hsame hbefore')
    · exact iff_of_false (hasymm (hties hsame.symm hbefore)) (hasymm' (hties hsame.symm hbefore'))
  · exact iff_of_true (hties hsame (h.leftOut r hr s hs hout))
      (hties hsame (h'.leftOut r hr s hs hout))

end Newest

/-! ## The order of the list -/

/-- Whether the row of a record may stand before that of another one. -/
def newerRecord (a b : DeploymentRecord) : Bool :=
  (DeploymentRow.ofRecord a).newer (.ofRecord b)

/-- What the order of rows says of the records for which they stand. -/
lemma newerRecord_iff {a b : DeploymentRecord} :
    newerRecord a b = true ↔ b.startedAt < a.startedAt ∨
      a.startedAt = b.startedAt ∧ b.applicationId.display ≤ a.applicationId.display := by
  unfold newerRecord DeploymentRow.newer DeploymentRow.ofRecord Cell.le
  simp only [Bool.and_eq_true, decide_eq_true_eq, Int.ofNat_le]
  split
  · next hsame =>
    rw [decide_eq_true_eq]
    constructor
    · intro hle
      exact .inr ⟨by omega, hle⟩
    · rintro (hlt | ⟨-, hle⟩)
      · omega
      · exact hle
  · next hdiffer =>
    rw [decide_eq_true_eq]
    omega

/-- Of two records one is newer, or they are equally new. -/
lemma newerRecord_total (a b : DeploymentRecord) :
    (newerRecord a b || newerRecord b a) = true := by
  rw [Bool.or_eq_true, newerRecord_iff, newerRecord_iff]
  rcases String.le_total a.applicationId.display b.applicationId.display with hle | hle
  · simp only [hle, and_true]
    omega
  · simp only [hle, and_true]
    omega

/-- A record that is newer than a newer one is newer. -/
lemma newerRecord_trans (a b c : DeploymentRecord) (hab : newerRecord a b = true)
    (hbc : newerRecord b c = true) : newerRecord a c = true := by
  rw [newerRecord_iff] at hab hbc ⊢
  rcases hab with hab | ⟨hab, hle⟩
  · exact .inl (by omega)
  · rcases hbc with hbc | ⟨hbc, hle'⟩
    · exact .inl (by omega)
    · exact .inr ⟨by omega, String.le_trans hle' hle⟩

/-- Records of different applications whose rows are in order are in order themselves. -/
lemma before_of_newerRecord {a b : DeploymentRecord} (hne : a.applicationId ≠ b.applicationId)
    (hnewer : newerRecord a b = true) : a.Before TextLess b := by
  rw [newerRecord_iff] at hnewer
  apply hnewer.imp_right
  rintro ⟨hsame, hle⟩
  refine ⟨hsame, ?_⟩
  by_contra hnot
  exact hne (text_injective (String.le_antisymm (String.not_lt.1 hnot) hle))

/-- The records in the order of their rows. -/
def newestFirst (records : List DeploymentRecord) : List DeploymentRecord :=
  records.mergeSort newerRecord

/-- The rows of records are sorted as the records are. -/
lemma mergeSort_map_ofRecord :
    (records.map DeploymentRow.ofRecord).mergeSort DeploymentRow.newer =
      (newestFirst records).map .ofRecord :=
  (List.map_mergeSort (f := DeploymentRow.ofRecord) fun _ _ _ _ => rfl).symm

/-- Sorting records gives the same records. -/
lemma newestFirst_perm (records : List DeploymentRecord) :
    (newestFirst records).Perm records :=
  List.mergeSort_perm records newerRecord

/-- The records are sorted, if they are records of different applications. -/
lemma pairwise_newestFirst (hnodup : (records.map (·.applicationId)).Nodup) :
    (newestFirst records).Pairwise (DeploymentRecord.Before TextLess) := by
  have hsorted := List.pairwise_mergeSort newerRecord_trans newerRecord_total records
  have hdistinct : ((newestFirst records).map (·.applicationId)).Nodup :=
    ((newestFirst_perm records).map _).nodup_iff.2 hnodup
  exact hsorted.imp₂ (fun _ _ hnewer hne => before_of_newerRecord hne hnewer)
    (List.pairwise_map.1 hdistinct)

/-- **The first of the sorted records are the newest**, by the texts of their ids.

**Proof sketch.** Records that are left out stand behind all that are taken in a sorted list. -/
lemma newest_newestFirst (hnodup : (records.map (·.applicationId)).Nodup) :
    Newest TextLess limit records ((newestFirst records).take limit) := by
  have hperm := newestFirst_perm records
  have hsplit := List.take_append_drop limit (newestFirst records)
  have hordered := pairwise_newestFirst hnodup
  rw [← hsplit, List.pairwise_append] at hordered
  obtain ⟨hordered, -, hbehind⟩ := hordered
  refine ⟨?_, fun r hr => ?_, ?_, hordered, fun r hr s hs hout => ?_⟩
  · rw [List.length_take, hperm.length_eq]
  · exact hperm.mem_iff.1 (List.mem_of_mem_take hr)
  · exact ((hperm.map (·.applicationId)).nodup_iff.2 hnodup).sublist
      ((List.take_sublist limit _).map _)
  · have hmem := hperm.mem_iff.2 hs
    rw [← hsplit, List.mem_append] at hmem
    exact hbehind r hr s (hmem.resolve_left hout)

/-! ## Reading the list -/

/-- **The newest records are listed**, each with its artifacts, if these are read for its
application. -/
lemma Holds.runOn_listRecent {rows : List ArtifactRow} (h : Holds db (records.map .ofRecord) rows)
    (hlimit : limit < Text.signedBound) (hartifacts : ∀ r ∈ records,
      (artifactsOf r.applicationId).runOn access db = (.ok r.artifacts, db)) :
    (listRecent limit).runOn access db = (.ok ((newestFirst records).take limit), db) := by
  by_cases hzero : limit = 0
  · subst hzero
    rfl
  · have hword : toWord limit = .ok (.integer limit) := if_pos hlimit
    unfold listRecent
    rw [if_neg hzero, runOn_bind_of_ok h.runOn_ensureReady,
      runOn_bind_of_ok ((runOn_ofReading _).trans (by rw [hword])),
      runOn_bind_of_ok h.runOn_getReadable, mergeSort_map_ofRecord, ← List.map_take]
    refine runOn_readRecords fun r hr => hartifacts r ?_
    exact (newestFirst_perm records).mem_iff.1 (List.mem_of_mem_take hr)

/-- The record of an application is the one that is found among all records. -/
lemma find?_applicationId (hmem : ∀ r, r ∈ records ↔ memory r.applicationId = some r)
    (hown : ∀ {id r}, memory id = some r → r.applicationId = id) (id : ApplicationId) :
    (records.find? fun r => r.applicationId == id) = memory id := by
  cases hfind : records.find? fun r => r.applicationId == id with
  | some r =>
    have hid : r.applicationId = id := by
      have hfound := List.find?_some hfind
      exact eq_of_beq hfound
    exact (hid ▸ (hmem r).1 (List.mem_of_find?_eq_some hfind)).symm
  | none =>
    symm
    apply Option.eq_none_iff_forall_ne_some.2
    intro r hrecord
    have hid := hown hrecord
    refine List.find?_eq_none.1 hfind r ((hmem r).2 (hid.symm ▸ hrecord)) ?_
    exact beq_iff_eq.2 hid

namespace Remembers

/-- **The newest of all records are listed**, whatever the limit. -/
lemma exists_recent (h : Remembers db latestVersion memory) :
    ∃ records : List DeploymentRecord, (records.map (·.applicationId)).Nodup ∧
      (∀ r, r ∈ records ↔ memory r.applicationId = some r) ∧
      ∀ access limit, limit < Text.signedBound →
        (listRecent limit).runOn access db = (.ok ((newestFirst records).take limit), db) := by
  generalize hversion : latestVersion = version at h
  cases h with
  | bare _ => exact nomatch hversion
  | initial _ _ => exact nomatch hversion
  | @cleaning rows artifacts _ hrep =>
    obtain ⟨records, rfl, hnodup, hmem⟩ := hrep.exists_records
    have hholds : Holds ⟨some [1, 2], some ⟨true, records.map .ofRecord⟩, some artifacts, true⟩
        (records.map .ofRecord) artifacts := ⟨⟨[1, 2], rfl, by decide⟩, rfl, rfl⟩
    refine ⟨records, hnodup, hmem, fun access limit hlimit => ?_⟩
    refine hholds.runOn_listRecent hlimit fun r hr => ?_
    rw [hrep.runOn_artifactsOf rfl access, (hmem r).1 hr]
    rfl

end Remembers

/-! ## Artifacts -/

/-- The manifest that the start of a deployment tells. -/
def manifest? : Note → Option Manifest
  | (_, .recordStarted _ m) => some m
  | _ => none

/-- A note leaves the manifest of a record, unless it tells of another start. -/
lemma manifest_revise {note : Note} {old : Option DeploymentRecord} {r : DeploymentRecord}
    (hr : note.2.revise note.1 old = some r) :
    some r.manifest = (manifest? note).or (old.map (·.manifest)) := by
  obtain ⟨seconds, call⟩ := note
  cases call with
  | recordStarted jobName m =>
    obtain rfl := Option.some.inj hr
    rfl
  | recordCompleted report =>
    obtain ⟨before, rfl, rfl⟩ := Option.map_eq_some_iff.1 hr
    rfl
  | recordAborted id e termination teardownError =>
    obtain ⟨before, rfl, rfl⟩ := Option.map_eq_some_iff.1 hr
    rfl
  | markCleaned id =>
    obtain ⟨before, rfl, rfl⟩ := Option.map_eq_some_iff.1 hr
    rfl

/-- What is left of a record when the layout is moved has its manifest. -/
lemma manifest_keep {target : Int} {old : Option DeploymentRecord} {r : DeploymentRecord}
    (hr : keep target old = some r) : some r.manifest = old.map (·.manifest) := by
  unfold keep at hr
  split at hr
  · exact nomatch hr
  · split at hr
    · obtain ⟨before, rfl, rfl⟩ := Option.map_eq_some_iff.1 hr
      rfl
    · rw [hr]
      rfl

/-- **The manifest of a record is that of the last start that was noted.**

**Proof sketch.** Induction on the history, from the last request back. Requests that note nothing
take records away at most, and of the notes only a start changes the manifest. -/
lemma latest_manifest {log : List Entry} {id : ApplicationId} {r : DeploymentRecord}
    (hr : log.foldl (Entry.revise id) none = some r) :
    latest manifest? (log.filterMap (Entry.noted id)) = some r.manifest := by
  induction log using List.reverseRecOn generalizing r with
  | nil => exact nomatch hr
  | append_singleton log e ih =>
    rw [List.foldl_append] at hr
    change Entry.revise id (log.foldl (Entry.revise id) none) e = some r at hr
    generalize log.foldl (Entry.revise id) none = old at hr ih
    have hold : ∀ {before}, old = some before →
        latest manifest? (log.filterMap (Entry.noted id)) = some before.manifest := fun h => ih h
    unfold Entry.revise at hr
    rw [List.filterMap_append]
    -- a migration notes nothing, and keeps the manifest
    cases hmoved : e.movedTo with
    | some target =>
      rw [hmoved] at hr
      have hnoted : [e].filterMap (Entry.noted id) = [] := by
        rw [List.filterMap_cons, Entry.noted_of_movedTo hmoved]
        rfl
      obtain ⟨before, hbefore, hsame⟩ := Option.map_eq_some_iff.1 (manifest_keep hr).symm
      rw [hnoted, List.append_nil, hold hbefore, hsame]
    | none =>
      rw [hmoved] at hr
      cases hnoted : e.noted id with
      | none =>
        rw [hnoted] at hr
        rw [List.filterMap_cons, hnoted]
        exact (congrArg _ (List.append_nil _)).trans (hold hr)
      | some note =>
        rw [hnoted] at hr
        rw [List.filterMap_cons, hnoted]
        refine (latest_append manifest? _ note).trans ?_
        have hrevised := manifest_revise hr
        rw [hrevised]
        cases htells : manifest? note with
        | some m => rfl
        | none =>
          rw [htells, Option.none_or] at hrevised
          obtain ⟨before, hbefore, -⟩ := Option.map_eq_some_iff.1 hrevised.symm
          rw [Option.none_or, Option.none_or, hold hbefore, hbefore]
          rfl

/-! ## The list -/

/-- **When the list shows the newest deployments.** Whatever an empty ledger has served, if it has
the latest layout then there are records, of different applications, among which the one of each
application is found, and for every limit that fits in a signed word

1. the newest of them are listed, in the order of their starts and of the texts of their ids, and
   nothing is changed;
2. each record in the list has the artifacts of the last start that was noted of its application, in
   the order of the manifest;
3. they are the newest in the order of the ids themselves exactly if the two orders of ids agree on
   what is listed and what started in the same seconds,
4. which they do if these ids are printed in the same number of digits.

**Proof sketch.** The tables represent a map of records, whose rows are sorted as the records are.
The order of the rows is that of the texts in their cells. -/
theorem listRecent_newest_iff (requests : List Request) (limit : Nat)
    (hlatest : (serveAll .empty requests).2.version = latestVersion)
    (hlimit : limit < Text.signedBound) :
    let db := (serveAll .empty requests).2
    ∃ records found : List DeploymentRecord, (records.map (·.applicationId)).Nodup ∧
      (∀ access id, (deployment id).runOn access db =
        (.ok (records.find? fun r => r.applicationId == id), db)) ∧
      (∀ access, (listRecent limit).runOn access db = (.ok found, db)) ∧
      Newest TextLess limit records found ∧
      (∀ r ∈ found,
        latest manifest? (notesOf r.applicationId .empty requests) = some r.manifest) ∧
      (Newest Less limit records found ↔ Agree TextLess Less records found) ∧
      ((∀ r ∈ found, ∀ s ∈ records, r.startedAt = s.startedAt →
        SameWidth s.applicationId r.applicationId) → Newest Less limit records found) := by
  intro db
  have h : Remembers db _ _ := Remembers.empty.serveAll requests
  have hversion := h.version_eq.symm.trans hlatest
  rw [hversion] at h
  obtain ⟨records, hnodup, hmem, hlist⟩ := h.exists_recent
  have hnewest : Newest TextLess limit records ((newestFirst records).take limit) :=
    newest_newestFirst hnodup
  have hiff : Newest Less limit records ((newestFirst records).take limit) ↔
      Agree TextLess Less records ((newestFirst records).take limit) :=
    hnewest.iff_of_agree TextLess.asymm Less.asymm
  refine ⟨records, _, hnodup, fun access id => ?_, fun access => hlist access limit hlimit, hnewest,
    fun r hr => ?_, hiff, fun hwidth => hiff.2 fun r hr s hs hsame => ?_⟩
  · rw [h.deployment id, find?_applicationId hmem h.applicationId_eq]
  · exact latest_manifest ((hmem r).1 (hnewest.subset r hr))
  · exact display_lt_iff (hwidth r hr s hs hsame)

/-- Of two deployments without artifacts, whose rows are in order, a limit of one shows the
first. -/
private lemma runOn_listRecent_pair {a b : DeploymentRecord} (hnewer : newerRecord a b = true)
    (ha : a.artifacts = []) (hb : b.artifacts = [])
    (hdb : db = ⟨some [1, 2], some ⟨true, [a, b].map .ofRecord⟩, some [], true⟩) :
    (listRecent 1).runOn access db = (.ok [a], db) := by
  have hholds : Holds db ([a, b].map .ofRecord) [] := by
    rw [hdb]
    exact ⟨⟨[1, 2], rfl, by decide⟩, rfl, rfl⟩
  have hsorted : newestFirst [a, b] = [a, b] :=
    List.mergeSort_of_pairwise (List.pairwise_pair.2 hnewer)
  have hnone : ∀ id, (artifactsOf id).runOn access db = (.ok [], db) := by
    intro id
    rw [artifactsOf, runOn_bind_of_ok hholds.runOn_getArtifacts, runOn_ofReading, rowsOf,
      List.filter_nil, List.mergeSort_nil]
    rfl
  have hlist : (listRecent 1).runOn access db = (.ok ((newestFirst [a, b]).take 1), db) := by
    refine hholds.runOn_listRecent (by decide) fun r hr => ?_
    rw [hnone]
    rcases List.mem_pair.1 hr with rfl | rfl
    · rw [ha]
    · rw [hb]
  rwa [hsorted] at hlist

/-- Two deployments start in the same second; the limit leaves out the one with the smaller id. -/
theorem listRecent_newest_iff_of_tie :
    let first : Manifest := ⟨⟨1, 10⟩, "/s", [], .configured 2⟩
    let second : Manifest := ⟨⟨1, 9⟩, "/t", [], .configured 2⟩
    let requests : List Request := [.migrate latestVersion,
      .tell 5000 (.recordStarted "first" first), .tell 5500 (.recordStarted "second" second)]
    let db := (serveAll .empty requests).2
    db.version = latestVersion ∧ 1 < Text.signedBound ∧ ∃ records : List DeploymentRecord,
      (listRecent 1).runOn .reading db = (.ok [freshRecord "first" first 5 none], db) ∧
      freshRecord "second" second 5 none ∈ records ∧
      Newest TextLess 1 records [freshRecord "first" first 5 none] := by
  intro first second requests db
  have hlatest : db.version = latestVersion := by decide +kernel
  have hbound : 1 < Text.signedBound := by decide
  obtain ⟨records, found, -, hlookup, hlist, hnewest, -⟩ :=
    listRecent_newest_iff requests 1 hlatest hbound
  have hrecent : (listRecent 1).runOn .reading db =
      (.ok [freshRecord "first" first 5 none], db) :=
    runOn_listRecent_pair (b := freshRecord "second" second 5 none) (by decide +kernel) rfl rfl
      (by decide +kernel)
  obtain rfl : found = [freshRecord "first" first 5 none] :=
    Except.ok.inj (Prod.mk.inj ((hlist .reading).symm.trans hrecent)).1
  have h : Remembers db _ _ := Remembers.empty.serveAll requests
  rw [h.version_eq.symm.trans hlatest] at h
  have hsecond : (deployment ⟨1, 9⟩).runOn .reading db =
      (.ok (some (freshRecord "second" second 5 none)), db) := h.deployment _
  have hfind := Except.ok.inj (Prod.mk.inj ((hlookup .reading ⟨1, 9⟩).symm.trans hsecond)).1
  exact ⟨hlatest, hbound, records, hrecent, List.mem_of_find?_eq_some hfind, hnewest⟩

/-- **A limit can leave out the newest deployment.** Of two deployments that started in the same
second the one with the smaller id is listed, because its text is greater. -/
theorem listRecent_missesNewest :
    let first : Manifest := ⟨⟨1, 9999⟩, "/s", [], .configured 2⟩
    let second : Manifest := ⟨⟨1, 10000⟩, "/t", [], .configured 2⟩
    let requests : List Request := [.migrate latestVersion,
      .tell 5000 (.recordStarted "first" first), .tell 5500 (.recordStarted "second" second)]
    let db := (serveAll .empty requests).2
    db.version = latestVersion ∧ ∃ r s : DeploymentRecord,
      (listRecent 1).runOn .reading db = (.ok [r], db) ∧
      (deployment ⟨1, 10000⟩).runOn .reading db = (.ok (some s), db) ∧
      ∀ records, s ∈ records → ¬ Newest Less 1 records [r] := by
  intro first second requests db
  have hlatest : db.version = latestVersion := by decide +kernel
  have h : Remembers db _ _ := Remembers.empty.serveAll requests
  rw [h.version_eq.symm.trans hlatest] at h
  refine ⟨hlatest, freshRecord "first" first 5 none, freshRecord "second" second 5 none, ?_,
    h.deployment _, fun records hs hnewest => ?_⟩
  · exact runOn_listRecent_pair (b := freshRecord "second" second 5 none) (by decide +kernel) rfl
      rfl (by decide +kernel)
  · have hbefore := hnewest.leftOut _ (List.mem_singleton_self _) _ hs (by decide)
    rcases hbefore with hlater | ⟨-, hless⟩
    · exact absurd hlater (by decide)
    · exact absurd hless (by decide)

end Ledger

end ClusterDeploy
