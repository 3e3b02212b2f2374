import ClusterDeploy.Proofs.Ledger.Actions
import ClusterDeploy.Proofs.Ledger.Rows

set_option relaxedAutoImplicit false
set_option autoImplicit false

/-!
# Rows of artifacts

The artifacts of a manifest are added row by row, each with its position. Read in the order of their
positions they are the artifacts of the manifest again. Not every artifact can be added: its numbers
have to fit in a signed word, and its name has to be new.

## Main definitions

* `Ledger.Written` — rows that stand for artifacts, from a position on.
* `Manifest.IsStorable` — whether all artifacts of a manifest can be added.

## Main results

* `Ledger.Written.mapM_readArtifact` — rows that stand for artifacts are read as these artifacts.
* `Ledger.written_of_addArtifacts` — artifacts that were added are behind the rows that were there.
-/

namespace ClusterDeploy

/-- Whether all artifacts of a manifest can be added to the ledger: their numbers fit in a signed
word, and no name is used twice. -/
structure Manifest.IsStorable (m : Manifest) : Prop where
  fits : ∀ a ∈ m.artifacts,
    a.len.toNat < Text.signedBound ∧ a.modificationTime.toNat < Text.signedBound
  distinct : (m.artifacts.map (·.entry.remoteName)).Nodup

namespace Ledger

/-- Rows that stand for artifacts, the first of which has a given position. -/
inductive Written (key : String) : Nat → List StagedArtifact → List ArtifactRow → Prop where
  | nil (position : Nat) : Written key position [] []
  | cons {position : Nat} {a : StagedArtifact} {row : ArtifactRow} {l : List StagedArtifact}
      {rows : List ArtifactRow} :
    ArtifactRow.ofArtifact key position a = .ok row → Written key (position + 1) l rows →
    Written key position (a :: l) (row :: rows)

variable {key : String} {position : Nat} {a : StagedArtifact} {row : ArtifactRow}
  {l : List StagedArtifact} {rows artifacts : List ArtifactRow} {access : Access}
  {db db' : Database}

/-- What is written in the row of an artifact, and when it can be written. -/
lemma fits_of_ofArtifact (hrow : ArtifactRow.ofArtifact key position a = .ok row) :
    row.applicationId = .text key ∧ row.position = .integer position ∧
      row.remoteName = .text a.entry.remoteName ∧
      a.len.toNat < Text.signedBound ∧ a.modificationTime.toNat < Text.signedBound := by
  have hfits : ∀ {n : Nat} {cell : Cell}, toWord n = .ok cell → n < Text.signedBound := by
    intro n cell h
    by_cases hn : n < Text.signedBound
    · exact hn
    · rw [toWord, if_neg hn] at h
      exact nomatch h
  unfold ArtifactRow.ofArtifact at hrow
  obtain ⟨len, hlen, hrow⟩ := bind_eq_ok_iff.1 hrow
  obtain ⟨time, htime, hrow⟩ := bind_eq_ok_iff.1 hrow
  obtain rfl := Except.ok.inj hrow
  exact ⟨rfl, rfl, rfl, hfits hlen, hfits htime⟩

namespace Written

/-- Rows that stand for artifacts of an application belong to it. -/
lemma filter_isOf (h : Written key position l rows) :
    (rows.filter fun row => row.isOf key) = rows := by
  refine List.filter_eq_self.2 ?_
  induction h with
  | nil _ => exact List.forall_mem_nil _
  | cons hrow _ ih =>
    refine List.forall_mem_cons.2 ⟨?_, ih⟩
    rw [ArtifactRow.isOf, (fits_of_ofArtifact hrow).1]
    exact beq_self_eq_true _

/-- Rows that stand for artifacts of an application belong to no other. -/
lemma filter_other {other : String} (h : Written key position l rows) (hne : key ≠ other) :
    (rows.filter fun row => row.isOf other) = [] := by
  refine List.filter_eq_nil_iff.2 ?_
  induction h with
  | nil _ => exact List.forall_mem_nil _
  | cons hrow _ ih =>
    refine List.forall_mem_cons.2 ⟨?_, ih⟩
    rw [ArtifactRow.isOf, (fits_of_ofArtifact hrow).1]
    simpa using hne

/-- The numbers of artifacts for which rows stand fit in a signed word. -/
lemma fits (h : Written key position l rows) : ∀ a ∈ l,
    a.len.toNat < Text.signedBound ∧ a.modificationTime.toNat < Text.signedBound := by
  induction h with
  | nil _ => exact List.forall_mem_nil _
  | cons hrow _ ih => exact List.forall_mem_cons.2 ⟨(fits_of_ofArtifact hrow).2.2.2, ih⟩

/-- **Rows that stand for artifacts are read as these artifacts.** -/
lemma mapM_readArtifact (h : Written key position l rows) : rows.mapM readArtifact = .ok l := by
  induction h with
  | nil _ => rfl
  | cons hrow _ ih =>
    rw [List.mapM_cons, readArtifact_of_ofArtifact hrow, ih]
    rfl

/-- Rows that stand for artifacts have the positions from the first one on. -/
lemma exists_position (h : Written key position l rows) :
    ∀ row ∈ rows, ∃ n, position ≤ n ∧ row.position = .integer (n : Nat) := by
  induction h with
  | nil _ => exact List.forall_mem_nil _
  | cons hrow _ ih =>
    refine List.forall_mem_cons.2 ⟨⟨_, Nat.le_refl _, (fits_of_ofArtifact hrow).2.1⟩, ?_⟩
    intro other hother
    obtain ⟨n, hle, hn⟩ := ih other hother
    exact ⟨n, Nat.le_of_succ_le hle, hn⟩

/-- Rows that stand for artifacts are in the order in which they are read. -/
lemma ascends (h : Written key position l rows) : rows.Pairwise fun a b => a.le b := by
  induction h with
  | nil _ => exact .nil
  | @cons position a row l rows hrow hrest ih =>
    refine .cons (fun other hother => ?_) ih
    obtain ⟨n, hle, hn⟩ := hrest.exists_position other hother
    have hne : (position : Int) ≠ n := by omega
    rw [ArtifactRow.le, (fits_of_ofArtifact hrow).2.1, hn, if_neg (by simpa using hne)]
    exact decide_eq_true (Int.ofNat_le.2 (Nat.le_of_succ_le hle))

end Written

/-- An artifact that was added stands behind the rows that were there. -/
private lemma exists_row_of_addArtifact (hdb : db.artifacts = some artifacts)
    (hrun : (addArtifact key position a).runOn access db = (.ok (), db')) :
    ∃ row, ArtifactRow.ofArtifact key position a = .ok row ∧
      (∀ other ∈ artifacts, other.isOf key = true →
        other.remoteName ≠ .text a.entry.remoteName) ∧
      db' = { db with artifacts := some (artifacts ++ [row]) } := by
  unfold addArtifact at hrun
  obtain ⟨row, db₁, hread, hrest⟩ := runOn_bind_eq_ok_iff.1 hrun
  obtain ⟨hrow, rfl⟩ := runOn_ofReading_eq_ok_iff.1 hread
  rw [runOn_bind_of_ok (runOn_getArtifacts hdb)] at hrest
  have hname := (fits_of_ofArtifact hrow).2.2.1
  split at hrest
  · obtain ⟨_, _, hthrow, -⟩ := runOn_bind_eq_ok_iff.1 hrest
    exact nomatch (Prod.mk.inj hthrow).1
  · next hnew =>
    obtain ⟨-, rfl⟩ := runOn_change_eq_ok_iff.1 hrest
    refine ⟨row, hrow, fun other hother hof hsame => hnew ?_, rfl⟩
    refine List.any_eq_true.2 ⟨other, hother, ?_⟩
    rw [hof, hsame, hname]
    simp

/-- **Artifacts that were added** are behind the rows that were there. Their names are new, and each
is used once.

**Proof sketch.** Induction on the artifacts. What is said of the names of the rest, with the row of
the first one among the rows that were there, says that its name is not used again. -/
lemma written_of_addArtifacts (hdb : db.artifacts = some artifacts)
    (hrun : (addArtifacts key position l).runOn access db = (.ok (), db')) :
    ∃ rows, Written key position l rows ∧
      db' = { db with artifacts := some (artifacts ++ rows) } ∧
      (∀ a ∈ l, ∀ other ∈ artifacts, other.isOf key = true →
        other.remoteName ≠ .text a.entry.remoteName) ∧
      (l.map (·.entry.remoteName)).Nodup := by
  induction l generalizing db artifacts position with
  | nil =>
    obtain ⟨-, rfl⟩ := runOn_pure_eq_ok_iff.1 hrun
    refine ⟨[], .nil _, ?_, List.forall_mem_nil _, List.nodup_nil⟩
    rw [List.append_nil, ← hdb]
  | cons a l ih =>
    rw [addArtifacts] at hrun
    obtain ⟨⟨⟩, db₁, hfirst, hrest⟩ := runOn_bind_eq_ok_iff.1 hrun
    obtain ⟨row, hrow, hnew, rfl⟩ := exists_row_of_addArtifact hdb hfirst
    obtain ⟨rows, hwritten, rfl, hfresh, hdistinct⟩ := ih rfl hrest
    obtain ⟨hkey, -, hname, -⟩ := fits_of_ofArtifact hrow
    -- the row of the first artifact is there when the rest is added
    have hold : ∀ b ∈ l, b.entry.remoteName ≠ a.entry.remoteName := by
      intro b hb hsame
      refine hfresh b hb row (by simp) ?_ (by rw [hname, hsame])
      rw [ArtifactRow.isOf, hkey]
      exact beq_self_eq_true _
    refine ⟨row :: rows, .cons hrow hwritten, by simp, ?_, ?_⟩
    · refine List.forall_mem_cons.2 ⟨hnew, fun b hb other hother => ?_⟩
      exact hfresh b hb other (List.mem_append_left _ hother)
    · rw [List.map_cons, List.nodup_cons]
      refine ⟨fun hmem => ?_, hdistinct⟩
      obtain ⟨b, hb, hsame⟩ := List.mem_map.1 hmem
      exact hold b hb hsame

end Ledger

end ClusterDeploy
