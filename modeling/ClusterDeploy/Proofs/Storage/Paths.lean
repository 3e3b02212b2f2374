import ClusterDeploy.Proofs.Application
import ClusterDeploy.Proofs.Usability
import ClusterDeploy.Storage.Memory

set_option relaxedAutoImplicit false
set_option autoImplicit false

/-!
# The layout of the staging directories

Every application has a directory of its own under every label, and the files in it lie directly
below it. Two such directories have no path in common, as long as there are no slashes in the
labels.

## Main definitions

* `Config.IsStagingPrefix` — the labels that the settings of a deployment can have.
* `Storage.IsFileName` — texts that name a file in a directory.

## Main results

* `Config.IsStagingPrefix.noSlash` — there is no slash in such a label.
* `Storage.isBelow_stagingDir_iff` — what lies below a staging directory.
* `Storage.place_eq_of_isBelow` — no path lies below two staging directories.
* `Storage.place_eq_of_remotePath_eq` — a file is in one staging directory only, whatever the
  labels.

## Implementation notes

A path lies below a directory exactly if the path with a slash at its end begins with the directory
and a slash. In this form the directory itself is no special case.
-/

namespace ClusterDeploy

/-! ## Labels -/

/-- The labels that the settings of a deployment can have. -/
def Config.IsStagingPrefix (label : String) : Prop :=
  ∃ overrides config, Config.resolve overrides = .ok config ∧ config.stagingPrefix = label

/-- There is no slash in the label of a deployment. -/
lemma Config.IsStagingPrefix.noSlash {label : String} (h : Config.IsStagingPrefix label) :
    '/' ∉ label.toList := by
  obtain ⟨overrides, config, hresolve, rfl⟩ := h
  exact (usable_of_resolve hresolve).stagingPrefix.noSlash

/-! ## Application ids as names -/

namespace ApplicationId

/-- Digits have no slash among them. -/
lemma noSlash_of_isDigit {digits : List Char} (h : ∀ c ∈ digits, c.isDigit = true) :
    '/' ∉ digits :=
  fun hslash => absurd (h _ hslash) (by decide)

/-- The text of an application id has no slash in it. -/
lemma noSlash_display (id : ApplicationId) : '/' ∉ id.display.toList := by
  have hlabel : '/' ∉ label := by decide
  have htime : '/' ∉ Text.decimal id.clusterTimestamp.toNat :=
    noSlash_of_isDigit fun _ => Text.isDigit_of_mem_decimal
  have hnumber : '/' ∉ Text.padded 4 id.sequence.toNat :=
    noSlash_of_isDigit fun _ => Text.isDigit_of_mem_padded
  simp [display, hlabel, htime, hnumber]

/-- An id begins with the label of all ids, so it is not empty. -/
lemma display_ne_nil (id : ApplicationId) : id.display.toList ≠ [] := by
  rw [display, String.toList_ofList]
  exact List.append_ne_nil_of_right_ne_nil _ (List.cons_ne_nil _ _)

end ApplicationId

namespace Storage

open MemoryStorage (isBelow)

variable {home label label' name name' path : String} {id id' : ApplicationId}
  {a a' b b' : List Char}

/-! ## Texts with a slash -/

/-- A text is determined by what stands before its first slash and what stands behind it. -/
lemma append_slash_inj_left (ha : '/' ∉ a) (ha' : '/' ∉ a') (h : a ++ '/' :: b = a' ++ '/' :: b') :
    a = a' ∧ b = b' := by
  have hsplit : some (a, b) = some (a', b') := by
    rw [← Text.splitOnce_append ha, h, Text.splitOnce_append ha']
  exact Prod.mk.inj (Option.some.inj hsplit)

/-- A text is determined by what stands before its last slash and what stands behind it. -/
lemma append_slash_inj_right (hb : '/' ∉ b) (hb' : '/' ∉ b')
    (h : a ++ '/' :: b = a' ++ '/' :: b') : a = a' ∧ b = b' := by
  have hreverse : b.reverse ++ '/' :: a.reverse = b'.reverse ++ '/' :: a'.reverse := by
    simpa using congrArg List.reverse h
  obtain ⟨hbb, haa⟩ := append_slash_inj_left (by simpa using hb) (by simpa using hb') hreverse
  exact ⟨List.reverse_inj.1 haa, List.reverse_inj.1 hbb⟩

/-- A text that does not end with a slash has none at its end to remove. -/
lemma withoutSlashes_append_slash (hb : '/' ∉ b) (hne : b ≠ []) :
    withoutSlashes (String.ofList (a ++ '/' :: b)) = String.ofList (a ++ '/' :: b) := by
  obtain ⟨init, last, rfl⟩ := (List.eq_nil_or_concat b).resolve_left hne
  have hlast : last ≠ '/' := by
    rintro rfl
    simp at hb
  simp [withoutSlashes, Text.dropTrailing, hlast]

/-! ## Staging directories -/

/-- Texts that name a file in a directory. -/
def IsFileName (name : String) : Prop :=
  name ≠ "" ∧ '/' ∉ name.toList

/-- The characters of the directory of an application, with its two last names. -/
lemma toList_stagingDir :
    (stagingDir home label id).toList =
      ((withoutSlashes home).toList ++ '/' :: '.' :: label.toList) ++ '/' :: id.display.toList := by
  simp [stagingDir, toString]

/-- The directory of an application has no slash at its end. -/
@[simp]
lemma withoutSlashes_stagingDir :
    withoutSlashes (stagingDir home label id) = stagingDir home label id := by
  have h : stagingDir home label id = String.ofList
      (((withoutSlashes home).toList ++ '/' :: '.' :: label.toList) ++ '/' :: id.display.toList) :=
    String.toList_inj.1 (by rw [toList_stagingDir, String.toList_ofList])
  rw [h, withoutSlashes_append_slash id.noSlash_display id.display_ne_nil]

/-- The files of an application lie directly below its directory. -/
lemma remotePath_stagingDir :
    remotePath (stagingDir home label id) name = stagingDir home label id ++ "/" ++ name := by
  rw [remotePath, withoutSlashes_stagingDir]
  simp [toString]

/-- Different names stand for different files of a directory. -/
lemma remotePath_inj {dir : String} (h : remotePath dir name = remotePath dir name') :
    name = name' := by
  have hchars := congrArg String.toList h
  simp only [remotePath, toString, String.toList_append, List.append_cancel_left_eq] at hchars
  exact String.toList_inj.1 hchars

/-- What lies below a staging directory. -/
lemma isBelow_stagingDir_iff :
    isBelow (stagingDir home label id) path = true ↔
      ∃ rest, path.toList ++ ['/'] = (stagingDir home label id).toList ++ '/' :: rest := by
  unfold isBelow
  rw [withoutSlashes_stagingDir, Bool.or_eq_true, beq_iff_eq, String.startsWith_string_iff,
    String.toList_append]
  constructor
  · rintro (rfl | ⟨rest, hrest⟩)
    · exact ⟨[], rfl⟩
    · exact ⟨rest ++ ['/'], by simp [← hrest]⟩
  · rintro ⟨rest, hrest⟩
    rcases List.eq_nil_or_concat rest with rfl | ⟨init, last, rfl⟩
    · exact .inl (String.toList_inj.1 (List.append_cancel_right hrest))
    · refine .inr ⟨init, ?_⟩
      have hconcat : path.toList ++ ['/'] =
          ((stagingDir home label id).toList ++ '/' :: init) ++ [last] := by
        simpa using hrest
      simpa using (List.append_inj' hconcat rfl).1.symm

/-- The files of a directory are below it. -/
lemma isBelow_remotePath :
    isBelow (stagingDir home label id) (remotePath (stagingDir home label id) name) = true :=
  isBelow_stagingDir_iff.2 ⟨name.toList ++ ['/'], by simp [remotePath_stagingDir]⟩

/-- **No path lies below two staging directories.**

**Proof sketch.** After the home directory the path goes on with the label up to a slash, and then
with the application id up to the next one. -/
lemma place_eq_of_isBelow (hlabel : '/' ∉ label.toList) (hlabel' : '/' ∉ label'.toList)
    (h : isBelow (stagingDir home label id) path = true)
    (h' : isBelow (stagingDir home label' id') path = true) : id = id' ∧ label = label' := by
  obtain ⟨rest, hrest⟩ := isBelow_stagingDir_iff.1 h
  obtain ⟨rest', hrest'⟩ := isBelow_stagingDir_iff.1 h'
  have hsame := hrest.symm.trans hrest'
  simp only [toList_stagingDir, List.append_assoc, List.cons_append, List.append_cancel_left_eq,
    List.cons.injEq, true_and] at hsame
  obtain ⟨hlabels, hsame⟩ := append_slash_inj_left hlabel hlabel' hsame
  obtain ⟨hids, -⟩ := append_slash_inj_left id.noSlash_display id'.noSlash_display hsame
  exact ⟨ApplicationId.text_injective (String.toList_inj.1 hids), String.toList_inj.1 hlabels⟩

/-- **A file is in one staging directory only, whatever the labels.**

**Proof sketch.** Read from its end, the path is the name up to a slash and the application id up to
the next one. What is before that is the home directory and the label. -/
lemma place_eq_of_remotePath_eq (hname : '/' ∉ name.toList) (hname' : '/' ∉ name'.toList)
    (h : remotePath (stagingDir home label id) name =
      remotePath (stagingDir home label' id') name') :
    id = id' ∧ label = label' ∧ name = name' := by
  have hpath : (stagingDir home label id).toList ++ '/' :: name.toList =
      (stagingDir home label' id').toList ++ '/' :: name'.toList := by
    simpa [remotePath_stagingDir] using congrArg String.toList h
  obtain ⟨hdirs, hnames⟩ := append_slash_inj_right hname hname' hpath
  rw [toList_stagingDir, toList_stagingDir] at hdirs
  obtain ⟨hlabels, hids⟩ :=
    append_slash_inj_right id.noSlash_display id'.noSlash_display hdirs
  simp only [List.append_cancel_left_eq, List.cons.injEq, true_and] at hlabels
  exact ⟨ApplicationId.text_injective (String.toList_inj.1 hids), String.toList_inj.1 hlabels,
    String.toList_inj.1 hnames⟩

end Storage

end ClusterDeploy
