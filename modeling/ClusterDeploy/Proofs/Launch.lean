import ClusterDeploy.Launch
import Mathlib.Data.List.Nodup
import Mathlib.Data.List.Perm.Basic
import Mathlib.Tactic.Lemma

set_option relaxedAutoImplicit false
set_option autoImplicit false

/-!
# What is launched

The two classpaths of a cluster share out the names of its artifacts: whatever the policy is, every
artifact is on one of them, and nothing else is.

## Main results

* `Launch.classpath_perm` — the names on the two classpaths are those of the artifacts.
* `Launch.count_classpath` — every artifact is on one classpath, once.

## Implementation notes

The policy decides on the order of the names and on the classpath of the jars, so the names are
compared up to their order.
-/

namespace ClusterDeploy.Launch

variable {policy : ClasspathInclusion} {m : Manifest} {a : StagedArtifact}

/-- Names are sorted by changing their order. -/
lemma sortNames_perm (names : List String) : (sortNames names).Perm names :=
  List.mergeSort_perm _ _

/-- Every artifact has one role.

**Proof sketch.** Induction on the artifacts, with a case for each role of the first one. -/
lemma names_perm (m : Manifest) :
    (names m .library ++ (names m .userJar ++ names m .bundle)).Perm
      (m.artifacts.map (·.entry.remoteName)) := by
  unfold names Manifest.withRole
  induction m.artifacts with
  | nil => exact .refl _
  | cons a artifacts ih =>
    have hfilter : ∀ role, (a :: artifacts).filter (fun b => b.entry.role == role) =
        if a.entry.role == role then a :: artifacts.filter fun b => b.entry.role == role
        else artifacts.filter fun b => b.entry.role == role := fun role => List.filter_cons
    rw [hfilter, hfilter, hfilter, List.map_cons]
    cases a.entry.role with
    | bundle =>
      refine List.Perm.trans ?_ (ih.cons a.entry.remoteName)
      simp only [reduceCtorEq, beq_iff_eq, if_false, if_true, List.map_cons, ← List.append_assoc]
      exact List.perm_middle
    | library => exact ih.cons a.entry.remoteName
    | userJar =>
      refine List.Perm.trans ?_ (ih.cons a.entry.remoteName)
      exact List.perm_middle

/-- **The names on the two classpaths** are those of the artifacts. -/
lemma classpath_perm (policy : ClasspathInclusion) (m : Manifest) :
    ((classpath policy m).system ++ (classpath policy m).user).Perm
      (m.artifacts.map (·.entry.remoteName)) := by
  refine List.Perm.trans ?_ (names_perm m)
  have hlibraries := sortNames_perm (names m .library)
  cases policy with
  | disabled =>
    change ((sortNames (names m .library) ++ names m .bundle) ++ names m .userJar).Perm _
    rw [List.append_assoc]
    exact hlibraries.append List.perm_append_comm
  | first =>
    change ((names m .userJar ++ sortNames (names m .library) ++ names m .bundle) ++ []).Perm _
    rw [List.append_nil, ← List.append_assoc]
    exact (List.perm_append_comm.trans (hlibraries.append_right _)).append_right _
  | last =>
    change ((sortNames (names m .library) ++ names m .userJar ++ names m .bundle) ++ []).Perm _
    rw [List.append_nil, List.append_assoc]
    exact hlibraries.append_right _
  | order =>
    change ((sortNames (sortNames (names m .library) ++ names m .userJar) ++ names m .bundle) ++
      []).Perm _
    rw [List.append_nil, ← List.append_assoc]
    exact ((sortNames_perm _).trans (hlibraries.append_right _)).append_right _

/-- What holds of the names of all artifacts holds of the names on the classpaths. -/
lemma forall_mem_classpath_iff {p : String → Prop} :
    (∀ name ∈ (classpath policy m).system ++ (classpath policy m).user, p name) ↔
      ∀ a ∈ m.artifacts, p a.entry.remoteName := by
  simp only [(classpath_perm policy m).mem_iff, List.forall_mem_map]

/-- **Every artifact is on one classpath, once**, if all names are different. -/
lemma count_classpath (policy : ClasspathInclusion)
    (hdistinct : (m.artifacts.map (·.entry.remoteName)).Nodup) (ha : a ∈ m.artifacts) :
    ((classpath policy m).system ++ (classpath policy m).user).count a.entry.remoteName = 1 := by
  rw [(classpath_perm policy m).count_eq]
  exact List.count_eq_one_of_mem hdistinct (List.mem_map_of_mem ha)

/-- **Every name on a classpath is that of one artifact**, if all names are different. -/
lemma existsUnique_of_mem_classpath {name : String}
    (hdistinct : (m.artifacts.map (·.entry.remoteName)).Nodup)
    (hname : name ∈ (classpath policy m).system ++ (classpath policy m).user) :
    ∃! a, a ∈ m.artifacts ∧ a.entry.remoteName = name := by
  obtain ⟨a, ha, hsame⟩ := List.mem_map.1 ((classpath_perm policy m).mem_iff.1 hname)
  refine ⟨a, ⟨ha, hsame⟩, ?_⟩
  rintro b ⟨hb, hother⟩
  exact List.inj_on_of_nodup_map hdistinct hb ha (hother.trans hsame.symm)

end ClusterDeploy.Launch
