import ClusterDeploy.Proofs.Launch
import ClusterDeploy.Proofs.Text.ByteOrder

set_option relaxedAutoImplicit false
set_option autoImplicit false

/-!
# The order on the classpaths

The policy says where the jars of the job go, and the rest of the order is always the same: the
bundles come last, the libraries are sorted, and the jars stay in the order of the manifest unless
they are sorted together with the libraries. So nothing depends on the order of the libraries in the
manifest, nor on what lies between artifacts of one role.

## Main definitions

* `Launch.IsSorting` — names in ascending order of their bytes.
* `Launch.Leads` — what stands before the bundles on the system classpath.

## Main results

* `Launch.isSorting_sortNames`, `Launch.IsSorting.unique` — there is one way to sort names.
* `Launch.classpath_arranged` — what is on the classpaths, and in which order.
-/

namespace ClusterDeploy.Launch

variable {policy : ClasspathInclusion} {m m' : Manifest} {ns ns' sorted sorted' : List String}

/-! ## Sorting -/

/-- The same names, as often as before, in ascending order of their bytes. -/
structure IsSorting (ns sorted : List String) : Prop where
  perm : sorted.Perm ns
  ascends : sorted.Pairwise fun a b => Utf8.encode a ≤ Utf8.encode b

/-- Sorting gives the same names in their order. -/
lemma isSorting_sortNames (ns : List String) : IsSorting ns (sortNames ns) := by
  refine ⟨sortNames_perm ns, ?_⟩
  have hsorted : (sortNames ns).Pairwise fun a b => decide (a ≤ b) = true := by
    refine List.pairwise_mergeSort (fun a b c hab hbc => ?_) (fun a b => ?_) ns
    · exact decide_eq_true (String.le_trans (of_decide_eq_true hab) (of_decide_eq_true hbc))
    · simpa using String.le_total a b
  exact hsorted.imp fun h => Utf8.encode_le_iff.2 (of_decide_eq_true h)

/-- **There is one way to sort names**, in whatever order they come. -/
lemma IsSorting.unique (h : IsSorting ns sorted) (h' : IsSorting ns' sorted') (hns : ns.Perm ns') :
    sorted = sorted' := by
  refine List.Perm.eq_of_pairwise (fun a b _ _ hab hba => ?_) h.ascends h'.ascends
    (h.perm.trans (hns.trans h'.perm.symm))
  exact String.le_antisymm (Utf8.encode_le_iff.1 hab) (Utf8.encode_le_iff.1 hba)

/-- The order in which names are given does not matter when they are sorted. -/
lemma sortNames_eq_of_perm (h : ns.Perm ns') : sortNames ns = sortNames ns' :=
  (isSorting_sortNames ns).unique (isSorting_sortNames ns') h

/-! ## The classpaths -/

/-- What stands before the bundles on the system classpath, given the names of the libraries and of
the jars of the job. -/
inductive Leads (libraries jars : List String) : ClasspathInclusion → List String → Prop where
  /-- The libraries alone. -/
  | disabled {l : List String} : IsSorting libraries l → Leads libraries jars .disabled l
  /-- The jars, then the libraries. -/
  | first {l : List String} : IsSorting libraries l → Leads libraries jars .first (jars ++ l)
  /-- The libraries, then the jars. -/
  | last {l : List String} : IsSorting libraries l → Leads libraries jars .last (l ++ jars)
  /-- The libraries and the jars together. -/
  | order {l : List String} : IsSorting (libraries ++ jars) l → Leads libraries jars .order l

/-- The bundles come last, and before them what the policy says. -/
lemma exists_leads (policy : ClasspathInclusion) (m : Manifest) :
    ∃ front, Leads (names m .library) (names m .userJar) policy front ∧
      (classpath policy m).system = front ++ names m .bundle := by
  have hlibraries := isSorting_sortNames (names m .library)
  cases policy with
  | disabled => exact ⟨_, .disabled hlibraries, rfl⟩
  | first => exact ⟨_, .first hlibraries, rfl⟩
  | last => exact ⟨_, .last hlibraries, rfl⟩
  | order =>
    -- The libraries are sorted once more, together with the jars.
    have hall := isSorting_sortNames (sortNames (names m .library) ++ names m .userJar)
    exact ⟨_, .order ⟨hall.perm.trans (hlibraries.perm.append_right _), hall.ascends⟩, rfl⟩

/-- The classpaths depend on the order of the jars and on that of the bundles, and on nothing else.
-/
lemma classpath_congr (policy : ClasspathInclusion)
    (hlibraries : (names m .library).Perm (names m' .library))
    (hjars : names m .userJar = names m' .userJar)
    (hbundles : names m .bundle = names m' .bundle) : classpath policy m = classpath policy m' := by
  unfold classpath
  rw [sortNames_eq_of_perm hlibraries, hjars, hbundles]

/-- **What is on the classpaths, and in which order.** For every manifest and every policy

1. the names on the two classpaths together are those of the artifacts, each as often as in the
   manifest;
2. the user classpath has the jars of the job, in the order of the manifest, if the policy keeps
   them off the system classpath, and else it is empty;
3. the system classpath ends with the bundles, in the order of the manifest, and before them is what
   the policy says;
4. in a manifest with the same libraries, in any order, and with the same jars and the same bundles,
   each of them in the same order, the classpaths are the same. -/
theorem classpath_arranged (policy : ClasspathInclusion) (m : Manifest) :
    ((classpath policy m).system ++ (classpath policy m).user).Perm
      (m.artifacts.map (·.entry.remoteName)) ∧
    (classpath policy m).user = (if policy = .disabled then names m .userJar else []) ∧
    (∃ front, Leads (names m .library) (names m .userJar) policy front ∧
      (classpath policy m).system = front ++ names m .bundle) ∧
    ∀ m' : Manifest, (names m .library).Perm (names m' .library) →
      names m .userJar = names m' .userJar → names m .bundle = names m' .bundle →
      classpath policy m = classpath policy m' := by
  refine ⟨classpath_perm policy m, ?_, exists_leads policy m,
    fun m' hlibraries hjars hbundles => classpath_congr policy hlibraries hjars hbundles⟩
  cases policy <;> rfl

/-- Two manifests with one name three times, which differ in the order of the libraries and in what
lies between the jars. -/
theorem classpath_arranged_of_repeated_names :
    let artifact (role : ArtifactRole) (name : String) : StagedArtifact :=
      ⟨⟨name, name, role⟩, "/s/" ++ name, "", 1, 0⟩
    let m : Manifest := ⟨⟨1, 1⟩, "/s", [artifact .bundle "dist.jar", artifact .library "é.jar",
      artifact .userJar "z.jar", artifact .library "z.jar", artifact .userJar "job.jar",
      artifact .library "z.jar"], .storageDefault 3⟩
    let m' : Manifest := ⟨⟨1, 1⟩, "/s", [artifact .userJar "z.jar", artifact .userJar "job.jar",
      artifact .library "z.jar", artifact .library "z.jar", artifact .library "é.jar",
      artifact .bundle "dist.jar"], .storageDefault 3⟩
    (names m .library).Perm (names m' .library) ∧
      classpath .order m = classpath .order m' ∧
      (classpath .order m).user = [] ∧
      ∃ front, IsSorting ["é.jar", "z.jar", "z.jar", "z.jar", "job.jar"] front ∧
        (classpath .order m).system = front ++ ["dist.jar"] := by
  intro artifact m m'
  have hlibraries : (names m .library).Perm (names m' .library) := by decide
  obtain ⟨-, huser, ⟨front, hfront, hsystem⟩, hsame⟩ := classpath_arranged .order m
  refine ⟨hlibraries, hsame m' hlibraries rfl rfl, huser, front, ?_, hsystem⟩
  cases hfront with
  | order hsorting => exact ⟨hsorting.perm.trans (by decide), hsorting.ascends⟩

end ClusterDeploy.Launch
