import ClusterDeploy.Config
import Mathlib.Data.List.Induction
import Mathlib.Logic.Relation

set_option relaxedAutoImplicit false
set_option autoImplicit false

/-!
# Resolving a configuration

A list of pairs is applied pair by pair, and each pair changes one setting or none. So the first
pair that cannot be used decides alone how the resolution fails, and in a resolution that succeeds
the last pair for each setting decides alone what is set.

## Main definitions

* `Config.get` — what a configuration has for a setting.
* `Config.lastFor` — the last pair for a setting.
* `Config.Immaterial` — changes of a list of pairs that make no difference to its configuration.

## Main results

* `Config.eq_of_get` — a configuration is what it has for the settings.
* `Config.setAll_append` — pairs can be applied in two parts.
* `Config.setAll_eq_error_iff` — a resolution fails at the first pair that cannot be used.
* `Config.get_of_setAll` — what is set is what the last pair for the setting says.
* `Config.resolve_lastWins` — resolution, told by what the pairs resolve to one by one.

## Implementation notes

What a configuration has for a setting is given as the change that would set it. So the fields,
which have different types, can be compared by one function.
-/

namespace ClusterDeploy

/-! ## Settings and their values -/

/-- The setting that a value is for. -/
def Change.setting : Change → Setting
  | .masterMemory _ => .masterMemory
  | .workerMemory _ => .workerMemory
  | .slotsPerWorker _ => .slotsPerWorker
  | .replication _ => .replication
  | .askTimeout _ => .askTimeout
  | .classpathInclusion _ => .classpathInclusion
  | .terminationPollInterval _ => .terminationPollInterval
  | .terminationDeadline _ => .terminationDeadline
  | .startupTimeout _ => .startupTimeout
  | .stagingPrefix _ => .stagingPrefix
  | .resultTimeout _ => .resultTimeout

namespace Setting

/-- A setting is found under its own key. -/
lemma ofKey?_key (setting : Setting) : ofKey? setting.key = some setting := by
  cases setting <;> decide

/-- No two settings have the same key. -/
lemma key_inj {setting setting' : Setting} (h : setting.key = setting'.key) :
    setting = setting' :=
  Option.some.inj ((ofKey?_key setting).symm.trans (h ▸ ofKey?_key setting'))

/-- What is found under a key is the setting that has it. -/
lemma ofKey?_eq_some_iff {key : String} {setting : Setting} :
    ofKey? key = some setting ↔ setting.key = key := by
  constructor
  · intro h
    simpa [ofKey?] using List.find?_some h
  · rintro rfl
    exact ofKey?_key setting

/-- Nothing is found under a key exactly if no setting has it. -/
lemma ofKey?_eq_none_iff {key : String} :
    ofKey? key = none ↔ ∀ setting : Setting, setting.key ≠ key := by
  simp only [Option.eq_none_iff_forall_ne_some, ne_eq, ofKey?_eq_some_iff]

/-- What is read for a setting is a value for this setting. -/
lemma setting_of_read {setting : Setting} {value : String} {change : Change}
    (h : setting.read value = .ok change) : change.setting = setting := by
  cases setting <;> simp only [read, Except.map] at h <;> split at h <;> cases h <;> rfl

end Setting

namespace Config

variable {c c' config : Config} {setting : Setting} {pair : String × String} {e : DeployError}
  {overrides first second : List (String × String)}

/-- What a configuration has for a setting. -/
def get (c : Config) : Setting → Change
  | .masterMemory => .masterMemory c.masterMemory
  | .workerMemory => .workerMemory c.workerMemory
  | .slotsPerWorker => .slotsPerWorker c.slotsPerWorker
  | .replication => .replication c.replication
  | .askTimeout => .askTimeout c.askTimeout
  | .classpathInclusion => .classpathInclusion c.classpathInclusion
  | .terminationPollInterval => .terminationPollInterval c.terminationPollInterval
  | .terminationDeadline => .terminationDeadline c.terminationDeadline
  | .startupTimeout => .startupTimeout c.startupTimeout
  | .stagingPrefix => .stagingPrefix c.stagingPrefix
  | .resultTimeout => .resultTimeout c.resultTimeout

/-- A configuration is what it has for the settings. -/
lemma eq_of_get (h : ∀ setting, c.get setting = c'.get setting) : c = c' := by
  obtain ⟨⟩ := c
  obtain ⟨⟩ := c'
  rw [Config.mk.injEq]
  exact ⟨Change.masterMemory.inj (h .masterMemory), Change.workerMemory.inj (h .workerMemory),
    Change.slotsPerWorker.inj (h .slotsPerWorker), Change.replication.inj (h .replication),
    Change.askTimeout.inj (h .askTimeout), Change.classpathInclusion.inj (h .classpathInclusion),
    Change.terminationPollInterval.inj (h .terminationPollInterval),
    Change.terminationDeadline.inj (h .terminationDeadline),
    Change.startupTimeout.inj (h .startupTimeout), Change.stagingPrefix.inj (h .stagingPrefix),
    Change.resultTimeout.inj (h .resultTimeout)⟩

/-- A change is seen in the setting that it changes. -/
lemma get_apply_self (change : Change) : (c.apply change).get change.setting = change := by
  cases change <;> rfl

/-- A change is not seen in the other settings. -/
lemma get_apply_of_ne {change : Change} (h : change.setting ≠ setting) :
    (c.apply change).get setting = c.get setting := by
  cases change <;> cases setting <;> first | rfl | exact absurd rfl h

/-! ## One pair -/

/-- What a pair does to a configuration is the change that is read from it, if there is one. -/
lemma set_eq (c : Config) (pair : String × String) :
    c.set pair = (readPair pair.1 pair.2).map fun change => change.elim c c.apply := by
  unfold set
  split <;> simp_all [Except.map]

/-- Whether a pair can be used does not depend on the configuration it is applied to. -/
lemma set_eq_error_iff : c.set pair = .error e ↔ readPair pair.1 pair.2 = .error e := by
  rw [set_eq]
  cases readPair pair.1 pair.2 <;> simp [Except.map]

/-- A pair can be set exactly if it can be read. -/
lemma exists_set_iff :
    (∃ c', c.set pair = .ok c') ↔ ∃ change, readPair pair.1 pair.2 = .ok change := by
  rw [set_eq]
  cases readPair pair.1 pair.2 <;> simp [Except.map]

/-- A pair with an unknown key is read as no change at all. -/
lemma readPair_of_unknown (h : ∀ setting : Setting, setting.key ≠ pair.1) :
    readPair pair.1 pair.2 = .ok none := by
  simp only [readPair, Setting.ofKey?_eq_none_iff.2 h]

/-- A pair cannot be used if its value cannot be read for the setting with its key. -/
lemma readPair_eq_error_iff : readPair pair.1 pair.2 = .error e ↔
    ∃ setting : Setting, ∃ fault, setting.key = pair.1 ∧ setting.read pair.2 = .error fault ∧
      e = valueError pair.1 pair.2 fault := by
  simp only [← Setting.ofKey?_eq_some_iff]
  rcases hkey : Setting.ofKey? pair.1 with _ | setting
  · simp [readPair, hkey]
  · rcases hread : setting.read pair.2 with fault | change <;>
      simp [readPair, hkey, hread, eq_comm]

/-- A change is read from a pair exactly if a setting has the key and reads the value as this. -/
lemma readPair_eq_some_iff {change : Change} : readPair pair.1 pair.2 = .ok (some change) ↔
    ∃ setting : Setting, setting.key = pair.1 ∧ setting.read pair.2 = .ok change := by
  simp only [← Setting.ofKey?_eq_some_iff]
  rcases hkey : Setting.ofKey? pair.1 with _ | setting
  · simp [readPair, hkey]
  · rcases hread : setting.read pair.2 with fault | read <;> simp [readPair, hkey, hread]

/-- What is read from a pair is a value for the setting with its key. -/
lemma key_of_readPair {change : Change} (h : readPair pair.1 pair.2 = .ok (some change)) :
    change.setting.key = pair.1 := by
  obtain ⟨setting, hkey, hread⟩ := readPair_eq_some_iff.1 h
  rw [Setting.setting_of_read hread, hkey]

/-- A pair with another key leaves a setting as it is. -/
lemma get_of_set_of_ne (h : c.set pair = .ok c') (hkey : pair.1 ≠ setting.key) :
    c'.get setting = c.get setting := by
  rw [set_eq] at h
  rcases hread : readPair pair.1 pair.2 with e | _ | change
  · simp [hread, Except.map] at h
  · cases hread ▸ h
    rfl
  · cases hread ▸ h
    refine get_apply_of_ne fun hsetting => hkey ?_
    rw [← key_of_readPair hread, hsetting]

/-- After a pair with the key of a setting, the setting has the value that is read from it. -/
lemma get_of_set_of_eq (h : c.set pair = .ok c') (hkey : pair.1 = setting.key) :
    readPair pair.1 pair.2 = .ok (some (c'.get setting)) := by
  rw [set_eq] at h
  have hsetting : Setting.ofKey? pair.1 = some setting := Setting.ofKey?_eq_some_iff.2 hkey.symm
  rcases hread : setting.read pair.2 with fault | change
  · simp [readPair, hsetting, hread, Except.map] at h
  · simp only [readPair, hsetting, hread, Except.map, Option.elim, Except.ok.injEq] at h ⊢
    rw [← h, ← Setting.setting_of_read hread, get_apply_self]

/-! ## Lists of pairs -/

/-- Setting a list of one pair is setting this pair. -/
lemma setAll_singleton : c.setAll [pair] = c.set pair := by
  simp only [setAll]
  split <;> simp [*]

/-- Pairs can be applied in two parts. -/
lemma setAll_append : c.setAll (first ++ second) = (c.setAll first).bind (·.setAll second) := by
  induction first generalizing c with
  | nil => rfl
  | cons pair rest ih =>
    simp only [List.cons_append, setAll]
    split
    · rfl
    · exact ih

/-- The pairs of a list can all be applied exactly if each of them can be used. -/
lemma exists_setAll_iff : (∃ c', c.setAll overrides = .ok c') ↔
    ∀ pair ∈ overrides, ∃ change, readPair pair.1 pair.2 = .ok change := by
  induction overrides generalizing c with
  | nil => simp [setAll]
  | cons pair rest ih =>
    rw [List.forall_mem_cons, setAll, ← exists_set_iff (c := c)]
    rcases hset : c.set pair with e | c₁
    · simp
    · simpa using ih

/-- **A list of pairs fails at the first pair that cannot be used,** with the error of that pair. -/
lemma setAll_eq_error_iff : c.setAll overrides = .error e ↔
    ∃ before pair after, overrides = before ++ pair :: after ∧
      (∀ p ∈ before, ∃ change, readPair p.1 p.2 = .ok change) ∧
      readPair pair.1 pair.2 = .error e := by
  constructor
  · intro h
    induction overrides generalizing c with
    | nil => exact nomatch h
    | cons pair rest ih =>
      rw [setAll] at h
      rcases hset : c.set pair with e' | c'
      · cases hset ▸ h
        exact ⟨[], pair, rest, rfl, by simp, set_eq_error_iff.1 hset⟩
      · obtain ⟨before, bad, after, rfl, hbefore, hbad⟩ := ih (c := c') (by simpa [hset] using h)
        have hpair := exists_set_iff.1 ⟨c', hset⟩
        exact ⟨pair :: before, bad, after, rfl, List.forall_mem_cons.2 ⟨hpair, hbefore⟩, hbad⟩
  · rintro ⟨before, bad, after, rfl, hbefore, hbad⟩
    obtain ⟨c', hc'⟩ := exists_setAll_iff (c := c).2 hbefore
    rw [setAll_append, hc']
    simp only [Except.bind, setAll, set_eq_error_iff.2 hbad]

/-- The last pair of a list that is for a setting. -/
def lastFor (setting : Setting) (overrides : List (String × String)) :
    Option (String × String) :=
  overrides.reverse.find? (·.1 == setting.key)

/-- The pair that comes last counts for a setting if it has its key. -/
lemma lastFor_concat : lastFor setting (overrides ++ [pair]) =
    if pair.1 = setting.key then some pair else lastFor setting overrides := by
  by_cases hkey : pair.1 = setting.key <;> simp [lastFor, hkey]

/-- A later pair for a setting counts before an earlier one. -/
lemma lastFor_append : lastFor setting (first ++ second) =
    (lastFor setting second).or (lastFor setting first) := by
  rw [lastFor, List.reverse_append, List.find?_append]
  rfl

/-- The last pair for a setting has its key. -/
lemma key_of_lastFor (h : lastFor setting overrides = some pair) : pair.1 = setting.key := by
  simpa using List.find?_some h

/-- **What is set is what the last pair for the setting says.** -/
lemma get_of_setAll (h : c.setAll overrides = .ok c') (setting : Setting) :
    match lastFor setting overrides with
    | none => c'.get setting = c.get setting
    | some pair => readPair pair.1 pair.2 = .ok (some (c'.get setting)) := by
  induction overrides using List.reverseRecOn generalizing c' with
  | nil =>
    cases h
    rfl
  | append_singleton first pair ih =>
    rw [setAll_append] at h
    rcases hfirst : c.setAll first with e | c₁
    · simp [hfirst, Except.bind] at h
    · have hpair : c₁.set pair = .ok c' := by
        simpa [hfirst, Except.bind, setAll_singleton] using h
      rw [lastFor_concat]
      by_cases hkey : pair.1 = setting.key
      · rw [if_pos hkey]
        exact get_of_set_of_eq hpair hkey
      · rw [if_neg hkey, get_of_set_of_ne hpair hkey]
        exact ih hfirst

/-- Lists of pairs that can be used give the same configuration if the last pairs for the settings
are the same. -/
lemma setAll_eq_of_lastFor (h : c.setAll overrides = .ok config)
    (hread : ∀ pair ∈ first, ∃ change, readPair pair.1 pair.2 = .ok change)
    (hlast : ∀ setting, lastFor setting first = lastFor setting overrides) :
    c.setAll first = .ok config := by
  obtain ⟨c', hc'⟩ := exists_setAll_iff (c := c).2 hread
  rw [hc', Except.ok.injEq]
  refine eq_of_get fun setting => ?_
  have hfirst := get_of_setAll hc' setting
  have hall := get_of_setAll h setting
  rw [hlast] at hfirst
  split at hfirst
  · next hnone => rw [hfirst, ← show config.get setting = c.get setting by simpa [hnone] using hall]
  · next pair hsome =>
    simp only [hsome, hfirst, Except.ok.injEq, Option.some.injEq] at hall
    exact hall

/-! ## Changes that make no difference -/

/-- Changes of a list of pairs that make no difference to the configuration, if it has one. -/
inductive Immaterial : List (String × String) → List (String × String) → Prop
  /-- The pairs are put in another order, in which the pairs for one key keep theirs. -/
  | reorder {before after : List (String × String)}
      (h : ∀ key, after.filter (·.1 == key) = before.filter (·.1 == key)) : Immaterial before after
  /-- A pair is dropped whose key occurs again later. -/
  | drop (first second : List (String × String)) {pair : String × String}
      (h : ∃ later ∈ second, later.1 = pair.1) :
      Immaterial (first ++ pair :: second) (first ++ second)
  /-- A pair is added whose key is unknown. -/
  | add (first second : List (String × String)) {pair : String × String}
      (h : ∀ setting : Setting, setting.key ≠ pair.1) :
      Immaterial (first ++ second) (first ++ pair :: second)
  /-- A pair is removed whose key is unknown. -/
  | remove (first second : List (String × String)) {pair : String × String}
      (h : ∀ setting : Setting, setting.key ≠ pair.1) :
      Immaterial (first ++ pair :: second) (first ++ second)

/-- A pair with an unknown key is the last one for no setting. -/
lemma lastFor_of_unknown (h : ∀ setting : Setting, setting.key ≠ pair.1) (setting : Setting) :
    lastFor setting (first ++ pair :: second) = lastFor setting (first ++ second) := by
  simp [lastFor, (h setting).symm]

/-- A pair is the last one for no setting if a later one has the same key. -/
lemma lastFor_of_later (h : ∃ later ∈ second, later.1 = pair.1) (setting : Setting) :
    lastFor setting (first ++ pair :: second) = lastFor setting (first ++ second) := by
  by_cases hkey : pair.1 = setting.key
  · obtain ⟨later, hmem, hlater⟩ := h
    obtain ⟨last, hlast⟩ : ∃ last, second.reverse.find? (·.1 == setting.key) = some last :=
      Option.isSome_iff_exists.1 (List.find?_isSome.2 ⟨later, by simpa, by simp [hlater, hkey]⟩)
    simp [lastFor, hlast]
  · simp [lastFor, hkey]

/-- The pairs that a change leaves can be used, and the last ones for the settings are the same. -/
lemma Immaterial.usable_and_lastFor {before after : List (String × String)}
    (h : Immaterial before after)
    (hread : ∀ pair ∈ before, ∃ change, readPair pair.1 pair.2 = .ok change) :
    (∀ pair ∈ after, ∃ change, readPair pair.1 pair.2 = .ok change) ∧
      ∀ setting, lastFor setting after = lastFor setting before := by
  cases h with
  | reorder h =>
    refine ⟨fun pair hpair => hread pair ?_, fun setting => ?_⟩
    · have hmem : pair ∈ after.filter (·.1 == pair.1) := List.mem_filter.2 ⟨hpair, by simp⟩
      exact (List.mem_filter.1 (h pair.1 ▸ hmem)).1
    · rw [lastFor, lastFor, ← List.getLast?_filter, ← List.getLast?_filter, h setting.key]
  | drop first second h =>
    refine ⟨fun pair hpair => hread pair ?_, fun setting => (lastFor_of_later h setting).symm⟩
    exact (List.sublist_cons_self _ second).append_left first |>.subset hpair
  | @add first second extra h =>
    refine ⟨fun pair hpair => ?_, lastFor_of_unknown h⟩
    rcases List.mem_append.1 hpair with hfirst | hsecond
    · exact hread pair (List.mem_append_left _ hfirst)
    · rcases List.mem_cons.1 hsecond with rfl | hsecond
      · exact ⟨none, readPair_of_unknown h⟩
      · exact hread pair (List.mem_append_right _ hsecond)
  | remove first second h =>
    refine ⟨fun pair hpair => hread pair ?_, fun setting => (lastFor_of_unknown h setting).symm⟩
    exact (List.sublist_cons_self _ second).append_left first |>.subset hpair

/-- A change that makes no difference keeps the configuration. -/
lemma Immaterial.setAll_eq {before after : List (String × String)} (h : Immaterial before after)
    (hbefore : c.setAll before = .ok config) : c.setAll after = .ok config := by
  obtain ⟨hread, hlast⟩ := h.usable_and_lastFor (exists_setAll_iff.1 ⟨config, hbefore⟩)
  exact setAll_eq_of_lastFor hbefore hread hlast

/-- Changes that do not matter leave the resulting configuration as it is. -/
lemma setAll_eq_of_immaterial {before after : List (String × String)}
    (h : Relation.ReflTransGen Immaterial before after) (hbefore : c.setAll before = .ok config) :
    c.setAll after = .ok config := by
  induction h with
  | refl => exact hbefore
  | tail _ hstep ih => exact hstep.setAll_eq ih

/-! ## Resolution -/

/-- A single pair is refused exactly if it cannot be read. -/
lemma resolve_singleton_eq_error_iff : resolve [pair] = .error e ↔
    readPair pair.1 pair.2 = .error e := by
  rw [resolve, setAll_singleton, set_eq_error_iff]

/-- A single pair resolves to a configuration exactly if it can be read. -/
lemma exists_resolve_singleton_iff :
    (∃ alone, resolve [pair] = .ok alone) ↔ ∃ change, readPair pair.1 pair.2 = .ok change := by
  rw [resolve, setAll_singleton, exists_set_iff]

/-- **The last pair for each setting wins, and the first pair that cannot be used fails all.** For
every list of pairs:

1. resolution fails exactly if some pair of the list fails when it is resolved alone;
2. then the error is the one of the first such pair, even if a later pair is for the same key. It is
   an error of the configuration, and names the key, what is wrong with the value being what is
   wrong with it for the setting with this key;
3. otherwise each setting is as the last pair with its key sets it when it is resolved alone, and by
   default if there is no such pair;
4. and the result is kept by any sequence of changes that reorder pairs with different keys, drop
   pairs whose key occurs again later, and add or remove pairs with unknown keys.

**Proof sketch.** Reading a pair does not depend on the configuration, so a list can be applied
exactly if all its pairs can be read. Of two pairs one after the other the first one changes what
the second does not set. By induction from the end of the list, a setting has the value that was
read from its last pair, and a change of the fourth kind keeps the last pairs of all settings. -/
theorem resolve_lastWins (overrides : List (String × String)) :
    ((∃ e, resolve overrides = .error e) ↔ ∃ pair ∈ overrides, ∃ e, resolve [pair] = .error e) ∧
    (∀ e, resolve overrides = .error e →
      ∃ before pair after, overrides = before ++ pair :: after ∧
        (∀ p ∈ before, ∃ alone, resolve [p] = .ok alone) ∧ resolve [pair] = .error e ∧
        e.kind = .configuration ∧ e.stage = some .configuration ∧ e.application = none ∧
        ∃ setting : Setting, ∃ fault, setting.key = pair.1 ∧
          setting.read pair.2 = .error fault ∧
          e.message = s!"invalid value for '{pair.1}': {fault.message pair.2}") ∧
    ∀ config, resolve overrides = .ok config →
      (∀ setting : Setting, match lastFor setting overrides with
        | none => config.get setting = Config.default.get setting
        | some pair => ∃ alone, resolve [pair] = .ok alone ∧
            config.get setting = alone.get setting) ∧
      ∀ changed, Relation.ReflTransGen Immaterial overrides changed →
        resolve changed = .ok config := by
  -- the first pair that is refused alone decides
  have hsplit : ∀ e, resolve overrides = .error e ↔ ∃ before pair after,
      overrides = before ++ pair :: after ∧ (∀ p ∈ before, ∃ alone, resolve [p] = .ok alone) ∧
        resolve [pair] = .error e := by
    intro e
    simp only [resolve_singleton_eq_error_iff, exists_resolve_singleton_iff]
    exact setAll_eq_error_iff
  refine ⟨⟨?_, ?_⟩, fun e he => ?_, fun config hconfig => ⟨fun setting => ?_, fun changed h => ?_⟩⟩
  · rintro ⟨e, he⟩
    obtain ⟨before, pair, after, rfl, -, hpair⟩ := (hsplit e).1 he
    exact ⟨pair, by simp, e, hpair⟩
  · rintro ⟨pair, hmem, e, hpair⟩
    rcases hall : resolve overrides with e' | config
    · exact ⟨e', rfl⟩
    · obtain ⟨change, hchange⟩ := exists_setAll_iff.1 ⟨config, hall⟩ pair hmem
      rw [resolve_singleton_eq_error_iff, hchange] at hpair
      exact nomatch hpair
  · obtain ⟨before, pair, after, hlist, hbefore, hpair⟩ := (hsplit e).1 he
    obtain ⟨setting, fault, hkey, hfault, rfl⟩ :=
      readPair_eq_error_iff.1 (resolve_singleton_eq_error_iff.1 hpair)
    exact ⟨before, pair, after, hlist, hbefore, hpair, rfl, rfl, rfl, setting, fault, hkey, hfault,
      rfl⟩
  · have hset := get_of_setAll hconfig setting
    split at hset
    · exact hset
    · next pair hlast =>
      obtain ⟨alone, halone⟩ := exists_resolve_singleton_iff.2 ⟨_, hset⟩
      have hkey : lastFor setting [pair] = some pair := by simp [lastFor, key_of_lastFor hlast]
      have hpair := get_of_setAll halone setting
      rw [hkey] at hpair
      simp only [hset, Except.ok.injEq, Option.some.injEq] at hpair
      exact ⟨alone, halone, hpair⟩
  · exact setAll_eq_of_immaterial h hconfig

/-- A replication factor that is unset again later, and one that cannot be used: the first leaves
the default, the second fails although it would be replaced. -/
theorem resolve_lastWins_of_unset :
    let overrides := [("yarn.file-replication", "2"), ("akka.ask.timeout", "30 s"),
      ("colour", "red"), ("yarn.file-replication", " -1 ")]
    let changed := [("yarn.file-replication", " -1 "), ("akka.ask.timeout", "30 s")]
    let refused : DeployError := valueError "yarn.file-replication" "0" (.factorNotPositive 0)
    resolve overrides = .ok { Config.default with askTimeout := 30000 } ∧
      Relation.ReflTransGen Immaterial overrides changed ∧
      resolve changed = .ok { Config.default with askTimeout := 30000 } ∧
      resolve (("yarn.file-replication", "0") :: overrides) = .error refused ∧
      ∃ before pair after, ("yarn.file-replication", "0") :: overrides = before ++ pair :: after ∧
        resolve [pair] = .error refused := by
  intro overrides changed refused
  have hunknown : ∀ setting : Setting, setting.key ≠ "colour" := by
    intro setting
    cases setting <;> decide
  have hchange : Relation.ReflTransGen Immaterial overrides changed := by
    refine .head (.drop [] _ ⟨("yarn.file-replication", " -1 "), by simp, rfl⟩) ?_
    refine .head (.remove [("akka.ask.timeout", "30 s")] _ hunknown) (.single (.reorder ?_))
    intro key
    by_cases hkey : "akka.ask.timeout" = key
    · subst hkey
      rfl
    · simp [changed, List.filter_cons, hkey]
  have hresolve : resolve overrides = .ok { Config.default with askTimeout := 30000 } := rfl
  have hrefused : resolve (("yarn.file-replication", "0") :: overrides) = .error refused := rfl
  obtain ⟨before, pair, after, hlist, -, hpair, -⟩ := (resolve_lastWins _).2.1 refused hrefused
  exact ⟨hresolve, hchange, ((resolve_lastWins overrides).2.2 _ hresolve).2 changed hchange,
    hrefused, before, pair, after, hlist, hpair⟩

end Config

end ClusterDeploy
