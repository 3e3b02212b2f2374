import ClusterDeploy.Launch
import ClusterDeploy.Proofs.Config
import Mathlib.Algebra.Order.Floor.Div

set_option relaxedAutoImplicit false
set_option autoImplicit false

/-!
# Configurations can be used

Whatever the settings are, a configuration that they resolve to can be worked with: there is memory
for the cluster, its workers have slots, nobody waits for no time, and the label of the staging
directories names one directory. So the resources of a cluster can be derived from it for every job.

## Main definitions

* `Storage.IsLabel` — texts that name one hidden directory.
* `Change.Sound` — values that can be worked with.
* `Config.Usable` — configurations that can be worked with.
* `Launch.ceilDiv` — a quotient of words that is rounded up.

## Main results

* `Setting.sound_of_read` — every value that is read for a setting can be worked with.
* `Config.usable_of_resolve` — every configuration can be worked with.
* `Launch.isLeast_workerCount` — the number of workers is the least one that suffices.
* `Config.resolve_usable` — what holds of every configuration, and of the cluster of every job.
-/

namespace ClusterDeploy

/-- Texts that name one hidden directory when a dot is put before them. -/
structure Storage.IsLabel (label : String) : Prop where
  nonempty : label ≠ ""
  noSlash : '/' ∉ label.toList
  noDot : label.toList.head? ≠ some '.'

namespace MemorySize

variable {size : MemorySize}

/-- The mebibytes of a size are its bytes, rounded down. -/
lemma toNat_mebibytes : size.mebibytes.toNat = size.bytes.toNat / mebibyte :=
  UInt64.toNat_div _ _

/-- The whole mebibytes of a size are none exactly if it is smaller than one. -/
lemma mebibyte_le_iff : mebibyte ≤ size.bytes.toNat ↔ size.mebibytes ≠ 0 := by
  rw [ne_eq, ← UInt64.toNat_inj, toNat_mebibytes]
  change _ ↔ ¬ _ / mebibyte = 0
  rw [Nat.div_eq_zero_iff, not_or, not_lt]
  exact (and_iff_right (by decide)).symm

end MemorySize

/-! ## Values -/

namespace Value

variable {value : String}

/-- A size that is accepted as that of a memory is a mebibyte at least. -/
lemma mebibyte_le_of_memory {size : MemorySize} (h : memory value = .ok size) :
    MemorySize.mebibyte ≤ size.bytes.toNat := by
  unfold memory at h
  split at h
  · exact nomatch h
  · split at h
    · exact nomatch h
    · next hsize =>
      rw [← Except.ok.inj h]
      exact MemorySize.mebibyte_le_iff.2 hsize

/-- A number that is accepted as a count is positive. -/
lemma pos_of_count {n : UInt32} (h : count value = .ok n) : 0 < n.toNat := by
  unfold count at h
  split at h
  · exact nomatch h
  · split at h
    · next hbounds =>
      rw [← Except.ok.inj h, UInt32.toNat_ofNat_of_lt' (by omega)]
      omega
    · exact nomatch h

/-- A number of copies that is accepted is positive. -/
lemma pos_of_replication {factor : Option UInt16} (h : replication value = .ok factor) :
    ∀ n ∈ factor, 0 < n.toNat := by
  unfold replication at h
  split at h
  · rw [← Except.ok.inj h]
    exact fun n hn => nomatch hn
  · split at h
    · exact nomatch h
    · split at h
      · next hbounds =>
        rintro n hn
        rw [← Except.ok.inj h, Option.mem_some_iff] at hn
        rw [← hn, UInt16.toNat_ofNat_of_lt' (by omega)]
        omega
      · exact nomatch h

/-- A time that is accepted is positive. -/
lemma pos_of_duration {time : Millis} (h : duration value = .ok time) : 0 < time := by
  unfold duration at h
  split at h
  · exact nomatch h
  · split at h
    · exact nomatch h
    · next htime =>
      rw [← Except.ok.inj h]
      exact Nat.pos_of_ne_zero htime

/-- A time that may be missing is positive if it is accepted. -/
lemma pos_of_optionalDuration {time : Option Millis} (h : optionalDuration value = .ok time) :
    ∀ t ∈ time, 0 < t := by
  unfold optionalDuration at h
  split at h
  · rw [← Except.ok.inj h]
    exact fun t ht => nomatch ht
  · rcases hduration : duration value with fault | t
    · simp [hduration, Except.map] at h
    · rw [hduration] at h
      rintro _ ht
      rw [← Except.ok.inj h, Option.mem_some_iff] at ht
      rw [← ht]
      exact pos_of_duration hduration

/-- What is left of a text without the dots at its start does not begin with one. -/
lemma isLabel_of_segment {label : String} (h : segment value = .ok label) :
    Storage.IsLabel label := by
  simp only [segment] at h
  split at h
  · exact nomatch h
  · next hname =>
    rw [Bool.or_eq_true, not_or] at hname
    have hdots := List.head?_dropWhile_not (· == '.') (Text.trim value.toList)
    rw [← Except.ok.inj h]
    refine ⟨fun hempty => hname.1 ?_, ?_, fun hdot => ?_⟩
    · rw [String.ofList_eq_empty_iff.1 hempty]
      rfl
    · rw [String.toList_ofList]
      exact fun hslash => hname.2 (List.contains_iff_mem.2 hslash)
    · rw [String.toList_ofList] at hdot
      rw [hdot] at hdots
      exact nomatch hdots

end Value

/-- Values that can be worked with. -/
def Change.Sound : Change → Prop
  | .masterMemory size => MemorySize.mebibyte ≤ size.bytes.toNat
  | .workerMemory size => MemorySize.mebibyte ≤ size.bytes.toNat
  | .slotsPerWorker n => 0 < n.toNat
  | .replication factor => ∀ n ∈ factor, 0 < n.toNat
  | .askTimeout time => 0 < time
  | .classpathInclusion _ => True
  | .terminationPollInterval time => 0 < time
  | .terminationDeadline time => 0 < time
  | .startupTimeout time => 0 < time
  | .stagingPrefix name => Storage.IsLabel name
  | .resultTimeout time => ∀ t ∈ time, 0 < t

/-- A value is sound if what it was made of is. -/
private lemma sound_of_map {α : Type} {found : Except ValueFault α} {make : α → Change}
    {change : Change} (hsound : ∀ {a}, found = .ok a → (make a).Sound)
    (h : found.map make = .ok change) : change.Sound := by
  cases found with
  | error fault => exact nomatch h
  | ok a =>
    rw [← Except.ok.inj h]
    exact hsound rfl

/-- **Every value that is read for a setting can be worked with.** -/
lemma Setting.sound_of_read {setting : Setting} {value : String} {change : Change}
    (h : setting.read value = .ok change) : change.Sound := by
  cases setting with
  | masterMemory => exact sound_of_map Value.mebibyte_le_of_memory h
  | workerMemory => exact sound_of_map Value.mebibyte_le_of_memory h
  | slotsPerWorker => exact sound_of_map Value.pos_of_count h
  | replication => exact sound_of_map Value.pos_of_replication h
  | askTimeout => exact sound_of_map Value.pos_of_duration h
  | classpathInclusion => exact @sound_of_map _ _ .classpathInclusion _ (fun _ => trivial) h
  | terminationPollInterval => exact sound_of_map Value.pos_of_duration h
  | terminationDeadline => exact sound_of_map Value.pos_of_duration h
  | startupTimeout => exact sound_of_map Value.pos_of_duration h
  | stagingPrefix => exact sound_of_map Value.isLabel_of_segment h
  | resultTimeout => exact sound_of_map Value.pos_of_optionalDuration h

/-! ## Configurations -/

namespace Config

/-- Configurations that can be worked with. -/
structure Usable (c : Config) : Prop where
  masterMemory : MemorySize.mebibyte ≤ c.masterMemory.bytes.toNat
  workerMemory : MemorySize.mebibyte ≤ c.workerMemory.bytes.toNat
  slotsPerWorker : 1 ≤ c.slotsPerWorker.toNat
  replication : ∀ n ∈ c.replication, 1 ≤ n.toNat ∧ n.toNat ≤ 65535
  askTimeout : 0 < c.askTimeout
  terminationPollInterval : 0 < c.terminationPollInterval
  terminationDeadline : 0 < c.terminationDeadline
  startupTimeout : 0 < c.startupTimeout
  stagingPrefix : Storage.IsLabel c.stagingPrefix
  resultTimeout : ∀ t ∈ c.resultTimeout, 0 < t

variable {c : Config} {overrides : List (String × String)}

/-- A configuration can be worked with if what it has for each setting can. -/
lemma usable_of_sound (h : ∀ setting, (c.get setting).Sound) : c.Usable where
  masterMemory := h .masterMemory
  workerMemory := h .workerMemory
  slotsPerWorker := h .slotsPerWorker
  replication n hn := ⟨h .replication n hn, Nat.le_of_lt_succ n.toNat_lt⟩
  askTimeout := h .askTimeout
  terminationPollInterval := h .terminationPollInterval
  terminationDeadline := h .terminationDeadline
  startupTimeout := h .startupTimeout
  stagingPrefix := h .stagingPrefix
  resultTimeout := h .resultTimeout

/-- The default of every setting passes the check of its setting. -/
lemma sound_get_default (setting : Setting) : (Config.default.get setting).Sound := by
  have hlabel : Storage.IsLabel "jobcluster" := ⟨by decide, by decide, by decide⟩
  have hnone {α : Type} {p : α → Prop} : ∀ a ∈ (none : Option α), p a := fun _ ha => nomatch ha
  cases setting with
  | replication => exact hnone
  | stagingPrefix => exact hlabel
  | resultTimeout => exact hnone
  | classpathInclusion => trivial
  | masterMemory | workerMemory | slotsPerWorker | askTimeout | terminationPollInterval
  | terminationDeadline | startupTimeout => simp only [Change.Sound, get]; decide

/-- What was read from a pair can be worked with. -/
lemma sound_of_readPair {pair : String × String} {change : Change}
    (h : readPair pair.1 pair.2 = .ok (some change)) : change.Sound := by
  obtain ⟨setting, -, hread⟩ := readPair_eq_some_iff.1 h
  exact Setting.sound_of_read hread

/-- **Every configuration can be worked with.**

**Proof sketch.** What it has for a setting was read from the last pair for this setting, or is the
default. -/
lemma usable_of_resolve (h : resolve overrides = .ok c) : c.Usable := by
  refine usable_of_sound fun setting => ?_
  have hset := get_of_setAll h setting
  split at hset
  · rw [hset]
    exact sound_get_default setting
  · exact sound_of_readPair hset

end Config

/-! ## Workers -/

namespace Launch

/-- The quotient of two words, rounded up: one is added if there is a remainder. -/
def ceilDiv (a b : UInt32) : UInt32 :=
  if 0 < a % b then a / b + 1 else a / b

variable {a b parallelism slots : UInt32}

/-- Rounding up adds one to a quotient exactly if there is a remainder. -/
lemma nat_ceilDiv_eq {m n : Nat} (hn : 0 < n) :
    m ⌈/⌉ n = if 0 < m % n then m / n + 1 else m / n := by
  have hdivision := Nat.div_add_mod m n
  have hfloor : m / n ≤ m ⌈/⌉ n := by
    rw [Nat.ceilDiv_eq_add_pred_div]
    exact Nat.div_le_div_right (by omega)
  split_ifs with hrest
  · refine Nat.le_antisymm ((ceilDiv_le_iff_le_mul hn).2 (Nat.lt_mul_div_succ m hn).le) ?_
    refine Nat.lt_of_le_of_ne hfloor fun heq => ?_
    have hle := (ceilDiv_le_iff_le_mul hn).1 heq.ge
    omega
  · refine Nat.le_antisymm ((ceilDiv_le_iff_le_mul hn).2 ?_) hfloor
    omega

/-- A number is not less than its quotient, rounded up. -/
lemma nat_ceilDiv_le {m n : Nat} (hn : 0 < n) : m ⌈/⌉ n ≤ m :=
  (ceilDiv_le_iff_le_mul hn).2 (Nat.le_mul_of_pos_left m hn)

/-- A word is positive exactly if its number is. -/
lemma pos_iff_toNat_pos : 0 < a ↔ 0 < a.toNat :=
  UInt32.lt_iff_toNat_lt

/-- There is room for the one that is added. -/
lemma div_add_one_lt_size (hb : 0 < b) (hrest : 0 < a % b) :
    (a / b).toNat + 1 < UInt32.size := by
  rw [pos_iff_toNat_pos] at hb hrest
  rw [UInt32.toNat_mod] at hrest
  have hround : a.toNat ⌈/⌉ b.toNat = a.toNat / b.toNat + 1 := by
    rw [nat_ceilDiv_eq hb, if_pos hrest]
  rw [UInt32.toNat_div, ← hround]
  exact Nat.lt_of_le_of_lt (nat_ceilDiv_le hb) a.toNat_lt

/-- **The quotient of words is the quotient of the numbers**, rounded up. -/
lemma toNat_ceilDiv (hb : 0 < b) : (ceilDiv a b).toNat = a.toNat ⌈/⌉ b.toNat := by
  rw [nat_ceilDiv_eq (pos_iff_toNat_pos.1 hb), ceilDiv]
  simp only [pos_iff_toNat_pos, UInt32.toNat_mod]
  split_ifs with hrest
  · rw [UInt32.toNat_add]
    refine Nat.mod_eq_of_lt (div_add_one_lt_size hb ?_)
    rwa [pos_iff_toNat_pos, UInt32.toNat_mod]
  · exact UInt32.toNat_div a b

/-- The number of workers is the slots that are needed by the slots of a worker, rounded up. -/
lemma toNat_workerCount (hslots : 0 < slots) :
    (workerCount parallelism slots).toNat = max parallelism.toNat 1 ⌈/⌉ slots.toNat := by
  have hpos : 0 < slots.toNat := pos_iff_toNat_pos.1 hslots
  have hword : max parallelism.toNat 1 < UInt32.size :=
    Nat.max_lt.2 ⟨parallelism.toNat_lt, by decide⟩
  simp only [workerCount, Nat.max_eq_left hpos]
  rw [← Nat.ceilDiv_eq_add_pred_div, UInt32.toNat_ofNat_of_lt']
  exact Nat.lt_of_le_of_lt (nat_ceilDiv_le hpos) hword

/-- The number of workers is computed in words. -/
lemma workerCount_eq (hslots : 0 < slots) :
    workerCount parallelism slots = ceilDiv (max parallelism 1) slots := by
  rw [← UInt32.toNat_inj, toNat_workerCount hslots, toNat_ceilDiv hslots, UInt32.toNat_max]
  rfl

/-- **The number of workers is the least one** whose slots carry a job. -/
lemma isLeast_workerCount (hslots : 0 < slots) :
    IsLeast {n : Nat | max parallelism.toNat 1 ≤ n * slots.toNat}
      (workerCount parallelism slots).toNat := by
  have hpos : 0 < slots.toNat := pos_iff_toNat_pos.1 hslots
  rw [toNat_workerCount hslots]
  refine ⟨?_, fun n hn => (ceilDiv_le_iff_le_mul hpos).2 ?_⟩
  · change max parallelism.toNat 1 ≤ (max parallelism.toNat 1 ⌈/⌉ slots.toNat) * slots.toNat
    rw [Nat.mul_comm]
    exact (ceilDiv_le_iff_le_mul hpos).1 (Nat.le_refl _)
  · rwa [Nat.mul_comm]

end Launch

/-! ## The cluster of a job -/

namespace Config

/-- **Every configuration can be used, for every job.** For every list of overrides that resolves:

1. both memory sizes are at least one mebibyte, there is at least one slot per worker, the
   replication factor is absent or from 1 to 65535, every duration is positive, and the staging
   prefix is not empty, has no slash and does not begin with a dot;
2. for every job, of any parallelism, the cluster gets at least one mebibyte for the master and for
   each worker, which are the whole mebibytes of what is configured, and the configured slots;
3. the number of its workers is the least one whose slots carry a parallelism of at least one. It is
   a quotient of words of 32 bits to which one is added if there is a remainder, and for all words
   there is room for that.

**Proof sketch.** What a configuration has for a setting is the default or was read from a pair, and
every reader refuses what cannot be used (`Setting.sound_of_read`). A number divided by at least one
and rounded up is not more than the number, so the quotient of words does not overflow. -/
theorem resolve_usable (overrides : List (String × String)) (config : Config)
    (h : resolve overrides = .ok config) :
    config.Usable ∧
    (∀ job : Job, let spec := Launch.specification config job
      1 ≤ spec.masterMemoryMb.toNat ∧ 1 ≤ spec.workerMemoryMb.toNat ∧
      spec.masterMemoryMb.toNat = config.masterMemory.bytes.toNat / MemorySize.mebibyte ∧
      spec.workerMemoryMb.toNat = config.workerMemory.bytes.toNat / MemorySize.mebibyte ∧
      spec.slotsPerWorker = config.slotsPerWorker ∧
      IsLeast {n : Nat | max job.parallelism.toNat 1 ≤ n * config.slotsPerWorker.toNat}
        spec.workerCount.toNat ∧
      spec.workerCount = Launch.ceilDiv (max job.parallelism 1) config.slotsPerWorker) ∧
    ∀ a b : UInt32, 0 < b → 0 < a % b → (a / b).toNat + 1 < UInt32.size := by
  have husable := usable_of_resolve h
  have hslots : 0 < config.slotsPerWorker := Launch.pos_iff_toNat_pos.2 husable.slotsPerWorker
  have hmemory {size : MemorySize} (hsize : MemorySize.mebibyte ≤ size.bytes.toNat) :
      1 ≤ size.mebibytes.toNat :=
    Nat.pos_of_ne_zero fun hzero =>
      MemorySize.mebibyte_le_iff.1 hsize (UInt64.toNat_inj.1 hzero)
  refine ⟨husable, fun job => ⟨hmemory husable.masterMemory, hmemory husable.workerMemory,
    MemorySize.toNat_mebibytes, MemorySize.toNat_mebibytes, ?_, Launch.isLeast_workerCount hslots,
    Launch.workerCount_eq hslots⟩, fun a b => Launch.div_add_one_lt_size⟩
  rw [← UInt32.toNat_inj]
  exact (UInt32.toNat_max _ _).trans (Nat.max_eq_left husable.slotsPerWorker)

/-- The greatest number of workers, of a job that has as many tasks as can be, and the single worker
of a job that has none. The label has a dot within but none at its start, and the first replication
factor is withdrawn. -/
theorem resolve_usable_of_greatest :
    let overrides := [("jobmanager.memory.process.size", "1048576"),
      ("yarn.file-replication", "65535"), ("deployment.staging.prefix", " ..a.b "),
      ("yarn.file-replication", "-1"), ("deployment.result.timeout", "1 ms")]
    let config : Config := { Config.default with
      masterMemory := ⟨1048576⟩, stagingPrefix := "a.b", resultTimeout := some 1 }
    resolve overrides = .ok config ∧ config.Usable ∧
      (Launch.specification config ⟨"j", "j", 4294967295, [], []⟩).masterMemoryMb = 1 ∧
      (Launch.specification config ⟨"j", "j", 4294967295, [], []⟩).workerCount = 4294967295 ∧
      IsLeast {n : Nat | max 0 1 ≤ n * 1}
        (Launch.specification config ⟨"j", "j", 0, [], []⟩).workerCount.toNat := by
  intro overrides config
  have hresolve : resolve overrides = .ok config := rfl
  obtain ⟨husable, hspec, -⟩ := resolve_usable overrides config hresolve
  obtain ⟨-, -, -, -, -, hleast, -⟩ := hspec ⟨"j", "j", 0, [], []⟩
  exact ⟨hresolve, husable, by decide, by decide, hleast⟩

end Config

end ClusterDeploy
