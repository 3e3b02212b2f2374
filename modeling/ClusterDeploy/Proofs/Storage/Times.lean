import ClusterDeploy.Proofs.Storage.Files
import Mathlib.Logic.Function.Basic

set_option relaxedAutoImplicit false
set_option autoImplicit false

/-!
# The clock of a storage in memory

The clock counts the files that were written, and a file keeps the number under which it was written
until it is written again. So the times of the files are different from each other, and none of them
is ahead of the clock.

## Main definitions

* `MemoryStorage.Event`, `MemoryStorage.afterAll` — what happens to a storage, and what is left.
* `MemoryStorage.Event.isUpload` — events with which a file may be written.
* `MemoryStorage.Numbered` — times are the numbers under which files were written.
* `MemoryStorage.HasOrderedTimes` — times that are different and not ahead of the clock.

## Main results

* `MemoryStorage.exists_upload_or_keepsTimes` — what one event does to the times.
* `MemoryStorage.exists_numbered_afterAll` — after any events times are numbers of uploads.
* `MemoryStorage.Numbered.hasOrderedTimes` — such times are ordered.

## Implementation notes

The clock has 64 bits, and it starts again when they are used up. The number under which a file was
written is a natural number, so what is said of the numbers holds for ever, and what is said of the
order of the times until the clock starts again. The storage itself counts its uploads in a word of
32 bits, which does not matter here.
-/

namespace ClusterDeploy.MemoryStorage

/-- What happens to a storage: calls, with the local files at that moment, and changes behind the
back of its users. -/
inductive Event where
  | call (fs : FileSystem) (call : Storage.Call)
  | remove (path : String)
  | overwrite (path : String) (factor : UInt16)

/-- Whether a file may be written with an event. -/
def Event.isUpload : Event → Bool
  | .call _ (.upload _ _) => true
  | _ => false

/-- What is left of a storage after an event. -/
def after (s : MemoryStorage) : Event → MemoryStorage
  | .call fs call => (s.answer fs call).2
  | .remove path => (s.removeFile path).2
  | .overwrite path factor => (s.overwriteReplication path factor).2

/-- What is left of a storage after events, one after the other. -/
def afterAll (s : MemoryStorage) (events : List Event) : MemoryStorage :=
  events.foldl after s

/-- Nothing was written: the files that are left keep their times. -/
structure KeepsTimes (s t : MemoryStorage) : Prop where
  clock : t.clock = s.clock
  file : ∀ path file, t.file? path = some file →
    ∃ old, s.file? path = some old ∧ old.modificationTime = file.modificationTime

/-- The clock shows how many files were written, and the time of a file is the number of the upload
with which it was written. -/
structure Numbered (s : MemoryStorage) (total : Nat) (number : String → Nat) : Prop where
  clock : s.clock = UInt64.ofNat total
  time : ∀ path file, s.file? path = some file →
    file.modificationTime = UInt64.ofNat (number path)
  le_total : ∀ path, (s.file? path).isSome = true → number path ≤ total
  injective : ∀ p q, (s.file? p).isSome = true → (s.file? q).isSome = true →
    number p = number q → p = q

/-- No time is ahead of the clock, and no two files have the same time. -/
structure HasOrderedTimes (s : MemoryStorage) : Prop where
  le_clock : ∀ path file, s.file? path = some file → file.modificationTime ≤ s.clock
  injective : ∀ p q file file', s.file? p = some file → s.file? q = some file' →
    file.modificationTime = file'.modificationTime → p = q

variable {s t : MemoryStorage} {fs : FileSystem} {path q : String} {factor : UInt16}
  {total : Nat} {number : String → Nat}

/-! ## One event -/

/-- A file that is removed is gone, and all others are as before. -/
lemma file?_removeFile :
    (s.removeFile path).2.file? q = if q = path then none else s.file? q := by
  unfold file? removeFile
  rw [List.find?_filter]
  by_cases hq : q = path
  · rw [if_pos hq, List.find?_eq_none.2]
    · rfl
    · intro entry _
      simp [hq]
  · rw [if_neg hq]
    congr 2
    funext entry
    by_cases hentry : entry.1 = q <;> simp [hentry, hq]

/-- Files that were there before, with another number of copies perhaps. -/
private lemma keepsTimes_of_file? (hclock : t.clock = s.clock)
    (hfile : ∀ path, t.file? path = none ∨
      (t.file? path).map (·.modificationTime) = (s.file? path).map (·.modificationTime)) :
    KeepsTimes s t where
  clock := hclock
  file path file h := by
    rcases hfile path with hnone | hsame
    · exact nomatch hnone.symm.trans h
    · rw [h, Option.map_some, eq_comm, Option.map_eq_some_iff] at hsame
      exact hsame

/-- Files of which some are gone. -/
private lemma keepsTimes_of_gone {isGone : String → Prop} [DecidablePred isGone]
    (hclock : t.clock = s.clock) (hfile : ∀ q, t.file? q = if isGone q then none else s.file? q) :
    KeepsTimes s t := by
  refine keepsTimes_of_file? hclock fun q => ?_
  rw [hfile]
  split
  · exact .inl rfl
  · exact .inr rfl

/-- Files of which some have another number of copies. -/
private lemma keepsTimes_of_copies {isChanged : String → Prop} [DecidablePred isChanged]
    (hclock : t.clock = s.clock) (hfile : ∀ q, t.file? q = if isChanged q then
      (s.file? q).map fun file => { file with replication := factor } else s.file? q) :
    KeepsTimes s t := by
  refine keepsTimes_of_file? hclock fun q => .inr ?_
  rw [hfile]
  split
  · rw [Option.map_map]
    rfl
  · rfl

/-- Setting a number of copies leaves the times of all files as they are. -/
lemma keepsTimes_setReplication : KeepsTimes s (s.setReplication path factor).2 := by
  refine keepsTimes_of_copies ?_ fun q => file?_setReplication
  unfold setReplication
  repeat' split
  all_goals rfl

/-- **What one event does to the times**: either a file is written, or nothing is. -/
lemma exists_upload_or_keepsTimes (s : MemoryStorage) (event : Event) :
    (event.isUpload = true ∧ ∃ path content, s.after event = s.upload path content) ∨
      KeepsTimes s (s.after event) := by
  have hsame : KeepsTimes s s := ⟨rfl, fun _ file h => ⟨file, h, rfl⟩⟩
  cases event with
  | call fs call =>
    cases call with
    | homeDirectory => exact .inr hsame
    | defaultReplication => exact .inr hsame
    | upload localPath path =>
      simp only [after, answer]
      rcases fs.read localPath with fault | content
      · exact .inr hsame
      · exact .inl ⟨rfl, path, content, rfl⟩
    | setReplication path factor => exact .inr keepsTimes_setReplication
    | stat path => exact .inr ⟨rfl, fun _ file h => ⟨file, h, rfl⟩⟩
    | deleteRecursive path => exact .inr (keepsTimes_of_gone rfl fun q => file?_deleteRecursive)
  | remove path => exact .inr (keepsTimes_of_gone rfl fun q => file?_removeFile)
  | overwrite path factor => exact .inr (keepsTimes_of_copies rfl fun q => file?_changeFile _)

/-- Where nothing was written the numbers stay. -/
lemma Numbered.of_keepsTimes (h : Numbered s total number) (hkeeps : KeepsTimes s t) :
    Numbered t total number := by
  have hthere : ∀ path, (t.file? path).isSome = true → (s.file? path).isSome = true := by
    intro path hpath
    obtain ⟨file, hfile⟩ := Option.isSome_iff_exists.1 hpath
    obtain ⟨old, hold, -⟩ := hkeeps.file path file hfile
    rw [hold]
    rfl
  refine ⟨hkeeps.clock.trans h.clock, fun path file hfile => ?_,
    fun path hpath => h.le_total path (hthere path hpath),
    fun p q hp hq => h.injective p q (hthere p hp) (hthere q hq)⟩
  obtain ⟨old, hold, htime⟩ := hkeeps.file path file hfile
  rw [← htime, h.time path old hold]

/-- The file that is written gets the next number, which no other file has. -/
lemma Numbered.upload (h : Numbered s total number) (path : String) (content : Bytes) :
    Numbered (s.upload path content) (total + 1) (Function.update number path (total + 1)) := by
  have hclock : s.clock + 1 = UInt64.ofNat (total + 1) := by
    rw [h.clock, UInt64.ofNat_add]
    rfl
  have hnew : ∀ q, q ≠ path → ((s.upload path content).file? q).isSome = true →
      (s.file? q).isSome = true := by
    intro q hq hthere
    rwa [file?_upload, if_neg hq] at hthere
  have hless : ∀ q, q ≠ path → ((s.upload path content).file? q).isSome = true →
      number q < total + 1 := fun q hq hthere =>
    Nat.lt_succ_of_le (h.le_total q (hnew q hq hthere))
  constructor
  · exact hclock
  · intro q file hfile
    rw [file?_upload] at hfile
    by_cases hq : q = path
    · rw [if_pos hq] at hfile
      obtain rfl := Option.some.inj hfile
      rw [hq, Function.update_self]
      exact hclock
    · rw [if_neg hq] at hfile
      rw [Function.update_of_ne hq]
      exact h.time q file hfile
  · intro q hthere
    by_cases hq : q = path
    · have hnumber : Function.update number path (total + 1) q = total + 1 := by
        rw [hq, Function.update_self]
      exact Nat.le_of_eq hnumber
    · rw [Function.update_of_ne hq]
      exact Nat.le_of_lt (hless q hq hthere)
  · intro p q hp hq hsame
    by_cases hp' : p = path <;> by_cases hq' : q = path
    · rw [hp', hq']
    · rw [hp', Function.update_self, Function.update_of_ne hq'] at hsame
      exact absurd hsame (Nat.ne_of_gt (hless q hq' hq))
    · rw [hq', Function.update_self, Function.update_of_ne hp'] at hsame
      exact absurd hsame (Nat.ne_of_lt (hless p hp' hp))
    · rw [Function.update_of_ne hp', Function.update_of_ne hq'] at hsame
      exact h.injective p q (hnew p hp' hp) (hnew q hq' hq) hsame

/-! ## Events one after the other -/

/-- An event writes one file at most. -/
lemma exists_numbered_after (h : Numbered s total number) (event : Event) :
    ∃ total' number', total' ≤ total + (if event.isUpload then 1 else 0) ∧
      Numbered (s.after event) total' number' := by
  obtain ⟨hwrites, path, content, hupload⟩ | hkeeps := exists_upload_or_keepsTimes s event
  · rw [hupload, if_pos hwrites]
    exact ⟨_, _, Nat.le_refl _, h.upload path content⟩
  · exact ⟨total, number, Nat.le_add_right _ _, h.of_keepsTimes hkeeps⟩

/-- **After any events the times are numbers of uploads**, of which there are no more than events
with which a file may be written.

**Proof sketch.** Induction on the events. An upload gives its number to the file that it writes,
and all other events leave the times of the files alone. -/
lemma exists_numbered_afterAll (h : Numbered s total number) (events : List Event) :
    ∃ total' number', total' ≤ total + events.countP Event.isUpload ∧
      Numbered (s.afterAll events) total' number' := by
  induction events generalizing s total number with
  | nil => exact ⟨total, number, Nat.le_refl _, h⟩
  | cons event events ih =>
    obtain ⟨_, _, hfirst, hafter⟩ := exists_numbered_after h event
    obtain ⟨total', number', hrest, hnumbered⟩ := ih hafter
    refine ⟨total', number', ?_, hnumbered⟩
    rw [List.countP_cons]
    omega

/-- Nothing was written in an empty storage. -/
lemma numbered_empty (home : String) (defaultReplication maxReplication : UInt16) :
    Numbered (empty home defaultReplication maxReplication) 0 fun _ => 0 where
  clock := rfl
  time _ _ h := nomatch h
  le_total _ h := nomatch h
  injective _ _ h := nomatch h

/-- The settings of a storage stay as they are. -/
lemma sameSettings_afterAll (s : MemoryStorage) (events : List Event) :
    s.SameSettings (s.afterAll events) := by
  induction events generalizing s with
  | nil => exact .refl s
  | cons event events ih =>
    refine SameSettings.trans ?_ (ih (s.after event))
    cases event with
    | call fs call => exact sameSettings_answer fs s call
    | remove path => exact ⟨rfl, rfl, rfl⟩
    | overwrite path factor => exact ⟨rfl, rfl, rfl⟩

/-- **Times that are numbers of uploads are ordered**, until the clock starts again. -/
lemma Numbered.hasOrderedTimes (h : Numbered s total number) (htotal : total < UInt64.size) :
    s.HasOrderedTimes := by
  have hbound : ∀ path file, s.file? path = some file →
      number path ≤ total ∧ file.modificationTime.toNat = number path := by
    intro path file hfile
    have hle := h.le_total path (by rw [hfile]; rfl)
    refine ⟨hle, ?_⟩
    rw [h.time path file hfile, UInt64.toNat_ofNat_of_lt' (Nat.lt_of_le_of_lt hle htotal)]
  constructor
  · intro path file hfile
    obtain ⟨hle, htime⟩ := hbound path file hfile
    rw [UInt64.le_iff_toNat_le, htime, h.clock, UInt64.toNat_ofNat_of_lt' htotal]
    exact hle
  · intro p q file file' hp hq hsame
    refine h.injective p q (by rw [hp]; rfl) (by rw [hq]; rfl) ?_
    rw [← (hbound p file hp).2, ← (hbound q file' hq).2, hsame]

end ClusterDeploy.MemoryStorage
