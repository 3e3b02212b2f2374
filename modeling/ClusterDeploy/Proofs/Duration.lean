import ClusterDeploy.Duration
import ClusterDeploy.Proofs.Quantity
import Mathlib.Algebra.GroupWithZero.Nat

set_option relaxedAutoImplicit false
set_option autoImplicit false

/-!
# What is read as a duration

A duration is a whole number of one unit of time. How it is spelled does not matter: neither blanks
nor zeros before the number nor the case of letters count. Of two durations in the same unit the one
with the greater number is the longer.

## Main definitions

* `Duration.TimeUnit` — the units of time, with their names and their milliseconds.

## Main results

* `Duration.units` — the units are those that a duration is read with.
* `Duration.parse_exact` — what is read as a duration, and as which.
-/

namespace ClusterDeploy.Duration

open Quantity (Denotes Irregular Respelled)

/-- The units of time. -/
inductive TimeUnit where
  | millisecond | second | minute | hour | day

namespace TimeUnit

/-- The names of a unit in small letters. A number alone counts milliseconds. -/
def names : TimeUnit → List String
  | .millisecond => ["", "ms", "milli", "millis", "millisecond", "milliseconds"]
  | .second => ["s", "sec", "secs", "second", "seconds"]
  | .minute => ["min", "m", "minute", "minutes"]
  | .hour => ["h", "hour", "hours"]
  | .day => ["d", "day", "days"]

/-- The milliseconds of a unit. -/
def millis : TimeUnit → Nat
  | .millisecond => 1
  | .second => 1000
  | .minute => 60 * 1000
  | .hour => 60 * 60 * 1000
  | .day => 24 * 60 * 60 * 1000

/-- Every name of a unit of time stands for it. -/
lemma unit_of_mem_names (u : TimeUnit) : ∀ name ∈ u.names, unit name = some u.millis := by
  cases u <;> decide

/-- The names of units of time consist of letters. -/
lemma isAlpha_of_mem_names (u : TimeUnit) :
    ∀ name ∈ u.names, ∀ c ∈ name.toList, c.isAlpha = true := by
  have hall : u.names.all (fun name => name.toList.all Char.isAlpha) = true := by
    cases u <;> rfl
  simpa only [List.all_eq_true] using hall

end TimeUnit

/-- Nothing but the names of units of time stands for a unit. -/
lemma exists_timeUnit {name : String} {size : Nat} (h : unit name = some size) :
    ∃ u : TimeUnit, name ∈ u.names ∧ u.millis = size := by
  unfold unit at h
  split at h
  · next hname => exact ⟨.millisecond, hname, Option.some.inj h⟩
  split at h
  · next hname => exact ⟨.second, hname, Option.some.inj h⟩
  split at h
  · next hname => exact ⟨.minute, hname, Option.some.inj h⟩
  split at h
  · next hname => exact ⟨.hour, hname, Option.some.inj h⟩
  split at h
  · next hname => exact ⟨.day, hname, Option.some.inj h⟩
  · exact nomatch h

/-- **A duration is read with the units of time.** -/
lemma units : Quantity.Units unit TimeUnit.names TimeUnit.millis where
  sizeOf_eq_some_iff := ⟨exists_timeUnit, fun ⟨u, hname, hsize⟩ =>
    hsize ▸ u.unit_of_mem_names _ hname⟩
  scale_pos u := by cases u <;> decide
  isAlpha := fun hname => TimeUnit.isAlpha_of_mem_names _ _ hname

/-- **Durations are read exactly.** A text is read as a duration exactly if it denotes a number of
units of time that come to less than `2 ^ 64` milliseconds, and then as so many; every other text is
refused, and so are all texts with a sign, with a fraction or with a second number. Texts that
differ only in zeros before the number, in blanks or in the case of letters are read alike. Of two
texts with the same unit the one with the smaller number is read if the other one is, and as the
shorter time. -/
theorem parse_exact :
    (∀ (text : String) (time : Millis), parse text = .ok time ↔
      ∃ (u : TimeUnit) (number : Nat), Denotes u.names text.toList number ∧
        number * u.millis < 2 ^ 64 ∧ time = number * u.millis) ∧
    (∀ text : String, (∃ fault, parse text = .error fault) ↔
      ∀ (u : TimeUnit) (number : Nat), Denotes u.names text.toList number →
        2 ^ 64 ≤ number * u.millis) ∧
    (∀ text : String, Irregular text.toList → ∃ fault, parse text = .error fault) ∧
    (∀ text text' : String, Respelled text.toList text'.toList → parse text = parse text') ∧
    ∀ (u : TimeUnit) (text text' : String) (m n : Nat) (time : Millis),
      Denotes u.names text.toList m → Denotes u.names text'.toList n → m < n →
        parse text' = .ok time → ∃ less < time, parse text = .ok less :=
  ⟨fun _ _ => units.read_eq_ok_iff, fun _ => units.read_eq_error_iff,
    fun _ h => units.read_eq_error_iff.2 fun _ _ hdenotes =>
      absurd hdenotes (units.not_denotes_of_irregular h),
    fun _ _ => Quantity.read_of_respelled, fun _ _ _ _ _ _ => units.exists_read_lt⟩

/-- Hours, with an ideographic blank before them and zeros in front, with capital letters, and with
minutes behind them. -/
theorem parse_exact_of_hours :
    Denotes TimeUnit.hour.names "\u3000007\thOURs".toList 7 ∧
    Denotes TimeUnit.hour.names "6H ".toList 6 ∧
    parse "\u3000007\thOURs" = .ok 25200000 ∧
    (∃ less < 25200000, parse "6H " = .ok less) ∧
    Respelled "\u3000007\thOURs".toList "\u30007\thOURs".toList ∧
    parse "\u3000007\thOURs" = parse "\u30007\thOURs" ∧
    Irregular "1h30m".toList ∧ ∃ fault, parse "1h30m" = .error fault := by
  obtain ⟨haccepts, -, hirregular, hrespelled, hmonotone⟩ := parse_exact
  have hseven : Denotes TimeUnit.hour.names
      (['\u3000'] ++ (List.replicate 2 '0' ++ ['7']) ++ ['\t'] ++ "hOURs".toList ++ []) 7 :=
    .intro (by decide) ((Text.Numeral.digit rfl).zeros 2) (by decide) (by decide) Text.blank_nil
  have hsix : Denotes TimeUnit.hour.names ([] ++ ['6'] ++ [] ++ ['H'] ++ [' ']) 6 :=
    .intro Text.blank_nil (.digit rfl) Text.blank_nil (by decide) (by decide)
  have htime : parse "\u3000007\thOURs" = .ok 25200000 :=
    (haccepts _ _).2 ⟨.hour, 7, hseven, by decide, rfl⟩
  have hzeros : Respelled "\u3000007\thOURs".toList "\u30007\thOURs".toList :=
    @Respelled.zeros ['\u3000'] "\thOURs".toList '7' (by decide) rfl 2
  have hcompound : Irregular "1h30m".toList :=
    .compound (c := '1') (x := 'h') (d := '3') rfl rfl rfl (by decide)
  have hless := hmonotone .hour "6H " "\u3000007\thOURs" 6 7 _ hsix hseven (by decide) htime
  exact ⟨hseven, hsix, htime, hless, hzeros, hrespelled _ _ hzeros, hcompound,
    hirregular _ hcompound⟩

end ClusterDeploy.Duration
