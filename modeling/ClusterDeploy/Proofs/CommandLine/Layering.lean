import ClusterDeploy.Proofs.CommandLine.Deploying
import ClusterDeploy.Proofs.Config
import ClusterDeploy.Proofs.Json.Values

set_option relaxedAutoImplicit false
set_option autoImplicit false

/-!
# The layers of the settings

The settings of the program come from a file and from definitions on the command line. What is
defined counts before what is in the file, and that before the defaults; in each layer what comes
last counts.

## Main definitions

* `CommandLine.Holds` — what is written in a file of settings.
* `CommandLine.GaveMembers` — what was read from the file of settings, if one is named.
* `CommandLine.Defines` — what a definition says.
* `CommandLine.IsValid` — values that can be used.
* `CommandLine.IsLast` — the last element of a list with some property.
* `CommandLine.Source` — where the value for a key comes from.

## Main results

* `CommandLine.defineEntries_eq_error_iff` — definitions fail at the first one that says nothing.
* `CommandLine.source_lastFor` — the last pair for a setting comes from its source.
* `CommandLine.ends_resolveSettings_iff` — what the settings resolve to.
* `CommandLine.resolveSettings_layered` — which values count, and which have to be valid.

## Implementation notes

The members of a file are taken as they are written, with all those that come again later. Their
values are taken without the order of what is written in them.
-/

namespace ClusterDeploy.CommandLine

open Dialogue (Ends)

variable {content : Bytes} {members members' : List (String × Json)} {key value : String}
  {defines : List String}

/-! ## Files -/

/-- A member in a file, with what its parts mean. -/
def memberOf? (written : List Json.Piece × Json.Syntax) : Option (String × Json) := do
  let key ← Json.text? written.1
  let value ← Json.ofSyntax (Json.maxDepth - 1) written.2
  return (key, value)

/-- A file holds one object, in which these members are written, in this order. -/
def Holds (content : Bytes) (members : List (String × Json)) : Prop :=
  (Utf8.decode? content).isSome = true ∧ ∃ written,
    Json.Syntax.read content = some (.object written) ∧ written.mapM memberOf? = some members

/-- What was read from the file of settings, if one is named. -/
def GaveMembers (trace : Trace) (members : List (String × Json)) : Option String → Prop
  | none => trace = [] ∧ members = []
  | some path => ∃ content, trace = [⟨.readFile path, .ok content⟩] ∧ Holds content members

/-- The pairs that are made of the members in a file. -/
def entriesOf (members : List (String × Json)) : List (String × String) :=
  (Json.membersOf members).map fun (key, value) => (key, settingText value)

/-- The pairs of a file are those of the members that it holds. -/
lemma Holds.fileEntries_eq (h : Holds content members) :
    fileEntries content = some (entriesOf members) := by
  obtain ⟨-, written, hread, hmembers⟩ := h
  have hvalue : Json.ofSyntax Json.maxDepth (.object written) =
      some (.object (Json.membersOf members)) := by
    change (written.mapM memberOf?).map (fun pairs => Json.object (Json.membersOf pairs)) = _
    rw [hmembers]
    rfl
  rw [fileEntries, Json.parse, hread, Option.bind_some, hvalue]
  rfl

/-- Any members are held by the text of an object in which they are written in this order. -/
lemma holds_compact (h : ∀ m ∈ members, Json.Canonical (Json.maxDepth - 1) m.2) :
    Holds (Utf8.encode (Json.object members).compact) members := by
  refine ⟨by rw [Utf8.decode?_encode]; rfl, _, Json.read_compact _, ?_⟩
  have hmembers : (members.map fun m => (Json.pieces m.1, m.2.written)).mapM memberOf? =
      some (members.map fun m => m) :=
    Json.mapM_map_eq_some fun m hm => by simp [memberOf?, (h m hm).ofSyntax_written]
  rwa [List.map_id', ← Json.writtenMembers_eq] at hmembers

/-! ## The last of several -/

section Last

variable {α β : Type} {a : α} {l : List α}

/-- An element of a list is the last one with some property. -/
def IsLast (p : α → Prop) (l : List α) (a : α) : Prop :=
  ∃ before after, l = before ++ a :: after ∧ p a ∧ ∀ b ∈ after, ¬ p b

/-- What is found first from behind is the last element with the property. -/
lemma find?_reverse_eq_some_iff {p : α → Bool} :
    l.reverse.find? p = some a ↔ IsLast (p · = true) l a := by
  rw [List.find?_eq_some_iff_append]
  constructor
  · rintro ⟨ha, after, before, hl, hafter⟩
    refine ⟨before.reverse, after.reverse, ?_, ha, ?_⟩
    · rw [← List.reverse_reverse l, hl]
      simp
    · simpa using hafter
  · rintro ⟨before, after, rfl, ha, hafter⟩
    exact ⟨ha, after.reverse, before.reverse, by simp, by simpa using hafter⟩

/-- The last element of an image is the image of the last one. -/
lemma isLast_map_iff {f : α → β} {p : β → Prop} {b : β} :
    IsLast p (l.map f) b ↔ ∃ a, IsLast (fun x => p (f x)) l a ∧ f a = b := by
  constructor
  · rintro ⟨before, after, hl, hb, hafter⟩
    obtain ⟨before, rest, rfl, rfl, hrest⟩ := List.map_eq_append_iff.1 hl
    obtain ⟨a, after, rfl, rfl, rfl⟩ := List.map_eq_cons_iff.1 hrest
    refine ⟨a, ⟨before, after, rfl, hb, fun x hx => ?_⟩, rfl⟩
    exact hafter (f x) (List.mem_map_of_mem hx)
  · rintro ⟨a, ⟨before, after, rfl, ha, hafter⟩, rfl⟩
    exact ⟨before.map f, after.map f, by simp, ha, List.forall_mem_map.2 hafter⟩

end Last

/-! ## Definitions -/

/-- What a definition says: the key is before its first equality sign, the value behind it, and
blanks at their ends do not count. -/
def Defines (define key value : String) : Prop :=
  ∃ before after, define.toList = before ++ '=' :: after ∧ '=' ∉ before ∧
    key = trimmed before ∧ value = trimmed after

/-- A definition is read as the pair that it defines. -/
lemma defineEntry_eq_some_iff {define : String} :
    defineEntry define = some (key, value) ↔ Defines define key value := by
  simp only [defineEntry, Option.map_eq_some_iff, Prod.exists, Text.splitOnce_eq_some_iff,
    Prod.mk.injEq, Defines, and_assoc, eq_comm (a := key), eq_comm (a := value)]

/-- A definition says nothing exactly if there is no equals sign in it. -/
lemma defineEntry_eq_none_iff {define : String} :
    defineEntry define = none ↔ '=' ∉ define.toList := by
  rw [defineEntry, Option.map_eq_none_iff, Text.splitOnce_eq_none_iff]

/-- The pairs in definitions are what each of them says. -/
lemma defineEntries_eq_ok_iff {defined : List (String × String)} :
    defineEntries defines = .ok defined ↔ defines.map defineEntry = defined.map some := by
  induction defines generalizing defined with
  | nil => cases defined <;> simp [defineEntries]
  | cons define rest ih =>
    rw [defineEntries, List.map_cons]
    rcases hentry : defineEntry define with _ | entry
    · cases defined <;> simp
    · rcases hrest : defineEntries rest with d | others
      · cases defined with
        | nil => simp [Except.map]
        | cons e defined =>
          simp [Except.map, ← ih, hrest]
      · cases defined with
        | nil => simp [Except.map]
        | cons e defined =>
          simp [Except.map, ← ih, hrest]

/-- A text defines something exactly if there is an equals sign in it. -/
lemma exists_defines_iff {define : String} :
    (∃ key value, Defines define key value) ↔ '=' ∈ define.toList := by
  rw [← not_iff_not, ← defineEntry_eq_none_iff, Option.eq_none_iff_forall_ne_some]
  simp only [← defineEntry_eq_some_iff, not_exists, Prod.forall, ne_eq]

/-- Definitions fail at the first one that says nothing. -/
lemma defineEntries_eq_error_iff {define : String} : defineEntries defines = .error define ↔
    ∃ before after, defines = before ++ define :: after ∧ (∀ d ∈ before, '=' ∈ d.toList) ∧
      '=' ∉ define.toList := by
  constructor
  · intro h
    induction defines with
    | nil => exact nomatch h
    | cons first rest ih =>
      rw [defineEntries] at h
      rcases hentry : defineEntry first with _ | ⟨key, value⟩
      · cases hentry ▸ h
        exact ⟨[], rest, rfl, by simp, defineEntry_eq_none_iff.1 hentry⟩
      · rcases hrest : defineEntries rest with d | others
        · have hfirst := exists_defines_iff.1 ⟨key, value, defineEntry_eq_some_iff.1 hentry⟩
          simp only [hentry, hrest, Except.map, Except.error.injEq] at h
          obtain ⟨before, after, rfl, hbefore, hdefine⟩ := ih (hrest.trans (congrArg _ h))
          exact ⟨first :: before, after, rfl, List.forall_mem_cons.2 ⟨hfirst, hbefore⟩, hdefine⟩
        · simp [hentry, hrest, Except.map] at h
  · rintro ⟨before, after, rfl, hbefore, hdefine⟩
    induction before with
    | nil => simp [defineEntries, defineEntry_eq_none_iff.2 hdefine]
    | cons first before ih =>
      obtain ⟨hfirst, hbefore⟩ := List.forall_mem_cons.1 hbefore
      obtain ⟨key, value, hentry⟩ := exists_defines_iff.2 hfirst
      rw [List.cons_append, defineEntries, defineEntry_eq_some_iff.2 hentry]
      simp only [ih hbefore, Except.map]

/-- Definitions have pairs exactly if there is an equality sign in each of them. -/
lemma exists_defineEntries_iff : (∃ defined, defineEntries defines = .ok defined) ↔
    ∀ d ∈ defines, '=' ∈ d.toList := by
  rcases hdefines : defineEntries defines with d | defined
  · obtain ⟨before, after, rfl, -, hd⟩ := defineEntries_eq_error_iff.1 hdefines
    exact iff_of_false (by simp) fun h => hd (h d (by simp))
  · refine iff_of_true ⟨defined, rfl⟩ fun d hd => ?_
    have hentry : defineEntry d ∈ defined.map some :=
      defineEntries_eq_ok_iff.1 hdefines ▸ List.mem_map_of_mem hd
    obtain ⟨⟨key, value⟩, -, hentry⟩ := List.mem_map.1 hentry
    exact exists_defines_iff.1 ⟨key, value, defineEntry_eq_some_iff.1 hentry.symm⟩

/-! ## Values -/

/-- A value can be used: there is no setting with this key, or it can be read for the setting. -/
def IsValid (key value : String) : Prop :=
  ∀ setting : Setting, setting.key = key → ∃ change, setting.read value = .ok change

/-- A value is valid for a key exactly if the pair can be read. -/
lemma isValid_iff : IsValid key value ↔ ∃ change, Config.readPair key value = .ok change := by
  simp only [IsValid, ← Setting.ofKey?_eq_some_iff]
  rcases hkey : Setting.ofKey? key with _ | setting
  · simp [Config.readPair, hkey]
  · rcases hread : setting.read value with fault | change <;> simp [Config.readPair, hkey, hread]

/-- The pairs in a file can be used exactly if the last values of its keys can. -/
lemma forall_entriesOf_iff {p : String → String → Prop} : (∀ e ∈ entriesOf members, p e.1 e.2) ↔
    ∀ key value, IsLast (·.1 = key) members (key, value) → p key (settingText value) := by
  simp only [entriesOf, List.forall_mem_map, Prod.forall, Json.mem_membersOf_iff,
    find?_reverse_eq_some_iff, beq_iff_eq]

/-- The pairs in definitions can be used exactly if what each of them says can. -/
lemma forall_defined_iff {p : String → String → Prop} {defined : List (String × String)}
    (h : defineEntries defines = .ok defined) : (∀ e ∈ defined, p e.1 e.2) ↔
      ∀ d ∈ defines, ∀ key value, Defines d key value → p key value := by
  have hmem (e : String × String) : e ∈ defined ↔ ∃ d ∈ defines, Defines d e.1 e.2 := by
    have hsome : e ∈ defined ↔ some e ∈ defined.map some := by simp
    rw [hsome, ← defineEntries_eq_ok_iff.1 h, List.mem_map]
    simp only [← defineEntry_eq_some_iff]
  simp only [hmem]
  exact ⟨fun hp d hd key value hsays => hp (key, value) ⟨d, hd, hsays⟩,
    fun hp e ⟨d, hd, hsays⟩ => hp d hd e.1 e.2 hsays⟩

/-! ## Sources -/

/-- Where the value for a key comes from: from the last definition of the key, or else from its last
occurrence in the file, where a value that is no string counts as its text without space; or else
there is none. -/
inductive Source (members : List (String × Json)) (defines : List String) (key : String) :
    Option String → Prop
  | defined {define value : String}
      (hlast : IsLast (fun d => ∃ v, Defines d key v) defines define)
      (hvalue : Defines define key value) : Source members defines key (some value)
  | string {value : String} (hnone : ∀ d ∈ defines, ∀ v, ¬ Defines d key v)
      (hlast : IsLast (·.1 = key) members (key, .string value)) :
      Source members defines key (some value)
  | text {value : Json} (hnone : ∀ d ∈ defines, ∀ v, ¬ Defines d key v)
      (hlast : IsLast (·.1 = key) members (key, value)) (hother : ∀ s, value ≠ .string s) :
      Source members defines key (some value.compact)
  | absent (hnone : ∀ d ∈ defines, ∀ v, ¬ Defines d key v) (hfile : ∀ m ∈ members, m.1 ≠ key) :
      Source members defines key none

/-- The last pair for a key that is made of definitions is what the last definition of it says. -/
lemma isLast_defined_iff {defined : List (String × String)}
    (h : defineEntries defines = .ok defined) : IsLast (·.1 = key) defined (key, value) ↔
      ∃ define, IsLast (fun d => ∃ v, Defines d key v) defines define ∧
        Defines define key value := by
  have hsome : IsLast (·.1 = key) defined (key, value) ↔
      IsLast (fun e => ∃ v, e = some (key, v)) (defined.map some) (some (key, value)) := by
    simp [isLast_map_iff, Prod.ext_iff]
  rw [hsome, ← defineEntries_eq_ok_iff.1 h, isLast_map_iff]
  simp only [defineEntry_eq_some_iff]

/-- The last pair for a key that is made of a file is made of the last member with this key. -/
lemma exists_isLast_of_entriesOf (h : IsLast (·.1 = key) (entriesOf members) (key, value)) :
    ∃ v, IsLast (·.1 = key) members (key, v) ∧ settingText v = value := by
  obtain ⟨⟨key', v⟩, hlast, heq⟩ := isLast_map_iff.1 h
  obtain ⟨rfl, rfl⟩ := Prod.mk.inj heq
  obtain ⟨before, after, hmembers, -⟩ := hlast
  have hmem : (key', v) ∈ Json.membersOf members := by simp [hmembers]
  have hfound := find?_reverse_eq_some_iff.1 (Json.mem_membersOf_iff.1 hmem)
  exact ⟨v, by simpa using hfound, rfl⟩

/-- A key that no pair of a file has is the key of none of its members. -/
lemma forall_ne_of_entriesOf (h : ∀ e ∈ entriesOf members, e.1 ≠ key) :
    ∀ m ∈ members, m.1 ≠ key := by
  have hnone : (Json.membersOf members).find? (·.1 == key) = none :=
    List.find?_eq_none.2 fun m hm => by simpa using h _ (List.mem_map_of_mem hm)
  rw [Json.find?_membersOf, List.find?_eq_none] at hnone
  simpa using hnone

/-- **The last pair for a setting comes from its source.** -/
lemma source_lastFor {defined : List (String × String)} {setting : Setting}
    (h : defineEntries defines = .ok defined) :
    Source members defines setting.key
      ((Config.lastFor setting (entriesOf members ++ defined)).map (·.2)) := by
  have hisLast {l : List (String × String)} {pair : String × String}
      (hpair : Config.lastFor setting l = some pair) : IsLast (·.1 = setting.key) l pair := by
    simpa using find?_reverse_eq_some_iff.1 hpair
  have hnever {l : List (String × String)} (hl : Config.lastFor setting l = none) :
      ∀ e ∈ l, e.1 ≠ setting.key := by
    simpa [Config.lastFor] using hl
  rw [Config.lastFor_append]
  rcases hdefined : Config.lastFor setting defined with _ | ⟨key, value⟩
  · have hnone : ∀ d ∈ defines, ∀ v, ¬ Defines d setting.key v := fun d hd v hsays =>
      (forall_defined_iff (p := fun key _ => key ≠ setting.key) h).1 (hnever hdefined) d hd _ v
        hsays rfl
    rw [Option.none_or]
    rcases hfile : Config.lastFor setting (entriesOf members) with _ | ⟨key, value⟩
    · exact .absent hnone (forall_ne_of_entriesOf (hnever hfile))
    · obtain rfl : key = setting.key := Config.key_of_lastFor hfile
      obtain ⟨v, hlast, rfl⟩ := exists_isLast_of_entriesOf (hisLast hfile)
      cases v with
      | string text => exact .string hnone hlast
      | _ => exact .text hnone hlast (by simp)
  · obtain rfl : key = setting.key := Config.key_of_lastFor hdefined
    obtain ⟨define, hlast, hvalue⟩ := (isLast_defined_iff h).1 (hisLast hdefined)
    exact .defined hlast hvalue

/-! ## Layers -/

variable {inv : Invocation} {trace : Trace}

/-- What the pairs in a file and the definitions over it resolve to. -/
def layered (entries : List (String × String)) (defines : List String) : Except String Config :=
  match defineEntries defines with
  | .error define => .error s!"override '{define}' is not of the form key=value"
  | .ok defined => (Config.resolve (entries ++ defined)).mapError DeployError.display

/-- A file that gives members gives their pairs. -/
lemma GaveMembers.gaveSettings {path : Option String} (h : GaveMembers trace members path) :
    GaveSettings trace (entriesOf members) path := by
  cases path with
  | none =>
    obtain ⟨rfl, rfl⟩ := h
    exact ⟨rfl, rfl⟩
  | some path =>
    obtain ⟨content, rfl, hholds⟩ := h
    exact ⟨content, rfl, hholds.1, hholds.fileEntries_eq⟩

/-- **What was read resolves to the layers of it**, and to nothing else. -/
lemma ends_resolveSettings_iff {result : Except String Config}
    (h : GaveMembers trace members inv.config) :
    Ends (resolveSettings inv) trace result ↔
      result = layered (entriesOf members) inv.defines := by
  have hends : Ends (resolveSettings inv) trace (layered (entriesOf members) inv.defines) := by
    unfold resolveSettings
    refine Dialogue.ends_bind_iff.2 ⟨trace, [], .ok (entriesOf members),
      (List.append_nil trace).symm, ends_readSettings_ok_iff.2 h.gaveSettings, ?_⟩
    rcases hdefined : defineEntries inv.defines with define | defined <;>
      simp [layered, hdefined]
  constructor
  · exact fun hresult => (hresult.append_inj hends (rfl : trace ++ [] = trace ++ [])).2.1
  · rintro rfl
    exact hends

/-- The layers resolve exactly if every value in each of them is valid. -/
lemma exists_layered_iff {entries defined : List (String × String)}
    (h : defineEntries defines = .ok defined) : (∃ config, layered entries defines = .ok config) ↔
      (∀ e ∈ entries, IsValid e.1 e.2) ∧ ∀ e ∈ defined, IsValid e.1 e.2 := by
  simp only [layered, h, Task.mapError_eq_ok_iff, isValid_iff]
  rw [← List.forall_mem_append]
  exact Config.exists_setAll_iff

/-- **The layers of the settings.** For every file that holds an object and all definitions on the
command line, and also if no file is named, there is exactly one result:

1. if some definition has no equality sign, the result is the failure of the first such definition,
   whatever the values are;
2. otherwise there is a configuration exactly if the last value in the file for each key can be
   used, and what each definition says can be used;
3. then each setting has the value that its last definition says, or else the last value in the file
   for its key, or else its default value;
4. the result is the same for every file in which the members are written in another order, as long
   as those with one key keep theirs, also if it is a failure.

**Proof sketch.** An object has for each key the last value that was written
(`Json.find?_membersOf`), in ascending order of the keys, so it does not depend on the order in
which members with different keys are written. The pairs of the definitions come behind those of the
file, and of all pairs the last one for a setting counts. -/
theorem resolveSettings_layered (inv : Invocation) (trace : Trace)
    (members : List (String × Json)) (h : GaveMembers trace members inv.config) :
    ∃ result, (∀ r, Ends (resolveSettings inv) trace r ↔ r = result) ∧
      ((∃ d ∈ inv.defines, '=' ∉ d.toList) →
        ∃ before d after, inv.defines = before ++ d :: after ∧ (∀ b ∈ before, '=' ∈ b.toList) ∧
          '=' ∉ d.toList ∧ result = .error s!"override '{d}' is not of the form key=value") ∧
      ((∀ d ∈ inv.defines, '=' ∈ d.toList) → ((∃ config, result = .ok config) ↔
        (∀ key value, IsLast (·.1 = key) members (key, value) →
          IsValid key (settingText value)) ∧
        ∀ d ∈ inv.defines, ∀ key value, Defines d key value → IsValid key value)) ∧
      (∀ config, result = .ok config → ∀ setting : Setting, ∃ source,
        Source members inv.defines setting.key source ∧
        match source with
        | none => config.get setting = Config.default.get setting
        | some value => setting.read value = .ok (config.get setting)) ∧
      ∀ trace' members', GaveMembers trace' members' inv.config →
        (∀ key, members'.filter (·.1 == key) = members.filter (·.1 == key)) →
        ∀ r, Ends (resolveSettings inv) trace' r ↔ r = result := by
  refine ⟨layered (entriesOf members) inv.defines, fun r => ends_resolveSettings_iff h, ?_, ?_, ?_,
    ?_⟩
  · rintro ⟨d, hd, hnone⟩
    rcases hdefines : defineEntries inv.defines with define | defined
    · obtain ⟨before, after, hsplit, hbefore, hdefine⟩ := defineEntries_eq_error_iff.1 hdefines
      exact ⟨before, define, after, hsplit, hbefore, hdefine, by simp [layered, hdefines]⟩
    · exact absurd (exists_defineEntries_iff.1 ⟨defined, hdefines⟩ d hd) hnone
  · intro hall
    obtain ⟨defined, hdefined⟩ := exists_defineEntries_iff.2 hall
    rw [exists_layered_iff hdefined, forall_entriesOf_iff, forall_defined_iff hdefined]
  · intro config hconfig setting
    rcases hdefined : defineEntries inv.defines with define | defined
    · simp [layered, hdefined] at hconfig
    · refine ⟨_, source_lastFor hdefined, ?_⟩
      simp only [layered, hdefined, Task.mapError_eq_ok_iff] at hconfig
      have hset := Config.get_of_setAll hconfig setting
      split at hset
      · next hlast => simpa [hlast] using hset
      · next pair hlast =>
        obtain ⟨other, hkey, hread⟩ := Config.readPair_eq_some_iff.1 hset
        -- the last pair for the setting has its key, and no other setting has this key
        obtain rfl := Setting.key_inj (hkey.trans (Config.key_of_lastFor hlast))
        simpa [hlast] using hread
  · intro trace' members' h' hsame r
    rw [ends_resolveSettings_iff h', entriesOf, Json.membersOf_eq_of_filter hsame]
    rfl

/-- A file with two values for one key, the first of which cannot be used, and another file with its
members in another order. The last definition of a key counts, and what it says may have equality
signs. A definition without one fails both. -/
theorem resolveSettings_layered_of_reordered :
    let inv (defines : List String) : Invocation :=
      ⟨some "c.json", defines, "", "", "", "", none, none, .history 1 false⟩
    let defines := ["akka.ask.timeout=1 ms", "deployment.staging.prefix = a=b ",
      " akka.ask.timeout =30 s"]
    let members : List (String × Json) := [("yarn.file-replication", .string "none"),
      ("deployment.result.timeout", .string "1 ms"),
      ("yarn.file-replication", .number (.natural 2))]
    let members' : List (String × Json) := [("deployment.result.timeout", .string "1 ms"),
      ("yarn.file-replication", .string "none"), ("yarn.file-replication", .number (.natural 2))]
    let trace (members : List (String × Json)) : Trace :=
      [⟨.readFile "c.json", .ok (Utf8.encode (Json.object members).compact)⟩]
    let config : Config := { Config.default with
      replication := some 2, resultTimeout := some 1, stagingPrefix := "a=b", askTimeout := 30000 }
    Ends (resolveSettings (inv defines)) (trace members) (.ok config) ∧
      Ends (resolveSettings (inv defines)) (trace members') (.ok config) ∧
      Ends (resolveSettings (inv (defines ++ ["a"]))) (trace members)
        (.error "override 'a' is not of the form key=value") := by
  intro inv defines members members' trace config
  have htext {text : String} : Json.Canonical (Json.maxDepth - 1) (.string text) := .string
  have htwo : Json.Canonical (Json.maxDepth - 1) (.number (.natural 2)) := .natural (by decide)
  have hholds (defines : List String) :
      GaveMembers (trace members) members (inv defines).config :=
    ⟨_, rfl, holds_compact (by simp [members, htext, htwo])⟩
  have hholds' : GaveMembers (trace members') members' (inv defines).config :=
    ⟨_, rfl, holds_compact (by simp [members', htext, htwo])⟩
  have hsame (key : String) : members'.filter (·.1 == key) = members.filter (·.1 == key) := by
    by_cases hkey : "deployment.result.timeout" = key
    · subst hkey
      rfl
    · simp [members, members', List.filter_cons, hkey]
  have hconfig : layered (entriesOf members) defines = .ok config := rfl
  obtain ⟨result, hends, -, -, -, hreordered⟩ :=
    resolveSettings_layered (inv defines) (trace members) members (hholds defines)
  have hresult : result = .ok config :=
    ((hends _).1 ((ends_resolveSettings_iff (hholds defines)).2 hconfig.symm)).symm
  exact ⟨(hends _).2 hresult.symm, (hreordered _ _ hholds' hsame _).2 hresult.symm,
    (ends_resolveSettings_iff (hholds _)).2 rfl⟩

end ClusterDeploy.CommandLine
