import ClusterDeploy.Proofs.Task.Course
import ClusterDeploy.Rehearsal.Thread

set_option relaxedAutoImplicit false
set_option autoImplicit false

/-!
# What follows a task that is left

A task may be left where it waits. The connection that it holds there is dropped at once, and the
operation for which it waits runs on; a cluster that this operation creates is dropped when it is
there. This module says which calls that makes.

## Main definitions

* `Task.Question.waits`, `Task.Question.held` — where a task may be left, and what it holds there.
* `Task.Question.Late`, `Task.Question.lateHandle` — what comes too late for the task.
* `Rehearsal.entered` — the calls that a thread makes.
* `Rehearsal.aftermath` — what is done when a task is left.

## Main results

* `Rehearsal.entered_of_ends_dropGuard` — dropping a connection is a kill and a release.
* `Rehearsal.entered_of_ends_aftermath` — every cluster that is dropped is killed and released.

## Implementation notes

The kill of a cluster that is dropped may go wrong in any way, and the release follows all the same.
-/

namespace ClusterDeploy

namespace Task.Question

/-- Whether a task may be left at a question, because it waits for the answer. -/
@[simp]
def waits : Question → Bool
  | .isCancelled => false
  | .release _ => false
  | _ => true

/-- The connection that a task holds while it waits. -/
@[simp]
def held : Question → Option ClusterHandle
  | .background _ held => held
  | .bounded _ _ held => held
  | .watch _ _ held => held
  | .pause _ held => held
  | _ => none

/-- What may still come when a task is left: the result of the operation for which it waits. -/
abbrev Late : Question → Type
  | .background op _ => Option (Attempt op.Value)
  | .bounded op _ _ => Option (Attempt op.Value)
  | _ => Unit

/-- The cluster that was created too late. -/
@[simp]
def lateHandle : (q : Question) → q.Late → Option ClusterHandle
  | .background op _, late => late.bind op.handle?
  | .bounded op _ _, late => late.bind op.handle?
  | _, _ => none

end Task.Question

namespace Rehearsal

open Dialogue (Ends)

variable {α β : Type}

/-! ## Threads that make no calls -/

/-- The calls that a thread makes, in order. -/
def entered (t : List (Dialogue.Exchange Act Act.Answer)) : List Call :=
  t.filterMap fun x =>
    match x.question with
    | .enter call => some call
    | _ => none

/-- The calls of two parts of a run follow one another. -/
@[simp]
lemma entered_append (t₁ t₂ : List (Dialogue.Exchange Act Act.Answer)) :
    entered (t₁ ++ t₂) = entered t₁ ++ entered t₂ :=
  List.filterMap_append

/-- A thread that makes no calls, whatever happens. -/
def Quiet (p : Thread α) : Prop :=
  ∀ ⦃t : List (Dialogue.Exchange Act Act.Answer)⦄ ⦃a : α⦄, Ends p t a → entered t = []

/-- A value makes no calls. -/
lemma quiet_pure (a : α) : Quiet (pure a : Thread α) := by
  intro t b h
  rw [(Dialogue.ends_pure_iff.1 h).1]
  rfl

/-- Threads in sequence make no calls if none of them does. -/
lemma quiet_bind {p : Thread α} {f : α → Thread β} (hp : Quiet p) (hf : ∀ a, Quiet (f a)) :
    Quiet (p >>= f) := by
  intro t b h
  obtain ⟨t₁, t₂, a, rfl, h₁, h₂⟩ := Dialogue.ends_bind_iff.1 h
  rw [entered_append, hp h₁, hf a h₂]
  rfl

/-- The only act that makes a call is to note it. -/
lemma quiet_act {a : Act} (ha : ∀ call, a ≠ .enter call) : Quiet (act a) := by
  intro t b h
  obtain ⟨c, rest, rfl, hrest⟩ := Dialogue.ends_ask_iff.1 h
  cases hrest
  cases a with
  | enter call => exact absurd rfl (ha call)
  | _ => rfl

/-- A program makes no calls if none of its questions does. -/
lemma quiet_run {Q : Type} {A : Q → Type} {answer : (q : Q) → Thread (A q)}
    (hanswer : ∀ q, Quiet (answer q)) (p : Dialogue Q A α) : Quiet (p.run answer) := by
  induction p with
  | done a => exact quiet_pure a
  | ask q next ih => exact quiet_bind (hanswer q) ih

/-- The answer of a server is no call. -/
lemma quiet_answerClient (q : Http.Question) : Quiet (answerClient q) := by
  cases q with
  | exchange request =>
    refine quiet_bind (p := act (.exchange request)) (quiet_act (by simp)) fun reply => ?_
    exact quiet_bind (p := act (.sleep reply.1)) (quiet_act (by simp)) fun _ => quiet_pure _
  | pause span => exact quiet_act (by simp)

/-- What the platform itself does makes no further calls. -/
lemma quiet_platformThread (b : Backends) (call : Platform.Call) :
    Quiet (platformThread b call) := by
  unfold platformThread
  split
  · exact quiet_bind (quiet_act (by simp)) fun _ => quiet_act (by simp)
  · exact quiet_run quiet_answerClient _

/-- What is done to close a connection is no call by itself. -/
lemma quiet_releaseThread (b : Backends) (h : ClusterHandle) : Quiet (releaseThread b h) := by
  unfold releaseThread
  split
  · exact quiet_act (by simp)
  · exact quiet_pure ()

/-- A rule that is applied makes no calls. -/
lemma quiet_applyRule (r : Rule) : Quiet (applyRule r) := by
  unfold applyRule
  refine quiet_bind (p := act (.sleep r.delay)) (quiet_act (by simp)) fun _ => ?_
  rcases r.deleteFile with _ | path <;> rcases r.writeFile with _ | file
  · cases r.verdict <;> exact quiet_pure _
  · refine quiet_bind (quiet_act (by simp)) fun _ => ?_
    cases r.verdict <;> exact quiet_pure _
  · refine quiet_bind (quiet_act (by simp)) fun _ => ?_
    cases r.verdict <;> exact quiet_pure _
  · refine quiet_bind (quiet_act (by simp)) fun _ => quiet_bind (quiet_act (by simp)) fun _ => ?_
    cases r.verdict <;> exact quiet_pure _

/-- Rules that are applied one after the other make no calls. -/
lemma quiet_applyRules (rules : List Rule) : Quiet (applyRules rules) := by
  induction rules with
  | nil => exact quiet_pure none
  | cons r rest ih =>
    refine quiet_bind (quiet_applyRule r) fun mishap? => ?_
    cases mishap? with
    | some mishap => exact quiet_pure _
    | none => exact ih

/-- Rules make no calls, and so a call makes none but itself. -/
lemma quiet_underRules (rules : List Rule) {go : Thread (Except DeployError α)} (hgo : Quiet go) :
    Quiet (underRules rules go) := by
  refine quiet_bind (quiet_applyRules rules) fun mishap? => ?_
  cases mishap? with
  | some mishap => exact quiet_pure _
  | none => exact quiet_bind hgo fun _ => quiet_pure _

/-! ## Clusters that are dropped -/

/-- The calls that are made when clusters are dropped one after the other. -/
def drops (handles : List ClusterHandle) : List Call :=
  handles.flatMap fun h => [.platform (.forceKill h), .release h]

/-- Clusters are dropped one after the other. -/
@[simp]
lemma drops_append (a b : List ClusterHandle) : drops (a ++ b) = drops a ++ drops b :=
  List.flatMap_append

/-- **Dropping a connection** is one attempt to kill the cluster, and then one release, whatever
comes of the kill. -/
lemma entered_of_ends_dropGuard {b : Backends} {h : ClusterHandle}
    {t : List (Dialogue.Exchange Act Act.Answer)} (hrun : Ends (dropGuard b h) t ()) :
    entered t = [.platform (.forceKill h), .release h] := by
  unfold dropGuard at hrun
  obtain ⟨killEntry, rest, rfl, hrest⟩ := Dialogue.ends_question_bind_iff.1 hrun
  obtain ⟨t₁, t₂, _, rfl, hkill, hclose⟩ := Dialogue.ends_bind_iff.1 hrest
  obtain ⟨releaseEntry, rest, rfl, hend⟩ := Dialogue.ends_question_bind_iff.1 hclose
  obtain ⟨t₃, t₄, _, rfl, hrules, hrelease⟩ := Dialogue.ends_bind_iff.1 hend
  have hquiet : entered (t₃ ++ t₄) = [] := by
    rw [entered_append, quiet_applyRules _ hrules, quiet_releaseThread b h hrelease]
    rfl
  have hunder : entered t₁ = [] :=
    quiet_underRules _ (quiet_platformThread b (.forceKill h)) hkill
  calc entered (⟨.enter (.platform (.forceKill h)), killEntry⟩ ::
          (t₁ ++ ⟨.enter (.release h), releaseEntry⟩ :: (t₃ ++ t₄)))
      = .platform (.forceKill h) :: (entered t₁ ++ .release h :: entered (t₃ ++ t₄)) := by
        rw [← List.singleton_append, entered_append, entered_append, ← List.singleton_append,
          entered_append]
        rfl
    _ = [.platform (.forceKill h), .release h] := by
        rw [hunder, hquiet]
        rfl

/-- A result that nobody gets is dropped if it is a cluster. -/
lemma entered_of_ends_discard {b : Backends} {op : Operation} {result : Attempt op.Value}
    {t : List (Dialogue.Exchange Act Act.Answer)} (hrun : Ends (discard b op result) t ()) :
    entered t = drops (op.handle? result).toList := by
  unfold discard at hrun
  split at hrun
  · exact entered_of_ends_dropGuard hrun
  · exact quiet_act (by simp) hrun
  · next hcreate _ =>
    rw [quiet_pure () hrun]
    unfold Operation.handle?
    split
    · next request h => exact (hcreate _ _ rfl HEq.rfl).elim
    · rfl

/-- The connection that a task holds at a question is dropped. -/
def dropHeld (b : Backends) (q : Task.Question) : Thread Unit :=
  match q.held with
  | some h => dropGuard b h
  | none => return ()

/-- A result that comes too late is discarded. -/
def discardLate (b : Backends) : (q : Task.Question) → q.Late → Thread Unit
  | .background op _, some result => discard b op result
  | .bounded op _ _, some result => discard b op result
  | _, _ => return ()

/-- What is done when a task is left at a question: the connection that it holds is dropped, and so
is a cluster that comes too late. -/
def aftermath (b : Backends) (q : Task.Question) (late : q.Late) : Thread Unit := do
  dropHeld b q
  discardLate b q late

/-- **Every cluster that is dropped is killed and released**, first the one that the task held and
then one that comes too late. -/
lemma entered_of_ends_aftermath {b : Backends} {q : Task.Question} {late : q.Late}
    {t : List (Dialogue.Exchange Act Act.Answer)} (hrun : Ends (aftermath b q late) t ()) :
    entered t = drops (q.held.toList ++ (q.lateHandle late).toList) := by
  unfold aftermath at hrun
  obtain ⟨t₁, t₂, ⟨⟩, rfl, hheld, hlate⟩ := Dialogue.ends_bind_iff.1 hrun
  have hfirst : entered t₁ = drops q.held.toList := by
    unfold dropHeld at hheld
    rcases hq : q.held with _ | h <;> rw [hq] at hheld
    · exact quiet_pure () hheld
    · exact entered_of_ends_dropGuard hheld
  have hsecond : entered t₂ = drops (q.lateHandle late).toList := by
    match q, late with
    | .background op _, some result => exact entered_of_ends_discard hlate
    | .bounded op _ _, some result => exact entered_of_ends_discard hlate
    | .background _ _, none => exact quiet_pure () hlate
    | .bounded _ _ _, none => exact quiet_pure () hlate
    | .watch _ _ _, _ => exact quiet_pure () hlate
    | .pause _ _, _ => exact quiet_pure () hlate
    | .isCancelled, _ => exact quiet_pure () hlate
    | .release _, _ => exact quiet_pure () hlate
  rw [entered_append, hfirst, hsecond, drops_append]

end Rehearsal

end ClusterDeploy
