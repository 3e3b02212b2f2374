import ClusterDeploy.Proofs.Dialogue.Runs
import ClusterDeploy.Rehearsal.Call
import ClusterDeploy.Supervisor

set_option relaxedAutoImplicit false
set_option autoImplicit false

/-!
# Courses of tasks

The course of a task is what it asked and what it was answered, in order. From it one reads off the
calls that were made, the clusters that were created and the polls that saw a cluster finished.

## Main definitions

* `Task.Step`, `Task.Course` — a question with its answer, and the course of a task.
* `Task.Course.calls` — the calls of a course, in order.
* `Task.Course.pollCount` — how often clusters were asked for their status.
* `Rehearsal.Call.queries`, `Rehearsal.Call.kills`, `Rehearsal.Call.releases` — the clusters that
  calls ask about, kill and release.
* `Task.Course.handles` — the clusters that were created.
* `Task.Step.sawFinished` — a poll that saw its cluster finished, in time.
* `Task.Course.killResults`, `Task.Course.recordings` — what came of the kills, and what the ledger
  was told.

## Main results

* `Task.ends_background_iff`, `Task.ends_bounded_iff` — an operation is one step of a course.

## Implementation notes

Staging is an operation, but no call: it asks the storage many times, and neither the platform nor
the ledger. So the calls of a course are all the calls that a deployment makes to these two.
-/

namespace ClusterDeploy

/-- What a list gives element by element, with the first element apart. -/
private lemma filterMap_cons_toList {α β : Type} (f : α → Option β) (a : α) (l : List α) :
    (a :: l).filterMap f = (f a).toList ++ l.filterMap f := by
  cases h : f a <;> simp [h]

/-! ## Calls -/

namespace Rehearsal.Call

/-- Whether a call is one to the platform. Closing a connection is one too. -/
@[simp]
def isPlatform : Call → Bool
  | .platform _ => true
  | .release _ => true
  | _ => false

/-- Whether a call is one to the ledger. -/
@[simp]
def isLedger : Call → Bool
  | .ledger _ => true
  | _ => false

/-- The cluster that a call asks about. -/
@[simp]
def query? : Call → Option ClusterHandle
  | .platform (.queryStatus h) => some h
  | _ => none

/-- The cluster that a call kills. -/
@[simp]
def kill? : Call → Option ClusterHandle
  | .platform (.forceKill h) => some h
  | _ => none

/-- The cluster whose connection a call closes. -/
@[simp]
def release? : Call → Option ClusterHandle
  | .release h => some h
  | _ => none

/-- The clusters that calls ask about, in order. -/
def queries (calls : List Call) : List ClusterHandle :=
  calls.filterMap query?

/-- The clusters that calls kill, in order. -/
def kills (calls : List Call) : List ClusterHandle :=
  calls.filterMap kill?

/-- The clusters whose connections calls close, in order. -/
def releases (calls : List Call) : List ClusterHandle :=
  calls.filterMap release?

/-- The last call to the platform. -/
def lastPlatform (calls : List Call) : Option Call :=
  (calls.filter isPlatform).getLast?

@[simp]
lemma queries_nil : queries [] = [] :=
  rfl

@[simp]
lemma kills_nil : kills [] = [] :=
  rfl

@[simp]
lemma releases_nil : releases [] = [] :=
  rfl

@[simp]
lemma queries_cons (a : Call) (b : List Call) :
    queries (a :: b) = a.query?.toList ++ queries b :=
  filterMap_cons_toList query? a b

@[simp]
lemma kills_cons (a : Call) (b : List Call) : kills (a :: b) = a.kill?.toList ++ kills b :=
  filterMap_cons_toList kill? a b

@[simp]
lemma releases_cons (a : Call) (b : List Call) :
    releases (a :: b) = a.release?.toList ++ releases b :=
  filterMap_cons_toList release? a b

/-- The polls of two parts are those of the first, and then those of the second. -/
@[simp]
lemma queries_append (a b : List Call) : queries (a ++ b) = queries a ++ queries b :=
  List.filterMap_append

/-- The attempts to kill a cluster in two parts follow one another. -/
@[simp]
lemma kills_append (a b : List Call) : kills (a ++ b) = kills a ++ kills b :=
  List.filterMap_append

/-- The releases of two parts follow one another. -/
@[simp]
lemma releases_append (a b : List Call) : releases (a ++ b) = releases a ++ releases b :=
  List.filterMap_append

@[simp]
lemma queries_toList (a : Option Call) : queries a.toList = (a.bind query?).toList := by
  cases a <;> simp

@[simp]
lemma kills_toList (a : Option Call) : kills a.toList = (a.bind kill?).toList := by
  cases a <;> simp

@[simp]
lemma releases_toList (a : Option Call) : releases a.toList = (a.bind release?).toList := by
  cases a <;> simp

end Rehearsal.Call

/-- The call that an operation is. -/
@[simp]
def Operation.call? : Operation → Option Rehearsal.Call
  | .platform call => some (.platform call)
  | .ledger call => some (.ledger call)
  | _ => none

/-- The cluster that an operation created. -/
@[simp]
def Operation.handle? : (op : Operation) → Attempt op.Value → Option ClusterHandle
  | .platform (.createCluster _), .ok h => some h
  | _, _ => none

namespace Task

/-- A question of a task, and its answer. -/
abbrev Step := Dialogue.Exchange Question Answer

/-- What a task asked and what it was answered, in order. -/
abbrev Course := List Step

/-- Every question of a task can be answered. -/
instance (q : Question) : Nonempty (Answer q) :=
  match q with
  | .background _ _ => ⟨.error .died⟩
  | .bounded _ _ _ => ⟨.endless⟩
  | .watch _ _ _ => ⟨.cancelled⟩
  | .pause _ _ => ⟨()⟩
  | .isCancelled => ⟨false⟩
  | .release _ => ⟨()⟩

/-- The operation that a task waits for. -/
@[simp]
def Question.operation? : Question → Option Operation
  | .background op _ => some op
  | .bounded op _ _ => some op
  | _ => none

/-- The call that a question is. -/
@[simp]
def Question.call? : Question → Option Rehearsal.Call
  | .release h => some (.release h)
  | q => q.operation?.bind Operation.call?

/-- The cluster that a step created. -/
@[simp]
def Step.handle? : Step → Option ClusterHandle
  | ⟨.background op _, result⟩ => op.handle? result
  | ⟨.bounded op limit _, ending⟩ => (ending.within limit).bind op.handle?
  | _ => none

/-- Whether a step is a poll that saw its cluster finished, in time. -/
@[simp]
def Step.sawFinished : Step → Bool
  | ⟨.bounded (.platform (.queryStatus _)) limit _, ending⟩ => Supervisor.sawFinished limit ending
  | _ => false

/-- What came in time of an attempt to kill a cluster, if a step is one. -/
@[simp]
def Step.killResult? : Step → Option (Option (Attempt Unit))
  | ⟨.bounded (.platform (.forceKill _)) limit _, ending⟩ => some (ending.within limit)
  | _ => none

/-- Whether a step is a call to the ledger. -/
@[simp]
def Step.isRecording (x : Step) : Bool :=
  x.question.call?.any Rehearsal.Call.isLedger

/-- Whether a step is the creation of a cluster. -/
@[simp]
def Step.isCreation (x : Step) : Bool :=
  match x.question.operation? with
  | some (.platform (.createCluster _)) => true
  | _ => false

namespace Course

/-- The calls of a course, in order. -/
def calls (c : Course) : List Rehearsal.Call :=
  c.filterMap fun x => x.question.call?

/-- The clusters that were created, in order. -/
def handles (c : Course) : List ClusterHandle :=
  c.filterMap Step.handle?

/-- How often clusters were asked for their status. -/
def pollCount (c : Course) : Nat :=
  (Rehearsal.Call.queries c.calls).length

/-- Whether some poll saw its cluster finished, in time. -/
def sawFinished (c : Course) : Bool :=
  c.any Step.sawFinished

/-- What came in time of the attempts to kill clusters, in order. -/
def killResults (c : Course) : List (Option (Attempt Unit)) :=
  c.filterMap Step.killResult?

/-- The calls to the ledger with their answers, in order. -/
def recordings (c : Course) : Course :=
  c.filter Step.isRecording

/-- The calls of two parts follow one another. -/
@[simp]
lemma calls_append (c d : Course) : calls (c ++ d) = calls c ++ calls d :=
  List.filterMap_append

/-- The polls of two parts are counted together. -/
@[simp]
lemma pollCount_append (c d : Course) : pollCount (c ++ d) = pollCount c + pollCount d := by
  simp [pollCount]

/-- The clusters that are created in two parts follow one another. -/
@[simp]
lemma handles_append (c d : Course) : handles (c ++ d) = handles c ++ handles d :=
  List.filterMap_append

/-- A cluster was seen finished in two parts if it was in one of them. -/
@[simp]
lemma sawFinished_append (c d : Course) :
    sawFinished (c ++ d) = (sawFinished c || sawFinished d) :=
  List.any_append

/-- The results of attempts to kill a cluster in two parts follow one another. -/
@[simp]
lemma killResults_append (c d : Course) : killResults (c ++ d) = killResults c ++ killResults d :=
  List.filterMap_append

/-- The records that are written in two parts follow one another. -/
@[simp]
lemma recordings_append (c d : Course) : recordings (c ++ d) = recordings c ++ recordings d :=
  List.filter_append _ _

/-- The call of the first step comes first. -/
@[simp]
lemma calls_cons (x : Step) (c : Course) : calls (x :: c) = x.question.call?.toList ++ calls c :=
  filterMap_cons_toList _ x c

/-- The first step counts if it is a poll. -/
@[simp]
lemma pollCount_cons (x : Step) (c : Course) : pollCount (x :: c) =
    (x.question.call?.bind Rehearsal.Call.query?).toList.length + pollCount c := by
  simp [pollCount]

/-- The cluster that is created in the first step comes first. -/
@[simp]
lemma handles_cons (x : Step) (c : Course) : handles (x :: c) = x.handle?.toList ++ handles c :=
  filterMap_cons_toList Step.handle? x c

/-- A cluster was seen finished if it was in the first step or in a later one. -/
@[simp]
lemma sawFinished_cons (x : Step) (c : Course) :
    sawFinished (x :: c) = (x.sawFinished || sawFinished c) :=
  List.any_cons

/-- The result of an attempt to kill a cluster in the first step comes first. -/
@[simp]
lemma killResults_cons (x : Step) (c : Course) :
    killResults (x :: c) = x.killResult?.toList ++ killResults c :=
  filterMap_cons_toList Step.killResult? x c

/-- The first step comes first if it writes a record. -/
@[simp]
lemma recordings_cons (x : Step) (c : Course) :
    recordings (x :: c) = if x.isRecording then x :: recordings c else recordings c :=
  List.filter_cons

@[simp]
lemma killResults_nil : killResults [] = [] :=
  rfl

@[simp]
lemma recordings_nil : recordings [] = [] :=
  rfl

@[simp]
lemma calls_nil : calls [] = [] :=
  rfl

@[simp]
lemma pollCount_nil : pollCount [] = 0 :=
  rfl

@[simp]
lemma handles_nil : handles [] = [] :=
  rfl

@[simp]
lemma sawFinished_nil : sawFinished [] = false :=
  rfl

end Course

/-! ## The parts of tasks -/

variable {c : Course} {stage : Stage} {application : Option ApplicationId} {op : Operation}
  {held : Option ClusterHandle} {limit : Millis}

/-- A task that asks a question is over after the answer. -/
lemma ends_ask_iff {q : Question} {a : Answer q} :
    Dialogue.Ends (ask q) c a ↔ c = [⟨q, a⟩] := by
  constructor
  · rintro (_ | ⟨⟨⟩⟩)
    rfl
  · rintro rfl
    exact .ask (.done a)

/-- An operation that is done however long it takes is one step. -/
lemma ends_background_iff {r : Except DeployError op.Value} :
    Dialogue.Ends (background stage application op held) c r ↔
      ∃ result : Attempt op.Value,
        c = [⟨.background op held, result⟩] ∧ r = result.settle stage application := by
  unfold background
  rw [Dialogue.ends_bind_pure_iff]
  exact exists_congr fun result => and_congr_left fun _ => ends_ask_iff

/-- An operation that is done within a limit is one step. -/
lemma ends_bounded_iff {r : Except DeployError op.Value} :
    Dialogue.Ends (bounded stage application limit op held) c r ↔
      ∃ ending : Ending op.Value,
        c = [⟨.bounded op limit held, ending⟩] ∧
          r = settleWithin stage application limit ending := by
  unfold bounded
  rw [Dialogue.ends_bind_pure_iff]
  exact exists_congr fun ending => and_congr_left fun _ => ends_ask_iff

/-! ## Results as seen by the task -/

/-- A task sees a value only if the operation gave it. -/
lemma settle_eq_ok_iff {α : Type} {result : Attempt α} {a : α} :
    result.settle stage application = .ok a ↔ result = .ok a := by
  rcases result with (_ | _) | _ <;> simp [Attempt.settle]

/-- A task sees a value only if the operation gave it in time. -/
lemma settleWithin_eq_ok_iff {α : Type} {ending : Ending α} {a : α} :
    settleWithin stage application limit ending = .ok a ↔ ending.within limit = some (.ok a) := by
  unfold settleWithin
  rcases ending.within limit with _ | result
  · simp
  · simpa using settle_eq_ok_iff

/-- A task sees a failure only if the operation gave no value. -/
lemma exists_mishap_of_settle {α : Type} {result : Attempt α} {f : DeployError → DeployError}
    {e : DeployError} (hresult : (result.settle stage application).mapError f = .error e) :
    ∃ mishap, result = .error mishap := by
  cases result with
  | error mishap => exact ⟨mishap, rfl⟩
  | ok a => exact nomatch hresult

/-- Another name for a failure makes no value of it. -/
lemma mapError_eq_ok_iff {ε ε' α : Type} {f : ε → ε'} {r : Except ε α} {a : α} :
    r.mapError f = .ok a ↔ r = .ok a := by
  cases r with
  | error e => exact ⟨nofun, nofun⟩
  | ok b => exact .of_eq ((Except.ok.injEq b a).trans (Except.ok.injEq b a).symm)

end Task

end ClusterDeploy
