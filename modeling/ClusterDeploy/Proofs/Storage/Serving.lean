import ClusterDeploy.Proofs.Dialogue.Runs
import ClusterDeploy.Proofs.Storage.Files
import ClusterDeploy.Rehearsal.World

set_option relaxedAutoImplicit false
set_option autoImplicit false

/-!
# Work served by a storage in memory

The work of an operation that needs nothing but the storage and local files has one result, and one
storage is left, if the storage is in memory and nobody interferes. This is how such work goes in a
rehearsal without rules.

## Main definitions

* `MemoryStorage.serve` — who answers such work.
* `Work.carryOut` — the result of work, and the storage that it leaves.
* `Work.IsLocal` — work that asks for the storage and local files only.

## Main results

* `Work.carryOut_bind` — work in sequence.
* `Work.sameSettings_carryOut` — work leaves the settings of the storage as they are.
* `Rehearsal.runFrom_workThread` — in a rehearsal work is carried out in this way.

## Implementation notes

There is neither a platform nor a ledger, so a call to one of them dies. The local files stay as
they are.
-/

namespace ClusterDeploy

/-- The answers to two programs in sequence are given one after the other. -/
lemma Dialogue.run_bind {Q : Type} {A : Q → Type} {α β : Type} {M : Type → Type} [Monad M]
    [LawfulMonad M] (answer : (q : Q) → M (A q)) (p : Dialogue Q A α) (f : α → Dialogue Q A β) :
    (p >>= f).run answer = p.run answer >>= fun a => (f a).run answer := by
  induction p with
  | done a => exact (LawfulMonad.pure_bind a fun a => (f a).run answer).symm
  | ask q next ih =>
    have hstep : (ask q next >>= f).run answer =
        answer q >>= fun a => (next a >>= f).run answer := rfl
    simp only [hstep, ih, run, LawfulMonad.bind_assoc]

/-- Who answers work with a storage in memory and local files. -/
def MemoryStorage.serve (fs : FileSystem) :
    (q : Work.Question) → StateM MemoryStorage (Work.Answer q)
  | .storage call => fun s => ((s.answer fs call).1.mapError .failed, (s.answer fs call).2)
  | .platform _ => pure (.error .died)
  | .ledger _ => pure (.error .died)
  | .isFile path => pure (fs.isFile path)
  | .digest path => pure ((fs.read path).map Sha256.hex)

namespace Work

variable {α β : Type} {fs : FileSystem} {s : MemoryStorage}

/-- The result of work with a storage in memory and local files, and the storage that it leaves. -/
def carryOut (fs : FileSystem) (w : Work α) (s : MemoryStorage) : Attempt α × MemoryStorage :=
  (w.run.run (MemoryStorage.serve fs)).run s

/-! ## Work in sequence -/

/-- A value leaves the storage as it is. -/
@[simp]
lemma carryOut_pure (a : α) : carryOut fs (pure a) s = (.ok a, s) :=
  rfl

/-- A failure leaves the storage as it is. -/
@[simp]
lemma carryOut_fail (e : DeployError) :
    carryOut fs (fail e : Work α) s = (.error (.failed e), s) :=
  rfl

/-- A call of the storage is answered by the storage. -/
@[simp]
lemma carryOut_storage (call : Storage.Call) :
    carryOut fs (storage call) s =
      ((s.answer fs call).1.mapError .failed, (s.answer fs call).2) :=
  rfl

/-- A call of the storage gives what the storage answers. -/
lemma carryOut_storage_of_answer {call : Storage.Call} {value : call.Value} {t : MemoryStorage}
    (h : s.answer fs call = (.ok value, t)) : carryOut fs (storage call) s = (.ok value, t) := by
  rw [carryOut_storage, h]
  rfl

/-- A check of a local file leaves the storage as it is. -/
@[simp]
lemma carryOut_isFile (path : String) : carryOut fs (isFile path) s = (.ok (fs.isFile path), s) :=
  rfl

/-- A digest leaves the storage as it is. -/
@[simp]
lemma carryOut_digest (path : String) :
    carryOut fs (digest path) s = (.ok ((fs.read path).map Sha256.hex), s) :=
  rfl

/-- **Work in sequence**: the second part finds the storage that the first one leaves, if that does
not go wrong. -/
lemma carryOut_bind (w : Work α) (f : α → Work β) :
    carryOut fs (w >>= f) s = match carryOut fs w s with
      | (.ok a, t) => carryOut fs (f a) t
      | (.error mishap, t) => (.error mishap, t) := by
  have hrun : (w >>= f).run = w.run >>= fun result => match result with
      | .ok a => (f a).run
      | .error mishap => pure (.error mishap) := by
    rw [ExceptT.run_bind]
    congr 1
    funext result
    cases result <;> rfl
  unfold carryOut
  rw [hrun, Dialogue.run_bind, StateT.run_bind]
  change (let result := (w.run.run (MemoryStorage.serve fs)).run s; _) = _
  rcases (w.run.run (MemoryStorage.serve fs)).run s with ⟨_ | _, t⟩ <;> rfl

/-- After a part that gives a value the rest goes on from the storage that it leaves. -/
lemma carryOut_bind_of_ok {w : Work α} {f : α → Work β} {a : α} {t : MemoryStorage}
    (h : carryOut fs w s = (.ok a, t)) : carryOut fs (w >>= f) s = carryOut fs (f a) t := by
  rw [carryOut_bind, h]

/-- A part that fails is the end. -/
lemma carryOut_bind_of_error {w : Work α} {f : α → Work β} {mishap : Mishap} {t : MemoryStorage}
    (h : carryOut fs w s = (.error mishap, t)) :
    carryOut fs (w >>= f) s = (.error mishap, t) := by
  rw [carryOut_bind, h]

/-- Work in sequence gives a value only if its first part does. -/
lemma exists_of_carryOut_bind_eq_ok {w : Work α} {f : α → Work β} {b : β} {u : MemoryStorage}
    (h : carryOut fs (w >>= f) s = (.ok b, u)) :
    ∃ a t, carryOut fs w s = (.ok a, t) ∧ carryOut fs (f a) t = (.ok b, u) := by
  rw [carryOut_bind] at h
  rcases hw : carryOut fs w s with ⟨_ | a, t⟩
  · rw [hw] at h
    exact nomatch (Prod.mk.inj h).1
  · rw [hw] at h
    exact ⟨a, t, rfl, h⟩

/-- Work leaves the settings of a storage as they are. -/
lemma sameSettings_carryOut (fs : FileSystem) (w : Work α) (s : MemoryStorage) :
    s.SameSettings (carryOut fs w s).2 := by
  unfold carryOut
  generalize w.run = p
  induction p generalizing s with
  | done a => exact .refl s
  | ask q next ih =>
    cases q with
    | storage call => exact (MemoryStorage.sameSettings_answer fs s call).trans (ih _ _)
    | _ => exact ih _ s

/-! ## Work in a rehearsal -/

/-- Questions for the storage and local files. -/
def Question.IsLocal : Question → Prop
  | .platform _ => False
  | .ledger _ => False
  | _ => True

/-- Work that asks for the storage and local files only. -/
def IsLocal : Dialogue Question Answer α → Prop
  | .done _ => True
  | .ask q next => q.IsLocal ∧ ∀ a, IsLocal (next a)

end Work

namespace Rehearsal

open Work (IsLocal)

variable {α β : Type} {b : Backends} {pass : Millis → Run Unit} {limit : Option Millis}
  {now : Millis} {w : World}

/-- The world of a rehearsal without rules in which no connection is held. -/
structure World.IsPlain (w : World) : Prop where
  rules : w.rules = []
  held : w.held = none

/-- Without rules and a connection, noting a call has no consequences. -/
lemma enter_of_isPlain (hw : w.IsPlain) (call : Call) :
    ∃ w' : World, w'.IsPlain ∧ w'.files = w.files ∧ w'.storage = w.storage ∧
      (enter call).run w = (⟨[], none⟩, w') := by
  refine ⟨((enter call).run w).2, ⟨hw.rules, ?_⟩, rfl, rfl, Prod.ext ?_ rfl⟩
  · change (if _ then none else w.held) = none
    rw [hw.held, ite_self]
  · change Entry.mk (w.rules.filter _) (if _ then w.held else none) = ⟨[], none⟩
    rw [hw.rules, hw.held, ite_self, List.filter_nil]

/-- An act of a thread that does not sleep is performed, and the thread goes on with its answer. -/
lemma runFrom_ask {a : Act} (ha : ∀ span, a ≠ .sleep span) (next : a.Answer → Thread α) :
    (runFrom pass limit (.ask a next) now).run w =
      (runFrom pass limit (next ((perform a).run w).1) now).run ((perform a).run w).2 := by
  cases a with
  | sleep span => exact absurd rfl (ha span)
  | _ => rfl

/-- A call to a storage in memory goes through at once. -/
lemma runFrom_guarded_storage (pass : Millis → Run Unit) (limit : Option Millis) (now : Millis)
    (hb : b.storage = .memory) (hw : w.IsPlain) (call : Storage.Call)
    (next : Attempt call.Value → Thread α) :
    ∃ w' : World, w'.IsPlain ∧ w'.files = w.files ∧
      w'.storage = (w.storage.answer w.files call).2 ∧
      (runFrom pass limit (guarded b (.storage call) (storageThread b call) >>= next) now).run w =
        (runFrom pass limit (next ((w.storage.answer w.files call).1.mapError .failed)) now).run
          w' := by
  obtain ⟨w₁, hw₁, hfiles, hstorage, henter⟩ := enter_of_isPlain hw (.storage call)
  refine ⟨{ w₁ with storage := (w.storage.answer w.files call).2 }, ⟨hw₁.rules, hw₁.held⟩, hfiles,
    rfl, ?_⟩
  have hthread : storageThread b call = act (.storage call) := by
    unfold storageThread
    rw [hb]
  have henter' : (perform (.enter (.storage call))).run w = (⟨[], none⟩, w₁) := henter
  rw [hthread]
  refine (runFrom_ask (a := .enter (.storage call)) (by simp) _).trans ?_
  rw [henter']
  refine (runFrom_ask (a := .storage call) (by simp) _).trans ?_
  rw [← hstorage, ← hfiles]
  rfl

/-- **In a rehearsal work is carried out in this way**, if the storage is in memory, there are no
rules and no connection is held. It takes no time, and the local files stay as they are.

**Proof sketch.** Induction on the work, question by question. -/
lemma runFrom_workThread (hb : b.storage = .memory) (work : Work α) (hlocal : IsLocal work.run)
    (hw : w.IsPlain) :
    ∃ w' : World, w'.IsPlain ∧ w'.files = w.files ∧
      w'.storage = (work.carryOut w.files w.storage).2 ∧
      (runFrom pass limit (workThread b work) now).run w =
        (.over now (work.carryOut w.files w.storage).1, w') := by
  unfold workThread Work.carryOut
  generalize work.run = p at hlocal
  induction p generalizing w with
  | done a => exact ⟨w, hw, rfl, rfl, rfl⟩
  | ask q next ih =>
    cases q with
    | storage call =>
      obtain ⟨w₁, hw₁, hfiles, hstorage, hrun⟩ := runFrom_guarded_storage pass limit now hb
        hw call fun answer => (next answer).run (answerWork b)
      obtain ⟨w', hw', hfiles', hstorage', hrun'⟩ := ih _ hw₁ (hlocal.2 _)
      rw [hfiles, hstorage] at hstorage' hrun'
      exact ⟨w', hw', hfiles'.trans hfiles, hstorage', hrun.trans hrun'⟩
    | platform call => exact hlocal.1.elim
    | ledger call => exact hlocal.1.elim
    | isFile path => exact ih _ hw (hlocal.2 _)
    | digest path => exact ih _ hw (hlocal.2 _)

end Rehearsal

end ClusterDeploy
