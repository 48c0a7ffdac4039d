import QueryHeaders.Failure

/-!
What jobs do to a tree, piece by piece.

A job that is bound to another starts where the first one leaves the tree, and a failure ends the
whole. A program that only reads leaves every tree as it is; such programs are closed under binding.
-/
namespace QueryHeaders

namespace Program

variable (t : FileTree)

@[simp] theorem run_kind (path : String) : (kind path).run t = (t.kind? path, t) := rfl

@[simp] theorem run_readText (path : String) : (readText path).run t = (t.readText path, t) := rfl

@[simp] theorem run_makeDirectories (path : String) :
    (makeDirectories path).run t = t.makeDirectories path := rfl

@[simp] theorem run_write (path text : String) :
    (write path text).run t = t.write path (.text text) := rfl

@[simp] theorem run_replace (source target : String) :
    (replace source target).run t = t.replace source target := rfl

@[simp] theorem run_removeFile (path : String) : (removeFile path).run t = t.removeFile path := rfl

end Program

namespace Job

variable {α β : Type}

theorem onTree_pure (t : FileTree) (a : α) : (pure a : Job α).onTree t = (.ok a, t) := rfl

theorem onTree_throw (t : FileTree) (failure : Failure) :
    (throw failure : Job α).onTree t = (.error failure, t) := rfl

theorem onTree_lift (t : FileTree) (p : Program α) :
    onTree (ExceptT.lift p) t = (.ok (p.run t).1, (p.run t).2) := by
  unfold onTree
  change (p >>= fun a => pure (Except.ok a)).run t = _
  rw [Program.run_bind]
  rfl

theorem onTree_bind (t : FileTree) (job : Job α) (next : α → Job β) :
    (job >>= next).onTree t =
      match job.onTree t with
      | (.ok a, u) => (next a).onTree u
      | (.error failure, u) => (.error failure, u) := by
  unfold onTree
  rw [ExceptT.run_bind, Program.run_bind]
  rcases Program.run t (ExceptT.run job) with ⟨_ | _, u⟩ <;> rfl

/-- A failure of two jobs in a row is one of the first or of the second. -/
theorem onTree_bind_failed {t u : FileTree} {job : Job α} {next : α → Job β} {failure : Failure}
    (failed : (job >>= next).onTree t = (.error failure, u)) :
    job.onTree t = (.error failure, u) ∨
      ∃ a v, job.onTree t = (.ok a, v) ∧ (next a).onTree v = (.error failure, u) := by
  rw [onTree_bind] at failed
  rcases first : job.onTree t with ⟨e | a, v⟩ <;> rw [first] at failed
  · cases failed
    exact .inl rfl
  · exact .inr ⟨a, v, rfl, failed⟩

/-- Two jobs in a row succeed if the second does where the first has led. -/
theorem onTree_bind_eq_ok {t u : FileTree} {job : Job α} {next : α → Job β} {b : β} :
    (job >>= next).onTree t = (.ok b, u) ↔
      ∃ a v, job.onTree t = (.ok a, v) ∧ (next a).onTree v = (.ok b, u) := by
  rw [onTree_bind]
  rcases job.onTree t with ⟨e | a, v⟩
  · simp
  · constructor
    · intro h
      exact ⟨a, v, rfl, h⟩
    · rintro ⟨_, _, ⟨⟩, h⟩
      exact h

theorem onTree_ofExcept (t : FileTree) (result : Except Failure α) :
    (liftM result : Job α).onTree t = (result, t) := rfl

/-- The disk's answer decides whether a job goes on. -/
theorem onTree_require (t : FileTree) (failure : Fault → Failure) (p : Program (Except Fault α)) :
    (Job.require failure p).onTree t =
      match p.run t with
      | (.ok a, u) => (.ok a, u)
      | (.error fault, u) => (.error (failure fault), u) := by
  unfold Job.require
  rw [onTree_bind, onTree_lift]
  rcases p.run t with ⟨_ | _, u⟩ <;> rfl

theorem onTree_eq_of_isOk {job : Job α} {t : FileTree} (succeeds : (job.onTree t).1.isOk = true) :
    ∃ a, job.onTree t = (.ok a, (job.onTree t).2) := by
  rcases result : job.onTree t with ⟨_ | a, u⟩ <;> rw [result] at succeeds
  · cases succeeds
  · exact ⟨a, rfl⟩

theorem onTree_map (t : FileTree) (f : α → β) (job : Job α) :
    (f <$> job).onTree t = ((job.onTree t).1.map f, (job.onTree t).2) := by
  refine (Program.run_bind t (ExceptT.run job) _).trans ?_
  unfold onTree
  rcases Program.run t (ExceptT.run job) with ⟨_ | _, u⟩ <;> rfl

theorem onTree_tryCatch (t : FileTree) (job : Job α) (recover : Failure → Job α) :
    (tryCatch job recover).onTree t =
      match job.onTree t with
      | (.ok a, u) => (.ok a, u)
      | (.error failure, u) => (recover failure).onTree u := by
  refine (Program.run_bind t (ExceptT.run job) _).trans ?_
  unfold onTree
  rcases Program.run t (ExceptT.run job) with ⟨_ | _, u⟩ <;> rfl

end Job

/-! ## Programs that change nothing -/

def Program.KeepsTree {α : Type} (p : Program α) : Prop :=
  ∀ t, (p.run t).2 = t

namespace Program.KeepsTree

variable {α β : Type}

theorem pure (a : α) : (Pure.pure a : Program α).KeepsTree :=
  fun _ => rfl

theorem bind {p : Program α} {next : α → Program β} (hp : p.KeepsTree)
    (hnext : ∀ a, (next a).KeepsTree) : (p >>= next).KeepsTree := by
  intro t
  rw [run_bind, hnext, hp]

end Program.KeepsTree

namespace Job

variable {α β : Type}

/-- A job leaves every tree as it is, whether it fails or not. -/
def KeepsTree (job : Job α) : Prop :=
  Program.KeepsTree (ExceptT.run job)

namespace KeepsTree

theorem ofExcept (result : Except Failure α) : (liftM result : Job α).KeepsTree := by
  intro t
  rfl

theorem bind {job : Job α} {next : α → Job β} (hjob : job.KeepsTree)
    (hnext : ∀ a, (next a).KeepsTree) : (job >>= next).KeepsTree := by
  unfold KeepsTree
  rw [ExceptT.run_bind]
  refine Program.KeepsTree.bind hjob fun result => ?_
  cases result with
  | ok a => exact hnext a
  | error failure => exact Program.KeepsTree.pure _

theorem lift {p : Program α} (hp : p.KeepsTree) : Job.KeepsTree (ExceptT.lift p) :=
  Program.KeepsTree.bind hp fun a => Program.KeepsTree.pure (Except.ok a)

theorem require (failure : Fault → Failure) {p : Program (Except Fault α)} (hp : p.KeepsTree) :
    (Job.require failure p).KeepsTree := by
  refine bind (lift hp) fun answer => ?_
  cases answer with
  | ok a => exact fun _ => rfl
  | error fault => exact fun _ => rfl

theorem map (f : α → β) {job : Job α} (hjob : job.KeepsTree) : Job.KeepsTree (f <$> job) := by
  refine Program.KeepsTree.bind hjob fun result => ?_
  cases result with
  | ok a => exact fun _ => rfl
  | error failure => exact fun _ => rfl

/-- What a job that only reads gives is given on the tree as it was. -/
theorem onTree_eq {job : Job α} (hjob : job.KeepsTree) (t : FileTree) :
    job.onTree t = ((job.onTree t).1, t) :=
  Prod.ext rfl (hjob t)

theorem onTree_eq_of_fst {job : Job α} {t : FileTree} {result : Except Failure α}
    (hjob : job.KeepsTree) (given : (job.onTree t).1 = result) : job.onTree t = (result, t) :=
  Prod.ext given (hjob t)

theorem tryCatch {job : Job α} {recover : Failure → Job α} (hjob : job.KeepsTree)
    (hrecover : ∀ failure, (recover failure).KeepsTree) :
    Job.KeepsTree (MonadExcept.tryCatch job recover) := by
  refine Program.KeepsTree.bind hjob fun result => ?_
  cases result with
  | ok a => exact fun _ => rfl
  | error failure => exact hrecover failure

end KeepsTree

end Job

end QueryHeaders
