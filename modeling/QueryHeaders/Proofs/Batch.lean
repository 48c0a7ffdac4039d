import Mathlib.Data.List.Nodup
import QueryHeaders.Proofs.Generation

/-!
What a batch finds: the failure of each file that fails on its own, in the order of the files, each
with the position of its file. Main statement: a report says of every position what the check of the
file there says, and the reports on two batches make up the report on both.
-/
namespace QueryHeaders

/-- The same failure, of a file that stands `n` places later. -/
def BatchFailure.shifted (n : Nat) (f : BatchFailure) : BatchFailure :=
  { f with index := n + f.index }

namespace BatchReport

/-- The report on a batch and, after it, another one. -/
def append (r s : BatchReport) : BatchReport where
  checked := r.checked + s.checked
  failures := r.failures ++ s.failures.map (BatchFailure.shifted r.checked)

/-- The positions of the failures increase. -/
def IsOrdered (r : BatchReport) : Prop :=
  (r.failures.map BatchFailure.index).Pairwise (· < ·)

/-- No two failures in order have one position, so that looking up a position hits its failure. -/
theorem failureAt?_eq_some_iff {r : BatchReport} {f : BatchFailure} {index : Nat}
    (ordered : r.IsOrdered) :
    r.failureAt? index = some f ↔ f ∈ r.failures ∧ f.index = index := by
  constructor
  · intro found
    exact ⟨List.mem_of_find?_eq_some found, by simpa using List.find?_some found⟩
  · rintro ⟨member, rfl⟩
    rw [failureAt?]
    cases found : r.failures.find? (·.index == f.index) with
    | none => simpa using List.find?_eq_none.mp found f member
    | some g =>
        have same : g.index = f.index := by simpa using List.find?_some found
        have distinct : (r.failures.map BatchFailure.index).Nodup := ordered.imp Nat.ne_of_lt
        rw [List.inj_on_of_nodup_map distinct (List.mem_of_find?_eq_some found) member same]

end BatchReport

namespace Validator

variable {t : FileTree} {v : Validator} {files : List BatchFile} {file : BatchFile}
  {f : BatchFailure} {index : Nat}

theorem keepsTree_checkFile (v : Validator) (path : String) : (v.checkFile path).KeepsTree :=
  Job.KeepsTree.bind (Loading.keepsTree_ofFile path) fun _ => .ofExcept _

/-- The failure of the file at a position, if it fails. -/
def failureOf? (v : Validator) (t : FileTree) (placed : BatchFile × Nat) : Option BatchFailure :=
  match ((v.checkFile placed.1.path).onTree t).1 with
  | .ok () => none
  | .error failure => some ⟨placed.2, placed.1, failure⟩

theorem run_failuresFrom (v : Validator) (t : FileTree) (index : Nat) (files : List BatchFile) :
    (v.failuresFrom index files).run t = ((files.zipIdx index).filterMap (v.failureOf? t), t) := by
  induction files generalizing index with
  | nil => rfl
  | cons file rest ih =>
      have checked := (keepsTree_checkFile v file.path).onTree_eq t
      rw [Job.onTree] at checked
      rw [failuresFrom, Program.run_bind, checked, Program.run_bind, ih, List.zipIdx_cons,
        List.filterMap_cons, failureOf?, Job.onTree]
      cases (Program.run t (ExceptT.run (v.checkFile file.path))).1 <;> rfl

theorem run_checkBatch (v : Validator) (t : FileTree) (files : List BatchFile) :
    (v.checkBatch files).run t =
      (⟨files.length, files.zipIdx.filterMap (v.failureOf? t)⟩, t) := by
  rw [checkBatch, Program.run_bind, run_failuresFrom]
  rfl

/-- What is wrong with a file. -/
def checkFailure? (v : Validator) (t : FileTree) (path : String) : Option Failure :=
  match ((v.checkFile path).onTree t).1 with
  | .ok () => none
  | .error failure => some failure

theorem checkFailure?_eq_none_iff {path : String} :
    v.checkFailure? t path = none ↔ ((v.checkFile path).onTree t).1 = .ok () := by
  rw [checkFailure?]
  cases ((v.checkFile path).onTree t).1 <;> simp

theorem checkFailure?_eq_some_iff {path : String} {failure : Failure} :
    v.checkFailure? t path = some failure ↔ ((v.checkFile path).onTree t).1 = .error failure := by
  rw [checkFailure?]
  cases ((v.checkFile path).onTree t).1 <;> simp

theorem isSome_checkFailure? (v : Validator) (t : FileTree) (path : String) :
    (v.checkFailure? t path).isSome = !((v.checkFile path).onTree t).1.isOk := by
  rw [checkFailure?]
  cases ((v.checkFile path).onTree t).1 <;> rfl

theorem failureOf?_eq_map (v : Validator) (t : FileTree) (placed : BatchFile × Nat) :
    v.failureOf? t placed = (v.checkFailure? t placed.1.path).map (⟨placed.2, placed.1, ·⟩) := by
  rw [failureOf?, checkFailure?]
  cases ((v.checkFile placed.1.path).onTree t).1 <;> rfl

theorem failureOf?_eq_none_iff {index : Nat} :
    v.failureOf? t (file, index) = none ↔ ((v.checkFile file.path).onTree t).1 = .ok () := by
  rw [failureOf?_eq_map, Option.map_eq_none_iff, checkFailure?_eq_none_iff]

/-- A batch is valid exactly if every file of it is. -/
theorem allValid_checkBatch_iff :
    ((v.checkBatch files).run t).1.allValid = true ↔
      ∀ file ∈ files, ((v.checkFile file.path).onTree t).1 = .ok () := by
  rw [run_checkBatch, BatchReport.allValid, List.isEmpty_iff, List.filterMap_eq_nil_iff]
  constructor
  · intro none file member
    obtain ⟨i, bound, rfl⟩ := List.mem_iff_getElem.mp member
    have placed : (files[i], i) ∈ files.zipIdx := by
      simp [List.mem_zipIdx_iff_getElem?]
    exact failureOf?_eq_none_iff.mp (none _ placed)
  · rintro valid ⟨file, index⟩ placed
    exact failureOf?_eq_none_iff.mpr (valid file (List.fst_mem_of_mem_zipIdx placed))

theorem failureOf?_eq_some_iff :
    v.failureOf? t (file, index) = some f ↔
      ∃ failure, ((v.checkFile file.path).onTree t).1 = .error failure ∧
        f = ⟨index, file, failure⟩ := by
  simp only [failureOf?_eq_map, Option.map_eq_some_iff, checkFailure?_eq_some_iff,
    eq_comm (b := f)]

theorem mem_failures_checkBatch_iff :
    f ∈ ((v.checkBatch files).run t).1.failures ↔
      ∃ file failure, files[f.index]? = some file ∧
        ((v.checkFile file.path).onTree t).1 = .error failure ∧ f = ⟨f.index, file, failure⟩ := by
  rw [run_checkBatch, List.mem_filterMap]
  constructor
  · rintro ⟨⟨file, index⟩, placed, given⟩
    obtain ⟨failure, wrong, rfl⟩ := failureOf?_eq_some_iff.mp given
    exact ⟨file, failure, List.mem_zipIdx_iff_getElem?.mp placed, wrong, rfl⟩
  · rintro ⟨file, failure, here, wrong, same⟩
    exact ⟨(file, f.index), List.mem_zipIdx_iff_getElem?.mpr here,
      failureOf?_eq_some_iff.mpr ⟨failure, wrong, same⟩⟩

theorem isOrdered_checkBatch (v : Validator) (t : FileTree) (files : List BatchFile) :
    ((v.checkBatch files).run t).1.IsOrdered := by
  have positions : files.zipIdx.Pairwise fun a b => a.2 < b.2 := by
    rw [← List.pairwise_map (f := Prod.snd) (R := (· < ·)), List.zipIdx_map_snd]
    exact List.pairwise_lt_range'
  rw [run_checkBatch, BatchReport.IsOrdered, List.pairwise_map]
  refine positions.filterMap _ ?_
  rintro ⟨file, i⟩ ⟨other, j⟩ before f here g there
  obtain ⟨_, _, rfl⟩ := failureOf?_eq_some_iff.mp here
  obtain ⟨_, _, rfl⟩ := failureOf?_eq_some_iff.mp there
  exact before

theorem failureAt?_checkBatch_eq_some_iff :
    ((v.checkBatch files).run t).1.failureAt? index = some f ↔
      ∃ file failure, files[index]? = some file ∧
        ((v.checkFile file.path).onTree t).1 = .error failure ∧ f = ⟨index, file, failure⟩ := by
  rw [BatchReport.failureAt?_eq_some_iff (isOrdered_checkBatch v t files),
    mem_failures_checkBatch_iff]
  constructor
  · rintro ⟨found, rfl⟩
    exact found
  · rintro ⟨file, failure, here, wrong, rfl⟩
    exact ⟨⟨file, failure, here, wrong, rfl⟩, rfl⟩

/-- What is looked up by the position of a file is what is wrong with this file, also if the file
occurs several times. -/
theorem failureAt?_checkBatch (placed : (file, index) ∈ files.zipIdx) :
    (((v.checkBatch files).run t).1.failureAt? index).map BatchFailure.failure =
      v.checkFailure? t file.path := by
  have here := List.mem_zipIdx_iff_getElem?.mp placed
  ext failure
  rw [Option.map_eq_some_iff, checkFailure?_eq_some_iff]
  simp only [failureAt?_checkBatch_eq_some_iff, here, Option.some_inj]
  constructor
  · rintro ⟨_, ⟨_, _, rfl, wrong, rfl⟩, rfl⟩
    exact wrong
  · intro wrong
    exact ⟨_, ⟨file, failure, rfl, wrong, rfl⟩, rfl⟩

theorem any_checkBatch_iff {P : Failure → Bool} :
    (((v.checkBatch files).run t).1.failures.any fun x => P x.failure) = true ↔
      ∃ file ∈ files, ∃ failure,
        ((v.checkFile file.path).onTree t).1 = .error failure ∧ P failure = true := by
  rw [run_checkBatch, List.any_eq_true]
  constructor
  · rintro ⟨x, member, holds⟩
    obtain ⟨⟨file, index⟩, placed, given⟩ := List.mem_filterMap.mp member
    rw [failureOf?_eq_map, Option.map_eq_some_iff] at given
    obtain ⟨failure, wrong, rfl⟩ := given
    exact ⟨file, List.fst_mem_of_mem_zipIdx placed, failure, checkFailure?_eq_some_iff.mp wrong, holds⟩
  · rintro ⟨file, member, failure, wrong, holds⟩
    obtain ⟨i, bound, rfl⟩ := List.mem_iff_getElem.mp member
    refine ⟨⟨i, files[i], failure⟩, List.mem_filterMap.mpr ⟨(files[i], i), ?_, ?_⟩, holds⟩
    · simp [List.mem_zipIdx_iff_getElem?]
    · rw [failureOf?_eq_map, checkFailure?_eq_some_iff.mpr wrong]
      rfl

/-- Every file either passes or has its failure in the report. -/
theorem length_failures_checkBatch (v : Validator) (t : FileTree) (files : List BatchFile) :
    ((v.checkBatch files).run t).1.failures.length +
      files.countP (fun file => ((v.checkFile file.path).onTree t).1.isOk) = files.length := by
  let fails (file : BatchFile) : Bool := (v.checkFailure? t file.path).isSome
  have each : (fun placed => (v.failureOf? t placed).isSome) = fails ∘ Prod.fst := by
    funext placed
    rw [failureOf?_eq_map, Option.isSome_map]
    rfl
  rw [run_checkBatch, List.length_filterMap_eq_countP, each, ← List.countP_map,
    List.zipIdx_map_fst, List.length_eq_countP_add_countP fails]
  simp [fails, isSome_checkFailure?]

/-! ## Two batches -/

/-- Files that stand later have the same failures at later positions. -/
theorem failures_shifted (v : Validator) (t : FileTree) (files : List BatchFile) (n index : Nat) :
    (files.zipIdx (n + index)).filterMap (v.failureOf? t) =
      ((files.zipIdx index).filterMap (v.failureOf? t)).map (BatchFailure.shifted n) := by
  induction files generalizing index with
  | nil => rfl
  | cons file rest ih =>
      rw [List.zipIdx_cons, List.zipIdx_cons, List.filterMap_cons, List.filterMap_cons,
        Nat.add_assoc, ih, failureOf?_eq_map, failureOf?_eq_map]
      cases v.checkFailure? t file.path <;> rfl

theorem checkBatch_append (v : Validator) (t : FileTree) (files others : List BatchFile) :
    ((v.checkBatch (files ++ others)).run t).1 =
      ((v.checkBatch files).run t).1.append ((v.checkBatch others).run t).1 := by
  rw [run_checkBatch, run_checkBatch, run_checkBatch, BatchReport.append]
  simp only [List.length_append, List.zipIdx_append, List.filterMap_append, Nat.zero_add]
  rw [← failures_shifted, Nat.add_zero]

/-- A batch counts its files and records, in their order and by position, the failures that the
files have on their own; nothing else is recorded, and of two batches in a row the second is
recorded as it would be alone. -/
theorem checkBatch_pointwise (v : Validator) (t : FileTree) (files others : List BatchFile) :
    let report := ((v.checkBatch files).run t).1
    ((v.checkBatch files).run t).2 = t ∧
    report.checked = files.length ∧
    (report.failures.map BatchFailure.index).Pairwise (· < ·) ∧
    (∀ f ∈ report.failures, f.index < report.checked) ∧
    (∀ index f, report.failureAt? index = some f ↔
      ∃ file failure, files[index]? = some file ∧
        ((v.checkFile file.path).onTree t).1 = .error failure ∧ f = ⟨index, file, failure⟩) ∧
    (report.allValid = true ↔ ∀ file ∈ files, ((v.checkFile file.path).onTree t).1 = .ok ()) ∧
    ((v.checkBatch (files ++ others)).run t).1 =
      report.append ((v.checkBatch others).run t).1 := by
  intro report
  have counted : report.checked = files.length := by
    simp only [report, run_checkBatch]
  refine ⟨by rw [run_checkBatch], counted, isOrdered_checkBatch v t files, ?_,
    fun index f => failureAt?_checkBatch_eq_some_iff, allValid_checkBatch_iff,
    checkBatch_append v t files others⟩
  intro f member
  obtain ⟨file, failure, here, _⟩ := mem_failures_checkBatch_iff.mp member
  rw [counted]
  exact (List.getElem?_eq_some_iff.mp here).1

end Validator

end QueryHeaders
