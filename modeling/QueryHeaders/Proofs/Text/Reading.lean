import Mathlib.Data.List.Basic
import QueryHeaders.Proofs.Text.Splicing

/-!
Reading lines back.

A line is read by what it starts and ends with, a run of lines by the line before it and either the
line after it or the backslashes that continue it.
-/
namespace QueryHeaders.Text

variable {opening closing line s : String} {before body rest ls : List String}

/-- What stands between the beginning and the ending of a line. -/
def between? (opening closing line : String) : Option String := do
  let rest ← line.toList.dropPrefix? opening.toList
  let inside ← rest.dropSuffix? closing.toList
  return String.ofList inside

theorem between?_eq_some_iff :
    between? opening closing line = some s ↔ line = opening ++ s ++ closing := by
  simp only [between?, Option.bind_eq_bind, Option.bind_eq_some_iff, List.dropPrefix?_eq_some_iff,
    List.dropSuffix?_eq_some_iff, beq_iff_eq, Option.pure_def, Option.some.injEq]
  rw [← String.toList_inj]
  constructor
  · rintro ⟨after, ⟨_, whole, rfl⟩, inside, ⟨_, rfl, rfl⟩, rfl⟩
    simp [whole]
  · intro whole
    exact ⟨s.toList ++ closing.toList, ⟨_, by simpa using whole, rfl⟩, s.toList, ⟨_, rfl, rfl⟩,
      String.ofList_toList⟩

theorem between?_append (opening s closing : String) :
    between? opening closing (opening ++ s ++ closing) = some s :=
  between?_eq_some_iff.mpr rfl

/-- A line that starts otherwise is not read. -/
theorem between?_eq_none (h : line.toList.dropPrefix? opening.toList = none) :
    between? opening closing line = none := by
  rw [between?, h]
  rfl

theorem mapM_map_of_forall {α β γ : Type} {f : α → β} {g : β → Option γ} {k : α → γ} {as : List α}
    (each : ∀ a ∈ as, g (f a) = some (k a)) : (as.map f).mapM g = some (as.map k) := by
  induction as with
  | nil => rfl
  | cons a as ih =>
      obtain ⟨first, others⟩ := List.forall_mem_cons.mp each
      rw [List.map_cons, List.mapM_cons, first, ih others]
      rfl

/-! ## Runs of lines -/

/-- The lines after the first one that is this. -/
def linesAfter (opening : String) (ls : List String) : List String :=
  (ls.dropWhile (· ≠ opening)).drop 1

def linesBetween (opening closing : String) (ls : List String) : List String :=
  (linesAfter opening ls).takeWhile (· ≠ closing)

theorem linesAfter_append (h : opening ∉ before) :
    linesAfter opening (before ++ opening :: rest) = rest := by
  have skip : ∀ l ∈ before, decide (l ≠ opening) = true := by
    intro l hl
    exact decide_eq_true fun same => h (same ▸ hl)
  rw [linesAfter, List.dropWhile_append_of_pos skip, List.dropWhile_cons_of_neg (by simp),
    List.drop_one, List.tail_cons]

theorem linesAfter_of_notMem (h : opening ∉ ls) : linesAfter opening ls = [] := by
  have skip : ls.dropWhile (· ≠ opening) = [] := by
    rw [List.dropWhile_eq_nil_iff]
    intro l hl
    exact decide_eq_true fun same => h (same ▸ hl)
  rw [linesAfter, skip, List.drop_nil]

theorem linesBetween_append (first : opening ∉ before) (last : closing ∉ body) :
    linesBetween opening closing (before ++ opening :: (body ++ closing :: rest)) = body := by
  have inside : ∀ l ∈ body, decide (l ≠ closing) = true := by
    intro l hl
    exact decide_eq_true fun same => last (same ▸ hl)
  rw [linesBetween, linesAfter_append first, List.takeWhile_append_of_pos inside,
    List.takeWhile_cons_of_neg (by simp), List.append_nil]

/-- The lines up to the first one that is not continued, without the backslashes. -/
def continuedLines : List String → List String
  | [] => []
  | line :: rest =>
      match between? "" " \\" line with
      | some part => part :: continuedLines rest
      | none => [line]

theorem between?_backslash_of_isWhole (h : IsWhole line) : between? "" " \\" line = none := by
  rw [Option.eq_none_iff_forall_ne_some]
  intro part given
  rw [between?_eq_some_iff] at given
  apply h.notContinued
  simp [given]

theorem continuedLines_append {init : List String} {last : String} (h : IsWhole last) :
    continuedLines (init.map (· ++ " \\") ++ last :: rest) = init ++ [last] := by
  induction init with
  | nil => rw [List.map_nil, List.nil_append, continuedLines, between?_backslash_of_isWhole h]; rfl
  | cons line init ih =>
      have continued : between? "" " \\" (line ++ " \\") = some line :=
        between?_eq_some_iff.mpr (by simp)
      rw [List.map_cons, List.cons_append, continuedLines, continued, List.cons_append, ← ih]

end QueryHeaders.Text
