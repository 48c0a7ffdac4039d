import QueryHeaders.Artifact.Header
import QueryHeaders.Proofs.Text.Splicing

/-!
Continued lines: each but the last ends in a blank and a backslash, and a compiler reads them as one
line, with the blanks between them.
-/
namespace QueryHeaders.Header

open Text

variable {ls : List String}

theorem continued_eq (init : List String) (last : String) :
    continued (init ++ [last]) = init.map (· ++ " \\") ++ [last] := by
  induction init with
  | nil => rfl
  | cons line rest ih =>
      rw [List.cons_append, continued, ih]
      · rfl
      · simp

theorem splice_continued (given : ls ≠ []) (h : ∀ l ∈ ls, IsWhole l) (rest : List Char) :
    splice ((ofLines (continued ls)).toList ++ rest) =
      (ofLines [" ".intercalate ls]).toList ++ splice rest := by
  induction ls with
  | nil => exact absurd rfl given
  | cons line ls ih =>
      cases ls with
      | nil =>
          rw [String.intercalate_singleton]
          exact splice_ofLines h rest
      | cons second ls =>
          obtain ⟨whole, others⟩ := List.forall_mem_cons.mp h
          have spaced : '\n' ∉ line.toList ++ [' '] := by
            simpa using whole.oneLine
          have step := Text.splice_continued spaced
            ((ofLines (continued (second :: ls))).toList ++ rest)
          rw [ih (by simp) others] at step
          have unfolded : continued (line :: second :: ls) =
              (line ++ " \\") :: continued (second :: ls) := rfl
          rw [unfolded, toList_ofLines, List.flatMap_cons, ← toList_ofLines]
          simpa [toList_ofLines] using step

theorem oneLine_continued (h : ∀ l ∈ ls, IsWhole l) : ∀ l ∈ continued ls, '\n' ∉ l.toList := by
  obtain rfl | ⟨init, last, rfl⟩ := List.eq_nil_or_concat ls
  · simp [continued]
  · rw [List.concat_eq_append] at h ⊢
    rw [continued_eq]
    intro l hl
    obtain before | same := List.mem_append.mp hl
    · obtain ⟨line, hline, rfl⟩ := List.mem_map.mp before
      simpa using (h line (List.mem_append_left _ hline)).oneLine
    · cases List.mem_singleton.mp same
      exact (h last (by simp)).oneLine

theorem hasControl_continued (h : ∀ l ∈ ls, hasControl l = false) :
    ∀ l ∈ continued ls, hasControl l = false := by
  obtain rfl | ⟨init, last, rfl⟩ := List.eq_nil_or_concat ls
  · simp [continued]
  · rw [List.concat_eq_append] at h ⊢
    rw [continued_eq, List.forall_mem_append, List.forall_mem_map]
    obtain ⟨before, final⟩ := List.forall_mem_append.mp h
    refine ⟨fun l hl => ?_, final⟩
    rw [hasControl_append, before l hl]
    rfl

end QueryHeaders.Header
