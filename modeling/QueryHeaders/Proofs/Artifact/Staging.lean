import QueryHeaders.Artifact.Writing
import QueryHeaders.Proofs.Disk.Child
import QueryHeaders.Proofs.Disk.Job

/-!
How far writing artifacts has come.

The output directory is one place, and every artifact has two places in it: its home, and the place
beside it where its text is staged. `Progress` says which texts are staged and which of them have
been moved home; staging or moving one more text preserves it. `Settled` says what is left once
everything still staged has been removed.
-/
namespace QueryHeaders.Artifact

/-! ## Names -/

theorem fileName_injective {a b : Artifact} (h : a.fileName = b.fileName) : a = b := by
  rcases a with (_ | _) | (_ | _) | _ | _ <;> rcases b with (_ | _) | (_ | _) | _ | _ <;>
    first | rfl | exact absurd h (by decide)

theorem isPlainName_fileName (a : Artifact) : isPlainName a.fileName = true := by
  rcases a with (_ | _) | (_ | _) | _ | _ <;> decide

theorem isPlainName_stagingPath (a : Artifact) : isPlainName (stagingPath a.fileName) = true := by
  rcases a with (_ | _) | (_ | _) | _ | _ <;> decide

theorem stagingPath_ne_fileName (a b : Artifact) : stagingPath a.fileName ≠ b.fileName := by
  rcases a with (_ | _) | (_ | _) | _ | _ <;> rcases b with (_ | _) | (_ | _) | _ | _ <;> decide

theorem stagingPath_injective {a b : Artifact}
    (h : stagingPath a.fileName = stagingPath b.fileName) : a = b :=
  fileName_injective (by simpa [stagingPath, ← String.toList_inj] using h)

/-- A file is staged in the directory of its destination. -/
theorem stagingPath_pathIn (directory : String) (a : Artifact) :
    stagingPath (a.pathIn directory) = Path.join directory (stagingPath a.fileName) := by
  unfold pathIn stagingPath Path.join
  repeat' split
  all_goals simp [String.append_assoc]

/-! ## Places -/

/-- Where an artifact belongs in the output directory. -/
def homeIn (d : Place) (a : Artifact) : Place := d ++ [a.fileName]

/-- Where an artifact is staged. -/
def stagedAt (d : Place) (a : Artifact) : Place := d ++ [stagingPath a.fileName]

/-- What a list of artifacts leaves at the home of one of them: its last text. -/
def finalEntry (rs : List Rendered) (a : Artifact) : Option Entry :=
  (rs.reverse.find? fun r => r.artifact = a).map fun r => .file (.text r.content)

variable {d : Place} {a b : Artifact} {rs moved : List Rendered} {r : Rendered}

theorem stagedAt_inj : stagedAt d a = stagedAt d b ↔ a = b := by
  simp only [stagedAt, List.append_cancel_left_eq, List.cons.injEq, and_true]
  exact ⟨stagingPath_injective, fun h => by rw [h]⟩

theorem homeIn_inj : homeIn d a = homeIn d b ↔ a = b := by
  simp only [homeIn, List.append_cancel_left_eq, List.cons.injEq, and_true]
  exact ⟨fileName_injective, fun h => by rw [h]⟩

theorem stagedAt_ne_homeIn : stagedAt d a ≠ homeIn d b := by
  simp only [stagedAt, homeIn, ne_eq, List.append_cancel_left_eq, List.cons.injEq, and_true]
  exact stagingPath_ne_fileName a b

theorem finalEntry_append :
    finalEntry (rs ++ [r]) a =
      if r.artifact = a then some (.file (.text r.content)) else finalEntry rs a := by
  unfold finalEntry
  rw [List.reverse_append, List.reverse_singleton, List.singleton_append, List.find?_cons]
  by_cases h : r.artifact = a <;> simp [h]

theorem finalEntry_of_mem (member : r ∈ rs) :
    ∃ text, finalEntry rs r.artifact = some (.file (.text text)) := by
  unfold finalEntry
  cases h : rs.reverse.find? fun x => x.artifact = r.artifact with
  | none => simpa using List.find?_eq_none.mp h r (by simpa using member)
  | some x => exact ⟨x.content, rfl⟩

/-! ## Progress -/

/-- `u` differs from `t` at most where `rs` are staged and where `moved` belong, and no directory
stood there. -/
structure Confined (d : Place) (rs moved : List Rendered) (t u : FileTree) : Prop where
  frame : ∀ p, (∀ r ∈ rs, p ≠ stagedAt d r.artifact) → (∀ r ∈ moved, p ≠ homeIn d r.artifact) →
    u.entry? p = t.entry? p
  freeStaged : ∀ r ∈ rs, t.entry? (stagedAt d r.artifact) ≠ some .directory
  freeHome : ∀ r ∈ moved, t.entry? (homeIn d r.artifact) ≠ some .directory

/-- The texts of `rs` have been staged and the first ones, `moved`, moved home. -/
structure Progress (d : Place) (rs moved : List Rendered) (t u : FileTree) : Prop extends
    Confined d rs moved t u where
  home : ∀ r ∈ moved, u.entry? (homeIn d r.artifact) = finalEntry rs r.artifact
  gone : ∀ r ∈ moved, u.entry? (stagedAt d r.artifact) = none
  staged : ∀ r ∈ rs, r.artifact ∉ moved.map Rendered.artifact →
    u.entry? (stagedAt d r.artifact) = finalEntry rs r.artifact

/-- The texts of `moved` have come home and nothing of `rs` is staged any more. -/
structure Settled (d : Place) (rs moved : List Rendered) (t u : FileTree) : Prop extends
    Confined d rs moved t u where
  home : ∀ r ∈ moved, u.entry? (homeIn d r.artifact) = finalEntry rs r.artifact
  clean : ∀ r ∈ rs, u.entry? (stagedAt d r.artifact) = none

variable {t u v : FileTree} {directory : String}

theorem Confined.refl (d : Place) (t : FileTree) : Confined d [] [] t t :=
  ⟨fun _ _ _ => rfl, by simp, by simp⟩

/-- No directory is overwritten, so that every directory of the tree remains. -/
theorem Confined.keepsDirectories (h : Confined d rs moved t u) : t.KeepsDirectories u := by
  intro p hp
  rw [h.frame p, hp]
  · rintro r hr rfl
    exact h.freeStaged r hr hp
  · rintro r hr rfl
    exact h.freeHome r hr hp

theorem Progress.start (d : Place) (t : FileTree) : Progress d [] [] t t :=
  ⟨.refl d t, by simp, by simp, by simp⟩

theorem Progress.stagedAt_ne_directory (h : Progress d rs moved t u) (hr : r ∈ rs) :
    u.entry? (stagedAt d r.artifact) ≠ some .directory := by
  by_cases home : r.artifact ∈ moved.map Rendered.artifact
  · obtain ⟨m, hm, same⟩ := List.mem_map.mp home
    rw [← same, h.gone m hm]
    simp
  · obtain ⟨text, final⟩ := finalEntry_of_mem hr
    rw [h.staged r hr home, final]
    simp

/-- Staging one more text. -/
theorem Progress.stage (h : Progress d rs [] t u)
    (free : u.entry? (stagedAt d r.artifact) ≠ some .directory)
    (written : v.entry? = Function.update u.entry? (stagedAt d r.artifact)
      (some (.file (.text r.content)))) :
    Progress d (rs ++ [r]) [] t v where
  home := by simp
  gone := by simp
  staged := by
    intro x hx _
    rw [written, finalEntry_append]
    by_cases same : r.artifact = x.artifact
    · rw [if_pos same, ← same, Function.update_self]
    · have hx' : x ∈ rs := by
        obtain earlier | last := List.mem_append.mp hx
        · exact earlier
        · rw [List.mem_singleton.mp last] at same
          exact absurd rfl same
      rw [if_neg same, Function.update_of_ne (by rw [Ne, stagedAt_inj]; exact Ne.symm same)]
      exact h.staged x hx' (by simp)
  frame := by
    intro p outside _
    rw [written, Function.update_of_ne (outside r (by simp))]
    exact h.frame p (fun x hx => outside x (by simp [hx])) (by simp)
  freeStaged := by
    intro x hx
    obtain earlier | last := List.mem_append.mp hx
    · exact h.freeStaged x earlier
    · rw [List.mem_singleton.mp last]
      exact fun blocked => free (h.toConfined.keepsDirectories _ blocked)
  freeHome := by simp

/-- Moving one more text home. -/
theorem Progress.move (h : Progress d rs moved t u) (hr : r ∈ rs)
    (free : u.entry? (homeIn d r.artifact) ≠ some .directory)
    (replaced : v.entry? = Function.update (Function.update u.entry? (stagedAt d r.artifact) none)
      (homeIn d r.artifact) (finalEntry rs r.artifact)) :
    Progress d rs (moved ++ [r]) t v where
  home := by
    intro x hx
    rw [replaced]
    by_cases same : x.artifact = r.artifact
    · rw [same, Function.update_self]
    · have hx' : x ∈ moved := by
        obtain earlier | last := List.mem_append.mp hx
        · exact earlier
        · rw [List.mem_singleton.mp last] at same
          exact absurd rfl same
      rw [Function.update_of_ne (by rwa [Ne, homeIn_inj]),
        Function.update_of_ne stagedAt_ne_homeIn.symm]
      exact h.home x hx'
  gone := by
    intro x hx
    rw [replaced, Function.update_of_ne stagedAt_ne_homeIn, Function.update_apply]
    split
    · rfl
    · next other =>
        obtain earlier | last := List.mem_append.mp hx
        · exact h.gone x earlier
        · rw [List.mem_singleton.mp last] at other
          exact absurd rfl other
  staged := by
    intro x hx waiting
    have other : stagedAt d x.artifact ≠ stagedAt d r.artifact := by
      rw [Ne, stagedAt_inj]
      exact fun same => waiting (by simp [same])
    rw [replaced, Function.update_of_ne stagedAt_ne_homeIn, Function.update_of_ne other]
    exact h.staged x hx fun home => waiting (by simp [home])
  frame := by
    intro p outside away
    rw [replaced, Function.update_of_ne (away r (by simp)), Function.update_of_ne (outside r hr)]
    exact h.frame p outside fun x hx => away x (by simp [hx])
  freeStaged := h.freeStaged
  freeHome := by
    intro x hx
    obtain earlier | last := List.mem_append.mp hx
    · exact h.freeHome x earlier
    · rw [List.mem_singleton.mp last]
      exact fun blocked => free (h.toConfined.keepsDirectories _ blocked)

/-- Removing whatever is still staged. -/
theorem Progress.settle (h : Progress d rs moved t u) (rest : List Rendered)
    (within : ∀ r ∈ rest, r ∈ rs)
    (covers : ∀ r ∈ rs, r.artifact ∉ moved.map Rendered.artifact → r ∈ rest)
    (cleared : ∀ p, v.entry? p =
      if p ∈ rest.map fun r => stagedAt d r.artifact then none else u.entry? p) :
    Settled d rs moved t v where
  freeStaged := h.freeStaged
  freeHome := h.freeHome
  home := by
    intro r hr
    have away : homeIn d r.artifact ∉ rest.map fun r => stagedAt d r.artifact := by
      simp [stagedAt_ne_homeIn]
    rw [cleared, if_neg away, h.home r hr]
  clean := by
    intro r hr
    rw [cleared]
    split
    · rfl
    · next kept =>
        by_cases came : r.artifact ∈ moved.map Rendered.artifact
        · obtain ⟨m, hm, same⟩ := List.mem_map.mp came
          rw [← same, h.gone m hm]
        · exact absurd (List.mem_map_of_mem (covers r hr came)) kept
  frame := by
    intro p outside away
    have apart : p ∉ rest.map fun r => stagedAt d r.artifact := by
      intro member
      obtain ⟨r, hr, same⟩ := List.mem_map.mp member
      exact outside r (within r hr) same.symm
    rw [cleared, if_neg apart]
    exact h.frame p outside away

end QueryHeaders.Artifact
