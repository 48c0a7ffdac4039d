import QueryHeaders.Disk.Access
import QueryHeaders.Proofs.Disk.Place
import QueryHeaders.Proofs.Text.Pieces

/-!
Where paths lead as a tree changes.

A walk passes through directories only, so that it leads to the same place in every tree that still
has them. Making a directory only adds directories; afterwards every plain name in it can be
reached, and what stands at that name is what stood there before, unless the path to the directory
goes up somewhere.
-/
namespace QueryHeaders.FileTree

variable {t u v : FileTree} {here p d : Place} {path directory name : String}

/-! ## Trees that keep directories -/

def KeepsDirectories (t u : FileTree) : Prop :=
  ∀ p, t.entry? p = some .directory → u.entry? p = some .directory

theorem KeepsDirectories.of_update {x : Option Entry} (free : t.entry? p ≠ some .directory)
    (h : u.entry? = Function.update t.entry? p x) : KeepsDirectories t u := by
  intro q hq
  have hne : q ≠ p := by
    rintro rfl
    exact free hq
  rw [h, Function.update_of_ne hne, hq]

theorem walk_mono (keeps : KeepsDirectories t u) {steps : List String}
    (h : t.walk here steps = .ok p) : u.walk here steps = .ok p := by
  induction steps generalizing here with
  | nil => exact h
  | cons step rest ih =>
      rw [walk] at h ⊢
      cases he : t.entry? here with
      | none => simp [he] at h
      | some e =>
          cases e with
          | file c => simp [he] at h
          | directory =>
              simp only [he, keeps here he] at h ⊢
              by_cases stays : step = "" ∨ step = "."
              · simp only [stays, if_true] at h ⊢
                exact ih h
              · simp only [stays, if_false] at h ⊢
                by_cases up : step = ".."
                · simp only [up, if_true] at h ⊢
                  exact ih h
                · simp only [up, if_false] at h ⊢
                  exact ih h

theorem locate_mono (keeps : KeepsDirectories t u) (h : t.locate path = .ok p) :
    u.locate path = .ok p := by
  unfold locate at h ⊢
  split at h
  · cases h
  · next given =>
      rw [if_neg given]
      exact walk_mono keeps h

theorem find?_of_locate (h : t.locate path = .ok p) : t.find? path = t.entry? p := by
  rw [find?, h]

theorem walk_append (xs ys : List String) :
    t.walk here (xs ++ ys) = (t.walk here xs).bind fun p => t.walk p ys := by
  induction xs generalizing here with
  | nil => rfl
  | cons step rest ih =>
      rw [List.cons_append, walk, walk]
      cases t.entry? here with
      | none => rfl
      | some e =>
          cases e with
          | file c => rfl
          | directory =>
              simp only [ih]
              repeat' split
              all_goals rfl

/-! ## Making directories -/

/-- Nothing that stood anywhere has changed, and what is new is a directory. -/
def OnlyAddsDirectories (t u : FileTree) : Prop :=
  ∀ p, u.entry? p = t.entry? p ∨ t.entry? p = none ∧ u.entry? p = some .directory

theorem OnlyAddsDirectories.keeps (h : OnlyAddsDirectories t u) {e : Entry}
    (hp : t.entry? p = some e) : u.entry? p = some e := by
  obtain same | ⟨free, _⟩ := h p
  · rw [same, hp]
  · rw [hp] at free
    cases free

theorem OnlyAddsDirectories.keepsDirectories (h : OnlyAddsDirectories t u) :
    KeepsDirectories t u :=
  fun _ => h.keeps

theorem OnlyAddsDirectories.find? (h : OnlyAddsDirectories t u) {e : Entry}
    (found : t.find? path = some e) : u.find? path = some e := by
  unfold FileTree.find? at found
  split at found
  · next p located =>
      rw [find?_of_locate (locate_mono h.keepsDirectories located)]
      exact h.keeps found
  · cases found

theorem OnlyAddsDirectories.put (free : t.entry? p = none) (admits : t.Admits p)
    (h : OnlyAddsDirectories (t.put p .directory admits) u) : OnlyAddsDirectories t u := by
  intro q
  have hq := h q
  rw [entry?_put] at hq
  by_cases same : q = p
  · subst same
    rw [Function.update_self] at hq
    exact .inr ⟨free, by simpa using hq⟩
  · rwa [Function.update_of_ne same] at hq

theorem onlyAddsDirectories_makeAlong (t : FileTree) (begun : Bool) (here : Place)
    (steps : List String) : OnlyAddsDirectories t (t.makeAlong begun here steps).2 := by
  induction steps generalizing t begun here with
  | nil => exact fun p => .inl rfl
  | cons step rest ih =>
      rw [makeAlong]
      by_cases stays : step = "" ∨ step = "."
      · simpa only [stays, if_true] using ih t begun here
      · simp only [stays, if_false]
        by_cases up : step = ".."
        · simpa only [up, if_true] using ih t begun here.dropLast
        · simp only [up, if_false]
          split
          · exact ih t begun (here ++ [step])
          · exact fun p => .inl rfl
          · next free =>
              split
              · next admits => exact (ih _ _ _).put free admits.1
              · exact fun p => .inl rfl

theorem onlyAddsDirectories_makeDirectories (t : FileTree) (directory : String) :
    OnlyAddsDirectories t (t.makeDirectories directory).2 :=
  onlyAddsDirectories_makeAlong t false [] _

/-- The steps along which directories were made lead to a directory. -/
theorem walk_makeAlong {begun : Bool} {steps : List String}
    (start : t.entry? here = some .directory)
    (made : t.makeAlong begun here steps = (.ok (), u)) :
    ∃ d, u.walk here steps = .ok d ∧ u.entry? d = some .directory := by
  induction steps generalizing t begun here with
  | nil =>
      cases made
      exact ⟨here, rfl, start⟩
  | cons step rest ih =>
      have kept : u.entry? here = some .directory := by
        have adds := onlyAddsDirectories_makeAlong t begun here (step :: rest)
        rw [made] at adds
        exact adds.keeps start
      rw [makeAlong] at made
      rw [walk, kept]
      by_cases stays : step = "" ∨ step = "."
      · simp only [stays, if_true] at made ⊢
        exact ih start made
      · simp only [stays, if_false] at made ⊢
        by_cases up : step = ".."
        · simp only [up, if_true] at made ⊢
          exact ih (entry?_up start) made
        · simp only [up, if_false] at made ⊢
          split at made
          · next standing => exact ih standing made
          · simp at made
          · split at made
            · next admits =>
                refine ih ?_ made
                rw [entry?_put, Function.update_self]
            · simp at made

end QueryHeaders.FileTree
