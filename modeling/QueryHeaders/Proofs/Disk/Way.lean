import QueryHeaders.Proofs.Disk.Child

/-!
The way of a path.

There are no links in a tree, so that a path names one place whatever stands there, and a walk that
succeeds leads to that place. The way of a directory is made of the places where it is made step by
step. Only a path that goes up can have a place on its way that is not above the place it names.
-/
namespace QueryHeaders

namespace Path

variable {here p : Place} {steps : List String} {directory path n : String}

/-- The place that steps name. -/
def placeFrom (here : Place) : List String → Place
  | [] => here
  | step :: rest =>
      if step = "" ∨ step = "." then placeFrom here rest
      else if step = ".." then placeFrom here.dropLast rest
      else placeFrom (here ++ [step]) rest

/-- The place that a path names in a tree. -/
def place (path : String) : Place := placeFrom [] (Path.steps path)

/-- The places where steps have a directory made; a name that is closed by a dot is not one. -/
def wayFrom (here : Place) : List String → List Place
  | [] => []
  | step :: rest =>
      if step = "" ∨ step = "." then wayFrom here rest
      else if step = ".." then wayFrom here.dropLast rest
      else if endsInDot rest then []
      else (here ++ [step]) :: wayFrom (here ++ [step]) rest

/-- The places on the way of a directory, in the order in which they are made. -/
def way (directory : String) : List Place := wayFrom [] (Path.steps directory)

theorem placeFrom_append (xs ys : List String) :
    placeFrom here (xs ++ ys) = placeFrom (placeFrom here xs) ys := by
  induction xs generalizing here with
  | nil => rfl
  | cons step rest ih =>
      rw [List.cons_append, placeFrom, placeFrom]
      simp only [ih]
      repeat' split
      all_goals rfl

theorem along_of_endsInDot (closed : endsInDot steps = true) :
    placeFrom here steps = here ∧ wayFrom here steps = [] := by
  have stay : ∀ step ∈ steps, step = "" ∨ step = "." := by
    simp only [endsInDot, Bool.and_eq_true, List.all_eq_true, decide_eq_true_eq] at closed
    exact closed.1
  clear closed
  induction steps with
  | nil => exact ⟨rfl, rfl⟩
  | cons step rest ih =>
      have first := stay step (by simp)
      rw [placeFrom, wayFrom, if_pos first, if_pos first]
      exact ih fun other member => stay other (List.mem_cons_of_mem step member)

/-- Where a name comes first, it is on the way unless it is closed by a dot. -/
theorem mem_wayFrom_name {step : String} {rest : List String} (moves : ¬ (step = "" ∨ step = "."))
    (down : step ≠ "..") :
    p ∈ wayFrom here (step :: rest) ↔
      endsInDot rest = false ∧ p = here ++ [step] ∨ p ∈ wayFrom (here ++ [step]) rest := by
  rw [wayFrom, if_neg moves, if_neg down]
  by_cases closed : endsInDot rest = true
  · rw [if_pos closed, closed, (along_of_endsInDot closed).2]
    simp
  · rw [if_neg closed, List.mem_cons, and_iff_right (by simpa using closed)]

theorem noSlash_of_mem_steps {step : String} (h : step ∈ Path.steps path) : '/' ∉ step.toList := by
  obtain ⟨piece, member, rfl⟩ := List.mem_map.mp h
  simpa using Text.notMem_of_mem_pieces member

theorem placeFrom_name (plain : isPlainName n = true) : placeFrom here [n] = here ++ [n] := by
  obtain ⟨named, dot, dots, _⟩ := FileTree.isPlainName_iff.mp plain
  simp [placeFrom, named, dot, dots]

theorem place_join (plain : isPlainName n = true) :
    place (join directory n) = place directory ++ [n] := by
  obtain ⟨_, _, _, noSlash⟩ := FileTree.isPlainName_iff.mp plain
  by_cases given : directory = ""
  · subst given
    rw [join, if_pos rfl, place, steps_of_noSlash noSlash, placeFrom_name plain]
    rfl
  · obtain ⟨before, joined, same | ends⟩ := steps_join given noSlash
    · rw [place, place, joined, same, placeFrom_append, placeFrom_name plain]
    · have closing (p : Place) : placeFrom p [""] = p := by
        simp [placeFrom]
      rw [place, place, joined, ends, placeFrom_append, placeFrom_append, placeFrom_name plain,
        closing]

theorem prefix_placeFrom (down : ".." ∉ steps) : here <+: placeFrom here steps := by
  induction steps generalizing here with
  | nil => exact List.prefix_refl here
  | cons step rest ih =>
      have onward : ".." ∉ rest := fun later => down (List.mem_cons_of_mem step later)
      rw [placeFrom]
      by_cases stays : step = "" ∨ step = "."
      · rw [if_pos stays]
        exact ih onward
      · rw [if_neg stays, if_neg fun up => down (by simp [up])]
        exact (List.prefix_append here [step]).trans (ih onward)

/-- A way that does not go up passes only what is above the place that it leads to. -/
theorem prefix_of_mem_wayFrom (down : ".." ∉ steps) (member : p ∈ wayFrom here steps) :
    p <+: placeFrom here steps := by
  induction steps generalizing here with
  | nil => simp [wayFrom] at member
  | cons step rest ih =>
      have onward : ".." ∉ rest := fun later => down (List.mem_cons_of_mem step later)
      rw [placeFrom]
      by_cases stays : step = "" ∨ step = "."
      · rw [wayFrom, if_pos stays] at member
        rw [if_pos stays]
        exact ih onward member
      · have notUp : step ≠ ".." := fun up => down (by simp [up])
        rw [if_neg stays, if_neg notUp]
        obtain ⟨_, rfl⟩ | later := (mem_wayFrom_name stays notUp).mp member
        · exact prefix_placeFrom onward
        · exact ih onward later

/-- What is in a directory is on the way of the directory only if that way goes up. -/
theorem child_notMem_way (down : ".." ∉ Path.steps directory) :
    place directory ++ [n] ∉ way directory := by
  intro member
  have above : place directory ++ [n] <+: place directory := prefix_of_mem_wayFrom down member
  have short := above.length_le
  rw [List.length_append, List.length_singleton] at short
  omega

end Path

namespace FileTree

variable {t : FileTree} {here p d : Place} {steps : List String} {path directory : String}

theorem placeFrom_of_walk (h : t.walk here steps = .ok p) : Path.placeFrom here steps = p := by
  induction steps generalizing here with
  | nil =>
      cases h
      rfl
  | cons step rest ih =>
      rw [walk] at h
      rw [Path.placeFrom]
      split at h
      · cases h
      · cases h
      · split at h
        · next stays => rw [if_pos stays, ih h]
        · next moves =>
            rw [if_neg moves]
            split at h
            · next up => rw [if_pos up, ih h]
            · next onward => rw [if_neg onward, ih h]

theorem place_of_locate (h : t.locate path = .ok p) : Path.place path = p := by
  unfold locate at h
  split at h
  · cases h
  · exact placeFrom_of_walk h

theorem Opens.place (h : t.Opens directory d) : Path.place directory = d := by
  have plain : isPlainName "x" = true := by decide
  have named := place_of_locate (h.locate "x" plain)
  rw [Path.place_join plain] at named
  exact List.append_cancel_right named

end FileTree

end QueryHeaders
