import QueryHeaders.Proofs.Disk.Walk

/-!
Names in a directory that has been made.

Once a directory is made, the path of every plain name in it leads to one place below the directory,
and an operation on that path is an operation on that place. A file is written unless a directory
stands there, and a file that stands there can be moved and removed.
-/
namespace QueryHeaders

namespace Path

/-- The steps of a name in a directory are those of the directory, an empty last step of which is
dropped, and the name. -/
theorem steps_join {directory name : String} (given : directory ≠ "") (plain : '/' ∉ name.toList) :
    ∃ before, steps (join directory name) = before ++ [name] ∧
      (steps directory = before ∨ steps directory = before ++ [""]) := by
  unfold join
  rw [if_neg given]
  split
  · next ends =>
      obtain ⟨init, hinit⟩ := List.getLast?_eq_some_iff.mp ends
      refine ⟨(Text.pieces '/' init).map String.ofList, ?_, .inr ?_⟩
      · simp [steps, hinit, Text.pieces_append, Text.pieces_of_notMem plain]
      · simp [steps, hinit, Text.pieces_append, Text.pieces]
  · refine ⟨steps directory, ?_, .inl rfl⟩
    simp [steps, Text.pieces_append, Text.pieces_of_notMem plain]

theorem join_ne_empty {directory name : String} (h : name ≠ "") : join directory name ≠ "" := by
  unfold join
  split
  · exact h
  · split <;> simp [h]

theorem steps_of_noSlash {name : String} (plain : '/' ∉ name.toList) : steps name = [name] := by
  simp [steps, Text.pieces_of_notMem plain]

theorem endsInDot_append_empty (steps : List String) :
    endsInDot (steps ++ [""]) = endsInDot steps := by
  simp [endsInDot]

end Path

namespace FileTree

variable {t u : FileTree} {here d : Place} {directory n m : String}

theorem isPlainName_iff :
    isPlainName n = true ↔ n ≠ "" ∧ n ≠ "." ∧ n ≠ ".." ∧ '/' ∉ n.toList := by
  simp [isPlainName, and_assoc]

theorem walk_name (start : t.entry? d = some .directory) (plain : isPlainName n = true) :
    t.walk d [n] = .ok (d ++ [n]) := by
  obtain ⟨named, dot, dots, _⟩ := isPlainName_iff.mp plain
  simp [walk, start, named, dot, dots]

theorem walk_empty (h : t.walk here [""] = .ok d) : here = d := by
  rw [walk] at h
  cases he : t.entry? here with
  | none => simp [he] at h
  | some e =>
      cases e with
      | file c => simp [he] at h
      | directory => simpa [he, walk] using h

/-- A directory whose names can be reached. -/
structure Opens (t : FileTree) (directory : String) (d : Place) : Prop where
  isDirectory : t.entry? d = some .directory
  locate : ∀ n, isPlainName n = true → t.locate (Path.join directory n) = .ok (d ++ [n])

theorem Opens.mono (h : t.Opens directory d) (keeps : KeepsDirectories t u) :
    u.Opens directory d :=
  ⟨keeps d h.isDirectory, fun n plain => locate_mono keeps (h.locate n plain)⟩

theorem opens_of_locate (located : t.locate directory = .ok d)
    (standing : t.entry? d = some .directory) : t.Opens directory d := by
  rw [locate] at located
  split at located
  · cases located
  · next given =>
      refine ⟨standing, fun n plain => ?_⟩
      obtain ⟨named, _, _, noSlash⟩ := isPlainName_iff.mp plain
      obtain ⟨before, joined, same | ends⟩ := Path.steps_join given noSlash
      · rw [same] at located
        simp [locate, Path.join_ne_empty named, joined, walk_append, located, Except.bind,
          walk_name standing plain]
      · rw [ends, walk_append] at located
        cases hw : t.walk [] before with
        | error f => simp [hw, Except.bind] at located
        | ok p =>
            have hp : p = d := walk_empty (by simpa [hw, Except.bind] using located)
            simp [locate, Path.join_ne_empty named, joined, walk_append, hw, hp, Except.bind,
              walk_name standing plain]

theorem opens_of_makeDirectories (made : t.makeDirectories directory = (.ok (), u)) :
    ∃ d, u.Opens directory d := by
  by_cases none : directory = ""
  · subst none
    refine ⟨[], rfl, fun n plain => ?_⟩
    obtain ⟨named, _, _, noSlash⟩ := isPlainName_iff.mp plain
    have walked : u.walk [] [n] = .ok [n] := walk_name rfl plain
    simp [Path.join, locate, named, Path.steps_of_noSlash noSlash, walked]
  · obtain ⟨d, walked, standing⟩ := walk_makeAlong rfl made
    have located : u.locate directory = .ok d := by
      rw [locate, if_neg none, walked]
    exact ⟨d, opens_of_locate located standing⟩

/-! ## What stood at a name before -/

/-- What stands where steps lead. -/
def standing? (t : FileTree) (here : Place) (steps : List String) : Option Entry :=
  match t.walk here steps with
  | .ok p => t.entry? p
  | .error _ => none

theorem standing?_stay {step : String} {rest : List String}
    (start : t.entry? here = some .directory) (stays : step = "" ∨ step = ".") :
    t.standing? here (step :: rest) = t.standing? here rest := by
  simp [standing?, walk, start, stays]

theorem standing?_into {step : String} {rest : List String}
    (start : t.entry? here = some .directory) (moves : ¬ (step = "" ∨ step = "."))
    (down : step ≠ "..") :
    t.standing? here (step :: rest) = t.standing? (here ++ [step]) rest := by
  simp [standing?, walk, start, moves, down]

theorem standing?_of_none {rest : List String} (h : t.entry? here = none) (more : rest ≠ []) :
    t.standing? here rest = none := by
  obtain ⟨step, rest, rfl⟩ := List.exists_cons_of_ne_nil more
  simp [standing?, walk, h]

/-- In an empty directory no name leads to anything. -/
theorem standing?_of_empty {steps : List String} (start : t.entry? here = some .directory)
    (empty : ∀ s, s ≠ [] → t.entry? (here ++ s) = none) (down : ".." ∉ steps)
    (plain : isPlainName n = true) : t.standing? here (steps ++ [n]) = none := by
  induction steps with
  | nil =>
      have walked := walk_name start plain
      simp [standing?, walked, empty [n]]
  | cons step rest ih =>
      have onward := ih fun member => down (List.mem_cons_of_mem step member)
      by_cases stays : step = "" ∨ step = "."
      · rwa [List.cons_append, standing?_stay start stays]
      · have hdown : step ≠ ".." := fun up => down (by simp [up])
        rw [List.cons_append, standing?_into start stays hdown]
        exact standing?_of_none (empty [step] (by simp)) (by simp)

/-- Directories that are made without going up hold nothing at a name that was not there before. -/
theorem standing?_makeAlong {begun : Bool} {steps : List String}
    (start : t.entry? here = some .directory) (down : ".." ∉ steps)
    (plain : isPlainName n = true) :
    (t.makeAlong begun here steps).2.standing? here (steps ++ [n]) =
      t.standing? here (steps ++ [n]) := by
  induction steps generalizing t begun here with
  | nil => rfl
  | cons step rest ih =>
      have onward : ".." ∉ rest := fun member => down (List.mem_cons_of_mem step member)
      have kept : entry? (t.makeAlong begun here (step :: rest)).2 here = some .directory :=
        (onlyAddsDirectories_makeAlong t begun here _).keeps start
      rw [makeAlong] at kept ⊢
      rw [List.cons_append]
      by_cases stays : step = "" ∨ step = "."
      · simp only [stays, if_true] at kept ⊢
        rw [standing?_stay kept stays, standing?_stay start stays]
        exact ih start onward
      · have hdown : step ≠ ".." := fun up => down (by simp [up])
        simp only [stays, hdown, if_false] at kept ⊢
        rw [standing?_into kept stays hdown, standing?_into start stays hdown]
        split
        · next standing => exact ih standing onward
        · rfl
        · next free =>
            split
            · next admits =>
                -- The directory is new, so that nothing can be below it before or after.
                have made : entry? (t.put (here ++ [step]) .directory admits.1) (here ++ [step]) =
                    some .directory := by
                  rw [entry?_put, Function.update_self]
                rw [ih made onward, standing?_of_none free (by simp)]
                refine standing?_of_empty made (fun s hs => ?_) onward plain
                rw [entry?_put, Function.update_of_ne (by simpa using hs)]
                cases below : t.entry? (here ++ [step] ++ s) with
                | none => rfl
                | some e =>
                    have := entry?_above s below hs
                    rw [free] at this
                    cases this
            · rfl

theorem faultAtFile_append_empty (begun : Bool) (rest : List String) :
    faultAtFile begun (rest ++ [""]) = faultAtFile begun rest := by
  simp [faultAtFile, Path.endsInDot_append_empty]

theorem makeAlong_append_empty (t : FileTree) (begun : Bool) (here : Place)
    (steps : List String) :
    t.makeAlong begun here (steps ++ [""]) = t.makeAlong begun here steps := by
  induction steps generalizing t begun here with
  | nil => simp [makeAlong]
  | cons step rest ih =>
      rw [List.cons_append, makeAlong, makeAlong]
      simp only [ih, Path.endsInDot_append_empty, faultAtFile_append_empty]

theorem find?_eq_standing? (t : FileTree) {path : String} (named : path ≠ "") :
    t.find? path = t.standing? [] (Path.steps path) := by
  have located : t.locate path = t.walk [] (Path.steps path) := by
    rw [locate, if_neg named]
  cases walked : t.walk [] (Path.steps path) with
  | ok p => simp only [find?, standing?, located, walked]
  | error e => simp only [find?, standing?, located, walked]

/-- Making a directory without going up changes what no name in it leads to. -/
theorem find?_makeDirectories (t : FileTree) (down : ".." ∉ Path.steps directory)
    (plain : isPlainName n = true) :
    (t.makeDirectories directory).2.find? (Path.join directory n) =
      t.find? (Path.join directory n) := by
  by_cases none : directory = ""
  · subst none
    rfl
  · obtain ⟨named, _, _, noSlash⟩ := isPlainName_iff.mp plain
    rw [find?_eq_standing? _ (Path.join_ne_empty named),
      find?_eq_standing? _ (Path.join_ne_empty named), makeDirectories]
    obtain ⟨before, joined, same | ends⟩ := Path.steps_join none noSlash
    · rw [joined, same]
      exact standing?_makeAlong rfl (same ▸ down) plain
    · rw [joined, ends, makeAlong_append_empty]
      exact standing?_makeAlong rfl (fun up => down (by simp [ends, up])) plain

/-! ## Operations on a name -/

theorem write_child (h : t.Opens directory d) (plain : isPlainName n = true) (c : Content) :
    t.entry? (d ++ [n]) = some .directory ∧
        t.write (Path.join directory n) c = (.error .isDirectory, t) ∨
      t.entry? (d ++ [n]) ≠ some .directory ∧
        ∃ u, t.write (Path.join directory n) c = (.ok (), u) ∧
          u.entry? = Function.update t.entry? (d ++ [n]) (some (.file c)) := by
  unfold write
  simp only [h.locate n plain]
  by_cases blocked : t.entry? (d ++ [n]) = some .directory
  · have refused : ¬ t.Admits (d ++ [n]) := fun admits => by
      have := admits.2
      simp [blocked, Entry.isDirectory] at this
    refine .inl ⟨blocked, ?_⟩
    simp [refused, blocked, Entry.isDirectory]
  · have admits := admits_child h.isDirectory plain blocked
    refine .inr ⟨blocked, t.put (d ++ [n]) (.file c) admits, ?_, entry?_put admits⟩
    simp [admits]

theorem child_ne_parent : d ++ [n] ≠ d := by simp

/-- A file is moved to another name unless a directory stands there. -/
theorem replace_child (h : t.Opens directory d) (plainN : isPlainName n = true)
    (plainM : isPlainName m = true) (other : n ≠ m) {c : Content}
    (source : t.entry? (d ++ [n]) = some (.file c)) :
    t.entry? (d ++ [m]) = some .directory ∧
        t.replace (Path.join directory n) (Path.join directory m) = (.error .isDirectory, t) ∨
      t.entry? (d ++ [m]) ≠ some .directory ∧
        ∃ u, t.replace (Path.join directory n) (Path.join directory m) = (.ok (), u) ∧
          u.entry? = Function.update (Function.update t.entry? (d ++ [n]) none) (d ++ [m])
            (some (.file c)) := by
  have moved := entry?_remove_file source
  have target : entry? (t.remove (d ++ [n])) (d ++ [m]) = t.entry? (d ++ [m]) := by
    rw [moved, Function.update_of_ne (by simpa using other.symm)]
  have parent : entry? (t.remove (d ++ [n])) d = some .directory := by
    rw [moved, Function.update_of_ne child_ne_parent.symm, h.isDirectory]
  unfold replace
  simp only [h.locate n plainN, h.locate m plainM, source]
  by_cases blocked : t.entry? (d ++ [m]) = some .directory
  · have refused : ¬ (t.remove (d ++ [n])).Admits (d ++ [m]) := fun admits => by
      have := admits.2
      simp [target, blocked, Entry.isDirectory] at this
    refine .inl ⟨blocked, ?_⟩
    simp [refused, blocked, Entry.isDirectory]
  · have admits := admits_child parent plainM (by rwa [target])
    refine .inr ⟨blocked, (t.remove (d ++ [n])).put (d ++ [m]) (.file c) admits, ?_, ?_⟩
    · simp [admits]
    · rw [entry?_put, moved]

/-- Nothing is moved where no file stands. -/
theorem replace_child_absent (h : t.Opens directory d) (plainN : isPlainName n = true)
    (plainM : isPlainName m = true) (absent : t.entry? (d ++ [n]) = none) :
    t.replace (Path.join directory n) (Path.join directory m) = (.error .notFound, t) := by
  unfold replace
  simp only [h.locate n plainN, h.locate m plainM, absent]

/-- Removing a name that no directory has leaves nothing there. -/
theorem removeFile_child (h : t.Opens directory d) (plain : isPlainName n = true)
    (free : t.entry? (d ++ [n]) ≠ some .directory) :
    entry? (t.removeFile (Path.join directory n)).2 =
      Function.update t.entry? (d ++ [n]) none := by
  unfold removeFile
  simp only [h.locate n plain]
  cases standing : t.entry? (d ++ [n]) with
  | none => exact (Function.update_eq_self_iff.mpr standing.symm).symm
  | some e =>
      cases e with
      | file c => exact entry?_remove_file standing
      | directory => exact absurd standing free

end FileTree

end QueryHeaders
