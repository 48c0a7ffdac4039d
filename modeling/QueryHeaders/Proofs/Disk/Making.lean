import QueryHeaders.Proofs.Disk.Way

/-!
Making directories.

A free place on the way of a directory becomes a directory, a file on the way ends it, and nothing
else changes. Whether a directory can be made is therefore known from the tree as it was.
-/
namespace QueryHeaders.FileTree

variable {t u : FileTree} {here p : Place} {begun : Bool} {steps : List String} {directory : String}

/-- A place is as it was, unless it was free and a directory has been made there on the way. -/
def KeptOrMade (way : List Place) (t u : FileTree) (p : Place) : Prop :=
  u.entry? p = t.entry? p ∨ p ∈ way ∧ t.entry? p = none ∧ u.entry? p = some .directory

theorem KeptOrMade.mono {way wider : List Place} (h : KeptOrMade way t u p) (sub : way ⊆ wider) :
    KeptOrMade wider t u p := by
  obtain same | ⟨member, made⟩ := h
  · exact .inl same
  · exact .inr ⟨sub member, made⟩

theorem keptOrMade_makeAlong (t : FileTree) (begun : Bool) (here : Place) (steps : List String)
    (p : Place) : KeptOrMade (Path.wayFrom here steps) t (t.makeAlong begun here steps).2 p := by
  fun_induction makeAlong t begun here steps with
  | case1 | case5 | case7 => exact .inl rfl
  | case2 t begun here step rest stays ih => rwa [Path.wayFrom, if_pos stays]
  | case3 t begun here rest moves ih => rwa [Path.wayFrom, if_neg moves, if_pos rfl]
  | case4 t begun here step rest moves down next standing ih =>
      exact ih.mono fun q later => (Path.mem_wayFrom_name moves down).mpr (.inr later)
  | case6 t begun here step rest moves down next free admits ih =>
      rw [KeptOrMade, entry?_put] at ih
      by_cases first : p = next
      · subst first
        rw [Function.update_self] at ih
        refine .inr ⟨(Path.mem_wayFrom_name moves down).mpr (.inl ⟨admits.2, rfl⟩), free, ?_⟩
        simpa using ih
      · rw [Function.update_of_ne first] at ih
        exact KeptOrMade.mono ih fun q later =>
          (Path.mem_wayFrom_name moves down).mpr (.inr later)

theorem keptOrMade_makeDirectories (t : FileTree) (directory : String) (p : Place) :
    KeptOrMade (Path.way directory) t (t.makeDirectories directory).2 p :=
  keptOrMade_makeAlong t false [] _ p

theorem keptOrMade_of_made {result : Except Fault Unit}
    (made : t.makeDirectories directory = (result, u)) (p : Place) :
    KeptOrMade (Path.way directory) t u p := by
  have kept := keptOrMade_makeDirectories t directory p
  rwa [made] at kept

/-- Steps lead to a directory, or to one that can be made because no file stands on the way. -/
def MakeableFrom (t : FileTree) (here : Place) (steps : List String) : Prop :=
  (∀ p ∈ Path.wayFrom here steps, ∀ c, t.entry? p ≠ some (.file c)) ∧
    (t.entry? (Path.placeFrom here steps) = some .directory ∨
      Path.placeFrom here steps ∈ Path.wayFrom here steps)

/-- What follows a name sees the tree as if the name were a directory already, unless it is a
file. -/
theorem makeableFrom_name {step : String} {rest : List String}
    (moves : ¬ (step = "" ∨ step = ".")) (down : step ≠ "..")
    (goesOn : Path.endsInDot rest = false) (noFile : ∀ c, t.entry? (here ++ [step]) ≠ some (.file c))
    (made : u.entry? = Function.update t.entry? (here ++ [step]) (some .directory)) :
    u.MakeableFrom (here ++ [step]) rest ↔ t.MakeableFrom here (step :: rest) := by
  have files (p : Place) (c : Content) :
      u.entry? p = some (.file c) ↔ t.entry? p = some (.file c) := by
    rw [made, Function.update_apply]
    split
    · next same =>
        rw [same]
        exact iff_of_false (by simp) (noFile c)
    · rfl
  have directories (p : Place) :
      u.entry? p = some .directory ↔ t.entry? p = some .directory ∨ p = here ++ [step] := by
    rw [made, Function.update_apply]
    split
    · next same => exact iff_of_true rfl (.inr same)
    · next other => exact (or_iff_left other).symm
  unfold MakeableFrom
  rw [Path.placeFrom, if_neg moves, if_neg down, Path.wayFrom, if_neg moves, if_neg down,
    if_neg (by simp [goesOn]), List.forall_mem_cons, and_iff_right noFile]
  simp only [List.mem_cons, ne_eq, files, directories, or_assoc]

/-- Where the name is closed by a dot, the directory must be there. -/
theorem makeableFrom_closed {step : String} {rest : List String}
    (moves : ¬ (step = "" ∨ step = ".")) (down : step ≠ "..")
    (closed : Path.endsInDot rest = true) :
    t.MakeableFrom here (step :: rest) ↔ t.entry? (here ++ [step]) = some .directory := by
  unfold MakeableFrom
  rw [Path.placeFrom, if_neg moves, if_neg down, Path.wayFrom, if_neg moves, if_neg down,
    if_pos closed, (Path.along_of_endsInDot closed).1]
  simp

theorem makeAlong_eq_ok_iff (start : t.entry? here = some .directory)
    (noSlash : ∀ step ∈ steps, '/' ∉ step.toList) :
    (∃ u, t.makeAlong begun here steps = (.ok (), u)) ↔ t.MakeableFrom here steps := by
  fun_induction makeAlong t begun here steps with
  | case1 t begun here => exact iff_of_true ⟨t, rfl⟩ ⟨by simp [Path.wayFrom], .inl start⟩
  | case2 t begun here step rest stays ih =>
      rw [MakeableFrom, Path.placeFrom, if_pos stays, Path.wayFrom, if_pos stays]
      exact ih start fun other member => noSlash other (List.mem_cons_of_mem step member)
  | case3 t begun here rest moves ih =>
      rw [MakeableFrom, Path.placeFrom, if_neg moves, if_pos rfl, Path.wayFrom, if_neg moves,
        if_pos rfl]
      exact ih (entry?_up start) fun other member => noSlash other (List.mem_cons_of_mem _ member)
  | case4 t begun here step rest moves down next standing ih =>
      rw [ih standing fun other member => noSlash other (List.mem_cons_of_mem step member)]
      by_cases closed : Path.endsInDot rest = true
      · rw [makeableFrom_closed moves down closed]
        obtain ⟨placed, onWay⟩ : Path.placeFrom next rest = next ∧ Path.wayFrom next rest = [] :=
          Path.along_of_endsInDot closed
        refine iff_of_true ⟨by simp [onWay], .inl ?_⟩ standing
        rwa [placed]
      · apply makeableFrom_name moves down (by simpa using closed)
        · intro c file
          rw [standing] at file
          cases file
        · exact (Function.update_eq_self_iff.mpr standing.symm).symm
  | case5 t begun here step rest moves down next content standing =>
      apply iff_of_false
      · simp
      · by_cases closed : Path.endsInDot rest = true
        · rw [makeableFrom_closed moves down closed, standing]
          simp
        · intro makeable
          have onWay : next ∈ Path.wayFrom here (step :: rest) :=
            (Path.mem_wayFrom_name moves down).mpr (.inl ⟨by simpa using closed, rfl⟩)
          exact makeable.1 next onWay content standing
  | case6 t begun here step rest moves down next free admits ih =>
      have made := entry?_put (e := .directory) admits.1
      rw [ih (by rw [made, Function.update_self]) fun other member =>
        noSlash other (List.mem_cons_of_mem step member)]
      exact makeableFrom_name moves down admits.2 (by simp [next] at free; simp [free]) made
  | case7 t begun here step rest moves down next free refused =>
      have plain : isPlainName step = true := by
        rw [isPlainName_iff]
        rw [not_or] at moves
        exact ⟨moves.1, moves.2, down, noSlash step (by simp)⟩
      have admits : t.Admits next := admits_child start plain (by simp [next] at free; simp [free])
      have closed : Path.endsInDot rest = true := by
        simpa [admits] using refused
      apply iff_of_false
      · simp
      · rw [makeableFrom_closed moves down closed, free]
        simp

theorem directory_of_makeAlong (made : t.makeAlong begun here steps = (.ok (), u))
    (member : p ∈ Path.wayFrom here steps) : u.entry? p = some .directory := by
  fun_induction makeAlong t begun here steps with
  | case1 => simp [Path.wayFrom] at member
  | case2 t begun here step rest stays ih =>
      rw [Path.wayFrom, if_pos stays] at member
      exact ih made member
  | case3 t begun here rest moves ih =>
      rw [Path.wayFrom, if_neg moves, if_pos rfl] at member
      exact ih made member
  | case4 t begun here step rest moves down next standing ih =>
      have adds := onlyAddsDirectories_makeAlong t begun next rest
      rw [made] at adds
      obtain ⟨_, first⟩ | later := (Path.mem_wayFrom_name moves down).mp member
      · rw [first]
        exact adds.keeps standing
      · exact ih made later
  | case5 | case7 => simp at made
  | case6 t begun here step rest moves down next free admits ih =>
      have adds := onlyAddsDirectories_makeAlong (t.put next .directory admits.1) true next rest
      rw [made] at adds
      obtain ⟨_, first⟩ | later := (Path.mem_wayFrom_name moves down).mp member
      · rw [first]
        apply adds.keeps
        rw [entry?_put, Function.update_self]
      · exact ih made later

/-- A directory is there or can be made: no file stands on its way, which leads to it unless it is
there. -/
structure Makeable (t : FileTree) (directory : String) : Prop where
  noFile : ∀ p ∈ Path.way directory, ∀ c, t.entry? p ≠ some (.file c)
  stands : t.entry? (Path.place directory) = some .directory ∨
    Path.place directory ∈ Path.way directory

theorem makeable_iff : t.Makeable directory ↔ t.MakeableFrom [] (Path.steps directory) :=
  ⟨fun h => ⟨h.noFile, h.stands⟩, fun h => ⟨h.1, h.2⟩⟩

theorem makeDirectories_eq_ok_iff (t : FileTree) (directory : String) :
    (∃ u, t.makeDirectories directory = (.ok (), u)) ↔ t.Makeable directory := by
  rw [makeable_iff]
  exact makeAlong_eq_ok_iff rfl fun step member => Path.noSlash_of_mem_steps member

theorem directory_of_makeDirectories (made : t.makeDirectories directory = (.ok (), u))
    (member : p ∈ Path.way directory) : u.entry? p = some .directory :=
  directory_of_makeAlong made member

end QueryHeaders.FileTree
