import QueryHeaders.Proofs.Artifact.AllOrNothing
import QueryHeaders.Proofs.Artifact.Destination

/-!
When a run succeeds, and what it writes.

A run succeeds exactly if the output directory is there or can be made, and no directory stands or
is made at a destination or beside one. Then every text is at its destination, nothing is left beside
it, and nothing else has changed. A second run finds all of this as it would write it.
-/
namespace QueryHeaders.Artifact

open FileTree

variable {d : Place} {rs : List Rendered} {t u v w : FileTree} {directory : String}
  {paths : List String}

/-- Nothing keeps a run from succeeding. -/
structure Ready (directory : String) (rs : List Rendered) (t : FileTree) : Prop where
  makeable : t.Makeable directory
  free : ∀ p, IsHome directory rs p ∨ IsBeside directory rs p →
    t.entry? p ≠ some .directory ∧ p ∉ Path.way directory

/-- What a run that succeeds has made of the tree `t`. -/
structure Written (directory : String) (rs : List Rendered) (t u : FileTree) : Prop where
  home : ∀ r ∈ rs, u.find? (r.artifact.pathIn directory) = some (.file (.text r.content))
  clean : ∀ r ∈ rs, u.find? (stagingPath (r.artifact.pathIn directory)) = none
  outside : ∀ p, ¬ IsHome directory rs p → ¬ IsBeside directory rs p →
    KeptOrMade (Path.way directory) t u p

/-- Making the directory leaves a place free exactly if it is free and not on the way. -/
theorem ne_directory_iff (made : t.makeDirectories directory = (.ok (), w)) (p : Place) :
    w.entry? p ≠ some .directory ↔ t.entry? p ≠ some .directory ∧ p ∉ Path.way directory := by
  have adds := onlyAddsDirectories_makeDirectories t directory
  rw [made] at adds
  constructor
  · intro free
    refine ⟨fun standing => free (adds.keeps standing), fun member => ?_⟩
    exact free (directory_of_makeDirectories made member)
  · intro free standing
    obtain same | ⟨member, _⟩ := keptOrMade_of_made made p
    · exact free.1 (same.symm.trans standing)
    · exact free.2 member

theorem completed_of_ok
    (ran : (writeAll directory rs).onTree t = (.ok paths, u)) :
    ∃ d w, t.makeDirectories directory = (.ok (), w) ∧ w.Opens directory d ∧
      paths = rs.map (fun r => r.artifact.pathIn directory) ∧ Settled d rs rs w u := by
  rcases made : t.makeDirectories directory with ⟨fault | _, w⟩
  · rw [writeAll_of_error made] at ran
    cases ran
  · obtain ⟨d, opens⟩ := opens_of_makeDirectories made
    obtain ⟨v, done, settled⟩ | ⟨before, r, after, fault, v, _, _, stopped, _⟩ |
      ⟨before, r, after, fault, v, _, _, stopped, _⟩ := writeAll_of_ok made opens rs
    · rw [done] at ran
      cases ran
      exact ⟨d, w, rfl, opens, rfl, settled⟩
    · rw [stopped] at ran
      cases ran
    · rw [stopped] at ran
      cases ran

theorem Settled.ready (made : t.makeDirectories directory = (.ok (), w))
    (opens : w.Opens directory d) (h : Settled d rs rs w u) : Ready directory rs t := by
  have placed := opens.place
  constructor
  · exact (makeDirectories_eq_ok_iff t directory).mp ⟨w, made⟩
  · intro p place
    rw [← ne_directory_iff made]
    rw [isHome_iff placed, isBeside_iff placed] at place
    rcases place with ⟨r, member, rfl⟩ | ⟨r, member, rfl⟩
    · exact h.freeHome r member
    · exact h.freeStaged r member

theorem Settled.written (distinct : (rs.map Rendered.artifact).Nodup)
    (made : t.makeDirectories directory = (.ok (), w)) (opens : w.Opens directory d)
    (h : Settled d rs rs w u) : Written directory rs t u := by
  have placed := opens.place
  have openU := opens.mono h.toConfined.keepsDirectories
  constructor
  · intro r member
    rw [find?_pathIn openU, h.home r member, finalEntry_of_distinct distinct member]
  · intro r member
    rw [find?_stagingPath openU, h.clean r member]
  · intro p notHome notBeside
    rw [isHome_iff placed] at notHome
    rw [isBeside_iff placed] at notBeside
    have same := h.frame p (fun r member eq => notBeside ⟨r, member, eq⟩)
      fun r member eq => notHome ⟨r, member, eq⟩
    rw [KeptOrMade, same]
    exact keptOrMade_of_made made p

/-- Where nothing is in the way, no step of a run fails. -/
theorem Ready.completes (distinct : (rs.map Rendered.artifact).Nodup)
    (ready : Ready directory rs t) : ∃ paths u, (writeAll directory rs).onTree t = (.ok paths, u) := by
  obtain ⟨w, made⟩ := (makeDirectories_eq_ok_iff t directory).mpr ready.makeable
  obtain ⟨d, opens⟩ := opens_of_makeDirectories made
  have placed := opens.place
  have free (p : Place) (h : IsHome directory rs p ∨ IsBeside directory rs p) :
      w.entry? p ≠ some .directory :=
    (ne_directory_iff made p).mpr (ready.free p h)
  obtain ⟨u, done, _⟩ | ⟨before, r, after, fault, v, split, blocked, _⟩ |
    ⟨before, r, after, fault, v, split, blocked | repeated, _⟩ := writeAll_of_ok made opens rs
  · exact ⟨_, u, done⟩
  · refine absurd blocked (free _ (.inr ?_))
    rw [isBeside_iff placed]
    exact ⟨r, by simp [split], rfl⟩
  · refine absurd blocked (free _ (.inl ?_))
    rw [isHome_iff placed]
    exact ⟨r, by simp [split], rfl⟩
  · rw [split, List.map_append, List.map_cons, List.nodup_append] at distinct
    exact absurd rfl (distinct.2.2 _ repeated _ (by simp))

/-! ## A second run -/

theorem Settled.directory_of_mem_way (made : t.makeDirectories directory = (.ok (), w))
    (h : Settled d rs rs w u) {p : Place} (member : p ∈ Path.way directory) :
    u.entry? p = some .directory :=
  h.toConfined.keepsDirectories p (directory_of_makeDirectories made member)

/-- Nothing that a run has left is in the way of another. -/
theorem Settled.ready_again (distinct : (rs.map Rendered.artifact).Nodup)
    (made : t.makeDirectories directory = (.ok (), w)) (opens : w.Opens directory d)
    (h : Settled d rs rs w u) : Ready directory rs u := by
  have placed := opens.place
  constructor
  · have stands := h.toConfined.keepsDirectories d opens.isDirectory
    refine ⟨fun p member c file => ?_, .inl ?_⟩
    · rw [h.directory_of_mem_way made member] at file
      cases file
    · rwa [placed]
  · intro p place
    refine ⟨?_, ((h.ready made opens).free p place).2⟩
    rw [isHome_iff placed, isBeside_iff placed] at place
    rcases place with ⟨r, member, rfl⟩ | ⟨r, member, rfl⟩
    · rw [h.home r member, finalEntry_of_distinct distinct member]
      simp
    · rw [h.clean r member]
      simp

theorem Settled.entry?_again {w' : FileTree} (made : t.makeDirectories directory = (.ok (), w))
    (h : Settled d rs rs w u) (madeAgain : u.makeDirectories directory = (.ok (), w'))
    (again : Settled d rs rs w' v) : v.entry? = u.entry? := by
  funext p
  by_cases home : ∃ r ∈ rs, p = homeIn d r.artifact
  · obtain ⟨r, member, rfl⟩ := home
    rw [h.home r member, again.home r member]
  · by_cases beside : ∃ r ∈ rs, p = stagedAt d r.artifact
    · obtain ⟨r, member, rfl⟩ := beside
      rw [h.clean r member, again.clean r member]
    · rw [again.frame p (fun r member eq => beside ⟨r, member, eq⟩)
        fun r member eq => home ⟨r, member, eq⟩]
      -- The way has been made before, so that nothing on it is free.
      obtain unchanged | ⟨member, free, _⟩ := keptOrMade_of_made madeAgain p
      · exact unchanged
      · rw [h.directory_of_mem_way made member] at free
        cases free

/-- A second run on the tree that a run has left succeeds and changes nothing. -/
theorem writeAll_again (distinct : (rs.map Rendered.artifact).Nodup)
    (ran : (writeAll directory rs).onTree t = (.ok paths, u)) :
    ∃ v, (writeAll directory rs).onTree u = (.ok paths, v) ∧ v.entry? = u.entry? := by
  obtain ⟨d, w, made, opens, rfl, settled⟩ := completed_of_ok ran
  obtain ⟨paths, v, again⟩ := (settled.ready_again distinct made opens).completes distinct
  obtain ⟨e, w', madeAgain, opensAgain, rfl, settledAgain⟩ := completed_of_ok again
  have same : d = e := opens.place.symm.trans opensAgain.place
  subst same
  exact ⟨v, again, settled.entry?_again made madeAgain settledAgain⟩

/-! ## The condition of success -/

/-- A run of distinct artifacts succeeds exactly if nothing is in its way; then every text is at its
destination, and nothing else has changed. -/
theorem write_succeeds_iff (t : FileTree) (directory : String)
    (distinct : (rs.map Rendered.artifact).Nodup) :
    ((∃ paths u, (writeAll directory rs).onTree t = (.ok paths, u)) ↔ Ready directory rs t) ∧
    (∀ paths u, (writeAll directory rs).onTree t = (.ok paths, u) →
      paths = rs.map (fun r => r.artifact.pathIn directory) ∧ Written directory rs t u) ∧
    (".." ∉ Path.steps directory →
      ∀ p, IsHome directory rs p ∨ IsBeside directory rs p → p ∉ Path.way directory) := by
  refine ⟨⟨?_, fun ready => ready.completes distinct⟩, ?_, fun down p => notMem_way down⟩
  · intro succeeds
    obtain ⟨paths, u, ran⟩ := succeeds
    obtain ⟨d, w, made, opens, _, settled⟩ := completed_of_ok ran
    exact settled.ready made opens
  · intro paths u ran
    obtain ⟨d, w, made, opens, written, settled⟩ := completed_of_ok ran
    exact ⟨written, settled.written distinct made opens⟩

/-- A tree with an old text at the first destination of `twoTexts` and one left beside the
second. -/
def staleTree : FileTree :=
  let made := (FileTree.empty.makeDirectories "o").2
  let old := (made.write "o/Query_Definition.hpp" (.text "old")).2
  (old.write "o/Query_Override.hpp.tmp" (.text "left")).2

theorem write_succeeds_staleTree :
    (twoTexts.map Rendered.artifact).Nodup ∧ Ready "o" twoTexts staleTree ∧
      ∃ paths u, (writeAll "o" twoTexts).onTree staleTree = (.ok paths, u) ∧
        paths = ["o/Query_Definition.hpp", "o/Query_Override.hpp"] ∧
        Written "o" twoTexts staleTree u := by
  have distinct : (twoTexts.map Rendered.artifact).Nodup := by decide
  obtain ⟨succeeds, writes, _⟩ := write_succeeds_iff staleTree "o" distinct
  have ran : (writeAll "o" twoTexts).onTree staleTree =
      (.ok ["o/Query_Definition.hpp", "o/Query_Override.hpp"], _) := rfl
  exact ⟨distinct, succeeds.mp ⟨_, _, ran⟩, _, _, ran, rfl, (writes _ _ ran).2⟩

/-- Nothing stands in the tree, and still a directory is made at the destination, or the output
directory is not made because its name is closed by a dot. -/
theorem empty_tree_refuses :
    (∀ p, p ≠ [] → FileTree.empty.entry? p = none) ∧
      (∃ failure u, (writeAll "o/Query_Definition.hpp/.."
        [⟨.declarations .pure, "first"⟩]).onTree .empty = (.error failure, u)) ∧
      ∃ failure u, (writeAll "o/." [⟨.declarations .pure, "first"⟩]).onTree .empty =
        (.error failure, u) := by
  refine ⟨?_, ⟨_, _, rfl⟩, _, _, rfl⟩
  intro p below
  rw [entry?_of_ne below]
  rfl

end QueryHeaders.Artifact
