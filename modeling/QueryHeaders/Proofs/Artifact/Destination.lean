import Mathlib.Data.List.Nodup
import QueryHeaders.Proofs.Artifact.Writing
import QueryHeaders.Proofs.Disk.Making

/-!
The destinations of a run, and the paths beside them.

Both name a place in the output directory. When every artifact is written once, no two texts of a run
share one of these places, and what a text leaves at home is the text itself.
-/
namespace QueryHeaders.Artifact

variable {d p : Place} {rs moved : List Rendered} {r x : Rendered} {t u v : FileTree}
  {directory : String}

theorem place_pathIn (directory : String) (a : Artifact) :
    Path.place (a.pathIn directory) = homeIn (Path.place directory) a :=
  Path.place_join (isPlainName_fileName a)

theorem place_stagingPath (directory : String) (a : Artifact) :
    Path.place (stagingPath (a.pathIn directory)) = stagedAt (Path.place directory) a := by
  rw [stagingPath_pathIn]
  exact Path.place_join (isPlainName_stagingPath a)

/-- The place is that of a destination. -/
def IsHome (directory : String) (rs : List Rendered) (p : Place) : Prop :=
  ∃ r ∈ rs, Path.place (r.artifact.pathIn directory) = p

/-- The place is that of a path beside a destination, where a text is staged. -/
def IsBeside (directory : String) (rs : List Rendered) (p : Place) : Prop :=
  ∃ r ∈ rs, Path.place (stagingPath (r.artifact.pathIn directory)) = p

theorem isHome_iff (placed : Path.place directory = d) :
    IsHome directory rs p ↔ ∃ r ∈ rs, p = homeIn d r.artifact := by
  simp only [IsHome, place_pathIn, placed, eq_comm]

theorem isBeside_iff (placed : Path.place directory = d) :
    IsBeside directory rs p ↔ ∃ r ∈ rs, p = stagedAt d r.artifact := by
  simp only [IsBeside, place_stagingPath, placed, eq_comm]

/-- Without going up, no directory is made at a destination or beside one. -/
theorem notMem_way (down : ".." ∉ Path.steps directory)
    (h : IsHome directory rs p ∨ IsBeside directory rs p) : p ∉ Path.way directory := by
  rw [isHome_iff rfl, isBeside_iff rfl] at h
  obtain ⟨r, _, rfl⟩ | ⟨r, _, rfl⟩ := h <;> exact Path.child_notMem_way down

theorem finalEntry_of_distinct (distinct : (rs.map Rendered.artifact).Nodup) (member : r ∈ rs) :
    finalEntry rs r.artifact = some (.file (.text r.content)) := by
  unfold finalEntry
  cases found : rs.reverse.find? fun x => x.artifact = r.artifact with
  | none => simpa using List.find?_eq_none.mp found r (by simpa using member)
  | some x =>
      have same : x.artifact = r.artifact := by simpa using List.find?_some found
      have also : x ∈ rs := by simpa using List.mem_of_find?_eq_some found
      rw [List.inj_on_of_nodup_map distinct also member same]
      rfl

theorem ne_of_mem_take_of_mem_drop {n : Nat} (distinct : (rs.map Rendered.artifact).Nodup)
    (first : r ∈ rs.take n) (later : x ∈ rs.drop n) : x.artifact ≠ r.artifact := by
  rw [← List.take_append_drop n rs, List.map_append, List.nodup_append] at distinct
  exact (distinct.2.2 _ (List.mem_map_of_mem first) _ (List.mem_map_of_mem later)).symm

end QueryHeaders.Artifact
