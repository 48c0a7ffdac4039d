import QueryHeaders.Proofs.Artifact.Writing
import QueryHeaders.Proofs.Generation

/-!
When a failed run leaves the destinations as they were.

The texts that have come home before a failing move stay there, so that writing is not all or
nothing: a directory at the second destination leaves the first one new. A run that fails earlier,
in making the directory, in staging or in the first move, leaves every destination alone. What a
destination holds is what its path leads to; a path that goes up through a directory that is only
now made may lead to something it did not lead to before.
-/
namespace QueryHeaders.Artifact

variable {t u : FileTree} {directory : String} {rs moved rest : List Rendered} {failure : Failure}

/-- Every destination has in `u` the entry that it has in `t`, if it has one. -/
def Undisturbed (directory : String) (rs : List Rendered) (t u : FileTree) : Prop :=
  ∀ r ∈ rs, u.find? (r.artifact.pathIn directory) = t.find? (r.artifact.pathIn directory)

/-- A failed run: `moved` are the texts that came home before, `rest` are the others. -/
structure FailedWrite (directory : String) (rs moved rest : List Rendered) (failure : Failure)
    (t u : FileTree) : Prop where
  split : rs = moved ++ rest
  /-- Only a failing move leaves texts at home, and it is the move of the next text. -/
  step : moved ≠ [] → ∃ r after fault, rest = r :: after ∧
    failure = .unwritable (r.artifact.pathIn directory) fault
  home : ∀ r ∈ moved, u.find? (r.artifact.pathIn directory) = finalEntry rs r.artifact
  others : ∀ r ∈ rs, r.artifact ∉ moved.map Rendered.artifact →
    u.find? (r.artifact.pathIn directory) =
      (t.makeDirectories directory).2.find? (r.artifact.pathIn directory)

/-- What a settled run has moved is found at its destination, and elsewhere nothing has changed. -/
theorem Settled.find? {d : Place} {staged : List Rendered} (opens : t.Opens directory d)
    (h : Settled d staged moved t u) :
    (∀ r ∈ moved, u.find? (r.artifact.pathIn directory) = finalEntry staged r.artifact) ∧
      ∀ a, a ∉ moved.map Rendered.artifact →
        u.find? (a.pathIn directory) = t.find? (a.pathIn directory) := by
  have openU := opens.mono h.toConfined.keepsDirectories
  refine ⟨fun r hr => ?_, fun a away => ?_⟩
  · rw [find?_pathIn openU, h.home r hr]
  · rw [find?_pathIn openU, find?_pathIn opens]
    refine h.frame _ (fun r _ => stagedAt_ne_homeIn.symm) fun r hr same => ?_
    rw [homeIn_inj] at same
    exact away (List.mem_map.mpr ⟨r, hr, same.symm⟩)

theorem failedWrite_of_failed (failed : (writeAll directory rs).onTree t = (.error failure, u)) :
    ∃ moved rest, FailedWrite directory rs moved rest failure t u := by
  rcases made : t.makeDirectories directory with ⟨fault | _, v⟩
  · rw [writeAll_of_error made] at failed
    cases failed
    exact ⟨[], rs, rfl, by simp, by simp, by simp [made]⟩
  · obtain ⟨d, opens⟩ := FileTree.opens_of_makeDirectories made
    obtain ⟨w, done, _⟩ | ⟨before, r, after, fault, w, split, _, stopped, settled⟩ |
      ⟨before, r, after, fault, w, split, _, stopped, settled⟩ := writeAll_of_ok made opens rs
    · rw [done] at failed
      cases failed
    · rw [stopped] at failed
      cases failed
      obtain ⟨_, others⟩ := settled.find? opens
      refine ⟨[], rs, rfl, by simp, by simp, fun x _ away => ?_⟩
      rw [made]
      exact others x.artifact away
    · rw [stopped] at failed
      cases failed
      obtain ⟨home, others⟩ := settled.find? opens
      refine ⟨before, r :: after, split, fun _ => ⟨r, after, fault, rfl, rfl⟩, home, ?_⟩
      intro x _ away
      rw [made]
      exact others x.artifact away

/-- Besides making the directory, a failed run disturbs exactly the destinations of the moved texts
that held something else. -/
theorem FailedWrite.undisturbed_iff (h : FailedWrite directory rs moved rest failure t u) :
    Undisturbed directory rs t u ↔
      Undisturbed directory rs t (t.makeDirectories directory).2 ∧
        ∀ r ∈ moved, t.find? (r.artifact.pathIn directory) = finalEntry rs r.artifact := by
  have member : ∀ r ∈ moved, r ∈ rs := fun r hr => by
    rw [h.split]
    exact List.mem_append_left rest hr
  constructor
  · intro same
    have held : ∀ r ∈ moved, t.find? (r.artifact.pathIn directory) = finalEntry rs r.artifact :=
      fun r hr => (same r (member r hr)).symm.trans (h.home r hr)
    refine ⟨fun r hr => ?_, held⟩
    by_cases came : r.artifact ∈ moved.map Rendered.artifact
    · obtain ⟨m, hm, eq⟩ := List.mem_map.mp came
      obtain ⟨text, final⟩ := finalEntry_of_mem (member m hm)
      have before := (held m hm).trans final
      rw [eq] at before
      rw [before]
      exact (FileTree.onlyAddsDirectories_makeDirectories t directory).find? before
    · rw [← h.others r hr came, same r hr]
  · rintro ⟨made, held⟩ r hr
    by_cases came : r.artifact ∈ moved.map Rendered.artifact
    · obtain ⟨m, hm, eq⟩ := List.mem_map.mp came
      rw [← eq, h.home m hm, held m hm]
    · rw [h.others r hr came, made r hr]

/-- A directory whose path does not go up is made without disturbing a destination. -/
theorem undisturbed_makeDirectories (t : FileTree) (rs : List Rendered)
    (down : ".." ∉ Path.steps directory) :
    Undisturbed directory rs t (t.makeDirectories directory).2 :=
  fun r _ => FileTree.find?_makeDirectories t down (isPlainName_fileName r.artifact)

/-- A failed run leaves every destination as it was exactly if making the directory disturbs none
and the texts that came home before the failing step were there already. A run of the generator
fails without touching the disk, or in writing. -/
theorem failed_write_undisturbed_iff (t u : FileTree) (failure : Failure) :
    (∀ directory rs, (writeAll directory rs).onTree t = (.error failure, u) →
      ∃ moved rest, FailedWrite directory rs moved rest failure t u ∧
        (Undisturbed directory rs t u ↔
          Undisturbed directory rs t (t.makeDirectories directory).2 ∧
            ∀ r ∈ moved, t.find? (r.artifact.pathIn directory) = finalEntry rs r.artifact) ∧
        (".." ∉ Path.steps directory →
          Undisturbed directory rs t (t.makeDirectories directory).2)) ∧
      ∀ s, (Generation.generate s).onTree t = (.error failure, u) →
        u = t ∨ ∃ report, (Generation.render s).onTree t = (.ok report, t) ∧
          (writeAll s.outputDir report.artifacts).onTree t = (.error failure, u) := by
  refine ⟨fun directory rs failed => ?_, fun s failed => ?_⟩
  · obtain ⟨moved, rest, h⟩ := failedWrite_of_failed failed
    exact ⟨moved, rest, h, h.undisturbed_iff, undisturbed_makeDirectories t rs⟩
  · exact Generation.generate_failed failed

/-- A tree with a directory at the second destination of `twoTexts`. -/
def blockedTree : FileTree := (FileTree.empty.makeDirectories "o/Query_Override.hpp").2

def twoTexts : List Rendered :=
  [⟨.declarations .pure, "first"⟩, ⟨.declarations .overriding, "second"⟩]

theorem failed_write_blockedTree :
    ∃ failure u, (writeAll "o" twoTexts).onTree blockedTree = (.error failure, u) ∧
      ∃ moved rest, FailedWrite "o" twoTexts moved rest failure blockedTree u ∧
        (Undisturbed "o" twoTexts blockedTree u ↔
          Undisturbed "o" twoTexts blockedTree (blockedTree.makeDirectories "o").2 ∧
            ∀ r ∈ moved, blockedTree.find? (r.artifact.pathIn "o") =
              finalEntry twoTexts r.artifact) ∧
        (".." ∉ Path.steps "o" →
          Undisturbed "o" twoTexts blockedTree (blockedTree.makeDirectories "o").2) :=
  ⟨_, _, rfl, (failed_write_undisturbed_iff blockedTree _ _).1 "o" twoTexts rfl⟩

/-- The second destination is blocked, and the first one is new all the same. -/
theorem blocked_destination_disturbs :
    ∃ failure u, (writeAll "o" twoTexts).onTree blockedTree = (.error failure, u) ∧
      ¬ Undisturbed "o" twoTexts blockedTree u := by
  refine ⟨_, _, rfl, fun same => ?_⟩
  have first := same ⟨.declarations .pure, "first"⟩ (by simp [twoTexts])
  have standing := congrArg Option.isSome first
  exact absurd standing (by decide)

end QueryHeaders.Artifact
