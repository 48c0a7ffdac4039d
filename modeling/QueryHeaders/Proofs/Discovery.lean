import Mathlib.Data.List.TakeDrop
import Mathlib.Data.List.TakeWhile
import QueryHeaders.Proofs.CommandLine.Validation
import QueryHeaders.Proofs.Text.ByteOrder

/-!
Which files paths stand for.

A path that is no directory stands for itself, and a directory for all the definitions files in it
and for nothing else. No directory is among the files that are found, so that finding the files of
the found files finds these files again.
-/
namespace QueryHeaders

/-! ## Names of definitions files -/

/-- Whether a name ends in a dot and an extension, with something before the dot. -/
def Path.HasExtension (name extension : String) : Prop :=
  ∃ stem, stem ≠ "" ∧ name = stem ++ "." ++ extension

namespace Path

variable {name extension : String}

theorem extension?_eq_some_iff (given : extension ≠ "") (plain : '.' ∉ extension.toList) :
    extension? name = some extension ↔ HasExtension name extension := by
  -- The name is read backwards: its extension up to the last dot, the dot, and the rest.
  rw [extension?, List.span_eq_takeWhile_dropWhile]
  constructor
  · intro h
    have whole := List.takeWhile_append_dropWhile (p := (· != '.')) (l := name.toList.reverse)
    cases left : name.toList.reverse.dropWhile (· != '.') with
    | nil => simp [left] at h
    | cons dot rest =>
        cases rest with
        | nil => simp [left] at h
        | cons c rest =>
            have isDot : dot = '.' := by
              have stops := List.head?_dropWhile_not (· != '.') name.toList.reverse
              simpa [left] using stops
            simp only [left] at h
            split at h
            · cases h
            · cases h
              have forwards := congrArg List.reverse whole
              rw [left, isDot, List.reverse_reverse] at forwards
              refine ⟨String.ofList (c :: rest).reverse, by simp, ?_⟩
              rw [← String.toList_inj]
              exact forwards.symm.trans (by simp)
  · rintro ⟨stem, some, rfl⟩
    have backwards : (stem ++ "." ++ extension).toList.reverse =
        extension.toList.reverse ++ '.' :: stem.toList.reverse := by simp
    have passes : ∀ c ∈ extension.toList.reverse, (c != '.') = true := by
      intro c member
      rw [bne_iff_ne]
      rintro rfl
      exact plain (List.mem_reverse.mp member)
    have long : stem ++ "." ++ extension ≠ ".." := by
      intro same
      have count := congrArg String.length same
      have first : stem.length ≠ 0 := by simpa using some
      have last : extension.length ≠ 0 := by simpa using given
      simp only [String.length_append] at count
      change stem.length + 1 + extension.length = 2 at count
      omega
    obtain ⟨c, rest, before⟩ := List.exists_cons_of_ne_nil
      (show stem.toList.reverse ≠ [] by simpa using some)
    rw [backwards, List.takeWhile_append_of_pos passes, List.dropWhile_append_of_pos passes,
      before]
    simp [long]

theorem isDefinitionsName_iff :
    isDefinitionsName name = true ↔ HasExtension name "yaml" ∨ HasExtension name "yml" := by
  rw [isDefinitionsName, Bool.or_eq_true, beq_iff_eq, beq_iff_eq,
    extension?_eq_some_iff (by decide) (by decide), extension?_eq_some_iff (by decide) (by decide)]

end Path

/-! ## Files of paths -/

namespace Discovery

variable {t : FileTree} {path : String} {paths others found : List String} {d : Place}

/-- What a path stands for: itself if it is no directory, and otherwise the files in the directory
whose names have one of the two extensions, each once and in the order of the bytes of the names. -/
inductive StandsFor (t : FileTree) (path : String) : List String → Prop where
  | itself (plain : t.kind? path ≠ some .directory) : StandsFor t path [path]
  | children {d : Place} {names : List String} (located : t.locate path = .ok d)
      (stands : t.entry? d = some .directory)
      (exact : ∀ name, name ∈ names ↔ (∃ c, t.entry? (d ++ [name]) = some (.file c)) ∧
        (Path.HasExtension name "yaml" ∨ Path.HasExtension name "yml"))
      (ordered : names.Pairwise fun m n => Text.bytes m < Text.bytes n) :
      StandsFor t path (names.map (Path.join path))

theorem standsFor_filesAt (t : FileTree) (path : String) : StandsFor t path (filesAt t path) := by
  rw [filesAt]
  split
  · next directory =>
      obtain ⟨d, located, stands⟩ := FileTree.kind?_eq_directory_iff.mp directory
      obtain ⟨entries, listed, ordered, exact⟩ := FileTree.list_of_opens located stands
      let isWanted (x : String × Kind) : Bool := x.2 == .file && Path.isDefinitionsName x.1
      have asNames : definitionPaths path entries =
          ((entries.filter isWanted).map Prod.fst).map (Path.join path) := by
        rw [List.map_map]
        rfl
      have isFile (e : Entry) : e.kind = .file ↔ ∃ c, e = .file c := by
        cases e <;> simp [Entry.kind]
      rw [listed]
      change StandsFor t path (definitionPaths path entries)
      rw [asNames]
      refine .children located stands (fun name => ?_) ?_
      · rw [List.mem_map]
        simp only [List.mem_filter, isWanted, Bool.and_eq_true, beq_iff_eq,
          Path.isDefinitionsName_iff]
        constructor
        · rintro ⟨⟨name, kind⟩, ⟨member, rfl, named⟩, rfl⟩
          obtain ⟨e, here, kind⟩ := (exact name .file).mp member
          obtain ⟨c, rfl⟩ := (isFile e).mp kind
          exact ⟨⟨c, here⟩, named⟩
        · rintro ⟨⟨c, here⟩, named⟩
          exact ⟨(name, .file), ⟨(exact name .file).mpr ⟨_, here, rfl⟩, rfl, named⟩, rfl⟩
      · rw [List.pairwise_map] at ordered ⊢
        exact (ordered.filter _).imp Text.bytes_lt_bytes
  · next plain => exact .itself plain

/-- Nothing that is found is a directory. -/
theorem StandsFor.kind? (h : StandsFor t path found) :
    ∀ file ∈ found, t.kind? file ≠ some .directory := by
  cases h with
  | itself plain => simpa using plain
  | children located stands exact _ =>
      intro file member
      obtain ⟨name, listed, rfl⟩ := List.mem_map.mp member
      obtain ⟨⟨c, here⟩, _⟩ := (exact name).mp listed
      rw [FileTree.kind?_child (FileTree.opens_of_locate located stands) here]
      simp [Entry.kind]

theorem flatMap_filesAt_of_plain (plain : ∀ file ∈ found, t.kind? file ≠ some .directory) :
    found.flatMap (filesAt t) = found := by
  have each : ∀ file ∈ found, filesAt t file = [file] := fun file member => by
    rw [filesAt, if_neg (plain file member)]
  rw [List.flatMap_congr each, List.flatMap_singleton']

/-- The files of some paths are those of each path in turn; the files of two lists of paths are
those of the one and then those of the other, and the found files stand for themselves. -/
theorem files_of_paths (t : FileTree) (paths others : List String) :
    ∃ parts foundOthers, (files paths).onTree t = (.ok parts.flatten, t) ∧
      List.Forall₂ (StandsFor t) paths parts ∧
      (files others).onTree t = (.ok foundOthers, t) ∧
      (files (paths ++ others)).onTree t = (.ok (parts.flatten ++ foundOthers), t) ∧
      (files parts.flatten).onTree t = (.ok parts.flatten, t) := by
  refine ⟨paths.map (filesAt t), others.flatMap (filesAt t), ?_, ?_, onTree_files t others, ?_, ?_⟩
  · rw [onTree_files, List.flatMap_def]
  · rw [List.forall₂_map_right_iff, List.forall₂_same]
    exact fun path _ => standsFor_filesAt t path
  · rw [onTree_files, List.flatMap_append, List.flatMap_def]
  · rw [onTree_files, flatMap_filesAt_of_plain]
    intro file member
    obtain ⟨_, part, within⟩ := List.mem_flatten.mp member
    obtain ⟨path, _, rfl⟩ := List.mem_map.mp part
    exact (standsFor_filesAt t path).kind? file within

end Discovery

end QueryHeaders
