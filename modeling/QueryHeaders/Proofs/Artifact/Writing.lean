import QueryHeaders.Artifact.Writing
import QueryHeaders.Proofs.Artifact.Staging
import QueryHeaders.Proofs.Disk.Child
import QueryHeaders.Proofs.Disk.Job

/-!
What writing artifacts leaves on the disk.

Both loops preserve `Progress`, and each failing step removes exactly what is still staged, so that
every run ends settled: a failure while staging leaves no text at home, a failure while moving
leaves those texts at home that were moved before.
-/
namespace QueryHeaders.Artifact

variable {d : Place} {rs moved rest : List Rendered} {r : Rendered}
variable {t u : FileTree} {directory : String}

/-! ## Paths of artifacts in a directory that can be reached -/

theorem temporary_stagedIn (directory : String) (a : Artifact) :
    (a.stagedIn directory).temporary = Path.join directory (stagingPath a.fileName) :=
  stagingPath_pathIn directory a

theorem find?_pathIn (opens : t.Opens directory d) (a : Artifact) :
    t.find? (a.pathIn directory) = t.entry? (homeIn d a) :=
  FileTree.find?_of_locate (opens.locate a.fileName (isPlainName_fileName a))

theorem find?_stagingPath (opens : t.Opens directory d) (a : Artifact) :
    t.find? (stagingPath (a.pathIn directory)) = t.entry? (stagedAt d a) := by
  rw [stagingPath_pathIn]
  exact FileTree.find?_of_locate (opens.locate _ (isPlainName_stagingPath a))

/-! ## One step of each loop -/

theorem discard_cons (t : FileTree) (s : Staged) (rest : List Staged) :
    (discard (s :: rest)).run t = (discard rest).run (t.removeFile s.temporary).2 := by
  rw [discard, Program.run_bind, Program.run_removeFile]

theorem stage_cons (t : FileTree) (directory : String) (staged : List Staged) (r : Rendered)
    (rest : List Rendered) :
    (stage directory staged (r :: rest)).onTree t =
      match t.write (r.artifact.stagedIn directory).temporary (.text r.content) with
      | (.ok (), u) =>
          (stage directory (staged ++ [r.artifact.stagedIn directory]) rest).onTree u
      | (.error fault, u) =>
          (.error (.unwritable (r.artifact.stagedIn directory).temporary fault),
            ((discard staged).run u).2) := by
  rw [stage, Job.onTree_bind, Job.onTree_lift, Program.run_write]
  obtain ⟨_ | _, u⟩ := t.write (r.artifact.stagedIn directory).temporary (.text r.content)
  · simp only [Job.onTree_bind, Job.onTree_lift, Job.onTree_throw]
  · rfl

theorem install_cons (t : FileTree) (s : Staged) (rest : List Staged) :
    (install (s :: rest)).onTree t =
      match t.replace s.temporary s.destination with
      | (.ok (), u) =>
          match (install rest).onTree u with
          | (.ok paths, u') => (.ok (s.destination :: paths), u')
          | (.error failure, u') => (.error failure, u')
      | (.error fault, u) =>
          (.error (.unwritable s.destination fault), ((discard (s :: rest)).run u).2) := by
  rw [install, Job.onTree_bind, Job.onTree_lift, Program.run_replace]
  obtain ⟨_ | _, u⟩ := t.replace s.temporary s.destination
  · simp only [Job.onTree_bind, Job.onTree_lift, Job.onTree_throw]
  · simp only [Job.onTree_bind, Job.onTree_pure]
    rcases (install rest).onTree u with ⟨_ | _, v⟩ <;> rfl

/-! ## Whole loops -/

def stagedOf (directory : String) (rs : List Rendered) : List Staged :=
  rs.map fun r => r.artifact.stagedIn directory

/-- Discarding leaves nothing where the texts were staged, and everything else as it was. -/
theorem discard_entry? (opens : u.Opens directory d)
    (free : ∀ r ∈ rest, u.entry? (stagedAt d r.artifact) ≠ some .directory) (p : Place) :
    FileTree.entry? ((discard (stagedOf directory rest)).run u).2 p =
      if p ∈ rest.map fun r => stagedAt d r.artifact then none else u.entry? p := by
  induction rest generalizing u with
  | nil => rfl
  | cons r rest ih =>
      have hr := free r (by simp)
      have removed : FileTree.entry? (u.removeFile (r.artifact.stagedIn directory).temporary).2 =
          Function.update u.entry? (stagedAt d r.artifact) none := by
        rw [temporary_stagedIn]
        exact FileTree.removeFile_child opens (isPlainName_stagingPath r.artifact) hr
      have keeps := FileTree.KeepsDirectories.of_update hr removed
      change FileTree.entry?
        ((discard (r.artifact.stagedIn directory :: stagedOf directory rest)).run u).2 p = _
      rw [discard_cons, ih (opens.mono keeps), removed, Function.update_apply]
      · by_cases here : p = stagedAt d r.artifact <;> simp [here]
      · intro x hx
        rw [removed, Function.update_apply]
        split
        · simp
        · exact free x (by simp [hx])

/-- Staging succeeds, or it fails where a directory stands at a staging path and what was staged
before is removed. -/
theorem stage_onTree (opens : t.Opens directory d) {done : List Rendered}
    (h : Progress d done [] t u) (rest : List Rendered) :
    (∃ v, (stage directory (stagedOf directory done) rest).onTree u =
        (.ok (stagedOf directory (done ++ rest)), v) ∧ Progress d (done ++ rest) [] t v) ∨
      ∃ before r after fault v, rest = before ++ r :: after ∧
        t.entry? (stagedAt d r.artifact) = some .directory ∧
        (stage directory (stagedOf directory done) rest).onTree u =
          (.error (.unwritable (r.artifact.stagedIn directory).temporary fault), v) ∧
        Settled d (done ++ before) [] t v := by
  induction rest generalizing done u with
  | nil => exact .inl ⟨u, by rw [List.append_nil]; rfl, by rwa [List.append_nil]⟩
  | cons r rest ih =>
      have openU := opens.mono h.toConfined.keepsDirectories
      rw [stage_cons, temporary_stagedIn]
      obtain ⟨blocked, failed⟩ | ⟨free, v, written, changed⟩ :=
        FileTree.write_child openU (isPlainName_stagingPath r.artifact) (.text r.content)
      · refine .inr ⟨[], r, rest, .isDirectory, _, rfl, ?_, by rw [failed, temporary_stagedIn], ?_⟩
        -- Staging makes no directories, so that what is in the way was there before the run.
        · rw [← h.frame _ (fun x hx same => ?_) (by simp)]
          · exact blocked
          · exact h.stagedAt_ne_directory hx (same ▸ blocked)
        · rw [List.append_nil]
          refine h.settle _ (fun x hx => hx) (fun x hx _ => hx) fun p => ?_
          exact discard_entry? openU (fun x hx => h.stagedAt_ne_directory hx) p
      · rw [written]
        have next := h.stage free changed
        have grown : stagedOf directory done ++ [r.artifact.stagedIn directory] =
            stagedOf directory (done ++ [r]) := by
          simp [stagedOf]
        rw [grown]
        obtain ⟨w, staged, progress⟩ |
          ⟨before, x, after, fault, w, split, blocked, failed, settled⟩ := ih next
        · exact .inl ⟨w, by simpa using staged, by simpa using progress⟩
        · exact .inr ⟨r :: before, x, after, fault, w, by rw [split]; rfl, blocked, failed,
            by simpa using settled⟩

/-- A staged text comes home unless a directory stands there or its text has come home before. -/
theorem replace_staged (opens : t.Opens directory d) (h : Progress d rs moved t u) (hr : r ∈ rs) :
    let s := r.artifact.stagedIn directory
    (∃ fault, u.replace s.temporary s.destination = (.error fault, u) ∧
        (t.entry? (homeIn d r.artifact) = some .directory ∨
          r.artifact ∈ moved.map Rendered.artifact)) ∨
      ∃ v, u.replace s.temporary s.destination = (.ok (), v) ∧
        Progress d rs (moved ++ [r]) t v := by
  have openU := opens.mono h.toConfined.keepsDirectories
  have plainStaged := isPlainName_stagingPath r.artifact
  have plainHome := isPlainName_fileName r.artifact
  simp only [temporary_stagedIn]
  change let path := Path.join directory r.artifact.fileName; _
  by_cases came : r.artifact ∈ moved.map Rendered.artifact
  · obtain ⟨m, hm, same⟩ := List.mem_map.mp came
    have absent := h.gone m hm
    rw [same] at absent
    have failed := FileTree.replace_child_absent openU plainStaged plainHome absent
    exact .inl ⟨.notFound, failed, .inr came⟩
  · obtain ⟨text, final⟩ := finalEntry_of_mem hr
    have source := (h.staged r hr came).trans final
    obtain ⟨blocked, failed⟩ | ⟨free, v, moves, changed⟩ :=
      FileTree.replace_child openU plainStaged plainHome
        (stagingPath_ne_fileName r.artifact r.artifact) source
    · refine .inl ⟨.isDirectory, failed, .inl ?_⟩
      rw [← h.frame (homeIn d r.artifact) (fun x _ => stagedAt_ne_homeIn.symm) fun x hx same => ?_]
      · exact blocked
      · rw [homeIn_inj] at same
        exact came (List.mem_map.mpr ⟨x, hx, same.symm⟩)
    · exact .inr ⟨v, moves, h.move hr free (by rw [changed, final]; rfl)⟩

/-- Moving succeeds, or it fails at a destination where a directory stands or whose text was moved
before; what is still staged then is removed. -/
theorem install_onTree (opens : t.Opens directory d) (h : Progress d (moved ++ rest) moved t u) :
    (∃ v, (install (stagedOf directory rest)).onTree u =
        (.ok (rest.map fun r => r.artifact.pathIn directory), v) ∧
        Settled d (moved ++ rest) (moved ++ rest) t v) ∨
      ∃ before r after fault v, rest = before ++ r :: after ∧
        (t.entry? (homeIn d r.artifact) = some .directory ∨
          r.artifact ∈ (moved ++ before).map Rendered.artifact) ∧
        (install (stagedOf directory rest)).onTree u =
          (.error (.unwritable (r.artifact.pathIn directory) fault), v) ∧
        Settled d (moved ++ rest) (moved ++ before) t v := by
  induction rest generalizing moved u with
  | nil =>
      refine .inl ⟨u, rfl, ?_⟩
      rw [List.append_nil] at h ⊢
      refine h.settle [] (by simp) (fun r hr waiting => ?_) (by simp)
      exact absurd (List.mem_map_of_mem hr) waiting
  | cons r rest ih =>
      have openU := opens.mono h.toConfined.keepsDirectories
      obtain ⟨fault, failed, why⟩ | ⟨v, moves, next⟩ := replace_staged opens h (r := r) (by simp)
      -- Of what was staged, this text and all later ones are still there to be removed.
      · refine .inr ⟨[], r, rest, fault, ((discard (stagedOf directory (r :: rest))).run u).2,
          rfl, by simpa using why, ?_, ?_⟩
        · simp only [stagedOf, List.map_cons, install_cons, failed]
          rfl
        · rw [List.append_nil]
          refine h.settle _ (fun x hx => List.mem_append_right moved hx) (fun x hx waiting => ?_)
            fun p => ?_
          · obtain earlier | later := List.mem_append.mp hx
            · exact absurd (List.mem_map_of_mem earlier) waiting
            · exact later
          · refine discard_entry? openU (fun x hx => ?_) p
            exact h.stagedAt_ne_directory (List.mem_append_right moved hx)
      · rw [List.append_cons] at next ⊢
        simp only [stagedOf, List.map_cons, install_cons, moves]
        obtain ⟨w, installed, settled⟩ |
          ⟨before, x, after, fault, w, split, why, failed, settled⟩ := ih next
        · simp only [stagedOf] at installed
          exact .inl ⟨w, by rw [installed]; rfl, settled⟩
        · simp only [stagedOf] at failed
          refine .inr ⟨r :: before, x, after, fault, w, by rw [split]; rfl, by simpa using why, ?_,
            by simpa using settled⟩
          rw [failed]

/-! ## Whole runs -/

theorem writeAll_of_error {fault : Fault}
    (refused : t.makeDirectories directory = (.error fault, u)) (rs : List Rendered) :
    (writeAll directory rs).onTree t = (.error (.unwritable directory fault), u) := by
  rw [writeAll, Job.onTree_bind, Job.onTree_require, Program.run_makeDirectories, refused]

/-- A run in a directory that could be made: every text comes home, or staging stops at a directory
and no text does, or moving stops and the texts before do. -/
theorem writeAll_of_ok (made : t.makeDirectories directory = (.ok (), u))
    (opens : u.Opens directory d) (rs : List Rendered) :
    (∃ v, (writeAll directory rs).onTree t =
        (.ok (rs.map fun r => r.artifact.pathIn directory), v) ∧ Settled d rs rs u v) ∨
      (∃ before r after fault v, rs = before ++ r :: after ∧
        u.entry? (stagedAt d r.artifact) = some .directory ∧
        (writeAll directory rs).onTree t =
          (.error (.unwritable (r.artifact.stagedIn directory).temporary fault), v) ∧
        Settled d before [] u v) ∨
      ∃ before r after fault v, rs = before ++ r :: after ∧
        (u.entry? (homeIn d r.artifact) = some .directory ∨
          r.artifact ∈ before.map Rendered.artifact) ∧
        (writeAll directory rs).onTree t =
          (.error (.unwritable (r.artifact.pathIn directory) fault), v) ∧
        Settled d rs before u v := by
  have run : (writeAll directory rs).onTree t =
      match (stage directory [] rs).onTree u with
      | (.ok staged, v) => (install staged).onTree v
      | (.error failure, v) => (.error failure, v) := by
    rw [writeAll, Job.onTree_bind, Job.onTree_require, Program.run_makeDirectories, made]
    change (stage directory [] rs >>= install).onTree u = _
    rw [Job.onTree_bind]
    rcases (stage directory [] rs).onTree u with ⟨_ | _, v⟩ <;> rfl
  rw [run]
  obtain ⟨v, staged, progress⟩ | ⟨before, r, after, fault, v, split, blocked, failed, settled⟩ :=
    stage_onTree opens (Progress.start d u) rs
  · rw [List.nil_append] at staged
    change (stage directory [] rs).onTree u = _ at staged
    rw [staged]
    obtain ⟨w, installed, settled⟩ | ⟨before, r, after, fault, w, split, why, failed, settled⟩ :=
      install_onTree opens progress
    · exact .inl ⟨w, installed, settled⟩
    · exact .inr (.inr ⟨before, r, after, fault, w, split, why, failed, settled⟩)
  · change (stage directory [] rs).onTree u = _ at failed
    rw [failed]
    exact .inr (.inl ⟨before, r, after, fault, v, split, blocked, rfl, settled⟩)

end QueryHeaders.Artifact
