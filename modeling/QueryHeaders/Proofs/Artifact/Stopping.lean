import QueryHeaders.Proofs.Artifact.AllOrNothing
import QueryHeaders.Proofs.Artifact.Destination

/-!
What a run that fails leaves behind.

A run stops at one call. The texts moved by then are at home, those only staged have been removed
again, and all else is as before, apart from the directories made for the output directory. As these
are made first, a path that goes up can have one made at a destination.
-/
namespace QueryHeaders.Artifact

open FileTree

variable {d : Place} {rs : List Rendered} {t u w : FileTree} {directory : String}

/-- The call at which a run stops: making the directory, or staging or moving the text at a
position. -/
inductive Stop where
  | making
  | staging (i : Nat)
  | moving (i : Nat)

namespace Stop

/-- How many texts have been moved by then. -/
def moved : Stop → Nat
  | .making | .staging _ => 0
  | .moving i => i

/-- How many of `n` texts have been staged by then. -/
def staged (n : Nat) : Stop → Nat
  | .making => 0
  | .staging i => i
  | .moving _ => n

/-- The path that the call is about. -/
def path? (directory : String) (rs : List Rendered) : Stop → Option String
  | .making => some directory
  | .staging i => rs[i]?.map fun r => stagingPath (r.artifact.pathIn directory)
  | .moving i => rs[i]?.map fun r => r.artifact.pathIn directory

theorem mem_staged_of_mem_moved {stop : Stop} {r : Rendered} (h : r ∈ rs.take stop.moved) :
    r ∈ rs.take (stop.staged rs.length) := by
  cases stop with
  | making | staging i => simp [moved] at h
  | moving i =>
      rw [staged, List.take_length]
      exact List.mem_of_mem_take h

end Stop

/-- What a run that stops has made of the tree `t`. -/
structure Leaves (directory : String) (rs : List Rendered) (stop : Stop) (t u : FileTree) :
    Prop where
  home : ∀ r ∈ rs.take stop.moved,
    u.find? (r.artifact.pathIn directory) = some (.file (.text r.content))
  waiting : ∀ p, IsHome directory (rs.drop stop.moved) p → KeptOrMade (Path.way directory) t u p
  clean : ∀ p, IsBeside directory (rs.take (stop.staged rs.length)) p → u.entry? p = none
  untouched : ∀ p, IsBeside directory (rs.drop (stop.staged rs.length)) p →
    KeptOrMade (Path.way directory) t u p
  outside : ∀ p, ¬ IsHome directory rs p → ¬ IsBeside directory rs p →
    KeptOrMade (Path.way directory) t u p

theorem leaves_makeDirectories (t : FileTree) (directory : String) (rs : List Rendered) :
    Leaves directory rs .making t (t.makeDirectories directory).2 where
  home := by simp [Stop.moved]
  waiting := fun p _ => keptOrMade_makeDirectories t directory p
  clean := by simp [Stop.staged, IsBeside]
  untouched := fun p _ => keptOrMade_makeDirectories t directory p
  outside := fun p _ _ => keptOrMade_makeDirectories t directory p

theorem Settled.leaves {stop : Stop} (distinct : (rs.map Rendered.artifact).Nodup)
    (made : t.makeDirectories directory = (.ok (), w)) (opens : w.Opens directory d)
    (h : Settled d (rs.take (stop.staged rs.length)) (rs.take stop.moved) w u) :
    Leaves directory rs stop t u := by
  have placed := opens.place
  have openU := opens.mono h.toConfined.keepsDirectories
  have kept (p : Place) (same : u.entry? p = w.entry? p) :
      KeptOrMade (Path.way directory) t u p := by
    rw [KeptOrMade, same]
    exact keptOrMade_of_made made p
  constructor
  · intro r member
    have staged := Stop.mem_staged_of_mem_moved member
    have distinctStaged : ((rs.take (stop.staged rs.length)).map Rendered.artifact).Nodup :=
      distinct.sublist ((List.take_sublist _ rs).map Rendered.artifact)
    rw [find?_pathIn openU, h.home r member, finalEntry_of_distinct distinctStaged staged]
  · intro p isHome
    rw [isHome_iff placed] at isHome
    obtain ⟨r, member, rfl⟩ := isHome
    apply kept
    refine h.frame _ (fun x _ => stagedAt_ne_homeIn.symm) fun x first same => ?_
    rw [homeIn_inj] at same
    exact ne_of_mem_take_of_mem_drop distinct first member same
  · intro p isBeside
    rw [isBeside_iff placed] at isBeside
    obtain ⟨r, member, rfl⟩ := isBeside
    exact h.clean r member
  · intro p isBeside
    rw [isBeside_iff placed] at isBeside
    obtain ⟨r, member, rfl⟩ := isBeside
    apply kept
    refine h.frame _ (fun x first same => ?_) fun x _ => stagedAt_ne_homeIn
    rw [stagedAt_inj] at same
    exact ne_of_mem_take_of_mem_drop distinct first member same
  · intro p notHome notBeside
    rw [isHome_iff placed] at notHome
    rw [isBeside_iff placed] at notBeside
    apply kept
    apply h.frame
    · intro r member same
      exact notBeside ⟨r, List.mem_of_mem_take member, same⟩
    · intro r member same
      exact notHome ⟨r, List.mem_of_mem_take member, same⟩

/-- A run that fails reports the call at which it stops. -/
theorem failed_write_leaves {failure : Failure} (distinct : (rs.map Rendered.artifact).Nodup)
    (failed : (writeAll directory rs).onTree t = (.error failure, u)) :
    (∃ stop path fault, stop.path? directory rs = some path ∧ failure = .unwritable path fault ∧
      Leaves directory rs stop t u) ∧
    (".." ∉ Path.steps directory →
      ∀ p, IsHome directory rs p ∨ IsBeside directory rs p → p ∉ Path.way directory) := by
  refine ⟨?_, fun down p => notMem_way down⟩
  rcases made : t.makeDirectories directory with ⟨fault | _, w⟩
  · rw [writeAll_of_error made] at failed
    cases failed
    refine ⟨.making, directory, fault, rfl, rfl, ?_⟩
    have leaves := leaves_makeDirectories t directory rs
    rwa [made] at leaves
  · obtain ⟨d, opens⟩ := opens_of_makeDirectories made
    obtain ⟨v, done, _⟩ | ⟨before, r, after, fault, v, split, _, stopped, settled⟩ |
      ⟨before, r, after, fault, v, split, _, stopped, settled⟩ := writeAll_of_ok made opens rs
    · rw [done] at failed
      cases failed
    · rw [stopped] at failed
      cases failed
      refine ⟨.staging before.length, _, fault, ?_, rfl, ?_⟩
      · simp [Stop.path?, split, stagedIn]
      · apply Settled.leaves distinct made opens
        simpa [Stop.staged, Stop.moved, split] using settled
    · rw [stopped] at failed
      cases failed
      refine ⟨.moving before.length, _, fault, ?_, rfl, ?_⟩
      · simp [Stop.path?, split]
      · apply Settled.leaves distinct made opens
        have staged : rs.take (Stop.staged rs.length (.moving before.length)) = rs :=
          List.take_length
        have moved : rs.take (Stop.moved (.moving before.length)) = before := by
          simp [Stop.moved, split]
        rwa [staged, moved]

theorem failed_write_leaves_blockedTree :
    ∃ failure u, (twoTexts.map Rendered.artifact).Nodup ∧
      (writeAll "o" twoTexts).onTree blockedTree = (.error failure, u) ∧
      (∃ stop path fault, stop.path? "o" twoTexts = some path ∧
        failure = .unwritable path fault ∧ Leaves "o" twoTexts stop blockedTree u) ∧
      (".." ∉ Path.steps "o" →
        ∀ p, IsHome "o" twoTexts p ∨ IsBeside "o" twoTexts p → p ∉ Path.way "o") :=
  ⟨_, _, by decide, rfl, failed_write_leaves (by decide) rfl⟩

def oneText : List Rendered := [⟨.declarations .pure, "first"⟩]

/-- A directory is made at the destination, on the way of the output directory. -/
theorem made_destination_differs :
    ∃ failure u,
      (writeAll "o/Query_Definition.hpp/.." oneText).onTree .empty = (.error failure, u) ∧
      ¬ ∃ k,
        (∀ r ∈ oneText.take k, u.find? (r.artifact.pathIn "o/Query_Definition.hpp/..") =
          some (.file (.text r.content))) ∧
        ∀ r ∈ oneText.drop k, u.find? (r.artifact.pathIn "o/Query_Definition.hpp/..") =
          FileTree.empty.find? (r.artifact.pathIn "o/Query_Definition.hpp/..") := by
  refine ⟨_, _, rfl, ?_⟩
  intro claimed
  obtain ⟨k, home, others⟩ := claimed
  cases k with
  | zero =>
      have same := others ⟨.declarations .pure, "first"⟩ (by simp [oneText])
      have standing := congrArg Option.isSome same
      exact absurd standing (by decide)
  | succ k =>
      have same := home ⟨.declarations .pure, "first"⟩ (by simp [oneText])
      have standing := congrArg (Option.map Entry.kind) same
      exact absurd standing (by decide)

end QueryHeaders.Artifact
