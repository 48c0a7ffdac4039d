/-!
Splitting a text at a separator of several characters.

Texts with a separator between them are found again by splitting at it, provided that its first
character stands in none of them: no separator begins within a piece, and so each is met where it
was put.
-/
namespace QueryHeaders.Text

open String.Slice.Pattern.Model

/-- The pieces between the places where `sep` stands; there is always one. -/
def piecesBetween (sep text : String) : List String :=
  (text.split sep).toList.map String.Slice.copy

/-- From a position on, which opens a piece, these are the pieces. -/
def SplitsInto (sep : String) [StrictPatternModel sep] {s : String.Slice} (p : s.Pos)
    (ss : List String) : Prop :=
  (String.Slice.Pattern.Model.split sep p p (String.Slice.Pos.le_refl p)).map
    (fun part => part.toSlice.copy) = ss

variable {sep : String} {first : Char} {s : String.Slice} {p q : s.Pos}
  {before piece after : String} {ss : List String}

theorem le_rotateRight (splits : p.Splits before (piece ++ after)) : p ≤ splits.rotateRight :=
  (splits.le_iff_exists_eq_append splits.splits_rotateRight).mpr ⟨piece, rfl, rfl⟩

theorem copy_slice_rotateRight (splits : p.Splits before (piece ++ after))
    (le : p ≤ splits.rotateRight) : (s.slice p splits.rotateRight le).copy = piece := by
  obtain ⟨_, same⟩ :=
    String.Slice.copy_slice_eq_iff_splits.mpr ⟨before, after, splits, splits.splits_rotateRight⟩
  exact same

/-- No separator begins within a piece that does not hold its first character. -/
theorem not_matchesAt_of_notMem (opens : sep.toList.head? = some first)
    (clean : first ∉ piece.toList) (splits : p.Splits before (piece ++ after)) (le : p ≤ q)
    (lt : q < splits.rotateRight) : ¬ MatchesAt sep q := by
  intro found
  obtain ⟨passed, rest, here⟩ := ForwardStringSearcher.matchesAt_iff_splits.mp found
  obtain ⟨ahead, given, whole, same⟩ :=
    (here.lt_iff_exists_eq_append splits.splits_rotateRight).mp lt
  obtain ⟨begun, rfl, _⟩ := (splits.le_iff_exists_eq_append here).mp le
  -- What is left of the piece is not empty and begins as the separator does.
  have left : piece = begun ++ ahead := by
    rw [String.append_assoc] at whole
    exact (String.append_right_inj _).mp whole
  have head : ahead.toList.head? = some first := by
    have heads := congrArg (fun text => text.toList.head?) same
    simp only [String.toList_append, List.head?_append, opens] at heads
    cases chars : ahead.toList with
    | nil => exact absurd (String.toList_eq_nil_iff.mp chars) given
    | cons c rest => simpa [chars] using heads.symm
  apply clean
  rw [left, String.toList_append]
  exact List.mem_append_right _ (List.mem_of_head? head)

/-- The last piece reaches to the end. -/
theorem splitsInto_of_notMem [StrictPatternModel sep] (opens : sep.toList.head? = some first)
    (clean : first ∉ piece.toList) (splits : p.Splits before piece) : SplitsInto sep p [piece] := by
  rw [← String.append_empty (s := piece)] at splits
  have finish : splits.rotateRight = s.endPos := splits.splits_rotateRight.eq_endPos_iff.mpr rfl
  have last := copy_slice_rotateRight splits (le_rotateRight splits)
  rw [SplitsInto, split_eq_of_not_matchesAt _ (le_rotateRight splits) fun q le lt =>
    not_matchesAt_of_notMem opens clean splits le lt]
  simp only [finish] at last ⊢
  rw [split_endPos, List.map_singleton, String.Slice.toSlice_subslice, last]

/-- A piece ends where a separator begins, and the next one opens behind that. -/
theorem splitsInto_append [StrictPatternModel sep] (opens : sep.toList.head? = some first)
    (clean : first ∉ piece.toList) (splits : p.Splits before (piece ++ (sep ++ after)))
    (further : SplitsInto sep splits.splits_rotateRight.rotateRight ss) :
    SplitsInto sep p (piece :: ss) := by
  have behind := splits.splits_rotateRight
  have met : IsLongestMatchAt sep splits.rotateRight behind.rotateRight :=
    ForwardStringSearcher.isLongestMatchAt_iff_splits.mpr
      ⟨_, _, behind, behind.splits_rotateRight⟩
  rw [SplitsInto, split_eq_of_not_matchesAt _ (le_rotateRight splits) fun q le lt =>
      not_matchesAt_of_notMem opens clean splits le lt,
    split_eq_of_isLongestMatchAt met, List.map_cons, further, String.Slice.toSlice_subslice,
    copy_slice_rotateRight]

theorem splitsInto_intercalate [StrictPatternModel sep] (opens : sep.toList.head? = some first)
    (given : ss ≠ []) (clean : ∀ t ∈ ss, first ∉ t.toList)
    (splits : p.Splits before (sep.intercalate ss)) : SplitsInto sep p ss := by
  induction ss generalizing p before with
  | nil => exact absurd rfl given
  | cons t others ih =>
      obtain ⟨cleanFirst, clean⟩ := List.forall_mem_cons.mp clean
      cases others with
      | nil =>
          rw [String.intercalate_singleton] at splits
          exact splitsInto_of_notMem opens cleanFirst splits
      | cons u more =>
          rw [String.intercalate_cons_cons, String.append_assoc] at splits
          have behind := splits.splits_rotateRight.splits_rotateRight
          exact splitsInto_append opens cleanFirst splits (ih (by simp) clean behind)

theorem piecesBetween_eq_of_splitsInto [StrictPatternModel sep] (given : sep ≠ "") {text : String}
    (parts : SplitsInto sep text.toSlice.startPos ss) : piecesBetween sep text = ss := by
  have lawful := ForwardStringSearcher.lawfulToForwardSearcherModel given
  rw [piecesBetween, String.split_eq_split_toSlice, String.Slice.toList_split_eq_splitToSubslice,
    String.Slice.Pattern.toList_splitToSubslice_eq_modelSplit, List.map_map]
  exact parts

/-- What stands between separators is found again, if the first character of the separator stands
in no piece. -/
theorem piecesBetween_intercalate (opens : sep.toList.head? = some first)
    (clean : ∀ t ∈ ss, first ∉ t.toList) :
    piecesBetween sep (sep.intercalate ss) = if ss = [] then [""] else ss := by
  have notEmpty : sep ≠ "" := by
    rintro rfl
    cases opens
  have strict := ForwardStringSearcher.strictPatternModel notEmpty
  have start := (sep.intercalate ss).toSlice.splits_startPos
  rw [String.copy_toSlice] at start
  apply piecesBetween_eq_of_splitsInto notEmpty
  split
  · next none =>
      subst none
      exact splitsInto_of_notMem opens (by simp) start
  · next given => exact splitsInto_intercalate opens given clean start

/-- A joined text stands for one list of pieces only, where no piece is empty. -/
theorem eq_of_intercalate_eq {ts : List String} (opens : sep.toList.head? = some first)
    (clean : ∀ t ∈ ss, first ∉ t.toList) (cleanToo : ∀ t ∈ ts, first ∉ t.toList)
    (given : "" ∉ ss) (givenToo : "" ∉ ts) (same : sep.intercalate ss = sep.intercalate ts) :
    ss = ts := by
  have pieces : (if ss = [] then [""] else ss) = if ts = [] then [""] else ts := by
    rw [← piecesBetween_intercalate opens clean, same, piecesBetween_intercalate opens cleanToo]
  by_cases none : ss = []
  · by_cases noneToo : ts = []
    · rw [none, noneToo]
    · rw [if_pos none, if_neg noneToo] at pieces
      rw [← pieces] at givenToo
      exact absurd (List.mem_singleton_self "") givenToo
  · rw [if_neg none] at pieces
    split at pieces
    · rw [pieces] at given
      exact absurd (List.mem_singleton_self "") given
    · exact pieces

end QueryHeaders.Text
