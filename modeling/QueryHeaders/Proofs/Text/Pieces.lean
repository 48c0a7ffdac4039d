import QueryHeaders.Text.Pieces

/-!
Splitting a text at a character, replacing pairs, and joining texts.

A text that does not hold the character is one piece, and the pieces of two texts that it joins are
those of the one and then those of the other. A joined text has the characters of what is joined and
of what stands between.
-/
namespace QueryHeaders.Text

theorem pieces_ne_nil (sep : Char) (cs : List Char) : pieces sep cs ≠ [] := by
  cases cs with
  | nil => simp [pieces]
  | cons c rest =>
      rw [pieces]
      split
      · simp
      · split <;> simp

theorem pieces_of_notMem {sep : Char} {cs : List Char} (h : sep ∉ cs) : pieces sep cs = [cs] := by
  induction cs with
  | nil => rfl
  | cons c rest ih =>
      have hc : c ≠ sep := fun same => h (by simp [same])
      rw [pieces, if_neg hc, ih fun member => h (List.mem_cons_of_mem c member)]

theorem pieces_append (sep : Char) (a b : List Char) :
    pieces sep (a ++ sep :: b) = pieces sep a ++ pieces sep b := by
  induction a with
  | nil => simp [pieces]
  | cons c a ih =>
      rw [List.cons_append, pieces, pieces, ih]
      split
      · rfl
      · cases h : pieces sep a with
        | nil => exact absurd h (pieces_ne_nil sep a)
        | cons p ps => rfl

theorem notMem_of_mem_pieces {sep : Char} {cs p : List Char} (h : p ∈ pieces sep cs) :
    sep ∉ p := by
  induction cs generalizing p with
  | nil =>
      rw [pieces, List.mem_singleton] at h
      simp [h]
  | cons c rest ih =>
      rw [pieces] at h
      split at h
      · rcases List.mem_cons.mp h with empty | later
        · simp [empty]
        · exact ih later
      · next other =>
          cases split : pieces sep rest with
          | nil => exact absurd split (pieces_ne_nil sep rest)
          | cons first others =>
              rw [split] at h
              rcases List.mem_cons.mp h with grown | later
              · rw [grown, List.mem_cons, not_or]
                exact ⟨fun same => other same.symm, ih (by simp [split])⟩
              · exact ih (by simp [split, later])

theorem replacePair_cons_of_ne {a b c x : Char} (h : x ≠ a) (cs : List Char) :
    replacePair a b c (x :: cs) = x :: replacePair a b c cs := by
  cases cs with
  | nil => rfl
  | cons y rest => rw [replacePair, if_neg fun pair => h pair.1]

theorem replacePair_pair (a b c : Char) (cs : List Char) :
    replacePair a b c (a :: b :: cs) = c :: replacePair a b c cs := by
  rw [replacePair, if_pos ⟨rfl, rfl⟩]

theorem toList_intercalate_cons (s : String) (ss : List String) :
    (" ".intercalate (s :: ss)).toList = s.toList ++ ss.flatMap fun t => ' ' :: t.toList := by
  induction ss generalizing s with
  | nil => simp
  | cons t ss ih =>
      rw [String.intercalate_cons_cons, String.toList_append, String.toList_append, ih,
        List.append_assoc]
      rfl

theorem forall_mem_intercalate {P : Char → Prop} {sep : String} {ss : List String}
    (hSep : ∀ c ∈ sep.toList, P c) (h : ∀ s ∈ ss, ∀ c ∈ s.toList, P c) :
    ∀ c ∈ (sep.intercalate ss).toList, P c := by
  induction ss with
  | nil => simp
  | cons first rest ih =>
      obtain ⟨hFirst, hRest⟩ := List.forall_mem_cons.mp h
      cases rest with
      | nil =>
          rw [String.intercalate_singleton]
          exact hFirst
      | cons second others =>
          rw [String.intercalate_cons_cons, String.toList_append, String.toList_append]
          exact List.forall_mem_append.mpr ⟨List.forall_mem_append.mpr ⟨hFirst, hSep⟩, ih hRest⟩

end QueryHeaders.Text
