import QueryHeaders.Proofs.Schema.Acceptance

/-!
Where a value stands does not matter to what is found in it: the trail of a check decides on the
pointers of the findings only.
-/
namespace QueryHeaders.Schema

variable {targets : List (String × Rule)} {rule : Rule} {v : Json}

/-- What a finding says, but for the places. -/
def Finding.content (f : Finding) : String × Json := (f.message, f.value)

/-- Along every trail the same is found. -/
def PlaceFree (found : Trail → List Finding) : Prop :=
  ∀ t u, (found t).map Finding.content = (found u).map Finding.content

theorem placeFree_typeFindings (types : List TypeName) (v : Json) :
    PlaceFree fun t => typeFindings types t v := by
  intro t u
  unfold typeFindings
  split <;> rfl

theorem placeFree_requiredFindings (names : List String) (v : Json) :
    PlaceFree fun t => requiredFindings names t v := by
  intro t u
  unfold requiredFindings
  split
  · rw [List.map_map, List.map_map]
    rfl
  · rfl

theorem placeFree_lengthFindings (least : Option Nat) (v : Json) :
    PlaceFree fun t => lengthFindings least t v := by
  intro t u
  unfold lengthFindings
  split
  · split <;> rfl
  · rfl

theorem placeFree_patternFindings (pattern : Option NamedPattern) (v : Json) :
    PlaceFree fun t => patternFindings pattern t v := by
  intro t u
  unfold patternFindings
  split
  · split <;> rfl
  · rfl

theorem placeFree_strayFindings (members : List (String × Json)) :
    PlaceFree fun t => strayFindings members t := by
  intro t u
  unfold strayFindings
  split <;> rfl

theorem placeFree_unknownFindings (known : List (String × Rule)) (members : List (String × Json))
    (v : Json) : PlaceFree fun t => unknownFindings known members t v := by
  intro t u
  unfold unknownFindings
  split <;> rfl

mutual

theorem placeFree_check (rule : Rule) (v : Json) : PlaceFree fun t => check targets rule t v := by
  intro t u
  dsimp only
  rw [check, check, List.map_flatMap, List.map_flatMap]
  congr 1
  funext ⟨steps, resolved⟩
  cases resolved with
  | everything => rfl
  | reference _ _ => rfl
  | nothing => rfl
  | constraints types required properties additional items pattern least =>
      simp only [List.map_append]
      have typed := placeFree_typeFindings types v (t.intoRule steps) (u.intoRule steps)
      have named := placeFree_requiredFindings required v (t.intoRule steps) (u.intoRule steps)
      have matched := placeFree_patternFindings pattern v (t.intoRule steps) (u.intoRule steps)
      have long := placeFree_lengthFindings least v (t.intoRule steps) (u.intoRule steps)
      rw [typed, named, matched, long]
      -- The findings at the value itself agree; what is left are those inside it.
      congr 4
      cases v with
      | object members =>
          dsimp only
          rw [List.map_append, List.map_append,
            placeFree_checkMembers _ additional members _ (u.intoRule steps)]
          congr 1
          split
          · rfl
          · split
            · exact placeFree_strayFindings members _ _
            · exact placeFree_unknownFindings _ members _ _ _
      | array vs =>
          cases items with
          | none => rfl
          | some rule => exact placeFree_checkItems rule vs _ _ 0 0
      | null | bool _ | int _ | float _ | string _ => rfl

theorem placeFree_checkItems (rule : Rule) (vs : List Json) (t u : Trail) (i j : Nat) :
    (checkItems targets rule t i vs).map Finding.content =
      (checkItems targets rule u j vs).map Finding.content := by
  cases vs with
  | nil => rfl
  | cons v rest =>
      rw [checkItems, checkItems, List.map_append, List.map_append,
        placeFree_check rule v _ (u.intoValue (toString j)), placeFree_checkItems rule rest t u]

theorem placeFree_checkMembers (known : List (String × Rule)) (additional : Option Rule)
    (members : List (String × Json)) :
    PlaceFree fun t => checkMembers targets known additional t members := by
  intro t u
  dsimp only
  cases members with
  | nil => rfl
  | cons member rest =>
      obtain ⟨name, v⟩ := member
      unfold checkMembers
      rw [List.map_append, List.map_append, placeFree_checkMembers known additional rest t u]
      congr 1
      split
      · exact placeFree_check _ v _ _
      · rfl
      · split
        · rfl
        · exact placeFree_check _ v _ _

end

/-- What a rule admits in one place it admits everywhere. -/
theorem Admits.check_eq_nil (h : Admits targets rule v) (t : Trail) :
    check targets rule t v = [] := by
  obtain ⟨u, none⟩ := h
  have same : (check targets rule t v).map Finding.content =
      (check targets rule u v).map Finding.content := placeFree_check rule v t u
  rw [none, List.map_nil, List.map_eq_nil_iff] at same
  exact same

end QueryHeaders.Schema
