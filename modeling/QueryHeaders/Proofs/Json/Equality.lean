import QueryHeaders.Json.Basic

/-!
Equality of JSON values is decidable.

Lists of values and of members stand inside a value, so that no instance can be derived. Two values
are compared constructor by constructor, together with the two kinds of lists.
-/
namespace QueryHeaders.Json

mutual

def alike : Json → Json → Bool
  | .null, .null => true
  | .bool b, .bool c => b == c
  | .int m, .int n => m == n
  | .float x, .float y => x == y
  | .string s, .string t => s == t
  | .array items, .array others => alikeItems items others
  | .object members, .object others => alikeMembers members others
  | _, _ => false

def alikeItems : List Json → List Json → Bool
  | [], [] => true
  | v :: rest, w :: others => alike v w && alikeItems rest others
  | _, _ => false

def alikeMembers : List (String × Json) → List (String × Json) → Bool
  | [], [] => true
  | (name, v) :: rest, (other, w) :: others =>
      name == other && alike v w && alikeMembers rest others
  | _, _ => false

end

mutual

theorem alike_iff : (v w : Json) → (alike v w = true ↔ v = w)
  | .null, w | .bool _, w | .int _, w | .float _, w | .string _, w => by
      cases w <;> simp [alike]
  | .array items, w => by
      cases w with
      | array others => rw [alike, alikeItems_iff items others, Json.array.injEq]
      | _ => simp [alike]
  | .object members, w => by
      cases w with
      | object others => rw [alike, alikeMembers_iff members others, Json.object.injEq]
      | _ => simp [alike]

theorem alikeItems_iff : (vs ws : List Json) → (alikeItems vs ws = true ↔ vs = ws)
  | [], ws => by cases ws <;> simp [alikeItems]
  | v :: rest, ws => by
      cases ws with
      | nil => simp [alikeItems]
      | cons w others =>
          rw [alikeItems, Bool.and_eq_true, alike_iff v w, alikeItems_iff rest others,
            List.cons.injEq]

theorem alikeMembers_iff : (ms ns : List (String × Json)) → (alikeMembers ms ns = true ↔ ms = ns)
  | [], ns => by cases ns <;> simp [alikeMembers]
  | (name, v) :: rest, ns => by
      cases ns with
      | nil => simp [alikeMembers]
      | cons n others =>
          obtain ⟨other, w⟩ := n
          rw [alikeMembers, Bool.and_eq_true, Bool.and_eq_true, beq_iff_eq, alike_iff v w,
            alikeMembers_iff rest others, List.cons.injEq, Prod.mk.injEq]

end

instance : DecidableEq Json := fun v w => decidable_of_iff _ (alike_iff v w)

end QueryHeaders.Json
