/-!
Splitting a text at a character, and replacing pairs of characters.
-/
namespace QueryHeaders.Text

/-- The pieces between the places where `sep` stands; there is always one. -/
def pieces (sep : Char) : List Char → List (List Char)
  | [] => [[]]
  | c :: rest =>
      if c = sep then [] :: pieces sep rest
      else
        match pieces sep rest with
        | [] => [[c]]
        | p :: ps => (c :: p) :: ps

/-- Writes `c` for every `a` that is followed by `b`, from left to right. -/
def replacePair (a b c : Char) : List Char → List Char
  | [] => []
  | [x] => [x]
  | x :: y :: rest =>
      if x = a ∧ y = b then c :: replacePair a b c rest
      else x :: replacePair a b c (y :: rest)

end QueryHeaders.Text
