import QueryHeaders.Yaml.Scalar.Block
import QueryHeaders.Yaml.Scalar.Plain
import QueryHeaders.Yaml.Scalar.Quoted
import QueryHeaders.Yaml.Token.Property

/-!
What scanning leaves.

A scanner of a scalar or a property that succeeds leaves an end of the glyphs it was given, so no
glyph is made up and none changes its place. The scanners of properties never make a document's
start.
-/
namespace QueryHeaders.Yaml

/-- What holds of the result, if there is one. -/
def Ensures {ε α : Type} (P : α → Prop) : Except ε α → Prop
  | .ok a => P a
  | .error _ => True

section Ensures

variable {ε α β : Type} {P Q : α → Prop} {R : β → Prop} {r : Except ε α}

theorem Ensures.ok {a : α} (h : P a) : Ensures P (.ok a : Except ε α) := h

theorem Ensures.error {e : ε} : Ensures P (.error e) := trivial

theorem Ensures.any (r : Except ε α) : Ensures (fun _ => True) r := by
  cases r <;> trivial

theorem Ensures.bind {f : α → Except ε β} (h : Ensures P r) (hf : ∀ a, P a → Ensures R (f a)) :
    Ensures R (r >>= f) := by
  cases r with
  | error e => trivial
  | ok a => exact hf a h

theorem Ensures.mono (h : Ensures P r) (imp : ∀ a, P a → Q a) : Ensures Q r := by
  cases r with
  | error e => trivial
  | ok a => exact imp a h

theorem Ensures.ite_of {c : Prop} [Decidable c] {r' : Except ε α} (h : c → Ensures P r)
    (h' : Ensures P r') : Ensures P (if c then r else r') := by
  split
  · next given => exact h given
  · exact h'

theorem Ensures.ite {c : Prop} [Decidable c] {r' : Except ε α} (h : Ensures P r)
    (h' : Ensures P r') : Ensures P (if c then r else r') :=
  .ite_of (fun _ => h) h'

theorem Ensures.of_eq_ok {a : α} (h : Ensures P r) (given : r = .ok a) : P a := by
  rw [given] at h
  exact h

end Ensures

/-- The reading leaves an end of these. -/
def Leaves {ε α τ : Type} (ts : List τ) : Except ε (α × List τ) → Prop :=
  Ensures fun read => read.2 <:+ ts

section Leaves

variable {ε α β τ : Type} {ts us : List τ}

theorem Leaves.mono {r : Except ε (α × List τ)} (h : Leaves us r) (shorter : us <:+ ts) :
    Leaves ts r :=
  Ensures.mono h fun _ left => left.trans shorter

theorem Leaves.bind {r : Except ε (α × List τ)} {f : α × List τ → Except ε (β × List τ)}
    (h : Leaves ts r) (hf : ∀ a rest, rest <:+ ts → Leaves ts (f (a, rest))) :
    Leaves ts (r >>= f) :=
  Ensures.bind h fun ⟨a, rest⟩ left => hf a rest left

/-- A reading that two ways of starting share. -/
theorem Leaves.bind_ite {c : Prop} [Decidable c] {r r' : Except ε (α × List τ)}
    {f : α × List τ → Except ε (β × List τ)} (h : Leaves ts r) (h' : Leaves ts r')
    (hf : ∀ a rest, rest <:+ ts → Leaves ts (f (a, rest))) :
    Leaves ts (if c then r >>= f else r' >>= f) :=
  .ite (h.bind hf) (h'.bind hf)

end Leaves

variable {gs : List Glyph}

theorem Ensures.glyphError {α : Type} {P : α → Prop} {p : Problem} :
    Ensures P (Glyph.error p gs) := trivial

theorem skipGap_suffix (gs : List Glyph) : Glyph.skipGap gs <:+ gs :=
  List.dropWhile_suffix _

theorem skipLineEnd?_suffix {rest : List Glyph} (h : Glyph.skipLineEnd? gs = some rest) :
    rest <:+ gs := by
  have comment : Glyph.skipComment (Glyph.skipGap gs) <:+ gs := by
    refine List.IsSuffix.trans ?_ (skipGap_suffix gs)
    rw [Glyph.skipComment]
    split
    · exact List.dropWhile_suffix _
    · exact List.suffix_refl _
  rw [Glyph.skipLineEnd?] at h
  split at h
  · cases h
    exact List.nil_suffix
  · next g others left =>
      split at h
      · cases h
        rw [left] at comment
        exact (List.suffix_cons g _).trans comment
      · cases h

/-! ## Properties -/

theorem leaves_scanAnchor (gs : List Glyph) : Leaves gs (scanAnchor gs) := by
  simp only [scanAnchor, scanWord]
  exact .ite .glyphError (.ok (List.dropWhile_suffix _))

theorem leaves_scanTrailBytes (count : Nat) (gs : List Glyph) :
    Leaves gs (scanTrailBytes count gs) := by
  induction count generalizing gs with
  | zero => exact .ok (List.suffix_refl gs)
  | succ count ih =>
      rw [scanTrailBytes]
      split
      · split
        · refine ((ih _).mono (List.drop_suffix 3 gs)).bind fun bytes rest left => ?_
          exact .ok left
        · exact .glyphError
      · exact .glyphError

theorem leaves_scanEscapedChar (gs : List Glyph) : Leaves gs (scanEscapedChar gs) := by
  rw [scanEscapedChar]
  split
  · exact .glyphError
  · split
    · exact .glyphError
    · refine ((leaves_scanTrailBytes _ _).mono (List.drop_suffix 3 gs)).bind
        fun bytes rest left => ?_
      exact .ok left

theorem leaves_scanUri (verbatim : Bool) (fuel : Nat) (gs : List Glyph) :
    Leaves gs (scanUri verbatim fuel gs) := by
  induction fuel generalizing gs with
  | zero => exact .ok (List.suffix_refl gs)
  | succ fuel ih =>
      simp only [scanUri]
      split
      · exact .ok (List.suffix_refl gs)
      · refine .bind_ite (leaves_scanEscapedChar gs) (.ok (List.drop_suffix 1 gs))
          fun first rest left => ?_
        refine ((ih rest).mono left).bind fun others rest left => ?_
        exact .ok left

theorem leaves_scanSuffix (verbatim : Bool) (before : List Char) (mayBeEmpty : Bool)
    (gs : List Glyph) : Leaves gs (scanSuffix verbatim before mayBeEmpty gs) := by
  rw [scanSuffix]
  refine (leaves_scanUri verbatim _ gs).bind fun bytes rest left => ?_
  dsimp only
  split
  · exact .glyphError
  · exact .ok left

theorem leaves_scanTagParts (gs : List Glyph) : Leaves gs (scanTagParts gs) := by
  rw [scanTagParts]
  split
  · refine ((leaves_scanSuffix true [] false _).mono (List.drop_suffix 1 gs)).bind
      fun suffix rest left => ?_
    dsimp only
    split
    · exact .ok ((List.drop_suffix 1 rest).trans left)
    · exact .glyphError
  · have word : (scanWord gs).2 <:+ gs := List.dropWhile_suffix _
    dsimp only
    split
    · refine ((leaves_scanSuffix false [] false _).mono
        ((List.drop_suffix 1 _).trans word)).bind fun suffix rest left => ?_
      exact .ok left
    · refine ((leaves_scanSuffix false _ true _).mono word).bind fun suffix rest left => ?_
      dsimp only
      split
      · exact .ok left
      · exact .ok left

/-- The reading makes no document's start and leaves an end of these. -/
def Tokenizes (gs : List Glyph) : Except Error (Token × List Glyph) → Prop :=
  Ensures fun read => read.1 ≠ .documentStart ∧ read.2 <:+ gs

theorem Tokenizes.mono {us : List Glyph} {r : Except Error (Token × List Glyph)}
    (h : Tokenizes us r) (shorter : us <:+ gs) : Tokenizes gs r :=
  Ensures.mono h fun _ read => ⟨read.1, read.2.trans shorter⟩

theorem tokenizes_scanTag (flow : Bool) (gs : List Glyph) : Tokenizes gs (scanTag flow gs) := by
  rw [scanTag]
  refine Ensures.bind (leaves_scanTagParts gs) fun ⟨parts, rest⟩ left => ?_
  dsimp only
  split
  · exact ⟨nofun, left⟩
  · exact .glyphError

theorem leaves_scanVersionNumber (gs : List Glyph) : Leaves gs (scanVersionNumber gs) := by
  simp only [scanVersionNumber]
  split
  · exact .glyphError
  · exact .ok (List.drop_suffix _ gs)

theorem tokenizes_scanVersion (gs : List Glyph) : Tokenizes gs (scanVersion gs) := by
  rw [scanVersion]
  refine Ensures.bind ((leaves_scanVersionNumber _).mono (skipGap_suffix gs))
    fun ⟨major, rest⟩ left => ?_
  dsimp only
  split
  · refine Ensures.bind ((leaves_scanVersionNumber _).mono
      ((List.drop_suffix 1 rest).trans left)) fun ⟨minor, rest⟩ left => ?_
    exact ⟨nofun, left⟩
  · exact .glyphError

theorem leaves_scanHandle (gs : List Glyph) : Leaves gs (scanHandle gs) := by
  rw [scanHandle]
  split
  · have word : (scanWord (gs.drop 1)).2 <:+ gs :=
      (List.dropWhile_suffix _).trans (List.drop_suffix 1 gs)
    dsimp only
    split
    · exact .ok ((List.drop_suffix 1 _).trans word)
    · split
      · exact .ok word
      · exact .glyphError
  · exact .glyphError

theorem tokenizes_scanTagDirective (gs : List Glyph) : Tokenizes gs (scanTagDirective gs) := by
  rw [scanTagDirective]
  refine Ensures.bind ((leaves_scanHandle _).mono (skipGap_suffix gs))
    fun ⟨handle, rest⟩ left => ?_
  dsimp only
  split
  · exact .glyphError
  · refine Ensures.bind ((leaves_scanSuffix true [] false _).mono
      ((skipGap_suffix rest).trans left)) fun ⟨uri, rest⟩ left => ?_
    dsimp only
    split
    · exact ⟨nofun, left⟩
    · exact .glyphError

/-- The end of the line that a directive takes up. -/
theorem tokenizes_lineEnd {read : Token × List Glyph}
    (h : read.1 ≠ .documentStart ∧ read.2 <:+ gs) :
    Tokenizes gs (match Glyph.skipLineEnd? read.2 with
      | some rest => pure (read.1, rest)
      | none => Glyph.error .malformedDirective read.2) := by
  split
  · next ending => exact ⟨h.1, (skipLineEnd?_suffix ending).trans h.2⟩
  · exact .glyphError

theorem tokenizes_scanDirective (gs : List Glyph) : Tokenizes gs (scanDirective gs) := by
  have word : (scanWord gs).2 <:+ gs := List.dropWhile_suffix _
  rw [scanDirective]
  dsimp only
  split
  · exact .glyphError
  · split
    · exact Ensures.bind ((tokenizes_scanVersion _).mono word) fun _ => tokenizes_lineEnd
    · split
      · exact Ensures.bind ((tokenizes_scanTagDirective _).mono word) fun _ => tokenizes_lineEnd
      · exact Ensures.bind .glyphError fun _ => tokenizes_lineEnd

/-! ## Scalars -/

theorem leaves_blockHeader (gs : List Glyph) : Leaves gs (BlockHeader.scan gs) := by
  rw [BlockHeader.scan]
  dsimp only
  split
  · exact .glyphError
  · split
    · next ending => exact .ok ((skipLineEnd?_suffix ending).trans (List.drop_suffix _ gs))
    · exact .glyphError

theorem ensures_scanIndentation (indent widest : Nat) (breaks : List Char) (gs : List Glyph) :
    Ensures (fun read => read.2.2 <:+ gs) (scanIndentation indent widest breaks gs) := by
  induction gs generalizing widest breaks with
  | nil => exact .ok (List.suffix_refl [])
  | cons g rest ih =>
      have after : ∀ left : List Glyph, left <:+ rest → left <:+ g :: rest :=
        fun left shorter => shorter.trans (List.suffix_cons g rest)
      simp only [scanIndentation]
      split
      · exact (ih _ _).mono fun _ => after _
      · split
        · exact .glyphError
        · split
          · exact (ih _ _).mono fun _ => after _
          · exact .ok (List.suffix_refl _)

theorem leaves_scanBlockLines (folded : Bool) (indent fuel : Nat) (text : BlockText)
    (gs : List Glyph) : Leaves gs (scanBlockLines folded indent fuel text gs) := by
  induction fuel generalizing text gs with
  | zero =>
      rw [scanBlockLines]
      exact .ok (List.suffix_refl gs)
  | succ fuel ih =>
      cases gs with
      | nil => exact .ok (List.suffix_refl [])
      | cons g rest =>
          simp only [scanBlockLines]
          split
          · exact .ok (List.suffix_refl _)
          · have line : ((g :: rest).dropWhile fun g => !isBreak g.char).drop 1 <:+ g :: rest :=
              (List.drop_suffix 1 _).trans (List.dropWhile_suffix _)
            split
            · exact .error
            · next found =>
                have after := (ensures_scanIndentation indent 0 [] _).of_eq_ok found
                exact (ih _ _).mono (after.trans line)

theorem leaves_scanBlock (folded : Bool) (outer : Nat) (gs : List Glyph) :
    Leaves gs (scanBlock folded outer gs) := by
  rw [scanBlock]
  refine (leaves_blockHeader gs).bind fun header rest left => ?_
  refine Ensures.bind (ensures_scanIndentation _ 0 [] rest)
    fun ⟨widest, breaks, rest'⟩ shorter => ?_
  refine Ensures.bind (leaves_scanBlockLines _ _ _ _ rest') fun ⟨text, rest''⟩ last => ?_
  exact .ok (last.trans (shorter.trans left))

theorem ensures_scanPlain (flow : Bool) (indent : Nat) (done : List Char) (gap : Gap)
    (gs : List Glyph) :
    Ensures (fun read => read.2.2 <:+ gs) (scanPlain flow indent done gap gs) := by
  induction gs generalizing done gap with
  | nil => exact .ok (List.suffix_refl [])
  | cons g rest ih =>
      have after : ∀ left : List Glyph, left <:+ rest → left <:+ g :: rest :=
        fun left shorter => shorter.trans (List.suffix_cons g rest)
      simp only [scanPlain]
      split
      · split
        · exact .glyphError
        · exact (ih _ _).mono fun _ => after _
      · split
        · exact .ok (List.suffix_refl _)
        · split
          · exact .glyphError
          · split
            · exact .ok (List.suffix_refl _)
            · exact (ih _ _).mono fun _ => after _

theorem leaves_scanEscape (gs : List Glyph) : Leaves gs (scanEscape gs) := by
  simp only [scanEscape]
  split
  · exact .ok (List.drop_suffix 1 gs)
  · split
    · exact .glyphError
    · split
      · exact .glyphError
      · split
        · exact .ok (List.drop_suffix _ gs)
        · exact .glyphError

theorem leaves_scanQuoted (single : Bool) (fuel : Nat) (done : List Char) (gap : Gap)
    (gs : List Glyph) : Leaves gs (scanQuoted single fuel done gap gs) := by
  induction fuel generalizing done gap gs with
  | zero =>
      rw [scanQuoted]
      exact .glyphError
  | succ fuel ih =>
      cases gs with
      | nil => exact .glyphError
      | cons g rest =>
          have one : rest <:+ g :: rest := List.suffix_cons g rest
          have two : rest.drop 1 <:+ g :: rest := (List.drop_suffix 1 rest).trans one
          simp only [scanQuoted]
          refine .ite .glyphError (.ite ((ih _ _ _).mono one) (.ite ?_ (.ite ?_ ?_)))
          · exact .ite ((ih _ _ _).mono two) (.ok one)
          · refine .ite ((ih _ _ _).mono two) ?_
            split
            · exact .error
            · next escaped =>
                have left : _ <:+ rest := (leaves_scanEscape rest).of_eq_ok escaped
                exact (ih _ _ _).mono (left.trans one)
          · exact (ih _ _ _).mono one

end QueryHeaders.Yaml
