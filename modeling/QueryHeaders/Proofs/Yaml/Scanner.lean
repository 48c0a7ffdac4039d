import QueryHeaders.Proofs.Yaml.Leftover
import QueryHeaders.Yaml.Token.Stream

/-!
Where the starts of documents come from.

A scanner reads its glyphs from the front. Each of its steps leaves an end of them, and only the
marker of a document at the start of a line makes the token for a document's start.
-/
namespace QueryHeaders.Yaml

namespace Scanner

variable {s t u : Scanner} {gs : List Glyph}

/-- From `s` to `t` glyphs have been read and no document has been started. -/
structure Goes (s t : Scanner) : Prop where
  left : t.rest <:+ s.rest
  unmarked : .documentStart ∈ t.output.flatten → .documentStart ∈ s.output.flatten

theorem Goes.refl (s : Scanner) : Goes s s := ⟨List.suffix_refl _, id⟩

theorem Goes.trans (h : Goes s t) (h' : Goes t u) : Goes s u :=
  ⟨h'.left.trans h.left, h.unmarked ∘ h'.unmarked⟩

/-- Only what has been read counts. -/
theorem Goes.of_eq (left : t.rest = s.rest) (output : t.output = s.output) : Goes s t where
  left := left ▸ List.suffix_refl _
  unmarked := output ▸ id

theorem Goes.bind {r : Except Error Scanner} {f : Scanner → Except Error Scanner}
    (h : Ensures (Goes s) r) (hf : ∀ t, Ensures (Goes t) (f t)) : Ensures (Goes s) (r >>= f) :=
  Ensures.bind h fun t reached => (hf t).mono fun _ => reached.trans

theorem Goes.drop (n : Nat) (h : Goes s t) : Goes s { t with rest := t.rest.drop n } :=
  ⟨(List.drop_suffix n _).trans h.left, h.unmarked⟩

theorem goes_addSlot {ts : List Token} (h : .documentStart ∉ ts) (s : Scanner) :
    Goes s (s.addSlot ts) where
  left := List.suffix_refl _
  unmarked made := by
    rw [addSlot, List.flatten_cons, List.mem_append] at made
    exact made.resolve_left h

theorem goes_emit (token : Token) (h : token ≠ .documentStart) (s : Scanner) :
    Goes s (s.emit token) :=
  goes_addSlot (by simpa using h.symm) s

theorem goes_fillSlot (slot : Nat) {ts : List Token} (h : .documentStart ∉ ts) (s : Scanner) :
    Goes s (s.fillSlot slot ts) where
  left := List.suffix_refl _
  unmarked made := by
    obtain ⟨tokens, member, inside⟩ := List.mem_flatten.mp made
    obtain before | rfl := List.mem_or_eq_of_mem_set member
    · exact List.mem_flatten.mpr ⟨tokens, before, inside⟩
    · exact absurd inside h

theorem goes_take (n : Nat) (token : Token) (h : token ≠ .documentStart) (s : Scanner) :
    Goes s (s.take n token) :=
  (goes_emit token h s).drop n

theorem goes_allowKey (b : Bool) (s : Scanner) : Goes s (s.allowKey b) := .of_eq rfl rfl

theorem ensures_fail {P : Scanner → Prop} {p : Problem} : Ensures P (s.fail p) := trivial

/-! ## Keys and indentation -/

theorem goes_dropKey (s : Scanner) : Ensures (Goes s) s.dropKey := by
  rw [dropKey]
  split
  · exact .ite trivial (.of_eq rfl rfl)
  · exact .refl s

theorem goes_markKey (s : Scanner) : Ensures (Goes s) s.markKey := by
  rw [markKey]
  refine .ite (.refl s) (Goes.bind (goes_dropKey s) fun t => ?_)
  exact (goes_addSlot List.not_mem_nil t).trans (.of_eq rfl rfl)

theorem goes_dropStaleKeys (s : Scanner) : Ensures (Goes s) s.dropStaleKeys := by
  rw [dropStaleKeys]
  refine Ensures.bind (.any _) fun pending _ => Ensures.bind (.any _) fun others _ => ?_
  exact Goes.of_eq rfl rfl

theorem goes_openBlock (column : Nat) (first : Token) (h : first ≠ .documentStart) (s : Scanner) :
    Goes s (s.openBlock column first).1 ∧ .documentStart ∉ (s.openBlock column first).2 := by
  rw [openBlock]
  split
  · exact ⟨.of_eq rfl rfl, by simpa using h.symm⟩
  · exact ⟨.refl s, List.not_mem_nil⟩

theorem goes_openBlockHere (first : Token) (h : first ≠ .documentStart) (s : Scanner) :
    Goes s (s.openBlockHere first) := by
  obtain ⟨opened, other⟩ := goes_openBlock s.place.2 first h s
  exact opened.trans (goes_addSlot other _)

theorem goes_closeDeeper (column : Option Nat) (outer : List (Option Nat)) (s : Scanner) :
    Goes s (closeDeeper column outer s) := by
  induction outer generalizing s with
  | nil =>
      simp only [closeDeeper]
      split
      · exact .refl s
      · split <;> exact .refl s
  | cons o others ih =>
      have lower : Goes s { s with indent := o, outer := others } := .of_eq rfl rfl
      have closed := lower.trans (goes_emit .blockEnd nofun _)
      simp only [closeDeeper]
      split
      · exact .refl s
      · split
        · exact .refl s
        · exact closed.trans (ih _)

theorem goes_closeBlocks (column : Option Nat) (s : Scanner) : Goes s (s.closeBlocks column) := by
  rw [closeBlocks]
  split
  · exact .refl s
  · exact goes_closeDeeper column s.outer s

theorem skipGaps_suffix (flow comment keyAllowed : Bool) (gs : List Glyph) :
    (skipGaps flow comment keyAllowed gs).2 <:+ gs := by
  induction gs generalizing comment keyAllowed with
  | nil => exact List.suffix_refl []
  | cons g rest ih =>
      have after : ∀ comment keyAllowed, (skipGaps flow comment keyAllowed rest).2 <:+ g :: rest :=
        fun comment keyAllowed => (ih comment keyAllowed).trans (List.suffix_cons g rest)
      rw [skipGaps]
      split
      · exact after _ _
      · split
        · exact after _ _
        · split
          · exact after _ _
          · exact List.suffix_refl _

theorem goes_advance (s : Scanner) : Ensures (Goes s) s.advance := by
  have skipped : Goes s { s with
      rest := (skipGaps s.inFlow false s.keyAllowed s.rest).2
      keyAllowed := (skipGaps s.inFlow false s.keyAllowed s.rest).1 } :=
    ⟨skipGaps_suffix _ _ _ _, id⟩
  rw [advance]
  refine Goes.bind ((goes_dropStaleKeys _).mono fun _ => skipped.trans) fun t => ?_
  show Goes t (if t.rest.isEmpty then t else t.closeBlocks (some t.place.2))
  split
  · exact .refl t
  · exact goes_closeBlocks _ t

/-! ## Tokens -/

theorem goes_leaveDocument (s : Scanner) : Ensures (Goes s) s.leaveDocument := by
  rw [leaveDocument]
  refine Ensures.bind ((goes_dropKey _).mono fun _ => (goes_closeBlocks none s).trans) ?_
  exact fun t reached => reached.trans (goes_allowKey false t)

theorem goes_enterFlow (token : Token) (h : token ≠ .documentStart) (s : Scanner) :
    Ensures (Goes s) (s.enterFlow token) := by
  rw [enterFlow]
  refine Goes.bind (goes_markKey s) fun t => ?_
  exact (goes_take 1 token h t).trans (.of_eq rfl rfl)

theorem goes_leaveFlow (token : Token) (h : token ≠ .documentStart) (s : Scanner) :
    Ensures (Goes s) (s.leaveFlow token) := by
  rw [leaveFlow]
  refine Goes.bind (goes_dropKey s) fun t => ?_
  have taken : Goes t ((t.allowKey false).take 1 token) :=
    (goes_allowKey false t).trans (goes_take 1 token h _)
  dsimp only
  split
  · exact taken
  · exact taken.trans (.of_eq rfl rfl)

theorem goes_flowEntry (s : Scanner) : Ensures (Goes s) s.flowEntry := by
  rw [flowEntry]
  refine Goes.bind (goes_dropKey s) fun t => ?_
  exact (goes_allowKey true t).trans (goes_take 1 .flowEntry nofun _)

theorem goes_blockEntry (s : Scanner) : Ensures (Goes s) s.blockEntry := by
  rw [blockEntry]
  refine .ite ensures_fail (Ensures.bind ((goes_dropKey _).mono fun _ =>
    (goes_openBlockHere .blockSequenceStart nofun s).trans) fun t reached => ?_)
  exact reached.trans ((goes_allowKey true t).trans (goes_take 1 .blockEntry nofun _))

theorem goes_explicitKey (s : Scanner) : Ensures (Goes s) s.explicitKey := by
  rw [explicitKey]
  refine .ite ensures_fail (Ensures.bind ((goes_dropKey _).mono fun _ =>
    (goes_openBlockHere .blockMappingStart nofun s).trans) fun t reached => ?_)
  exact reached.trans ((goes_allowKey _ t).trans (goes_take 1 .key nofun _))

theorem goes_valueMark (s : Scanner) : Ensures (Goes s) s.valueMark := by
  rw [valueMark]
  split
  · next k _ =>
      obtain ⟨opened, other⟩ := goes_openBlock k.column .blockMappingStart nofun s
      generalize s.openBlock k.column .blockMappingStart = found at opened other ⊢
      obtain ⟨t, tokens⟩ := found
      have filled : Goes t (t.fillSlot k.slot (tokens ++ [.key])) :=
        goes_fillSlot k.slot (by simpa using other) t
      have settled : Goes (t.fillSlot k.slot (tokens ++ [.key]))
          { t.fillSlot k.slot (tokens ++ [.key]) with pending := none } := .of_eq rfl rfl
      exact opened.trans (filled.trans (settled.trans
        ((goes_allowKey false _).trans (goes_take 1 .value nofun _))))
  · refine .ite ensures_fail ?_
    exact (goes_openBlockHere .blockMappingStart nofun s).trans
      ((goes_allowKey _ _).trans (goes_take 1 .value nofun _))

theorem goes_property {read : List Glyph → Except Error (Token × List Glyph)}
    (h : ∀ gs, Tokenizes gs (read gs)) (s : Scanner) : Ensures (Goes s) (s.property read) := by
  rw [property]
  refine Goes.bind (goes_markKey s) fun t => ?_
  refine Ensures.bind (h (t.rest.drop 1)) fun ⟨token, rest⟩ ⟨other, left⟩ => ?_
  have emitted := (goes_allowKey false t).trans (goes_emit token other _)
  exact ⟨left.trans (List.drop_suffix 1 _), emitted.unmarked⟩

theorem goes_quoted (single : Bool) (s : Scanner) : Ensures (Goes s) (s.quoted single) := by
  refine goes_property (fun gs => ?_) s
  refine Ensures.bind (leaves_scanQuoted single _ [] .empty gs) fun ⟨chars, rest⟩ left => ?_
  exact ⟨nofun, left⟩

theorem tokenizes_named (token : String → Token) (h : ∀ name, token name ≠ .documentStart)
    (gs : List Glyph) :
    Tokenizes gs (do
      let (name, rest) ← scanAnchor gs
      return (token name, rest)) :=
  Ensures.bind (leaves_scanAnchor gs) fun _ left => ⟨h _, left⟩

theorem goes_block (folded : Bool) (s : Scanner) : Ensures (Goes s) (s.block folded) := by
  rw [block]
  refine Goes.bind (goes_dropKey s) fun t => ?_
  refine Ensures.bind (leaves_scanBlock folded _ _) fun ⟨chars, rest⟩ left => ?_
  have emitted := (goes_allowKey true t).trans
    (goes_emit (.scalar (String.ofList chars) (if folded then .folded else .literal)) nofun _)
  exact ⟨List.IsSuffix.trans left (List.drop_suffix 1 _), emitted.unmarked⟩

theorem goes_plain (s : Scanner) : Ensures (Goes s) s.plain := by
  rw [plain]
  refine Goes.bind (goes_markKey s) fun t => ?_
  refine Ensures.bind (ensures_scanPlain _ _ [] .empty _) fun ⟨chars, newLine, rest⟩ left => ?_
  have emitted := (goes_allowKey false t).trans
    (goes_emit (.scalar (String.ofList chars) .plain) nofun _)
  exact ⟨left, emitted.unmarked⟩

/-- The marker of a document stands here, at the start of a line. -/
structure AtStart (s : Scanner) : Prop where
  lineStart : s.place.2 = 0
  marker : Glyph.startsMarkerOf '-' s.rest = true

theorem token_spec (s : Scanner) :
    Ensures (fun t => t.rest <:+ s.rest ∧ (Goes s t ∨ AtStart s)) s.token := by
  have on : ∀ {r : Except Error Scanner}, Ensures (Goes s) r →
      Ensures (fun t => t.rest <:+ s.rest ∧ (Goes s t ∨ AtStart s)) r :=
    fun h => h.mono fun _ goes => ⟨goes.left, .inl goes⟩
  rw [token]
  refine .ite (on (Goes.bind (goes_leaveDocument s) fun t => ?_)) (.ite_of (fun here => ?_) ?_)
  · refine Ensures.bind (tokenizes_scanDirective _) fun ⟨token, rest⟩ ⟨other, left⟩ => ?_
    exact ⟨List.IsSuffix.trans left (List.drop_suffix 1 _), (goes_emit token other t).unmarked⟩
  · obtain ⟨lineStart, marker⟩ := Bool.and_eq_true_iff.mp here
    refine Ensures.bind (goes_leaveDocument s) fun t reached => ?_
    exact ⟨(List.drop_suffix 3 _).trans reached.left, .inr ⟨by simpa using lineStart, marker⟩⟩
  · refine .ite (on (Goes.bind (goes_leaveDocument s) fun t =>
        goes_take 3 .documentEnd nofun t)) ?_
    refine .ite (on (goes_enterFlow .flowSequenceStart nofun s)) ?_
    refine .ite (on (goes_enterFlow .flowMappingStart nofun s)) ?_
    refine .ite (on (goes_leaveFlow .flowSequenceEnd nofun s)) ?_
    refine .ite (on (goes_leaveFlow .flowMappingEnd nofun s)) ?_
    refine .ite (on (goes_flowEntry s)) (.ite (on (goes_blockEntry s)) ?_)
    refine .ite (on (goes_explicitKey s)) (.ite (on (goes_valueMark s)) ?_)
    refine .ite (on (goes_property (tokenizes_named .alias nofun) s)) ?_
    refine .ite (on (goes_property (tokenizes_named .anchor nofun) s)) ?_
    refine .ite (on (goes_property (tokenizes_scanTag _) s)) ?_
    refine .ite (on (goes_block false s)) (.ite (on (goes_block true s)) ?_)
    refine .ite (on (goes_quoted true s)) (.ite (on (goes_quoted false s)) ?_)
    exact .ite (on (goes_plain s)) ensures_fail

/-! ## Whole streams -/

/-- Somewhere in the glyphs the marker of a document stands at the start of a line. -/
def Marked (gs : List Glyph) : Prop :=
  ∃ g rest, g :: rest <:+ gs ∧ g.column = 0 ∧ Glyph.startsMarkerOf '-' (g :: rest) = true

/-- What is left is an end of the glyphs, and where a document was started they are marked. -/
structure Within (gs : List Glyph) (s : Scanner) : Prop where
  left : s.rest <:+ gs
  marked : .documentStart ∈ s.output.flatten → Marked gs

theorem within_start (gs : List Glyph) : Within gs (start gs) :=
  ⟨List.suffix_refl gs, nofun⟩

theorem Within.goes (h : Within gs s) (goes : Goes s t) : Within gs t :=
  ⟨goes.left.trans h.left, h.marked ∘ goes.unmarked⟩

theorem AtStart.marked (h : AtStart s) (left : s.rest <:+ gs) : Marked gs := by
  cases rest : s.rest with
  | nil =>
      have marker := h.marker
      rw [rest] at marker
      cases marker
  | cons g others =>
      have lineStart := h.lineStart
      rw [place, rest] at lineStart
      exact ⟨g, others, rest ▸ left, lineStart, rest ▸ h.marker⟩

theorem within_token (h : Within gs s) : Ensures (Within gs) s.token := by
  refine (token_spec s).mono ?_
  rintro t ⟨left, goes | here⟩
  · exact h.goes goes
  · exact ⟨left.trans h.left, fun _ => here.marked h.left⟩

theorem Within.broken (h : Within gs s) (e : Error)
    (made : .documentStart ∈ ([.broken e] :: s.output).flatten) : Marked gs := by
  refine h.marked ?_
  simpa using made

theorem marked_of_run {fuel : Nat} (h : Within gs s)
    (made : .documentStart ∈ (run fuel s).flatten) : Marked gs := by
  -- Every step of the run keeps `Within gs`, also the one that starts a document.
  induction fuel generalizing s with
  | zero => exact h.marked made
  | succ fuel ih =>
      rw [run] at made
      cases advanced : s.advance with
      | error e =>
          rw [advanced] at made
          exact h.broken e made
      | ok t =>
          have onward : Within gs t := h.goes ((goes_advance s).of_eq_ok advanced)
          simp only [advanced] at made
          split at made
          · exact (onward.goes ((goes_closeBlocks none t).trans
              (goes_emit .streamEnd nofun _))).marked made
          · cases scanned : t.token with
            | error e =>
                rw [scanned] at made
                exact onward.broken e made
            | ok u =>
                rw [scanned] at made
                exact ih ((within_token onward).of_eq_ok scanned) made

end Scanner

/-- A stream that starts a document is allowed and marked. -/
theorem marked_of_documentStart_mem {text : List Char} (h : .documentStart ∈ tokens text) :
    (∀ g ∈ glyphs 0 0 text, isAllowed g.char = true) ∧ Scanner.Marked (glyphs 0 0 text) := by
  rw [tokens] at h
  split at h
  · simp at h
  · next allowed =>
      have made : .documentStart ∈ (Scanner.run ((glyphs 0 0 text).length + 1)
          (Scanner.start (glyphs 0 0 text))).flatten := by
        simpa using h
      exact ⟨by simpa using allowed, Scanner.marked_of_run (Scanner.within_start _) made⟩

end QueryHeaders.Yaml
