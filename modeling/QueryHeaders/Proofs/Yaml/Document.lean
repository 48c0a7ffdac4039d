import QueryHeaders.Proofs.Yaml.Leftover
import QueryHeaders.Yaml.Stream

/-!
What reading a document leaves.

Every reader of nodes leaves an end of the tokens it was given. A document after the first one takes
a document's start away from them, so a stream of several documents holds one.
-/
namespace QueryHeaders.Yaml

variable {handles : Handles} {fuel depth : Nat} {ts : List Token}

theorem Ensures.failAt {α : Type} {P : α → Prop} {p : Problem} : Ensures P (failAt p ts) := by
  rw [Yaml.failAt.eq_def]
  split <;> trivial

theorem leaves_readProperties (ts : List Token) : Leaves ts (readProperties handles ts) := by
  have two : ∀ (a b : Token) (rest : List Token), rest <:+ a :: b :: rest :=
    fun a b rest => (List.suffix_cons b rest).trans (List.suffix_cons a _)
  rw [readProperties.eq_def]
  split
  · exact Ensures.bind (.any _) fun _ _ => two _ _ _
  · exact Ensures.bind (.any _) fun _ _ => two _ _ _
  · exact .ok (List.suffix_cons _ _)
  · exact Ensures.bind (.any _) fun _ _ => List.suffix_cons _ _
  · exact .ok (List.suffix_refl ts)

theorem ensures_skipComma (first : Bool) (p : Problem) (ts : List Token) :
    Ensures (· <:+ ts) (skipComma first p ts) := by
  rw [skipComma.eq_def]
  refine .ite (.ok (List.suffix_refl ts)) ?_
  split
  · exact .ok (List.suffix_cons _ _)
  · exact .failAt

/-- The tokens after what stands behind the properties of a node. -/
def Content.LeftBy (ts : List Token) : Content → Prop
  | .scalar _ _ rest => rest <:+ ts
  | .collection _ rest => rest <:+ ts
  | .nothing => True

theorem leftBy_contentOf (block compact : Bool) (ts : List Token) :
    (Content.of block compact ts).LeftBy ts := by
  rw [Content.of.eq_def]
  split
  · exact List.suffix_cons _ _
  · exact List.suffix_cons _ _
  · exact List.suffix_cons _ _
  · split
    · exact List.suffix_refl _
    · trivial
  · split
    · exact List.suffix_cons _ _
    · trivial
  · split
    · exact List.suffix_cons _ _
    · trivial
  · trivial

/-! ## Nodes -/

/-- With this fuel every reader leaves an end of its tokens. -/
structure ReadersLeave (handles : Handles) (fuel : Nat) : Prop where
  node : ∀ depth block compact ts, Leaves ts (readNode handles fuel depth block compact ts)
  blockItems : ∀ depth ts, Leaves ts (readBlockItems handles fuel depth ts)
  compactItems : ∀ depth ts, Leaves ts (readCompactItems handles fuel depth ts)
  blockPairs : ∀ depth ts, Leaves ts (readBlockPairs handles fuel depth ts)
  blockValue : ∀ depth ts, Leaves ts (readBlockValue handles fuel depth ts)
  flowValue : ∀ close depth ts, Leaves ts (readFlowValue handles close fuel depth ts)
  flowItems : ∀ depth first ts, Leaves ts (readFlowItems handles fuel depth first ts)
  flowPairs : ∀ depth first ts, Leaves ts (readFlowPairs handles fuel depth first ts)

theorem readersLeave_zero : ReadersLeave handles 0 where
  node _ _ _ _ := .failAt
  blockItems _ _ := .failAt
  compactItems _ _ := .failAt
  blockPairs _ _ := .failAt
  blockValue _ _ := .failAt
  flowValue _ _ _ := .failAt
  flowItems _ _ _ := .failAt
  flowPairs _ _ _ := .failAt

section Step

variable (readers : ReadersLeave handles fuel)
include readers

theorem leaves_readNode (block compact : Bool) :
    Leaves ts (readNode handles (fuel + 1) depth block compact ts) := by
  rw [readNode.eq_def]
  dsimp only
  split
  · exact .ok (List.suffix_cons _ _)
  · refine (leaves_readProperties ts).bind fun p rest left => ?_
    have content := leftBy_contentOf block compact rest
    dsimp only
    split
    · next text style after same =>
        rw [same] at content
        exact .ok (List.IsSuffix.trans content left)
    · exact .ite (.ok left) .failAt
    · next kind after same =>
        rw [same] at content
        have begins : after <:+ ts := List.IsSuffix.trans content left
        refine .ite .failAt ?_
        cases kind with
        | flowItems =>
            refine ((readers.flowItems _ _ _).mono begins).bind fun items rest left => ?_
            exact .ok left
        | flowPairs =>
            refine ((readers.flowPairs _ _ _).mono begins).bind fun items rest left => ?_
            exact .ok left
        | blockItems =>
            refine ((readers.blockItems _ _).mono begins).bind fun items rest left => ?_
            exact .ok left
        | blockPairs =>
            refine ((readers.blockPairs _ _).mono begins).bind fun items rest left => ?_
            exact .ok left
        | compactItems =>
            refine ((readers.compactItems _ _).mono begins).bind fun items rest left => ?_
            exact .ok left

theorem leaves_readBlockItems : Leaves ts (readBlockItems handles (fuel + 1) depth ts) := by
  rw [readBlockItems.eq_def]
  dsimp only
  split
  · next rest =>
      have shorter := List.suffix_cons Token.blockEntry rest
      refine .bind_ite (.ok shorter) ((readers.node _ _ _ _).mono shorter)
        fun item after left => ?_
      refine ((readers.blockItems _ _).mono left).bind fun items last left => ?_
      exact .ok left
  · exact .ok (List.suffix_cons _ _)
  · exact .failAt

theorem leaves_readCompactItems : Leaves ts (readCompactItems handles (fuel + 1) depth ts) := by
  rw [readCompactItems.eq_def]
  dsimp only
  split
  · next rest =>
      have shorter := List.suffix_cons Token.blockEntry rest
      refine .bind_ite (.ok shorter) ((readers.node _ _ _ _).mono shorter)
        fun item after left => ?_
      refine ((readers.compactItems _ _).mono left).bind fun items last left => ?_
      exact .ok left
  · exact .ok (List.suffix_refl _)

theorem leaves_readBlockPairs : Leaves ts (readBlockPairs handles (fuel + 1) depth ts) := by
  rw [readBlockPairs.eq_def]
  dsimp only
  split
  · next rest =>
      have shorter := List.suffix_cons Token.key rest
      refine .bind_ite (.ok shorter) ((readers.node _ _ _ _).mono shorter)
        fun key after left => ?_
      refine ((readers.blockValue _ _).mono left).bind fun value after left => ?_
      refine ((readers.blockPairs _ _).mono left).bind fun pairs last left => ?_
      exact .ok left
  · exact .ok (List.suffix_cons _ _)
  · exact .failAt

theorem leaves_readBlockValue : Leaves ts (readBlockValue handles (fuel + 1) depth ts) := by
  rw [readBlockValue.eq_def]
  dsimp only
  split
  · next rest =>
      have shorter := List.suffix_cons Token.value rest
      exact .ite (.ok shorter) ((readers.node _ _ _ _).mono shorter)
  · exact .ok (List.suffix_refl _)

theorem leaves_readFlowValue (close : Token) :
    Leaves ts (readFlowValue handles close (fuel + 1) depth ts) := by
  rw [readFlowValue.eq_def]
  dsimp only
  split
  · next rest =>
      have shorter := List.suffix_cons Token.value rest
      exact .ite (.ok shorter) ((readers.node _ _ _ _).mono shorter)
  · exact .ok (List.suffix_refl _)

theorem leaves_readFlowItems (first : Bool) :
    Leaves ts (readFlowItems handles (fuel + 1) depth first ts) := by
  rw [readFlowItems.eq_def]
  dsimp only
  split
  · exact .ok (List.suffix_cons _ _)
  · refine Ensures.bind (ensures_skipComma first _ ts) fun us begins => ?_
    split
    · exact .ok ((List.suffix_cons _ _).trans begins)
    · next rest =>
        have shorter : rest <:+ ts := (List.suffix_cons _ rest).trans begins
        refine .ite .failAt (Leaves.bind_ite (.ok ((List.drop_suffix 1 rest).trans shorter))
          ((readers.node _ _ _ _).mono shorter) fun key after left => ?_)
        refine ((readers.flowValue _ _ _).mono left).bind fun value after left => ?_
        refine ((readers.flowItems _ _ _).mono left).bind fun items last left => ?_
        exact .ok left
    · refine ((readers.node _ _ _ _).mono begins).bind fun item after left => ?_
      refine ((readers.flowItems _ _ _).mono left).bind fun items last left => ?_
      exact .ok left

theorem leaves_readFlowPairs (first : Bool) :
    Leaves ts (readFlowPairs handles (fuel + 1) depth first ts) := by
  rw [readFlowPairs.eq_def]
  dsimp only
  split
  · exact .ok (List.suffix_cons _ _)
  · refine Ensures.bind (ensures_skipComma first _ ts) fun us begins => ?_
    split
    · exact .ok ((List.suffix_cons _ _).trans begins)
    · next rest =>
        have shorter : rest <:+ ts := (List.suffix_cons _ rest).trans begins
        refine Leaves.bind_ite (.ok shorter) ((readers.node _ _ _ _).mono shorter)
          fun key after left => ?_
        refine ((readers.flowValue _ _ _).mono left).bind fun value after left => ?_
        refine ((readers.flowPairs _ _ _).mono left).bind fun pairs last left => ?_
        exact .ok left
    · refine ((readers.node _ _ _ _).mono begins).bind fun key after left => ?_
      refine ((readers.flowPairs _ _ _).mono left).bind fun pairs last left => ?_
      exact .ok left

end Step

theorem readersLeave (handles : Handles) (fuel : Nat) : ReadersLeave handles fuel := by
  -- The readers call one another with less fuel, so that one induction carries all of them.
  induction fuel with
  | zero => exact readersLeave_zero
  | succ fuel readers =>
      exact {
        node := fun _ block compact _ => leaves_readNode readers block compact
        blockItems := fun _ _ => leaves_readBlockItems readers
        compactItems := fun _ _ => leaves_readCompactItems readers
        blockPairs := fun _ _ => leaves_readBlockPairs readers
        blockValue := fun _ _ => leaves_readBlockValue readers
        flowValue := fun close _ _ => leaves_readFlowValue readers close
        flowItems := fun _ first _ => leaves_readFlowItems readers first
        flowPairs := fun _ first _ => leaves_readFlowPairs readers first }

/-! ## Documents -/

theorem leaves_readRoot (handles : Handles) (ts : List Token) : Leaves ts (readRoot handles ts) :=
  (readersLeave _ _).node _ _ _ ts

theorem leaves_readDirectives (d : Directives) (ts : List Token) :
    Leaves ts (readDirectives d ts) := by
  fun_induction readDirectives d ts with
  | case1 => exact .failAt
  | case2 => exact .failAt
  | case3 d major minor rest _ _ ih => exact ih.mono (List.suffix_cons _ rest)
  | case4 => exact .failAt
  | case5 d handle uri rest _ ih => exact ih.mono (List.suffix_cons _ rest)
  | case6 d ts => exact .ok (List.suffix_refl ts)

theorem ensures_readDocumentEnd (ts : List Token) : Ensures (· <:+ ts) (readDocumentEnd ts) := by
  rw [readDocumentEnd.eq_def]
  split
  · exact .error
  · exact .ok (List.suffix_cons _ _)
  · exact .ok (List.suffix_refl ts)

theorem skipEndMarkers_suffix (ts : List Token) : skipEndMarkers ts <:+ ts := by
  fun_induction skipEndMarkers ts with
  | case1 rest ih => exact ih.trans (List.suffix_cons _ rest)
  | case2 ts => exact List.suffix_refl ts

/-- A document leaves an end of the tokens, and every document but the first has a start. -/
structure TakesDocument (first : Bool) (ts : List Token) (rest : List Token) : Prop where
  left : rest <:+ ts
  marked : first = false → .documentStart ∈ ts

theorem takesDocument_readDocument (first : Bool) (ts : List Token) :
    Ensures (fun read => ∀ document ∈ read, TakesDocument first ts document.2)
      (readDocument first ts) := by
  have shorter : (if first then ts else skipEndMarkers ts) <:+ ts := by
    split
    · exact List.suffix_refl ts
    · exact skipEndMarkers_suffix ts
  rw [readDocument]
  dsimp only
  generalize (if first then ts else skipEndMarkers ts) = us at shorter ⊢
  split
  · next unmarked =>
      refine Ensures.bind (leaves_readRoot [] us) fun ⟨root, rest⟩ left => ?_
      refine Ensures.bind (ensures_readDocumentEnd rest) fun last after => ?_
      rintro _ ⟨⟩
      refine ⟨after.trans (left.trans shorter), ?_⟩
      rintro rfl
      cases unmarked
  · split
    · rintro _ ⟨⟩
    · refine Ensures.bind (leaves_readDirectives {} us) fun ⟨d, vs⟩ left => ?_
      dsimp only at left ⊢
      split
      · next rest =>
          have here : .documentStart :: rest <:+ ts := left.trans shorter
          have behind : rest <:+ ts := (List.suffix_cons _ rest).trans here
          have finish : ∀ read : NamedNode × List Token, read.2 <:+ ts →
              Ensures (fun found => ∀ document ∈ found, TakesDocument first ts document.2)
                (do return some (read.1, ← readDocumentEnd read.2)) := by
            intro read left
            refine Ensures.bind (ensures_readDocumentEnd read.2) fun last after => ?_
            rintro _ ⟨⟩
            exact ⟨after.trans left, fun _ => here.subset List.mem_cons_self⟩
          exact .ite (finish _ behind) (Ensures.bind ((leaves_readRoot _ rest).mono behind) finish)
      · exact .failAt

/-- More documents than may stand without a start hold one. -/
theorem ensures_documentsFrom (first : Bool) (fuel : Nat) (ts : List Token) :
    Ensures (fun vs => first.toNat < vs.length → .documentStart ∈ ts)
      (documentsFrom first fuel ts) := by
  induction fuel generalizing first ts with
  | zero => exact .ok nofun
  | succ fuel ih =>
      rw [documentsFrom]
      split
      · exact .error
      · exact .ok nofun
      · next root rest read =>
          have taken : TakesDocument first ts rest :=
            (takesDocument_readDocument first ts).of_eq_ok read _ rfl
          refine Ensures.bind (.any _) fun v _ => Ensures.bind (ih false rest) fun vs more => ?_
          intro many
          cases first with
          | false => exact taken.marked rfl
          | true => exact taken.left.subset (more (Nat.lt_of_succ_lt_succ many))

/-- A text of several documents holds the start of one. -/
theorem documentStart_mem_tokens {text : String} {vs : List Value} (h : documents text = .ok vs)
    (many : 2 ≤ vs.length) : .documentStart ∈ tokens text.toList := by
  have counted : Ensures (fun vs => 2 ≤ vs.length → .documentStart ∈ tokens text.toList)
      (documents text) := by
    refine Ensures.bind (ensures_documentsFrom true _ (tokens text.toList)) fun vs more => ?_
    split
    · intro few
      cases few with
      | step few => cases few
    · exact more
  exact counted.of_eq_ok h many

end QueryHeaders.Yaml
