import QueryHeaders.Proofs.Diagnosis
import QueryHeaders.Proofs.Yaml.Marker

/-!
The warning about separators.

A diagnosis reports separators exactly if a marker opens the text or follows a line feed. A stream
of several documents has a marker, but lines of a stream end at other characters too: a marker that
follows one of those is in the middle of a line for the diagnosis.
-/
namespace QueryHeaders.Diagnosis

open Text (OpensMarked MarkedAfter isBlank isLineFeed)

variable {path content : String} {d : Diagnosis}

theorem isSeparator_iff {line : String} :
    isSeparator line = true ↔ OpensMarked isBlank line.toList := by
  rw [isSeparator]
  constructor
  · intro h
    split at h
    · next rest same => exact ⟨rest, same, h⟩
    · cases h
  · rintro ⟨rest, same, h⟩
    rw [same]
    exact h

theorem hasSeparators_ofText_iff (path content : String) :
    (ofText path content).hasSeparators = true ↔
      OpensMarked isBlank content.toList ∨ MarkedAfter isLineFeed isBlank content.toList := by
  rw [← Text.exists_mem_lineChars_opensMarked]
  show (Text.lines content).any isSeparator = true ↔ _
  simp [Text.lines, isSeparator_iff]

/-- What ends a line of a stream but no line of a diagnosis. -/
def endsStreamLine (c : Char) : Bool := Yaml.endsLine c && !isLineFeed c

theorem markedAfter_split {endsWord : Char → Bool} {cs : List Char}
    (h : MarkedAfter Yaml.endsLine endsWord cs) :
    MarkedAfter isLineFeed endsWord cs ∨ MarkedAfter endsStreamLine endsWord cs := by
  obtain ⟨before, c, after, whole, ends, opens⟩ := h
  cases feed : isLineFeed c with
  | true => exact .inl ⟨before, c, after, whole, feed, opens⟩
  | false =>
      refine .inr ⟨before, c, after, whole, ?_, opens⟩
      rw [endsStreamLine, ends, feed]
      rfl

theorem hasSeparators_or_markedAfter (many : 2 ≤ (ofText path content).documents.length) :
    (ofText path content).hasSeparators = true ∨
      MarkedAfter endsStreamLine Yaml.isSpace content.toList := by
  rw [hasSeparators_ofText_iff]
  cases parsed : Yaml.documents content with
  | error problem =>
      have loaded : Loading.documents content path = .error (.malformed path problem.message) := by
        rw [Loading.documents, parsed]
      rw [(ofText_of_documents_error loaded).1] at many
      cases many
  | ok vs =>
      have loaded : Loading.documents content path = .ok vs := by rw [Loading.documents, parsed]
      rw [(ofText_of_documents loaded).1, List.length_map] at many
      obtain opens | after := Yaml.marked_of_documents parsed many
      · exact .inl (.inl (opens.mono fun _ => Yaml.isBlank_of_isSpace))
      · obtain feed | other := markedAfter_split after
        · exact .inl (.inr (feed.mono fun _ => Yaml.isBlank_of_isSpace))
        · exact .inr other

theorem separatorLines_suffix (h : d.hasSeparators = true) : separatorLines <:+ d.displayLines := by
  rw [displayLines, h]
  exact List.suffix_append _ _

theorem Explains.severalDocuments_iff {loaded : Except Failure Json}
    (h : d.Explains content loaded) :
    (∃ source n, loaded = .error (.severalDocuments source n)) ↔ 2 ≤ d.documents.length := by
  cases told : d.problem with
  | some text =>
      obtain ⟨none, problem, rfl, _⟩ := h.malformed text told
      simp [none]
  | none =>
      constructor
      · rintro ⟨source, n, rejected⟩
        obtain ⟨_, rfl, many⟩ := (h.several told source n).mp rejected
        exact many
      · intro many
        exact ⟨d.path, _, (h.several told _ _).mpr ⟨rfl, rfl, many⟩⟩

/-- Separators are reported, and the advice shown, wherever a file is rejected for holding several
documents, unless a marker follows a line end that is none to the diagnosis. -/
theorem separators_of_severalDocuments {t : FileTree}
    (h : ((ofFile path).onTree t).1 = .ok d) :
    ∃ content, t.readText path = .ok content ∧
      (d.hasSeparators = true ↔
        OpensMarked isBlank content.toList ∨ MarkedAfter isLineFeed isBlank content.toList) ∧
      ((∃ source n, ((Loading.ofFile path).onTree t).1 = .error (.severalDocuments source n)) ↔
        2 ≤ d.documents.length) ∧
      (2 ≤ d.documents.length →
        d.hasSeparators = true ∧ separatorLines <:+ d.displayLines ∨
          MarkedAfter endsStreamLine Yaml.isSpace content.toList) := by
  rw [onTree_ofFile] at h
  rw [Loading.onTree_ofFile]
  cases read : t.readText path with
  | error fault =>
      rw [read] at h
      cases h
  | ok content =>
      rw [read] at h
      cases h
      refine ⟨content, rfl, hasSeparators_ofText_iff path content,
        (explains_ofText path content).severalDocuments_iff, fun many => ?_⟩
      exact (hasSeparators_or_markedAfter many).imp_left fun shown =>
        ⟨shown, separatorLines_suffix shown⟩

/-- Two documents, with a comment after the separator. -/
def commentedTree : FileTree :=
  (FileTree.empty.write "two.yaml" (.text "a: 1\n--- # second\nb: 2\n")).2

theorem separators_of_severalDocuments_commentedTree :
    ∃ d, ((ofFile "two.yaml").onTree commentedTree).1 = .ok d ∧ d.documents.length = 2 ∧
      d.hasSeparators = true ∧ separatorLines <:+ d.displayLines := by
  have read : commentedTree.readText "two.yaml" = .ok "a: 1\n--- # second\nb: 2\n" := rfl
  have reported : ((ofFile "two.yaml").onTree commentedTree).1 =
      .ok (ofText "two.yaml" "a: 1\n--- # second\nb: 2\n") := by
    rw [onTree_ofFile_of_readText read]
  have count : (ofText "two.yaml" "a: 1\n--- # second\nb: 2\n").documents.length = 2 := by
    decide +kernel
  obtain ⟨content, same, _, _, warned⟩ := separators_of_severalDocuments reported
  obtain shown | after := warned (Nat.le_of_eq count.symm)
  · exact ⟨_, reported, count, shown⟩
  · rw [read] at same
    cases same
    have feeds : "a: 1\n--- # second\nb: 2\n".toList.any endsStreamLine = false := by
      decide +kernel
    rw [after.any] at feeds
    cases feeds

/-- A marker between carriage returns separates two documents, and is not reported. -/
def returnsTree : FileTree :=
  (FileTree.empty.write "mac.yaml" (.text "a: 1\r---\rb: 2\r")).2

theorem carriage_return_hides_separator :
    ∃ d, ((ofFile "mac.yaml").onTree returnsTree).1 = .ok d ∧ d.documents.length = 2 ∧
      ((Loading.ofFile "mac.yaml").onTree returnsTree).1 =
        .error (.severalDocuments "mac.yaml" 2) ∧
      d.hasSeparators = false := by
  have read : returnsTree.readText "mac.yaml" = .ok "a: 1\r---\rb: 2\r" := rfl
  have count : (ofText "mac.yaml" "a: 1\r---\rb: 2\r").documents.length = 2 := by decide +kernel
  have silent : (ofText "mac.yaml" "a: 1\r---\rb: 2\r").problem = none := by decide +kernel
  have rejected := ((explains_ofText "mac.yaml" "a: 1\r---\rb: 2\r").several silent
    "mac.yaml" 2).mpr ⟨(path_ofText _ _).symm, count.symm, Nat.le_refl 2⟩
  refine ⟨ofText "mac.yaml" "a: 1\r---\rb: 2\r", ?_, count, ?_, by decide +kernel⟩
  · rw [onTree_ofFile_of_readText read]
  · rw [Loading.onTree_ofFile_of_readText read, rejected]

end QueryHeaders.Diagnosis
