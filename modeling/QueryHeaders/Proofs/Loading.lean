import QueryHeaders.Loading
import QueryHeaders.Proofs.Disk.Job

/-!
How files load.

A file that can be read is its documents: there may be none, one that is turned into JSON, or too
many. Every failure to load is of the file, of the stream of documents, or of the one document.
-/
namespace QueryHeaders.Loading

variable {t : FileTree} {path content source : String} {v : Yaml.Value} {vs : List Yaml.Value}
  {failure : Failure}

theorem onTree_sourceText (t : FileTree) (path : String) :
    (sourceText path).onTree t = ((t.readText path).mapError (readFailure path), t) := by
  rw [sourceText, Job.onTree_require, Program.run_readText]
  cases t.readText path <;> rfl

theorem onTree_ofFile (t : FileTree) (path : String) :
    (ofFile path).onTree t =
      ((t.readText path).mapError (readFailure path) >>= fun text => ofText text path, t) := by
  rw [ofFile, Job.onTree_bind, onTree_sourceText]
  cases t.readText path <;> rfl

theorem ofFile_eq_ok_iff {document : Json} :
    (ofFile path).onTree t = (.ok document, t) ↔
      ∃ text, t.readText path = .ok text ∧ ofText text path = .ok document := by
  rw [onTree_ofFile]
  cases t.readText path with
  | ok text =>
      change (ofText text path, t) = (.ok document, t) ↔ _
      simp
  | error fault =>
      change (Except.error (readFailure path fault), t) = (.ok document, t) ↔ _
      simp

theorem onTree_ofFile_of_readText (h : t.readText path = .ok content) :
    (ofFile path).onTree t = (ofText content path, t) := by
  rw [onTree_ofFile, h]
  rfl

theorem isUnreadable_readFailure (path : String) (fault : Fault) :
    (readFailure path fault).isUnreadable = true := by
  cases fault <;> rfl

/-! ## Documents -/

theorem documents_eq_error (h : documents content source = .error failure) :
    ∃ problem, failure = .malformed source problem := by
  rw [documents] at h
  split at h
  · cases h
  · cases h
    exact ⟨_, rfl⟩

theorem ofText_of_documents_error (h : documents content source = .error failure) :
    ofText content source = .error failure := by
  rw [ofText, h]
  rfl

theorem ofText_of_documents (h : documents content source = .ok vs) :
    ofText content source = single source vs >>= document source := by
  rw [ofText, h]
  rfl

/-- A document fails to load on its own account only as malformed. -/
theorem document_eq_error (h : document source v = .error failure) :
    ∃ problem, v.toJson = .error problem ∧ failure = .malformed source problem.message := by
  rw [document] at h
  split at h
  · cases h
  · next problem given =>
      cases h
      exact ⟨problem, given, rfl⟩

/-- The three ways in which documents load: there is nothing in them, there is one, or there are
too many. -/
theorem ofText_cases (h : documents content source = .ok vs) :
    (vs = [] ∨ vs = [.null]) ∧ ofText content source = .error (.emptyInput source) ∨
      (∃ v, v ≠ .null ∧ vs = [v] ∧ ofText content source = document source v) ∨
      2 ≤ vs.length ∧ ofText content source = .error (.severalDocuments source vs.length) := by
  rw [ofText_of_documents h]
  match vs with
  | [] => exact .inl ⟨.inl rfl, rfl⟩
  | [v] =>
      by_cases none : v = .null
      · subst none
        exact .inl ⟨.inr rfl, rfl⟩
      · refine .inr (.inl ⟨v, none, rfl, ?_⟩)
        rw [single]
        · rfl
        · exact none
  | first :: second :: rest =>
      refine .inr (.inr ⟨by simp, ?_⟩)
      rw [single]
      · rfl
      · simp
      · simp
      · simp

/-- A text fails to load for one of three reasons. -/
theorem ofText_eq_error (h : ofText content source = .error failure) :
    (∃ problem, failure = .malformed source problem) ∨ failure = .emptyInput source ∨
      ∃ count, failure = .severalDocuments source count := by
  cases parsed : documents content source with
  | error other =>
      obtain ⟨problem, rfl⟩ := documents_eq_error parsed
      rw [ofText_of_documents_error parsed] at h
      cases h
      exact .inl ⟨problem, rfl⟩
  | ok vs =>
      obtain ⟨_, loaded⟩ | ⟨v, _, _, loaded⟩ | ⟨_, loaded⟩ := ofText_cases parsed
      · rw [loaded] at h
        cases h
        exact .inr (.inl rfl)
      · rw [loaded] at h
        obtain ⟨problem, _, rfl⟩ := document_eq_error h
        exact .inl ⟨problem.message, rfl⟩
      · rw [loaded] at h
        cases h
        exact .inr (.inr ⟨vs.length, rfl⟩)

theorem isUnreadable_of_ofText (h : ofText content source = .error failure) :
    failure.isUnreadable = false := by
  obtain ⟨problem, rfl⟩ | rfl | ⟨count, rfl⟩ := ofText_eq_error h <;> rfl

/-- No definition is at fault where a file fails to load. -/
theorem ofFile_ne_definition (e : DefinitionError) :
    ((ofFile path).onTree t).1 ≠ .error (.definition e) := by
  rw [onTree_ofFile]
  cases t.readText path with
  | error fault => cases fault <;> nofun
  | ok content =>
      intro h
      obtain ⟨problem, other⟩ | other | ⟨count, other⟩ := ofText_eq_error h <;> cases other

end QueryHeaders.Loading
