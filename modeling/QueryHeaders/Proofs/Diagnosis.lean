import QueryHeaders.Diagnosis
import QueryHeaders.Proofs.Loading

/-!
What a diagnosis tells of loading.

Both read the same file and the same documents. A diagnosis fails only where the file cannot be
read, and its report says how the file loads, but for a single document that has no JSON form.
-/
namespace QueryHeaders.Diagnosis

variable {path content : String} {v : Yaml.Value} {vs : List Yaml.Value} {failure : Failure}
  {d : Diagnosis}

theorem onTree_ofFile (t : FileTree) (path : String) :
    (ofFile path).onTree t =
      (((t.readText path).mapError (Loading.readFailure path)).map (ofText path), t) := by
  rw [ofFile, Job.onTree_bind, Loading.onTree_sourceText]
  cases t.readText path <;> rfl

theorem onTree_ofFile_of_readText {t : FileTree} (h : t.readText path = .ok content) :
    (ofFile path).onTree t = (.ok (ofText path content), t) := by
  rw [onTree_ofFile, h]
  rfl

theorem path_ofText (path content : String) : (ofText path content).path = path := rfl

theorem shape_eq_empty_iff : shape v = .empty ↔ v = .null := by
  cases v <;> simp [shape]

theorem ofText_of_documents (h : Loading.documents content path = .ok vs) :
    (ofText path content).documents = vs.map shape ∧ (ofText path content).problem = none := by
  simp only [ofText, h, and_self]

theorem ofText_of_documents_error (h : Loading.documents content path = .error failure) :
    (ofText path content).documents = [] ∧
      (ofText path content).problem = some failure.message := by
  simp only [ofText, h, and_self]

/-- The report on a text says how the text loads. -/
structure Explains (d : Diagnosis) (content : String) (loaded : Except Failure Json) : Prop where
  malformed : ∀ text, d.problem = some text → d.documents = [] ∧
    ∃ problem, loaded = .error (.malformed d.path problem) ∧
      (Failure.malformed d.path problem).message = text
  empty : d.problem = none → ∀ source, loaded = .error (.emptyInput source) ↔
    source = d.path ∧ (d.documents = [] ∨ d.documents = [.empty])
  several : d.problem = none → ∀ source n, loaded = .error (.severalDocuments source n) ↔
    source = d.path ∧ n = d.documents.length ∧ 2 ≤ n
  single : d.problem = none → ∀ s, d.documents = [s] → s ≠ .empty →
    ∃ v, Loading.documents content d.path = .ok [v] ∧ s = shape v ∧
      ((∃ json, v.toJson = .ok json ∧ loaded = .ok json) ∨
        ∃ problem, v.toJson = .error problem ∧
          loaded = .error (.malformed d.path problem.message))

variable {loaded : Except Failure Json}

theorem Explains.of_documents_error {problem : String} (none : d.documents = [])
    (told : d.problem = some (Failure.malformed d.path problem).message) :
    d.Explains content (.error (.malformed d.path problem)) where
  malformed text h := by
    rw [told, Option.some_inj] at h
    exact ⟨none, problem, rfl, h⟩
  empty silent := by simp [told] at silent
  several silent := by simp [told] at silent
  single silent := by simp [told] at silent

theorem Explains.of_empty (silent : d.problem = none)
    (shapes : d.documents = [] ∨ d.documents = [.empty]) :
    d.Explains content (.error (.emptyInput d.path)) where
  malformed text h := by simp [silent] at h
  empty _ source := by simp [shapes, eq_comm]
  several _ source n := by
    have few : d.documents.length < 2 := by
      obtain shapes | shapes := shapes <;> simp [shapes]
    constructor
    · intro h
      cases h
    · rintro ⟨_, rfl, many⟩
      omega
  single _ s h given := by
    obtain shapes | shapes := shapes
    · simp [shapes] at h
    · rw [shapes, List.singleton_inj] at h
      exact absurd h.symm given

theorem Explains.of_single (silent : d.problem = none) (given : v ≠ .null)
    (shapes : d.documents = [shape v]) (parsed : Loading.documents content d.path = .ok [v]) :
    d.Explains content (Loading.document d.path v) where
  malformed text h := by simp [silent] at h
  empty _ source := by
    have full : shape v ≠ .empty := fun h => given (shape_eq_empty_iff.mp h)
    constructor
    · intro h
      obtain ⟨problem, _, other⟩ := Loading.document_eq_error h
      cases other
    · rintro ⟨_, none | none⟩
      · simp [shapes] at none
      · rw [shapes, List.singleton_inj] at none
        exact absurd none full
  several _ source n := by
    constructor
    · intro h
      obtain ⟨problem, _, other⟩ := Loading.document_eq_error h
      cases other
    · rintro ⟨_, rfl, many⟩
      simp [shapes] at many
  single _ s h _ := by
    rw [shapes, List.singleton_inj] at h
    refine ⟨v, parsed, h.symm, ?_⟩
    cases outcome : v.toJson with
    | ok json => exact .inl ⟨json, rfl, by rw [Loading.document, outcome]⟩
    | error problem => exact .inr ⟨problem, rfl, by rw [Loading.document, outcome]⟩

theorem Explains.of_several (silent : d.problem = none) (many : 2 ≤ d.documents.length) :
    d.Explains content (.error (.severalDocuments d.path d.documents.length)) where
  malformed text h := by simp [silent] at h
  empty _ source := by
    constructor
    · intro h
      cases h
    · rintro ⟨_, shapes | shapes⟩
      · simp [shapes] at many
      · simp [shapes] at many
  several _ source n := by
    simp only [Except.error.injEq, Failure.severalDocuments.injEq]
    constructor
    · rintro ⟨rfl, rfl⟩
      exact ⟨rfl, rfl, many⟩
    · rintro ⟨rfl, rfl, _⟩
      exact ⟨rfl, rfl⟩
  single _ s h := by simp [h] at many

theorem explains_ofText (path content : String) :
    (ofText path content).Explains content (Loading.ofText content path) := by
  cases parsed : Loading.documents content path with
  | error failure =>
      obtain ⟨none, told⟩ := ofText_of_documents_error parsed
      obtain ⟨problem, rfl⟩ := Loading.documents_eq_error parsed
      rw [Loading.ofText_of_documents_error parsed]
      exact .of_documents_error none told
  | ok vs =>
      obtain ⟨shapes, silent⟩ := ofText_of_documents parsed
      obtain ⟨rfl | rfl, loaded⟩ | ⟨v, given, rfl, loaded⟩ | ⟨many, loaded⟩ :=
        Loading.ofText_cases parsed
      · rw [loaded]
        exact .of_empty silent (.inl shapes)
      · rw [loaded]
        exact .of_empty silent (.inr shapes)
      · rw [loaded]
        exact .of_single silent given shapes parsed
      · have count : vs.length = (ofText path content).documents.length := by
          rw [shapes, List.length_map]
        rw [loaded, count]
        exact .of_several silent (count ▸ many)

/-- The diagnosis of a file and the loading of the file fail alike where the file cannot be read,
and else the report says how the file loads. -/
theorem ofFile_explains_load (t : FileTree) (path : String) :
    (∀ failure, ((ofFile path).onTree t).1 = .error failure ↔
      ((Loading.ofFile path).onTree t).1 = .error failure ∧ failure.isUnreadable = true) ∧
    ∀ d, ((ofFile path).onTree t).1 = .ok d →
      d.path = path ∧ ∃ content, t.readText path = .ok content ∧
        d.Explains content ((Loading.ofFile path).onTree t).1 := by
  rw [onTree_ofFile, Loading.onTree_ofFile]
  cases t.readText path with
  | error fault =>
      refine ⟨fun failure => ?_, fun d h => ?_⟩
      · constructor
        · intro h
          cases h
          exact ⟨rfl, Loading.isUnreadable_readFailure path fault⟩
        · rintro ⟨h, _⟩
          cases h
          rfl
      · cases h
  | ok content =>
      refine ⟨fun failure => ?_, fun d h => ?_⟩
      · constructor
        · intro h
          cases h
        · rintro ⟨h, unreadable⟩
          rw [Loading.isUnreadable_of_ofText h] at unreadable
          cases unreadable
      · cases h
        exact ⟨rfl, content, rfl, explains_ofText path content⟩

/-- A file with a mapping and, after a separator, nothing. -/
def separatedTree : FileTree :=
  (FileTree.empty.write "two.yaml" (.text "a: 1\n---\n")).2

theorem ofFile_explains_load_separatedTree :
    ∃ d, ((ofFile "two.yaml").onTree separatedTree).1 = .ok d ∧
      d.problem = none ∧ d.documents.length = 2 ∧ d.documents.getLast? = some .empty ∧
      ((Loading.ofFile "two.yaml").onTree separatedTree).1 =
        .error (.severalDocuments "two.yaml" 2) := by
  have read : separatedTree.readText "two.yaml" = .ok "a: 1\n---\n" := rfl
  have reported : ((ofFile "two.yaml").onTree separatedTree).1 =
      .ok (ofText "two.yaml" "a: 1\n---\n") := by
    rw [onTree_ofFile, read]
    rfl
  have silent : (ofText "two.yaml" "a: 1\n---\n").problem = none := by decide +kernel
  have count : (ofText "two.yaml" "a: 1\n---\n").documents.length = 2 := by decide +kernel
  obtain ⟨named, content, _, explains⟩ := (ofFile_explains_load _ _).2 _ reported
  refine ⟨_, reported, silent, count, by decide +kernel, ?_⟩
  exact (explains.several silent _ _).mpr ⟨named.symm, count.symm, Nat.le_refl 2⟩

end QueryHeaders.Diagnosis
