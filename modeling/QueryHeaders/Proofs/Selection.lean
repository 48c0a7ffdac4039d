import QueryHeaders.Proofs.Generation
import QueryHeaders.Proofs.Loading

/-!
What a run reads from the disk.

A run depends on two texts, the definitions and a chosen schema file. The schema can be loaded if
its file is a text that reads as JSON and compiles; otherwise the run learns no more than that it is
unavailable. So two trees in which both files hold the same texts look the same to a run.
-/
namespace QueryHeaders

namespace FileTree

variable {t u : FileTree} {path text : String}

theorem readText_eq_ok_iff :
    t.readText path = .ok text ↔ t.find? path = some (.file (.text text)) := by
  rw [readText, find?]
  cases t.locate path with
  | error fault => simp [bind, Except.bind]
  | ok p =>
      simp only [bind, Except.bind]
      rcases t.entry? p with _ | ⟨⟨s⟩ | bytes⟩ | _ <;>
        simp [throw, throwThe, MonadExceptOf.throw, pure, Except.pure]

/-- A path holds the same text in both trees, or can be read in neither. -/
def ReadAlike (t u : FileTree) (path : String) : Prop :=
  ∀ text, t.readText path = .ok text ↔ u.readText path = .ok text

theorem ReadAlike.of_eq (same : t.readText path = u.readText path) : ReadAlike t u path := by
  intro text
  rw [same]

theorem ReadAlike.symm (alike : t.ReadAlike u path) : u.ReadAlike t path :=
  fun text => (alike text).symm

end FileTree

namespace Loading

variable {t u : FileTree} {path : String} {document : Json}

theorem ofFile_of_readAlike (alike : t.ReadAlike u path)
    (loaded : (ofFile path).onTree t = (.ok document, t)) :
    (ofFile path).onTree u = (.ok document, u) := by
  obtain ⟨text, read, parsed⟩ := ofFile_eq_ok_iff.mp loaded
  exact ofFile_eq_ok_iff.mpr ⟨text, (alike text).mp read, parsed⟩

end Loading

namespace Validator

variable {t u : FileTree} {policy : SchemaPolicy} {schemaPath : Option String} {path : String}
  {v : Validator} {chosen : Option Validator} {failure : Failure}

/-- The schema that a run selects can be loaded: the built-in one always, and a file if it is a text
that reads as JSON and compiles. -/
inductive Loads (t : FileTree) : Option String → Validator → Prop where
  | builtIn : Loads t none builtIn
  | file {path text : String} {document : Json} {schema : Schema}
      (read : t.readText path = .ok text)
      (parsed : Json.read nestingLimit text = .ok document)
      (compiled : Schema.ofJson document = .ok schema) :
      Loads t (some path) ⟨.file path, schema⟩

theorem Loads.mono (loads : Loads t schemaPath v)
    (alike : ∀ path, schemaPath = some path → t.ReadAlike u path) : Loads u schemaPath v := by
  cases loads with
  | builtIn => exact .builtIn
  | file read parsed compiled => exact .file ((alike _ rfl _).mp read) parsed compiled

theorem ofJson_eq_ok_iff {origin : SchemaOrigin} {document : Json} :
    ofJson origin document = .ok v ↔
      ∃ schema, Schema.ofJson document = .ok schema ∧ v = ⟨origin, schema⟩ := by
  rw [ofJson]
  cases Schema.ofJson document with
  | error defect => simp
  | ok schema => simp [eq_comm]

theorem ofText_eq_ok_iff {content : String} :
    ofText path content = .ok v ↔
      ∃ document schema, Json.read nestingLimit content = .ok document ∧
        Schema.ofJson document = .ok schema ∧ v = ⟨.file path, schema⟩ := by
  rw [ofText]
  cases Json.read nestingLimit content with
  | error e => simp
  | ok document => simp [ofJson_eq_ok_iff]

/-- The text of a schema file fails as nothing but unavailable. -/
theorem ofText_failed {content : String} (failed : ofText path content = .error failure) :
    ∃ reason, failure = .schemaUnavailable path reason := by
  rw [ofText] at failed
  split at failed
  · rw [ofJson] at failed
    split at failed
    · cases failed
    · cases failed
      exact ⟨_, rfl⟩
  · cases failed
    exact ⟨_, rfl⟩

theorem onTree_ofFile (t : FileTree) (path : String) :
    (ofFile path).onTree t =
      match t.kind? path, t.readText path with
      | none, _ => (.error (.schemaUnavailable path "schema file not found"), t)
      | some _, .error fault => (.error (.schemaUnavailable path fault.message), t)
      | some _, .ok content => (ofText path content, t) := by
  rw [ofFile, Job.onTree_bind, Job.onTree_lift, Program.run_kind]
  cases t.kind? path with
  | none => rfl
  | some kind =>
      simp only
      rw [Job.onTree_bind, Job.onTree_require, Program.run_readText]
      cases t.readText path with
      | error fault => rfl
      | ok content => rfl

theorem ofFile_eq_ok_iff :
    (ofFile path).onTree t = (.ok v, t) ↔ Loads t (some path) v := by
  rw [onTree_ofFile]
  constructor
  · intro h
    split at h
    · cases h
    · cases h
    · next content _ read =>
      have loaded := ofText_eq_ok_iff.mp (Prod.mk.inj h).1
      obtain ⟨document, schema, parsed, compiled, rfl⟩ := loaded
      exact .file read parsed compiled
  · intro loads
    cases loads with
    | @file _ text document schema read parsed compiled =>
        have stands : t.kind? path = some .file := by
          rw [FileTree.kind?, FileTree.readText_eq_ok_iff.mp read]
          rfl
        rw [stands, read]
        exact Prod.ext (ofText_eq_ok_iff.mpr ⟨document, schema, parsed, compiled, rfl⟩) rfl

theorem choose_eq_ok_iff : (choose schemaPath).onTree t = (.ok v, t) ↔ Loads t schemaPath v := by
  cases schemaPath with
  | some path => exact ofFile_eq_ok_iff
  | none =>
      constructor
      · intro h
        cases h
        exact .builtIn
      · intro loads
        cases loads
        rfl

/-- A schema that cannot be loaded is a chosen file, and is reported as unavailable. -/
theorem choose_of_not (unavailable : ¬ ∃ v, Loads t schemaPath v) :
    ∃ path reason, schemaPath = some path ∧
      (choose schemaPath).onTree t = (.error (.schemaUnavailable path reason), t) := by
  cases schemaPath with
  | none => exact absurd ⟨_, .builtIn⟩ unavailable
  | some path =>
      have equation := onTree_ofFile t path
      split at equation
      · exact ⟨path, _, rfl, equation⟩
      · exact ⟨path, _, rfl, equation⟩
      · next content _ _ =>
          cases compiled : ofText path content with
          | ok v =>
              rw [compiled] at equation
              exact absurd ⟨v, ofFile_eq_ok_iff.mp equation⟩ unavailable
          | error failure =>
              obtain ⟨reason, rfl⟩ := ofText_failed compiled
              rw [compiled] at equation
              exact ⟨path, reason, rfl, equation⟩

/-! ## Policies -/

theorem resolve_of_loads (loads : Loads t schemaPath v) (insists : policy ≠ .disabled) :
    (resolve policy schemaPath).onTree t = (.ok (some v), t) := by
  have selected := choose_eq_ok_iff.mpr loads
  cases policy with
  | disabled => exact absurd rfl insists
  | required =>
      rw [resolve, Job.onTree_map, selected]
      rfl
  | bestEffort =>
      rw [resolve, Job.onTree_tryCatch, Job.onTree_map, selected]
      rfl

theorem resolve_required_of_not (unavailable : ¬ ∃ v, Loads t schemaPath v) :
    ∃ path reason, schemaPath = some path ∧
      (resolve .required schemaPath).onTree t = (.error (.schemaUnavailable path reason), t) := by
  obtain ⟨path, reason, given, failed⟩ := choose_of_not unavailable
  refine ⟨path, reason, given, ?_⟩
  rw [resolve, Job.onTree_map, failed]
  rfl

theorem resolve_bestEffort_of_not (unavailable : ¬ ∃ v, Loads t schemaPath v) :
    (resolve .bestEffort schemaPath).onTree t = (.ok none, t) := by
  obtain ⟨path, reason, given, failed⟩ := choose_of_not unavailable
  rw [resolve, Job.onTree_tryCatch, Job.onTree_map, failed]
  rfl

/-- What a run chooses depends on the text of the schema file only. -/
theorem resolve_of_readAlike (alike : ∀ path, schemaPath = some path → t.ReadAlike u path)
    (resolved : (resolve policy schemaPath).onTree t = (.ok chosen, t)) :
    (resolve policy schemaPath).onTree u = (.ok chosen, u) := by
  by_cases disabled : policy = .disabled
  · subst disabled
    cases resolved
    rfl
  · by_cases available : ∃ v, Loads t schemaPath v
    · obtain ⟨v, loads⟩ := available
      rw [resolve_of_loads loads disabled] at resolved
      cases resolved
      exact resolve_of_loads (loads.mono alike) disabled
    -- Why the file cannot be loaded may differ, but the fallback does not tell.
    · have unavailable : ¬ ∃ v, Loads u schemaPath v := by
        intro ⟨v, loads⟩
        exact available ⟨v, loads.mono fun path given => (alike path given).symm⟩
      cases policy with
      | disabled => exact absurd rfl disabled
      | required =>
          obtain ⟨path, reason, _, failed⟩ := resolve_required_of_not available
          rw [failed] at resolved
          cases resolved
      | bestEffort =>
          rw [resolve_bestEffort_of_not available] at resolved
          cases resolved
          exact resolve_bestEffort_of_not unavailable

end Validator

end QueryHeaders
