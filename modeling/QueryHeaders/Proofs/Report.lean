import QueryHeaders.Proofs.Generation
import QueryHeaders.Proofs.Query.Enablement

/-!
What a report tells of a run: the definitions file holds a document, the schema of the run has
nothing against it, its queries can be read and decided on, and the report is about the included
ones.
-/
namespace QueryHeaders.Generation

variable {s : Settings} {fs : Features} {t u : FileTree} {document : Json} {source : String}
  {validator : Option Validator} {all kept : List Query} {report : GenerationReport}

/-- The report on these queries, of which those `kept` are included. -/
def reportOf (all kept : List Query) : GenerationReport where
  total := all.length
  enabled := kept.length
  autoTokens := (kept.filter Query.isAutoToken).length
  artifacts := renderAll kept
  written := []

theorem reportOn_eq_ok_iff :
    reportOn fs all = .ok report ↔
      ∃ kept, enabledQueries fs all = .ok kept ∧ report = reportOf all kept := by
  rw [reportOn]
  cases enabledQueries fs all with
  | error e => simp
  | ok kept =>
      simp only [Except.ok.injEq, exists_eq_left']
      exact eq_comm

/-- A validator accepts a document in which its schema finds nothing. -/
def Accepts (validator : Option Validator) (document : Json) : Prop :=
  ∀ v, validator = some v → v.schema.violations document = []

theorem checkJson_eq_ok_iff {v : Validator} :
    v.checkJson document source = .ok () ↔ v.schema.violations document = [] := by
  rw [Validator.checkJson]
  split
  · next none => exact ⟨fun _ => none, fun _ => rfl⟩
  · next given => exact ⟨nofun, fun none => absurd none given⟩

theorem queriesOf_none_eq_ok_iff :
    queriesOf none source document = .ok all ↔ Query.ofDocument document = .ok all := by
  simp only [queriesOf]
  cases Query.ofDocument document with
  | error e => simp [throw, throwThe, MonadExceptOf.throw]
  | ok queries => rw [pure_eq_ok, Except.ok.injEq]

theorem queriesOf_some (v : Validator) :
    queriesOf (some v) source document =
      v.checkJson document source >>= fun _ => queriesOf none source document := rfl

theorem queriesOf_eq_ok_iff :
    queriesOf validator source document = .ok all ↔
      Accepts validator document ∧ Query.ofDocument document = .ok all := by
  cases validator with
  | none => simp [queriesOf_none_eq_ok_iff, Accepts]
  | some v =>
      rw [queriesOf_some, bind_eq_ok]
      constructor
      · rintro ⟨⟨⟩, checked, h⟩
        refine ⟨fun w same => ?_, queriesOf_none_eq_ok_iff.mp h⟩
        cases same
        exact checkJson_eq_ok_iff.mp checked
      · rintro ⟨accepts, h⟩
        exact ⟨(), checkJson_eq_ok_iff.mpr (accepts v rfl), queriesOf_none_eq_ok_iff.mpr h⟩

theorem queries_eq_ok_iff :
    (queries s).onTree t = (.ok all, u) ↔
      u = t ∧ ∃ validator document,
        (Validator.resolve s.policy s.schemaPath).onTree t = (.ok validator, t) ∧
        (Loading.ofFile s.definitions).onTree t = (.ok document, t) ∧
        Accepts validator document ∧ Query.ofDocument document = .ok all := by
  have resolving := (Validator.keepsTree_resolve s.policy s.schemaPath).onTree_eq t
  have loading := (Loading.keepsTree_ofFile s.definitions).onTree_eq t
  rw [queries, Job.onTree_bind_eq_ok]
  constructor
  · rintro ⟨validator, v, resolved, h⟩
    rw [resolving] at resolved
    obtain ⟨chosen, rfl⟩ := Prod.mk.inj resolved
    obtain ⟨document, w, loaded, h⟩ := Job.onTree_bind_eq_ok.mp h
    rw [loading] at loaded
    obtain ⟨present, rfl⟩ := Prod.mk.inj loaded
    rw [Job.onTree_ofExcept] at h
    obtain ⟨read, rfl⟩ := Prod.mk.inj h
    refine ⟨rfl, validator, document, ?_, ?_, queriesOf_eq_ok_iff.mp read⟩
    · rw [resolving, chosen]
    · rw [loading, present]
  · rintro ⟨rfl, validator, document, resolved, loaded, read⟩
    refine ⟨validator, u, resolved, ?_⟩
    rw [Job.onTree_bind_eq_ok]
    exact ⟨document, u, loaded, by rw [Job.onTree_ofExcept, queriesOf_eq_ok_iff.mpr read]⟩

theorem render_eq_ok_iff :
    (render s).onTree t = (.ok report, u) ↔
      u = t ∧ ∃ validator document all kept,
        (Validator.resolve s.policy s.schemaPath).onTree t = (.ok validator, t) ∧
        (Loading.ofFile s.definitions).onTree t = (.ok document, t) ∧
        Accepts validator document ∧ Query.ofDocument document = .ok all ∧
        enabledQueries s.features all = .ok kept ∧ report = reportOf all kept := by
  rw [render, Job.onTree_bind_eq_ok]
  constructor
  · rintro ⟨all, v, given, h⟩
    obtain ⟨rfl, validator, document, resolved, loaded, accepts, read⟩ := queries_eq_ok_iff.mp given
    rw [Job.onTree_ofExcept] at h
    obtain ⟨reported, rfl⟩ := Prod.mk.inj h
    obtain ⟨kept, enabled, made⟩ := reportOn_eq_ok_iff.mp reported
    exact ⟨rfl, validator, document, all, kept, resolved, loaded, accepts, read, enabled, made⟩
  · rintro ⟨rfl, validator, document, all, kept, resolved, loaded, accepts, read, enabled, made⟩
    refine ⟨all, u, queries_eq_ok_iff.mpr ⟨rfl, validator, document, resolved, loaded, accepts,
      read⟩, ?_⟩
    rw [Job.onTree_ofExcept, reportOn_eq_ok_iff.mpr ⟨kept, enabled, made⟩]

end QueryHeaders.Generation
