import QueryHeaders.Proofs.CommandLine.DryRun
import QueryHeaders.Proofs.Contradiction
import QueryHeaders.Proofs.Inventory
import QueryHeaders.Proofs.Query.Quotation

/-!
The message of a definition error.

A run that fails with a definition error has read its document and tells what is wrong with one
entry. All that the message takes over as it stands are texts of that entry, so that it breaks a line
exactly if one of these does.
-/
namespace QueryHeaders

variable {document : Json} {e : DefinitionError} {fs : Features} {all : List Query}

/-- The error quotes this text of the entry that it is about. -/
def DefinitionError.QuotesFrom (document : Json) (e : DefinitionError) (text : String) : Prop :=
  ∃ index name entry, e.location = .entry index name ∧
    (definitionEntries document)[index]? = some entry ∧ Quotes entry e.defect text

/-- At the place of an error there is one entry, and it quotes from no other. -/
theorem DefinitionError.quotesFrom_iff {index : Nat} {name : Option String} {entry : Json}
    (placed : e.location = .entry index name)
    (present : (definitionEntries document)[index]? = some entry) {text : String} :
    e.QuotesFrom document text ↔ Quotes entry e.defect text := by
  constructor
  · intro given
    obtain ⟨j, other, found, placedOther, also, quotes⟩ := given
    rw [placed] at placedOther
    cases placedOther
    rw [present] at also
    cases also
    exact quotes
  · intro quotes
    exact ⟨index, name, entry, placed, present, quotes⟩

/-! ## Readings and decisions -/

/-- A message on one line is right for a defect that quotes nothing. -/
theorem hasLineBreak_iff_of_isOneLine (oneLine : Text.hasLineBreak e.message = false)
    (unquoting : ∀ entry text, ¬ Quotes entry e.defect text) :
    Text.hasLineBreak e.message = true ↔
      ∃ text, e.QuotesFrom document text ∧ Text.hasLineBreak text = true := by
  rw [oneLine]
  constructor
  · nofun
  · intro given
    obtain ⟨text, ⟨index, name, entry, _, _, quotes⟩, _⟩ := given
    exact absurd quotes (unquoting entry text)

theorem hasLineBreak_of_isIdentifier_location {index : Nat} {name : String} {d : Defect}
    (identifier : Text.isIdentifier name = true) (oneLine : d.IsOneLine) :
    Text.hasLineBreak (⟨.entry index (some name), d⟩ : DefinitionError).message = false := by
  rw [DefinitionError.hasLineBreak_message, hasLineBreak_location, Option.any_some,
    Text.hasLineBreak_of_isIdentifier identifier, Bool.false_or]
  exact oneLine

theorem hasLineBreak_of_ofDocument (failed : Query.ofDocument document = .error e) :
    Text.hasLineBreak e.message = true ↔
      ∃ text, e.QuotesFrom document text ∧ Text.hasLineBreak text = true := by
  unfold Query.ofDocument at failed
  split at failed
  · next members =>
      split at failed
      · cases failed
      · next entries list =>
          have whole : definitionEntries (.object members) = entries := by
            rw [definitionEntries, list]
          obtain ⟨i, first⟩ := ofEntries_eq_error_iff.mp failed
          cases first.offence with
          | @unreadable entry _ present fails =>
              obtain ⟨name, placed⟩ := location_of_ofEntry fails
              rw [← whole] at present
              rw [hasLineBreak_of_ofEntry fails]
              exact exists_congr fun text =>
                and_congr_left fun _ => (DefinitionError.quotesFrom_iff placed present).symm
          | @repeated q first gives _ _ =>
              obtain ⟨entry, _, reads⟩ := gives
              have identifier := (wellFormed_of_ofEntry reads).name_isIdentifier
              apply hasLineBreak_iff_of_isOneLine
              · exact hasLineBreak_of_isIdentifier_location identifier
                  (isOneLine_duplicateName (Text.hasLineBreak_of_isIdentifier identifier))
              · intro entry text quotes
                cases quotes
      · cases failed
        apply hasLineBreak_iff_of_isOneLine
        · decide +kernel
        · intro entry text quotes
          cases quotes
  · cases failed
    apply hasLineBreak_iff_of_isOneLine
    · decide +kernel
    · intro entry text quotes
      cases quotes

theorem hasLineBreak_of_enabledQueries (read : Query.ofDocument document = .ok all)
    (failed : enabledQueries fs all = .error e) :
    Text.hasLineBreak e.message = true ↔
      ∃ text, e.QuotesFrom document text ∧ Text.hasLineBreak text = true := by
  obtain ⟨i, q, f, first, rfl⟩ := enabledQueries_eq_error_iff.mp failed
  have wf := wellFormed_of_ofDocument read q (List.mem_of_getElem? first.present)
  apply hasLineBreak_iff_of_isOneLine
  · exact hasLineBreak_of_isIdentifier_location wf.name_isIdentifier isOneLine_disabledButFlagged
  · intro entry text quotes
    cases quotes

/-! ## Runs -/

namespace Generation

variable {s : Settings} {t u : FileTree}

/-- A definition error comes of the reading of a document or of the decisions on its queries. -/
theorem render_definition_cases (failed : (render s).onTree t = (.error (.definition e), u)) :
    ∃ document, (Loading.ofFile s.definitions).onTree t = (.ok document, t) ∧
      (Query.ofDocument document = .error e ∨
        ∃ all, Query.ofDocument document = .ok all ∧ enabledQueries s.features all = .error e) := by
  obtain unread | ⟨all, v, read, undecided⟩ := Job.onTree_bind_failed failed
  · obtain ⟨document, loaded, unread⟩ := queries_eq_definition unread
    exact ⟨document, loaded, .inl unread⟩
  · obtain ⟨rfl, _, document, _, loaded, _, read⟩ := queries_eq_ok_iff.mp read
    refine ⟨document, loaded, .inr ⟨all, read, ?_⟩⟩
    rw [Job.onTree_ofExcept, reportOn] at undecided
    split at undecided
    · next contradicts =>
        cases undecided
        exact contradicts
    · cases undecided

theorem stderr_of_render_failed {failure : Failure}
    (failed : (render s).onTree t = (.error failure, u)) (verbosity : Nat) :
    ∃ below, (((Command.generate s).run verbosity).run t).1.stderr =
      Text.ofLines (("error: " ++ failure.message) :: below) := by
  have ran : (generate s).onTree t = (.error failure, u) := by
    rw [generate, Job.onTree_bind, failed]
  rw [Command.run_generate, ran]
  exact ⟨_, rfl⟩

/-- The message of a definition error, which a command prints behind its mark, breaks a line exactly
if a text of the document that it quotes does: a name that is no identifier, of an entry or a
parameter, an unknown category or type of authentication. -/
theorem message_of_render (failed : (render s).onTree t = (.error (.definition e), u)) :
    ∃ document, (Loading.ofFile s.definitions).onTree t = (.ok document, t) ∧
      (Text.hasLineBreak (Failure.definition e).message = true ↔
        ∃ text, e.QuotesFrom document text ∧ Text.hasLineBreak text = true) ∧
      ∀ verbosity, ∃ below, (((Command.generate s).run verbosity).run t).1.stderr =
        Text.ofLines (("error: " ++ (Failure.definition e).message) :: below) := by
  have opening : Text.hasLineBreak "query definition error: " = false := by decide
  obtain ⟨document, loaded, failing⟩ := render_definition_cases failed
  refine ⟨document, loaded, ?_, stderr_of_render_failed failed⟩
  change Text.hasLineBreak ("query definition error: " ++ e.message) = true ↔ _
  rw [Text.hasLineBreak_append, opening, Bool.false_or]
  obtain unread | ⟨all, read, contradicts⟩ := failing
  · exact hasLineBreak_of_ofDocument unread
  · exact hasLineBreak_of_enabledQueries read contradicts

/-- A definitions file of one query with this category, in the escapes of a quoted YAML text. -/
def categoryTree (category : String) : FileTree :=
  let fields := "- name: IQuery_Run\n  return_type: int\n  parameters: []\n"
  let metadata := "  metadata: \x7bcategory: \"" ++ category ++ "\"\x7d\n"
  (FileTree.empty.write "queries.yaml" (.text ("queries:\n" ++ fields ++ metadata))).2

def requiredSettings : Settings where
  definitions := "queries.yaml"
  outputDir := "out"
  policy := .required

theorem message_of_render_categoryTree :
    let e : DefinitionError := ⟨.entry 0 (some "IQuery_Run"), .invalidCategory "exam ple"⟩
    (render requiredSettings).onTree (categoryTree "Exam ple") =
        (.error (.definition e), categoryTree "Exam ple") ∧
      ∃ document, (Loading.ofFile "queries.yaml").onTree (categoryTree "Exam ple") =
          (.ok document, categoryTree "Exam ple") ∧
        ∀ text, e.QuotesFrom document text → Text.hasLineBreak text = false := by
  intro e
  have failed : (render requiredSettings).onTree (categoryTree "Exam ple") =
      (.error (.definition e), categoryTree "Exam ple") :=
    (keepsTree_render _).onTree_eq_of_fst (by decide +kernel)
  obtain ⟨document, loaded, breaks, _⟩ := message_of_render failed
  have oneLine : Text.hasLineBreak (Failure.definition e).message = false := by decide +kernel
  refine ⟨failed, document, loaded, ?_⟩
  intro text quotes
  apply Bool.eq_false_iff.mpr
  intro broken
  rw [breaks.mpr ⟨text, quotes, broken⟩] at oneLine
  cases oneLine

/-- A category with a line feed within passes the schema, and the error is told on two lines. -/
theorem line_feed_splits_message :
    let e : DefinitionError := ⟨.entry 0 (some "IQuery_Run"), .invalidCategory "exam\nple"⟩
    (render requiredSettings).onTree (categoryTree "exam\\nple") =
        (.error (.definition e), categoryTree "exam\\nple") ∧
      Text.hasLineBreak (Failure.definition e).message = true ∧
      Text.physicalLines
          (((Command.generate requiredSettings).run 0).run (categoryTree "exam\\nple")).1.stderr =
        ["error: query definition error: query at index 0 ('IQuery_Run'): invalid category 'exam",
          "ple'; must be 'standard', 'example', or 'template'", ""] := by
  intro e
  have failed : (render requiredSettings).onTree (categoryTree "exam\\nple") =
      (.error (.definition e), categoryTree "exam\\nple") :=
    (keepsTree_render _).onTree_eq_of_fst (by decide +kernel)
  have ran : (generate requiredSettings).onTree (categoryTree "exam\\nple") =
      (.error (.definition e), categoryTree "exam\\nple") := by
    rw [generate, Job.onTree_bind, failed]
  refine ⟨failed, by decide +kernel, ?_⟩
  rw [Command.run_generate, ran]
  change Text.physicalLines
    (Text.ofLines ["error: " ++ (Failure.definition e).message]) = _
  decide +kernel

end Generation

end QueryHeaders
