import Mathlib.Data.List.Nodup
import QueryHeaders.CommandLine.Outcome
import QueryHeaders.Proofs.Artifact.Inventory
import QueryHeaders.Proofs.Artifact.Staging

/-!
The listing of a dry run.

Each text stands below a title, and an empty line follows it. No line of a generated file is a
title, so that the text of a file can be read back from the listing by the name of the file.
-/
namespace QueryHeaders.Outcome

open Text (between? linesAfter)

/-- The line above the text of a file. -/
def title (name : String) : String := "// ==> " ++ name ++ " <=="

def isTitle (line : String) : Bool := (between? "// ==> " " <==" line).isSome

/-- The lines below the title of a file, up to the empty line before the next title or the end. -/
def sectionOf (name : String) (ls : List String) : List String :=
  ((linesAfter (title name) ls).takeWhile fun l => !isTitle l).dropLast

/-- The text that is shown for a file. -/
def shown (name stdout : String) : String :=
  Text.ofLines (sectionOf name (Text.physicalLines stdout).dropLast)

/-- The outcome shows these texts in their order, each below its title. As the last line of each
is ended, an empty line follows it. -/
structure Shows (o : Outcome) (artifacts : List Rendered) : Prop where
  stdout : o.stdout = String.join (artifacts.map fun r =>
    title r.artifact.fileName ++ "\n" ++ r.content ++ "\n")
  ended : ∀ r ∈ artifacts, ∃ ls, ls ≠ [] ∧ r.content = Text.ofLines ls
  shown : ∀ r ∈ artifacts, shown r.artifact.fileName o.stdout = r.content

variable {name line : String} {ls : List String} {sections : List (String × List String)}
  {qs : List Query}

/-! ## Titles -/

theorem isTitle_title (name : String) : isTitle (title name) = true := by
  rw [isTitle, title, Text.between?_append]
  rfl

theorem title_injective : Function.Injective title := by
  intro name other same
  rw [title, title, String.append_left_inj, String.append_right_inj] at same
  exact same

theorem isTitle_of_head? (h : line.toList.head? ≠ some '/') : isTitle line = false := by
  rw [Bool.eq_false_iff, isTitle, Ne, Option.isSome_iff_exists]
  rintro ⟨name, given⟩
  rw [Text.between?_eq_some_iff] at given
  simp [given] at h

theorem isTitle_empty : isTitle "" = false := isTitle_of_head? (by decide)

/-- A line whose first character tells that it is no title, whatever follows the line. -/
def OpensPlainly (line : String) : Prop := ∃ c, line.toList.head? = some c ∧ c ≠ '/'

theorem OpensPlainly.isTitle_append (h : OpensPlainly line) (rest : String) :
    isTitle (line ++ rest) = false := by
  obtain ⟨c, first, other⟩ := h
  apply isTitle_of_head?
  rw [String.toList_append, List.head?_append, first]
  simpa using other

theorem OpensPlainly.isTitle (h : OpensPlainly line) : isTitle line = false := by
  simpa using h.isTitle_append ""

/-! ## Sections -/

def sectionLines (titled : String × List String) : List String :=
  title titled.1 :: (titled.2 ++ [""])

theorem takeWhile_section (plain : ∀ l ∈ ls, isTitle l = false)
    (sections : List (String × List String)) :
    (ls ++ [""] ++ sections.flatMap sectionLines).takeWhile (fun l => !isTitle l) = ls ++ [""] := by
  have inside : ∀ l ∈ ls ++ [""], (!isTitle l) = true := by
    rw [List.forall_mem_append, List.forall_mem_singleton]
    exact ⟨fun l hl => by rw [plain l hl]; rfl, by rw [isTitle_empty]; rfl⟩
  rw [List.takeWhile_append_of_pos inside]
  cases sections with
  | nil => simp
  | cons first rest =>
      rw [List.flatMap_cons, sectionLines, List.cons_append,
        List.takeWhile_cons_of_neg (by simp [isTitle_title]), List.append_nil]

theorem title_notMem (other : name ∉ sections.map Prod.fst)
    (plain : ∀ s ∈ sections, ∀ l ∈ s.2, isTitle l = false) :
    title name ∉ sections.flatMap sectionLines := by
  intro member
  obtain ⟨s, hs, member⟩ := List.mem_flatMap.mp member
  obtain same | member := List.mem_cons.mp member
  · exact other (List.mem_map.mpr ⟨s, hs, title_injective same.symm⟩)
  · have untitled : ∀ l ∈ s.2 ++ [""], isTitle l = false :=
      List.forall_mem_append.mpr ⟨plain s hs, List.forall_mem_singleton.mpr isTitle_empty⟩
    have h := untitled _ member
    rw [isTitle_title] at h
    cases h

/-- Sections of different names, whose lines are no titles, are read back. -/
theorem sectionOf_flatMap (distinct : (sections.map Prod.fst).Nodup)
    (plain : ∀ s ∈ sections, ∀ l ∈ s.2, isTitle l = false) (member : (name, ls) ∈ sections) :
    sectionOf name (sections.flatMap sectionLines) = ls := by
  obtain ⟨before, after, rfl⟩ := List.append_of_mem member
  rw [List.forall_mem_append, List.forall_mem_cons] at plain
  rw [List.map_append, List.map_cons, List.nodup_middle, List.nodup_cons, List.mem_append,
    not_or] at distinct
  have opened : linesAfter (title name) ((before ++ (name, ls) :: after).flatMap sectionLines) =
      ls ++ [""] ++ after.flatMap sectionLines := by
    rw [List.flatMap_append, List.flatMap_cons]
    exact Text.linesAfter_append (title_notMem distinct.1.1 plain.1)
  rw [sectionOf, opened, takeWhile_section plain.2.1, List.dropLast_concat]

theorem ofLines_flatMap_sectionLines (sections : List (String × List String)) :
    Text.ofLines (sections.flatMap sectionLines) =
      String.join (sections.map fun s => title s.1 ++ "\n" ++ Text.ofLines s.2 ++ "\n") := by
  induction sections with
  | nil => rfl
  | cons s rest ih =>
      rw [List.flatMap_cons, Text.ofLines_append, ih, List.map_cons, String.join_cons,
        sectionLines, ← List.singleton_append, Text.ofLines_append, Text.ofLines_append]
      simp [Text.ofLines, String.append_assoc]

/-! ## Lines of generated files -/

theorem isTitle_continued (plain : ∀ l ∈ ls, OpensPlainly l) :
    ∀ l ∈ Header.continued ls, isTitle l = false := by
  obtain rfl | ⟨init, last, rfl⟩ := List.eq_nil_or_concat ls
  · simp [Header.continued]
  · rw [List.concat_eq_append] at plain ⊢
    rw [Header.continued_eq, List.forall_mem_append, List.forall_mem_map, List.forall_mem_singleton]
    rw [List.forall_mem_append, List.forall_mem_singleton] at plain
    exact ⟨fun l hl => (plain.1 l hl).isTitle_append _, plain.2.isTitle⟩

theorem isTitle_macroLines {macroName : String} (plain : ∀ l ∈ ls, OpensPlainly l) :
    ∀ l ∈ Header.macroLines macroName ls, isTitle l = false := by
  have opening : OpensPlainly ("#define " ++ macroName ++ "()") :=
    ⟨'#', by simp, by decide⟩
  rw [Header.macroLines]
  split
  · rw [List.forall_mem_cons, List.forall_mem_singleton]
    exact ⟨by decide +kernel, opening.isTitle⟩
  · exact isTitle_continued (List.forall_mem_cons.mpr ⟨opening, plain⟩)

theorem isTitle_initialized {declaration : String} (declared : OpensPlainly declaration)
    (plain : ∀ l ∈ ls, OpensPlainly l) :
    ∀ l ∈ Header.initialized declaration ls, isTitle l = false := by
  rw [Header.initialized]
  split
  · exact List.forall_mem_singleton.mpr (declared.isTitle_append _)
  · rw [List.forall_mem_cons, List.forall_mem_append, List.forall_mem_singleton]
    refine ⟨declared.isTitle_append _, fun l hl => ?_, by decide +kernel⟩
    obtain ⟨entry, member, rest, rfl⟩ := Header.exists_of_mem_separated hl
    exact (plain entry member).isTitle_append rest

theorem isTitle_guardedLines (guard : String) (plain : ∀ l ∈ ls, isTitle l = false) :
    ∀ l ∈ Header.guardedLines guard ls, isTitle l = false := by
  have directive : ∀ s, isTitle ("#" ++ s) = false :=
    OpensPlainly.isTitle_append ⟨'#', rfl, by decide⟩
  have first : isTitle ("#ifndef " ++ guard) = false := directive ("ifndef " ++ guard)
  have second : isTitle ("#define " ++ guard) = false := directive ("define " ++ guard)
  have last : isTitle ("#endif // " ++ guard) = false := directive ("endif // " ++ guard)
  rw [Header.guardedLines]
  have none : ∀ l ∈ ([] : List String), isTitle l = false := List.forall_mem_nil _
  simp only [List.forall_mem_append, List.forall_mem_cons]
  exact ⟨⟨⟨by decide +kernel, first, second, isTitle_empty, none⟩, plain⟩, isTitle_empty, last,
    none⟩

theorem opensPlainly_line (d : Declaration) (q : Query) : OpensPlainly (d.line q) := by
  delta Declaration.line
  exact ⟨' ', by simp, by decide⟩

theorem opensPlainly_method (w : Wrapper) (q : Query) : ∀ l ∈ w.method q, OpensPlainly l := by
  rw [Wrapper.method]
  rw [List.forall_mem_cons, List.forall_mem_cons, List.forall_mem_singleton]
  exact ⟨⟨' ', by simp, by decide⟩, ⟨' ', by simp, by decide⟩, ⟨' ', rfl, by decide⟩⟩

theorem isTitle_authentication (qs : List Query) :
    ∀ l ∈ Artifact.lines .authentication qs, isTitle l = false := by
  apply isTitle_guardedLines
  have tokens : ∀ l ∈ (AuthenticationTable.autoTokens qs).map fun v => "    " ++ Header.literal v,
      OpensPlainly l :=
    List.forall_mem_map.mpr fun v _ => ⟨' ', by simp, by decide⟩
  have entries : ∀ l ∈ qs.filterMap AuthenticationTable.entry?, OpensPlainly l := by
    intro l hl
    obtain ⟨q, _, made⟩ := List.mem_filterMap.mp hl
    obtain ⟨a, _, rfl⟩ := Option.map_eq_some_iff.mp made
    exact ⟨' ', by simp, by decide⟩
  have comment : ∀ l ∈ if qs.isEmpty then [Header.noQueries] else [], isTitle l = false := by
    cases qs.isEmpty <;> decide +kernel
  simp only [List.forall_mem_append, List.forall_mem_singleton]
  refine ⟨⟨⟨⟨by decide +kernel, comment⟩, ?_⟩, isTitle_empty⟩, ?_⟩
  · exact isTitle_initialized ⟨'s', by simp, by decide⟩ tokens
  · exact isTitle_initialized ⟨'s', rfl, by decide⟩ entries

theorem isTitle_cmake (qs : List Query) : ∀ l ∈ BuildFlags.lines qs, isTitle l = false := by
  have defined : ∀ l ∈ qs.map fun q => "    " ++ BuildFlags.flag q, isTitle l = false :=
    List.forall_mem_map.mpr fun q _ => OpensPlainly.isTitle_append ⟨' ', rfl, by decide⟩ _
  have set : ∀ l ∈ qs.map fun q => "set(" ++ BuildFlags.flag q ++ " TRUE)", isTitle l = false :=
    List.forall_mem_map.mpr fun q _ => OpensPlainly.isTitle ⟨'s', by simp, by decide⟩
  rw [BuildFlags.lines]
  split
  · decide +kernel
  · simp only [List.forall_mem_append]
    exact ⟨by decide +kernel, ⟨⟨by decide +kernel, defined⟩, by decide +kernel⟩, set⟩

/-- No line of a generated file is a title. -/
theorem isTitle_lines (a : Artifact) (qs : List Query) : ∀ l ∈ a.lines qs, isTitle l = false := by
  cases a with
  | declarations d =>
      exact isTitle_guardedLines _ (isTitle_macroLines
        (List.forall_mem_map.mpr fun q _ => opensPlainly_line d q))
  | forwarding w =>
      refine isTitle_guardedLines _ (isTitle_macroLines fun l hl => ?_)
      obtain ⟨q, _, hl⟩ := List.mem_flatMap.mp hl
      exact opensPlainly_method w q l hl
  | authentication => exact isTitle_authentication qs
  | cmake => exact isTitle_cmake qs

/-! ## Listings -/

theorem stdout_ofDryRun (artifacts : List Rendered) :
    (ofDryRun artifacts).stdout = String.join (artifacts.map fun r =>
      title r.artifact.fileName ++ "\n" ++ r.content ++ "\n") := by
  have heading : " <==\n" = " <==" ++ "\n" := rfl
  simp only [ofDryRun, title, heading, String.append_assoc]

def sectionsOf (qs : List Query) : List (String × List String) :=
  Artifact.all.map fun a => (a.fileName, a.lines qs)

theorem stdout_renderAll (qs : List Query) :
    (ofDryRun (renderAll qs)).stdout = Text.ofLines ((sectionsOf qs).flatMap sectionLines) := by
  rw [stdout_ofDryRun, ofLines_flatMap_sectionLines, renderAll, sectionsOf, List.map_map,
    List.map_map]
  simp only [Function.comp_def, Artifact.render_eq_ofLines]

theorem notMem_title (a : Artifact) : '\n' ∉ (title a.fileName).toList := by
  rcases a with (_ | _) | (_ | _) | _ | _ <;> decide

theorem shown_renderAll (wf : ∀ q ∈ qs, q.WellFormed) {a : Artifact} (member : a ∈ Artifact.all) :
    shown a.fileName (ofDryRun (renderAll qs)).stdout = a.render qs := by
  have noFeed : ¬ Text.StandsIn '\n' ((sectionsOf qs).flatMap sectionLines) := by
    rintro ⟨l, hl, stands⟩
    obtain ⟨_, hs, hl⟩ := List.mem_flatMap.mp hl
    obtain ⟨b, _, rfl⟩ := List.mem_map.mp hs
    simp only [sectionLines, List.mem_cons, List.mem_append, List.not_mem_nil, or_false] at hl
    obtain rfl | hl | rfl := hl
    · exact absurd stands (notMem_title b)
    · exact ((b.standsIn_lines wf rfl).mp ⟨l, hl, stands⟩).2.1 rfl
    · cases stands
  have distinct : ((sectionsOf qs).map Prod.fst).Nodup := by
    have names : (sectionsOf qs).map Prod.fst = Artifact.all.map Artifact.fileName :=
      List.map_map ..
    rw [names]
    decide
  have plain : ∀ s ∈ sectionsOf qs, ∀ l ∈ s.2, isTitle l = false :=
    List.forall_mem_map.mpr fun a _ => isTitle_lines a qs
  rw [shown, stdout_renderAll, Text.physicalLines_ofLines noFeed, List.dropLast_concat,
    sectionOf_flatMap distinct plain (List.mem_map_of_mem member), a.render_eq_ofLines]

theorem lines_ne_nil (a : Artifact) (qs : List Query) : a.lines qs ≠ [] := by
  cases a <;> exact List.cons_ne_nil _ _

theorem shows_renderAll (wf : ∀ q ∈ qs, q.WellFormed) :
    Shows (ofDryRun (renderAll qs)) (renderAll qs) where
  stdout := stdout_ofDryRun _
  ended := List.forall_mem_map.mpr fun a _ =>
    ⟨a.lines qs, lines_ne_nil a qs, a.render_eq_ofLines qs⟩
  shown := List.forall_mem_map.mpr fun _ member => shown_renderAll wf member

end QueryHeaders.Outcome
