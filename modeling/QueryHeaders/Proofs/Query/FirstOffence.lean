import Mathlib.Data.Nat.Find
import QueryHeaders.Proofs.Query.Entries

/-!
The error of a list of entries: the first offence among them.

An entry offends on its own, if it cannot be read, or because its name is the name of an earlier
one. A reading fails exactly if some entry offends, and then with the first offence; what follows
the offending entry is not looked at.
-/
namespace QueryHeaders

/-- The entry at a position can be read, as this query. -/
def GivesAt (entries : List Json) (i : Nat) (q : Query) : Prop :=
  ∃ entry, entries[i]? = some entry ∧ Query.ofEntry i entry = .ok q

/-- The first position that gives a query of the name. -/
structure IsFirstUse (entries : List Json) (name : String) (first : Nat) : Prop where
  used : ∃ q, GivesAt entries first q ∧ q.name = name
  unused : ∀ j < first, ∀ q, GivesAt entries j q → q.name ≠ name

/-- What is wrong with the entry at a position, in view of those before it. -/
inductive Offence (entries : List Json) (i : Nat) : DefinitionError → Prop
  | unreadable {entry : Json} {e : DefinitionError} (present : entries[i]? = some entry)
      (fails : Query.ofEntry i entry = .error e) : Offence entries i e
  | repeated {q : Query} {first : Nat} (gives : GivesAt entries i q) (earlier : first < i)
      (firstUse : IsFirstUse entries q.name first) :
      Offence entries i ⟨.entry i (some q.name), .duplicateName q.name first⟩

structure IsFirstOffence (entries : List Json) (i : Nat) (e : DefinitionError) : Prop where
  offence : Offence entries i e
  first : ∀ j < i, ∀ f, ¬ Offence entries j f

variable {entries more : List Json} {i j : Nat} {q r : Query} {e f : DefinitionError}
  {name : String} {seen : List (String × Nat)}

/-! ## Offences are determined -/

theorem GivesAt.unique (hq : GivesAt entries i q) (hr : GivesAt entries i r) : q = r := by
  obtain ⟨entry, present, reads⟩ := hq
  obtain ⟨other, also, readsOther⟩ := hr
  rw [present] at also
  cases also
  rw [reads] at readsOther
  cases readsOther
  rfl

theorem GivesAt.not_fails {entry : Json} (h : GivesAt entries i q)
    (present : entries[i]? = some entry) : Query.ofEntry i entry ≠ .error e := by
  obtain ⟨other, also, reads⟩ := h
  rw [present] at also
  cases also
  rw [reads]
  nofun

theorem IsFirstUse.unique (hi : IsFirstUse entries name i) (hj : IsFirstUse entries name j) :
    i = j := by
  obtain ⟨q, gives, named⟩ := hi.used
  obtain ⟨r, givesOther, namedOther⟩ := hj.used
  have notBefore : ¬ i < j := fun before => hj.unused i before q gives named
  have notAfter : ¬ j < i := fun after => hi.unused j after r givesOther namedOther
  omega

theorem Offence.unique (he : Offence entries i e) (hf : Offence entries i f) : e = f := by
  cases he with
  | unreadable present fails =>
      cases hf with
      | unreadable also failsOther =>
          rw [present] at also
          cases also
          rw [fails] at failsOther
          cases failsOther
          rfl
      | repeated gives _ _ => exact absurd fails (gives.not_fails present)
  | repeated gives _ firstUse =>
      cases hf with
      | unreadable present fails => exact absurd fails (gives.not_fails present)
      | repeated givesOther _ firstUseOther =>
          cases gives.unique givesOther
          cases firstUse.unique firstUseOther
          rfl

theorem IsFirstOffence.unique (he : IsFirstOffence entries i e) (hf : IsFirstOffence entries j f) :
    i = j ∧ e = f := by
  have notBefore : ¬ i < j := fun before => hf.first i before e he.offence
  have notAfter : ¬ j < i := fun after => he.first j after f hf.offence
  have same : i = j := by omega
  subst same
  exact ⟨rfl, he.offence.unique hf.offence⟩

theorem Offence.location (h : Offence entries i e) : ∃ name, e.location = .entry i name := by
  cases h with
  | unreadable _ fails => exact location_of_ofEntry fails
  | repeated _ _ _ => exact ⟨_, rfl⟩

/-! ## What follows does not matter -/

theorem Offence.lt_length (h : Offence entries i e) : i < entries.length := by
  cases h with
  | unreadable present _ => exact (List.getElem?_eq_some_iff.mp present).1
  | repeated gives _ _ =>
      obtain ⟨_, present, _⟩ := gives
      exact (List.getElem?_eq_some_iff.mp present).1

theorem givesAt_append (inside : i < entries.length) :
    GivesAt (entries ++ more) i q ↔ GivesAt entries i q := by
  rw [GivesAt, GivesAt, List.getElem?_append_left inside]

theorem isFirstUse_append (inside : i < entries.length) :
    IsFirstUse (entries ++ more) name i ↔ IsFirstUse entries name i := by
  constructor
  · rintro ⟨⟨q, gives, named⟩, unused⟩
    refine ⟨⟨q, (givesAt_append inside).mp gives, named⟩, fun j before r givesOther => ?_⟩
    exact unused j before r ((givesAt_append (before.trans inside)).mpr givesOther)
  · rintro ⟨⟨q, gives, named⟩, unused⟩
    refine ⟨⟨q, (givesAt_append inside).mpr gives, named⟩, fun j before r givesOther => ?_⟩
    exact unused j before r ((givesAt_append (before.trans inside)).mp givesOther)

theorem offence_append (inside : i < entries.length) :
    Offence (entries ++ more) i e ↔ Offence entries i e := by
  constructor
  · intro h
    cases h with
    | unreadable present fails =>
        rw [List.getElem?_append_left inside] at present
        exact .unreadable present fails
    | repeated gives earlier firstUse =>
        exact .repeated ((givesAt_append inside).mp gives) earlier
          ((isFirstUse_append (earlier.trans inside)).mp firstUse)
  · intro h
    cases h with
    | unreadable present fails =>
        exact .unreadable ((List.getElem?_append_left inside).trans present) fails
    | repeated gives earlier firstUse =>
        exact .repeated ((givesAt_append inside).mpr gives) earlier
          ((isFirstUse_append (earlier.trans inside)).mpr firstUse)

theorem IsFirstOffence.append (h : IsFirstOffence entries i e) (more : List Json) :
    IsFirstOffence (entries ++ more) i e := by
  have inside := h.offence.lt_length
  refine ⟨(offence_append inside).mpr h.offence, fun j before f offence => ?_⟩
  exact h.first j before f ((offence_append (before.trans inside)).mp offence)

/-! ## Readings up to an entry -/

/-- A reading has come to a position: nothing before it offends, and the names seen are those before
it, each with its position. -/
structure Passed (entries : List Json) (i : Nat) (seen : List (String × Nat)) : Prop where
  clean : ∀ j < i, ∀ e, ¬ Offence entries j e
  names : ∀ name j, seen.lookup name = some j ↔ j < i ∧ ∃ q, GivesAt entries j q ∧ q.name = name

theorem passed_start (entries : List Json) : Passed entries 0 [] where
  clean := by simp
  names := by simp

namespace Passed

theorem isFirstUse (h : Passed entries i seen) (found : seen.lookup name = some j) :
    IsFirstUse entries name j := by
  obtain ⟨before, used⟩ := (h.names name j).mp found
  refine ⟨used, fun k earlier r gives named => ?_⟩
  have also := (h.names name k).mpr ⟨earlier.trans before, r, gives, named⟩
  rw [found] at also
  cases also
  omega

/-- One entry is passed if it can be read and its name is new. -/
theorem step (h : Passed entries i seen) (gives : GivesAt entries i q)
    (new : seen.lookup q.name = none) : Passed entries (i + 1) ((q.name, i) :: seen) := by
  have noUse : ∀ j < i, ∀ r, GivesAt entries j r → r.name ≠ q.name := by
    intro j before r givesOther named
    have found := (h.names q.name j).mpr ⟨before, r, givesOther, named⟩
    rw [new] at found
    cases found
  constructor
  · intro j before e offence
    obtain earlier | rfl := Nat.lt_succ_iff_lt_or_eq.mp before
    · exact h.clean j earlier e offence
    · cases offence with
      | unreadable present fails => exact absurd fails (gives.not_fails present)
      | repeated givesHere earlier firstUse =>
          cases givesHere.unique gives
          obtain ⟨r, givesOther, named⟩ := firstUse.used
          exact noUse _ earlier r givesOther named
  · intro name j
    by_cases same : name = q.name
    · subst same
      rw [List.lookup_cons_self, Option.some_inj]
      constructor
      · rintro rfl
        exact ⟨Nat.lt_succ_self i, q, gives, rfl⟩
      · rintro ⟨before, r, givesOther, named⟩
        have notEarlier : ¬ j < i := fun earlier => noUse j earlier r givesOther named
        omega
    · have other : (name == q.name) = false := beq_eq_false_iff_ne.mpr same
      rw [List.lookup_cons, other]
      dsimp only
      rw [h.names]
      constructor
      · rintro ⟨before, used⟩
        exact ⟨Nat.lt_succ_of_lt before, used⟩
      · rintro ⟨before, r, givesOther, named⟩
        refine ⟨Nat.lt_of_le_of_ne (Nat.le_of_lt_succ before) ?_, r, givesOther, named⟩
        rintro rfl
        exact same (named.symm.trans (congrArg Query.name (givesOther.unique gives)))

/-- From where nothing has offended, a reading succeeds and nothing offends, or it fails with the
first offence. -/
theorem ofEntries_cases {rest : List Json} (h : Passed entries i seen)
    (remaining : entries.drop i = rest) :
    ((∃ qs, Query.ofEntries seen i rest = .ok qs) ∧ ∀ j e, ¬ Offence entries j e) ∨
      ∃ j e, Query.ofEntries seen i rest = .error e ∧ IsFirstOffence entries j e := by
  -- By induction on the entries that remain; `Passed` holds of the names seen at each of them.
  induction rest generalizing i seen with
  | nil =>
      refine .inl ⟨⟨[], rfl⟩, fun j e offence => ?_⟩
      have exhausted : entries.length ≤ i := List.drop_eq_nil_iff.mp remaining
      exact h.clean j (offence.lt_length.trans_le exhausted) e offence
  | cons entry rest ih =>
      have present : entries[i]? = some entry := by
        rw [← List.head?_drop, remaining, List.head?_cons]
      have others : entries.drop (i + 1) = rest := by
        rw [← List.tail_drop, remaining, List.tail_cons]
      cases reads : Query.ofEntry i entry with
      | error e =>
          refine .inr ⟨i, e, ?_, .unreadable present reads, h.clean⟩
          rw [Query.ofEntries, reads]
          rfl
      | ok q =>
          have gives : GivesAt entries i q := ⟨entry, present, reads⟩
          cases found : seen.lookup q.name with
          | some first =>
              have earlier := ((h.names q.name first).mp found).1
              exact .inr ⟨i, _, ofEntries_cons_repeated rest reads found,
                .repeated gives earlier (h.isFirstUse found), h.clean⟩
          | none =>
              rw [ofEntries_cons_new rest reads found]
              obtain ⟨⟨qs, later⟩, clean⟩ | ⟨j, e, later, first⟩ :=
                ih (h.step gives found) others
              · rw [later]
                exact .inl ⟨⟨q :: qs, rfl⟩, clean⟩
              · rw [later]
                exact .inr ⟨j, e, rfl, first⟩

end Passed

theorem exists_isFirstUse (h : GivesAt entries i q) :
    ∃ first ≤ i, IsFirstUse entries q.name first := by
  classical
  have used : ∃ j, ∃ r, GivesAt entries j r ∧ r.name = q.name := ⟨i, q, h, rfl⟩
  refine ⟨Nat.find used, Nat.find_min' used ⟨q, h, rfl⟩, Nat.find_spec used, ?_⟩
  intro j before r gives named
  exact Nat.find_min used before ⟨r, gives, named⟩

/-- Nothing offends exactly if every entry can be read and no two queries have one name. -/
theorem forall_not_offence_iff :
    (∀ i e, ¬ Offence entries i e) ↔
      (∀ i < entries.length, ∃ q, GivesAt entries i q) ∧
        ∀ i j q r, i < j → GivesAt entries i q → GivesAt entries j r → q.name ≠ r.name := by
  constructor
  · intro clean
    refine ⟨fun i inside => ?_, fun i j q r before gives givesLater same => ?_⟩
    · have present := List.getElem?_eq_getElem inside
      cases reads : Query.ofEntry i entries[i] with
      | error e => exact absurd (.unreadable present reads) (clean i e)
      | ok q => exact ⟨q, entries[i], present, reads⟩
    · obtain ⟨first, notAfter, firstUse⟩ := exists_isFirstUse gives
      rw [same] at firstUse
      exact clean j _ (.repeated givesLater (notAfter.trans_lt before) firstUse)
  · rintro ⟨readable, distinct⟩ i e offence
    cases offence with
    | unreadable present fails =>
        obtain ⟨q, gives⟩ := readable i (List.getElem?_eq_some_iff.mp present).1
        exact gives.not_fails present fails
    | repeated gives earlier firstUse =>
        obtain ⟨r, givesEarlier, named⟩ := firstUse.used
        exact distinct _ _ _ _ earlier givesEarlier gives named

theorem ofEntries_isOk_iff :
    (∃ qs, Query.ofEntries [] 0 entries = .ok qs) ↔ ∀ i e, ¬ Offence entries i e := by
  obtain ⟨read, clean⟩ | ⟨j, f, failed, first⟩ :=
    (passed_start entries).ofEntries_cases List.drop_zero
  · exact ⟨fun _ => clean, fun _ => read⟩
  · rw [failed]
    constructor
    · rintro ⟨qs, ⟨⟩⟩
    · intro clean
      exact absurd first.offence (clean j f)

theorem ofEntries_eq_error_iff :
    Query.ofEntries [] 0 entries = .error e ↔ ∃ i, IsFirstOffence entries i e := by
  obtain ⟨⟨qs, read⟩, clean⟩ | ⟨j, f, failed, first⟩ :=
    (passed_start entries).ofEntries_cases List.drop_zero
  · rw [read]
    constructor
    · nofun
    · rintro ⟨i, h⟩
      exact absurd h.offence (clean i e)
  · rw [failed]
    constructor
    · intro same
      cases same
      exact ⟨j, first⟩
    · rintro ⟨i, h⟩
      rw [(first.unique h).2]

/-- A document with a list of queries is read as its entries are, if each of them can be read and no
name is repeated. If not, the error is the first offence, whatever follows. -/
theorem ofDocument_eq_firstOffence {members : Members}
    (list : members.lookup "queries" = some (.array entries)) :
    ((∃ qs, Query.ofDocument (.object members) = .ok qs) ↔
      (∀ i < entries.length, ∃ q, GivesAt entries i q) ∧
        ∀ i j q r, i < j → GivesAt entries i q → GivesAt entries j r → q.name ≠ r.name) ∧
    (∀ qs, Query.ofDocument (.object members) = .ok qs →
      qs.length = entries.length ∧ ∀ (i : Nat) q, qs[i]? = some q → GivesAt entries i q) ∧
    (∀ e, Query.ofDocument (.object members) = .error e ↔ ∃ i, IsFirstOffence entries i e) ∧
    (∀ i e, IsFirstOffence entries i e → ∃ name, e.location = .entry i name) ∧
    ∀ e more other, Query.ofDocument (.object members) = .error e →
      other.lookup "queries" = some (.array (entries ++ more)) →
        Query.ofDocument (.object other) = .error e := by
  rw [ofDocument_of_lookup list]
  refine ⟨ofEntries_isOk_iff.trans forall_not_offence_iff, fun qs read => ?_,
    fun e => ofEntries_eq_error_iff, fun i e first => first.offence.location,
    fun e more other failed longer => ?_⟩
  · obtain ⟨sameLength, pointwise⟩ := ofEntries_eq_ok read
    refine ⟨sameLength, fun i q found => ?_⟩
    have inside : i < entries.length := by
      rw [← sameLength]
      exact (List.getElem?_eq_some_iff.mp found).1
    have present := List.getElem?_eq_getElem inside
    have reads := pointwise i entries[i] q present found
    rw [Nat.zero_add] at reads
    exact ⟨entries[i], present, reads⟩
  · obtain ⟨i, first⟩ := ofEntries_eq_error_iff.mp failed
    rw [ofDocument_of_lookup longer]
    exact ofEntries_eq_error_iff.mpr ⟨i, first.append more⟩

/-- Three entries, of which the second has the name of the first, with blanks around it, and the
third is no mapping. -/
def repeatedEntries : List Json :=
  [.object [("name", .string "IQuery_Run")], .object [("name", .string " IQuery_Run ")], .null]

theorem ofDocument_eq_firstOffence_repeatedEntries :
    let e : DefinitionError :=
      ⟨.entry 1 (some "IQuery_Run"), .duplicateName "IQuery_Run" 0⟩
    Query.ofDocument (.object [("queries", .array repeatedEntries)]) = .error e ∧
      IsFirstOffence repeatedEntries 1 e ∧
      Query.ofDocument (.object [("queries", .array (repeatedEntries ++ [.bool true]))]) =
        .error e := by
  intro e
  have failed : Query.ofDocument (.object [("queries", .array repeatedEntries)]) = .error e := rfl
  have list : List.lookup "queries" [("queries", Json.array repeatedEntries)] =
      some (Json.array repeatedEntries) := rfl
  obtain ⟨_, _, error, location, longer⟩ := ofDocument_eq_firstOffence list
  obtain ⟨i, first⟩ := (error e).mp failed
  obtain ⟨name, place⟩ := location i e first
  cases place
  exact ⟨failed, first, longer e _ _ failed rfl⟩

end QueryHeaders
