import QueryHeaders.Disk.Fault
import QueryHeaders.Disk.Path

/-!
Trees of files and directories.

A place is the list of names that lead to it from the root, which is a directory. Below the root
every entry has a plain name and stands in a directory; a tree carries the proof. An operation that
fails leaves the tree as it is, except that making a row of directories keeps those already made.
-/
namespace QueryHeaders

abbrev Place := List String

/-- A file holds text, or bytes that are no text. -/
inductive Content where
  | text (s : String)
  | binary (bytes : ByteArray)

inductive Entry where
  | file (content : Content)
  | directory

inductive Kind where
  | file
  | directory
  deriving DecidableEq, Repr

namespace Entry

def kind : Entry → Kind
  | .file _ => .file
  | .directory => .directory

def isDirectory : Entry → Bool
  | .file _ => false
  | .directory => true

end Entry

/-- Whether a name stands for an entry of its directory. -/
def isPlainName (name : String) : Bool :=
  name != "" && name != "." && name != ".." && !name.toList.contains '/'

namespace FileTree

/-- The entry at a place; the root is a directory. -/
def entryIn? (entries : List (Place × Entry)) : Place → Option Entry
  | [] => some .directory
  | p => entries.lookup p

/-- Whether a place has a plain name in a directory. -/
def HasRoom (entries : List (Place × Entry)) (p : Place) : Prop :=
  (p.getLast?.any isPlainName && (entryIn? entries p.dropLast).any Entry.isDirectory) = true

instance (entries : List (Place × Entry)) (p : Place) : Decidable (HasRoom entries p) :=
  inferInstanceAs (Decidable (_ = true))

end FileTree

structure FileTree where
  entries : List (Place × Entry) := []
  rooted : ∀ p e, entries.lookup p = some e → FileTree.HasRoom entries p := by simp

namespace FileTree

def empty : FileTree := {}

instance : Inhabited FileTree := ⟨empty⟩

def entry? (t : FileTree) (p : Place) : Option Entry := entryIn? t.entries p

/-! ## Changing one place -/

theorem lookup_filter (keep : Place → Bool) (entries : List (Place × Entry)) (p : Place) :
    (entries.filter fun x => keep x.1).lookup p = if keep p then entries.lookup p else none := by
  induction entries with
  | nil => simp
  | cons x rest ih =>
      obtain ⟨q, e⟩ := x
      by_cases hq : p = q
      · subst hq
        by_cases hk : keep p <;> simp [hk, ih]
      · have hb : (p == q) = false := by simpa using hq
        by_cases hk : keep q <;> simp [hk, hb, List.lookup_cons, ih]

theorem getLast?_isSome_of_hasRoom {entries : List (Place × Entry)} {p : Place}
    (h : HasRoom entries p) : p ≠ [] := by
  rintro rfl
  simp [HasRoom] at h

/-- Room remains if no directory went. -/
theorem HasRoom.mono {entries entries' : List (Place × Entry)} {p : Place}
    (h : HasRoom entries p)
    (keeps : ∀ q, entryIn? entries q = some .directory → entryIn? entries' q = some .directory) :
    HasRoom entries' p := by
  unfold HasRoom at h ⊢
  rw [Bool.and_eq_true] at h ⊢
  refine ⟨h.1, ?_⟩
  cases hd : entryIn? entries p.dropLast with
  | none => simp [hd] at h
  | some e =>
      cases e with
      | file c => simp [hd, Entry.isDirectory] at h
      | directory => simp [keeps _ hd, Entry.isDirectory]

def withEntry (entries : List (Place × Entry)) (p : Place) (e : Entry) : List (Place × Entry) :=
  (p, e) :: entries.filter fun x => x.1 != p

theorem lookup_withEntry (entries : List (Place × Entry)) (p : Place) (e : Entry) (q : Place) :
    (withEntry entries p e).lookup q = if q = p then some e else entries.lookup q := by
  unfold withEntry
  rw [List.lookup_cons, lookup_filter (· != p)]
  by_cases h : q = p
  · simp [h]
  · have hb : (q == p) = false := by simpa using h
    simp [h, hb]

/-- Whether an entry may be put at a place: there is room, and no directory stands there. -/
def Admits (t : FileTree) (p : Place) : Prop :=
  HasRoom t.entries p ∧ ((t.entry? p).any Entry.isDirectory) = false

instance (t : FileTree) (p : Place) : Decidable (t.Admits p) :=
  inferInstanceAs (Decidable (_ ∧ _))

theorem entryIn?_withEntry_of_directory {t : FileTree} {p : Place} (h : t.Admits p) (e : Entry)
    (q : Place) (hq : entryIn? t.entries q = some .directory) :
    entryIn? (withEntry t.entries p e) q = some .directory := by
  cases q with
  | nil => rfl
  | cons n q =>
      simp only [entryIn?] at hq ⊢
      rw [lookup_withEntry]
      split
      · next hp =>
          subst hp
          simp [Admits, entry?, entryIn?, hq, Entry.isDirectory] at h
      · exact hq

/-- Puts an entry at a place that admits one. -/
def put (t : FileTree) (p : Place) (e : Entry) (h : t.Admits p) : FileTree where
  entries := withEntry t.entries p e
  rooted := by
    intro q f hq
    have keeps := entryIn?_withEntry_of_directory h e
    rw [lookup_withEntry] at hq
    split at hq
    · next hp => subst hp; exact h.1.mono keeps
    · exact (t.rooted q f hq).mono keeps

/-- Whether `q` is the place `p` or below it. -/
def isWithin (p q : Place) : Bool := q.take p.length == p

theorem isWithin_of_dropLast {p q : Place} (h : isWithin p q.dropLast = true) :
    isWithin p q = true := by
  simp only [isWithin, beq_iff_eq] at h ⊢
  have hl : p.length ≤ q.length - 1 := by
    have := congrArg List.length h
    simp only [List.length_take, List.length_dropLast] at this
    omega
  rwa [List.dropLast_eq_take, List.take_take, Nat.min_eq_left hl] at h

/-- Removes a place and everything below it. -/
def remove (t : FileTree) (p : Place) : FileTree where
  entries := t.entries.filter fun x => !isWithin p x.1
  rooted := by
    intro q f hq
    rw [lookup_filter (!isWithin p ·)] at hq
    split at hq
    · next hk =>
        have room := t.rooted q f hq
        unfold HasRoom at room ⊢
        rw [Bool.and_eq_true] at room ⊢
        refine ⟨room.1, ?_⟩
        have above : isWithin p q.dropLast = false := by
          rw [Bool.eq_false_iff]
          intro h
          simp [isWithin_of_dropLast h] at hk
        cases hd : q.dropLast with
        | nil => simp [entryIn?, Entry.isDirectory]
        | cons n r =>
            have below := room.2
            rw [hd] at below above
            simp only [entryIn?] at below ⊢
            rw [lookup_filter (!isWithin p ·)]
            simpa [above] using below
    · simp at hq

end FileTree

end QueryHeaders
