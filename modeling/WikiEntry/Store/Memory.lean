import WikiEntry.Store.Basic

/-!
# Pages in memory

Every accepted text raises the revision of its page by one; a page that is not there has revision 0.
Submissions leave a record with their summaries, insertions do not.
-/

namespace WikiEntry

structure MemoryStore where
  pages : List StoredPage := []
  /-- The titles and summaries of the accepted submissions, the first one first. -/
  summaries : List (Text × Text) := []
  deriving DecidableEq, Repr

namespace MemoryStore

def find? (s : MemoryStore) (title : Text) : Option StoredPage :=
  s.pages.find? (·.title == title)

def revision (s : MemoryStore) (title : Text) : Nat :=
  ((s.find? title).map StoredPage.revision).getD 0

def fetch (s : MemoryStore) (title : Text) : Except EntryError StoredPage :=
  match s.find? title with
  | some page => .ok page
  | none => .error (.storage (.noSuchPage title))

def insert (s : MemoryStore) (title t : Text) : MemoryStore :=
  { s with pages := ⟨title, t, s.revision title + 1⟩ :: s.pages.filter (·.title != title) }

/-- Replaces a page that still has the revision `base`. -/
def submit (s : MemoryStore) (title t summary : Text) (base : Nat) : MemoryStore × Submission :=
  if s.revision title = base then
    ({ s.insert title t with summaries := s.summaries ++ [(title, summary)] }, .accepted)
  else (s, .conflict)

/-!
# What changes
-/

theorem find?_insert (s : MemoryStore) (title t other : Text) :
    (s.insert title t).find? other =
      if other = title then some ⟨title, t, s.revision title + 1⟩ else s.find? other := by
  by_cases h : other = title
  · subst h
    simp [find?, insert]
  · have hne : (title == other) = false := by simpa using fun e => h e.symm
    rw [if_neg h]
    simp only [find?, insert, List.find?_cons, hne]
    induction s.pages with
    | nil => rfl
    | cons page pages ih =>
        by_cases hp : page.title = title
        · simp [hp, List.find?_cons, ← ih]
          simp [hne]
        · simp [hp, List.find?_cons, ih]

end MemoryStore
end WikiEntry
