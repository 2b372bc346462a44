import Mathlib.Data.List.Forall2
import WikiEntry.Proofs.Store.FileTree
import WikiEntry.Store.Memory
import WikiEntry.Store.PageFolder

/-!
# Pages and their files

A store in memory keeps every page apart.  In a folder a page is kept in the file that is named after its title, and
several characters of a title become an underscore in that name; so a text that is submitted for one page is what is read
for every title with the same file name, and for no other title.
-/

namespace WikiEntry

/-!
# Names of files
-/

namespace PageFolder

/-- The characters that are an underscore in the name of a file. -/
def underscored : List Char :=
  ['/', '\\', ':', ' ', '_']

/-- Titles that differ, but for blanks around them, at most in characters that the name of a file does not show. -/
def SharesFile (a b : Text) : Prop :=
  List.Forall₂ (fun c c' => c = c' ∨ c ∈ underscored ∧ c' ∈ underscored) a.trim b.trim

theorem nameChar_of_mem {c : Char} (h : c ∈ underscored) : nameChar c = '_' := by
  simp only [underscored, List.mem_cons, List.not_mem_nil, or_false] at h
  rcases h with rfl | rfl | rfl | rfl | rfl <;> decide

theorem nameChar_of_not_mem {c : Char} (h : c ∉ underscored) : nameChar c = c := by
  simp only [underscored, List.mem_cons, List.not_mem_nil, or_false, not_or] at h
  exact if_neg fun hc => hc.elim h.1 fun hc => hc.elim h.2.1 fun hc => hc.elim h.2.2.1 h.2.2.2.1

theorem nameChar_eq_iff {c c' : Char} :
    nameChar c = nameChar c' <-> c = c' ∨ c ∈ underscored ∧ c' ∈ underscored := by
  have hunderscore : '_' ∈ underscored := by decide
  by_cases h : c ∈ underscored
  · by_cases h' : c' ∈ underscored
    · rw [nameChar_of_mem h, nameChar_of_mem h']
      exact iff_of_true rfl (Or.inr ⟨h, h'⟩)
    · rw [nameChar_of_mem h, nameChar_of_not_mem h']
      refine iff_of_false (fun heq => h' (heq ▸ hunderscore)) ?_
      rintro (rfl | hboth)
      · exact h' h
      · exact h' hboth.2
  · rw [nameChar_of_not_mem h]
    constructor
    · intro heq
      refine Or.inl (heq.trans (nameChar_of_not_mem fun h' => h ?_))
      rw [heq, nameChar_of_mem h']
      exact hunderscore
    · rintro (rfl | hboth)
      · exact (nameChar_of_not_mem h).symm
      · exact absurd hboth.1 h

theorem fileName_eq_iff {a b : Text} : fileName a = fileName b <-> SharesFile a b := by
  rw [fileName, fileName, List.append_cancel_right_eq, ← List.forall₂_eq_eq_eq, List.forall₂_map_left_iff,
    List.forall₂_map_right_iff, SharesFile]
  simp only [nameChar_eq_iff]

theorem goesUp_fileName (title : Text) : Path.goesUp (fileName title) = false := by
  refine beq_false_of_ne fun h => ?_
  have hlast := congrArg List.getLast? h
  rw [fileName, List.getLast?_append_of_ne_nil _ (by decide)] at hlast
  exact absurd hlast (by decide)

/-!
# Submitting
-/

variable {d : PageFolder} {t t' : FileTree} {title other text : Text} {base now : Nat}

theorem write_of_submit (h : d.submit t title text base now = .ok (t', .accepted)) :
    t.write (d.pathOf title) text now = .ok t' := by
  rw [submit] at h
  split at h
  · cases h
  · split at h
    · rename_i hwrite
      rw [hwrite, (Prod.mk.inj (Except.ok.inj h)).1]
    · cases h

theorem fetch_of_submit (h : d.submit t title text base now = .ok (t', .accepted)) :
    d.fetch t' other =
      if fileName other = fileName title then .ok ⟨other, text, now⟩ else d.fetch t other := by
  have hread := FileTree.read_write_child (goesUp_fileName title) (goesUp_fileName other) (write_of_submit h)
  rw [fetch, pathOf, hread]
  by_cases heq : fileName other = fileName title
  · rw [if_pos heq, if_pos heq]
  · rw [if_neg heq, if_neg heq]
    rfl

end PageFolder

namespace MemoryStore

theorem fetch_of_submit {s : MemoryStore} {title other text summary : Text} {base : Nat}
    (h : (s.submit title text summary base).2 = .accepted) :
    (s.submit title text summary base).1.fetch other =
      if other = title then .ok ⟨title, text, base + 1⟩ else s.fetch other := by
  by_cases hbase : s.revision title = base
  · have hfind : (s.submit title text summary base).1.find? other = (s.insert title text).find? other := by
      rw [submit, if_pos hbase]
      rfl
    rw [fetch, hfind, find?_insert, hbase]
    by_cases heq : other = title
    · rw [if_pos heq, if_pos heq]
    · rw [if_neg heq, if_neg heq]
      rfl
  · rw [submit, if_neg hbase] at h
    cases h

end MemoryStore

/-!
# Pages apart
-/

namespace PageFolder

/-- After an accepted submission a store in memory has that one page changed.  In a folder the new text is what is read
for every title that shares the file, and all other titles are read as before. -/
theorem accepted_submission_changes_one_file (title other text : Text) :
    (forall (s : MemoryStore) (summary : Text) (base : Nat), (s.submit title text summary base).2 = .accepted ->
      (s.submit title text summary base).1.fetch other =
        if other = title then .ok ⟨title, text, base + 1⟩ else s.fetch other) ∧
      forall (d : PageFolder) (t t' : FileTree) (base now : Nat),
        d.submit t title text base now = .ok (t', .accepted) ->
          (SharesFile other title -> d.fetch t' other = .ok ⟨other, text, now⟩) ∧
            (¬ SharesFile other title -> d.fetch t' other = d.fetch t other) := by
  refine ⟨fun s summary base h => MemoryStore.fetch_of_submit h, fun d t t' base now h => ?_⟩
  rw [fetch_of_submit h, ← fileName_eq_iff]
  exact ⟨fun heq => if_pos heq, fun hne => if_neg hne⟩

/-- A folder with one page. -/
def folderWithPage : FileTree :=
  ⟨[(⟨false, ["a_b.wiki".toList], false⟩, ⟨"x".toList, 1⟩)]⟩

/-- What is left of it when another text is submitted. -/
def folderWithNewText : FileTree :=
  ⟨[(⟨false, ["a_b.wiki".toList], false⟩, ⟨"y".toList, 2⟩)]⟩

theorem submit_folderWithPage :
    submit {} folderWithPage "a b" "y" 1 2 = .ok (folderWithNewText, .accepted) := by
  decide +kernel

theorem accepted_submission_changes_one_file_folderWithPage :
    (MemoryStore.submit {} "a b" "y" [] 0).2 = .accepted ∧
      (MemoryStore.submit {} "a b" "y" [] 0).1.fetch "a:b" = MemoryStore.fetch {} "a:b" ∧
      submit {} folderWithPage "a b" "y" 1 2 = .ok (folderWithNewText, .accepted) ∧ SharesFile "a:b" "a b" ∧
      fetch {} folderWithNewText "a:b" = .ok ⟨"a:b", "y", 2⟩ := by
  have hshares : SharesFile "a:b" "a b" := fileName_eq_iff.mp (by decide +kernel)
  have haccepted : (MemoryStore.submit {} "a b" "y" [] 0).2 = .accepted := by decide
  have hall := accepted_submission_changes_one_file "a b" "a:b" "y"
  exact ⟨haccepted, hall.1 {} [] 0 haccepted, submit_folderWithPage, hshares,
    (hall.2 {} _ _ 1 2 submit_folderWithPage).1 hshares⟩

/-- Two titles without blanks at their ends may share a file, and then the page of one is the page of the other. -/
theorem not_forall_fetch_of_submit :
    ¬ forall (d : PageFolder) (t t' : FileTree) (title other text : Text) (base now : Nat), title.trim = title ->
      other.trim = other -> title ≠ other -> d.submit t title text base now = .ok (t', .accepted) ->
        d.fetch t' other = d.fetch t other := by
  intro h
  have hsame := h {} folderWithPage folderWithNewText "a b" "a:b" "y" 1 2 (by decide +kernel) (by decide +kernel)
    (by decide) submit_folderWithPage
  exact absurd hsame (by decide +kernel)

end PageFolder
end WikiEntry
