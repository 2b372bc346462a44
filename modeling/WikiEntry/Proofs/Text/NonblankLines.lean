import Mathlib.Data.List.Perm.Basic
import WikiEntry.Proofs.Text.Lines
import WikiEntry.Proofs.Text.Trimming

/-!
# Lines on which something stands

What a text says line by line is the list of its lines that are not blank, each without the blanks at its ends.
Trimming the text leaves this list as it is, and a newline between two texts joins their lists.
-/

namespace WikiEntry
namespace Text

/-- Lines on which something stands, without the blanks at their ends. -/
def trimmedLines (ls : List Text) : List Text :=
  (ls.map trim).filter (!·.isEmpty)

/-- The lines of a text on which something stands. -/
def nonblankLines (t : Text) : List Text :=
  trimmedLines (t.splitOn ['\n'])

variable {t u : Text} {ls : List Text}

theorem trimmedLines_append (ls ms : List Text) : trimmedLines (ls ++ ms) = trimmedLines ls ++ trimmedLines ms := by
  rw [trimmedLines, List.map_append, List.filter_append]
  rfl

theorem trimmedLines_perm {ms : List Text} (h : ls.Perm ms) : (trimmedLines ls).Perm (trimmedLines ms) :=
  (h.map trim).filter _

theorem trimmedLines_map {f : Text -> Text} (hf : forall l, (f l).trim = l.trim) (ls : List Text) :
    trimmedLines (ls.map f) = trimmedLines ls := by
  have hcomp : trim ∘ f = trim := funext hf
  rw [trimmedLines, List.map_map, hcomp]
  rfl

theorem trimmedLines_eq_nil_iff : trimmedLines ls = [] <-> forall l, l ∈ ls -> l.isBlank = true := by
  rw [trimmedLines, List.filter_eq_nil_iff, List.forall_mem_map]
  refine forall_congr' fun l => imp_congr_right fun _ => ?_
  rw [← trim_eq_nil_iff]
  cases l.trim <;> simp

theorem trimmedLines_cons_congr {l m : Text} (h : l.trim = m.trim) (ls : List Text) :
    trimmedLines (l :: ls) = trimmedLines (m :: ls) := by
  rw [trimmedLines, trimmedLines, List.map_cons, List.map_cons, h]

/-!
# Appending
-/

theorem nonblankLines_append_newline (t u : Text) :
    (t ++ '\n' :: u).nonblankLines = t.nonblankLines ++ u.nonblankLines := by
  rw [nonblankLines, lines_append, trimmedLines_append]
  rfl

/-- Without a newline between them the last line of the one text goes on with the first line of the other. -/
theorem exists_lines_append (t u : Text) :
    exists front l m back, Text.splitOn t ['\n'] = front ++ [l] ∧ Text.splitOn u ['\n'] = m :: back ∧
      Text.splitOn (t ++ u) ['\n'] = front ++ (l ++ m) :: back := by
  rcases List.eq_nil_or_concat (Text.splitOn t ['\n']) with hnil | ⟨front, l, ht⟩
  · exact absurd hnil (lines_ne_nil t)
  rw [List.concat_eq_append] at ht
  cases hu : Text.splitOn u ['\n'] with
  | nil => exact absurd hu (lines_ne_nil u)
  | cons m back =>
      refine ⟨front, l, m, back, ht, rfl, ?_⟩
      have hjoined : t ++ u = joinWith "\n" (front ++ (l ++ m) :: back) := by
        have hback : joinWith "\n" ((l ++ m) :: back) = l ++ joinWith "\n" (m :: back) := by
          cases back with
          | nil => rfl
          | cons _ _ => simp only [joinWith, List.append_assoc]
        have hsplit : joinWith "\n" (front ++ (l ++ m) :: back) =
            joinWith "\n" (front ++ [l]) ++ joinWith "\n" (m :: back) := by
          by_cases hfront : front = []
          · rw [hfront, List.nil_append, hback]
            rfl
          · rw [joinWith_append _ hfront (List.cons_ne_nil _ _), hback, joinWith_concat, flatMap_append_sep hfront]
            simp only [List.append_assoc]
        rw [hsplit, ← ht, ← hu]
        show t ++ u = joinWith ['\n'] _ ++ joinWith ['\n'] _
        rw [joinWith_splitOn (List.cons_ne_nil _ _), joinWith_splitOn (List.cons_ne_nil _ _)]
      rw [hjoined]
      refine lines_joinWith (by simp) fun n hn => ?_
      have hclear : forall {v : Text} {k : Text}, k ∈ Text.splitOn v ['\n'] -> '\n' ∉ k := newline_not_mem_of_mem_lines
      rw [List.mem_append, List.mem_cons] at hn
      rcases hn with hn | rfl | hn
      · exact hclear (v := t) (ht ▸ List.mem_append_left _ hn)
      · rw [List.mem_append, not_or]
        exact ⟨hclear (v := t) (ht ▸ by simp), hclear (v := u) (hu ▸ by simp)⟩
      · exact hclear (v := u) (hu ▸ List.mem_cons_of_mem m hn)

theorem isBlank_of_mem_lines {l : Text} (ht : t.isBlank = true) (hl : l ∈ Text.splitOn t ['\n']) :
    l.isBlank = true := by
  rw [isBlank, List.all_eq_true] at ht ⊢
  intro ch hch
  apply ht
  rw [← joinWith_splitOn (t := t) (List.cons_ne_nil '\n' [])]
  exact mem_joinWith hl hch

theorem trim_append_of_isBlank_left (ht : t.isBlank = true) : (t ++ u).trim = u.trim := by
  show trimRightBy (trimLeftBy (t ++ u) _) _ = _
  rw [trimLeftBy_append_of_all ht]
  rfl

theorem trim_append_of_isBlank_right (hu : u.isBlank = true) : (t ++ u).trim = t.trim := by
  cases ht : t.isBlank with
  | true =>
      rw [trim_append_of_isBlank_left ht, trim_eq_nil_iff.mpr ht, trim_eq_nil_iff.mpr hu]
  | false =>
      show trimRightBy (trimLeftBy (t ++ u) _) _ = _
      rw [trimLeftBy_append_of_not_all ht, trimRightBy_append_of_all hu]
      rfl

theorem nonblankLines_append_of_isBlank_left (ht : t.isBlank = true) : (t ++ u).nonblankLines = u.nonblankLines := by
  rcases exists_lines_append t u with ⟨front, l, m, back, hfront, hback, heq⟩
  have hblank : forall k, k ∈ front ++ [l] -> k.isBlank = true := fun k hk => isBlank_of_mem_lines ht (hfront ▸ hk)
  have hgone : trimmedLines front = [] :=
    trimmedLines_eq_nil_iff.mpr fun k hk => hblank k (List.mem_append_left _ hk)
  have hfirst : (l ++ m).trim = m.trim := trim_append_of_isBlank_left (hblank l (by simp))
  rw [nonblankLines, nonblankLines, heq, hback, trimmedLines_append, hgone, List.nil_append,
    trimmedLines_cons_congr hfirst]

theorem nonblankLines_append_of_isBlank_right (hu : u.isBlank = true) : (t ++ u).nonblankLines = t.nonblankLines := by
  rcases exists_lines_append t u with ⟨front, l, m, back, hfront, hback, heq⟩
  have hblank : forall k, k ∈ m :: back -> k.isBlank = true := fun k hk => isBlank_of_mem_lines hu (hback ▸ hk)
  have hgone : trimmedLines back = [] :=
    trimmedLines_eq_nil_iff.mpr fun k hk => hblank k (List.mem_cons_of_mem m hk)
  have hlast : (l ++ m).trim = l.trim := trim_append_of_isBlank_right (hblank m List.mem_cons_self)
  rw [nonblankLines, nonblankLines, heq, hfront, List.append_cons, trimmedLines_append, hgone, List.append_nil,
    trimmedLines_append, trimmedLines_cons_congr hlast, ← trimmedLines_append]

theorem nonblankLines_of_isBlank (ht : t.isBlank = true) : t.nonblankLines = [] := by
  have hall := nonblankLines_append_of_isBlank_left (u := []) ht
  rwa [List.append_nil] at hall

/-- Trimming a text changes none of these lines. -/
theorem nonblankLines_trim (t : Text) : t.trim.nonblankLines = t.nonblankLines := by
  cases ht : t.isBlank with
  | true =>
      rw [trim_eq_nil_iff.mpr ht, nonblankLines_of_isBlank ht]
      rfl
  | false =>
      have hfront : isBlank (t.takeWhile Chars.isBlank) = true := List.all_takeWhile ..
      have hback : isBlank (t.reverse.takeWhile Chars.isBlank).reverse = true := by
        rw [isBlank, List.all_reverse]
        exact List.all_takeWhile ..
      conv =>
        rhs
        rw [← takeWhile_append_trimBy ht, nonblankLines_append_of_isBlank_right hback,
          nonblankLines_append_of_isBlank_left hfront]
      rfl

/-!
# Lines without their ends
-/

theorem trim_dropReturn (l : Text) : (dropReturn l).trim = l.trim := by
  rw [dropReturn]
  split
  · rename_i hlast
    rcases List.getLast?_eq_some_iff.mp hlast with ⟨front, rfl⟩
    rw [List.dropLast_concat]
    exact (trim_append_of_isBlank_right (by decide)).symm
  · rfl

theorem trimmedLines_lines (t : Text) : trimmedLines t.lines = t.nonblankLines := by
  rcases List.eq_nil_or_concat (Text.splitOn t ['\n']) with hnil | ⟨front, l, ht⟩
  · exact absurd hnil (lines_ne_nil t)
  rw [List.concat_eq_append] at ht
  have hlast : trimmedLines (Option.filter (!·.isEmpty) (some l)).toList = trimmedLines [l] := by
    cases l with
    | nil => rfl
    | cons _ _ => rfl
  rw [nonblankLines, Text.lines, ht, List.dropLast_concat, List.getLast?_concat, trimmedLines_append,
    trimmedLines_map trim_dropReturn, hlast, ← trimmedLines_append]

theorem newline_not_mem_line {l : Text} (hl : l ∈ t.lines) : '\n' ∉ l := by
  rw [Text.lines, List.mem_append, List.mem_map] at hl
  rcases hl with ⟨m, hm, rfl⟩ | hl
  · have hclear : '\n' ∉ m := newline_not_mem_of_mem_lines (t := t) (List.mem_of_mem_dropLast hm)
    rw [dropReturn]
    split
    · exact fun hmem => hclear (List.mem_of_mem_dropLast hmem)
    · exact hclear
  · rw [Option.mem_toList, Option.filter_eq_some_iff] at hl
    exact newline_not_mem_of_mem_lines (t := t) (List.mem_of_getLast? hl.1)

theorem nonblankLines_joinWith (hls : forall l, l ∈ ls -> '\n' ∉ l) :
    (joinWith "\n" ls).nonblankLines = trimmedLines ls := by
  by_cases hnil : ls = []
  · rw [hnil]
    rfl
  · rw [nonblankLines, lines_joinWith hnil hls]

end Text
end WikiEntry
