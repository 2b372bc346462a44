import WikiEntry.Proofs.LegacyLayout.Insertion
import WikiEntry.Proofs.Region.Revision
import WikiEntry.Proofs.Text.Trimming

/-!
# What stays visible around the headers

What stands in front of a template that becomes a header goes to a line of its own, and so does what stands behind it.
Markers alone are dropped in front of a template, and a comment is dropped behind it.  What begins with a comment and
ends with one is taken for a single comment, so that a text between two comments is lost.
-/

namespace WikiEntry
namespace LegacyLayout

/-!
# Visible pieces
-/

/-- A piece of a stretch of the text, not blank, that no comment reaches into. -/
structure IsVisible (t : Text) (stretch w : Span) : Prop where
  le_start : stretch.start ≤ w.start
  start_le : w.start ≤ w.stop
  stop_le : w.stop ≤ stretch.stop
  uncommented : forall n, w.start ≤ n -> n < w.stop -> Region.covers (Region.comments t) n = false
  not_blank : (t.slice w).isBlank = false

/-- Whether something is taken for a comment although a piece of it is visible. -/
def IsMistaken (t : Text) (stretch : Span) : Prop :=
  isComment ((t.slice stretch).trimLeftBy (· == ' ')) = true ∧ exists w, IsVisible t stretch w

section Pieces

variable {t : Text} {stretch w : Span}

theorem IsVisible.infix_slice (h : IsVisible t stretch w) : t.slice w <:+: t.slice stretch := by
  refine ⟨t.slice ⟨stretch.start, w.start⟩, t.slice ⟨w.stop, stretch.stop⟩, ?_⟩
  rw [Edit.slice_append_slice t h.le_start h.start_le,
    Edit.slice_append_slice t (h.le_start.trans h.start_le) h.stop_le]

theorem IsVisible.trimLeftBy_ne_nil (h : IsVisible t stretch w) : (t.slice w).trimLeftBy (· == ' ') ≠ [] := by
  intro hnil
  have hblank : (t.slice w).isBlank = true := by
    refine List.all_eq_true.mpr fun ch hch => ?_
    rw [eq_of_beq (List.all_eq_true.mp (Text.trimLeftBy_eq_nil_iff.mp hnil) ch hch)]
    decide
  rw [h.not_blank] at hblank
  cases hblank

/-!
# The line of a header
-/

/-- What is written in front of a header. -/
def frontOf (before : Text) : Text :=
  if before.all EtymologyLines.isMarker then [] else before ++ "\n"

/-- What is written behind a header. -/
def backOf (after : Text) : Text :=
  if after.isEmpty || isComment after then [] else '\n' :: after

theorem headerLine_eq (before header after : Text) :
    headerLine before header after = frontOf before ++ "=" ++ header ++ "=" ++ backOf after :=
  rfl

theorem IsVisible.infix_frontOf (h : IsVisible t stretch w)
    (hmarkers : (t.slice stretch).all EtymologyLines.isMarker = false) : t.slice w <:+: frontOf (t.slice stretch) := by
  rw [frontOf, hmarkers]
  exact h.infix_slice.trans (List.prefix_append _ _).isInfix

/-- What is visible behind the template stands behind the header, unless it is taken for a comment. -/
theorem IsVisible.infix_backOf (h : IsVisible t stretch w) (hmistaken : ¬ IsMistaken t stretch) :
    (t.slice w).trimLeftBy (· == ' ') <:+: backOf ((t.slice stretch).trimLeftBy (· == ' ')) := by
  have hinfix := Text.trimLeftBy_infix h.infix_slice (· == ' ')
  have hcomment : isComment ((t.slice stretch).trimLeftBy (· == ' ')) = false := by
    rw [← Bool.not_eq_true]
    exact fun hcomment => hmistaken ⟨hcomment, w, h⟩
  rw [backOf, hcomment, Bool.or_false]
  split
  · rename_i hempty
    rw [List.isEmpty_iff.mp hempty] at hinfix
    exact absurd (List.infix_nil.mp hinfix) h.trimLeftBy_ne_nil
  · exact hinfix.trans (List.suffix_cons _ _).isInfix

theorem IsMistaken.backOf_eq_nil (h : IsMistaken t stretch) :
    backOf ((t.slice stretch).trimLeftBy (· == ' ')) = [] := by
  rw [backOf, h.1, Bool.or_true, if_pos rfl]

end Pieces

/-!
# The lines of a text
-/

/-- The template at a span of a line is the one that a header replaces. -/
structure Replaced (t : Text) (place : Nat) (line : Text) (s : Span) : Prop where
  mem_lines : (place, line) ∈ t.placedLines
  legacy : exists u, languageTemplateOn? (seen t) place line = some (s, u) ∧ isLegacyName u.trimmedName = true

section Lines

variable {t line : Text} {place : Nat} {s : Span}

theorem exists_headLine_of_mem (title language : Text) (templates : List (Span × Template)) {lines : List (Nat × Text)}
    (h : (place, line) ∈ lines) :
    exists language', (headLine title templates place line language').1 ∈ headLines title templates language lines := by
  induction lines generalizing language with
  | nil => cases h
  | cons x lines ih =>
      rw [headLines]
      rcases List.mem_cons.mp h with rfl | h
      · exact ⟨language, List.mem_cons_self⟩
      · rcases ih _ h with ⟨language', hmem⟩
        exact ⟨language', List.mem_cons_of_mem _ hmem⟩

/-- A template that is replaced stands within its line. -/
theorem Replaced.within (h : Replaced t place line s) : place ≤ s.start ∧ s.stop ≤ place + line.length := by
  rcases h.legacy with ⟨u, hfound, _⟩
  have hon := List.find?_some hfound
  simp only [Bool.and_eq_true, decide_eq_true_eq] at hon
  exact hon.1

theorem Replaced.start_le (h : Replaced t place line s) : s.start ≤ s.stop := by
  rcases h.legacy with ⟨u, hfound, _⟩
  have hseen := List.mem_of_find?_eq_some hfound
  have hspans := (Template.of_mem_located (List.mem_filter.mp hseen).1).1
  exact (Template.within_of_mem_spansFrom hspans).start_lt_stop.le

theorem Replaced.take_eq (h : Replaced t place line s) : line.take (s.start - place) = t.slice ⟨place, s.start⟩ := by
  have hspan := h.start_le
  have hwithin := h.within
  rcases Text.exists_append_of_mem_placedLines h.mem_lines with ⟨before, after, rfl, rfl⟩
  unfold Text.slice Span.size
  dsimp only
  rw [List.append_assoc, List.drop_left, List.take_append_of_le_length (by omega)]

theorem Replaced.drop_eq (h : Replaced t place line s) :
    line.drop (s.stop - place) = t.slice ⟨s.stop, place + line.length⟩ := by
  have hspan := h.start_le
  have hwithin := h.within
  rcases Text.exists_append_of_mem_placedLines h.mem_lines with ⟨before, after, rfl, rfl⟩
  have hstop : s.stop = before.length + (s.stop - before.length) := by omega
  have hsize : before.length + line.length - s.stop = (line.drop (s.stop - before.length)).length := by
    rw [List.length_drop]
    omega
  unfold Text.slice Span.size
  dsimp only
  rw [hsize, hstop, ← List.drop_drop, List.append_assoc, List.drop_left, List.drop_append_of_le_length (by omega),
    ← hstop, List.take_left]

/-- The line of a template that is replaced has a header in its place. -/
theorem Replaced.exists_headLine (h : Replaced t place line s) (title language : Text) :
    exists header, (headLine title (seen t) place line language).1 =
      frontOf (t.slice ⟨place, s.start⟩) ++ "=" ++ header ++ "="
        ++ backOf ((t.slice ⟨s.stop, place + line.length⟩).trimLeftBy (· == ' ')) := by
  rcases h.legacy with ⟨u, hfound, hlegacy⟩
  have hcurrent : currentNames.contains u.trimmedName = false := by
    rw [← Bool.not_eq_true]
    intro hcurrent
    rw [not_isLegacyName_of_mem_currentNames _ (List.contains_iff_mem.mp hcurrent)] at hlegacy
    cases hlegacy
  rw [headLine, hfound]
  dsimp only
  rw [hcurrent, hlegacy, if_neg Bool.false_ne_true, if_neg (by simp), h.take_eq, h.drop_eq]
  exact ⟨_, headerLine_eq _ _ _⟩

/-- A line with a header takes the place of the line of a template that is replaced.  What was visible in front of the
template is kept, unless markers alone stood there, and so is what was visible behind it; but if that is taken for a
comment, then all of it is lost. -/
theorem visible_around_header (h : Replaced t place line s) (title : Text) :
    (exists header, frontOf (t.slice ⟨place, s.start⟩) ++ "=" ++ header ++ "="
        ++ backOf ((t.slice ⟨s.stop, place + line.length⟩).trimLeftBy (· == ' ')) ∈
          headLines title (seen t) [] t.placedLines) ∧
      ((t.slice ⟨place, s.start⟩).all EtymologyLines.isMarker = false ->
        forall w, IsVisible t ⟨place, s.start⟩ w -> t.slice w <:+: insertHeaders title t) ∧
      (¬ IsMistaken t ⟨s.stop, place + line.length⟩ ->
        forall w, IsVisible t ⟨s.stop, place + line.length⟩ w ->
          (t.slice w).trimLeftBy (· == ' ') <:+: insertHeaders title t) ∧
      (IsMistaken t ⟨s.stop, place + line.length⟩ ->
        backOf ((t.slice ⟨s.stop, place + line.length⟩).trimLeftBy (· == ' ')) = []) := by
  rcases exists_headLine_of_mem title [] (seen t) h.mem_lines with ⟨language, hmem⟩
  rcases h.exists_headLine title language with ⟨header, heq⟩
  rw [heq] at hmem
  have hline := Text.infix_joinWith_of_mem "\n" hmem
  refine ⟨⟨header, hmem⟩, fun hmarkers w hw => ?_, fun hmistaken w hw => ?_, IsMistaken.backOf_eq_nil⟩
  · refine (hw.infix_frontOf hmarkers).trans (List.IsInfix.trans ?_ hline)
    rw [List.append_assoc, List.append_assoc, List.append_assoc]
    exact (List.prefix_append _ _).isInfix
  · exact (hw.infix_backOf hmistaken).trans (List.IsInfix.trans (List.suffix_append _ _).isInfix hline)

end Lines

/-- A template with something between two comments behind it. -/
def lineWithTwoComments : Text :=
  "\x7b\x7bES\x7d\x7d<!--a-->x<!--b-->"

theorem seen_lineWithTwoComments : seen lineWithTwoComments = [(⟨0, 6⟩, Template.ofName "ES")] := by
  cbv

theorem replaced_lineWithTwoComments : Replaced lineWithTwoComments 0 lineWithTwoComments ⟨0, 6⟩ := by
  refine ⟨by decide +kernel, Template.ofName "ES", ?_, by decide +kernel⟩
  rw [seen_lineWithTwoComments]
  decide +kernel

theorem visible_lineWithTwoComments : IsVisible lineWithTwoComments ⟨6, 23⟩ ⟨14, 15⟩ where
  le_start := by decide
  start_le := by decide
  stop_le := by decide
  uncommented := by
    intro n hstart hstop
    have hn : n = 14 := by
      dsimp only at hstart hstop
      omega
    rw [hn]
    decide +kernel
  not_blank := by decide +kernel

theorem visible_around_header_lineWithTwoComments :
    Replaced lineWithTwoComments 0 lineWithTwoComments ⟨0, 6⟩ ∧ IsMistaken lineWithTwoComments ⟨6, 23⟩ ∧
      (exists header, frontOf (lineWithTwoComments.slice ⟨0, 0⟩) ++ "=" ++ header ++ "="
        ++ backOf ((lineWithTwoComments.slice ⟨6, 23⟩).trimLeftBy (· == ' ')) ∈
          headLines "t" (seen lineWithTwoComments) [] lineWithTwoComments.placedLines) ∧
      backOf ((lineWithTwoComments.slice ⟨6, 23⟩).trimLeftBy (· == ' ')) = [] := by
  have hmistaken : IsMistaken lineWithTwoComments ⟨6, 23⟩ := ⟨by decide +kernel, _, visible_lineWithTwoComments⟩
  have haround := visible_around_header replaced_lineWithTwoComments "t"
  exact ⟨replaced_lineWithTwoComments, hmistaken, haround.1, haround.2.2.2 hmistaken⟩

/-- Not all that is visible behind a template that is replaced is kept. -/
theorem not_forall_infix_insertHeaders :
    ¬ forall (title t line : Text) (place : Nat) (s w : Span), Replaced t place line s ->
      IsVisible t ⟨s.stop, place + line.length⟩ w -> (t.slice w).trimLeftBy (· == ' ') <:+: insertHeaders title t := by
  intro h
  have hinfix := h "t" lineWithTwoComments lineWithTwoComments 0 ⟨0, 6⟩ ⟨14, 15⟩ replaced_lineWithTwoComments
    visible_lineWithTwoComments
  have hlost : insertHeaders "t" lineWithTwoComments = "=\x7b\x7blengua|es\x7d\x7d=" := by
    show Text.joinWith "\n" (headLines "t" (seen lineWithTwoComments) [] lineWithTwoComments.placedLines) = _
    rw [seen_lineWithTwoComments]
    decide +kernel
  rw [hlost] at hinfix
  exact absurd hinfix (by decide +kernel)

end LegacyLayout
end WikiEntry
