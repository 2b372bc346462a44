import Mathlib.Data.List.TakeDrop
import Mathlib.Data.List.TakeWhile
import WikiEntry.Proofs.Pattern.Matched
import WikiEntry.Proofs.Template.Closing

/-!
# Templates are printed as they were read

Reading a template cuts its body at bars and equals signs, and printing puts just these back.  Every character of the
body is in one of the pieces, wherever brackets are left open or regions are never closed, so that the body of the
template that is printed is the body that was read.
-/

namespace WikiEntry
namespace Template

/-!
# Marks
-/

theorem unmark_append (front back : List (Char × Bool)) : unmark (front ++ back) = unmark front ++ unmark back :=
  List.map_append

/-- Marking loses no character, whatever is open or hidden. -/
theorem unmark_markFrom (hidden : List Span) (place depth skip : Nat) (body : Text) :
    unmark (markFrom hidden place depth skip body) = body := by
  induction body generalizing place depth skip with
  | nil => rfl
  | cons ch r ih =>
      have hcons : forall (top : Bool) (place depth skip : Nat),
          unmark ((ch, top) :: markFrom hidden place depth skip r) = ch :: r :=
        fun _ place depth skip => congrArg (ch :: ·) (ih place depth skip)
      cases skip with
      | succ skip => exact hcons false (place + 1) depth skip
      | zero =>
          rw [markFrom]
          split
          · exact hcons false (place + 1) depth 0
          · split
            · exact hcons false (place + 1) (depth + 1) 1
            · split
              · exact hcons false (place + 1) (depth - 1) 1
              · exact hcons (depth == 0) (place + 1) depth 0

/-!
# Pieces
-/

theorem splitBars_eq_splitOn (marked : List (Char × Bool)) : splitBars marked = marked.splitOn ('|', true) := by
  induction marked with
  | nil => rfl
  | cons m r ih =>
      rw [splitBars, ih, List.splitOn_eq_splitOnP, List.splitOn_eq_splitOnP, List.splitOnP_cons_eq_if_modifyHead]
      cases hr : List.splitOnP (· == ('|', true)) r with
      | nil => exact absurd hr (List.splitOnP_ne_nil _ r)
      | cons piece pieces =>
          dsimp only [List.modifyHead]
          simp only [beq_iff_eq]

theorem intercalate_cons_eq_flatMap {α : Type} (sep : α) (first : List α) (pieces : List (List α)) :
    [sep].intercalate (first :: pieces) = first ++ pieces.flatMap (sep :: ·) := by
  induction pieces generalizing first with
  | nil => simp
  | cons piece pieces ih =>
      rw [List.intercalate_cons_cons, ih, List.flatMap_cons]
      simp

theorem exists_splitBars (marked : List (Char × Bool)) :
    exists name pieces, splitBars marked = name :: pieces ∧ marked = name ++ pieces.flatMap (('|', true) :: ·) := by
  rw [splitBars_eq_splitOn]
  cases hpieces : marked.splitOn ('|', true) with
  | nil => exact absurd hpieces (List.splitOn_ne_nil _ marked)
  | cons name pieces =>
      refine ⟨name, pieces, rfl, ?_⟩
      rw [← intercalate_cons_eq_flatMap, ← hpieces, List.intercalate_splitOn]

/-!
# Parameters
-/

theorem paramsOf_named {key value : List (Char × Bool)} (hkey : ('=', true) ∉ key) (index : Nat)
    (pieces : List (List (Char × Bool))) :
    paramsOf index ((key ++ ('=', true) :: value) :: pieces) =
      .named (unmark key) (unmark value) :: paramsOf index pieces := by
  have hall : forall m, m ∈ key -> decide (m ≠ ('=', true)) = true := by
    intro m hm
    apply decide_eq_true
    rintro rfl
    exact hkey hm
  have hspan : (key ++ ('=', true) :: value).span (· ≠ ('=', true)) = (key, ('=', true) :: value) := by
    rw [List.span_eq_takeWhile_dropWhile, List.takeWhile_append_of_pos hall, List.dropWhile_append_of_pos hall]
    simp
  rw [paramsOf, hspan]

theorem paramsOf_positional {value : List (Char × Bool)} (hvalue : ('=', true) ∉ value) (index : Nat)
    (pieces : List (List (Char × Bool))) :
    paramsOf index (value :: pieces) = .positional index (unmark value) :: paramsOf (index + 1) pieces := by
  have hall : forall m, m ∈ value -> decide (m ≠ ('=', true)) = true := by
    intro m hm
    apply decide_eq_true
    rintro rfl
    exact hvalue hm
  have hspan : value.span (· ≠ ('=', true)) = (value, []) := by
    rw [List.span_eq_takeWhile_dropWhile, List.takeWhile_eq_self_iff.mpr hall, List.dropWhile_eq_nil_iff.mpr hall]
  rw [paramsOf, hspan]

/-- A piece is printed with a bar in front, whether it holds a key or not. -/
theorem flatMap_render_paramsOf (index : Nat) (pieces : List (List (Char × Bool))) :
    (paramsOf index pieces).flatMap Param.render = pieces.flatMap fun piece => '|' :: unmark piece := by
  induction pieces generalizing index with
  | nil => rfl
  | cons piece pieces ih =>
      by_cases hkey : ('=', true) ∈ piece
      · rcases List.eq_append_cons_of_mem hkey with ⟨key, value, rfl, hfirst⟩
        rw [paramsOf_named hfirst, List.flatMap_cons, List.flatMap_cons, ih, unmark_append]
        rfl
      · rw [paramsOf_positional hkey, List.flatMap_cons, List.flatMap_cons, ih]
        rfl

/-!
# Bodies
-/

/-- A body between the braces of a template. -/
def inBraces (body : Text) : Text :=
  '\x7b' :: '\x7b' :: (body ++ ['\x7d', '\x7d'])

theorem render_eq_inBraces (u : Template) : u.render = inBraces (u.name ++ u.params.flatMap Param.render) := by
  rw [render, List.append_assoc _ u.name]
  rfl

theorem render_ofBody (body : Text) : (ofBody body).render = inBraces body := by
  rcases exists_splitBars (mark body) with ⟨name, pieces, hsplit, hmark⟩
  have hbody : body = unmark name ++ pieces.flatMap fun piece => '|' :: unmark piece := by
    calc body
        = unmark (mark body) := (unmark_markFrom _ 0 0 0 body).symm
      _ = unmark name ++ unmark (pieces.flatMap (('|', true) :: ·)) := by
          rw [hmark, unmark_append]
      _ = unmark name ++ pieces.flatMap fun piece => '|' :: unmark piece :=
          congrArg (unmark name ++ ·) List.map_flatMap
  rw [ofBody, hsplit, render_eq_inBraces, flatMap_render_paramsOf, ← hbody]

theorem length_inBraces (body : Text) : (inBraces body).length = body.length + 2 + 2 := by
  simp [inBraces]

theorem slice_inBraces (body : Text) : (inBraces body).slice ⟨2, (inBraces body).length - 2⟩ = body := by
  rw [length_inBraces, Nat.add_sub_cancel, Nat.add_comm]
  exact Text.slice_of_eq_append (u := ['\x7b', '\x7b']) rfl rfl

/-!
# Reading
-/

theorem head?_templates (r : Text) :
    (Region.templates ('\x7b' :: '\x7b' :: r)).head? = (toClosing? 1 r).map fun n => ⟨0, n + 2⟩ := by
  rw [templates_eq, regionsFrom_opening, if_pos rfl, regionsFrom_inside le_rfl]
  cases toClosing? 1 r with
  | none => rfl
  | some n => simp [Nat.add_comm 2 n]

/-- A text is a template if its first opening is closed at its very end. -/
theorem parse?_eq_some_iff {t : Text} {u : Template} :
    parse? t = some u <-> exists body : Text, t = inBraces body ∧
      toClosing? 1 (body ++ ['\x7d', '\x7d']) = some (body.length + 2) ∧ u = ofBody body := by
  constructor
  · intro h
    rw [parse?] at h
    split at h
    · rename_i hbraces
      simp only [Bool.and_eq_true, beq_iff_eq] at hbraces
      rcases hbraces with ⟨⟨hopening, _⟩, hregion⟩
      rcases List.isPrefixOf_iff_prefix.mp hopening with ⟨r, rfl⟩
      have hhead : (toClosing? 1 r).map (fun n => (⟨0, n + 2⟩ : Span)) = some ⟨0, r.length + 2⟩ :=
        (head?_templates r).symm.trans hregion
      rcases Option.map_eq_some_iff.mp hhead with ⟨n, hn, hsize⟩
      have hlength : n = r.length := Nat.add_right_cancel (Span.mk.inj hsize).2
      rw [hlength] at hn
      rcases exists_take_of_toClosing? hn with ⟨body, heq⟩
      rw [List.take_length] at heq
      subst heq
      refine ⟨body, rfl, ?_, ?_⟩
      · rw [hn, List.length_append]
        rfl
      · rw [← Option.some.inj h]
        exact congrArg ofBody (slice_inBraces body)
    · cases h
  · rintro ⟨body, rfl, hclosing, rfl⟩
    have hregion : (Region.templates (inBraces body)).head? = some ⟨0, (inBraces body).length⟩ := by
      rw [inBraces, head?_templates, hclosing, ← inBraces, length_inBraces]
      rfl
    have hopening : (inBraces body).startsWith "\x7b\x7b" = true :=
      List.isPrefixOf_iff_prefix.mpr (List.prefix_append ['\x7b', '\x7b'] _)
    have hend : (inBraces body).endsWith "\x7d\x7d" = true :=
      List.isSuffixOf_iff_suffix.mpr (List.suffix_append ('\x7b' :: '\x7b' :: body) _)
    rw [parse?, hopening, hend, hregion, slice_inBraces]
    simp

/-- Whatever text is read as a template, printing the template gives that text. -/
theorem render_of_parse? {t : Text} {u : Template} (h : parse? t = some u) : u.render = t := by
  rcases parse?_eq_some_iff.mp h with ⟨body, rfl, _, rfl⟩
  exact render_ofBody body

/-- Bars and equals signs in a link, a second equals sign, an empty value and a comment that is never closed. -/
theorem render_of_parse?_unclosed_comment :
    exists u : Template,
      parse? "\x7b\x7ba|[[b|c]]|d=e=f||<!-- | \x7d\x7d" = some u ∧
        u.render = "\x7b\x7ba|[[b|c]]|d=e=f||<!-- | \x7d\x7d" := by
  have hparse : parse? "\x7b\x7ba|[[b|c]]|d=e=f||<!-- | \x7d\x7d" =
      some ⟨"a", [.positional 1 "[[b|c]]", .named "d" "e=f", .positional 2 "", .positional 3 "<!-- | "]⟩ := by
    decide +kernel
  exact ⟨_, hparse, render_of_parse? hparse⟩

end Template
end WikiEntry
