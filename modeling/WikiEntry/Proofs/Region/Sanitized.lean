import Mathlib.Data.List.Chain
import WikiEntry.Proofs.Region.Marked
import WikiEntry.Proofs.Region.Walk

/-!
# Sanitized texts

Sanitizing is three rewrites, and each of them finds the ignored regions of the text that the one before it left.  On marked
texts they are functions of the characters: tabs without a mark become spaces, and spaces without one are dropped in front
of another space, and then in front of a newline.  All that they do is to change spacing that has no marks, so that
the regions are the same throughout; and behind the last of them there is nothing left to be done.
-/

namespace WikiEntry
namespace Region

open Text (Spacing)

/-!
# The three rewrites
-/

def untab (m : List (Char × Bool)) : List (Char × Bool) :=
  m.map fun x => if x = ('\t', false) then (' ', false) else x

/-- Drops the spaces without a mark that stand directly in front of the character `ch`, which has none either. -/
def dropSpaces (ch : Char) : List (Char × Bool) -> List (Char × Bool)
  | [] => []
  | x :: m => if x = (' ', false) ∧ m.head? = some (ch, false) then dropSpaces ch m else x :: dropSpaces ch m

section Rewrites

variable {t u v w r : Text} {m m' : List (Char × Bool)} {x : Char × Bool} {ch : Char}

theorem spacing_cons (ch : Char) (hch : Chars.isSpacing ch = true) {b : Text}
    (hb : forall ch, ch ∈ b -> Chars.isSpacing ch = true) : Spacing (ch :: b) :=
  ⟨List.cons_ne_nil _ _, List.forall_mem_cons.mpr ⟨hch, hb⟩⟩

theorem reflTransGen_untab (m : List (Char × Bool)) : Relation.ReflTransGen Respaces m (untab m) := by
  induction m with
  | nil => exact .refl
  | cons x m ih =>
      have hlater := reflTransGen_cons x ih
      rw [untab, List.map_cons, ← untab]
      split
      · rename_i htab
        refine hlater.tail ⟨[], ['\t'], [' '], untab m, ?_, ?_, ?_, rfl⟩
        · exact spacing_cons '\t' (by decide) (List.forall_mem_nil _)
        · exact spacing_cons ' ' (by decide) (List.forall_mem_nil _)
        · rw [htab]
          rfl
      · exact hlater

/-- What spaces are dropped in front of stays where it is. -/
theorem head?_dropSpaces (h : m.head? = some (ch, false)) : (dropSpaces ch m).head? = some (ch, false) := by
  induction m with
  | nil => cases h
  | cons x m ih =>
      rw [dropSpaces]
      split
      · rename_i hdrop
        exact ih hdrop.2
      · exact h

theorem reflTransGen_dropSpaces (ch : Char) (hch : Chars.isSpacing ch = true) (m : List (Char × Bool)) :
    Relation.ReflTransGen Respaces m (dropSpaces ch m) := by
  induction m with
  | nil => exact .refl
  | cons x m ih =>
      have hlater := reflTransGen_cons x ih
      rw [dropSpaces]
      split
      · rename_i hdrop
        rcases List.head?_eq_some_iff.mp (head?_dropSpaces hdrop.2) with ⟨m', hm'⟩
        refine hlater.tail ⟨[], [' ', ch], [ch], m', ?_, ?_, ?_, hm'⟩
        · exact spacing_cons ' ' (by decide) (by simp [hch])
        · exact spacing_cons ch hch (List.forall_mem_nil _)
        · rw [hdrop.1, hm']
          rfl
      · exact hlater

/-!
# What the rewrites leave
-/

theorem not_mem_untab (m : List (Char × Bool)) : ('\t', false) ∉ untab m := by
  intro h
  rcases List.mem_map.mp h with ⟨x, _, hx⟩
  split at hx
  · cases hx
  · rename_i hne
    exact hne hx

theorem untab_eq_self (h : ('\t', false) ∉ m) : untab m = m := by
  refine (List.map_congr_left fun x hx => if_neg ?_).trans (List.map_id m)
  rintro rfl
  exact h hx

theorem sublist_dropSpaces (ch : Char) (m : List (Char × Bool)) : (dropSpaces ch m).Sublist m := by
  induction m with
  | nil => exact .slnil
  | cons x m ih =>
      rw [dropSpaces]
      split
      · exact ih.cons x
      · exact ih.cons_cons x

/-- No space without a mark stands directly in front of the character `ch` without one. -/
def NoSpaceBefore (ch : Char) (m : List (Char × Bool)) : Prop :=
  m.IsChain fun x y => x = (' ', false) -> y ≠ (ch, false)

theorem dropSpaces_eq_self (h : NoSpaceBefore ch m) : dropSpaces ch m = m := by
  induction m with
  | nil => rfl
  | cons x m ih =>
      rcases List.isChain_cons.mp h with ⟨hfirst, hrest⟩
      rw [dropSpaces, if_neg, ih hrest]
      rintro ⟨hx, hm⟩
      exact hfirst _ hm hx rfl

theorem head?_dropSpaces_cases (ch : Char) (m : List (Char × Bool)) :
    (dropSpaces ch m).head? = m.head? ∨ m.head? = some (' ', false) ∧ (dropSpaces ch m).head? = some (ch, false) := by
  cases m with
  | nil => exact Or.inl rfl
  | cons x m =>
      rw [dropSpaces]
      split
      · rename_i hdrop
        exact Or.inr ⟨congrArg some hdrop.1, head?_dropSpaces hdrop.2⟩
      · exact Or.inl rfl

theorem noSpaceBefore_dropSpaces_space (m : List (Char × Bool)) : NoSpaceBefore ' ' (dropSpaces ' ' m) := by
  induction m with
  | nil => exact List.isChain_nil
  | cons x m ih =>
      rw [dropSpaces]
      split
      · exact ih
      · rename_i hkept
        refine List.isChain_cons.mpr ⟨fun y hy hx hspace => hkept ⟨hx, ?_⟩, ih⟩
        rcases head?_dropSpaces_cases ' ' m with hhead | ⟨hhead, _⟩
        · rw [← hhead, hy, hspace]
        · exact hhead

/-- Where no spaces stand in front of each other, the one in front of a newline has nothing in front that becomes one. -/
theorem noSpaceBefore_dropSpaces_newline (h : NoSpaceBefore ' ' m) :
    NoSpaceBefore ' ' (dropSpaces '\n' m) ∧ NoSpaceBefore '\n' (dropSpaces '\n' m) := by
  induction m with
  | nil => exact ⟨List.isChain_nil, List.isChain_nil⟩
  | cons x m ih =>
      rcases List.isChain_cons.mp h with ⟨hfirst, hrest⟩
      rcases ih hrest with ⟨hspace, hnewline⟩
      rw [dropSpaces]
      split
      · exact ⟨hspace, hnewline⟩
      · rename_i hkept
        have hhead : x = (' ', false) -> (dropSpaces '\n' m).head? = m.head? := by
          intro hx
          rcases head?_dropSpaces_cases '\n' m with hhead | ⟨hhead, _⟩
          · exact hhead
          · exact absurd rfl (hfirst _ hhead hx)
        refine ⟨List.isChain_cons.mpr ⟨fun y hy hx => ?_, hspace⟩, List.isChain_cons.mpr ⟨fun y hy hx heq => ?_, hnewline⟩⟩
        · rw [hhead hx] at hy
          exact hfirst y hy hx
        · rw [hhead hx, heq] at hy
          exact hkept ⟨hx, hy⟩

/-!
# Replacing is rewriting
-/

theorem markFrom_cons (regions : List Span) (u : Text) (ch : Char) (r : Text) :
    markFrom regions u.length (ch :: r) = (ch, covers regions u.length) :: markFrom regions (u ++ [ch]).length r := by
  rw [List.length_append]
  rfl

theorem head?_markFrom (regions : List Span) (place : Nat) (r : Text) :
    (markFrom regions place r).head? = r.head?.map (·, covers regions place) := by
  cases r <;> rfl

/-- What a fixed text reads is that text. -/
theorem eq_of_lengthRead {l : Text} (hw : w ≠ []) (hlen : (if l.isPrefixOf (w ++ r) then l.length else 0) = w.length) :
    w = l := by
  split at hlen
  · rename_i hstands
    rcases List.isPrefixOf_iff_prefix.mp hstands with ⟨rest, hrest⟩
    exact (List.append_inj hrest hlen).1.symm
  · exact absurd (List.length_eq_zero_iff.mp hlen.symm) hw

theorem replaceOutside_tab (t : Text) : replaceOutside t "\t" " " = unmark (untab (marked t)) := by
  refine replaceOutside_eq_of_walks (f := fun u r => unmark (untab (markFrom (ignored t) u.length r)))
    (Pattern.readsAhead_lit (l := ['\t']) (List.cons_ne_nil _ _)) ⟨rfl, ?_, ?_⟩
  · intro u c r _ hlen
    have hc : c ≠ '\t' := by
      rintro rfl
      cases hlen
    rw [markFrom_cons, untab, List.map_cons, if_neg fun h => hc (Prod.mk.inj h).1]
    rfl
  · intro u w r _ hw hlen
    rw [eq_of_lengthRead hw hlen, List.singleton_append, markFrom_cons, untab, List.map_cons]
    cases covers (ignored t) u.length <;> rfl

/-- A character that no space is dropped in front of, or that is no space, is kept. -/
theorem unmark_dropSpaces_skip {regions : List Span} {c : Char} (h : c = ' ' -> r.head? ≠ some ch) :
    unmark (dropSpaces ch (markFrom regions u.length (c :: r))) =
      c :: unmark (dropSpaces ch (markFrom regions (u ++ [c]).length r)) := by
  rw [markFrom_cons, dropSpaces, if_neg]
  · rfl
  · rintro ⟨hx, hhead⟩
    rw [head?_markFrom] at hhead
    rcases Option.map_eq_some_iff.mp hhead with ⟨d, hd, heq⟩
    rw [(Prod.mk.inj heq).1] at hd
    exact h (Prod.mk.inj hx).1 hd

theorem dropSpaces_covered (ch : Char) (w : Text) (m : List (Char × Bool)) :
    dropSpaces ch (w.map (·, true) ++ m) = w.map (·, true) ++ dropSpaces ch m := by
  induction w with
  | nil => rfl
  | cons c w ih =>
      rw [List.map_cons, List.cons_append, dropSpaces, if_neg, ih]
      · rfl
      · rintro ⟨h, _⟩
        cases h

/-- Of spaces in a row the last one is kept. -/
theorem dropSpaces_spaces (hw : w ≠ []) (hspaces : forall ch, ch ∈ w -> ch = ' ') (hm : m.head? ≠ some (' ', false)) :
    dropSpaces ' ' (w.map (·, false) ++ m) = (' ', false) :: dropSpaces ' ' m := by
  induction w with
  | nil => exact absurd rfl hw
  | cons c w ih =>
      rcases List.forall_mem_cons.mp hspaces with ⟨rfl, hlater⟩
      rw [List.map_cons, List.cons_append, dropSpaces]
      cases w with
      | nil => exact if_neg fun h => hm h.2
      | cons d w =>
          rw [if_pos ⟨rfl, by rw [hlater d List.mem_cons_self]; rfl⟩]
          exact ih (List.cons_ne_nil _ _) hlater

/-- The marks of spacing that is read, and of what follows. -/
theorem markFrom_append_spacing (heq : t = u ++ (w ++ r)) (hw : forall ch, ch ∈ w -> Chars.isSpacing ch = true) :
    markFrom (ignored t) u.length (w ++ r) =
      w.map (·, covers (ignored t) u.length) ++ markFrom (ignored t) (u ++ w).length r := by
  rw [markFrom_append, markFrom_spacing heq hw, List.length_append]

theorem replaceOutside_lineEnd (t : Text) : replaceOutside t " \n" "\n" = unmark (dropSpaces '\n' (marked t)) := by
  refine replaceOutside_eq_of_walks (f := fun u r => unmark (dropSpaces '\n' (markFrom (ignored t) u.length r)))
    (Pattern.readsAhead_lit (l := [' ', '\n']) (List.cons_ne_nil _ _)) ⟨rfl, ?_, ?_⟩
  · intro u c r _ hlen
    refine unmark_dropSpaces_skip ?_
    rintro rfl hr
    rcases List.head?_eq_some_iff.mp hr with ⟨r, rfl⟩
    cases hlen
  · intro u w r heq hw hlen
    rw [eq_of_lengthRead hw hlen] at heq ⊢
    rw [markFrom_append_spacing heq (by simp [Chars.isSpacing])]
    cases hcovers : covers (ignored t) u.length with
    | true => rw [dropSpaces_covered, unmark_append]; rfl
    | false => rfl

theorem replaceOutside_spaces (t : Text) :
    replaceOutside t (.run true 2 none (.char ' ')) " " = unmark (dropSpaces ' ' (marked t)) := by
  refine replaceOutside_eq_of_walks (f := fun u r => unmark (dropSpaces ' ' (markFrom (ignored t) u.length r)))
    (Pattern.readsAhead_run (by decide)) ⟨rfl, ?_, ?_⟩
  · intro u c r _ hlen
    refine unmark_dropSpaces_skip ?_
    rintro rfl hr
    rcases List.head?_eq_some_iff.mp hr with ⟨r, rfl⟩
    simp [Pattern.runLength, CharSet.holds] at hlen
  · intro u w r heq hw hlen
    have hrun : Pattern.runLength (.char ' ') (w ++ r) = w.length := by
      split at hlen
      · exact hlen
      · exact absurd (List.length_eq_zero_iff.mp hlen.symm) hw
    rcases Pattern.of_runLength_append hrun with ⟨hholds, hbehind⟩
    have hspaces : forall ch, ch ∈ w -> ch = ' ' := fun ch hch => (beq_iff_eq.mp (hholds ch hch)).symm
    rw [markFrom_append_spacing heq fun ch hch => by rw [hspaces ch hch]; decide]
    cases hcovers : covers (ignored t) u.length with
    | true =>
        rw [dropSpaces_covered, unmark_append, unmark_map]
        rfl
    | false =>
        rw [dropSpaces_spaces hw hspaces]
        · rfl
        · rw [head?_markFrom]
          intro hhead
          rcases Option.map_eq_some_iff.mp hhead with ⟨d, hd, heq⟩
          have hnot := hbehind d hd
          rw [(Prod.mk.inj heq).1] at hnot
          cases hnot

/-- Sanitizing is the three rewrites of the marked text, one after the other. -/
theorem marked_sanitizeBlanks (t : Text) :
    marked (sanitizeBlanks t) = dropSpaces '\n' (dropSpaces ' ' (untab (marked t))) ∧ HoldSame t (sanitizeBlanks t) := by
  have htabs := faithful_of_reflTransGen (reflTransGen_untab (marked t)) (faithful_marked t)
  have hspaces := faithful_of_reflTransGen (reflTransGen_dropSpaces ' ' (by decide) _) htabs.1
  have hends := faithful_of_reflTransGen (reflTransGen_dropSpaces '\n' (by decide) _) hspaces.1
  have hout : sanitizeBlanks t = unmark (dropSpaces '\n' (dropSpaces ' ' (untab (marked t)))) := by
    rw [sanitizeBlanks, replaceOutside_tab, replaceOutside_spaces, replaceOutside_lineEnd, htabs.1, hspaces.1]
  rw [hout]
  refine ⟨hends.1, ?_⟩
  have hsame := hends.2.trans (hspaces.2.trans htabs.2)
  rwa [unmark_marked] at hsame

theorem reflTransGen_sanitizeBlanks (t : Text) :
    Relation.ReflTransGen Respaces (marked t) (marked (sanitizeBlanks t)) := by
  rw [(marked_sanitizeBlanks t).1]
  exact ((reflTransGen_untab _).trans (reflTransGen_dropSpaces ' ' (by decide) _)).trans
    (reflTransGen_dropSpaces '\n' (by decide) _)

end Rewrites

/-!
# Sanitizing
-/

/-- Outside the regions, a text with these marks has no tab, and no space in front of a space or a newline. -/
structure Sanitized (m : List (Char × Bool)) : Prop where
  noTab : ('\t', false) ∉ m
  noSpaceBeforeSpace : NoSpaceBefore ' ' m
  noSpaceBeforeNewline : NoSpaceBefore '\n' m

section Sanitized

variable {t : Text} {m : List (Char × Bool)} {i : Nat} {x y ch : Char}

theorem sanitized_marked (t : Text) : Sanitized (marked (sanitizeBlanks t)) := by
  have hends := noSpaceBefore_dropSpaces_newline (noSpaceBefore_dropSpaces_space (untab (marked t)))
  rw [(marked_sanitizeBlanks t).1]
  refine ⟨fun htab => not_mem_untab (marked t) ?_, hends.1, hends.2⟩
  exact ((sublist_dropSpaces _ _).trans (sublist_dropSpaces _ _)).subset htab

theorem Sanitized.rewrites_eq_self (h : Sanitized m) : dropSpaces '\n' (dropSpaces ' ' (untab m)) = m := by
  rw [untab_eq_self h.noTab, dropSpaces_eq_self h.noSpaceBeforeSpace, dropSpaces_eq_self h.noSpaceBeforeNewline]

theorem NoSpaceBefore.getElem?_ne (h : NoSpaceBefore ch m) (hi : m[i]? = some (' ', false)) :
    m[i + 1]? ≠ some (ch, false) := by
  intro hnext
  rcases List.getElem?_eq_some_iff.mp hi with ⟨_, hspace⟩
  rcases List.getElem?_eq_some_iff.mp hnext with ⟨hlt, heq⟩
  exact List.isChain_iff_getElem.mp h i hlt hspace heq

theorem getElem?_markFrom (regions : List Span) (place i : Nat) (t : Text) :
    (markFrom regions place t)[i]? = t[i]?.map (·, covers regions (place + i)) := by
  induction t generalizing place i with
  | nil => rfl
  | cons c r ih =>
      cases i with
      | zero => rfl
      | succ i =>
          rw [markFrom, List.getElem?_cons_succ, List.getElem?_cons_succ, ih, Nat.add_right_comm, Nat.add_assoc]

theorem getElem?_marked (hi : t[i]? = some x) : (marked t)[i]? = some (x, covers (ignored t) i) := by
  rw [marked, getElem?_markFrom, hi, Nat.zero_add]
  rfl

theorem covers_succ_of_getElem? (hx : t[i]? = some x) (hy : t[i + 1]? = some y) (hxs : Chars.isSpacing x = true)
    (hys : Chars.isSpacing y = true) : covers (ignored t) (i + 1) = covers (ignored t) i := by
  rcases List.getElem?_eq_some_iff.mp hx with ⟨hi, rfl⟩
  rcases List.getElem?_eq_some_iff.mp hy with ⟨hnext, rfl⟩
  have heq : t = t.take i ++ t[i] :: t[i + 1] :: t.drop (i + 2) := by
    rw [← List.drop_eq_getElem_cons hnext, ← List.drop_eq_getElem_cons hi, List.take_append_drop]
  have hlength : (t.take i).length = i := List.length_take_of_le hi.le
  have hcovers := covers_succ_of_isSpacing heq hxs hys
  rwa [hlength] at hcovers

/-- No space outside the regions stands in front of spacing that is dropped for. -/
theorem NoSpaceBefore.getElem?_ne_of_covers (h : NoSpaceBefore ch (marked t)) (hch : Chars.isSpacing ch = true)
    (hcovers : covers (ignored t) i = false) (hi : t[i]? = some ' ') : t[i + 1]? ≠ some ch := by
  intro hnext
  have hspace := getElem?_marked hi
  have hbehind := getElem?_marked hnext
  rw [covers_succ_of_getElem? hi hnext (by decide) hch, hcovers] at hbehind
  rw [hcovers] at hspace
  exact h.getElem?_ne hspace hbehind

/-- In a sanitized text, no place outside the ignored regions has a tab, or a space in front of a space or a newline; the
ignored regions hold what they held; and sanitizing it again changes nothing. -/
theorem sanitizeBlanks_leaves_single_spaces (t : Text) :
    (forall i, covers (ignored (sanitizeBlanks t)) i = false ->
      (sanitizeBlanks t)[i]? ≠ some '\t' ∧
        ((sanitizeBlanks t)[i]? = some ' ' ->
          (sanitizeBlanks t)[i + 1]? ≠ some ' ' ∧ (sanitizeBlanks t)[i + 1]? ≠ some '\n')) ∧
      (ignored (sanitizeBlanks t)).map (Text.slice (sanitizeBlanks t)) = (ignored t).map (Text.slice t) ∧
      sanitizeBlanks (sanitizeBlanks t) = sanitizeBlanks t := by
  have hsanitized := sanitized_marked t
  refine ⟨fun i hcovers => ⟨fun htab => hsanitized.noTab ?_, fun hspace => ⟨?_, ?_⟩⟩, (marked_sanitizeBlanks t).2, ?_⟩
  · have hmark := getElem?_marked htab
    rw [hcovers] at hmark
    exact List.mem_of_getElem? hmark
  · exact hsanitized.noSpaceBeforeSpace.getElem?_ne_of_covers (by decide) hcovers hspace
  · exact hsanitized.noSpaceBeforeNewline.getElem?_ne_of_covers (by decide) hcovers hspace
  · have hagain := (marked_sanitizeBlanks (sanitizeBlanks t)).1
    rw [hsanitized.rewrites_eq_self] at hagain
    rw [← unmark_marked (sanitizeBlanks (sanitizeBlanks t)), hagain, unmark_marked]

end Sanitized

end Region
end WikiEntry
