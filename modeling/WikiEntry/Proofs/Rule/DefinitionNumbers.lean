import Mathlib.Data.List.Flatten
import Mathlib.Data.List.Nodup
import WikiEntry.Proofs.Page.Reachable
import WikiEntry.Proofs.Region.Revision
import WikiEntry.Proofs.Rule.Outcome
import WikiEntry.Rule.Definitions

/-!
# Numbers of definitions

The definitions of a text are numbered in one walk through its matches.  A definition whose number is right already is left
alone, and any other one gets a new number in the place of the old one and of the spaces in front of it, while the count
goes on either way.  From section to section the count is handed on, so that the definitions of the sections below one root
are numbered from 1 without a gap.  Two roots have no such section in common, so that none is numbered twice.
-/

namespace WikiEntry
namespace Definitions

open Pattern

/-!
# The number of a definition
-/

/-- The definitions of a text: the matches that begin outside of the ignored regions. -/
def definitions (t : Text) : List Match :=
  Region.matchesOutside Marks.definition (Region.ignored t) Match.start t

/-- The number of a definition stands directly behind its semicolon, as spaces and then digits. -/
structure NumberAt (t : Text) (m : Match) (s : Span) : Prop where
  group_eq : m.group? 1 = some s
  semicolon : t[m.start]? = some ';'
  start_eq : s.start = m.start + 1
  stop_le : s.stop ≤ m.stop
  digits : exists spaces digits, t.slice s = spaces ++ digits ∧ (forall ch, ch ∈ spaces -> ch = ' ') ∧ digits ≠ [] ∧
    forall ch, ch ∈ digits -> Chars.isDigit ch = true

theorem exists_numberAt {t : Text} {m : Match} {w : Text} {s : ReadState} (h : Matched Marks.definition t m w s) :
    exists span, NumberAt t m span := by
  rcases h.reads.seq_inv with ⟨_, _, s₆, hw₆, hreads, hend⟩
  rcases hend.anchor_inv with ⟨rfl, rfl, _⟩
  rcases hreads.seq_inv with ⟨_, w₅, s₅, rfl, hreads, htext⟩
  rcases hreads.seq_inv with ⟨_, w₄, s₄, rfl, hreads, hcolons⟩
  rcases hreads.seq_inv with ⟨_, w₃, s₃, rfl, hreads, hlabel⟩
  rcases hreads.seq_inv with ⟨_, w₂, s₂, rfl, hreads, hnumber⟩
  rcases hreads.seq_inv with ⟨_, w₁, s₁, rfl, hstart, hsemicolon⟩
  rcases hstart.anchor_inv with ⟨rfl, rfl, _⟩
  rcases Reads.lit_inv (l := ";") hsemicolon with ⟨rfl, _⟩
  have hplace : s₂.place = m.start + 1 := hsemicolon.advances.2
  rcases hnumber.group_inv with ⟨_, hdigits, _⟩
  rcases hdigits.seq_inv with ⟨spaces, digits, _, rfl, hspaces, hdigits⟩
  have hspaces := hspaces.run_inv.1
  rcases hdigits.run_inv with ⟨hdigits, hsome, _⟩
  have hgroup : m.groups.lookup 1 = some ⟨s₂.place, s₂.place + (spaces ++ digits).length⟩ := by
    rw [h.groups_eq, htext.group_groupless rfl, hcolons.group_groupless rfl]
    have hbelow := hnumber.group_groupless rfl
    rcases hlabel.opt_inv with ⟨_, rfl⟩ | hlabel
    · rw [hbelow]
      rfl
    · rw [hlabel.group_groupless rfl, hbelow]
      rfl
  have hword : t.drop m.start = ';' :: ((spaces ++ digits) ++ (w₃ ++ (w₄ ++ (w₅ ++ s.cursor.rest)))) := by
    rw [h.rest_eq, hw₆]
    simp only [List.append_assoc, List.append_nil, List.nil_append]
    rfl
  refine ⟨⟨s₂.place, s₂.place + (spaces ++ digits).length⟩, hgroup, ?_, hplace, ?_, spaces, digits, ?_, ?_, ?_, hdigits⟩
  · rw [← List.head?_drop, hword, List.head?_cons]
  · show s₂.place + (spaces ++ digits).length ≤ m.stop
    rw [h.stop_eq, hw₆, hplace]
    simp only [List.length_append]
    have : List.length (";" : Text) = 1 := rfl
    omega
  · apply Text.slice_of_eq_append (u := t.take m.start ++ [';']) (v := w₃ ++ (w₄ ++ (w₅ ++ s.cursor.rest)))
    · conv_lhs => rw [← List.take_append_drop m.start t, hword]
      simp only [List.append_assoc, List.cons_append, List.nil_append]
    · rw [hplace, List.length_append, List.length_take, Nat.min_eq_left h.start_le]
      rfl
  · exact fun ch hch => (beq_iff_eq.mp (hspaces ch hch)).symm
  · exact List.ne_nil_of_length_pos hsome

theorem NumberAt.start_lt_stop {t : Text} {m : Match} {s : Span} (h : NumberAt t m s) : s.start < s.stop := by
  rcases h.digits with ⟨spaces, digits, hslice, _, hsome, _⟩
  have hsize : (t.slice s).length ≤ s.size := List.length_take_le _ _
  have hpositive := List.length_pos_of_ne_nil hsome
  rw [hslice, List.length_append, Span.size] at hsize
  omega

theorem NumberAt.start_le {t : Text} {m : Match} {s : Span} (h : NumberAt t m s) : m.start ≤ s.start := by
  rw [h.start_eq]
  exact Nat.le_succ _

/-- A definition with another number, and what stands in front of it. -/
theorem NumberAt.slice_append {t : Text} {m : Match} {s : Span} (h : NumberAt t m s) {place : Nat}
    (hplace : place ≤ m.start) (label : Text) :
    t.slice ⟨place, m.start⟩ ++ (t.slice ⟨m.start, s.start⟩ ++ label ++ t.slice ⟨s.stop, m.stop⟩) =
      t.slice ⟨place, s.start⟩ ++ label ++ t.slice ⟨s.stop, m.stop⟩ := by
  rw [← Edit.slice_append_slice t hplace h.start_le]
  simp only [List.append_assoc]

theorem NumberAt.slice_stop_eq {t : Text} {m : Match} {s : Span} (h : NumberAt t m s) {place : Nat}
    (hplace : place ≤ m.start) :
    t.slice ⟨place, m.stop⟩ = t.slice ⟨place, s.start⟩ ++ t.slice s ++ t.slice ⟨s.stop, m.stop⟩ := by
  have hstart := Nat.le_trans hplace h.start_le
  have hstop := Nat.le_of_lt h.start_lt_stop
  rw [Edit.slice_append_slice t hstart hstop, Edit.slice_append_slice t (Nat.le_trans hstart hstop) h.stop_le]

/-!
# Numbering a text
-/

/-- What stands for the number `n`: its decimal notation, or the old text where that reads as `n`. -/
def Denotes (old label : Text) (n : Nat) : Prop :=
  label = Text.ofNumber n ∨ (label = old ∧ Text.readNumber? old.trim = some n)

/-- `out` is `t` from `place` on, with `n`, `n + 1` and so on in the place of the numbers of the matches, and all else
copied. -/
inductive Renumbered (t : Text) : (place n : Nat) -> List Match -> (out : Text) -> Prop where
  | rest (place n : Nat) : Renumbered t place n [] (t.drop place)
  | definition {place n : Nat} {m : Match} {s : Span} {ms : List Match} {label out : Text} (hplace : place ≤ m.start)
      (hstop : m.stop ≤ t.length) (hnumber : NumberAt t m s) (hlabel : Denotes (t.slice s) label n)
      (hlater : Renumbered t m.stop (n + 1) ms out) :
      Renumbered t place n (m :: ms) (t.slice ⟨place, s.start⟩ ++ label ++ t.slice ⟨s.stop, m.stop⟩ ++ out)

/-- How a definition with the next number is answered. -/
def relabel (t : Text) (n : Nat) (m : Match) : Option Text × Nat :=
  ((m.group? 1).bind fun digits =>
    if Text.readNumber? (t.slice digits).trim = some n then none
    else some (t.slice ⟨m.start, digits.start⟩ ++ Text.ofNumber n ++ t.slice ⟨digits.stop, m.stop⟩), n + 1)

theorem numberFrom_eq (t : Text) (n : Nat) :
    numberFrom t n = Region.reviseWith t Marks.definition (Region.ignored t) Match.start (relabel t) n :=
  rfl

/-- Each call counts on, and what it answers puts the number into the place of the old one. -/
theorem renumbered_of_calls {t out : Text} {place n last : Nat} {calls : List (Match × Option Text)}
    (hcalls : Region.Calls (relabel t) n calls last) (horder : Marks.definition.InOrder t place (calls.map Prod.fst))
    (hcopied : Edit.Copied t place (Region.answered calls) out) :
    Renumbered t place n (calls.map Prod.fst) out ∧ last = n + calls.length := by
  induction hcalls generalizing place out with
  | none n =>
      cases hcopied
      exact ⟨.rest place n, rfl⟩
  | @call n next last m answer calls hanswer hlater ih =>
      rcases horder.matched m List.mem_cons_self with ⟨w, state, hm⟩
      rcases exists_numberAt hm with ⟨s, hs⟩
      have hplace : place ≤ m.start := horder.later m List.mem_cons_self
      rw [relabel, hs.group_eq, Option.bind_some] at hanswer
      rcases Prod.mk.inj hanswer with ⟨hanswer, rfl⟩
      have hcount : n + (calls.length + 1) = n + 1 + calls.length := by omega
      split at hanswer
      · -- The number is right, and what follows is copied from `place` on.
        rename_i hread
        cases hanswer
        have hwhole : m.start ≤ m.stop := by
          have := hs.start_le
          have := hs.start_lt_stop
          have := hs.stop_le
          omega
        have hbehind : forall e, e ∈ Region.answered calls -> m.stop ≤ e.span.start := by
          intro e he
          rcases Region.exists_of_mem_answered he with ⟨c, hc, hspan⟩
          rw [hspan]
          exact horder.behind.later c.1 (List.mem_map_of_mem hc)
        rcases Edit.Copied.exists_behind hcopied (Nat.le_trans hplace hwhole) hbehind with ⟨rest, rfl, hrest⟩
        rcases ih horder.behind hrest with ⟨hrenumbered, hlast⟩
        refine ⟨?_, hlast.trans hcount.symm⟩
        rw [hs.slice_stop_eq hplace]
        exact .definition hplace hm.stop_le hs (Or.inr ⟨rfl, hread⟩) hrenumbered
      · cases hanswer
        cases hcopied with
        | edit _ _ _ hrest =>
            rcases ih horder.behind hrest with ⟨hrenumbered, hlast⟩
            refine ⟨?_, hlast.trans hcount.symm⟩
            have hnew := Renumbered.definition hplace hm.stop_le hs (Or.inl rfl) hrenumbered
            rw [← hs.slice_append hplace] at hnew
            exact hnew

/-- A text is numbered from the number that it is given on, and the next text from the number behind its last one. -/
theorem renumbered_numberFrom (t : Text) (n : Nat) :
    Renumbered t 0 n (definitions t) (numberFrom t n).1 ∧ (numberFrom t n).2 = n + (definitions t).length := by
  rcases Region.exists_calls (relabel t) n (definitions t) with ⟨calls, hmatches, hcalls, hedits⟩
  have horder : Marks.definition.InOrder t 0 (calls.map Prod.fst) := by
    rw [hmatches]
    exact (inOrder_matchList Marks.definition t).filter _
  have hcopied : Edit.Copied t 0 (Region.answered calls) (numberFrom t n).1 := by
    have hout : (numberFrom t n).1 = Edit.applyAll t (Region.answered calls) := by
      rw [← hedits, numberFrom_eq]
      rfl
    rw [hout]
    exact Region.copied_applyFrom horder
  have hrenumbered := renumbered_of_calls hcalls horder hcopied
  rwa [hmatches, ← List.length_map Prod.fst, hmatches] at hrenumbered

theorem Renumbered.eq_or_mem {t out : Text} {place n : Nat} {ms : List Match} (h : Renumbered t place n ms out) :
    out = t.drop place ∨ ';' ∈ out := by
  cases h with
  | rest place n => exact Or.inl rfl
  | @definition _ _ m s ms label out hplace hstop hnumber hlabel hlater =>
      right
      have hlt := (List.getElem?_eq_some_iff.mp hnumber.semicolon).1
      have hmem : ';' ∈ t.slice ⟨place, s.start⟩ := by
        rw [← Edit.slice_append_slice t hplace hnumber.start_le]
        apply List.mem_append_right
        have hone : t.slice ⟨m.start, s.start⟩ = [';'] := by
          rw [hnumber.start_eq, Text.slice, Span.size, Nat.add_sub_cancel_left, List.take_one, List.head?_drop,
            hnumber.semicolon]
          rfl
        rw [hone]
        exact List.mem_singleton_self ';'
      simp only [List.mem_append]
      exact Or.inl (Or.inl (Or.inl hmem))

/-!
# Numbering sections
-/

/-- The text of a section when its definitions are numbered from `n` on; blanks at its ends go if it is changed. -/
def numberedIntro (t : Text) (n : Nat) : Text :=
  if (numberFrom t n).1 = t then t else (numberFrom t n).1.trim

/-- How many definitions some sections have. -/
def countIn (p : Page) (ids : List Nat) : Nat :=
  (ids.flatMap fun i => definitions (p.get i).intro).length

theorem countIn_cons (p : Page) (i : Nat) (ids : List Nat) :
    countIn p (i :: ids) = (definitions (p.get i).intro).length + countIn p ids := by
  rw [countIn, List.flatMap_cons, List.length_append, countIn]

theorem countIn_congr {p q : Page} {ids : List Nat} (h : forall i, i ∈ ids -> q.get i = p.get i) :
    countIn q ids = countIn p ids := by
  unfold countIn
  rw [List.flatMap_congr fun i hi => by rw [h i hi]]

/-- The section with another text, between as many empty lines as before. -/
def withText (s : Section) (t : Text) : Section :=
  { s with body := { s.body with text := t } }

/-- A page of which only the texts below the headers may be others. -/
structure SameButIntros (p q : Page) : Prop where
  page_eq : q = { p with sections := q.sections }
  length_eq : q.sections.length = p.sections.length
  get_eq : forall i, q.get i = withText (p.get i) (q.get i).intro

theorem SameButIntros.refl (p : Page) : SameButIntros p p :=
  ⟨rfl, rfl, fun _ => rfl⟩

theorem SameButIntros.trans {p q r : Page} (h : SameButIntros p q) (h' : SameButIntros q r) : SameButIntros p r := by
  refine ⟨?_, h'.length_eq.trans h.length_eq, fun i => ?_⟩
  · rw [h'.page_eq, h.page_eq]
  · rw [h'.get_eq i, h.get_eq i]
    rfl

def numberSection (p : Page) (n i : Nat) : Page :=
  let new := (numberFrom (p.get i).intro n).1
  if new = (p.get i).intro then p else p.modify i (·.setIntro new)

theorem setIntro_eq {s : Section} {t : Text} (ht : t.isBlank = false) : s.setIntro t = withText s t.trim := by
  rw [Section.setIntro, Body.setText, ht, if_neg Bool.false_ne_true]
  rfl

theorem get_numberSection {p : Page} {i : Nat} (hi : i < p.sections.length) (n j : Nat) :
    (numberSection p n i).get j = if i = j then withText (p.get i) (numberedIntro (p.get i).intro n) else p.get j := by
  unfold numberSection numberedIntro
  dsimp only
  by_cases hsame : (numberFrom (p.get i).intro n).1 = (p.get i).intro
  · rw [if_pos hsame, if_pos hsame]
    split
    · rename_i hij
      rw [hij]
      rfl
    · rfl
  · rw [if_neg hsame, if_neg hsame, Page.get_modify]
    by_cases hij : i = j
    · subst hij
      rw [if_pos ⟨rfl, hi⟩, if_pos rfl]
      have hmem := (renumbered_numberFrom (p.get i).intro n).1.eq_or_mem.resolve_left hsame
      apply setIntro_eq
      rw [Bool.eq_false_iff]
      intro hblank
      exact absurd (List.all_eq_true.mp hblank ';' hmem) (by decide)
    · rw [if_neg fun h => hij h.1, if_neg hij]

theorem sameButIntros_numberSection {p : Page} {i : Nat} (hi : i < p.sections.length) (n : Nat) :
    SameButIntros p (numberSection p n i) := by
  refine ⟨?_, ?_, fun j => ?_⟩
  · unfold numberSection
    dsimp only
    split <;> rfl
  · unfold numberSection
    dsimp only
    split
    · rfl
    · exact List.length_modify _ _ _
  · rw [get_numberSection hi]
    split
    · rename_i hij
      rw [hij]
      rfl
    · rfl

/-- The sections of one root are numbered one after the other, each from the number behind the last one before it. -/
structure NumberedAlong (p q : Page) (n : Nat) (ids : List Nat) : Prop extends SameButIntros p q where
  numbered : forall front i back, ids = front ++ i :: back ->
    (q.get i).intro = numberedIntro (p.get i).intro (n + countIn p front)
  others : forall i, i ∉ ids -> q.get i = p.get i

def numberNext (x : Page × Nat) (i : Nat) : Page × Nat :=
  (numberSection x.1 x.2 i, (numberFrom (x.1.get i).intro x.2).2)

theorem numberSections_eq (p : Page) (ids : List Nat) : numberSections p ids = (ids.foldl numberNext (p, 1)).1 :=
  rfl

theorem numberedAlong_foldl {p : Page} {ids : List Nat} (hnodup : ids.Nodup)
    (hmade : forall i, i ∈ ids -> i < p.sections.length) (n : Nat) :
    NumberedAlong p (ids.foldl numberNext (p, n)).1 n ids := by
  induction ids generalizing p n with
  | nil => exact ⟨.refl p, fun front i back h => by simp at h, fun _ _ => rfl⟩
  | cons i ids ih =>
      rcases List.nodup_cons.mp hnodup with ⟨hi, hnodup⟩
      have hmadei := hmade i List.mem_cons_self
      have hfirst := sameButIntros_numberSection hmadei n
      have hget := get_numberSection hmadei n
      have hrest := ih hnodup (p := numberSection p n i) (fun j hj => by
        rw [hfirst.length_eq]
        exact hmade j (List.mem_cons_of_mem i hj)) (n + (definitions (p.get i).intro).length)
      have hother : forall j, j ≠ i -> (numberSection p n i).get j = p.get j := fun j hj => by
        rw [hget, if_neg hj.symm]
      have hnext : numberNext (p, n) i = (numberSection p n i, n + (definitions (p.get i).intro).length) :=
        Prod.ext rfl (renumbered_numberFrom (p.get i).intro n).2
      rw [List.foldl_cons, hnext]
      refine ⟨hfirst.trans hrest.toSameButIntros, fun front j back hsplit => ?_, fun j hj => ?_⟩
      · cases front with
        | nil =>
            rcases List.cons.inj hsplit with ⟨rfl, rfl⟩
            rw [hrest.others i hi, hget, if_pos rfl]
            rfl
        | cons k front =>
            rcases List.cons.inj hsplit with ⟨rfl, hrestsplit⟩
            have hcount : countIn (numberSection p n i) front = countIn p front := by
              refine countIn_congr fun k hk => hother k ?_
              rintro rfl
              exact hi (hrestsplit ▸ List.mem_append_left _ hk)
            have hji : j ≠ i := by
              rintro rfl
              exact hi (hrestsplit ▸ List.mem_append_right _ List.mem_cons_self)
            rw [hrest.numbered front j back hrestsplit, hcount, hother j hji, countIn_cons, Nat.add_assoc]
      · rw [List.mem_cons, not_or] at hj
        rw [hrest.others j hj.2, hother j hj.1]

/-!
# Numbering roots
-/

/-- Groups of sections that have nothing in common are numbered independently of each other. -/
theorem numberedAlong_groups {p : Page} {gs : List (List Nat)} (hnodup : gs.flatten.Nodup)
    (hmade : forall i, i ∈ gs.flatten -> i < p.sections.length) :
    SameButIntros p (gs.foldl numberSections p) ∧
      (forall g front i back, g ∈ gs -> g = front ++ i :: back ->
        ((gs.foldl numberSections p).get i).intro = numberedIntro (p.get i).intro (1 + countIn p front)) ∧
      forall i, i ∉ gs.flatten -> (gs.foldl numberSections p).get i = p.get i := by
  induction gs generalizing p with
  | nil => exact ⟨.refl p, fun _ _ _ _ hg => absurd hg List.not_mem_nil, fun _ _ => rfl⟩
  | cons g gs ih =>
      rw [List.flatten_cons] at hnodup hmade
      rcases List.nodup_append.mp hnodup with ⟨hg, hgs, hapart⟩
      have hfirst : NumberedAlong p (numberSections p g) 1 g := by
        rw [numberSections_eq]
        exact numberedAlong_foldl hg (fun i hi => hmade i (List.mem_append_left _ hi)) 1
      rcases ih (p := numberSections p g) hgs (fun i hi => by
        rw [hfirst.length_eq]
        exact hmade i (List.mem_append_right _ hi)) with ⟨hsame, hnumbered, hothers⟩
      rw [List.foldl_cons]
      refine ⟨hfirst.toSameButIntros.trans hsame, fun g' front i back hg' hsplit => ?_, fun i hi => ?_⟩
      · rcases List.mem_cons.mp hg' with rfl | hg'
        · have hi : i ∉ gs.flatten := fun hi =>
            hapart i (hsplit ▸ List.mem_append_right _ List.mem_cons_self) i hi rfl
          rw [hothers i hi]
          exact hfirst.numbered front i back hsplit
        · have hmem : forall j, j ∈ g' -> (numberSections p g).get j = p.get j := fun j hj =>
            hfirst.others j fun hjg => hapart j hjg j (List.mem_flatten.mpr ⟨g', hg', hj⟩) rfl
          have hcount : countIn (numberSections p g) front = countIn p front :=
            countIn_congr fun k hk => hmem k (hsplit ▸ List.mem_append_left _ hk)
          rw [hnumbered g' front i back hg' hsplit, hcount, hmem i (hsplit ▸ List.mem_append_right _ List.mem_cons_self)]
      · rw [List.flatten_cons, List.mem_append, not_or] at hi
        rw [hothers i hi.2, hfirst.others i hi.1]

theorem of_mem_successive {c : Config} {p : Page} {root i : Nat} (hi : i ∈ successive c p root) :
    i ∈ p.descendants root ∧ p.level i = p.level root + 1 := by
  unfold successive at hi
  dsimp only at hi
  split at hi
  · rcases List.mem_map.mp hi with ⟨n, hn, rfl⟩
    rcases List.mem_filter.mp hn with ⟨hrange, htest⟩
    rw [Bool.and_eq_true, Bool.and_eq_true, beq_iff_eq] at htest
    have hlt := List.mem_range.mp hrange
    refine ⟨?_, htest.1.1⟩
    rw [List.getD_eq_getElem?_getD, List.getElem?_eq_getElem hlt, Option.getD_some]
    exact List.getElem_mem hlt
  · cases hi

theorem nodup_successive {c : Config} {p : Page} (h : p.WellFormed) (root : Nat) : (successive c p root).Nodup := by
  unfold successive
  dsimp only
  split
  · refine List.Nodup.map_on (fun m hm n hn heq => ?_) (List.nodup_range.filter _)
    have hm := List.mem_range.mp (List.mem_of_mem_filter hm)
    have hn := List.mem_range.mp (List.mem_of_mem_filter hn)
    rw [List.getD_eq_getElem?_getD, List.getD_eq_getElem?_getD, List.getElem?_eq_getElem hm, List.getElem?_eq_getElem hn,
      Option.getD_some, Option.getD_some] at heq
    exact (List.Nodup.getElem_inj_iff (List.nodup_cons.mp (h.nodup_subtree root)).2).mp heq
  · exact List.nodup_nil

/-- A section has only one section above it on the level before its own. -/
theorem root_eq_of_mem_successive {c : Config} {p : Page} (h : p.WellFormed) {root root' i : Nat}
    (hi : i ∈ successive c p root) (hi' : i ∈ successive c p root') : root = root' := by
  rcases of_mem_successive hi with ⟨hbelow, hlevel⟩
  rcases of_mem_successive hi' with ⟨hbelow', hlevel'⟩
  exact h.subtree_disjoint (by omega) (List.mem_cons_of_mem _ hbelow) (List.mem_cons_of_mem _ hbelow')

theorem roots_sublist (p : Page) (language : Nat) : (roots p language).Sublist (p.subtree language) := by
  unfold roots
  dsimp only
  split
  · exact (List.filter_sublist).trans (List.sublist_cons_self _ _)
  · exact List.singleton_sublist.mpr List.mem_cons_self

/-- No root is taken twice. -/
theorem nodup_roots {p : Page} (h : p.WellFormed) : (p.languages.flatMap (roots p)).Nodup := by
  have hsublist := List.Sublist.flatMap_right p.languages fun l _ => roots_sublist p l
  exact hsublist.nodup (h.nodup_flatMap_subtree (List.Perm.refl p.languages))

theorem nodup_groups (c : Config) {p : Page} (h : p.WellFormed) : (groups c p).flatten.Nodup := by
  unfold groups
  refine List.pairwise_flatten.mpr ⟨?_, ?_⟩
  · intro g hg
    rcases List.mem_map.mp hg with ⟨root, _, rfl⟩
    exact nodup_successive h root
  · refine List.pairwise_map.mpr (((nodup_roots h).filter _).imp fun hne i hi j hj => ?_)
    rintro rfl
    exact hne (root_eq_of_mem_successive h hi hj)

theorem mem_groups_iff {c : Config} {p : Page} {g : List Nat} :
    g ∈ groups c p <-> exists language root, language ∈ p.languages ∧ root ∈ roots p language ∧ isSafe p root = true ∧
      successive c p root = g := by
  simp only [groups, List.mem_map, List.mem_filter, List.mem_flatMap]
  constructor
  · rintro ⟨root, ⟨⟨language, hlanguage, hroot⟩, hsafe⟩, rfl⟩
    exact ⟨language, root, hlanguage, hroot, hsafe, rfl⟩
  · rintro ⟨language, root, hlanguage, hroot, hsafe, rfl⟩
    exact ⟨root, ⟨⟨language, hlanguage, hroot⟩, hsafe⟩, rfl⟩

/-- The page `q` is `p` with its definitions numbered. -/
structure DefinitionsNumbered (c : Config) (p q : Page) : Prop extends SameButIntros p q where
  /-- The definitions of the sections that follow one another below a root are numbered from 1 on, and counted from
  section to section.  A text that is changed by this loses the blanks at its ends. -/
  numbered : forall language root front i back, language ∈ p.languages -> root ∈ roots p language ->
    isSafe p root = true -> successive c p root = front ++ i :: back ->
      exists out, Renumbered (p.get i).intro 0 (1 + countIn p front) (definitions (p.get i).intro) out ∧
        (q.get i).intro = if out = (p.get i).intro then out else out.trim
  /-- All other sections are as they were. -/
  others : forall i, (forall language root, language ∈ p.languages -> root ∈ roots p language ->
    isSafe p root = true -> i ∉ successive c p root) -> q.get i = p.get i
  /-- No root is taken twice, and no two roots have a section in common. -/
  nodup_roots : (p.languages.flatMap (roots p)).Nodup
  root_eq : forall root root' i, i ∈ successive c p root -> i ∈ successive c p root' -> root = root'

theorem definitionsNumbered_foldl (c : Config) {p : Page} (h : p.WellFormed) :
    DefinitionsNumbered c p ((groups c p).foldl numberSections p) := by
  have hmade : forall i, i ∈ (groups c p).flatten -> i < p.sections.length := by
    intro i hi
    rcases List.mem_flatten.mp hi with ⟨g, hg, hi⟩
    rcases mem_groups_iff.mp hg with ⟨_, root, _, _, _, rfl⟩
    exact h.made i (h.descendants_subset (of_mem_successive hi).1)
  rcases numberedAlong_groups (nodup_groups c h) hmade with ⟨hsame, hnumbered, hothers⟩
  refine ⟨hsame, ?_, ?_, Definitions.nodup_roots h, fun root root' i => root_eq_of_mem_successive h⟩
  · intro language root front i back hlanguage hroot hsafe hsplit
    refine ⟨_, (renumbered_numberFrom (p.get i).intro (1 + countIn p front)).1, ?_⟩
    rw [hnumbered _ front i back (mem_groups_iff.mpr ⟨language, root, hlanguage, hroot, hsafe, rfl⟩) hsplit, numberedIntro]
    split
    · rename_i hunchanged
      exact hunchanged.symm
    · rfl
  · intro i hi
    apply hothers
    intro hmem
    rcases List.mem_flatten.mp hmem with ⟨g, hg, hig⟩
    rcases mem_groups_iff.mp hg with ⟨language, root, hlanguage, hroot, hsafe, rfl⟩
    exact hi language root hlanguage hroot hsafe hig

end Definitions

/-!
# The rule
-/

namespace Rule

open Definitions

/-- On a page in the current layout the rule numbers the definitions below every root that is safe, and does nothing
else. -/
theorem definitionNumbers_numbers {x : Context} {t : Text} {p : Page} (hlegacy : x.legacy = false)
    (hread : x.read t = .ok p) :
    exists q, definitionNumbers.run x t = .ok (Outcome.ofPage? t q "corrigiendo numeración de definiciones") ∧
      DefinitionsNumbered x.config p q :=
  ⟨_, Context.onCurrentPage_eq hlegacy hread _, definitionsNumbered_foldl x.config (Page.wellFormed_read hread)⟩

/-- Two sections with definitions below one language, and the numbers of an older state. -/
def entryWithOldNumbers : Text :=
  "==\x7b\x7blengua|es\x7d\x7d==\n===Verbo===\n;3: a\n; 02: b\n===Adjetivo===\n;1 c: d"

theorem definitionNumbers_numbers_entryWithOldNumbers :
    exists x p, x.legacy = false ∧ x.read entryWithOldNumbers = .ok p ∧
      (p.languages.flatMap (roots p)).map (fun root => (isSafe p root, successive x.config p root)) = [(true, [1, 2])] ∧
      exists q, definitionNumbers.run x entryWithOldNumbers =
          .ok (Outcome.ofPage? entryWithOldNumbers q "corrigiendo numeración de definiciones") ∧
        DefinitionsNumbered x.config p q := by
  have hfacts : (Context.read ⟨.builtin, "casa", false⟩ entryWithOldNumbers).map (fun p =>
      (p.languages.flatMap (roots p)).map fun root => (isSafe p root, successive .builtin p root)) =
        .ok [(true, [1, 2])] := by
    decide +kernel
  rcases exists_of_map_eq_ok hfacts with ⟨p, hread, hroots⟩
  exact ⟨⟨.builtin, "casa", false⟩, p, rfl, hread, hroots, definitionNumbers_numbers rfl hread⟩

end Rule
end WikiEntry
