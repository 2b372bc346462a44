import WikiEntry.Proofs.Page.Places
import WikiEntry.Proofs.Rule.EmptySections
import WikiEntry.Proofs.Text.NonblankLines

/-!
# Dissolved sections

Where a section is dissolved its header goes, and its text moves to another section.  However the sections to be
dissolved lie to each other, the page keeps the lines on which something stands, each as often as it was there, and all
other sections keep their order and their headers.
-/

namespace WikiEntry
namespace Page

/-- The lines on which something stands in the text of the page itself and in those of its sections. -/
def nonblankLines (p : Page) : List Text :=
  p.intro.nonblankLines ++ p.order.flatMap fun i => (p.get i).intro.nonblankLines

/-- What is left of a page when some sections are taken out and no line is lost. -/
structure Dissolved (p : Page) (removed : List Nat) (q : Page) : Prop where
  wellFormed : q.WellFormed
  order_eq : q.order = p.without removed
  header_eq : forall i, q.header i = p.header i
  lines_perm : q.nonblankLines.Perm p.nonblankLines

section Dissolving

variable {p q r : Page} {a b : List Nat} {i k : Nat}

theorem without_nil (p : Page) : p.without [] = p.order :=
  List.filter_eq_self.mpr fun _ _ => rfl

theorem without_congr (h : q.order = p.order) (removed : List Nat) : q.without removed = p.without removed := by
  rw [without, h]
  rfl

theorem Dissolved.refl (h : p.WellFormed) : Dissolved p [] p where
  wellFormed := h
  order_eq := (without_nil p).symm
  header_eq := fun _ => rfl
  lines_perm := .refl _

theorem Dissolved.trans (h : Dissolved p a q) (h' : Dissolved q b r) : Dissolved p (a ++ b) r where
  wellFormed := h'.wellFormed
  order_eq := by
    rw [h'.order_eq, without, h.order_eq, without, List.filter_filter]
    refine List.filter_congr fun i _ => ?_
    rw [List.contains_append, Bool.not_or, Bool.and_comm]
  header_eq := fun i => (h'.header_eq i).trans (h.header_eq i)
  lines_perm := h'.lines_perm.trans h.lines_perm

/-- What is dissolved is told by the order, the headers and the texts. -/
theorem Dissolved.congr (h : Dissolved p a q) (hr : r.WellFormed) (horder : r.order = q.order)
    (hfront : r.intro = q.intro) (hheader : forall i, r.header i = q.header i)
    (hintro : forall i, (r.get i).intro = (q.get i).intro) : Dissolved p a r where
  wellFormed := hr
  order_eq := horder.trans h.order_eq
  header_eq := fun i => (hheader i).trans (h.header_eq i)
  lines_perm := by
    have hlines : r.nonblankLines = q.nonblankLines := by
      simp only [nonblankLines, horder, hfront, hintro]
    exact hlines ▸ h.lines_perm

/-!
# One section
-/

/-- What was at `i` and at `k` is at `k` alone when `i` is gone. -/
theorem flatMap_erase_perm {f g : Nat -> List Text} {xs : List Nat} (hi : i ∈ xs) (hk : k ∈ xs.erase i)
    (hmoved : (g k).Perm (f k ++ f i)) (hrest : forall j, j ∈ (xs.erase i).erase k -> g j = f j) :
    ((xs.erase i).flatMap g).Perm (xs.flatMap f) := by
  have heq : ((xs.erase i).erase k).flatMap g = ((xs.erase i).erase k).flatMap f := List.flatMap_congr hrest
  calc ((xs.erase i).flatMap g)
      |>.Perm (g k ++ ((xs.erase i).erase k).flatMap g) := (List.perm_cons_erase hk).flatMap_right g
    _ |>.Perm ((f k ++ f i) ++ ((xs.erase i).erase k).flatMap f) := heq ▸ hmoved.append_right _
    _ |>.Perm ((f i ++ f k) ++ ((xs.erase i).erase k).flatMap f) := List.perm_append_comm.append_right _
    _ |>.Perm (f i ++ (f k ++ ((xs.erase i).erase k).flatMap f)) := .of_eq (List.append_assoc _ _ _)
    _ |>.Perm (f i ++ (xs.erase i).flatMap f) := ((List.perm_cons_erase hk).flatMap_right f).symm.append_left _
    _ |>.Perm (xs.flatMap f) := ((List.perm_cons_erase hi).flatMap_right f).symm

/-- The section `i` is gone, and what stood in it now stands in `k`. -/
structure MergedInto (p : Page) (i k : Nat) (q : Page) : Prop where
  wellFormed : q.WellFormed
  order_eq : q.order = p.without [i]
  header_eq : forall j, q.header j = p.header j
  front_eq : q.intro = p.intro
  moved : (q.get k).intro.nonblankLines.Perm ((p.get k).intro.nonblankLines ++ (p.get i).intro.nonblankLines)
  rest_eq : forall j, j ≠ k -> (q.get j).intro = (p.get j).intro

theorem without_singleton (h : p.WellFormed) (i : Nat) : p.without [i] = p.order.erase i := by
  rw [h.nodup.erase_eq_filter, without]
  refine List.filter_congr fun j _ => ?_
  rw [List.contains_cons, List.contains_nil, Bool.or_false]
  rfl

theorem MergedInto.dissolved (hq : MergedInto p i k q) (h : p.WellFormed) (hi : i ∈ p.order) (hk : k ∈ p.order)
    (hne : k ≠ i) : Dissolved p [i] q where
  wellFormed := hq.wellFormed
  order_eq := hq.order_eq
  header_eq := hq.header_eq
  lines_perm := by
    have hkept : k ∈ p.order.erase i := (h.nodup.mem_erase_iff).mpr ⟨hne, hk⟩
    rw [nonblankLines, nonblankLines, hq.front_eq, hq.order_eq, without_singleton h]
    refine (flatMap_erase_perm hi hkept hq.moved fun j hj => ?_).append_left _
    rw [hq.rest_eq j ((h.nodup.erase i).mem_erase_iff.mp hj).1]

/-- A section without a text can go. -/
theorem dissolved_of_intro_eq_nil (h : p.WellFormed) (hintro : (p.get i).intro = []) :
    Dissolved p [i] (p.detachAlone i) where
  wellFormed := h.detachAlone i
  order_eq := rfl
  header_eq := fun _ => rfl
  lines_perm := by
    by_cases hi : i ∈ p.order
    · have hlines : (p.get i).intro.nonblankLines = [] := by
        rw [hintro]
        rfl
      refine List.Perm.append_left _ ?_
      show ((p.without [i]).flatMap fun j => (p.get j).intro.nonblankLines).Perm _
      rw [without_singleton h]
      refine .trans ?_ ((List.perm_cons_erase hi).flatMap_right _).symm
      rw [List.flatMap_cons, hlines]
      exact .refl _
    · have hall : p.without [i] = p.order := List.filter_eq_self.mpr fun j hj => by
        have hji : j ≠ i := fun heq => hi (heq ▸ hj)
        simpa using hji
      show (p.intro.nonblankLines ++ (p.without [i]).flatMap fun j => (p.get j).intro.nonblankLines).Perm _
      rw [hall]
      exact .refl _

/-- A text is given to a section in which the text of another one, now gone, is put down. -/
theorem mergedInto_detachAlone {t : Text} (h : p.WellFormed) (hk : k ∈ p.order)
    (ht : t.nonblankLines.Perm ((p.get k).intro.nonblankLines ++ (p.get i).intro.nonblankLines)) :
    MergedInto p i k ((p.modify k (·.setIntro t)).detachAlone i) where
  wellFormed := (h.modifyBody k fun s => s.body.setText t).detachAlone i
  order_eq := rfl
  header_eq := fun j => by
    show ((p.modify k (·.setIntro t)).get j).header = (p.get j).header
    rw [get_modify]
    split <;> rfl
  front_eq := rfl
  moved := by
    show ((p.modify k (·.setIntro t)).get k).intro.nonblankLines.Perm _
    rw [get_modify, if_pos ⟨rfl, h.made k hk⟩]
    show (Text.trim t).nonblankLines.Perm _
    rw [Text.nonblankLines_trim]
    exact ht
  rest_eq := fun j hj => by
    show ((p.modify k (·.setIntro t)).get j).intro = (p.get j).intro
    rw [get_modify, if_neg fun heq => hj heq.1.symm]

/-!
# Several sections, one after the other
-/

/-- Each step dissolves the section that it is told, or none. -/
theorem exists_dissolved_foldl {step : Page -> Nat -> Page} (h : p.WellFormed) (ids : List Nat)
    (hstep : forall q i, q.WellFormed -> exists removed, removed ⊆ [i] ∧ Dissolved q removed (step q i)) :
    exists removed, removed ⊆ ids ∧ Dissolved p removed (ids.foldl step p) := by
  induction ids generalizing p with
  | nil => exact ⟨[], List.Subset.refl _, .refl h⟩
  | cons i ids ih =>
      rcases hstep p i h with ⟨removed, hremoved, hfirst⟩
      rcases ih hfirst.wellFormed with ⟨others, hothers, hrest⟩
      refine ⟨removed ++ others, List.append_subset.mpr ⟨?_, ?_⟩, hfirst.trans hrest⟩
      · exact fun j hj => List.mem_cons.mpr (Or.inl (List.mem_singleton.mp (hremoved hj)))
      · exact List.Subset.trans hothers (List.subset_cons_self i ids)

end Dissolving

end Page

namespace SuperfluousSections

open Page

variable {c : Config} {p q : Page} {kept todo : List Nat} {i : Nat}

/-!
# Sections of pronunciation
-/

theorem nonblankLines_bannersFirst (t : Text) : (bannersFirst t).nonblankLines.Perm t.nonblankLines := by
  have hperm : ((t.lines.partition bannerLine.matchesIn).1 ++ (t.lines.partition bannerLine.matchesIn).2).Perm
      t.lines := by
    rw [List.partition_eq_filter_filter]
    exact List.filter_append_perm _ _
  show (Text.joinWith "\n" ((t.lines.partition bannerLine.matchesIn).1 ++
    (t.lines.partition bannerLine.matchesIn).2)).nonblankLines.Perm _
  rw [Text.nonblankLines_joinWith fun l hl => Text.newline_not_mem_line (hperm.mem_iff.mp hl),
    ← Text.trimmedLines_lines]
  exact Text.trimmedLines_perm hperm

theorem exists_dissolved_foldPronunciation (h : q.WellFormed) (i : Nat) :
    exists removed, removed ⊆ [i] ∧ Dissolved q removed (foldPronunciation q i) := by
  have hstays : exists removed, removed ⊆ [i] ∧ Dissolved q removed q := ⟨[], List.nil_subset _, .refl h⟩
  unfold foldPronunciation
  cases hparent : q.parent? i with
  | none => exact hstays
  | some parent =>
      dsimp only
      split
      · exact hstays
      split
      · rcases h.parent_spec hparent with ⟨hi, hmem, hlt⟩
        have hne : parent ≠ i := by
          rintro rfl
          exact Nat.lt_irrefl _ hlt
        have hlines : (bannersFirst ((q.get i).intro ++ "\n" ++ (q.get parent).intro)).nonblankLines.Perm
            ((q.get parent).intro.nonblankLines ++ (q.get i).intro.nonblankLines) := by
          refine (nonblankLines_bannersFirst _).trans ?_
          rw [List.append_assoc]
          refine .trans (.of_eq (Text.nonblankLines_append_newline _ _)) List.perm_append_comm
        exact ⟨[i], List.Subset.refl _, (mergedInto_detachAlone h hmem hlines).dissolved h hi hmem hne⟩
      · exact hstays

/-!
# Empty sections
-/

theorem mergedInto_addIntro {previous : Nat} (h : q.WellFormed) (hprevious : previous ∈ q.order) :
    MergedInto q i previous ((addIntro q previous (q.get i).intro).detachAlone i) := by
  have hget : addIntro q previous (q.get i).intro =
      q.modify previous (·.setIntro ((q.get previous).intro ++ "\n" ++ (q.get i).intro)) := by
    refine congrArg (fun sections => { q with sections := sections }) (List.ext_getElem? fun n => ?_)
    rw [List.getElem?_modify, List.getElem?_modify]
    by_cases hn : previous = n
    · subst hn
      cases hsome : q.sections[previous]? with
      | none => rfl
      | some s =>
          have hs : q.get previous = s := by rw [Page.get, List.getD_eq_getElem?_getD, hsome, Option.getD_some]
          simp [hs]
    · simp [hn]
  rw [hget]
  apply mergedInto_detachAlone h hprevious
  rw [List.append_assoc]
  exact .of_eq (Text.nonblankLines_append_newline _ _)

theorem previous?_spec {previous : Nat} (h : q.WellFormed) (hprevious : q.previous? i = some previous) :
    i ∈ q.order ∧ previous ∈ q.order ∧ previous ≠ i := by
  by_cases hi : i ∈ q.order
  · rcases List.append_of_mem hi with ⟨front, back, horder⟩
    rw [previous?_eq_getLast? h horder] at hprevious
    have hmem : previous ∈ front := List.mem_of_getLast? hprevious
    have hnodup := h.nodup
    rw [horder] at hnodup
    refine ⟨hi, horder ▸ List.mem_append_left _ hmem, ?_⟩
    rintro rfl
    exact (List.nodup_append.mp hnodup).2.2 previous hmem previous List.mem_cons_self rfl
  · rw [Page.previous?, Page.position?, List.idxOf?_eq_none_iff.mpr hi] at hprevious
    cases hprevious

theorem exists_dissolved_pageBehind (c : Config) (h : q.WellFormed) (i : Nat) :
    exists removed, (forall j, j ∈ removed -> j = i ∧ isEmptySection c q i = true) ∧
      Dissolved q removed (pageBehind c q i) := by
  have hstays : pageBehind c q i = q -> exists removed,
      (forall j, j ∈ removed -> j = i ∧ isEmptySection c q i = true) ∧ Dissolved q removed (pageBehind c q i) :=
    fun heq => ⟨[], nofun, heq.symm ▸ Dissolved.refl h⟩
  cases hempty : isEmptySection c q i with
  | false =>
      rw [hempty] at hstays
      apply hstays
      rw [pageBehind, removeEmpty, hempty]
      rfl
  | true =>
      rw [hempty] at hstays
      have hself : forall j, j ∈ [i] -> j = i ∧ true = true := fun j hj => ⟨List.mem_singleton.mp hj, rfl⟩
      rcases pageBehind_cases c q i with ⟨_, hintro, heq⟩ | ⟨_, previous, hprevious, heq⟩ | ⟨heq, _⟩
      · exact ⟨[i], hself, heq ▸ dissolved_of_intro_eq_nil h hintro⟩
      · rcases previous?_spec h hprevious with ⟨hi, hmem, hne⟩
        exact ⟨[i], hself, heq ▸ (mergedInto_addIntro h hmem).dissolved h hi hmem hne⟩
      · exact hstays heq

/-- The walk takes out sections of which it was told at the beginning that they are standard and show nothing. -/
theorem Swept.exists_dissolved (hp : p.WellFormed) (h : Swept c p kept todo q) :
    exists removed, (forall i, i ∈ removed -> isDispensable c p i = true ∧ Marks.isInvisible (p.get i).intro = true) ∧
      Dissolved q removed (todo.foldl (pageBehind c) q) := by
  induction todo generalizing kept q with
  | nil => exact ⟨[], nofun, Dissolved.refl h.wellFormed⟩
  | cons i todo ih =>
      rcases h.step hp with ⟨_, hnext⟩
      rcases exists_dissolved_pageBehind c h.wellFormed i with ⟨removed, hremoved, hfirst⟩
      rcases ih hnext with ⟨others, hothers, hrest⟩
      rw [List.foldl_cons]
      refine ⟨removed ++ others, fun j hj => ?_, hfirst.trans hrest⟩
      rcases List.mem_append.mp hj with hj | hj
      · rcases hremoved j hj with ⟨rfl, hempty⟩
        rcases isEmptySection_iff.mp hempty with ⟨hdispensable, _, hinvisible⟩
        rw [h.isDispensable_eq] at hdispensable
        rw [h.intro_eq j List.mem_cons_self] at hinvisible
        exact ⟨hdispensable, hinvisible⟩
      · exact hothers j hj

/-!
# Wrapping sections
-/

/-- Wrapping sections that are still to be taken out: each lies deeper than a language and has a section in front. -/
structure Wrapping (p : Page) (todo : List Nat) : Prop where
  wellFormed : p.WellFormed
  nodup : todo.Nodup
  attached : forall i, i ∈ todo -> i ∈ p.order
  deep : forall i, i ∈ todo -> 3 ≤ p.level i
  behind : forall i, p.order.head? = some i -> i ∉ todo

theorem wrapping_wrappers (h : p.WellFormed) : Wrapping p (wrappers p) := by
  have hwrapper : forall i, i ∈ wrappers p -> exists l, l ∈ p.languages ∧ i ∈ p.descendants l := by
    intro i hi
    rcases List.mem_flatMap.mp (List.mem_filter.mp hi).1 with ⟨l, hl, hi⟩
    exact ⟨l, (List.mem_filter.mp hl).1, (List.mem_filter.mp hi).1⟩
  refine ⟨h, ?_, fun i hi => ?_, fun i hi => ?_, fun i hfirst hi => ?_⟩
  · refine (List.nodup_flatMap.mpr ⟨fun l _ => ?_, ?_⟩).filter _
    · exact (h.nodup_below l).filter _
    · refine ((h.nodup.filter _).filter _).pairwise_of_forall_ne fun l hl m hm hne => ?_
      intro i hil him
      have hlevel : forall {n}, n ∈ p.languages.filter (fun i => !isSpanish p i) -> p.level n = 2 := fun hn =>
        h.level_eq_two (List.mem_filter.mp (List.mem_filter.mp hn).1).2
      exact hne (h.subtree_disjoint ((hlevel hl).trans (hlevel hm).symm)
        (List.mem_cons_of_mem _ (List.mem_filter.mp hil).1) (List.mem_cons_of_mem _ (List.mem_filter.mp him).1))
  · rcases hwrapper i hi with ⟨_, _, hbelow⟩
    exact h.descendants_subset hbelow
  · rcases hwrapper i hi with ⟨l, hl, hbelow⟩
    have hlevel := h.level_eq_two (List.mem_filter.mp hl).2
    have hlt := h.level_lt_of_mem_descendants hbelow
    omega
  · rcases hwrapper i hi with ⟨l, hl, hbelow⟩
    rcases List.append_of_mem (List.mem_filter.mp hl).1 with ⟨front, back, horder⟩
    rw [h.descendants_eq_takeWhile horder] at hbelow
    have hback : i ∈ back := (List.takeWhile_sublist _).mem hbelow
    have hnodup := h.nodup
    rw [horder] at hnodup hfirst
    cases front with
    | nil =>
        cases hfirst
        exact (List.nodup_cons.mp hnodup).1 hback
    | cons j front =>
        cases hfirst
        exact (List.nodup_cons.mp hnodup).1 (List.mem_append_right _ (List.mem_cons_of_mem _ hback))

theorem intro_putLevels (p : Page) (levels : List (Nat × Nat)) : (p.putLevels levels).intro = p.intro := by
  unfold putLevels
  induction levels generalizing p with
  | nil => rfl
  | cons x levels ih =>
      rw [List.foldl_cons, ih, putLevel]
      split <;> rfl

/-- A section deeper than the languages can be raised with all that lies below it. -/
theorem exists_raised (h : p.WellFormed) (hi : i ∈ p.order) (hdeep : 3 ≤ p.level i) :
    exists q, (p.shiftLevels i (-1)).toExcept = .ok q ∧ SameButLevels p q ∧
      (forall j, j ∈ p.subtree i -> q.level j + 1 = p.level j) ∧ (forall j, j ∉ p.subtree i -> q.level j = p.level j) ∧
      q.intro = p.intro ∧ (forall j, q.header j = p.header j) ∧ forall j, (q.get j).intro = (p.get j).intro := by
  have hlanguage : p.isLanguage i = false := by
    rw [Bool.eq_false_iff]
    intro hl
    have := h.level_eq_two hl
    omega
  have hrange : (((p.subtree i).map fun j => (j, (p.level j : Int) + -1)).all
      fun x => decide (1 ≤ x.2 ∧ x.2 ≤ 6)) = true := by
    rw [List.all_map, List.all_eq_true]
    intro j hj
    have hle := h.toOrderly.level_le_six j
    have hge : 3 ≤ p.level j := by
      rcases List.mem_cons.mp hj with rfl | hj
      · exact hdeep
      · exact Nat.le_trans hdeep (Nat.le_of_lt (h.level_lt_of_mem_descendants hj))
    refine decide_eq_true ?_
    show 1 ≤ (p.level j : Int) + -1 ∧ (p.level j : Int) + -1 ≤ 6
    omega
  have hok : (p.shiftLevels i (-1)).toExcept =
      .ok (p.putLevels ((p.subtree i).map fun j => (j, ((p.level j : Int) + -1).toNat))).link := by
    rw [Page.shiftLevels, if_neg (by decide), if_neg (by decide), hlanguage, if_neg Bool.false_ne_true]
    dsimp only
    rw [if_pos hrange, List.map_map]
    rfl
  rcases h.level_shiftLevels hi hok with ⟨hsame, hinside, houtside⟩
  refine ⟨_, hok, hsame, fun j hj => ?_, houtside, intro_putLevels p _, fun j => ?_, fun j => ?_⟩
  · have := hinside j hj
    omega
  · exact of_get_putLevels (f := Section.header) (fun _ _ _ => rfl) p _ j
  · exact of_get_putLevels (f := Section.intro) (fun _ _ _ => rfl) p _ j

/-- The page in which the text of a wrapping section has been carried to the section before it. -/
def carried (p : Page) (i previous : Nat) : Page :=
  if (p.get i).intro.isEmpty then p else addIntro p previous (p.get i).intro

theorem wellFormed_carried (h : p.WellFormed) (i previous : Nat) : (carried p i previous).WellFormed := by
  unfold carried
  split
  · exact h
  · exact wellFormed_addIntro h previous _

theorem order_carried (p : Page) (i previous : Nat) : (carried p i previous).order = p.order := by
  unfold carried
  split <;> rfl

theorem level_carried (p : Page) (i previous j : Nat) : (carried p i previous).level j = p.level j := by
  unfold carried
  split
  · rfl
  · exact congrArg HeaderLine.level (line_addIntro p previous _ j)

theorem dissolved_carried {previous : Nat} (h : p.WellFormed) (hprevious : p.previous? i = some previous) :
    Dissolved p [i] ((carried p i previous).detachAlone i) := by
  unfold carried
  split
  · rename_i hintro
    exact dissolved_of_intro_eq_nil h (List.isEmpty_iff.mp hintro)
  · rcases previous?_spec h hprevious with ⟨hi, hmem, hne⟩
    exact (mergedInto_addIntro h hmem).dissolved h hi hmem hne

/-- The other ones stay so when the section is gone and only levels below 3 are given up. -/
theorem Wrapping.tail (h : Wrapping p (i :: todo)) (hq : q.WellFormed) (horder : q.order = p.without [i])
    (hlevel : forall j, j ≠ i -> q.level j = p.level j ∨ 3 ≤ q.level j) : Wrapping q todo := by
  rcases List.nodup_cons.mp h.nodup with ⟨hnot, hnodup⟩
  have hne : forall j, j ∈ todo -> j ≠ i := fun j hj heq => hnot (heq ▸ hj)
  refine ⟨hq, hnodup, fun j hj => ?_, fun j hj => ?_, fun j hj => ?_⟩
  · rw [horder, mem_without, List.mem_singleton]
    exact ⟨h.attached j (List.mem_cons_of_mem i hj), hne j hj⟩
  · rcases hlevel j (hne j hj) with heq | hdeep
    · exact heq ▸ h.deep j (List.mem_cons_of_mem i hj)
    · exact hdeep
  · cases hall : p.order with
    | nil =>
        have hi := h.attached i List.mem_cons_self
        rw [hall] at hi
        cases hi
    | cons k rest =>
        have hk := h.behind k (by rw [hall]; rfl)
        have hki : k ≠ i := fun heq => hk (heq ▸ List.mem_cons_self)
        rw [horder, Page.without, hall, List.filter_cons_of_pos (by simpa using hki)] at hj
        cases hj
        exact fun hmem => hk (List.mem_cons_of_mem i hmem)

/-- A wrapping section can be taken out: what lies below it is raised, and no line is lost. -/
theorem Wrapping.exists_unwrap (h : Wrapping p (i :: todo)) :
    exists q, unwrap p i = .ok q ∧ Dissolved p [i] q ∧ Wrapping q todo := by
  have hi := h.attached i List.mem_cons_self
  rcases List.append_of_mem hi with ⟨front, back, horder⟩
  cases hlast : front.getLast? with
  | none =>
      rw [List.getLast?_eq_none_iff] at hlast
      rw [hlast] at horder
      exact absurd List.mem_cons_self (h.behind i (by rw [horder]; rfl))
  | some previous =>
      have hprevious : p.previous? i = some previous := (previous?_eq_getLast? h.wellFormed horder).trans hlast
      have hcarried := wellFormed_carried h.wellFormed i previous
      have hsame := order_carried p i previous
      have hlevel := level_carried p i previous
      have hdeep : 3 ≤ (carried p i previous).level i := (hlevel i).symm ▸ h.deep i List.mem_cons_self
      rcases exists_raised hcarried (hsame.symm ▸ hi) hdeep with
        ⟨q, hq, hraised, hinside, houtside, hfront, hheader, hintro⟩
      have hwell := hraised.wellFormed.detachAlone i
      refine ⟨q.detachAlone i, ?_, ?_, h.tail hwell ?_ fun j hj => ?_⟩
      · rw [unwrap, hprevious]
        show ((carried p i previous).shiftLevels i (-1)).toExcept >>= _ = _
        rw [hq]
        rfl
      · exact (dissolved_carried h.wellFormed hprevious).congr hwell (without_congr hraised.order_eq [i]) hfront hheader
          hintro
      · exact without_congr (hraised.order_eq.trans hsame) [i]
      · show q.level j = p.level j ∨ 3 ≤ q.level j
        by_cases hbelow : j ∈ (carried p i previous).subtree i
        · have hdescendant := (List.mem_cons.mp hbelow).resolve_left hj
          have hlt := hcarried.level_lt_of_mem_descendants hdescendant
          have := hinside j hbelow
          omega
        · exact Or.inl ((houtside j hbelow).trans (hlevel j))

theorem Wrapping.exists_foldlM (h : Wrapping p todo) :
    exists q, todo.foldlM unwrap p = .ok q ∧ Dissolved p todo q := by
  induction todo generalizing p with
  | nil => exact ⟨p, rfl, Dissolved.refl h.wellFormed⟩
  | cons i todo ih =>
      rcases h.exists_unwrap with ⟨q, hq, hfirst, hnext⟩
      rcases ih hnext with ⟨r, hr, hrest⟩
      refine ⟨r, ?_, hfirst.trans hrest⟩
      rw [List.foldlM_cons, hq]
      exact hr

end SuperfluousSections

/-!
# The rules
-/

namespace Rule

open SuperfluousSections

/-- On every page that can be read the three rules end with a page in which some sections are dissolved: standard ones
in which nothing is seen, the ones that wrap the translations of foreign words, or ones of pronunciation. -/
theorem dissolving_rules_keep_lines {x : Context} {t : Text} {p : Page} (hread : x.read t = .ok p) :
    (exists q removed headers, removeAllEmpty x.config p = (q, headers) ∧ Page.Dissolved p removed q ∧
      (forall i, i ∈ removed -> isDispensable x.config p i = true ∧ Marks.isInvisible (p.get i).intro = true) ∧
      emptySections.run x t = .ok (if p.languages.isEmpty || headers.isEmpty then none
        else Outcome.ofPage? t q ("eliminando secciones vacías: " ++ Text.joinWith ", " headers))) ∧
    (exists q, (wrappers p).foldlM unwrap p = .ok q ∧ Page.Dissolved p (wrappers p) q ∧
      translationWrappers.run x t = .ok (Outcome.ofPage? t q "subiendo subsecciones de \"Traducción\"")) ∧
    (exists q removed, (p.findSections Marks.pronunciationHeader).foldl foldPronunciation p = q ∧
      Page.Dissolved p removed q ∧ removed ⊆ p.findSections Marks.pronunciationHeader ∧
      pronunciation.run x t = .ok (if x.legacy then none
        else Outcome.ofPage? t q "eliminando títulos de pronunciación")) := by
  have h := Page.wellFormed_read hread
  refine ⟨?_, ?_, ?_⟩
  · rcases (Swept.start (c := x.config) h).exists_dissolved h with ⟨removed, hremoved, hq⟩
    rw [← fst_removeAllEmpty] at hq
    refine ⟨_, removed, (removeAllEmpty x.config p).2, rfl, hq, hremoved, ?_⟩
    show (x.read t >>= _) = _
    rw [hread]
    show (if p.languages.isEmpty then _ else _) = _
    cases p.languages.isEmpty <;> rfl
  · rcases (wrapping_wrappers h).exists_foldlM with ⟨q, hq, hdissolved⟩
    refine ⟨q, hq, hdissolved, ?_⟩
    show (x.read t >>= fun p => (wrappers p).foldlM unwrap p >>= _) = _
    rw [hread]
    show ((wrappers p).foldlM unwrap p >>= _) = _
    rw [hq]
    rfl
  · rcases Page.exists_dissolved_foldl h (p.findSections Marks.pronunciationHeader)
      (fun q i hq => exists_dissolved_foldPronunciation hq i) with ⟨removed, hremoved, hq⟩
    refine ⟨_, removed, rfl, hq, hremoved, ?_⟩
    show x.onCurrentPage t _ = _
    cases hlegacy : x.legacy with
    | true => rw [Context.onCurrentPage, hlegacy]; rfl
    | false =>
        rw [Context.onCurrentPage_eq hlegacy hread]
        rfl

/-- A section of pronunciation, one with a template that wraps another, and an empty one with a comment. -/
def entryToDissolve : Text :=
  "==\x7b\x7blengua|en\x7d\x7d==\n===Pronunciación===\na\n===Traducción===\n\x7b\x7bclear\x7d\x7d\n"
    ++ "====Verbo====\nb\n===Véase también===\n<!--c-->"

theorem dissolving_rules_keep_lines_entryToDissolve :
    exists x p q r s, x.read entryToDissolve = .ok p ∧ p.order = [0, 1, 2, 3, 4] ∧
      (emptySections.run x entryToDissolve =
          .ok (Outcome.ofPage? entryToDissolve q "eliminando secciones vacías: Véase también") ∧
        q.order = [0, 1, 2, 3] ∧ q.nonblankLines.Perm p.nonblankLines) ∧
      (translationWrappers.run x entryToDissolve =
          .ok (Outcome.ofPage? entryToDissolve r "subiendo subsecciones de \"Traducción\"") ∧
        r.order = [0, 1, 3, 4] ∧ r.nonblankLines.Perm p.nonblankLines) ∧
      (pronunciation.run x entryToDissolve =
          .ok (Outcome.ofPage? entryToDissolve s "eliminando títulos de pronunciación") ∧
        s.order = [0, 2, 3, 4] ∧ s.nonblankLines.Perm p.nonblankLines) := by
  have hfacts : (Context.read ⟨.builtin, "t", false⟩ entryToDissolve).map (fun p =>
      ([p.order, wrappers p, p.languages, (removeAllEmpty .builtin p).1.order,
        ((p.findSections Marks.pronunciationHeader).foldl foldPronunciation p).order], (removeAllEmpty .builtin p).2)) =
          .ok ([[0, 1, 2, 3, 4], [2], [0], [0, 1, 2, 3], [0, 2, 3, 4]], ["Véase también".toList]) := by
    decide +kernel
  rcases exists_of_map_eq_ok hfacts with ⟨p, hread, hfacts⟩
  simp only [Prod.mk.injEq, List.cons.injEq, and_true] at hfacts
  rcases hfacts with ⟨⟨horder, hwrappers, hlanguages, hempty, hpronunciation⟩, hheaders⟩
  rcases dissolving_rules_keep_lines hread with ⟨⟨q, _, headers, hq, hkeeps, _, hrun⟩, ⟨r, _, hkeeps', hrun'⟩,
    ⟨s, _, hs, hkeeps'', _, hrun''⟩⟩
  refine ⟨⟨.builtin, "t", false⟩, p, q, r, s, hread, horder, ⟨?_, ?_, hkeeps.lines_perm⟩,
    ⟨hrun', ?_, hkeeps'.lines_perm⟩, ⟨hrun'', ?_, hkeeps''.lines_perm⟩⟩
  · have heq : headers = ["Véase también".toList] := by rw [← hheaders, hq]
    rw [hrun, hlanguages, heq]
    rfl
  · rw [← hempty, hq]
  · rw [hkeeps'.order_eq, Page.without, horder, hwrappers]
    rfl
  · rw [← hpronunciation, hs]

end Rule

end WikiEntry
