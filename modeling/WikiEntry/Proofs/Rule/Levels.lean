import WikiEntry.Proofs.Error
import WikiEntry.Proofs.Page.Places
import WikiEntry.Proofs.Rule.Outcome
import WikiEntry.Rule.Levels

/-!
# Levels that follow the tree

When the levels have been made equal a second time, no level is more than one greater than the one before it.  Taking the
sections below a pronunciation or a single etymology out of it, and putting others below several etymologies, keeps it so
within the language.  Raising the sections that close the entry does not: what followed a raised section on a deeper level
now lies below it, and is not raised with it.  There, and nowhere else, a section may stand more than one level below its
parent.
-/

namespace WikiEntry
namespace Levels

open Page

variable {c : Config} {p q r : Page} {a b i k m n stop language etymology : Nat} {ids : List Nat} {s : Int}

/-- Whether the section at a place is one of those that close the entry of a language. -/
def Closes (c : Config) (p : Page) (n : Nat) : Prop :=
  exists i, p.order[n]? = some i ∧ c.settings.bottomSections.contains (p.strippedHeader i) = true

/-- No step is greater than one but to what lies below a section that closes the entry. -/
def Settled (c : Config) (p : Page) : Prop :=
  forall n, StepsOrCloses (Closes c p) p.levelAt n

theorem Closes.congr (h : SameButLevels p q) (hn : Closes c p n) : Closes c q n := by
  rcases hn with ⟨i, hi, hbottom⟩
  refine ⟨i, ?_, ?_⟩
  · rwa [h.order_eq]
  · rwa [h.strippedHeader_eq]

/-!
# The entry of a language
-/

/-- A language stands at the place `a`, and what lies below it ends in front of `stop`. -/
structure EntryAt (a stop : Nat) (p : Page) : Prop where
  wellFormed : p.WellFormed
  level_eq : p.levelAt a = 2
  reaches : Reaches p.levelAt a stop

/-- In the entry no step is greater than one. -/
def Even (a stop : Nat) (p : Page) : Prop :=
  forall n, a ≤ n -> n < stop -> StepsAt p.levelAt n

/-- A section stands in the entry. -/
def StandsIn (a stop : Nat) (p : Page) (i : Nat) : Prop :=
  exists n, p.order[n]? = some i ∧ a < n ∧ n < stop

/-- Nothing is changed but the levels of what lies below a language, and nothing of it comes up to the language. -/
structure ChangesBelow (a stop : Nat) (p q : Page) : Prop extends SameButLevels p q where
  outside : forall n, n ≤ a ∨ stop ≤ n -> q.levelAt n = p.levelAt n
  inside : forall n, a < n -> n < stop -> 2 < q.levelAt n

theorem EntryAt.inside (h : EntryAt a stop p) (han : a < n) (hn : n < stop) : 2 < p.levelAt n :=
  h.level_eq ▸ h.reaches.deeper n han hn

theorem ChangesBelow.refl (h : EntryAt a stop p) : ChangesBelow a stop p p where
  toSameButLevels := .refl h.wellFormed
  outside _ _ := rfl
  inside _ han hn := h.inside han hn

theorem ChangesBelow.trans (h : ChangesBelow a stop p q) (h' : ChangesBelow a stop q r) : ChangesBelow a stop p r where
  toSameButLevels := h.toSameButLevels.trans h'.toSameButLevels
  outside n hn := (h'.outside n hn).trans (h.outside n hn)
  inside := h'.inside

theorem ChangesBelow.entryAt (h : ChangesBelow a stop p q) (hentry : EntryAt a stop p) : EntryAt a stop q := by
  have hlevel : q.levelAt a = 2 := (h.outside a (Or.inl (Nat.le_refl a))).trans hentry.level_eq
  refine ⟨h.wellFormed, hlevel, hentry.reaches.lt, fun n han hn => ?_, ?_⟩
  · rw [hlevel]
    exact h.inside n han hn
  · rw [hlevel, ← hentry.level_eq, h.outside stop (Or.inr (Nat.le_refl stop))]
    exact hentry.reaches.ends

namespace EntryAt

theorem mem_descendants_iff (h : EntryAt a stop p) (hl : p.order[a]? = some language) (hi : p.order[n]? = some i) :
    i ∈ p.descendants language <-> a < n ∧ n < stop := by
  rw [h.wellFormed.mem_descendants_iff_below hl hi, h.reaches.below_iff]

theorem standsIn (h : EntryAt a stop p) (hl : p.order[a]? = some language) (hi : i ∈ p.descendants language) :
    StandsIn a stop p i := by
  rcases Page.exists_place (h.wellFormed.descendants_subset hi) with ⟨n, hn⟩
  exact ⟨n, hn, (h.mem_descendants_iff hl hn).mp hi⟩

/-- What lies below a section of the entry belongs to the entry, too. -/
theorem standsIn_below (h : EntryAt a stop p) (hm : p.order[m]? = some etymology) (hin : a < m ∧ m < stop)
    (hi : i ∈ p.descendants etymology) : StandsIn a stop p i := by
  rcases Page.exists_place (h.wellFormed.descendants_subset hi) with ⟨n, hn⟩
  rcases exists_reaches_levelAt hm with ⟨d, hd⟩
  have hbelow := hd.below_iff.mp ((h.wellFormed.mem_descendants_iff_below hm hn).mp hi)
  have hstop := h.reaches.stop_le hin hd
  exact ⟨n, hn, by omega, by omega⟩

/-- As long as the entry is changed alone and keeps its steps, the whole page stays settled. -/
theorem settled (h : EntryAt a stop p) (hchanges : ChangesBelow a stop p q) (heven : Even a stop q) (hp : Settled c p) :
    Settled c q := by
  intro n
  by_cases hin : a ≤ n ∧ n < stop
  · exact Or.inl (heven n hin.1 hin.2)
  have hn : q.levelAt n = p.levelAt n := hchanges.outside n (by omega)
  have hnext : q.levelAt (n + 1) = p.levelAt (n + 1) := hchanges.outside (n + 1) (by omega)
  rcases hp n with hstep | ⟨b, hb, hbelow⟩
  · left
    unfold StepsAt at hstep ⊢
    rwa [hn, hnext]
  refine Or.inr ⟨b, hb.congr hchanges.toSameButLevels, hbelow.1, fun k hbk hk => ?_⟩
  have hlt := h.reaches.lt
  have hends := h.reaches.ends
  have hlevel := h.level_eq
  -- What closes above a place behind the entry does not belong to the entry.
  have hplace : b ≤ a ∨ stop ≤ b := by
    refine Classical.byContradiction fun hnot => ?_
    have hdeeper := hbelow.2 stop (by omega) (by have := hbelow.1; omega)
    have := h.inside (n := b) (by omega) (by omega)
    omega
  rw [hchanges.outside b hplace]
  by_cases hk' : a < k ∧ k < stop
  · have hinside := hchanges.inside k hk'.1 hk'.2
    have hstop := hbelow.2 stop (by omega) (by omega)
    omega
  · rw [hchanges.outside k (by omega)]
    exact hbelow.2 k hbk hk

/-- A shift of something below a language that does not bring it up to the language. -/
theorem shiftLevels (h : EntryAt a stop p) (hi : p.order[n]? = some i) (hn : a < n ∧ n < stop)
    (hdeep : 2 < (p.levelAt n : Int) + s) (hq : (p.shiftLevels i s).toExcept = .ok q) :
    ChangesBelow a stop p q ∧ exists d, Reaches p.levelAt n d ∧ Shifted p.levelAt q.levelAt n d s := by
  rcases exists_reaches_levelAt hi with ⟨d, hd⟩
  rcases h.wellFormed.shifted hi hd hq with ⟨hsame, hshifted⟩
  have hstop := h.reaches.stop_le hn hd
  have hhead := hshifted.inside n (Nat.le_refl n) hd.lt
  refine ⟨⟨hsame, fun m hm => hshifted.outside m (by omega), fun m ham hm => ?_⟩, d, hd, hshifted⟩
  by_cases hin : n ≤ m ∧ m < d
  · have := hshifted.head_le hd hin.1 hin.2
    omega
  · rw [hshifted.outside m (by omega)]
    exact h.inside ham hm

/-!
# Shifting siblings
-/

/-- Sections of the entry that stand on one level; those that are to go down stand behind another section of it. -/
def OnLevel (a stop level : Nat) (s : Int) (p : Page) (ids : List Nat) : Prop :=
  ids.Nodup ∧ forall i, i ∈ ids ->
    exists n, p.order[n]? = some i ∧ (a < n ∧ n < stop) ∧ p.levelAt n = level ∧ (s = 1 -> a + 1 < n)

/-- Sections on one level are shifted one after the other, each without the ones that are still to come. -/
theorem shiftAll {level : Nat} (h : EntryAt a stop p) (heven : Even a stop p)
    (hs : s = -1 ∧ 3 < level ∨ s = 1 ∧ level = 3) (hids : OnLevel a stop level s p ids)
    (hq : Levels.shiftAll p ids s = .ok q) : ChangesBelow a stop p q ∧ Even a stop q := by
  have hrun := of_foldlM_eq_ok
    (motive := fun ids r => ChangesBelow a stop p r ∧ Even a stop r ∧ OnLevel a stop level s r ids) ?_
    ⟨.refl h, heven, hids⟩ hq
  · exact ⟨hrun.1, hrun.2.1⟩
  rintro i ids r r' ⟨hchanges, heven, hnodup, hplaced⟩ hstep
  have hentry := hchanges.entryAt h
  rcases List.nodup_cons.mp hnodup with ⟨hi, hnodup⟩
  rcases hplaced i List.mem_cons_self with ⟨n, hn, hin, hlevel, hbehind⟩
  rcases hentry.shiftLevels hn hin (by omega) hstep with ⟨hchange, d, hd, hshifted⟩
  refine ⟨hchanges.trans hchange, fun k hak hk => ?_, hnodup, fun j hj => ?_⟩
  · refine hshifted.stepsAt hd ?_ (heven k hak hk)
    rcases hs with ⟨hs, _⟩ | ⟨hs, hthree⟩
    · exact Or.inl hs
    · have hbefore := hentry.inside (n := n - 1) (by have := hbehind hs; omega) (by omega)
      exact Or.inr ⟨hs, by omega⟩
  · rcases hplaced j (List.mem_cons_of_mem i hj) with ⟨m, hm, hin', hlevel', hbehind'⟩
    refine ⟨m, by rwa [hchange.order_eq], hin', ?_, hbehind'⟩
    rw [hshifted.outside m, hlevel']
    refine Classical.byContradiction fun hnot => ?_
    rcases Nat.lt_or_eq_of_le (show n ≤ m by omega) with hnm | rfl
    · have := hd.deeper m hnm (by omega)
      omega
    · cases hn.symm.trans hm
      exact hi hj

/-!
# Raising what closes the entry
-/

theorem raise {level : Nat} (h : EntryAt a stop p) (hdeep : 2 < level) (hi : p.order[n]? = some i)
    (hn : a < n ∧ n < stop) (hcloses : Closes c p n) (hsettled : Settled c p) (hq : Levels.raise p i level = .ok q) :
    ChangesBelow a stop p q ∧ Settled c q := by
  unfold Levels.raise at hq
  split at hq
  · rename_i hlt
    have hlevel := levelAt_eq hi
    rcases h.shiftLevels hi hn (by omega) hq with ⟨hchange, d, hd, hshifted⟩
    refine ⟨hchange, fun k => ?_⟩
    rcases hshifted.stepsOrCloses hd hcloses (by omega) (hsettled k) with hstep | ⟨b, hb, hbelow⟩
    · exact Or.inl hstep
    · exact Or.inr ⟨b, hb.congr hchange.toSameButLevels, hbelow⟩
  · cases hq
    exact ⟨.refl h, hsettled⟩

theorem mem_bottomSections (hi : i ∈ bottomSections c p ids) :
    (exists j, j ∈ ids ∧ i ∈ p.subtree j) ∧ c.settings.bottomSections.contains (p.strippedHeader i) = true := by
  rcases List.mem_filter.mp hi with ⟨hmem, hbottom⟩
  exact ⟨List.mem_flatMap.mp hmem, hbottom⟩

theorem raiseBottom {level : Nat} (h : EntryAt a stop p) (hdeep : 2 < level)
    (hids : forall j, j ∈ ids -> forall i, i ∈ p.subtree j -> StandsIn a stop p i)
    (hsettled : Settled c p) (hq : Levels.raiseBottom c p ids level = .ok q) :
    ChangesBelow a stop p q ∧ Settled c q := by
  have hrun := of_foldlM_eq_ok
    (motive := fun bottom r => ChangesBelow a stop p r ∧ Settled c r ∧
      forall i, i ∈ bottom -> exists n, p.order[n]? = some i ∧ (a < n ∧ n < stop) ∧ Closes c p n) ?_
    ⟨.refl h, hsettled, ?_⟩ hq
  · exact ⟨hrun.1, hrun.2.1⟩
  · rintro i bottom r r' ⟨hchanges, hsettled, hbottom⟩ hstep
    rcases hbottom i List.mem_cons_self with ⟨n, hi, hn, hcloses⟩
    rw [← hchanges.order_eq] at hi
    rcases (hchanges.entryAt h).raise hdeep hi hn (hcloses.congr hchanges.toSameButLevels) hsettled hstep with
      ⟨hchange, hsettled⟩
    exact ⟨hchanges.trans hchange, hsettled, fun j hj => hbottom j (List.mem_cons_of_mem i hj)⟩
  · intro i hi
    rcases mem_bottomSections hi with ⟨⟨j, hj, hsub⟩, hbottom⟩
    rcases hids j hj i hsub with ⟨n, hn, hin⟩
    exact ⟨n, hn, hin, i, hn, hbottom⟩

/-!
# Arranging the entry
-/

theorem releaseEtymology (h : EntryAt a stop p) (heven : Even a stop p) (hsettled : Settled c p)
    (hl : p.order[a]? = some language) (hm : p.order[m]? = some etymology) (hin : a < m ∧ m < stop)
    (hq : Levels.releaseEtymology c p language etymology = .ok q) : ChangesBelow a stop p q ∧ Settled c q := by
  rcases exists_of_bind_eq_ok hq with ⟨r, hr, hq⟩
  have hdeep := h.inside hin.1 hin.2
  have hids : OnLevel a stop (p.levelAt m + 1) (-1) p (p.children etymology) := by
    refine ⟨h.wellFormed.nodup_children etymology, fun i hi => ?_⟩
    rcases h.standsIn_below hm hin (h.wellFormed.mem_descendants_of_child hi List.mem_cons_self) with ⟨n, hn, hin'⟩
    refine ⟨n, hn, hin', ?_, nofun⟩
    rw [levelAt_eq hn, levelAt_eq hm]
    exact h.wellFormed.level_of_stepsAt (h.wellFormed.mem_children_iff.mp hi) hm (heven m (by omega) hin.2)
  rcases h.shiftAll heven (Or.inl ⟨rfl, by omega⟩) hids hr with ⟨hchanges, heven'⟩
  have hentry := hchanges.entryAt h
  have hbottom : forall j, j ∈ r.children language -> forall i, i ∈ r.subtree j -> StandsIn a stop r i := by
    intro j hj i hi
    apply hentry.standsIn _ (hentry.wellFormed.mem_descendants_of_child hj hi)
    rwa [hchanges.order_eq]
  rcases hentry.raiseBottom (by decide) hbottom (h.settled hchanges heven' hsettled) hq with ⟨hrest, hdone⟩
  exact ⟨hchanges.trans hrest, hdone⟩

theorem fillEtymologies {first : Nat} {etymologies : List Nat} (h : EntryAt a stop p) (heven : Even a stop p)
    (hsettled : Settled c p) (hl : p.order[a]? = some language) (hfirst : first ∈ etymologies)
    (hbelow : forall i, i ∈ etymologies -> i ∈ p.descendants language)
    (hq : Levels.fillEtymologies c p language first etymologies = .ok q) : ChangesBelow a stop p q ∧ Settled c q := by
  rcases exists_of_bind_eq_ok hq with ⟨r, hr, hq⟩
  have hplace : forall {n i}, p.order[n]? = some i -> (p.position? i).getD 0 = n := by
    intro n i hn
    rw [h.wellFormed.position?_eq_of_place hn, Option.getD_some]
  have hids : OnLevel a stop 3 1 p ((p.children language).filter fun i => !etymologies.contains i &&
      decide ((p.position? first).getD 0 ≤ (p.position? i).getD 0)) := by
    refine ⟨(h.wellFormed.nodup_children language).filter _, fun i hi => ?_⟩
    rcases List.mem_filter.mp hi with ⟨hchild, hbehind⟩
    rcases h.standsIn hl (h.wellFormed.mem_descendants_of_child hchild List.mem_cons_self) with ⟨n, hn, hin⟩
    rcases h.standsIn hl (hbelow first hfirst) with ⟨m, hm, hin'⟩
    refine ⟨n, hn, hin, ?_, fun _ => ?_⟩
    · rw [levelAt_eq hn, h.wellFormed.level_of_stepsAt (h.wellFormed.mem_children_iff.mp hchild) hl
        (heven a (Nat.le_refl a) h.reaches.lt), ← levelAt_eq hl, h.level_eq]
    · rw [Bool.and_eq_true, Bool.not_eq_true', decide_eq_true_eq, hplace hm, hplace hn] at hbehind
      have hne : m ≠ n := by
        rintro rfl
        cases hm.symm.trans hn
        rw [List.contains_iff_mem.mpr hfirst] at hbehind
        cases hbehind.1
      omega
  rcases h.shiftAll heven (Or.inr ⟨rfl, rfl⟩) hids hr with ⟨hchanges, heven'⟩
  have hrun := of_foldlM_eq_ok
    (motive := fun etymologies r => ChangesBelow a stop p r ∧ Settled c r ∧
      forall i, i ∈ etymologies -> i ∈ p.descendants language) ?_
    ⟨hchanges, h.settled hchanges heven' hsettled, hbelow⟩ hq
  · exact ⟨hrun.1, hrun.2.1⟩
  rintro i etymologies r r' ⟨hchanges, hsettled, hbelow⟩ hstep
  have hentry := hchanges.entryAt h
  rcases h.standsIn hl (hbelow i List.mem_cons_self) with ⟨m, hm, hin⟩
  rw [← hchanges.order_eq] at hm
  have hbottom : forall j, j ∈ r.children i -> forall k, k ∈ r.subtree j -> StandsIn a stop r k :=
    fun j hj k hk => hentry.standsIn_below hm hin (hentry.wellFormed.mem_descendants_of_child hj hk)
  rcases hentry.raiseBottom (by decide) hbottom hsettled hstep with ⟨hrest, hdone⟩
  exact ⟨hchanges.trans hrest, hdone, fun j hj => hbelow j (List.mem_cons_of_mem i hj)⟩

/-- What a language keeps is where it stands and what lies outside of its entry, whose steps were even before. -/
theorem arrangeLanguage (h : EntryAt a stop p) (heven : Even a stop p) (hsettled : Settled c p)
    (hl : p.order[a]? = some language) (hq : Levels.arrangeLanguage c p language = .ok q) :
    ChangesBelow a stop p q ∧ Settled c q := by
  unfold Levels.arrangeLanguage at hq
  split at hq
  · cases hq
    exact ⟨.refl h, hsettled⟩
  have hbelow : forall i, i ∈ p.findBelow language Marks.etymologyHeader -> i ∈ p.descendants language :=
    fun i hi => List.mem_of_mem_filter hi
  split at hq
  · cases hq
    exact ⟨.refl h, hsettled⟩
  · rename_i etymology hfound
    rw [hfound] at hbelow
    rcases h.standsIn hl (hbelow etymology List.mem_cons_self) with ⟨m, hm, hin⟩
    exact h.releaseEtymology heven hsettled hl hm hin hq
  · rename_i first rest _ hfound
    rw [hfound] at hbelow
    exact h.fillEtymologies heven hsettled hl List.mem_cons_self hbelow hq

end EntryAt

/-!
# Arranging all languages
-/

/-- The languages that are still to come stand on their level, and their entries have even steps. -/
structure Arranging (c : Config) (p : Page) (pending : List Nat) : Prop where
  wellFormed : p.WellFormed
  settled : Settled c p
  nodup : pending.Nodup
  pending : forall l, l ∈ pending -> exists n, p.order[n]? = some l ∧ p.levelAt n = 2 ∧
    forall stop, Reaches p.levelAt n stop -> Even n stop p

theorem Arranging.arrangeLanguage {rest : List Nat} (h : Arranging c p (language :: rest))
    (hq : Levels.arrangeLanguage c p language = .ok q) : Arranging c q rest := by
  rcases List.nodup_cons.mp h.nodup with ⟨hnot, hnodup⟩
  rcases h.pending language List.mem_cons_self with ⟨a, ha, htwo, heven⟩
  rcases exists_reaches_levelAt ha with ⟨stop, hreach⟩
  have hentry : EntryAt a stop p := ⟨h.wellFormed, htwo, hreach⟩
  rcases hentry.arrangeLanguage (heven stop hreach) h.settled ha hq with ⟨hchanges, hsettled⟩
  refine ⟨hchanges.wellFormed, hsettled, hnodup, fun l hl => ?_⟩
  rcases h.pending l (List.mem_cons_of_mem language hl) with ⟨n, hn, htwo', heven'⟩
  have hne : n ≠ a := by
    rintro rfl
    cases ha.symm.trans hn
    exact hnot hl
  have hplace : n < a ∨ stop ≤ n := by
    refine Classical.byContradiction fun hin => ?_
    have := hentry.inside (n := n) (by omega) (by omega)
    omega
  have hlevel := hchanges.outside n (by omega)
  refine ⟨n, by rwa [hchanges.order_eq], hlevel.trans htwo', fun stop' hreach' => ?_⟩
  -- The entries are apart, so that nothing has changed from the other language on to its end.
  have hapart : stop' ≤ a ∨ stop ≤ n := by
    refine Or.imp_left (fun hlt => Nat.le_of_not_lt fun hlt' => ?_) hplace
    have := hreach'.deeper a hlt hlt'
    have := hchanges.outside a (Or.inl (Nat.le_refl a))
    omega
  have hsame : forall k, n ≤ k -> k ≤ stop' -> q.levelAt k = p.levelAt k := by
    intro k hk hk'
    exact hchanges.outside k (by omega)
  have hreach'' : Reaches p.levelAt n stop' := by
    refine ⟨hreach'.lt, fun k hnk hk => ?_, ?_⟩
    · rw [← hsame n (Nat.le_refl n) (Nat.le_of_lt hreach'.lt), ← hsame k (Nat.le_of_lt hnk) (Nat.le_of_lt hk)]
      exact hreach'.deeper k hnk hk
    · rw [← hsame n (Nat.le_refl n) (Nat.le_of_lt hreach'.lt), ← hsame stop' (Nat.le_of_lt hreach'.lt) (Nat.le_refl _)]
      exact hreach'.ends
  intro k hnk hk
  have hstep := heven' stop' hreach'' k hnk hk
  unfold StepsAt at hstep ⊢
  rwa [hsame k hnk (Nat.le_of_lt hk), hsame (k + 1) (Nat.le_succ_of_le hnk) hk]

theorem wellFormed_of_shiftLevels (h : p.WellFormed) (hq : (p.shiftLevels i s).toExcept = .ok q) : q.WellFormed := by
  rw [page_of_toExcept hq]
  exact h.shiftLevels i s

theorem wellFormed_of_raise {level : Nat} (h : p.WellFormed) (hq : raise p i level = .ok q) : q.WellFormed := by
  unfold raise at hq
  split at hq
  · exact wellFormed_of_shiftLevels h hq
  · cases hq
    exact h

theorem wellFormed_of_adoptStray (h : p.WellFormed) (hq : adoptStray p i = .ok q) : q.WellFormed := by
  unfold adoptStray at hq
  split at hq
  · cases hq
    exact h
  · exact wellFormed_of_shiftLevels h hq

theorem wellFormed_of_raiseReferences (h : p.WellFormed) (hq : raiseReferences p = .ok q) : q.WellFormed := by
  unfold raiseReferences at hq
  split at hq
  · exact wellFormed_of_shiftLevels h hq
  · cases hq
    exact h

/-- No step of a page is greater than one. -/
structure Stepped (p : Page) : Prop where
  wellFormed : p.WellFormed
  stepsAt : forall n, StepsAt p.levelAt n

theorem stepped_normalizeLevels (h : p.WellFormed) : Stepped p.normalizeLevels := by
  rcases h.leveledTo_normalizeLevels with ⟨_, least, last, hleast, hleveled, hlast⟩
  exact ⟨h.normalizeLevels, h.normalizeLevels.stepsAt_of_equalLevels (hleveled.equalLevels h hleast hlast)⟩

theorem Stepped.shiftAll (h : Stepped p) (hids : forall i, i ∈ ids -> i ∈ p.order) (hq : shiftAll p ids (-1) = .ok q) :
    Stepped q ∧ q.order = p.order := by
  have hrun := of_foldlM_eq_ok
    (motive := fun ids r => (Stepped r ∧ r.order = p.order) ∧ forall i, i ∈ ids -> i ∈ p.order) ?_
    ⟨⟨h, rfl⟩, hids⟩ hq
  · exact hrun.1
  rintro i ids r r' ⟨⟨hr, horder⟩, hids⟩ hstep
  rcases exists_place (p := r) (horder ▸ hids i List.mem_cons_self) with ⟨n, hn⟩
  rcases exists_reaches_levelAt hn with ⟨d, hd⟩
  rcases hr.wellFormed.shifted hn hd hstep with ⟨hsame, hshifted⟩
  refine ⟨⟨⟨hsame.wellFormed, fun k => ?_⟩, hsame.order_eq.trans horder⟩,
    fun j hj => hids j (List.mem_cons_of_mem i hj)⟩
  exact hshifted.stepsAt hd (Or.inl rfl) (hr.stepsAt k)

theorem Stepped.arranging (h : Stepped p) : Arranging c p p.languages where
  wellFormed := h.wellFormed
  settled n := Or.inl (h.stepsAt n)
  nodup := h.wellFormed.nodup.filter _
  pending l hl := by
    rcases List.mem_filter.mp hl with ⟨horder, hlang⟩
    rcases exists_place horder with ⟨n, hn⟩
    exact ⟨n, hn, (levelAt_eq hn).trans (h.wellFormed.level_eq_two hlang), fun _ _ k _ _ => h.stepsAt k⟩

theorem settled_of_normalize (h : p.WellFormed) (hq : normalize c p = .ok q) : q.WellFormed ∧ Settled c q := by
  rcases exists_of_bind_eq_ok hq with ⟨p₁, hp₁, hq⟩
  have h₁ := of_foldlM_eq_ok (motive := fun _ => Page.WellFormed) (fun _ _ _ _ hr => wellFormed_of_adoptStray hr)
    h.normalizeLevels hp₁
  rcases exists_of_bind_eq_ok hq with ⟨p₂, hp₂, hq⟩
  have h₂ := wellFormed_of_raiseReferences h₁ hp₂
  rcases exists_of_bind_eq_ok hq with ⟨p₃, hp₃, hq⟩
  have h₃ := of_foldlM_eq_ok (motive := fun _ => Page.WellFormed) (fun _ _ _ _ hr => wellFormed_of_raise hr) h₂ hp₃
  rcases exists_of_bind_eq_ok hq with ⟨p₄, hp₄, hq⟩
  have h₄ : Stepped p₄ := by
    refine of_foldlM_eq_ok (motive := fun _ => Stepped) (fun i _ r r' hr hstep => ?_) (stepped_normalizeLevels h₃) hp₄
    exact (hr.shiftAll (fun j hj => (hr.wellFormed.parent_spec (hr.wellFormed.mem_children_iff.mp hj)).1) hstep).1
  have hend := of_foldlM_eq_ok (motive := fun pending r => Arranging c r pending)
    (fun _ _ _ _ hr hstep => hr.arrangeLanguage hstep) h₄.arranging hq
  exact ⟨hend.wellFormed, hend.settled⟩

/-- Only below a section that closes an entry may a section stand more than one level below its parent. -/
theorem level_of_parent?_of_normalize (h : p.WellFormed) (hq : normalize c p = .ok q) {i j : Nat}
    (hp : q.parent? i = some j) :
    q.level i = q.level j + 1 ∨
      exists b, c.settings.bottomSections.contains (q.strippedHeader b) = true ∧ i ∈ q.descendants b := by
  rcases settled_of_normalize h hq with ⟨hwell, hsettled⟩
  rcases exists_place (hwell.parent_spec hp).2.1 with ⟨m, hm⟩
  rcases hwell.level_of_stepsOrCloses hp hm (hsettled m) with heq | ⟨n, k, ⟨b, hb, hbottom⟩, hi, hbelow⟩
  · exact Or.inl heq
  · exact Or.inr ⟨b, hbottom, (hwell.mem_descendants_iff_below hb hi).mpr hbelow⟩

end Levels

/-!
# The rule
-/

namespace Rule

open Levels

/-- Where the rule succeeds on a page with a language, every section of the page that it ends with stands one level below
its parent, unless it lies below a section that closes an entry. -/
theorem levels_follow_tree {x : Context} {t : Text} {p : Page} {o : Option Outcome} (hlegacy : x.legacy = false)
    (hread : x.read t = .ok p) (hlanguages : p.languages ≠ []) (hrun : levels.run x t = .ok o) :
    exists q, normalize x.config p = .ok q ∧ o = Outcome.ofPage? t q "normalizando niveles de títulos" ∧
      forall i j, q.parent? i = some j ->
        q.level i = q.level j + 1 ∨
          exists b, x.config.settings.bottomSections.contains (q.strippedHeader b) = true ∧ i ∈ q.descendants b := by
  have hwell : p.WellFormed := Page.wellFormed_read hread
  have hpage := (Context.onCurrentPage_eq hlegacy hread _).symm.trans hrun
  rw [if_neg (by simpa using hlanguages)] at hpage
  rcases exists_of_bind_eq_ok hpage with ⟨q, hq, ho⟩
  cases ho
  exact ⟨q, hq, rfl, fun i j => level_of_parent?_of_normalize hwell hq⟩

/-- Translations stand below a section of their own, and what follows them is as deep. -/
def entryWithDeepTranslations : Text :=
  "==\x7b\x7blengua|es\x7d\x7d==\n===Etimología===\n===A===\n====X====\n=====Traducciones=====\n=====C====="

theorem levels_follow_tree_entryWithDeepTranslations :
    exists x p o, x.legacy = false ∧ x.read entryWithDeepTranslations = .ok p ∧ p.languages ≠ [] ∧
      levels.run x entryWithDeepTranslations = .ok o ∧
      exists q, normalize x.config p = .ok q ∧
        o = Outcome.ofPage? entryWithDeepTranslations q "normalizando niveles de títulos" ∧
        forall i j, q.parent? i = some j ->
          q.level i = q.level j + 1 ∨
            exists b, x.config.settings.bottomSections.contains (q.strippedHeader b) = true ∧ i ∈ q.descendants b := by
  have hread : (Context.read ⟨.builtin, "t", false⟩ entryWithDeepTranslations).map Page.languages = .ok [0] := by
    decide +kernel
  have hrun : (levels.run ⟨.builtin, "t", false⟩ entryWithDeepTranslations).map Option.isSome = .ok true := by
    decide +kernel
  rcases exists_of_map_eq_ok hread with ⟨p, hp, hlanguages⟩
  rcases exists_of_map_eq_ok hrun with ⟨o, ho, _⟩
  have hsome : p.languages ≠ [] := by simp [hlanguages]
  exact ⟨⟨.builtin, "t", false⟩, p, o, rfl, hp, hsome, ho, levels_follow_tree rfl hp hsome ho⟩

/-- Not every page that the rule ends with has each section one level below its parent. -/
theorem not_forall_level_of_parent? :
    ¬ forall (x : Context) (t : Text) (p q : Page), x.legacy = false -> x.read t = .ok p -> p.languages ≠ [] ->
      normalize x.config p = .ok q -> forall i j, q.parent? i = some j -> q.level i = q.level j + 1 := by
  intro h
  have hfacts : ((Context.read ⟨.builtin, "t", false⟩ entryWithDeepTranslations) >>= fun p =>
      (normalize .builtin p).map fun q => (p.languages, q.parent? 5, q.level 5, q.level 4)) =
        .ok ([0], some 4, 5, 3) := by
    decide +kernel
  rcases exists_of_bind_eq_ok hfacts with ⟨p, hp, hfacts⟩
  rcases exists_of_map_eq_ok hfacts with ⟨q, hq, hfacts⟩
  simp only [Prod.mk.injEq] at hfacts
  have hlevel := h ⟨.builtin, "t", false⟩ entryWithDeepTranslations p q rfl hp (by simp [hfacts.1]) hq 5 4 hfacts.2.1
  rw [hfacts.2.2.1, hfacts.2.2.2] at hlevel
  cases hlevel

end Rule
end WikiEntry
