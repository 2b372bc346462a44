import Mathlib.Order.Bounds.Basic
import Mathlib.Order.Nat
import WikiEntry.Proofs.Pattern.Matched
import WikiEntry.Proofs.Text.Occurrences
import WikiEntry.Proofs.Text.Variants
import WikiEntry.Region.Union

/-!
# Places that regions cover

Merging changes which regions there are, but not which places they cover.  A comment and an element both begin with an
angle bracket, so that a text without any hides nothing.

# Looking past hidden regions

The search goes on behind the end of each occurrence that begins in a hidden region, so that it meets the occurrences
that a reading from the left without overlaps meets, and answers the first of them that begins outside.  An occurrence
outside is passed by if one that was met before reaches into it.  So the answer is the first occurrence outside just if
this one is not overlapped in that way, which it never is if the target cannot overlap itself.
-/

namespace WikiEntry
namespace Region

/-!
# Merging
-/

theorem holds_iff {s : Span} {place : Nat} : s.holds place = true <-> s.start ≤ place ∧ place < s.stop := by
  rw [Span.holds, Bool.and_eq_true, decide_eq_true_eq, decide_eq_true_eq]

/-- Of two regions that overlap, the second beginning later, the union covers what either covers. -/
theorem holds_merged {last s : Span} (hstart : last.start ≤ s.start) (hoverlap : s.start < last.stop) (place : Nat) :
    Span.holds ⟨last.start, max last.stop s.stop⟩ place = (last.holds place || s.holds place) := by
  rw [Bool.eq_iff_iff, Bool.or_eq_true, holds_iff, holds_iff, holds_iff, lt_max_iff]
  constructor
  · rintro ⟨hfirst, hlast | hs⟩
    · exact Or.inl ⟨hfirst, hlast⟩
    · by_cases hinside : place < last.stop
      · exact Or.inl ⟨hfirst, hinside⟩
      · exact Or.inr ⟨hoverlap.le.trans (Nat.le_of_not_lt hinside), hs⟩
  · rintro (⟨hfirst, hlast⟩ | ⟨hfirst, hs⟩)
    · exact ⟨hfirst, Or.inl hlast⟩
    · exact ⟨hstart.trans hfirst, Or.inr hs⟩

theorem covers_mergeFrom {last : Span} {rest : List Span}
    (hsorted : (last :: rest).Pairwise fun a b => a.start ≤ b.start) (place : Nat) :
    covers (mergeFrom last rest) place = covers (last :: rest) place := by
  induction rest generalizing last with
  | nil => rfl
  | cons s rest ih =>
      rcases List.pairwise_cons.mp hsorted with ⟨hlast, hrest⟩
      rcases List.pairwise_cons.mp hrest with ⟨_, hbehind⟩
      have hstart := hlast s List.mem_cons_self
      rw [mergeFrom]
      split
      · rename_i hoverlap
        have hmerged : ((⟨last.start, max last.stop s.stop⟩ : Span) :: rest).Pairwise fun a b => a.start ≤ b.start :=
          List.pairwise_cons.mpr ⟨fun u hu => hlast u (List.mem_cons_of_mem s hu), hbehind⟩
        rw [ih hmerged, covers, covers, List.any_cons, List.any_cons, List.any_cons,
          holds_merged hstart hoverlap, Bool.or_assoc]
      · have := ih hrest
        rw [covers] at this ⊢
        rw [List.any_cons, this]
        rfl

theorem before_trans (a b c : Span) (hab : before a b = true) (hbc : before b c = true) : before a c = true := by
  simp only [before, Bool.or_eq_true, Bool.and_eq_true, decide_eq_true_eq, beq_iff_eq] at hab hbc ⊢
  omega

theorem before_total (a b : Span) : (before a b || before b a) = true := by
  simp only [before, Bool.or_eq_true, Bool.and_eq_true, decide_eq_true_eq, beq_iff_eq]
  omega

theorem start_le_of_before {a b : Span} (h : before a b = true) : a.start ≤ b.start := by
  simp only [before, Bool.or_eq_true, Bool.and_eq_true, decide_eq_true_eq, beq_iff_eq] at h
  omega

/-- Merged regions cover just the places that the regions of the lists cover. -/
theorem covers_combine (lists : List (List Span)) (place : Nat) :
    covers (combine lists) place = lists.any fun regions => covers regions place := by
  have hsorted := (List.pairwise_mergeSort before_trans before_total lists.flatten).imp start_le_of_before
  have hsame : covers (lists.flatten.mergeSort before) place = covers lists.flatten place :=
    (List.mergeSort_perm lists.flatten before).any_eq
  have hlists : covers lists.flatten place = lists.any fun regions => covers regions place := List.any_flatten
  rw [← hlists, ← hsame, combine]
  cases hregions : lists.flatten.mergeSort before with
  | nil => rfl
  | cons s rest =>
      rw [hregions] at hsorted
      exact covers_mergeFrom hsorted place

theorem covers_hidden (t : Text) (place : Nat) :
    covers (hidden t) place = (covers (comments t) place || covers (elements .nowiki t) place) := by
  rw [hidden, covers_combine, List.any_cons, List.any_cons, List.any_nil, Bool.or_false]

/-!
# Texts that hide nothing
-/

theorem comments_eq_nil {t : Text} (ht : '<' ∉ t) : comments t = [] := by
  have hfind : t.find? "<!--" = none := by
    rw [Option.eq_none_iff_forall_ne_some]
    intro n hn
    have hstands := (Text.find?_eq_some_iff.mp hn).1
    exact ht (List.mem_of_getElem? ((Text.startsWith_drop_cons _ _ _ _).mp hstands).1)
  rw [comments, flat, flatFrom, Text.splitOnce?, hfind]
  rfl

/-- A tag begins with an angle bracket. -/
theorem eq_cons_of_reads_opening {name w : Text} {s s' : ReadState}
    (h : Pattern.Reads (TagPattern.ofName name).opening s w s') : exists r, w = '<' :: r := by
  rcases h.seq_inv with ⟨w, _, _, rfl, h, _⟩
  rcases h.seq_inv with ⟨w, _, _, rfl, h, _⟩
  rcases h.seq_inv with ⟨w, _, _, rfl, h, _⟩
  rcases h.seq_inv with ⟨w, _, _, rfl, h, _⟩
  rcases h.one_inv with ⟨ch, rfl, hch, _⟩
  have heq : ch = '<' := CharSet.eq_of_holds_anyCase (by decide) (by decide) (by decide) hch
  rw [heq]
  exact ⟨_, rfl⟩

theorem elements_eq_nil {t : Text} (ht : '<' ∉ t) (name : Text) : elements (.ofName name) t = [] := by
  have hfind : (TagPattern.ofName name).opening.findFrom? t 0 = none := by
    rw [Option.eq_none_iff_forall_ne_some]
    intro m hm
    rcases Pattern.matched_of_find? (t := t) hm with ⟨w, s, hm⟩
    rcases eq_cons_of_reads_opening hm.reads with ⟨r, rfl⟩
    have hdrop : '<' ∈ t.drop m.start := by
      rw [hm.rest_eq]
      exact List.mem_cons_self
    exact ht (List.mem_of_mem_drop hdrop)
  rw [elements, elementsFrom, hfind]

theorem hidden_eq_nil {t : Text} (ht : '<' ∉ t) : hidden t = [] := by
  rw [hidden, comments_eq_nil ht, TagPattern.nowiki, elements_eq_nil ht]
  simp [combine, mergeSorted]

section Outside

variable {t target : Text} {start place : Nat}

/-!
# Least answers
-/

/-- The answer is the least of the places, and there is none exactly if there are no places. -/
def AnswersLeast (answer : Option Nat) (places : Set Nat) : Prop :=
  (forall place, answer = some place <-> IsLeast places place) ∧ (answer = none <-> places = ∅)

theorem exists_isLeast {places : Set Nat} (h : place ∈ places) : exists least, IsLeast places least := by
  classical
  exact ⟨_, Nat.isLeast_find ⟨place, h⟩⟩

/-- Places have a least one unless there are none. -/
theorem answersLeast_of {answer : Option Nat} {places : Set Nat}
    (hmem : forall place, answer = some place -> place ∈ places)
    (hleast : forall place, IsLeast places place -> answer = some place) : AnswersLeast answer places := by
  refine ⟨fun place => ⟨fun hanswer => ?_, hleast place⟩, fun hanswer => ?_, fun hempty => ?_⟩
  · rcases exists_isLeast (hmem place hanswer) with ⟨least, h⟩
    rwa [Option.some.inj (hanswer.symm.trans (hleast least h))]
  · refine Set.eq_empty_iff_forall_notMem.mpr fun place hplace => ?_
    rcases exists_isLeast hplace with ⟨least, h⟩
    rw [hleast least h] at hanswer
    cases hanswer
  · refine Option.eq_none_iff_forall_ne_some.mpr fun place hanswer => ?_
    exact Set.notMem_empty place (hempty ▸ hmem place hanswer)

/-!
# Occurrences without overlaps
-/

def occurrencesFrom (t target : Text) (start : Nat) : Set Nat :=
  {place | start ≤ place ∧ Text.startsWith (t.drop place) target = true}

/-- A search that looks past nothing answers the first occurrence. -/
theorem findFrom?_answersLeast (t : Text) (start : Nat) (htarget : target ≠ []) :
    AnswersLeast (t.findFrom? target start) (occurrencesFrom t target start) := by
  refine answersLeast_of (fun place h => ?_) fun place h => ?_
  · rcases (Text.findFrom?_eq_some_iff htarget).mp h with ⟨hle, hstands, _⟩
    exact ⟨hle, hstands⟩
  · refine (Text.findFrom?_eq_some_iff htarget).mpr ⟨h.1.1, h.1.2, fun other hstart hlt => ?_⟩
    exact Bool.eq_false_iff.mpr fun hother => absurd hlt (Nat.not_lt.mpr (h.2 ⟨hstart, hother⟩))

/-- The occurrences that are met from `start` on: the first one, and those that are met from its end on. -/
inductive Met (t target : Text) : (start place : Nat) -> Prop where
  | first {start place : Nat} (hfirst : IsLeast (occurrencesFrom t target start) place) : Met t target start place
  | behind {start first place : Nat} (hfirst : IsLeast (occurrencesFrom t target start) first)
      (hbehind : Met t target (first + target.length) place) : Met t target start place

theorem met_iff {first : Nat} (hfirst : IsLeast (occurrencesFrom t target start) first) :
    Met t target start place <-> place = first ∨ Met t target (first + target.length) place := by
  constructor
  · rintro (h | ⟨h, hbehind⟩)
    · exact Or.inl (h.unique hfirst)
    · rw [h.unique hfirst] at hbehind
      exact Or.inr hbehind
  · rintro (rfl | hbehind)
    · exact .first hfirst
    · exact .behind hfirst hbehind

theorem Met.mem_occurrencesFrom (h : Met t target start place) : place ∈ occurrencesFrom t target start := by
  induction h with
  | first hfirst => exact hfirst.1
  | behind hfirst _ ih => exact ⟨hfirst.1.1.trans ((Nat.le_add_right _ _).trans ih.1), ih.2⟩

/-- What is met does not overlap. -/
theorem Met.apart {earlier : Nat} (hearlier : Met t target start earlier) (h : Met t target start place)
    (hlt : earlier < place) : earlier + target.length ≤ place := by
  induction hearlier with
  | @first start first hfirst =>
      rcases (met_iff hfirst).mp h with rfl | hbehind
      · exact absurd hlt (Nat.lt_irrefl _)
      · exact hbehind.mem_occurrencesFrom.1
  | @behind start first earlier hfirst hmet ih =>
      rcases (met_iff hfirst).mp h with rfl | hbehind
      · have hle := (Nat.le_add_right _ _).trans hmet.mem_occurrencesFrom.1
        exact absurd hlt (Nat.not_lt.mpr hle)
      · exact ih hbehind hlt

/-- An occurrence that is not met is overlapped by one that is met before it. -/
theorem met_or_overlapped (htarget : target ≠ []) (h : place ∈ occurrencesFrom t target start) :
    Met t target start place ∨
      exists earlier, Met t target start earlier ∧ earlier < place ∧ place < earlier + target.length := by
  -- Behind the end of what is met first, the way to the place is shorter.
  induction hdistance : place - start using Nat.strongRecOn generalizing start with
  | ind distance ih =>
      have hlength := List.length_pos_of_ne_nil htarget
      rcases exists_isLeast h with ⟨first, hfirst⟩
      have hle : start ≤ first := hfirst.1.1
      rcases (hfirst.2 h).eq_or_lt with rfl | hlt
      · exact Or.inl (.first hfirst)
      by_cases hinside : place < first + target.length
      · exact Or.inr ⟨first, .first hfirst, hlt, hinside⟩
      · have hbehind : place ∈ occurrencesFrom t target (first + target.length) := ⟨Nat.le_of_not_lt hinside, h.2⟩
        rcases ih (place - (first + target.length)) (by omega) hbehind rfl with hmet | ⟨earlier, hmet, hover⟩
        · exact Or.inl (.behind hfirst hmet)
        · exact Or.inr ⟨earlier, .behind hfirst hmet, hover⟩

/-!
# The search
-/

/-- Looking past regions, the search answers the first occurrence outside among those that it meets. -/
theorem findOutsideFrom?_answersLeast (regions : List Span) (htarget : target ≠ []) {rounds : Nat}
    (hrounds : t.length < rounds + start) :
    AnswersLeast (findOutsideFrom? regions t target rounds start)
      {place | Met t target start place ∧ covers regions place = false} := by
  have hlength := List.length_pos_of_ne_nil htarget
  -- Every round begins behind the last one, so that the rounds last to the end of the text.
  induction rounds generalizing start with
  | zero =>
      refine answersLeast_of (fun place h => ?_) fun place h => ?_
      · cases h
      · have hoccurrence := h.1.1.mem_occurrencesFrom
        have hle := Text.le_length_of_startsWith_drop htarget hoccurrence.2
        have hstart := hoccurrence.1
        omega
  | succ rounds ih =>
      have hsearch := findFrom?_answersLeast t start htarget
      rw [findOutsideFrom?]
      cases hanswer : t.findFrom? target start with
      | none =>
          refine answersLeast_of (fun place h => ?_) fun place h => ?_
          · cases h
          · exact absurd h.1.1.mem_occurrencesFrom (hsearch.2.mp hanswer ▸ Set.notMem_empty place)
      | some first =>
          have hfirst := (hsearch.1 first).mp hanswer
          have hle : start ≤ first := hfirst.1.1
          dsimp only
          split
          · rename_i hcovers
            have hplaces : {place | Met t target start place ∧ covers regions place = false} =
                {place | Met t target (first + target.length) place ∧ covers regions place = false} := by
              refine Set.ext fun place => and_congr_left fun houtside => ?_
              rw [met_iff hfirst, or_iff_right]
              rintro rfl
              rw [hcovers] at houtside
              cases houtside
            rw [hplaces, Nat.max_eq_left hlength]
            exact ih (by omega)
          · rename_i hcovers
            have hleast : IsLeast {place | Met t target start place ∧ covers regions place = false} first :=
              ⟨⟨.first hfirst, Bool.eq_false_iff.mpr hcovers⟩, fun place h => hfirst.2 h.1.mem_occurrencesFrom⟩
            refine answersLeast_of (fun place h => ?_) fun place h => ?_
            · cases h
              exact hleast.1
            · rw [hleast.unique h]

/-- An occurrence at or after `start` that begins in no comment and in no unparsed element. -/
structure StandsOutside (t target : Text) (start place : Nat) : Prop where
  start_le : start ≤ place
  stands : Text.startsWith (t.drop place) target = true
  no_comment : forall s, s ∈ comments t -> ¬ (s.start ≤ place ∧ place < s.stop)
  no_nowiki : forall s, s ∈ elements .nowiki t -> ¬ (s.start ≤ place ∧ place < s.stop)

theorem covers_eq_false_iff {regions : List Span} :
    covers regions place = false <-> forall s, s ∈ regions -> ¬ (s.start ≤ place ∧ place < s.stop) := by
  simp only [covers, List.any_eq_false, holds_iff]

theorem standsOutside_iff : StandsOutside t target start place <->
    place ∈ occurrencesFrom t target start ∧ covers (hidden t) place = false := by
  rw [covers_hidden, Bool.or_eq_false_iff, covers_eq_false_iff, covers_eq_false_iff]
  exact ⟨fun h => ⟨⟨h.start_le, h.stands⟩, h.no_comment, h.no_nowiki⟩, fun h => ⟨h.1.1, h.1.2, h.2.1, h.2.2⟩⟩

/-- A target that does not begin again inside itself has no two occurrences that overlap. -/
theorem apart_of_stands {earlier : Nat} (hborder : forall n, 0 < n -> n < target.length -> ¬ target.drop n <+: target)
    (hearlier : Text.startsWith (t.drop earlier) target = true)
    (hstands : Text.startsWith (t.drop place) target = true) (hlt : earlier < place) :
    earlier + target.length ≤ place := by
  by_contra hover
  obtain ⟨n, rfl⟩ := Nat.exists_eq_add_of_lt hlt
  refine hborder (n + 1) (Nat.succ_pos n) (by omega) ?_
  have hbehind := (List.isPrefixOf_iff_prefix.mp hearlier).drop (n + 1)
  rw [List.drop_drop] at hbehind
  refine List.prefix_of_prefix_length_le hbehind (List.isPrefixOf_iff_prefix.mp hstands) ?_
  rw [List.length_drop]
  exact Nat.sub_le _ _

theorem findOutside?_answersLeast_met (t : Text) (start : Nat) (htarget : target ≠ []) :
    AnswersLeast (findOutside? t target start)
      {place | Met t target start place ∧ StandsOutside t target start place} := by
  have hplaces : {place | Met t target start place ∧ StandsOutside t target start place} =
      {place | Met t target start place ∧ covers (hidden t) place = false} := by
    refine Set.ext fun place => and_congr_right fun hmet => ?_
    rw [standsOutside_iff, and_iff_right hmet.mem_occurrencesFrom]
  rw [hplaces]
  exact findOutsideFrom?_answersLeast (hidden t) htarget (by omega)

/-- The search outside comments and unparsed text answers the first occurrence outside just if no occurrence that is met
before reaches into it, and in any case the first one outside among those that are met.  A target that does not begin
again inside itself is always found where it first stands outside. -/
theorem findOutside?_answersLeast_iff (t : Text) (start : Nat) (htarget : target ≠ []) :
    (AnswersLeast (findOutside? t target start) {place | StandsOutside t target start place} <->
      forall place, IsLeast {place | StandsOutside t target start place} place ->
        forall earlier, Met t target start earlier -> earlier < place -> earlier + target.length ≤ place) ∧
    AnswersLeast (findOutside? t target start) {place | Met t target start place ∧ StandsOutside t target start place} ∧
    ((forall n, 0 < n -> n < target.length -> ¬ target.drop n <+: target) ->
      AnswersLeast (findOutside? t target start) {place | StandsOutside t target start place}) := by
  have hmet := findOutside?_answersLeast_met t start htarget
  have hiff : AnswersLeast (findOutside? t target start) {place | StandsOutside t target start place} <->
      forall place, IsLeast {place | StandsOutside t target start place} place ->
        forall earlier, Met t target start earlier -> earlier < place -> earlier + target.length ≤ place := by
    constructor
    · intro h place hleast earlier hearlier hlt
      exact hearlier.apart ((hmet.1 place).mp ((h.1 place).mpr hleast)).1.1 hlt
    · intro h
      refine answersLeast_of (fun place hanswer => ((hmet.1 place).mp hanswer).1.2) fun place hleast => ?_
      have hplace : Met t target start place := by
        rcases met_or_overlapped htarget (standsOutside_iff.mp hleast.1).1 with hplace | ⟨earlier, hearlier, hlt, hover⟩
        · exact hplace
        · exact absurd (h place hleast earlier hearlier hlt) (Nat.not_le.mpr hover)
      exact (hmet.1 place).mpr ⟨⟨hplace, hleast.1⟩, fun other hother => hleast.2 hother.2⟩
  refine ⟨hiff, hmet, fun hborder => hiff.mpr fun place hleast earlier hearlier hlt => ?_⟩
  exact apart_of_stands hborder hearlier.mem_occurrencesFrom.2 hleast.1.stands hlt

/-!
# Two comments with brackets
-/

/-- The comment holds the two brackets, too. -/
def bracketsInComment : Text :=
  "<!-->>--> >>"

theorem findOutside?_answersLeast_iff_bracketsInComment :
    (">>" : Text) ≠ [] ∧
      AnswersLeast (findOutside? bracketsInComment ">>" 0) {place | StandsOutside bracketsInComment ">>" 0 place} := by
  have hne : (">>" : Text) ≠ [] := by decide +kernel
  have houtside : StandsOutside bracketsInComment ">>" 0 10 :=
    ⟨by decide, by decide +kernel, by decide +kernel, by decide +kernel⟩
  have hfirst : IsLeast (occurrencesFrom bracketsInComment ">>" 0) 4 :=
    ((findFrom?_answersLeast _ 0 hne).1 4).mp (by decide +kernel)
  have hsecond : IsLeast (occurrencesFrom bracketsInComment ">>" 6) 10 :=
    ((findFrom?_answersLeast _ 6 hne).1 10).mp (by decide +kernel)
  refine ⟨hne, (findOutside?_answersLeast_iff bracketsInComment 0 hne).1.mpr fun place hleast earlier hmet hlt => ?_⟩
  have hle : place ≤ 10 := hleast.2 houtside
  rcases (met_iff hfirst).mp hmet with rfl | hmet
  · have hnext : place ≠ 5 := by
      rintro rfl
      exact absurd hleast.1.stands (by decide +kernel)
    show 6 ≤ place
    omega
  · have hlast : 10 ≤ earlier := hsecond.2 hmet.mem_occurrencesFrom
    omega

/-- The first of the three brackets ends the comment. -/
def bracketsBehindComment : Text :=
  "<!---->>>"

/-- The search meets the bracket that ends the comment, goes on behind the next one, and misses the last two. -/
theorem not_forall_findOutside?_answersLeast :
    ¬ forall t target : Text, forall start, target ≠ [] -> start ≤ t.length ->
      AnswersLeast (findOutside? t target start) {place | StandsOutside t target start place} := by
  intro h
  have hne : (">>" : Text) ≠ [] := by decide +kernel
  have hfirst : IsLeast (occurrencesFrom bracketsBehindComment ">>" 0) 6 :=
    ((findFrom?_answersLeast _ 0 hne).1 6).mp (by decide +kernel)
  have hno : occurrencesFrom bracketsBehindComment ">>" 8 = ∅ :=
    (findFrom?_answersLeast _ 8 hne).2.mp (by decide +kernel)
  have hnone : findOutside? bracketsBehindComment ">>" 0 = none := by
    refine (findOutside?_answersLeast_met bracketsBehindComment 0 hne).2.mpr ?_
    refine Set.eq_empty_iff_forall_notMem.mpr fun place hplace => ?_
    rcases (met_iff hfirst).mp hplace.1 with rfl | hmet
    · exact hplace.2.no_comment ⟨0, 7⟩ (by decide +kernel) (by decide)
    · exact Set.notMem_empty place (hno ▸ hmet.mem_occurrencesFrom)
  have houtside : StandsOutside bracketsBehindComment ">>" 0 7 :=
    ⟨by decide, by decide +kernel, by decide +kernel, by decide +kernel⟩
  have hempty := (h bracketsBehindComment ">>" 0 hne (Nat.zero_le _)).2.mp hnone
  exact Set.notMem_empty 7 (hempty ▸ houtside)

end Outside

end Region
end WikiEntry
