import WikiEntry.Proofs.Page.Rearranged
import WikiEntry.Proofs.Page.Subtree
import WikiEntry.Proofs.Section.Comparison

/-!
# Sorted languages

Sorting the languages puts them in front, each with what lies below it, and everything else behind them.  The outline
is then derived anew, and what comes behind the last language may go below it.  But no language loses what it has, since
what lies below a language is deeper and is followed by the next language.  For the same reason a second sorting finds
the languages in order and changes nothing.

All of this is so for any comparison of names that is a total preorder.
-/

namespace WikiEntry
namespace Page

/-- The languages in their new order. -/
def sortedLanguages (collate : Text -> Text -> Ordering) (p : Page) : List Nat :=
  p.sortBy (Section.compareLanguagesBy collate) p.languages

/-- What belongs to no language. -/
def outsideLanguages (p : Page) : List Nat :=
  p.order.filter fun i => (p.languageOf? i).isNone

variable {collate : Text -> Text -> Ordering}

theorem perm_sortedLanguages (p : Page) : (p.sortedLanguages collate).Perm p.languages :=
  WellFormed.perm_sortBy _ p.languages

theorem pairwise_sortedLanguages [Std.TransCmp collate] (p : Page) :
    (p.sortedLanguages collate).Pairwise fun i j => p.inOrder (Section.compareLanguagesBy collate) i j = true :=
  pairwise_sortBy p.languages

/-- No language stands in front of a Spanish one, unless it is Spanish itself. -/
theorem pairwise_spanish_sortedLanguages [Std.TransCmp collate] (p : Page) :
    (p.sortedLanguages collate).Pairwise fun i j =>
      (p.get j).hasSpanishCode = true -> (p.get i).hasSpanishCode = true := by
  apply p.pairwise_sortedLanguages.imp
  intro i j hij hj
  cases hi : (p.get i).hasSpanishCode with
  | true => rfl
  | false =>
      have hgreater : Section.compareLanguagesBy collate (p.get i) (p.get j) = .gt := by
        have hswap : Section.compareLanguagesBy collate (p.get i) (p.get j) =
            (Section.compareLanguagesBy collate (p.get j) (p.get i)).swap := Std.OrientedCmp.eq_swap
        rw [hswap, Section.compareLanguagesBy_spanish collate hj hi]
        rfl
      rw [inOrder, hgreater] at hij
      cases hij

namespace WellFormed

open Outline

variable {p q : Page}

/-!
# Blocks on one level
-/

section Blocks

variable {n : Nat} {block : Nat -> List Nat}

/-- Where sections on one level stand with their blocks one after the other, each has its block below it, and the last
one takes what is deeper behind all blocks. -/
theorem flatMap_subtree_append (h : q.WellFormed) (front : List Nat) {heads rest : List Nat} (hne : heads ≠ [])
    (horder : q.order = front ++ (heads.flatMap (fun l => l :: block l) ++ rest))
    (hlevel : forall l, l ∈ heads -> q.level l = n)
    (hdeeper : forall l, l ∈ heads -> forall k, k ∈ block l -> n < q.level k) :
    heads.flatMap q.subtree ++ rest.dropWhile (fun k => n < q.level k) =
        heads.flatMap (fun l => l :: block l) ++ rest ∧
      forall l, l ∈ heads -> forall k, k ∈ block l -> k ∈ q.descendants l := by
  induction heads generalizing front with
  | nil => exact absurd rfl hne
  | cons l heads ih =>
      have hl : q.level l = n := hlevel l List.mem_cons_self
      have hblock : q.order = front ++ l :: (block l ++ (heads.flatMap (fun l => l :: block l) ++ rest)) := by
        rw [horder, List.flatMap_cons, List.append_assoc, List.cons_append]
      have hbelow := h.descendants_eq_append hblock
        (fun k hk => hl.symm ▸ hdeeper l List.mem_cons_self k hk)
      rw [hl] at hbelow
      have hhead : forall k, k ∈ block l -> k ∈ q.descendants l := by
        intro k hk
        rw [hbelow]
        exact List.mem_append_left _ hk
      -- Behind the last head stands `rest`, and behind any other one the next head, which is on its level.
      cases heads with
      | nil =>
          constructor
          · rw [List.flatMap_nil, List.nil_append] at hbelow
            simp only [List.flatMap_cons, List.flatMap_nil, List.append_nil, subtree, hbelow]
            rw [List.cons_append, List.append_assoc, List.takeWhile_append_dropWhile, List.cons_append]
          · intro m hm
            rw [List.mem_singleton.mp hm]
            exact hhead
      | cons m heads =>
          have hnext : q.level m = n := hlevel m (List.mem_cons_of_mem l List.mem_cons_self)
          have hsame : q.subtree l = l :: block l := by
            rw [List.flatMap_cons, List.cons_append, List.cons_append, List.takeWhile_cons_of_neg (by simp [hnext]),
              List.append_nil] at hbelow
            rw [subtree, hbelow]
          have hrest : q.order = (front ++ (l :: block l)) ++ ((m :: heads).flatMap (fun l => l :: block l) ++ rest) := by
            rw [hblock, List.append_assoc, List.cons_append]
          rcases ih _ (List.cons_ne_nil m heads) hrest (fun k hk => hlevel k (List.mem_cons_of_mem l hk))
            (fun k hk => hdeeper k (List.mem_cons_of_mem l hk)) with ⟨heq, hkeeps⟩
          constructor
          · rw [List.flatMap_cons, List.append_assoc, heq, hsame, ← List.append_assoc]
            rfl
          · intro k hk
            rcases List.mem_cons.mp hk with rfl | hk
            · exact hhead
            · exact hkeeps k hk

end Blocks

/-!
# The new order
-/

theorem isSome_languageOf? (h : p.WellFormed) {ids : List Nat} (hids : ids.Perm p.languages) {i : Nat}
    (hi : i ∈ p.order) : (p.languageOf? i).isSome = true <-> i ∈ ids.flatMap p.subtree := by
  rw [Option.isSome_iff_exists, List.mem_flatMap]
  constructor
  · rintro ⟨l, hl⟩
    rcases (h.languageOf?_eq_some_iff hi).mp hl with ⟨hmem, hsub⟩
    exact ⟨l, hids.mem_iff.mpr hmem, hsub⟩
  · rintro ⟨l, hmem, hsub⟩
    exact ⟨l, (h.languageOf?_eq_some_iff hi).mpr ⟨hids.mem_iff.mp hmem, hsub⟩⟩

/-- Behind the languages stands what belongs to none. -/
theorem outside_eq (h : p.WellFormed) {ids : List Nat} (hids : ids.Perm p.languages) :
    (p.order.filter fun i => !(ids.flatMap p.subtree).contains i && (p.languageOf? i).isNone) =
      p.outsideLanguages := by
  refine List.filter_congr fun i hi => ?_
  by_cases hsome : (p.languageOf? i).isSome = true
  · rw [Option.isNone_eq_false_iff.mpr hsome, Bool.and_false]
  · have hnot : i ∉ ids.flatMap p.subtree := fun hmem => hsome ((h.isSome_languageOf? hids hi).mpr hmem)
    have hcontains : (ids.flatMap p.subtree).contains i = false := by simpa using hnot
    rw [hcontains]
    rfl

/-- If a document begins with the languages, what follows them belongs to none. -/
theorem outsideLanguages_eq (h : p.WellFormed) {ids rest : List Nat} (hids : ids.Perm p.languages)
    (horder : p.order = ids.flatMap p.subtree ++ rest) : p.outsideLanguages = rest := by
  have hn := h.nodup
  rw [horder] at hn
  have hmem : forall i, i ∈ ids.flatMap p.subtree ++ rest -> i ∈ p.order := fun i hi => horder ▸ hi
  have hfront : (ids.flatMap p.subtree).filter (fun i => (p.languageOf? i).isNone) = [] := by
    refine List.filter_eq_nil_iff.mpr fun i hi hnone => ?_
    have hsome := (h.isSome_languageOf? hids (hmem i (List.mem_append_left _ hi))).mpr hi
    rw [Option.isNone_iff_eq_none.mp hnone] at hsome
    cases hsome
  have hback : rest.filter (fun i => (p.languageOf? i).isNone) = rest := by
    refine List.filter_eq_self.mpr fun i hi => ?_
    have hnot : i ∉ ids.flatMap p.subtree := fun hfront => (List.nodup_append.mp hn).2.2 i hfront i hi rfl
    cases hlang : p.languageOf? i with
    | none => rfl
    | some l =>
        have hsome : (p.languageOf? i).isSome = true := by rw [hlang]; rfl
        exact absurd ((h.isSome_languageOf? hids (hmem i (List.mem_append_right _ hi))).mp hsome) hnot
  rw [outsideLanguages, horder, List.filter_append, hfront, hback, List.nil_append]

theorem sortLanguagesBy_eq (h : p.WellFormed) :
    p.sortLanguagesBy collate = p.setOrder ((p.sortedLanguages collate).flatMap p.subtree ++ p.outsideLanguages) := by
  have houtside := h.outside_eq (perm_sortBy (p := p) (Section.compareLanguagesBy collate) p.languages)
  simp only [Page.sortLanguagesBy]
  rw [houtside]
  split
  · rename_i hsame
    rw [sortedLanguages, hsame, h.setOrder_order]
  · rfl

theorem level_of_mem_sortedLanguages (h : p.WellFormed) {l : Nat} (hl : l ∈ p.sortedLanguages collate) :
    p.level l = 2 :=
  h.level_eq_two (mem_languages.mp (p.perm_sortedLanguages.mem_iff.mp hl)).2

theorem filter_isLanguage_subtree (h : p.WellFormed) {l : Nat} (hl : p.isLanguage l = true) :
    (p.subtree l).filter p.isLanguage = [l] := by
  rw [subtree, List.filter_cons_of_pos hl, List.filter_eq_nil_iff.mpr]
  intro k hk hlang
  have hlt := h.level_lt_of_mem_descendants hk
  rw [h.level_eq_two hl, h.level_eq_two hlang] at hlt
  exact Nat.lt_irrefl 2 hlt

theorem filter_isLanguage_outside (h : p.WellFormed) : p.outsideLanguages.filter p.isLanguage = [] := by
  rw [List.filter_eq_nil_iff]
  intro i hi hlang
  rcases List.mem_filter.mp hi with ⟨horder, hnone⟩
  have hself := (h.languageOf?_eq_some_iff horder).mpr ⟨mem_languages.mpr ⟨horder, hlang⟩, List.mem_cons_self⟩
  rw [hself] at hnone
  cases hnone

/-- Only the order of the sections is another one. -/
theorem get_sortLanguagesBy (p : Page) : (p.sortLanguagesBy collate).get = p.get := by
  unfold get
  rw [(SameTexts.sortLanguagesBy collate p).sections]

theorem order_sortLanguagesBy (h : p.WellFormed) :
    (p.sortLanguagesBy collate).order = (p.sortedLanguages collate).flatMap p.subtree ++ p.outsideLanguages := by
  rw [h.sortLanguagesBy_eq]
  rfl

theorem languages_sortLanguagesBy (h : p.WellFormed) :
    (p.sortLanguagesBy collate).languages = p.sortedLanguages collate := by
  have hheads : forall ids : List Nat, (forall l, l ∈ ids -> p.isLanguage l = true) ->
      (ids.flatMap p.subtree).filter p.isLanguage = ids := by
    intro ids hids
    induction ids with
    | nil => rfl
    | cons l ids ih =>
        rw [List.flatMap_cons, List.filter_append, h.filter_isLanguage_subtree (hids l List.mem_cons_self),
          ih fun k hk => hids k (List.mem_cons_of_mem l hk)]
        rfl
  rw [h.sortLanguagesBy_eq]
  show ((p.sortedLanguages collate).flatMap p.subtree ++ p.outsideLanguages).filter p.isLanguage = _
  rw [List.filter_append, h.filter_isLanguage_outside, List.append_nil]
  exact hheads _ fun l hl => (mem_languages.mp (p.perm_sortedLanguages.mem_iff.mp hl)).2

/-- In the new order each language still has below it what it had, and only the last one may have more. -/
theorem subtrees_sortLanguagesBy (h : p.WellFormed) (collate : Text -> Text -> Ordering) :
    (exists rest, (p.sortLanguagesBy collate).order =
      (p.sortedLanguages collate).flatMap (p.sortLanguagesBy collate).subtree ++ rest) ∧
      forall l, l ∈ p.sortedLanguages collate -> forall k, k ∈ p.descendants l ->
        k ∈ (p.sortLanguagesBy collate).descendants l := by
  by_cases hnone : p.sortedLanguages collate = []
  · rw [hnone]
    exact ⟨⟨(p.sortLanguagesBy collate).order, rfl⟩, fun l hl => absurd hl List.not_mem_nil⟩
  · have hlevel : forall i, (p.sortLanguagesBy collate).level i = p.level i := by
      intro i
      rw [level, get_sortLanguagesBy]
      rfl
    have hdeeper : forall l, l ∈ p.sortedLanguages collate -> forall k, k ∈ p.descendants l ->
        2 < (p.sortLanguagesBy collate).level k := by
      intro l hl k hk
      rw [hlevel, ← h.level_of_mem_sortedLanguages hl]
      exact h.level_lt_of_mem_descendants hk
    rcases (h.sortLanguagesBy collate).1.flatMap_subtree_append [] hnone h.order_sortLanguagesBy
      (fun l hl => (hlevel l).trans (h.level_of_mem_sortedLanguages hl)) hdeeper with ⟨heq, hkeeps⟩
    exact ⟨⟨_, h.order_sortLanguagesBy.trans heq.symm⟩, hkeeps⟩

/-- A section that was taken out belongs to no language but itself. -/
theorem languageOf?_of_not_mem (h : p.WellFormed) {i : Nat} (hi : i ∉ p.order) :
    p.languageOf? i = if p.isLanguage i = true then some i else none := by
  rw [languageOf?, languageAbove?, h.parent?_of_not_mem hi]

theorem languageOf?_sortLanguagesBy (h : p.WellFormed) {i l : Nat} (hl : p.languageOf? i = some l) :
    (p.sortLanguagesBy collate).languageOf? i = some l := by
  rcases h.sortLanguagesBy collate with ⟨hsorted, hperm⟩
  by_cases hi : i ∈ p.order
  · rcases (h.languageOf?_eq_some_iff hi).mp hl with ⟨hmem, hsub⟩
    have hmem' : l ∈ p.sortedLanguages collate := p.perm_sortedLanguages.mem_iff.mpr hmem
    rw [hsorted.languageOf?_eq_some_iff (hperm.mem_iff.mpr hi), h.languages_sortLanguagesBy]
    constructor
    · exact hmem'
    · rcases List.mem_cons.mp hsub with rfl | hbelow
      · exact List.mem_cons_self
      · exact List.mem_cons_of_mem l ((h.subtrees_sortLanguagesBy collate).2 l hmem' i hbelow)
  · have hsame : (p.sortLanguagesBy collate).isLanguage i = p.isLanguage i := by
      rw [isLanguage, get_sortLanguagesBy]
      rfl
    rwa [hsorted.languageOf?_of_not_mem (mt hperm.mem_iff.mp hi), hsame, ← h.languageOf?_of_not_mem hi]

theorem sortLanguagesBy_sortLanguagesBy [Std.TransCmp collate] (h : p.WellFormed) :
    (p.sortLanguagesBy collate).sortLanguagesBy collate = p.sortLanguagesBy collate := by
  have hsorted := (h.sortLanguagesBy collate).1
  have hsame : (p.sortLanguagesBy collate).sortedLanguages collate = (p.sortLanguagesBy collate).languages := by
    apply sortBy_of_pairwise
    rw [h.languages_sortLanguagesBy]
    have hinOrder : (p.sortLanguagesBy collate).inOrder (Section.compareLanguagesBy collate) =
        p.inOrder (Section.compareLanguagesBy collate) := by
      unfold inOrder
      rw [get_sortLanguagesBy]
    rw [hinOrder]
    exact p.pairwise_sortedLanguages
  rcases (h.subtrees_sortLanguagesBy collate).1 with ⟨rest, horder⟩
  rw [← h.languages_sortLanguagesBy] at horder
  rw [hsorted.sortLanguagesBy_eq, hsame, hsorted.outsideLanguages_eq (List.Perm.refl _) horder, ← horder,
    hsorted.setOrder_order]

end WellFormed

/-!
# Reachable pages
-/

/-- What sorting the languages makes of a page. -/
structure LanguagesSorted (collate : Text -> Text -> Ordering) (p q : Page) : Prop where
  sections_eq : q.sections = p.sections
  perm_order : q.order.Perm p.order
  /-- Each language stands with what was below it, and behind the languages is what belonged to none. -/
  order_eq : q.order = q.languages.flatMap p.subtree ++ p.order.filter fun i => (p.languageOf? i).isNone
  perm_languages : q.languages.Perm p.languages
  sorted : q.languages.Pairwise fun i j => Section.compareLanguagesBy collate (p.get i) (p.get j) ≠ .gt
  /-- Languages that are in order already keep their order. -/
  stable : forall i j, [i, j].Sublist p.languages -> Section.compareLanguagesBy collate (p.get i) (p.get j) ≠ .gt ->
    [i, j].Sublist q.languages
  spanish_first : q.languages.Pairwise fun i j =>
    (p.get j).hasSpanishCode = true -> (p.get i).hasSpanishCode = true
  languageOf?_eq : forall i l, p.languageOf? i = some l -> q.languageOf? i = some l

/-- However names are compared, if by a total preorder, sorting the languages of a reachable page puts them in order with
what they have and leaves what is outside behind them, and doing it again changes nothing. -/
theorem Reachable.languagesSorted {p : Page} (h : p.Reachable) (collate : Text -> Text -> Ordering)
    [Std.TransCmp collate] :
    p.LanguagesSorted collate (p.sortLanguagesBy collate) ∧
      (p.sortLanguagesBy collate).sortLanguagesBy collate = p.sortLanguagesBy collate := by
  have hw := h.wellFormed
  constructor
  · constructor
    · exact (SameTexts.sortLanguagesBy collate p).sections
    · exact (hw.sortLanguagesBy collate).2
    · rw [hw.languages_sortLanguagesBy]
      exact hw.order_sortLanguagesBy
    · rw [hw.languages_sortLanguagesBy]
      exact p.perm_sortedLanguages
    · rw [hw.languages_sortLanguagesBy]
      exact p.pairwise_sortedLanguages.imp fun {i j} hij => by simpa [inOrder] using hij
    · intro i j hsublist hij
      rw [hw.languages_sortLanguagesBy]
      exact sublist_sortBy hsublist (by simpa [inOrder] using hij)
    · rw [hw.languages_sortLanguagesBy]
      exact p.pairwise_spanish_sortedLanguages
    · intro i l hl
      exact hw.languageOf?_sortLanguagesBy hl
  · exact hw.sortLanguagesBy_sortLanguagesBy

/-- A section of level 3 in front of all languages, French with a section below it, and Spanish. -/
def entryWithSpanishLast : Page where
  title := "casa"
  sections := [⟨⟨3, "Uso", .tight, [], []⟩, {}, none⟩,
    ⟨⟨2, "\x7b\x7blengua|fr\x7d\x7d", .tight, [], []⟩, {}, some ⟨⟨"lengua", [.positional 1 "fr"]⟩, .plain, "francés"⟩⟩,
    ⟨⟨3, "Etimología", .tight, [], []⟩, {}, none⟩,
    ⟨⟨2, "\x7b\x7blengua|ES\x7d\x7d", .tight, [], []⟩, {}, some ⟨⟨"lengua", [.positional 1 "ES"]⟩, .plain, "español"⟩⟩]
  order := [0, 1, 2, 3]
  outline := .ofList [(0, 3), (1, 2), (2, 3), (3, 2)]

theorem reachable_entryWithSpanishLast : entryWithSpanishLast.Reachable := by
  have hfirst := (Reachable.new "casa").create (s := entryWithSpanishLast.get 0) (by decide)
  have hsecond := hfirst.create (s := entryWithSpanishLast.get 1) (by decide)
  have hthird := hsecond.create (s := entryWithSpanishLast.get 2) (by decide)
  have hfourth := hthird.create (s := entryWithSpanishLast.get 3) (by decide)
  exact .change (.appendSections [0, 1, 2, 3]) hfourth ⟨by decide, nofun⟩ rfl

theorem languagesSorted_entryWithSpanishLast :
    entryWithSpanishLast.Reachable ∧ entryWithSpanishLast.languages = [1, 3] ∧
      entryWithSpanishLast.LanguagesSorted Text.collate entryWithSpanishLast.sortLanguages ∧
      entryWithSpanishLast.sortLanguages.sortLanguages = entryWithSpanishLast.sortLanguages :=
  ⟨reachable_entryWithSpanishLast, by decide, reachable_entryWithSpanishLast.languagesSorted Text.collate⟩

end Page
end WikiEntry
