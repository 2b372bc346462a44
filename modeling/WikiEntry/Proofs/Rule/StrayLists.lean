import WikiEntry.Proofs.Footnote.TakenTags
import WikiEntry.Proofs.Page.Reachable
import WikiEntry.Proofs.Rule.Outcome

/-!
# Lists of footnotes in other sections

The rule takes lists of footnotes from all sections but the references: first the templates, and of what they leave then the
tags without attributes.  Not all of these close themselves, so that a list is taken by half: its closing tag is left over.
-/

namespace WikiEntry

theorem Section.intro_setIntro (s : Section) (t : Text) : (s.setIntro t).intro = t.trim :=
  rfl

namespace References

open Region

/-!
# What becomes of a section
-/

def withoutTemplates (t : Text) : Text :=
  Template.replaceNamed t "listaref" fun _ => some []

/-- What the rule looks for tags in.  The section of the references keeps its templates. -/
def searched (p : Page) (i : Nat) : Text :=
  if p.references? = some i then (p.get i).intro else withoutTemplates (p.get i).intro

def withoutTags (t : Text) : Text :=
  replaceOutside (withoutTemplates t) listElement gap

/-- The text that the rule leaves in a section. -/
def swept (t : Text) : Text :=
  if withoutTags t = t then t else (withoutTags t).trim

def sweep (p : Page) (i : Nat) : Page :=
  if withoutTags (p.get i).intro = (p.get i).intro then p
  else p.modify i (·.setIntro (withoutTags (p.get i).intro))

section Sections

variable {p : Page} {t : Text} {ids : List Nat} {i j : Nat}

theorem fst_removeLists (t : Text) : (removeLists t).1 = withoutTags t := by
  have hstep : forall (t new : Text) (names names' : List Text), (if new = t then (t, names) else (new, names')).1 = new := by
    intro t new names names'
    split
    · rename_i hsame
      exact hsame.symm
    · rfl
  rw [removeLists]
  exact (hstep _ _ _ _).trans (congrArg (fun u => replaceOutside u listElement gap) (hstep _ _ _ _))

theorem fst_removeStrayLists (p : Page) (references : Nat) :
    (removeStrayLists p references).1 = (p.order.filter (· ≠ references)).foldl sweep p := by
  rw [removeStrayLists]
  refine (List.foldl_hom Prod.fst fun state i => ?_).symm
  rw [sweep, ← fst_removeLists]

theorem length_sections_sweep (p : Page) (i : Nat) : (sweep p i).sections.length = p.sections.length := by
  rw [sweep]
  split
  · rfl
  · exact List.length_modify _ _ _

theorem order_foldl_sweep (ids : List Nat) (p : Page) : (ids.foldl sweep p).order = p.order := by
  induction ids generalizing p with
  | nil => rfl
  | cons i ids ih =>
      rw [List.foldl_cons, ih, sweep]
      split
      · rfl
      · rfl

theorem length_sections_foldl_sweep (ids : List Nat) (p : Page) :
    (ids.foldl sweep p).sections.length = p.sections.length := by
  induction ids generalizing p with
  | nil => rfl
  | cons i ids ih => rw [List.foldl_cons, ih, length_sections_sweep]

theorem intro_sweep (hi : i < p.sections.length) (j : Nat) :
    ((sweep p i).get j).intro = if j = i then swept (p.get j).intro else (p.get j).intro := by
  by_cases hj : j = i
  · subst hj
    rw [if_pos rfl, sweep, swept]
    by_cases hsame : withoutTags (p.get j).intro = (p.get j).intro
    · rw [if_pos hsame, if_pos hsame]
    · rw [if_neg hsame, if_neg hsame, Page.get_modify, if_pos ⟨rfl, hi⟩, Section.intro_setIntro]
  · rw [if_neg hj, sweep]
    split
    · rfl
    · rw [Page.get_modify, if_neg fun h => hj h.1.symm]

/-- Each section is swept once. -/
theorem intro_foldl_sweep (hids : ids.Nodup) (hmade : forall i, i ∈ ids -> i < p.sections.length) (j : Nat) :
    ((ids.foldl sweep p).get j).intro = if j ∈ ids then swept (p.get j).intro else (p.get j).intro := by
  induction ids generalizing p with
  | nil => rfl
  | cons i ids ih =>
      rcases List.nodup_cons.mp hids with ⟨hnot, hids⟩
      have hrest : forall k, k ∈ ids -> k < (sweep p i).sections.length := by
        intro k hk
        rw [length_sections_sweep]
        exact hmade k (List.mem_cons_of_mem i hk)
      rw [List.foldl_cons, ih hids hrest, intro_sweep (hmade i List.mem_cons_self)]
      by_cases hj : j = i
      · rw [if_neg (hj ▸ hnot), if_pos hj, if_pos (hj ▸ List.mem_cons_self)]
      · rw [if_neg hj]
        by_cases hmem : j ∈ ids
        · rw [if_pos hmem, if_pos (List.mem_cons_of_mem i hmem)]
        · rw [if_neg hmem, if_neg (List.not_mem_cons_of_ne_of_not_mem hj hmem)]

theorem listTags_swept (ht : TagsEnd (withoutTemplates t)) :
    listTags (swept t) = (listTags (withoutTemplates t)).filter fun tag => !isTaken tag := by
  have htags : listTags (withoutTags t) = (listTags (withoutTemplates t)).filter fun tag => !isTaken tag :=
    listTags_replaceOutside ht
  rw [← htags, swept]
  split
  · rename_i hsame
    rw [hsame]
  · exact listTags_trim _

end Sections

end References

/-!
# The rule
-/

namespace Rule

open References

/-- The rule leaves the page alone, or the page that it leaves is told by its sections. -/
theorem strayLists_cases {x : Context} {t : Text} {p : Page} (hlegacy : x.legacy = false) (hread : x.read t = .ok p) :
    strayLists.run x t = .ok none ∨ exists references q summary, p.references? = some references ∧
      strayLists.run x t = .ok (Outcome.ofPage? t q summary) ∧ q.order = p.order ∧
      (forall i, i ∈ p.order -> i ≠ references -> (q.get i).intro = swept (p.get i).intro) ∧
      ((q.get references).intro = (p.get references).intro ∨ exists line, (line = list ∨ line = listTemplate) ∧
        (q.get references).intro = (appendLine (p.get references).intro line).trim) := by
  have h := Page.wellFormed_read hread
  have hrun : strayLists.run x t = _ := Context.onCurrentPage_eq hlegacy hread _
  cases hreferences : p.references? with
  | none =>
      rw [hreferences] at hrun
      exact Or.inl hrun
  | some references =>
      rw [hreferences] at hrun
      let q := (removeStrayLists p references).1
      have hq : q = (p.order.filter (· ≠ references)).foldl sweep p := fst_removeStrayLists p references
      have hintro : forall i, (q.get i).intro =
          if i ∈ p.order.filter (· ≠ references) then swept (p.get i).intro else (p.get i).intro := by
        intro i
        rw [hq]
        exact intro_foldl_sweep (h.nodup.filter _) (fun i hi => h.made i (List.mem_filter.mp hi).1) i
      have horder : q.order = p.order := by
        rw [hq, order_foldl_sweep]
      have hothers : forall i, i ∈ p.order -> i ≠ references -> (q.get i).intro = swept (p.get i).intro := by
        intro i hi hne
        rw [hintro, if_pos (List.mem_filter.mpr ⟨hi, decide_eq_true hne⟩)]
      have hkept : (q.get references).intro = (p.get references).intro := by
        rw [hintro, if_neg]
        simp
      have hmade : references < q.sections.length := by
        rw [hq, length_sections_foldl_sweep]
        exact h.made references (List.mem_of_getLast? (Option.filter_eq_some_iff.mp hreferences).1)
      by_cases hleft : (1 < (p.findSections Marks.referencesAndNotesHeader).length ||
          (removeStrayLists p references).2.isEmpty) = true
      · exact Or.inl (hrun.trans (if_pos hleft))
      · have hrun := hrun.trans (if_neg hleft)
        right
        by_cases hlist : hasList (q.get references).intro = true
        · exact ⟨references, q, _, rfl, hrun.trans (if_pos hlist), horder, hothers, Or.inl hkept⟩
        · let line := if (removeStrayLists p references).2.contains "<references>" then list else listTemplate
          have hline : line = list ∨ line = listTemplate := ite_eq_or_eq _ _ _
          refine ⟨references, q.modify references (·.setIntro (appendLine (q.get references).intro line)), _, rfl,
            hrun.trans (if_neg hlist), horder, ?_, Or.inr ⟨line, hline, ?_⟩⟩
          · intro i hi hne
            rw [Page.get_modify, if_neg fun h => hne h.1.symm]
            exact hothers i hi hne
          · rw [Page.get_modify, if_pos ⟨rfl, hmade⟩, Section.intro_setIntro, hkept]

/-- Where tags end before others begin, the rule takes from the other sections just the tags without attributes.  A list that
was whole once the templates were gone is not left open, but for each opening tag that was taken a closing tag is left over. -/
theorem strayLists_leftOver {x : Context} {t : Text} {p : Page} (hlegacy : x.legacy = false) (hread : x.read t = .ok p)
    (htags : forall i, i ∈ p.order -> TagsEnd (searched p i)) :
    strayLists.run x t = .ok none ∨ exists q summary, strayLists.run x t = .ok (Outcome.ofPage? t q summary) ∧
      q.order = p.order ∧
      (forall i, i ∈ p.order -> p.references? ≠ some i ->
        listTags (q.get i).intro = (listTags (searched p i)).filter fun tag => !isTaken tag) ∧
      forall i n, i ∈ p.order -> leftOver? (listTags (searched p i)) = some n ->
        leftOver? (listTags (q.get i).intro) =
          some (if p.references? = some i then n else n + (listTags (searched p i)).countP opensTakenList) := by
  rcases strayLists_cases hlegacy hread with hnone | ⟨references, q, summary, hreferences, hrun, horder, hothers, hown⟩
  · exact Or.inl hnone
  right
  have hswept : forall i, i ∈ p.order -> p.references? ≠ some i ->
      listTags (q.get i).intro = (listTags (searched p i)).filter fun tag => !isTaken tag := by
    intro i hi hne
    have hends := htags i hi
    rw [searched, if_neg hne] at hends ⊢
    rw [hothers i hi fun heq => hne (heq ▸ hreferences), listTags_swept hends]
  refine ⟨q, summary, hrun, horder, hswept, fun i n hi hn => ?_⟩
  by_cases href : p.references? = some i
  · have hends := htags i hi
    rw [searched, if_pos href] at hends hn
    cases hreferences.symm.trans href
    rw [if_pos href, ← hn]
    rcases hown with hown | ⟨line, hline, hown⟩
    · rw [hown]
    · rw [hown, listTags_trim, leftOver?_appendLine hends hline]
  · rw [if_neg href, hswept i hi href]
    exact leftOver?_filter hn

/-- The list in the first section has its footnotes between two tags. -/
def entryWithOpenList : Text :=
  "==\x7b\x7blengua|es\x7d\x7d==\n<references>b</references>\n==Referencias y notas==\nc"

theorem strayLists_leftOver_entryWithOpenList : exists x p q summary, x.read entryWithOpenList = .ok p ∧
    (forall i, i ∈ p.order -> leftOver? (listTags (searched p i)) = some 0) ∧
    strayLists.run x entryWithOpenList = .ok (Outcome.ofPage? entryWithOpenList q summary) ∧ q.order = [0, 1] ∧
    listTags (q.get 0).intro = Text.listOf ["</references>"] ∧ leftOver? (listTags (q.get 0).intro) = some 1 ∧
      leftOver? (listTags (q.get 1).intro) = some 0 := by
  have hfacts : (Context.read ⟨.builtin, "t", false⟩ entryWithOpenList).map (fun p =>
      (p.order, p.references?, searched p 0, searched p 1)) =
        .ok ([0, 1], some 1, "<references>b</references>".toList, "c".toList) := by
    decide +kernel
  have hruns : (strayLists.run ⟨.builtin, "t", false⟩ entryWithOpenList).map Option.isSome = .ok true := by
    decide +kernel
  rcases exists_of_map_eq_ok hfacts with ⟨p, hread, hfacts⟩
  simp only [Prod.mk.injEq] at hfacts
  rcases hfacts with ⟨horder, hreferences, hfirst, hsecond⟩
  have htags : forall i, i ∈ p.order -> TagsEnd (searched p i) := by
    rw [horder, List.forall_mem_cons, List.forall_mem_singleton, hfirst, hsecond]
    decide +kernel
  have hwhole : forall i, i ∈ p.order -> leftOver? (listTags (searched p i)) = some 0 := by
    rw [horder, List.forall_mem_cons, List.forall_mem_singleton, hfirst, hsecond]
    decide +kernel
  rcases strayLists_leftOver (x := ⟨.builtin, "t", false⟩) rfl hread htags with hnone | ⟨q, summary, hrun, hq, htaken, hleft⟩
  · rw [hnone] at hruns
    cases hruns
  have hmem : forall i, i ∈ [0, 1] -> i ∈ p.order := fun i hi => horder ▸ hi
  have hzero := htaken 0 (hmem 0 (by decide)) (by rw [hreferences]; decide)
  have hone := hleft 0 0 (hmem 0 (by decide)) (hwhole 0 (hmem 0 (by decide)))
  have hown := hleft 1 0 (hmem 1 (by decide)) (hwhole 1 (hmem 1 (by decide)))
  rw [hfirst] at hzero hone
  rw [hreferences, if_pos rfl] at hown
  rw [hreferences, if_neg (by decide)] at hone
  refine ⟨⟨.builtin, "t", false⟩, p, q, summary, hread, hwhole, hrun, hq.trans horder, hzero.trans ?_, hone.trans ?_, hown⟩
  · decide +kernel
  · decide +kernel

/-- The first list loses its opening tag.  The second one loses its closing tag, which stands in a template. -/
def entryWithTwoLists : Text :=
  "==\x7b\x7blengua|es\x7d\x7d==\n<references>a</references><references group=\"g\">\x7b\x7blistaref|</references>\x7d\x7d\n"
    ++ "==Referencias y notas==\n<references />"

theorem not_forall_strayLists_leftOver : ¬ forall (x : Context) (t : Text) (p : Page) (o : Outcome) (q : Page),
    x.legacy = false -> x.read t = .ok p -> (forall i, i ∈ p.order -> leftOver? (listTags (p.get i).intro) = some 0) ->
      strayLists.run x t = .ok (some o) -> x.read o.text = .ok q ->
        forall i, i ∈ q.order -> leftOver? (listTags (q.get i).intro) ≠ none := by
  intro hall
  let left : Text := "==\x7b\x7blengua|es\x7d\x7d==\na</references><references group=\"g\">\n"
    ++ "==Referencias y notas==\n<references />"
  have hbefore : (Context.read ⟨.builtin, "t", false⟩ entryWithTwoLists).map (fun p =>
      p.order.map fun i => leftOver? (listTags (p.get i).intro)) = .ok [some 0, some 0] := by
    decide +kernel
  have hruns : (strayLists.run ⟨.builtin, "t", false⟩ entryWithTwoLists).map (fun o => o.map Outcome.text) =
      .ok (some left) := by
    decide +kernel
  have hafter : (Context.read ⟨.builtin, "t", false⟩ left).map (fun q =>
      (q.order, leftOver? (listTags (q.get 0).intro))) = .ok ([0, 1], none) := by
    decide +kernel
  rcases exists_of_map_eq_ok hbefore with ⟨p, hread, hbefore⟩
  rcases exists_of_map_eq_ok hruns with ⟨o, hrun, hruns⟩
  rcases Option.map_eq_some_iff.mp hruns with ⟨o, rfl, htext⟩
  rcases exists_of_map_eq_ok hafter with ⟨q, hread', hafter⟩
  simp only [Prod.mk.injEq] at hafter
  have hwhole : forall i, i ∈ p.order -> leftOver? (listTags (p.get i).intro) = some 0 := by
    intro i hi
    have hmem : leftOver? (listTags (p.get i).intro) ∈ [some 0, some 0] := hbefore ▸ List.mem_map_of_mem hi
    simpa using hmem
  exact hall ⟨.builtin, "t", false⟩ entryWithTwoLists p o q rfl hread hwhole hrun (htext ▸ hread') 0
    (by rw [hafter.1]; decide) hafter.2

end Rule
end WikiEntry
