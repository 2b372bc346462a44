import WikiEntry.Rule.All
import WikiEntry.Proofs.Prose.Basic
import WikiEntry.Proofs.Rule.Outcome

/-!
# Rules on plain prose

No rule but the one that joins lines has anything to do on plain prose.  The rules that look for marks do not find
any, and those that arrange sections meet a page without sections.
-/

namespace WikiEntry

theorem Outcome.of?_self (t : Text) (summary : Option Text) : of? t t summary = none := by
  rw [of?, changed, bne_self_eq_false, if_neg Bool.false_ne_true]

namespace Rule

/-- The rule has no outcome for a prose text in the current layout. -/
def LeavesProse (r : Rule) : Prop :=
  forall (x : Context) (t : Text), x.legacy = false -> t.IsProse -> r.run x t = .ok none

section

variable {x : Context} {t : Text}

/-!
# Texts without marks
-/

theorem leavesProse_templateNamespaces : templateNamespaces.LeavesProse := by
  intro x t _ ht
  have hkept : TemplateNames.removeNamespaces t = (t, []) :=
    Region.reviseWith_eq_self (ht.matchList_eq_nil (by decide)) _ _ _ _
  show Except.ok (Outcome.of? t (TemplateNames.removeNamespaces t).1 _) = _
  rw [hkept, Outcome.of?_self]

theorem leavesProse_templateLayout : templateLayout.LeavesProse := by
  intro x t _ ht
  have hlaid : TemplateNames.layOutAll t = (t, false) := by
    rw [TemplateNames.layOutAll, Template.located_of_isProse ht]
    rfl
  show Except.ok (Outcome.of? t (TemplateNames.layOutAll t).1 _) = _
  rw [hlaid, Outcome.of?_self]

theorem leavesProse_links : links.LeavesProse := by
  intro x t _ ht
  have hrevised : Links.reviseAll t = (t, false) :=
    Region.reviseWith_eq_self (ht.matchList_eq_nil (by decide)) _ _ _ _
  show Except.ok (Outcome.of? t (Links.reviseAll t).1 _) = _
  rw [hrevised, Outcome.of?_self]

theorem renameAll_of_isProse (ht : t.IsProse) (names : List (Text × Text)) :
    TemplateNames.renameAll names t = (t, []) := by
  induction names with
  | nil => rfl
  | cons name names ih =>
      rcases name with ⟨old, name⟩
      have hrename : TemplateNames.rename t old name = t := Template.replace_of_isProse ht _
      simp only [TemplateNames.renameAll, hrename, ih, if_pos]

theorem leavesProse_templateNames : templateNames.LeavesProse := by
  intro x t _ ht
  show Except.ok (Outcome.of? t (TemplateNames.renameAll (TemplateNames.redirects x.config) t).1 _) = _
  rw [renameAll_of_isProse ht, Outcome.of?_self]

theorem leavesProse_lineBreaking : lineBreaking.LeavesProse := by
  intro x t _ ht
  have hsplit : Edit.applyAll t (LineTemplates.splitEdits t (Region.ignored t) 0 none (Template.located t)) = t := by
    rw [Template.located_of_isProse ht]
    rfl
  show Except.ok (Outcome.of? t (Region.sanitizeBlanks (Edit.applyAll t _)) _) = _
  rw [hsplit, Region.sanitizeBlanks_of_isProse ht, Outcome.of?_self]

theorem leavesProse_inflectionTables : inflectionTables.LeavesProse := by
  intro x t _ ht
  have habsent : t.hasInfix "\x7b\x7binflect." = false :=
    Text.hasInfix_eq_false (a := '\x7b') List.mem_cons_self (ht.not_mem (by decide))
  show (if t.hasInfix "\x7b\x7binflect." then _ else Except.ok none) = Except.ok none
  rw [habsent]
  rfl

theorem revise_of_isProse (ht : t.IsProse) (forms : List (Nat × FootnoteForm)) : Footnote.revise t forms = t := by
  have hnone : Footnote.all t = [] := by
    rw [Footnote.all, Region.matchesOutside, ht.matchList_eq_nil (by decide)]
    rfl
  rw [Footnote.revise, hnone]
  rfl

theorem leavesProse_ambiguousFootnotes : ambiguousFootnotes.LeavesProse := by
  intro x t _ ht
  show Except.ok (Outcome.of? t (Footnote.revise t _) _) = _
  rw [revise_of_isProse ht, Outcome.of?_self]

theorem leavesProse_repeatedFootnotes : repeatedFootnotes.LeavesProse := by
  intro x t _ ht
  show Except.ok (Outcome.of? t (Footnote.revise t _) _) = _
  rw [revise_of_isProse ht, Outcome.of?_self]

theorem leavesProse_legacyLayout : legacyLayout.LeavesProse := by
  intro x t hx _
  show (if x.legacy && _ then _ else Except.ok none) = Except.ok none
  rw [hx]
  rfl

/-!
# Pages without sections
-/

theorem read_of_isProse (ht : t.IsProse) : x.read t = .ok (.ofFront x.title t) :=
  Page.read_of_isProse x.config x.title ht

theorem onCurrentPage_of_isProse (hx : x.legacy = false) (ht : t.IsProse) (f : Page -> Verdict) :
    x.onCurrentPage t f = f (.ofFront x.title t) := by
  rw [Context.onCurrentPage, hx, if_neg Bool.false_ne_true, read_of_isProse ht]
  rfl

theorem ofPage?_ofFront (ht : t.IsProse) (title summary : Text) :
    Outcome.ofPage? t (.ofFront title t) summary = none := by
  rw [Outcome.ofPage?, Page.render_ofFront title ht.ne_nil, Outcome.of?_self]

/-- A rule that arranges sections has nothing to do where there are none. -/
theorem onCurrentPage_of_same (hx : x.legacy = false) (ht : t.IsProse) {f : Page -> Page} {summary : Text}
    (hf : f (.ofFront x.title t) = .ofFront x.title t) :
    x.onCurrentPage t (fun p => .ok (Outcome.ofPage? t (f p) summary)) = .ok none := by
  rw [onCurrentPage_of_isProse hx ht, hf, ofPage?_ofFront ht]

theorem leavesProse_languageHeaders : languageHeaders.LeavesProse :=
  fun _ _ hx ht => onCurrentPage_of_same hx ht rfl

theorem leavesProse_inflectionHeaders : inflectionHeaders.LeavesProse :=
  fun _ _ hx ht => onCurrentPage_of_same hx ht rfl

theorem leavesProse_etymologyNumbers : etymologyNumbers.LeavesProse :=
  fun _ _ hx ht => onCurrentPage_of_same hx ht rfl

theorem leavesProse_pronunciation : pronunciation.LeavesProse :=
  fun _ _ hx ht => onCurrentPage_of_same hx ht rfl

theorem sortLanguages_ofFront (title : Text) : (Page.ofFront title t).sortLanguages = .ofFront title t := by
  have hsorted : (Page.ofFront title t).sortBy Section.compareLanguages (Page.ofFront title t).languages = [] :=
    List.mergeSort_nil
  rw [Page.sortLanguages, Page.sortLanguagesBy, ← Section.compareLanguages, hsorted]
  rfl

theorem leavesProse_languageOrder : languageOrder.LeavesProse :=
  fun _ _ hx ht => onCurrentPage_of_same hx ht (sortLanguages_ofFront _)

theorem leavesProse_sectionOrder : sectionOrder.LeavesProse :=
  fun _ _ hx ht => onCurrentPage_of_same hx ht rfl

theorem leavesProse_languageParameters : languageParameters.LeavesProse :=
  fun _ _ hx ht => onCurrentPage_of_same hx ht rfl

theorem leavesProse_definitionLists : definitionLists.LeavesProse :=
  fun _ _ hx ht => onCurrentPage_of_same hx ht rfl

theorem leavesProse_definitionNumbers : definitionNumbers.LeavesProse :=
  fun _ _ hx ht => onCurrentPage_of_same hx ht rfl

theorem leavesProse_repeatedTitles : repeatedTitles.LeavesProse :=
  fun _ _ hx ht => onCurrentPage_of_same hx ht rfl

theorem leavesProse_referencesTitle : referencesTitle.LeavesProse :=
  fun _ _ hx ht => onCurrentPage_of_isProse hx ht _

theorem leavesProse_severalReferences : severalReferences.LeavesProse :=
  fun _ _ hx ht => onCurrentPage_of_isProse hx ht _

theorem leavesProse_referencesPlace : referencesPlace.LeavesProse :=
  fun _ _ hx ht => onCurrentPage_of_isProse hx ht _

theorem leavesProse_inflectionCheck : inflectionCheck.LeavesProse :=
  fun _ _ hx ht => onCurrentPage_of_isProse hx ht _

theorem leavesProse_levels : levels.LeavesProse :=
  fun _ _ hx ht => onCurrentPage_of_isProse hx ht _

theorem leavesProse_missingSections : missingSections.LeavesProse :=
  fun _ _ hx ht => onCurrentPage_of_isProse hx ht _

theorem leavesProse_strayLists : strayLists.LeavesProse :=
  fun _ _ hx ht => onCurrentPage_of_isProse hx ht _

theorem leavesProse_misplacedSections : misplacedSections.LeavesProse :=
  fun _ _ hx ht => onCurrentPage_of_isProse hx ht _

theorem leavesProse_redundantEtymologies : redundantEtymologies.LeavesProse :=
  fun _ _ hx ht => onCurrentPage_of_isProse hx ht _

theorem leavesProse_clearElements : clearElements.LeavesProse :=
  fun _ _ hx ht => onCurrentPage_of_isProse hx ht _

/-!
# Rules for pages of any layout
-/

theorem bind_read_of_isProse (ht : t.IsProse) {α : Type} (f : Page -> Except EntryError α) :
    (x.read t >>= f) = f (.ofFront x.title t) := by
  rw [read_of_isProse ht]
  rfl

/-- A rule for all layouts that arranges sections. -/
theorem bind_read_of_same (ht : t.IsProse) {f : Page -> Page} {summary : Text}
    (hf : f (.ofFront x.title t) = .ofFront x.title t) :
    (x.read t >>= fun p => Except.ok (Outcome.ofPage? t (f p) summary)) = .ok none := by
  rw [bind_read_of_isProse ht, hf, ofPage?_ofFront ht]

theorem leavesProse_headerSpelling : headerSpelling.LeavesProse :=
  fun _ _ _ ht => bind_read_of_same ht rfl

theorem leavesProse_qualifiers : qualifiers.LeavesProse :=
  fun _ _ _ ht => bind_read_of_same ht rfl

theorem leavesProse_sectionTemplates : sectionTemplates.LeavesProse :=
  fun _ _ _ ht => bind_read_of_same ht rfl

theorem leavesProse_translationWrappers : translationWrappers.LeavesProse := by
  intro x t _ ht
  refine (bind_read_of_isProse ht _).trans ?_
  show Except.ok (Outcome.ofPage? t (.ofFront x.title t) _) = _
  rw [ofPage?_ofFront ht]

theorem leavesProse_translationsForm : translationsForm.LeavesProse := by
  intro x t _ ht
  refine (bind_read_of_isProse ht _).trans ?_
  show Except.ok (Outcome.of? t (Page.ofFront x.title t).render none) = _
  rw [Page.render_ofFront _ ht.ne_nil, Outcome.of?_self]

theorem leavesProse_emptySections : emptySections.LeavesProse :=
  fun _ _ _ ht => bind_read_of_isProse ht _

theorem leavesProse_impliedCategories : impliedCategories.LeavesProse := by
  intro x t _ ht
  refine (bind_read_of_isProse ht _).trans ?_
  have hnone : Categories.ofTemplates x.config t ++ Categories.ofLanguages x.config (.ofFront x.title t) = [] := by
    rw [Categories.ofTemplates, Template.located_of_isProse ht]
    rfl
  show Except.ok (if List.isEmpty (Categories.ofTemplates x.config t ++ _) then none else _) = _
  rw [hnone]
  rfl

theorem lowerParams_of_isProse (ht : t.IsProse) (names : List Text) (key : Text) :
    LanguageCodes.lowerParams t names key = t :=
  Template.replace_of_isProse ht _

theorem leavesProse_languageCodeCase : languageCodeCase.LeavesProse := by
  intro x t _ ht
  refine (bind_read_of_isProse ht _).trans ?_
  show Except.ok (Outcome.of? t (LanguageCodes.lowerParams
    (LanguageCodes.lowerParams (Page.ofFront x.title t).render _ _) _ _) none) = _
  rw [Page.render_ofFront _ ht.ne_nil, lowerParams_of_isProse ht, lowerParams_of_isProse ht, Outcome.of?_self]

/-!
# Comments, safety and leftovers
-/

theorem leavesProse_boilerplate : boilerplate.LeavesProse := by
  intro x t _ ht
  have htargets : Comments.removeTargets x.config t = t := by
    rw [Comments.removeTargets, Comments.targets, Region.comments_of_isProse ht]
    rfl
  have hkept : Comments.removePlaceholders x t = .ok t := by
    rw [Comments.removePlaceholders]
    split
    · exact bind_read_of_isProse ht _
    · rfl
  show (Comments.removePlaceholders x (Comments.removeTargets x.config t) >>= fun kept =>
    Except.ok (Outcome.of? t kept _)) = _
  rw [htargets, hkept]
  exact congrArg Except.ok (Outcome.of?_self t _)

theorem depth_of_isProse (ht : t.IsProse) : TemplateDepth.depth t = 0 := by
  have hopening : TemplateDepth.innermost? t = none := by
    rw [TemplateDepth.innermost?, TemplateDepth.lastOpening?,
      Text.findLast?_eq_none (a := '\x7b') List.mem_cons_self (ht.not_mem (by decide))]
    rfl
  have hspans : TemplateDepth.spans t = [] := by
    rw [TemplateDepth.spans]
    cases t.length with
    | zero => rfl
    | succ rounds => rw [TemplateDepth.peel, hopening]
  rw [TemplateDepth.depth, hspans]

theorem checkBrackets_of_isProse (ht : t.IsProse) (place : Text) : Safety.checkBrackets t place = .ok () := by
  have hunpaired : forall (opening closing : Text) (a b : Char), a ∈ opening -> b ∈ closing ->
      a ∉ Text.proseChars -> b ∉ Text.proseChars -> TemplateDepth.unpaired t opening closing = false := by
    intro opening closing a b ha hb haprose hbprose
    rw [TemplateDepth.unpaired, Text.occurrences_eq_zero ha (ht.not_mem haprose),
      Text.occurrences_eq_zero hb (ht.not_mem hbprose)]
    rfl
  have hcurly := hunpaired "\x7b\x7b" "\x7d\x7d" '\x7b' '\x7d' List.mem_cons_self List.mem_cons_self (by decide) (by decide)
  have hsquare := hunpaired "[[" "]]" '[' ']' List.mem_cons_self List.mem_cons_self (by decide) (by decide)
  rw [Safety.checkBrackets, Region.stripHidden_of_isProse ht, hcurly, hsquare]
  rfl

theorem leavesProse_safety : safety.LeavesProse := by
  intro x t _ ht
  have hcheck : Safety.check x t = .ok () := by
    rw [Safety.check, depth_of_isProse ht]
    refine (bind_read_of_isProse ht _).trans ?_
    show (Safety.checkBrackets t _ >>= fun _ => Except.ok ()) = _
    rw [checkBrackets_of_isProse ht]
    rfl
  show (Safety.check x t >>= fun _ => Except.ok none) = _
  rw [hcheck]
  rfl

theorem applySteps_cons {name : Text} {f : Text -> Text} {rest : List (Text × (Text -> Text))} (hf : f t = t)
    (hrest : Leftovers.applySteps rest t = (t, [])) : Leftovers.applySteps ((name, f) :: rest) t = (t, []) := by
  simp only [Leftovers.applySteps, hf, hrest, if_pos]

theorem applySteps_of_isProse (ht : t.IsProse) : Leftovers.applySteps Leftovers.steps t = (t, []) := by
  have hpunctuation : Leftovers.removeLonePunctuation t = t := by
    rw [Leftovers.removeLonePunctuation, ht.expandOutside_eq_self (by decide)]
    exact ht.replaceOutside_eq_self (by decide) _
  have hcolons : Leftovers.addColons t = t := ht.reviseOutside_eq_self (by decide) _
  unfold Leftovers.steps
  refine applySteps_cons (ht.replaceOutside_eq_self (by decide) _) ?_
  refine applySteps_cons hpunctuation ?_
  refine applySteps_cons (ht.replaceOutside_eq_self (by decide) _) ?_
  refine applySteps_cons (ht.replaceOutside_eq_self (by decide) _) ?_
  refine applySteps_cons (ht.replaceOutside_eq_self (by decide) _) ?_
  refine applySteps_cons hcolons ?_
  exact applySteps_cons (ht.replaceOutside_eq_self (by decide) _) rfl

theorem leavesProse_leftovers : leftovers.LeavesProse := by
  intro x t _ ht
  have himages : Leftovers.renameImages t = (t, []) :=
    Region.reviseWith_eq_self (ht.matchList_eq_nil (by decide)) _ _ _ _
  have hfootnotes : Leftovers.tidyFootnotes t = t := by
    rw [Leftovers.tidyFootnotes, ht.expandOutside_eq_self (by decide)]
    exact ht.expandOutside_eq_self (by decide) _
  have hlimited : Leftovers.limitTrailing x t = .ok t := bind_read_of_isProse ht _
  unfold leftovers
  dsimp only
  rw [himages, applySteps_of_isProse ht, hfootnotes, Region.sanitizeBlanks_of_isProse ht, hlimited]
  exact congrArg Except.ok (Outcome.of?_self t _)

/-!
# White space
-/

theorem tidySpaces_of_isProse (ht : t.IsProse) : WhiteSpace.tidySpaces t = t := by
  have htrailing : WhiteSpace.trailingSpaces.matchList t = [] := by
    refine Pattern.matchList_eq_nil_of_not_matched fun m w s hm => ?_
    rcases hm.reads.seq_inv with ⟨spaces, newline, y, rfl, hspaces, hnewline⟩
    rcases hnewline.one_inv with ⟨ch, rfl, hch, _⟩
    rw [← beq_iff_eq.mp hch] at hm
    rcases hspaces.loop_last with ⟨h, _⟩ | ⟨front, last, rfl, z, z', hlast⟩
    · cases h
    · cases hlast with
      | altLeft hspace =>
          rcases hspace.lit_inv with ⟨rfl, _⟩
          refine ht.not_piece (a := ' ') (b := '\n') (by decide) (by decide) (List.IsInfix.trans ?_ hm.piece)
          rw [List.append_assoc]
          exact (List.suffix_append front _).isInfix
      | altRight hentity =>
          rcases hentity.lit_inv with ⟨rfl, _⟩
          refine ht.not_mem (a := '&') (by decide) (hm.piece.subset ?_)
          simp
  rw [WhiteSpace.tidySpaces, Region.replaceOutside_eq_self htrailing, ht.replaceOutside_eq_self (by decide)]
  exact ht.replaceOutside_eq_self (by decide) _

theorem tidyPrinted_of_isProse (ht : t.IsProse) : WhiteSpace.tidyPrinted t = t := by
  have hlines : WhiteSpace.blankLines.matchList t = [] :=
    ht.matchList_run_eq_nil (by decide) (by decide)
  rw [WhiteSpace.tidyPrinted, Region.replaceOutside_eq_self hlines, ht.replaceOutside_eq_self (by decide)]
  exact ht.expandOutside_eq_self (by decide) _

theorem leavesProse_strongWhiteSpace : strongWhiteSpace.LeavesProse := by
  intro x t _ ht
  show (x.read (WhiteSpace.tidySpaces t) >>= _) = _
  rw [tidySpaces_of_isProse ht]
  refine (bind_read_of_isProse ht _).trans ?_
  show Except.ok (Outcome.of? t (WhiteSpace.tidyPrinted (Page.ofFront x.title t).render) _) = _
  rw [Page.render_ofFront _ ht.ne_nil, tidyPrinted_of_isProse ht, Outcome.of?_self]

theorem isBare_of_isProse (ht : t.IsProse) : WhiteSpace.isBare t = false := by
  rw [WhiteSpace.isBare, Region.stripHidden_of_isProse ht, ht.trim_eq_self,
    List.isEmpty_eq_false_iff.mpr ht.ne_nil, ht.matchesIn_eq_false (by decide)]
  rfl

theorem changed_append_newline (t : Text) : changed t (t ++ ['\n']) = false := by
  have hright : Text.trimRight (t ++ ['\n']) = t.trimRight := by
    rw [Text.trimRight, Text.trimRightBy, List.reverse_append, List.reverse_singleton, List.singleton_append,
      List.dropWhile_cons_of_pos (by decide)]
    rfl
  rw [changed, hright]
  exact bne_self_eq_false _

theorem layOutFront_ofFront (ht : t.IsProse) (title : Text) :
    WhiteSpace.layOutFront (.ofFront title t) = .ofBody title ⟨0, t, 1⟩ := by
  simp [WhiteSpace.layOutFront, Page.ofFront, Page.ofBody, Page.empty, Page.intro, Body.setTrailing, ht.ne_nil, isBare_of_isProse ht]

/-- The weak rule ends the text with a newline, which does not count as a change. -/
theorem leavesProse_weakWhiteSpace : weakWhiteSpace.LeavesProse := by
  intro x t _ ht
  have hchars : forall ch, ch ∈ t ++ ['\n'] -> ch ∈ Text.proseChars := by
    intro ch hch
    rcases List.mem_append.mp hch with hch | hch
    · exact ht.chars ch hch
    · exact List.mem_singleton.mp hch ▸ by decide
  have hrendered : (Page.ofBody x.title ⟨0, t, 1⟩).render = t ++ ['\n'] := Page.render_ofBody x.title ht.ne_nil 1
  refine (bind_read_of_isProse ht _).trans ?_
  dsimp only
  rw [layOutFront_ofFront ht]
  show Except.ok (Outcome.of? t
    (Region.expandOutside (Page.ofBody x.title ⟨0, t, 1⟩).render WhiteSpace.clearTemplate _) none) = _
  rw [hrendered, Region.expandOutside_eq_self (Pattern.matchList_eq_nil hchars (by decide)),
    Outcome.of?_eq_none_iff.mpr (changed_append_newline t)]

end

/-!
# All rules but one
-/

/-- The rules before the one that joins lines. -/
def beforeJoining : List Rule :=
  [boilerplate, safety, templateNamespaces, templateLayout, links]

/-- The rules after the one that joins lines. -/
def afterJoining : List Rule :=
  [templateNames, lineBreaking, leftovers, legacyLayout, languageHeaders, headerSpelling, referencesTitle,
   severalReferences, referencesPlace, inflectionHeaders, inflectionCheck, etymologyNumbers,
   translationWrappers, levels, pronunciation, languageOrder, missingSections, strayLists, sectionOrder,
   inflectionTables, languageCodeCase, languageParameters, qualifiers, sectionTemplates,
   impliedCategories, emptySections, misplacedSections, redundantEtymologies, clearElements,
   definitionLists, definitionNumbers, repeatedTitles, ambiguousFootnotes, repeatedFootnotes,
   translationsForm, strongWhiteSpace, weakWhiteSpace]

theorem all_eq : all = beforeJoining ++ lineJoining :: afterJoining :=
  rfl

theorem leavesProse_of_mem_beforeJoining : forall r, r ∈ beforeJoining -> r.LeavesProse := by
  unfold beforeJoining
  simp only [List.forall_mem_cons]
  exact ⟨leavesProse_boilerplate, leavesProse_safety, leavesProse_templateNamespaces, leavesProse_templateLayout,
    leavesProse_links, nofun⟩

theorem leavesProse_of_mem_afterJoining : forall r, r ∈ afterJoining -> r.LeavesProse := by
  unfold afterJoining
  simp only [List.forall_mem_cons]
  exact ⟨leavesProse_templateNames, leavesProse_lineBreaking, leavesProse_leftovers, leavesProse_legacyLayout,
    leavesProse_languageHeaders, leavesProse_headerSpelling, leavesProse_referencesTitle,
    leavesProse_severalReferences, leavesProse_referencesPlace, leavesProse_inflectionHeaders,
    leavesProse_inflectionCheck, leavesProse_etymologyNumbers, leavesProse_translationWrappers, leavesProse_levels,
    leavesProse_pronunciation, leavesProse_languageOrder, leavesProse_missingSections, leavesProse_strayLists,
    leavesProse_sectionOrder, leavesProse_inflectionTables, leavesProse_languageCodeCase,
    leavesProse_languageParameters, leavesProse_qualifiers, leavesProse_sectionTemplates,
    leavesProse_impliedCategories, leavesProse_emptySections, leavesProse_misplacedSections,
    leavesProse_redundantEtymologies, leavesProse_clearElements, leavesProse_definitionLists,
    leavesProse_definitionNumbers, leavesProse_repeatedTitles, leavesProse_ambiguousFootnotes,
    leavesProse_repeatedFootnotes, leavesProse_translationsForm, leavesProse_strongWhiteSpace,
    leavesProse_weakWhiteSpace, nofun⟩

end Rule
end WikiEntry
