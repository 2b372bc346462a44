import WikiEntry.Proofs.Link.Reading
import WikiEntry.Proofs.Region.Revision
import WikiEntry.Proofs.Text.Trimming

/-!
# Links that are rewritten

A link is written without its label where that adds letters to the target at most, and else the letters behind the link
go into the label.  Of several labels only the last one is looked at, and blanks in front of the letters are lost.
-/

namespace WikiEntry
namespace Links

variable {t target trail new : Text} {m : Match} {labels : List Text} {worthy : Bool}

/-!
# The new text of a link
-/

/-- The three ways to write a link anew. -/
inductive Rewritten (target label trail : Text) : (new : Text) -> Prop where
  | bare (hlabel : label = [] ∨ label = target) : Rewritten target label trail ("[[" ++ (target ++ ("]]" ++ trail)))
  | suffixed {rest : Text} (hlabel : label = target ++ rest) (hne : label ≠ [])
      (hrest : forall ch, ch ∈ rest -> isTrailLetter ch = true) :
      Rewritten target label trail ("[[" ++ (target ++ ("]]" ++ (rest ++ trail))))
  | extended (hne : label ≠ []) (hletters : trail.takeWhile isTrailLetter ≠ []) :
      Rewritten target label trail
        ("[[" ++ (target ++ '|' :: (label ++ trail.takeWhile isTrailLetter) ++ ("]]" ++ trail.dropWhile isTrailLetter)))

theorem rewritten_of_extendLabel {label : Text} (hne : label ≠ [])
    (h : reviseLink.extendLabel target label trail = some (new, worthy)) : Rewritten target label trail new := by
  unfold reviseLink.extendLabel at h
  rw [List.span_eq_takeWhile_dropWhile] at h
  dsimp only at h
  split at h
  · cases h
  · rename_i hletters
    rw [← (Prod.mk.inj (Option.some.inj h)).1]
    have hform : Rewritten target label trail _ := .extended hne (by simpa using hletters)
    have hbar : ("|" : Text) = ['|'] := rfl
    simpa only [hbar, List.append_assoc, List.cons_append, List.nil_append] using hform

theorem exists_rewritten (h : Says t m target labels trail) (hnew : reviseLink t m = some (new, worthy)) :
    exists label, labels.getLast? = some label ∧ Rewritten target.trim label.trim trail new := by
  rw [reviseLink, h.text_target, h.text?_label, h.text_trail] at hnew
  split at hnew
  · cases hnew
  · dsimp only at hnew
    split at hnew
    · cases hnew
    · rcases Option.bind_eq_some_iff.mp hnew with ⟨label, hlabel, hnew⟩
      refine ⟨label, hlabel, ?_⟩
      split at hnew
      · rename_i hsame
        rw [← (Prod.mk.inj (Option.some.inj hnew)).1, List.append_assoc, List.append_assoc]
        exact .bare (by simpa using hsame)
      · rename_i hother
        have hne : label.trim ≠ [] := by
          intro hnil
          simp [hnil] at hother
        split at hnew
        · rename_i rest hrest
          split at hnew
          · rename_i hletters
            rw [Bool.and_eq_true] at hletters
            rw [← (Prod.mk.inj (Option.some.inj hnew)).1, List.append_assoc, List.append_assoc, List.append_assoc]
            exact .suffixed (Text.after?_eq_some_iff.mp hrest) hne (List.all_eq_true.mp hletters.2)
          · exact rewritten_of_extendLabel hne hnew
        · exact rewritten_of_extendLabel hne hnew

/-!
# The new link as it is seen
-/

theorem isTrailLetter_of_isBlank {ch : Char} (h : Chars.isBlank ch = true) : isTrailLetter ch = false := by
  have hblanks : Chars.blanks.all (fun ch => !isTrailLetter ch) = true := by decide
  simpa using List.all_eq_true.mp hblanks ch (Chars.mem_blanks h)

theorem takeWhile_dropWhile (t : Text) (p : Char -> Bool) : (t.dropWhile p).takeWhile p = [] := by
  have hhead := List.head?_dropWhile_not p t
  cases hdrop : t.dropWhile p with
  | nil => rfl
  | cons ch r =>
      rw [hdrop] at hhead
      exact List.takeWhile_cons_of_neg (by simpa using hhead)

/-- A label that loses the blanks at its ends may still be followed by letters. -/
theorem staysOpen_trim_append {label letters : Text} (hlabel : staysOpen label = true) (hletters : ']' ∉ letters)
    (hne : letters ≠ []) : staysOpen (label.trim ++ letters) = true := by
  cases hblank : label.isBlank with
  | true =>
      rw [Text.trim_eq_nil_iff.mpr hblank]
      exact staysOpen_of_not_mem hletters
  | false =>
      have hparts := Text.takeWhile_append_trimBy hblank
      generalize label.takeWhile Chars.isBlank = front at hparts
      have hopen := staysOpen_drop hlabel front.length
      rw [← hparts, List.append_assoc, List.drop_left] at hopen
      exact staysOpen_exchange hopen hletters hne

/-- What is seen of the link that takes the place of one with the label `label`. -/
theorem exists_read?_of_rewritten {label back : Text} (hbar : '|' ∉ target) (hbracket : ']' ∉ target)
    (hlabel : IsLabel label) (hback : back.head?.all (· == '[') = true)
    (h : Rewritten target.trim label.trim trail new) :
    exists link, Link.read? (new ++ back) = some link ∧ link.target = target.trim ∧
      link.seen = (if label.isBlank then target else label).trim ++ trail.takeWhile isTrailLetter := by
  have hbar : '|' ∉ target.trim := fun hmem => hbar (Text.mem_of_mem_trimBy hmem)
  have hbracket : ']' ∉ target.trim := fun hmem => hbracket (Text.mem_of_mem_trimBy hmem)
  have hopen := staysOpen_of_not_mem hbracket
  have hsome : label.trim ≠ [] -> label.isBlank = false := fun hne =>
    Bool.eq_false_iff.mpr fun hblank => hne (Text.trim_eq_nil_iff.mpr hblank)
  cases h with
  | bare hsame =>
      simp only [List.append_assoc]
      refine ⟨_, Link.read?_bare hbar hopen (trail ++ back), rfl, ?_⟩
      rw [takeWhile_append_of_bracket hback]
      have hcaption : (if label.isBlank then target else label).trim = target.trim := by
        split
        · rfl
        · rename_i hblank
          exact hsame.resolve_left fun hnil => hblank (Text.trim_eq_nil_iff.mp hnil)
      rw [hcaption]
      rfl
  | @suffixed rest hlabel hne hrest =>
      simp only [List.append_assoc]
      refine ⟨_, Link.read?_bare hbar hopen (rest ++ (trail ++ back)), rfl, ?_⟩
      rw [List.takeWhile_append_of_pos hrest, takeWhile_append_of_bracket hback, hsome hne, if_neg Bool.false_ne_true,
        hlabel, List.append_assoc]
      rfl
  | extended hne hletters =>
      have hall : forall ch, ch ∈ trail.takeWhile isTrailLetter -> isTrailLetter ch = true := fun _ hch =>
        List.mem_takeWhile_imp hch
      have hclosing : ']' ∉ trail.takeWhile isTrailLetter := fun hmem => absurd (hall _ hmem) (by decide)
      have hopen : staysOpen (target.trim ++ '|' :: (label.trim ++ trail.takeWhile isTrailLetter)) = true :=
        staysOpen_append hopen (staysOpen_append (t := ['|']) (by decide)
          (staysOpen_trim_append hlabel.2 hclosing hletters))
      have hread := Link.read?_piped hbar hopen (trail.dropWhile isTrailLetter ++ back)
      rw [takeWhile_append_of_bracket hback, takeWhile_dropWhile] at hread
      have hseen : Text.isBlank (label.trim ++ trail.takeWhile isTrailLetter) = false := by
        have hfront : label.trim.all Chars.isBlank = false := (Text.isBlank_trim label).trans (hsome hne)
        rw [Text.isBlank, List.all_append, hfront]
        rfl
      refine ⟨_, (congrArg Link.read? ?_).trans hread, rfl, ?_⟩
      · simp only [List.append_assoc]
      · rw [hsome hne, if_neg Bool.false_ne_true, Link.seen, Link.caption, Option.filter_some, hseen]
        exact List.append_nil _

/-!
# What a rewriting keeps
-/

/-- A link with a single label, and no blanks between what it shows and letters behind it. -/
def Link.IsPlain (l : Link) : Prop :=
  (forall label, l.label? = some label -> '|' ∉ label) ∧
    (l.letters = [] ∨ l.caption.isBlank = true ∨ l.caption.trimRight = l.caption)

theorem bar_mem_joinWith (l l' : Text) (labels : List Text) : '|' ∈ Text.joinWith "|" (l :: l' :: labels) := by
  rw [Text.joinWith_cons (List.cons_ne_nil _ _)]
  exact List.mem_append_left _ (List.mem_append_right _ List.mem_cons_self)

theorem Link.caption_of_label (target label letters : Text) :
    (⟨target, some label, letters⟩ : Link).caption = if label.isBlank then target else label := by
  rw [Link.caption, Option.filter_some]
  cases label.isBlank <;> rfl

/-- What is seen of a link with one label stays the same just if no blanks are lost in front of letters. -/
theorem seen_eq_iff_of_label {label letters : Text} (hbar : '|' ∉ label)
    (hletters : forall ch, ch ∈ letters -> isTrailLetter ch = true) :
    (⟨target, some label, letters⟩ : Link).seen.trim =
        Text.trim ((if label.isBlank then target else label).trim ++ letters) <->
      (⟨target, some label, letters⟩ : Link).IsPlain := by
  have hkept : forall ch, ch ∈ letters -> Chars.isBlank ch = false := by
    intro ch hch
    rw [Bool.eq_false_iff]
    intro hblank
    have hletter := hletters ch hch
    rw [isTrailLetter_of_isBlank hblank] at hletter
    cases hletter
  have hsingle : forall label', some label = some label' -> '|' ∉ label' := by
    intro label' heq
    rwa [← Option.some.inj heq]
  rw [Link.IsPlain, Link.seen, Link.caption_of_label, and_iff_right hsingle]
  exact Text.trimBy_append_eq_iff hkept

/-- A bar that is seen is not seen any more. -/
theorem seen_ne_of_bar {label letters seen : Text} (hbar : '|' ∈ label) (hseen : '|' ∉ seen) :
    (⟨target, some label, letters⟩ : Link).seen.trim ≠ seen.trim := by
  intro heq
  have hblank : label.isBlank = false := List.all_eq_false.mpr ⟨'|', hbar, by decide⟩
  have hmem : '|' ∈ (⟨target, some label, letters⟩ : Link).seen := by
    rw [Link.seen, Link.caption_of_label, hblank]
    exact List.mem_append_left _ hbar
  have hafter : '|' ∈ seen.trim := heq ▸ Text.mem_trimBy hmem (by decide)
  exact hseen (Text.mem_of_mem_trimBy hafter)

/-- The target of a link that is rewritten stays the same, and what is seen of it does just if the link is plain. -/
theorem seen_eq_iff_isPlain {back : Text} (h : Says t m target labels trail)
    (hnew : reviseLink t m = some (new, worthy)) (hback : back.head?.all (· == '[') = true) :
    exists before after, Link.read? (t.drop m.start) = some before ∧ Link.read? (new ++ back) = some after ∧
      before.target.trim = after.target.trim ∧ (before.seen.trim = after.seen.trim <-> before.IsPlain) := by
  rcases exists_rewritten h hnew with ⟨label, hlast, hrewritten⟩
  have hmem := List.mem_of_getLast? hlast
  have hlabel := h.isLabel label hmem
  have hletters : forall ch, ch ∈ trail.takeWhile isTrailLetter -> isTrailLetter ch = true := fun _ hch =>
    List.mem_takeWhile_imp hch
  rcases exists_read?_of_rewritten h.bar_not_mem h.bracket_not_mem hlabel hback hrewritten with
    ⟨after, hafter, htarget, hseen⟩
  refine ⟨_, after, h.read?_eq (List.ne_nil_of_mem hmem), hafter, ?_, ?_⟩
  · rw [htarget]
    exact (Text.trimBy_trimBy target _).symm
  · rw [hseen]
    match labels, hlast with
    | [l], hlast =>
        cases hlast
        exact seen_eq_iff_of_label hlabel.1 hletters
    | l :: l' :: labels, _ =>
        have hbar := bar_mem_joinWith l l' labels
        refine iff_of_false (seen_ne_of_bar hbar ?_) fun hplain => hplain.1 _ rfl hbar
        rw [List.mem_append, not_or]
        refine ⟨fun hmem => ?_, fun hmem => absurd (hletters _ hmem) (by decide)⟩
        have hmem := Text.mem_of_mem_trimBy hmem
        split at hmem
        · exact h.bar_not_mem hmem
        · exact hlabel.1 hmem

/-!
# Whole texts
-/

/-- How a match is answered, and whether there is something to mention. -/
def answer (t : Text) (mention : Bool) (m : Match) : Option Text × Bool :=
  match reviseLink t m with
  | some (new, worthy) => (some new, mention || worthy)
  | none => (none, mention)

theorem exists_of_answer {mention after : Bool} (h : answer t mention m = (some new, after)) :
    exists worthy, reviseLink t m = some (new, worthy) := by
  unfold answer at h
  split at h
  · rename_i new' worthy hnew
    cases h
    exact ⟨worthy, hnew⟩
  · cases h

theorem Rewritten.exists_cons {label : Text} (h : Rewritten target label trail new) : exists r, new = '[' :: r := by
  cases h with
  | bare _ => exact ⟨_, rfl⟩
  | suffixed _ _ _ => exact ⟨_, rfl⟩
  | extended _ _ => exact ⟨_, rfl⟩

theorem slice_startsWith_of_reviseLink (h : reviseLink t m = some (new, worthy)) :
    (t.slice m.span).startsWith "[[:" = false := by
  rw [Bool.eq_false_iff]
  intro hcolon
  rw [reviseLink, if_pos hcolon] at h
  cases h

section Calls

variable {calls earlier later : List (Match × Option Text)} {out : Text} {mention : Bool}

/-- The calls that are answered with a new text are those on the matches that read a link to be rewritten. -/
theorem exists_says_of_mem_calls
    (h : Region.Revised t link (Region.ignored t) Match.start (answer t) false calls out mention)
    (hmem : (m, some new) ∈ calls) :
    exists target labels trail worthy, Says t m target labels trail ∧ reviseLink t m = some (new, worthy) := by
  rcases h.called.exists_of_mem hmem with ⟨_, _, hanswer⟩
  rcases exists_of_answer hanswer with ⟨worthy, hnew⟩
  have hmatch : m ∈ link.matchList t := by
    have hfst := List.mem_map_of_mem (f := Prod.fst) hmem
    rw [h.matches_eq] at hfst
    exact (List.mem_filter.mp hfst).1
  rcases exists_says hmatch (slice_startsWith_of_reviseLink hnew) with ⟨target, labels, trail, hsays⟩
  exact ⟨target, labels, trail, worthy, hsays, hnew⟩

/-- Every new text begins with a bracket. -/
theorem exists_cons_of_mem_answered
    (h : Region.Revised t link (Region.ignored t) Match.start (answer t) false calls out mention) {e : Edit}
    (he : e ∈ Region.answered calls) : exists c r, e.text = c :: r ∧ (c == '[') = true := by
  rcases List.mem_filterMap.mp he with ⟨⟨m, answer⟩, hmem, heq⟩
  rcases Option.map_eq_some_iff.mp heq with ⟨new, hnew, rfl⟩
  dsimp only at hnew
  subst hnew
  rcases exists_says_of_mem_calls h hmem with ⟨target, labels, trail, worthy, hsays, hnew⟩
  rcases exists_rewritten hsays hnew with ⟨label, _, hrewritten⟩
  rcases hrewritten.exists_cons with ⟨r, hr⟩
  exact ⟨'[', r, hr, rfl⟩

/-- In the place of a link that is rewritten stands one with the same target, and what is seen of it is the same just if
the link is plain. -/
theorem seen_eq_iff_of_call
    (h : Region.Revised t link (Region.ignored t) Match.start (answer t) false (earlier ++ (m, some new) :: later) out
      mention) :
    exists front back before after, out = front ++ new ++ back ∧
      Edit.Copied (t.take m.start) 0 (Region.answered earlier) front ∧
      Edit.Copied t m.stop (Region.answered later) back ∧
      Link.read? (t.drop m.start) = some before ∧ Link.read? (new ++ back) = some after ∧
      before.target.trim = after.target.trim ∧ (before.seen.trim = after.seen.trim <-> before.IsPlain) := by
  have hanswered : Region.answered (earlier ++ (m, some new) :: later) =
      Region.answered earlier ++ ⟨m.span, new⟩ :: Region.answered later := by
    rw [Region.answered, List.filterMap_append]
    rfl
  have hcopied := h.copied
  rw [hanswered] at hcopied
  rcases hcopied.exists_split with ⟨front, back, hout, hfront, hback⟩
  rcases exists_says_of_mem_calls h (List.mem_append_right _ List.mem_cons_self) with
    ⟨target, labels, trail, worthy, hsays, hnew⟩
  have hbracket : back.head?.all (· == '[') = true := by
    refine hback.head?_all hsays.bracket_next fun e he => exists_cons_of_mem_answered h ?_
    rw [hanswered]
    exact List.mem_append_right _ (List.mem_cons_of_mem _ he)
  rcases seen_eq_iff_isPlain hsays hnew hbracket with ⟨before, after, hbefore, hafter, htarget, hseen⟩
  exact ⟨front, back, before, after, hout, hfront, hback, hbefore, hafter, htarget, hseen⟩

end Calls

end Links

/-!
# The rule
-/

namespace Rule

open Links

/-- The rule rewrites some links of a text.  Each keeps its target, and what is seen of it stays the same just if it has
a single label, and no blanks between what it shows and letters behind it. -/
theorem links_keep_seen_iff (x : Context) (t : Text) :
    exists calls mention, links.run x t =
        .ok (Outcome.of? t (reviseAll t).1 (if mention then some "revisando enlaces" else none)) ∧
      Region.Revised t link (Region.ignored t) Match.start (answer t) false calls (reviseAll t).1 mention ∧
      forall earlier m new later, calls = earlier ++ (m, some new) :: later ->
        exists front back before after, (reviseAll t).1 = front ++ new ++ back ∧
          Edit.Copied (t.take m.start) 0 (Region.answered earlier) front ∧
          Edit.Copied t m.stop (Region.answered later) back ∧
          Link.read? (t.drop m.start) = some before ∧ Link.read? (new ++ back) = some after ∧
          before.target.trim = after.target.trim ∧ (before.seen.trim = after.seen.trim <-> before.IsPlain) := by
  rcases Region.exists_revised_reviseWith t link (Region.ignored t) Match.start (answer t) false with ⟨calls, hrevised⟩
  refine ⟨calls, _, rfl, hrevised, ?_⟩
  rintro earlier m new later rfl
  exact seen_eq_iff_of_call hrevised

/-- A link with two labels. -/
def linkWithTwoLabels : Text :=
  "[[casa|x|casa]]"

/-- What is seen of a link that is rewritten may change. -/
theorem not_forall_seen_eq :
    ¬ forall (t new : Text) (m : Match) (worthy : Bool) (before after : Link),
      m ∈ Region.matchesOutside link (Region.ignored t) Match.start t -> reviseLink t m = some (new, worthy) ->
      Link.read? (t.drop m.start) = some before -> Link.read? new = some after ->
      before.seen.trim = after.seen.trim := by
  intro h
  have hseen := h linkWithTwoLabels "[[casa]]" ⟨⟨0, 15⟩, [(3, ⟨15, 15⟩), (2, ⟨9, 13⟩), (2, ⟨7, 8⟩), (1, ⟨2, 6⟩)]⟩ true
    ⟨"casa", some "x|casa", []⟩ ⟨"casa", none, []⟩ (by decide +kernel) (by decide +kernel) (by decide +kernel)
    (by decide +kernel)
  exact absurd hseen (by decide +kernel)

end Rule
end WikiEntry
