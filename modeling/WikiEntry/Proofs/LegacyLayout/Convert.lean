import WikiEntry.Proofs.LegacyLayout.Insertion
import WikiEntry.Proofs.Text.Numbers

/-!
# Converting current pages

Once the headers are inserted, every step of the conversion keeps the page current: references are taken out and put at
the end, spellings go below the headers, and each language is arranged around its etymologies.
-/

namespace WikiEntry
namespace LegacyLayout

variable {p q : Page}

/-!
# References and levels
-/

theorem currentPage_takeReferences {c : Config} {references : List Section} (h : CurrentPage p)
    (htaken : takeReferences c p = .ok (q, references)) :
    CurrentPage q ∧ forall s, s ∈ references -> CurrentSection s := by
  rcases exists_of_bind_eq_ok htaken with ⟨sections, hsections, htaken⟩
  cases htaken
  refine ⟨h.foldl fun _ _ _ h => h.setOrder _, fun s hs => ?_⟩
  rcases exists_of_mem_of_mapM_eq_ok hsections hs with ⟨i, _, hlevel⟩
  exact currentSection_of_setLevel ((h.get i).setHeader c (isCurrent_of_not_mem (by decide))) hlevel

theorem CurrentPage.lower (h : CurrentPage p) : CurrentPage (lower p) :=
  h.putLevels _

/-!
# Etymologies
-/

theorem CurrentPage.mergeInto (h : CurrentPage p) (i : Nat) {etymology : Section} (hetymology : CurrentSection etymology) :
    CurrentPage (mergeInto p i etymology).1 ∧ CurrentSection (mergeInto p i etymology).2 := by
  refine ⟨?_, hetymology.setIntro (isCurrent_mergeIntros (h.get i).body hetymology.body)⟩
  rw [LegacyLayout.mergeInto]
  dsimp only
  split
  · exact h.modify i fun s hs => (hs.setIntro (t := []) rfl).setTrailing 1
  · exact h

theorem CurrentPage.codeBefore? (h : CurrentPage p) (i : Nat) {code : Text} (hcode : codeBefore? p i = some code) :
    IsCurrent code := by
  rcases Option.bind_eq_some_iff.mp hcode with ⟨n, _, hcode⟩
  rcases List.exists_of_findSome?_eq_some hcode with ⟨j, _, hcode⟩
  rcases Option.map_eq_some_iff.mp hcode with ⟨language, hlanguage, rfl⟩
  rw [LanguageHeader.code]
  cases hvalue : language.template.get? "1" with
  | none => rfl
  | some value => exact isCurrent_get? (isCurrent_render_iff.mp ((h.get j).language language hlanguage)).2 hvalue

/-- The template that an etymology without a text gets. -/
theorem isCurrent_etymologyTemplate {code : Text} (hcode : IsCurrent code) :
    IsCurrent ("\x7b\x7betimología|leng=" ++ code ++ "\x7d\x7d.") := by
  have heq : "\x7b\x7betimología|leng=" ++ code ++ "\x7d\x7d." =
      "\x7b\x7betimología".toList ++ '|' :: ("leng".toList ++ '=' :: (code ++ '\x7d' :: "\x7d.".toList)) := by
    simp
  rw [heq, isCurrent_append_iff (by decide), isCurrent_append_iff (by decide), isCurrent_append_iff (by decide)]
  exact ⟨by decide +kernel, isCurrent_of_not_mem (by decide), hcode, isCurrent_of_not_mem (by decide)⟩

/-- An etymology gets a template if it has no text, and is put below its section. -/
theorem currentPage_prependEtymology {i j : Nat} {etymology : Section} (h : CurrentPage p)
    (hetymology : CurrentSection etymology)
    (hput : ((p.create (if etymology.intro.isEmpty then
        etymology.setIntro ("\x7b\x7betimología|leng=" ++ (codeBefore? p i).getD "es" ++ "\x7d\x7d.")
      else etymology)).1.prependChildren i [j]).toExcept = .ok q) : CurrentPage q := by
  rw [Page.page_of_toExcept hput]
  refine CurrentPage.moveBehind (h.create ?_) _ _ _ _
  split
  · refine hetymology.setIntro (isCurrent_etymologyTemplate ?_)
    cases hcode : codeBefore? p i with
    | none => exact isCurrent_of_not_mem (by decide)
    | some code => exact h.codeBefore? i hcode
  · exact hetymology

theorem currentPage_addEtymology {i : Nat} {linesOnly : Bool} (h : CurrentPage p)
    (hadded : addEtymology p i linesOnly = .ok q) : CurrentPage q := by
  rcases exists_of_bind_eq_ok hadded with ⟨empty, hempty, hadded⟩
  have hnew := (currentSection_ofHeader hempty (isCurrent_of_not_mem (by decide))).setTrailing 1
  cases linesOnly with
  | false =>
      have hmerged := h.mergeInto i hnew
      exact currentPage_prependEtymology hmerged.1 hmerged.2 hadded
  | true =>
      have hmoved := currentSection_move (h.get i) hnew
      exact currentPage_prependEtymology (h.modify i fun _ _ => hmoved.1) hmoved.2 hadded

theorem currentPage_mergeGroup {i first : Nat} (h : CurrentPage p) (hmerged : mergeGroup p i first = .ok q) :
    CurrentPage q := by
  rcases exists_of_bind_eq_ok hmerged with ⟨p', hlevel, hmerged⟩
  cases hmerged
  rw [Page.page_of_toExcept hlevel]
  have hset := h.setLevel first 3
  have hinto := hset.mergeInto i (hset.get first)
  exact hinto.1.modify first fun s hs => hs.setIntro hinto.2.body

theorem CurrentPage.dropGroup (h : CurrentPage p) (i : Nat) : CurrentPage (dropGroup p i) := by
  rw [LegacyLayout.dropGroup]
  split
  · exact h
  · exact h.setOrder _

theorem currentPage_arrange? {x : Context} {i : Nat} (h : CurrentPage p) (harranged : arrange? x p i = .ok (some q)) :
    CurrentPage q := by
  have hsame : forall {r : Page}, CurrentPage r -> (Except.ok (some r) : Except EntryError (Option Page)) = .ok (some q) ->
      CurrentPage q := by
    intro r hr heq
    cases heq
    exact hr
  rw [arrange?] at harranged
  split at harranged
  · exact hsame h harranged
  · split at harranged
    · exact hsame h harranged
    · split at harranged
      · split at harranged
        · exact hsame h harranged
        · exact hsame (h.setOrder _) harranged
      · split at harranged
        · exact hsame h harranged
        · split at harranged
          · rcases exists_of_bind_eq_ok harranged with ⟨p', hadded, harranged⟩
            exact hsame ((currentPage_addEtymology h hadded).dropGroup i) harranged
          · split at harranged
            · rcases exists_of_bind_eq_ok harranged with ⟨p', hadded, harranged⟩
              exact hsame ((currentPage_addEtymology h hadded).dropGroup i) harranged
            · split at harranged
              · split at harranged
                · exact hsame h harranged
                · cases harranged
              · rcases exists_of_bind_eq_ok harranged with ⟨p', hmerged, harranged⟩
                exact hsame ((currentPage_mergeGroup h hmerged).setOrder _) harranged

theorem currentPage_arrangeAll? {x : Context} {ids : List Nat} (h : CurrentPage p)
    (harranged : arrangeAll? x p ids = .ok (some q)) : CurrentPage q := by
  induction ids generalizing p with
  | nil =>
      cases harranged
      exact h
  | cons i ids ih =>
      rcases exists_of_bind_eq_ok harranged with ⟨p', harranged', harranged⟩
      cases p' with
      | none => cases harranged
      | some p' => exact ih (currentPage_arrange? h harranged') harranged

/-!
# Languages
-/

theorem CurrentPage.dropEmptyLanguages (h : CurrentPage p) : CurrentPage (dropEmptyLanguages p) := by
  refine h.foldl fun p i _ h => ?_
  split
  · exact h.setOrder _
  · exact h

theorem isCurrent_of_mem_etymologyHeaders {count : Nat} {header : Text} (h : header ∈ Headers.etymologyHeaders count) :
    IsCurrent header := by
  rw [Headers.etymologyHeaders] at h
  split at h
  · rcases List.mem_map.mp h with ⟨n, _, rfl⟩
    refine isCurrent_of_not_mem fun hmem => ?_
    rcases List.mem_append.mp hmem with hmem | hmem
    · exact absurd hmem (by decide)
    · exact absurd (Text.isDigit_of_mem_ofNumber hmem) (by decide)
  · rw [List.mem_singleton.mp h]
    exact isCurrent_of_not_mem (by decide)

theorem currentPage_settleLanguage {c : Config} {i : Nat} (h : CurrentPage p)
    (hsettled : settleLanguage c p i = .ok q) : CurrentPage q := by
  -- The headers are set whatever was done about the levels before.
  have hset : forall {x : Except EntryError Page}, (forall r, x = .ok r -> CurrentPage r) ->
      (x >>= fun r => pure (((p.findBelow i Marks.anyEtymologyHeader).zip
        (Headers.etymologyHeaders (p.findBelow i Marks.anyEtymologyHeader).length)).foldl
          (fun p x => p.modify x.1 (·.setHeader c x.2)) r)) = .ok q -> CurrentPage q := by
    intro x hx hq
    rcases exists_of_bind_eq_ok hq with ⟨r, hr, hq⟩
    cases hq
    refine (hx r hr).foldl fun p y hy h => h.modify y.1 fun s hs => hs.setHeader c ?_
    exact isCurrent_of_mem_etymologyHeaders (List.of_mem_zip hy).2
  rw [settleLanguage] at hsettled
  split at hsettled
  · refine hset (x := pure p) (fun r hr => ?_) hsettled
    cases hr
    exact h
  · exact hset (fun r hr => h.shiftAll hr) hsettled
  · exact hset (fun r hr => h.shiftAll hr) hsettled

/-!
# The conversion
-/

/-- Once the headers are inserted, the page is flagged or its texts are current in the end. -/
theorem of_convert_eq_ok {x : Context} {t : Text} {verdict : Option Outcome} (h : IsCurrent (insertHeaders x.title t))
    (hconvert : convert x t = .ok verdict) : flag x t = .ok verdict ∨
      exists p, CurrentPage p ∧ verdict = Outcome.ofPage? t p "conversión a la nueva estructura" := by
  rcases exists_of_bind_eq_ok hconvert with ⟨p1, hread, hconvert⟩
  rcases exists_of_bind_eq_ok hconvert with ⟨⟨p2, references⟩, htaken, hconvert⟩
  rcases exists_of_bind_eq_ok hconvert with ⟨p3, hreread, hconvert⟩
  rcases exists_of_bind_eq_ok hconvert with ⟨arranged?, harranged, hconvert⟩
  rcases currentPage_takeReferences (currentPage_of_read hread h) htaken with ⟨h2, hreferences⟩
  have h3 := currentPage_of_read hreread h2.lower.render
  have hmoved : CurrentPage (p3.order.foldl (fun p i => p.modify i moveSpelling) p3) :=
    h3.foldl fun p i _ h => h.modify i fun s hs => hs.moveSpelling
  cases arranged? with
  | none => exact Or.inl hconvert
  | some p4 =>
      rcases exists_of_bind_eq_ok hconvert with ⟨p5, hsettled, hconvert⟩
      cases hconvert
      have h4 := (currentPage_arrangeAll? hmoved harranged).dropEmptyLanguages.normalizeLevels
      have h5 := h4.foldlM (fun p i q h hq => currentPage_settleLanguage h hq) hsettled
      exact Or.inr ⟨_, h5.foldl fun p s hs h => h.append (hreferences s hs), rfl⟩

theorem run_eq_convert {x : Context} {t : Text} (hx : x.legacy = true)
    (hmanual : manual.any (Marks.hasTemplate (Region.stripHidden t)) = false) :
    Rule.legacyLayout.run x t = convert x t := by
  have hrun : Rule.legacyLayout.run x t =
      if x.legacy && !manual.any (Marks.hasTemplate (Region.stripHidden t)) then convert x t else .ok none := rfl
  have hcond : (x.legacy && !manual.any (Marks.hasTemplate (Region.stripHidden t))) = true := by
    rw [hx, hmanual]
    decide
  rw [hrun]
  exact if_pos hcond

/-- A page in the legacy layout is flagged or converted as a whole, as long as the first language template of each line is
all that the line has of that layout. -/
theorem isLegacy_eq_false_of_linesConvert {x : Context} {t : Text} {verdict : Option Outcome} (hx : x.legacy = true)
    (hlegacy : Marks.isLegacy t = true) (hmanual : manual.any (Marks.hasTemplate (Region.stripHidden t)) = false)
    (hlines : LinesConvert t) (hrun : Rule.legacyLayout.run x t = .ok verdict) :
    flag x t = .ok verdict ∨ exists o, verdict = some o ∧ Marks.isLegacy o.text = false := by
  rw [run_eq_convert hx hmanual] at hrun
  rcases of_convert_eq_ok (isCurrent_insertHeaders hlines x.title) hrun with hflag | ⟨p, hp, rfl⟩
  · exact Or.inl hflag
  · right
    have hrender := hp.render
    rw [Outcome.ofPage?, Outcome.of?]
    split
    · exact ⟨_, rfl, isLegacy_eq_false hrender⟩
    · rename_i hunchanged
      -- A text that stays as it is would be current, and then it were none to be converted.
      have hsame : t.trimRight = p.render.trimRight := by simpa [changed] using hunchanged
      have htrimmed : IsCurrent t.trimRight := by
        rw [hsame]
        exact hrender.trimRightBy fun _ hc => hc
      rw [isLegacy_eq_false htrimmed.of_trimRight] at hlegacy
      cases hlegacy

/-- An entry with the spelling of a word in its legacy template. -/
def entryWithSpelling : Text :=
  "x \x7b\x7bFR-ES|núm=1|tt\x7d\x7d\n==Sustantivo==\n;1: a \x7b\x7bb\x7d\x7d"

def convertedEntry : Outcome where
  text := "x\n==\x7b\x7blengua|fr\x7d\x7d==\n\x7b\x7bdiacrítico|tt\x7d\x7d.\n=== Etimología ===\n" ++
    "\x7b\x7betimología|leng=fr\x7d\x7d.\n\n===Sustantivo===\n;1: a \x7b\x7bb\x7d\x7d"
  summary := some "conversión a la nueva estructura"

theorem isLegacy_eq_false_convertedEntry :
    Marks.isLegacy entryWithSpelling = true ∧ LinesConvert entryWithSpelling ∧
      Rule.legacyLayout.run ⟨.builtin, "t", true⟩ entryWithSpelling = .ok (some convertedEntry) ∧
      (flag ⟨.builtin, "t", true⟩ entryWithSpelling = .ok (some convertedEntry) ∨
        exists o, some convertedEntry = some o ∧ Marks.isLegacy o.text = false) := by
  have hlegacy : Marks.isLegacy entryWithSpelling = true := by decide +kernel
  have hlines : LinesConvert entryWithSpelling := by decide +kernel
  have hrun : Rule.legacyLayout.run ⟨.builtin, "t", true⟩ entryWithSpelling = .ok (some convertedEntry) := by
    decide +kernel
  exact ⟨hlegacy, hlines, hrun, isLegacy_eq_false_of_linesConvert rfl hlegacy (by decide +kernel) hlines hrun⟩

/-- Two headers of the legacy layout on one line. -/
def entryWithTwoHeaders : Text :=
  "\x7b\x7bES\x7d\x7d\x7b\x7bFR-ES\x7d\x7d"

/-- Of several headers on a line only the first one is converted. -/
theorem not_forall_isLegacy_eq_false :
    ¬ forall (x : Context) (t : Text) (verdict : Option Outcome), x.legacy = true -> Marks.isLegacy t = true ->
      manual.any (Marks.hasTemplate (Region.stripHidden t)) = false -> Rule.legacyLayout.run x t = .ok verdict ->
        flag x t = .ok verdict ∨ exists o, verdict = some o ∧ Marks.isLegacy o.text = false := by
  intro h
  have hconverted := h ⟨.builtin, "t", true⟩ entryWithTwoHeaders
    (some ⟨"==\x7b\x7blengua|es\x7d\x7d==\n\x7b\x7bFR-ES\x7d\x7d\n=== Etimología ===\n\x7b\x7betimología|leng=es\x7d\x7d.\n",
      some "conversión a la nueva estructura"⟩) rfl (by decide +kernel) (by decide +kernel) (by decide +kernel)
  rcases hconverted with hflag | ⟨o, ho, hcurrent⟩
  · exact absurd hflag (by decide +kernel)
  · cases ho
    exact absurd hcurrent (by decide +kernel)

end LegacyLayout
end WikiEntry
