import WikiEntry.Proofs.Page.Parts

/-!
# The parts of a page that was read

Nothing is printed longer than it was read.  A page that is printed as the text it was read from is therefore made of
the pieces that were read, and the lines at which the text was cut are the first lines of its sections.
-/

namespace WikiEntry
namespace Page

/-!
# Trailing content
-/

/-- The body that is left of a section in front of links does not take up more, the links and the newline in front of
them included, than the body that held them. -/
theorem length_render_bodyBeforeLinks_le {s : Section} {before links : Text} (hlinks : links ≠ [])
    (hfits : (if before = [] then 0 else before.length + 1) + links.length ≤ s.intro.length) :
    (Section.render { s with body := bodyBeforeLinks s.body before }).length + (links.length + 1) ≤
      s.render.length := by
  have hpos := List.length_pos_iff.mpr hlinks
  have hintro : s.intro ≠ [] := by
    intro hnil
    rw [hnil, List.length_nil] at hfits
    omega
  rw [Section.length_render, s.length_render, if_neg hintro]
  show s.renderHeader.length + _ + _ ≤ _
  by_cases hbefore : before = []
  · have hbody : bodyBeforeLinks s.body [] = ⟨0, [], s.body.leading⟩ := rfl
    rw [if_pos hbefore] at hfits
    rw [hbefore, hbody, Section.intro, if_pos rfl, List.length_nil]
    show s.renderHeader.length + (0 + (0 + 0 + s.body.leading)) + _ ≤ _
    omega
  · have hbody : bodyBeforeLinks s.body before =
        ⟨if (before.trimRightBy (· == '\n')).isBlank then 0 else s.body.leading, (before.trimRightBy (· == '\n')).trim,
          before.length - (before.trimRightBy (· == '\n')).length⟩ := by
      rw [bodyBeforeLinks, if_neg (by simpa using hbefore)]
      rfl
    have hkept := Text.length_trimRightBy_le before (· == '\n')
    have htrim : (before.trimRightBy (· == '\n')).trim.length ≤ (before.trimRightBy (· == '\n')).length :=
      Text.length_trimBy_le _ _
    rw [if_neg hbefore] at hfits
    rw [hbody, Section.intro]
    dsimp only
    split <;> split <;> omega

/-- What stands in front of the links, the newline between them, and the links stand in the text of the section. -/
theorem length_before_links_le {intro links : Text} {ch : Char} {m : Match}
    (hslice : Text.slice ('\n' :: intro) m.span = ch :: links) (hlinks : links ≠ []) :
    (if Text.slice ('\n' :: intro) ⟨1, m.start⟩ = [] then 0
      else (Text.slice ('\n' :: intro) ⟨1, m.start⟩).length + 1) + links.length ≤ intro.length := by
  have hpos := List.length_pos_iff.mpr hlinks
  have hlinksFit : links.length + 1 ≤ intro.length + 1 - m.start := by
    rw [← List.length_cons, ← hslice, Text.slice, List.length_take, List.length_drop]
    exact Nat.min_le_right _ _
  have hbeforeFit : (Text.slice ('\n' :: intro) ⟨1, m.start⟩).length ≤ m.start - 1 := List.length_take_le _ _
  by_cases hbefore : Text.slice ('\n' :: intro) ⟨1, m.start⟩ = []
  · rw [if_pos hbefore]
    omega
  · have hbeforePos := List.length_pos_iff.mpr hbefore
    rw [if_neg hbefore]
    omega

/-- Splitting links off only changes the body of the last section, which with the links behind it is not printed longer
than it was. -/
theorem exists_last_splitTrailing (c : Config) {p : Page} {ss : List Section} {s : Section}
    (horder : p.order = List.range p.sections.length) (hsections : p.sections = ss ++ [s])
    (htrailing : p.trailingContent = []) :
    exists s', (splitTrailing c p).sections = ss ++ [s'] ∧ s'.line = s.line ∧
      (Text.joinWith "\n" (s'.render :: (splitTrailing c p).trailingPart)).length ≤ s.render.length := by
  have hlast : p.order.getLast? = some ss.length := by
    rw [horder, hsections, List.length_append, List.length_singleton, List.range_succ, List.getLast?_concat]
  have hget : p.get ss.length = s := by
    rw [get, hsections, List.getD_eq_getElem?_getD, List.getElem?_concat_length]
    rfl
  unfold splitTrailing
  rw [hlast]
  dsimp only
  cases hm : c.closingLinks.find? ('\n' :: (p.get ss.length).intro) with
  | none =>
      refine ⟨s, hsections, rfl, ?_⟩
      rw [trailingPart_of_eq_nil htrailing]
      exact Nat.le_refl _
  | some m =>
      rcases exists_drop_of_closingLinks hm with ⟨links, _, hslice, hseen⟩
      have hlinks : links ≠ [] := by
        rintro rfl
        cases hseen
      dsimp only
      rw [hslice, hget]
      rw [hget] at hslice
      have hfits := length_before_links_le hslice hlinks
      generalize Text.slice ('\n' :: s.intro) ⟨1, m.start⟩ = before at hfits
      refine ⟨{ s with body := bodyBeforeLinks s.body before }, ?_, rfl, ?_⟩
      · show p.sections.modify ss.length _ = _
        rw [hsections, List.modify_eq_take_drop, List.take_left, List.drop_left]
        rfl
      · rw [trailingPart_of_ne_nil (by exact hlinks), Text.joinWith_cons (List.cons_ne_nil _ _), List.append_assoc,
          List.length_append]
        exact length_render_bodyBeforeLinks_le hlinks hfits

/-!
# Groups of marked lines
-/

/-- The lines of a section, the first of which begins it. -/
def marked : List Text -> List (Bool × Text)
  | [] => []
  | l :: ls => (true, l) :: ls.map (false, ·)

theorem eq_groups (lines : List (Bool × Text)) :
    lines = (groups lines).1.map (false, ·) ++ ((groups lines).2.map marked).flatten := by
  induction lines with
  | nil => rfl
  | cons x lines ih =>
      rcases x with ⟨begins, l⟩
      cases begins with
      | true => exact congrArg ((true, l) :: ·) ih
      | false => exact congrArg ((false, l) :: ·) ih

theorem headerLines_map_false (ls : List Text) : headerLines (ls.map (false, ·)) = [] := by
  induction ls with
  | nil => rfl
  | cons l ls ih => exact ih

/-- Segments with the lines of the groups are the groups, with the first line of each marked. -/
theorem segments_eq {lines front : List (Bool × Text)} {segments : List (List (Bool × Text))}
    (hlines : lines = front ++ segments.flatten)
    (hgroups : segments.map (List.map Prod.snd) = (groups lines).2) :
    front = (groups lines).1.map (false, ·) ∧ segments = (groups lines).2.map marked := by
  have hfront : front.map Prod.snd = (groups lines).1 := by
    have h := groups_append_flatten lines
    rw [← hgroups, ← List.map_flatten] at h
    conv at h =>
      rhs
      rw [hlines, List.map_append]
    exact (List.append_cancel_right h).symm
  have hlength : front.length = ((groups lines).1.map (fun l => (false, l))).length := by
    rw [List.length_map, ← hfront, List.length_map]
  rcases List.append_inj (hlines.symm.trans (eq_groups lines)) hlength with ⟨hfront, hflatten⟩
  refine ⟨hfront, List.eq_iff_flatten_eq.mpr ⟨hflatten, ?_⟩⟩
  have hmarked : forall ls, (marked ls).length = ls.length := by
    intro ls
    cases ls with
    | nil => rfl
    | cons l ls => exact congrArg Nat.succ (List.length_map _)
  rw [← hgroups, List.map_map, List.map_map]
  refine List.map_congr_left fun segment _ => ?_
  rw [Function.comp_apply, Function.comp_apply, hmarked, List.length_map]

/-- Of the beginning of a marked section, and of what is behind it, only the beginning has the header line. -/
theorem headerLines_of_marked {ls : List Text} {front back : List (Bool × Text)} (hfront : front ≠ [])
    (h : marked ls = front ++ back) :
    exists line rest, ls = line :: rest ∧ headerLines front = [line] ∧ headerLines back = [] := by
  cases front with
  | nil => exact absurd rfl hfront
  | cons x front =>
      cases ls with
      | nil => cases h
      | cons line rest =>
          rcases List.cons.inj h with ⟨rfl, hrest⟩
          have hrest : rest.map (false, ·) = front ++ back := hrest
          have hnone := headerLines_map_false rest
          rw [hrest, headerLines_append] at hnone
          rcases List.append_eq_nil_iff.mp hnone with ⟨hnone, hback⟩
          exact ⟨line, rest, rfl, congrArg (line :: ·) hnone, hback⟩

/-- A section that is printed as the lines that it was read from, or as the first of them, has the header line that it
was read from. -/
theorem headerLines_of_read {c : Config} {ls : List Text} {s s' : Section} {back : List (Bool × Text)}
    (hnewline : forall l, l ∈ ls -> '\n' ∉ l) (hread : Section.read c (Text.joinWith "\n" ls) = .ok s)
    (hline : s'.line = s.line) (hmarked : marked ls = markedLines s'.render ++ back) :
    (exists line, headerLines (markedLines s'.render) = [line] ∧ Section.ReadsAs c line (s'.level, s'.header)) ∧
      headerLines back = [] := by
  have hne : markedLines s'.render ≠ [] := by
    intro hnil
    have hlines := map_snd_linesFrom (Region.ignored s'.render) 0 s'.render
    rw [← markedLines, hnil] at hlines
    exact Text.lines_ne_nil _ hlines.symm
  rcases headerLines_of_marked hne hmarked with ⟨line, rest, rfl, hfront, hback⟩
  refine ⟨⟨line, hfront, ?_⟩, hback⟩
  rw [Section.read_joinWith c (hnewline line List.mem_cons_self)] at hread
  cases hs : Section.read c line with
  | error e =>
      rw [hs] at hread
      cases hread
  | ok s'' =>
      rw [hs] at hread
      cases hread
      refine ⟨s'', hs, ?_⟩
      rw [Section.level, Section.header, Section.level, Section.header, hline]

/-!
# Pages that are printed as they were read
-/

theorem order_splitTrailing (c : Config) (p : Page) : (splitTrailing c p).order = p.order := by
  unfold splitTrailing
  split
  · rfl
  · dsimp only
    split
    · rfl
    · rfl

theorem front_splitTrailing (c : Config) (p : Page) : (splitTrailing c p).front = p.front := by
  unfold splitTrailing
  split
  · rfl
  · dsimp only
    split
    · rfl
    · rfl

theorem map_snd_flatMap_markedLines (ts : List Text) :
    (ts.flatMap markedLines).map Prod.snd = ts.flatMap (Text.splitOn · ['\n']) := by
  rw [List.map_flatMap]
  exact congrArg (ts.flatMap ·) (funext fun t => map_snd_linesFrom (Region.ignored t) 0 t)

/-- The lines of a text that was read as sections are the lines of what is printed for them. -/
theorem segments_eq_marked {u : Text} {front : List (Bool × Text)} {texts : List (List Text)}
    (htexts : forall ts, ts ∈ texts -> ts ≠ [])
    (hpieces : texts.map (Text.joinWith "\n") = dropNewlines (chunks u).2)
    (hlines : markedLines u = front ++ texts.flatten.flatMap markedLines) :
    headerLines front = [] ∧ texts.map (List.flatMap markedLines) = (groups (markedLines u)).2.map marked := by
  have hflatten : texts.flatten.flatMap markedLines = (texts.map (List.flatMap markedLines)).flatten := by
    rw [← List.flatMap_id, List.flatMap_assoc, List.flatMap_def]
    rfl
  rw [hflatten] at hlines
  have hgroups : (texts.map (List.flatMap markedLines)).map (List.map Prod.snd) = (groups (markedLines u)).2 := by
    have h := congrArg (List.map (Text.splitOn · ['\n'])) hpieces
    rw [dropNewlines_chunks, List.map_map, List.map_map] at h
    rw [List.map_map]
    refine (List.map_congr_left fun ts hts => ?_).trans (h.trans ?_)
    · rw [Function.comp_apply, Function.comp_apply, map_snd_flatMap_markedLines,
        Text.lines_joinWith_eq_flatMap (htexts ts hts)]
    · refine (List.map_congr_left fun ls hls => ?_).trans (List.map_id _)
      exact Text.lines_joinWith (ne_nil_of_mem_groups hls) (newline_not_mem_of_mem_groups hls)
  rcases segments_eq hlines hgroups with ⟨hfront, hsegments⟩
  rw [hfront]
  exact ⟨headerLines_map_false _, hsegments⟩

theorem headerLines_eq_nil {u : Text} (h : dropNewlines (chunks u).2 = []) : headerLines (markedLines u) = [] := by
  have hheads := head?_groups (markedLines u)
  rw [dropNewlines_chunks, List.map_eq_nil_iff] at h
  rw [h] at hheads
  exact List.map_eq_nil_iff.mp hheads.symm

theorem parts_of_order_eq_nil {p : Page} (horder : p.order = []) (htrailing : p.trailingContent = []) :
    p.parts = [p.front.dropLast] := by
  rw [parts, frontPart, if_neg fun h => h.2 horder, horder, trailingPart_of_eq_nil htrailing]
  rfl

section Sections

variable {c : Config} {p : Page} {ss : List Section} {s s' : Section}

/-- What is printed for each section, the trailing content with the last one. -/
def sectionTexts (p : Page) (ss : List Section) (s' : Section) : List (List Text) :=
  ss.map (fun s => [s.render]) ++ [s'.render :: p.trailingPart]

theorem ne_nil_of_mem_sectionTexts {ts : List Text} (hts : ts ∈ p.sectionTexts ss s') : ts ≠ [] := by
  rcases List.mem_append.mp hts with hts | hts
  · rcases List.mem_map.mp hts with ⟨s, _, rfl⟩
    exact List.cons_ne_nil _ _
  · rw [List.mem_singleton.mp hts]
    exact List.cons_ne_nil _ _

theorem flatten_sectionTexts :
    (p.sectionTexts ss s').flatten = ss.map Section.render ++ s'.render :: p.trailingPart := by
  rw [sectionTexts, List.flatten_append, List.flatten_singleton, ← List.flatMap_def, List.map_eq_flatMap]

theorem parts_eq_sectionTexts (hsections : p.sections = ss ++ [s']) (horder : p.order = List.range p.sections.length) :
    p.parts = p.frontPart ++ (p.sectionTexts ss s').flatten := by
  rw [parts, map_get_of_order horder Section.render, hsections, flatten_sectionTexts, List.map_append,
    List.append_assoc, List.append_assoc]
  rfl

theorem length_le_of_read {pieces : List Text} {t : Text}
    (hmap : pieces.map (Section.read c) = (ss ++ [s]).map .ok) (hle : t.length ≤ s.render.length) :
    List.Forall₂ (fun t u => t.length ≤ u.length) (ss.map Section.render ++ [t]) pieces := by
  induction ss generalizing pieces with
  | nil =>
      rcases List.map_eq_singleton_iff.mp hmap with ⟨piece, rfl, hread⟩
      exact .cons (hle.trans (Section.length_render_le_of_read hread)) .nil
  | cons x ss ih =>
      rcases List.map_eq_cons_iff.mp hmap with ⟨piece, pieces, rfl, hread, hpieces⟩
      exact .cons (Section.length_render_le_of_read hread) (ih hpieces)

/-- What is printed for the sections is what was read, if it joins to the same text. -/
theorem map_joinWith_sectionTexts {pieces : List Text} (hmap : pieces.map (Section.read c) = (ss ++ [s]).map .ok)
    (hle : (Text.joinWith "\n" (s'.render :: p.trailingPart)).length ≤ s.render.length)
    (hjoin : Text.joinWith "\n" (p.sectionTexts ss s').flatten = Text.joinWith "\n" pieces) :
    (p.sectionTexts ss s').map (Text.joinWith "\n") = pieces := by
  have htexts : (p.sectionTexts ss s').map (Text.joinWith "\n") =
      ss.map Section.render ++ [Text.joinWith "\n" (s'.render :: p.trailingPart)] := by
    rw [sectionTexts, List.map_append, List.map_map]
    rfl
  rw [flatten_sectionTexts, ← Text.joinWith_append_joinWith _ (List.cons_ne_nil _ _)] at hjoin
  rw [htexts]
  exact Text.eq_of_joinWith (length_le_of_read hmap hle) hjoin

/-- Sections whose printed lines are the lines that they were read from have the header lines of these. -/
theorem headerLines_of_marked_sectionTexts {gs : List (List Text)}
    (hmap : (gs.map (Text.joinWith "\n")).map (Section.read c) = (ss ++ [s]).map .ok) (hline : s'.line = s.line)
    (hnewline : forall ls, ls ∈ gs -> forall l, l ∈ ls -> '\n' ∉ l)
    (hmarked : (p.sectionTexts ss s').map (List.flatMap markedLines) = gs.map marked) :
    (forall x, x ∈ ss ++ [s'] -> exists line, headerLines (markedLines x.render) = [line] ∧
      Section.ReadsAs c line (x.level, x.header)) ∧ headerLines (p.trailingPart.flatMap markedLines) = [] := by
  induction ss generalizing gs with
  | nil =>
      rw [List.map_map] at hmap
      rcases List.map_eq_singleton_iff.mp hmap with ⟨ls, rfl, hread⟩
      have hls := (List.cons.inj hmarked).1
      rcases headerLines_of_read (hnewline ls List.mem_cons_self) hread hline hls.symm with ⟨hheader, htrailing⟩
      refine ⟨fun x hx => ?_, htrailing⟩
      rw [List.mem_singleton.mp hx]
      exact hheader
  | cons x ss ih =>
      rw [List.map_map] at hmap
      rcases List.map_eq_cons_iff.mp hmap with ⟨ls, gs, rfl, hread, hgs⟩
      rcases List.cons.inj hmarked with ⟨hls, hrest⟩
      rcases headerLines_of_read (hnewline ls List.mem_cons_self) hread rfl hls.symm with ⟨hheader, _⟩
      rw [← List.map_map] at hgs
      rcases ih hgs (fun ls' hls' => hnewline ls' (List.mem_cons_of_mem ls hls')) hrest with ⟨hheaders, htrailing⟩
      refine ⟨fun y hy => ?_, htrailing⟩
      rcases List.mem_cons.mp hy with rfl | hy
      · exact hheader
      · exact hheaders y hy

/-- Sections that are printed as the pieces that they were read from have, alone, the header lines of the whole text. -/
theorem partsRead_of_sections {u : Text}
    (hmap : (dropNewlines (chunks u).2).map (Section.read c) = (ss ++ [s]).map .ok)
    (hsections : p.sections = ss ++ [s']) (hline : s'.line = s.line)
    (hle : (Text.joinWith "\n" (s'.render :: p.trailingPart)).length ≤ s.render.length)
    (horder : p.order = List.range p.sections.length) (hfront : p.front = (chunks u).1)
    (hjoin : u = Text.joinWith "\n" p.parts) (hlines : markedLines u = p.parts.flatMap markedLines) :
    p.PartsRead c := by
  have hparts := parts_eq_sectionTexts hsections horder
  have hne : p.order ≠ [] := by
    rw [horder, hsections, List.length_append]
    exact List.range_ne_nil.mpr (Nat.succ_ne_zero _)
  have htexts : (p.sectionTexts ss s').flatten ≠ [] := by
    rw [flatten_sectionTexts]
    exact List.append_ne_nil_of_right_ne_nil _ (List.cons_ne_nil _ _)
  have hcut := cut_chunks u
  have htext := hcut.append_flatten
  rw [← joinWith_dropNewlines hcut.endsLine] at htext
  rw [hparts, joinWith_frontPart_append hne htexts, hfront] at hjoin
  have hpieces := map_joinWith_sectionTexts hmap hle (List.append_cancel_left (hjoin.symm.trans htext.symm))
  rw [hparts, List.flatMap_append] at hlines
  rcases segments_eq_marked (fun _ => ne_nil_of_mem_sectionTexts) hpieces hlines with ⟨hfrontLines, hmarked⟩
  rw [dropNewlines_chunks] at hmap
  rcases headerLines_of_marked_sectionTexts hmap hline (fun _ => newline_not_mem_of_mem_groups) hmarked with
    ⟨hheaders, htrailing⟩
  rw [headerLines_frontPart] at hfrontLines
  rw [headerLines_trailingPart] at htrailing
  exact ⟨hfrontLines, htrailing, hsections ▸ hheaders⟩

end Sections

/-- If a page is printed as the text it was read from, and its regions stay in its parts, the parts can be read
alone. -/
theorem partsRead_of_read {c : Config} {title t : Text} {p : Page} (hread : read c title t = .ok p)
    (hprinted : p.render = Region.sanitizeBlanks t) (hregions : p.KeepsRegions) : p.PartsRead c := by
  have hwell := wellFormed_read hread
  have hlines := markedLines_render hwell hregions
  have hjoin := hwell.render_eq_joinWith
  rw [hprinted] at hlines hjoin
  rcases read_eq_ok hread with ⟨_, rfl⟩ | ⟨sections, hsections, heq⟩
  · exact ⟨headerLines_nil, headerLines_nil, nofun⟩
  generalize Region.sanitizeBlanks t = u at *
  have hmap := map_eq_of_mapM_eq_ok hsections
  rcases sections.eq_nil_or_concat' with rfl | ⟨ss, s, rfl⟩
  · have hself : p = assemble title (chunks u).1 [] := heq
    have hnone := headerLines_eq_nil (List.map_eq_nil_iff.mp hmap)
    rw [hlines, parts_of_order_eq_nil (by rw [hself]; rfl) (by rw [hself]; rfl), List.flatMap_singleton] at hnone
    subst hself
    exact ⟨hnone, headerLines_nil, nofun⟩
  · rcases exists_last_splitTrailing c (p := assemble title (chunks u).1 (ss ++ [s])) rfl rfl rfl with
      ⟨s', hss, hline, hle⟩
    have horder := order_splitTrailing c (assemble title (chunks u).1 (ss ++ [s]))
    have hfront := front_splitTrailing c (assemble title (chunks u).1 (ss ++ [s]))
    rw [← heq] at hss hle horder hfront
    have hrange : p.order = List.range p.sections.length := by
      rw [horder, hss, List.length_append]
      exact congrArg List.range List.length_append
    have hpieces : (chunks u).2 ≠ [] := by
      intro hnil
      rw [hnil] at hmap
      exact List.append_ne_nil_of_right_ne_nil _ (List.cons_ne_nil _ _) (List.map_eq_nil_iff.mp hmap.symm)
    rw [front_assemble_of_endsLine ((cut_chunks u).front_endsLine hpieces)] at hfront
    exact partsRead_of_sections hmap hss hline hle hrange hfront hjoin hlines

end Page
end WikiEntry
