import WikiEntry.Proofs.Page.PartsRead

/-!
# Taking links out

Links at the end of the last section are taken out of its text and printed on a line of their own.  What stood in front
of them goes through the setter of the text, which trims it; so the page is printed as before, up to blanks at its end,
just if there was nothing to trim but newlines.
-/

namespace WikiEntry

/-!
# Bodies in front of links
-/

namespace Body

/-- The body as it is printed between the line above it and the links below it. -/
def aboveLinks (b : Body) : Text :=
  (if b.text.isEmpty then [] else ['\n']) ++ b.render ++ ['\n']

theorem unblanked_aboveLinks (b : Body) : b.aboveLinks.unblanked = b.text.unblanked := by
  have hnewlines : forall n, Text.unblanked (List.replicate n '\n') = [] := Text.unblanked_replicate (by decide)
  have hnewline : Text.unblanked ['\n'] = [] := hnewlines 1
  have habove : Text.unblanked (if b.text.isEmpty then [] else ['\n']) = [] := by
    split
    · rfl
    · exact hnewline
  simp only [aboveLinks, Body.render, Text.unblanked_append, hnewlines, habove, hnewline, List.nil_append,
    List.append_nil]

/-- No newline is left at the beginning of the text of a body. -/
theorem head?_text_ofText (t : Text) : (ofText t).text.head? ≠ some '\n' := by
  rw [ofText]
  split
  · simp
  · intro hhead
    have hnot := List.head?_dropWhile_not (· == '\n') (t.trimRightBy (· == '\n'))
    have hdrop : ((t.trimRightBy (· == '\n')).dropWhile (· == '\n')).head? = some '\n' := hhead
    rw [hdrop] at hnot
    cases hnot

end Body

namespace HeaderLine

theorem unblanked_between (h : HeaderLine) (n m : Nat) : (h.between n).unblanked = (h.between m).unblanked := by
  unfold between
  split
  · have hspaces : forall n, Text.unblanked (List.replicate n ' ') = [] := Text.unblanked_replicate (by decide)
    rw [hspaces, hspaces]
  · rfl

end HeaderLine

namespace Section

theorem unblanked_around {s : Section} {raw raw' : Text} (h : raw.unblanked = raw'.unblanked) :
    (s.around raw).unblanked = (s.around raw').unblanked := by
  simp only [around, HeaderLine.around, Text.unblanked_append, h]

end Section

namespace Page

/-- The text of a section up to the links at its end, without the newline between them. -/
def beforeLinks (intro : Text) (m : Match) : Text :=
  Text.slice ('\n' :: intro) ⟨1, m.start⟩

/-- What stands in front of links, and the same with the newline between them. -/
inductive InFront : (before lead : Text) -> Prop where
  | none : InFront [] []
  | text {before : Text} (hne : before ≠ []) (hfirst : before.head? ≠ some '\n') : InFront before (before ++ ['\n'])

variable {b : Body} {before lead : Text}

/-- In front of links only newlines may end a text, and they are counted apart. -/
theorem exists_trimRightBy_append (before : Text) :
    exists n, before = before.trimRightBy (· == '\n') ++ List.replicate n '\n' ∧
      before.length - (before.trimRightBy (· == '\n')).length = n := by
  have hparts := Text.trimRightBy_append before (· == '\n')
  have hrun := congrArg List.reverse (Text.takeWhile_eq_replicate before.reverse '\n')
  rw [List.reverse_replicate] at hrun
  rw [hrun] at hparts
  refine ⟨_, hparts.symm, ?_⟩
  have hlength := congrArg List.length hparts
  rw [List.length_append, List.length_replicate] at hlength
  omega

theorem bodyBeforeLinks_of_ne_nil (hne : before ≠ []) :
    bodyBeforeLinks b before = ⟨if (before.trimRightBy (· == '\n')).isBlank then 0 else b.leading,
      (before.trimRightBy (· == '\n')).trim, before.length - (before.trimRightBy (· == '\n')).length⟩ := by
  rw [bodyBeforeLinks, if_neg (by simpa using hne)]
  rfl

/-- The body that is left in front of links takes up no more than it did, and the same just if there was nothing to trim
but newlines. -/
theorem aboveLinks_bodyBeforeLinks (b : Body) (h : InFront before lead) :
    (bodyBeforeLinks b before).aboveLinks.length ≤ ('\n' :: (List.replicate b.leading '\n' ++ lead)).length ∧
      ((bodyBeforeLinks b before).aboveLinks = '\n' :: (List.replicate b.leading '\n' ++ lead) <->
        (before.trimRightBy (· == '\n')).trim = before.trimRightBy (· == '\n')) := by
  cases h with
  | none =>
      have hprinted : (bodyBeforeLinks b []).aboveLinks = '\n' :: (List.replicate b.leading '\n' ++ []) := by
        show List.replicate b.leading '\n' ++ ['\n'] = _
        rw [List.append_nil]
        exact List.replicate_succ'.symm
      rw [hprinted]
      exact ⟨Nat.le_refl _, iff_of_true rfl rfl⟩
  | text hne hfirst =>
      rcases exists_trimRightBy_append before with ⟨n, hbefore, hn⟩
      rw [bodyBeforeLinks_of_ne_nil hne, hn]
      generalize before.trimRightBy (· == '\n') = kept at hbefore
      rw [hbefore]
      cases hblank : kept.isBlank with
      | true =>
          have hkept : kept ≠ [] := by
            rintro rfl
            cases n with
            | zero => exact hne hbefore
            | succ n => exact hfirst (by rw [hbefore]; rfl)
          have hpos := List.length_pos_of_ne_nil hkept
          have hlength : (Body.aboveLinks ⟨0, [], n⟩).length <
              ('\n' :: (List.replicate b.leading '\n' ++ (kept ++ List.replicate n '\n' ++ ['\n']))).length := by
            show (List.replicate n '\n' ++ ['\n']).length < _
            simp only [List.length_cons, List.length_append, List.length_replicate, List.length_nil]
            omega
          rw [Text.trim_eq_nil_iff.mpr hblank, if_pos rfl]
          refine ⟨hlength.le, iff_of_false (fun heq => ?_) (Ne.symm hkept)⟩
          rw [heq] at hlength
          exact Nat.lt_irrefl _ hlength
      | false =>
          have htrim : kept.trim.isEmpty = false := by
            rw [Bool.eq_false_iff]
            intro hnil
            rw [Text.trim_eq_nil_iff.mp (List.isEmpty_iff.mp hnil)] at hblank
            cases hblank
          have hprinted : Body.aboveLinks ⟨b.leading, kept.trim, n⟩ =
              '\n' :: (List.replicate b.leading '\n' ++ (kept.trim ++ (List.replicate n '\n' ++ ['\n']))) := by
            simp [Body.aboveLinks, Body.render, htrim]
          have hle : kept.trim.length ≤ kept.length := Text.length_trimBy_le kept _
          rw [if_neg Bool.false_ne_true, hprinted]
          constructor
          · simp only [List.length_cons, List.length_append]
            omega
          · rw [List.append_assoc kept, List.cons.injEq, and_iff_right rfl, List.append_cancel_left_eq,
              List.append_cancel_right_eq]

/-- In front of links nothing but blanks is lost. -/
theorem unblanked_aboveLinks_bodyBeforeLinks (b : Body) (h : InFront before lead) :
    (bodyBeforeLinks b before).aboveLinks.unblanked = lead.unblanked := by
  rw [Body.unblanked_aboveLinks]
  cases h with
  | none => rfl
  | text hne =>
      rcases exists_trimRightBy_append before with ⟨n, hbefore, _⟩
      have hlead : before ++ ['\n'] = before.trimRightBy (· == '\n') ++ List.replicate (n + 1) '\n' := by
        rw [List.replicate_succ', ← List.append_assoc, ← hbefore]
      rw [hlead, bodyBeforeLinks_of_ne_nil hne, Text.unblanked_trim, Text.unblanked_append,
        Text.unblanked_replicate (by decide), List.append_nil]

/-- The text of a section whose end are links, which are not blank. -/
theorem exists_inFront_of_closingLinks {c : Config} {intro : Text} {m : Match}
    (hm : c.closingLinks.find? ('\n' :: intro) = some m) (hfirst : intro.head? ≠ some '\n') :
    exists lead links : Text, intro = lead ++ links ∧ (Text.slice ('\n' :: intro) m.span).drop 1 = links ∧
      links.isBlank = false ∧ InFront (beforeLinks intro m) lead := by
  rcases exists_drop_of_closingLinks hm with ⟨links, hdrop, hslice, hseen⟩
  rw [hslice]
  cases hstart : m.start with
  | zero =>
      rw [hstart, List.drop_zero] at hdrop
      have hnone : beforeLinks intro m = [] := by
        rw [beforeLinks, hstart]
        rfl
      rw [hnone]
      exact ⟨[], links, (List.cons.inj hdrop).2, rfl, hseen, .none⟩
  | succ n =>
      rw [hstart, List.drop_succ_cons] at hdrop
      have hsplit := List.take_append_drop n intro
      rw [hdrop] at hsplit
      have hbefore : beforeLinks intro m = intro.take n := by
        rw [beforeLinks, hstart]
        rfl
      refine ⟨intro.take n ++ ['\n'], links, by rw [List.append_assoc]; exact hsplit.symm, rfl, hseen, ?_⟩
      rw [hbefore]
      have hne : intro.take n ≠ [] := by
        intro hnil
        rw [hnil] at hsplit
        exact hfirst (by rw [← hsplit]; rfl)
      refine .text hne fun hhead => hfirst ?_
      rw [← hsplit, List.head?_append_of_ne_nil _ hne]
      exact hhead

/-!
# Printing with the links taken out
-/

theorem head?_intro_of_read {c : Config} {t : Text} {s : Section} (h : Section.read c t = .ok s) :
    s.intro.head? ≠ some '\n' := by
  rw [Section.intro, (Section.read_eq_ok h).2.1, Section.headAndBody]
  split
  · exact Body.head?_text_ofText _
  · simp

/-- No text of a section begins with a newline. -/
theorem head?_intro_of_readWhole {c : Config} {title t : Text} {q : Page} (h : readWhole c title t = .ok q) (i : Nat) :
    (q.get i).intro.head? ≠ some '\n' := by
  rcases readWhole_eq_ok h with ⟨_, rfl⟩ | ⟨sections, hsections, rfl⟩
  · exact fun hhead => by cases hhead
  · show (sections.getD i default).intro.head? ≠ some '\n'
    rw [List.getD_eq_getElem?_getD]
    cases hs : sections[i]? with
    | none => exact fun hhead => by cases hhead
    | some s =>
        rcases exists_of_mem_of_mapM_eq_ok hsections (List.mem_of_getElem? hs) with ⟨piece, _, hread⟩
        exact head?_intro_of_read hread

theorem unblanked_around {p : Page} {raws raws' : Nat -> Text}
    (h : forall i, i ∈ p.order -> (raws i).unblanked = (raws' i).unblanked) :
    (p.around raws).unblanked = (p.around raws').unblanked := by
  rw [around, around, Text.unblanked_append, Text.unblanked_append]
  exact congrArg (_ ++ ·) (Text.unblanked_joinWith_congr _ fun i hi => Section.unblanked_around (h i hi))

/-- Without its blanks a page is printed the same, whatever the number of spaces in blank headers. -/
theorem unblanked_renderSpaced (p : Page) (spaces spaces' : Nat -> Nat) :
    (p.renderSpaced spaces).unblanked = (p.renderSpaced spaces').unblanked :=
  unblanked_around fun _ _ => HeaderLine.unblanked_between _ _ _

/-- The text that a page was read from is the page, before the links at its end are taken out, but for the blanks of
headers. -/
theorem exists_raws_of_readWhole {c : Config} {title t : Text} {q : Page} (h : readWhole c title t = .ok q)
    (horder : q.order ≠ []) : exists raws, q.ReadFrom raws ∧ Region.sanitizeBlanks t = q.around raws := by
  rcases readWhole_eq_ok h with ⟨_, rfl⟩ | ⟨sections, hsections, rfl⟩
  · exact absurd rfl horder
  · refine exists_raws_of_assemble hsections fun hnil => horder ?_
    rw [hnil]
    rfl

/-- Where all blanks are spaces and newlines, it is the page printed with some number of spaces in blank headers. -/
theorem exists_spaces_of_readWhole {c : Config} {title t : Text} {q : Page} (ht : t.PlainBlanks)
    (h : readWhole c title t = .ok q) (horder : q.order ≠ []) :
    exists spaces : Nat -> Nat, (forall i, 1 ≤ spaces i) ∧ Region.sanitizeBlanks t = q.renderSpaced spaces := by
  rcases exists_raws_of_readWhole h horder with ⟨raws, hraws, htext⟩
  rcases hraws.exists_spaces (htext ▸ Region.plainBlanks_sanitizeBlanks ht) with ⟨spaces, hpos, heq⟩
  exact ⟨spaces, hpos, htext.trans heq⟩

section Printing

variable {c : Config} {p q : Page} {init : List Nat} {last : Nat} {m : Match}

/-- The page as it is printed up to the header of its last section. -/
def upToHeader (p : Page) (init : List Nat) (last : Nat) (spaces : Nat -> Nat) : Text :=
  p.front ++ (init.flatMap fun i => (p.get i).renderSpaced (spaces i) ++ ['\n']) ++
    (p.get last).line.around ((p.get last).line.between (spaces last))

theorem renderSpaced_eq_append (horder : p.order = init ++ [last]) (spaces : Nat -> Nat) :
    p.renderSpaced spaces = p.upToHeader init last spaces ++
      ((if (p.get last).intro.isEmpty then [] else ['\n']) ++ (p.get last).body.render) := by
  have hsections := Text.joinWith_concat "\n" ((p.get last).renderSpaced (spaces last))
    (init.map fun i => (p.get i).renderSpaced (spaces i))
  rw [renderSpaced, horder, List.map_append, List.map_singleton, hsections, List.flatMap_map, upToHeader,
    Section.renderSpaced]
  simp only [List.append_assoc]
  rfl

/-- Trailing content is printed on a line of its own. -/
theorem WellFormed.render_eq_append (h : p.WellFormed) (horder : p.order ≠ []) (htrailing : p.trailingContent ≠ []) :
    p.render = p.renderSpaced (fun _ => 1) ++ '\n' :: p.trailingContent := by
  have hne : (p.order.map fun i => (p.get i).render) ≠ [] := fun hnil => horder (List.map_eq_nil_iff.mp hnil)
  rw [h.render_eq_joinWith, parts, trailingPart_of_ne_nil htrailing, List.append_assoc,
    joinWith_frontPart_append horder (List.append_ne_nil_of_left_ne_nil hne _),
    Text.joinWith_append "\n" hne (List.cons_ne_nil _ _), renderSpaced]
  simp only [Section.render_eq_renderSpaced, List.append_assoc]
  rfl

theorem splitTrailing_eq (hlast : q.order.getLast? = some last)
    (hm : c.closingLinks.find? ('\n' :: (q.get last).intro) = some m) :
    splitTrailing c q =
      { q.modify last fun s => { s with
          body := bodyBeforeLinks s.body (beforeLinks (q.get last).intro m) } with
        trailingContent := (Text.slice ('\n' :: (q.get last).intro) m.span).drop 1 } := by
  unfold splitTrailing
  rw [hlast]
  dsimp only
  rw [hm]
  rfl

theorem trailingContent_splitTrailing_ne_nil (hlast : q.order.getLast? = some last)
    (hm : c.closingLinks.find? ('\n' :: (q.get last).intro) = some m) : (splitTrailing c q).trailingContent ≠ [] := by
  rcases exists_drop_of_closingLinks hm with ⟨links, _, hslice, hseen⟩
  rw [splitTrailing_eq hlast hm]
  show List.drop 1 (Text.slice ('\n' :: (q.get last).intro) m.span) ≠ []
  rw [hslice]
  rintro rfl
  cases hseen

/-- A change that leaves the bodies alone may as well be made before the links are taken out. -/
theorem splitTrailing_modify {f : Section -> Section} (hf : forall s b, f { s with body := b } = { f s with body := b })
    (i : Nat) : splitTrailing c (q.modify i f) = (splitTrailing c q).modify i f := by
  have hbody : forall s, (f s).body = s.body := fun s => (congrArg Section.body (hf s s.body) :)
  have hintro : forall j, ((q.modify i f).get j).intro = (q.get j).intro := by
    intro j
    rw [get_modify]
    split
    · exact congrArg Body.text (hbody _)
    · rfl
  have hswap : forall (ss : List Section) (last : Nat) (t : Text),
      (ss.modify i f).modify last (fun s => { s with body := bodyBeforeLinks s.body t }) =
        (ss.modify last (fun s => { s with body := bodyBeforeLinks s.body t })).modify i f := by
    intro ss last t
    by_cases hi : i = last
    · rw [hi, List.modify_modify_eq, List.modify_modify_eq]
      refine congrArg (ss.modify last) (funext fun s => ?_)
      show { f s with body := bodyBeforeLinks (f s).body t } = f { s with body := bodyBeforeLinks s.body t }
      rw [hf s (bodyBeforeLinks s.body t), hbody s]
    · exact List.modify_modify_ne _ _ ss hi
  have horder : (q.modify i f).order = q.order := rfl
  unfold splitTrailing
  rw [horder]
  cases q.order.getLast? with
  | none => rfl
  | some last =>
      dsimp only
      rw [hintro]
      cases c.closingLinks.find? ('\n' :: (q.get last).intro) with
      | none => rfl
      | some m =>
          dsimp only [Page.modify]
          rw [hswap]

theorem get_splitTrailing_last (h : q.WellFormed) (hlast : q.order.getLast? = some last)
    (hm : c.closingLinks.find? ('\n' :: (q.get last).intro) = some m) :
    (splitTrailing c q).get last = { q.get last with
      body := bodyBeforeLinks (q.get last).body (beforeLinks (q.get last).intro m) } := by
  have hmade : last < q.sections.length := h.made last (List.mem_of_getLast? hlast)
  rw [splitTrailing_eq hlast hm]
  exact (get_modify q last last _).trans (if_pos ⟨rfl, hmade⟩)

/-- Up to the header of the last section nothing changes. -/
theorem upToHeader_splitTrailing (h : q.WellFormed) (horder : q.order = init ++ [last])
    (hm : c.closingLinks.find? ('\n' :: (q.get last).intro) = some m) (spaces : Nat -> Nat) :
    (splitTrailing c q).upToHeader init last spaces = q.upToHeader init last spaces := by
  have hlast : q.order.getLast? = some last := by
    rw [horder]
    exact List.getLast?_concat
  have hnodup := h.nodup
  rw [horder] at hnodup
  have hothers : forall i, i ∈ init -> (splitTrailing c q).get i = q.get i := by
    intro i hi
    have hne : last ≠ i := by
      rintro rfl
      exact (List.nodup_append.mp hnodup).2.2 last hi last List.mem_cons_self rfl
    rw [splitTrailing_eq hlast hm]
    exact (get_modify q last i _).trans (if_neg fun hsame => hne hsame.1)
  have hline : ((splitTrailing c q).get last).line = (q.get last).line :=
    (congrArg Section.line (get_splitTrailing_last h hlast hm)).trans rfl
  have hfront := front_splitTrailing c q
  generalize splitTrailing c q = p at hothers hline hfront
  have hsections : (init.flatMap fun i => (p.get i).renderSpaced (spaces i) ++ ['\n']) =
      init.flatMap fun i => (q.get i).renderSpaced (spaces i) ++ ['\n'] :=
    List.flatMap_congr fun i hi => by rw [hothers i hi]
  rw [upToHeader, upToHeader, hfront, hsections, hline]

/-- Blanks behind links do not matter. -/
theorem trimRight_append_links (front : Text) {links : Text} (hlinks : links.isBlank = false) (n : Nat) :
    Text.trimRight (front ++ (links ++ List.replicate n '\n')) = front ++ links.trimRight := by
  have hnewlines : (List.replicate n '\n').all Chars.isBlank = true :=
    Text.unblanked_eq_nil_iff.mp (Text.unblanked_replicate (by decide) n)
  rw [← List.append_assoc, Text.trimRight, Text.trimRightBy_append_of_all hnewlines]
  exact Text.trimRightBy_append_of_not_all hlinks

/-- Pieces that are nowhere longer than others make up the same text just if they are the same. -/
theorem append_eq_append_iff_of_length_le {t t' u u' : Text} (ht : t.length ≤ t'.length) (hu : u.length ≤ u'.length) :
    t ++ u = t' ++ u' <-> t = t' ∧ u = u' := by
  constructor
  · intro heq
    have hlength := congrArg List.length heq
    rw [List.length_append, List.length_append] at hlength
    exact List.append_inj heq (by omega)
  · rintro ⟨rfl, rfl⟩
    rfl

/-- The page is printed up to the header of the last section, then up to the links, and then the links. -/
theorem renderSpaced_eq_of_intro {lead links : Text} (horder : q.order = init ++ [last])
    (hintro : (q.get last).intro = lead ++ links) (hlinks : links.isBlank = false) (spaces : Nat -> Nat) :
    q.renderSpaced spaces = q.upToHeader init last spaces ++
      '\n' :: (List.replicate (q.get last).body.leading '\n' ++ lead) ++
        (links ++ List.replicate (q.get last).body.trailing '\n') := by
  have hsome : (q.get last).intro.isEmpty = false := by
    rw [hintro]
    cases links with
    | nil => cases hlinks
    | cons ch links => simp
  have hrender : (q.get last).body.render = List.replicate (q.get last).body.leading '\n' ++ (lead ++ links) ++
      List.replicate (q.get last).body.trailing '\n' := by
    rw [← hintro]
    rfl
  rw [renderSpaced_eq_append horder, hsome, hrender]
  simp

/-- With the links taken out it is printed up to the header of the last section, then the body that is left, and then
the links. -/
theorem render_splitTrailing_eq {links : Text} (h : q.WellFormed) (horder : q.order = init ++ [last])
    (hm : c.closingLinks.find? ('\n' :: (q.get last).intro) = some m)
    (hlinks : (Text.slice ('\n' :: (q.get last).intro) m.span).drop 1 = links) :
    (splitTrailing c q).render = q.upToHeader init last (fun _ => 1) ++
      (bodyBeforeLinks (q.get last).body (beforeLinks (q.get last).intro m)).aboveLinks ++
        (links ++ List.replicate 0 '\n') := by
  have hlast : q.order.getLast? = some last := by
    rw [horder]
    exact List.getLast?_concat
  have hcontent : (splitTrailing c q).trailingContent = links := by
    rw [splitTrailing_eq hlast hm]
    exact hlinks
  have hne := trailingContent_splitTrailing_ne_nil hlast hm
  have horder' : (splitTrailing c q).order = init ++ [last] := (order_splitTrailing c q).trans horder
  have hbody : ((splitTrailing c q).get last).body =
      bodyBeforeLinks (q.get last).body (beforeLinks (q.get last).intro m) :=
    congrArg Section.body (get_splitTrailing_last h hlast hm)
  rw [(wellFormed_splitTrailing c h).render_eq_append (by rw [horder']; exact List.concat_ne_nil _ _) hne,
    renderSpaced_eq_append horder', upToHeader_splitTrailing h horder hm, hcontent, Section.intro, hbody,
    Body.aboveLinks]
  simp only [List.append_assoc, List.replicate_zero, List.append_nil, List.singleton_append]

/-- The page as it is printed before and after the links are taken out. -/
theorem exists_printed (h : q.WellFormed) (horder : q.order = init ++ [last])
    (hfirst : (q.get last).intro.head? ≠ some '\n')
    (hm : c.closingLinks.find? ('\n' :: (q.get last).intro) = some m) :
    exists lead links : Text, links.isBlank = false ∧ InFront (beforeLinks (q.get last).intro m) lead ∧
      (forall spaces, q.renderSpaced spaces = q.upToHeader init last spaces ++
        '\n' :: (List.replicate (q.get last).body.leading '\n' ++ lead) ++
          (links ++ List.replicate (q.get last).body.trailing '\n')) ∧
      (splitTrailing c q).render = q.upToHeader init last (fun _ => 1) ++
        (bodyBeforeLinks (q.get last).body (beforeLinks (q.get last).intro m)).aboveLinks ++
          (links ++ List.replicate 0 '\n') := by
  rcases exists_inFront_of_closingLinks hm hfirst with ⟨lead, links, hintro, hlinks, hseen, hinFront⟩
  exact ⟨lead, links, hseen, hinFront, renderSpaced_eq_of_intro horder hintro hseen,
    render_splitTrailing_eq h horder hm hlinks⟩

/-- With the links taken out, the page is printed as it was read, up to blanks at the end, just if blank headers have
one space and nothing but newlines was to be trimmed in front of the links. -/
theorem trimRight_render_splitTrailing_iff (h : q.WellFormed) (hlast : q.order.getLast? = some last)
    (hfirst : (q.get last).intro.head? ≠ some '\n')
    (hm : c.closingLinks.find? ('\n' :: (q.get last).intro) = some m) {spaces : Nat -> Nat}
    (hspaces : forall i, 1 ≤ spaces i) :
    (splitTrailing c q).render.trimRight = (q.renderSpaced spaces).trimRight <->
      (forall i, i ∈ q.order -> (q.get i).line.format = .blank -> spaces i = 1) ∧
        ((beforeLinks (q.get last).intro m).trimRightBy (· == '\n')).trim =
          (beforeLinks (q.get last).intro m).trimRightBy (· == '\n') := by
  rcases List.getLast?_eq_some_iff.mp hlast with ⟨init, horder⟩
  rcases exists_printed h horder hfirst hm with ⟨lead, links, hseen, hinFront, hwhole, hsplit⟩
  rcases aboveLinks_bodyBeforeLinks (q.get last).body hinFront with ⟨hbodyLe, hbodyEq⟩
  have hheaderLe : (q.upToHeader init last fun _ => 1).length ≤ (q.upToHeader init last spaces).length := by
    have hle := length_renderSpaced_le (p := q) hspaces
    rw [hwhole, hwhole] at hle
    simp only [List.length_append] at hle
    omega
  have hheaderEq : (q.upToHeader init last fun _ => 1) = q.upToHeader init last spaces <->
      forall i, i ∈ q.order -> (q.get i).line.format = .blank -> spaces i = 1 := by
    constructor
    · intro heq i hi hblank
      refine (eq_of_length_renderSpaced hspaces ?_ hi hblank).symm
      rw [hwhole, hwhole, heq]
    · intro hone
      have heq := renderSpaced_congr fun i hi hblank => (hone i hi hblank).symm
      rw [hwhole, hwhole] at heq
      exact List.append_cancel_right (List.append_cancel_right heq)
  rw [hsplit, hwhole, trimRight_append_links _ hseen, trimRight_append_links _ hseen, List.append_cancel_right_eq,
    append_eq_append_iff_of_length_le hheaderLe hbodyLe, hheaderEq, hbodyEq]

/-- Nothing but blanks is lost when the links are taken out. -/
theorem unblanked_render_splitTrailing (h : q.WellFormed) (hlast : q.order.getLast? = some last)
    (hfirst : (q.get last).intro.head? ≠ some '\n')
    (hm : c.closingLinks.find? ('\n' :: (q.get last).intro) = some m) (spaces : Nat -> Nat) :
    (splitTrailing c q).render.unblanked = (q.renderSpaced spaces).unblanked := by
  rcases List.getLast?_eq_some_iff.mp hlast with ⟨init, horder⟩
  rcases exists_printed h horder hfirst hm with ⟨lead, links, _, hinFront, hwhole, hsplit⟩
  have hbody := unblanked_aboveLinks_bodyBeforeLinks (q.get last).body hinFront
  have hnewlines : forall n, Text.unblanked (List.replicate n '\n') = [] := Text.unblanked_replicate (by decide)
  have hspace : Text.unblanked ('\n' :: (List.replicate (q.get last).body.leading '\n' ++ lead)) = lead.unblanked := by
    rw [← List.cons_append, ← List.replicate_succ, Text.unblanked_append, hnewlines]
    rfl
  rw [unblanked_renderSpaced q spaces fun _ => 1, hsplit, hwhole]
  simp only [Text.unblanked_append, hbody, hspace, hnewlines]

/-- Nothing but blanks is lost when the links are taken out, if there are any. -/
theorem unblanked_render_of_splitTrailing (h : q.WellFormed) (horder : q.order ≠ []) (htrailing : q.trailingContent = [])
    (hfirst : forall i, (q.get i).intro.head? ≠ some '\n') :
    (splitTrailing c q).render.unblanked = (q.renderSpaced fun _ => 1).unblanked := by
  have hlast := List.getLast?_eq_some_getLast horder
  generalize q.order.getLast horder = last at hlast
  cases hm : c.closingLinks.find? ('\n' :: (q.get last).intro) with
  | none =>
      have hself : splitTrailing c q = q := by
        unfold splitTrailing
        rw [hlast]
        dsimp only
        rw [hm]
      rw [hself, h.render_eq_renderSpaced htrailing horder]
  | some m => exact unblanked_render_splitTrailing h hlast (hfirst last) hm _

/-!
# Reading with the links taken out
-/

/-- A page whose last section ends with links is printed with everything it was read from but blanks.  The blanks are
there too, up to those at the end, just if every blank header had one space and nothing but newlines was to be trimmed
off the text in front of the links. -/
theorem render_read_of_closingLinks {title t : Text} (ht : t.PlainBlanks) (hread : readWhole c title t = .ok q)
    (hlast : q.order.getLast? = some last) (hm : c.closingLinks.find? ('\n' :: (q.get last).intro) = some m) :
    exists p, read c title t = .ok p ∧ p.trailingContent ≠ [] ∧
      p.render.unblanked = (Region.sanitizeBlanks t).unblanked ∧
      exists spaces : Nat -> Nat, (forall i, 1 ≤ spaces i) ∧ Region.sanitizeBlanks t = q.renderSpaced spaces ∧
        (p.render.trimRight = (Region.sanitizeBlanks t).trimRight <->
          (forall i, i ∈ q.order -> (q.get i).line.format = .blank -> spaces i = 1) ∧
            ((beforeLinks (q.get last).intro m).trimRightBy (· == '\n')).trim =
              (beforeLinks (q.get last).intro m).trimRightBy (· == '\n')) := by
  have hwellFormed := wellFormed_readWhole hread
  have hfirst := head?_intro_of_readWhole hread last
  refine ⟨splitTrailing c q, by rw [read_eq_map, hread]; rfl, trailingContent_splitTrailing_ne_nil hlast hm, ?_⟩
  rcases exists_spaces_of_readWhole ht hread (List.ne_nil_of_mem (List.mem_of_getLast? hlast)) with
    ⟨spaces, hspaces, heq⟩
  rw [heq]
  exact ⟨unblanked_render_splitTrailing hwellFormed hlast hfirst hm spaces, spaces, hspaces, rfl,
    trimRight_render_splitTrailing_iff hwellFormed hlast hfirst hm hspaces⟩

theorem readWhole_of_chunks {title t : Text} {cut : Text × List Text} (ht : t ≠ [])
    (hcut : chunks (Region.sanitizeBlanks t) = cut) :
    readWhole c title t = (dropNewlines cut.2).mapM (Section.read c) >>= fun sections =>
      .ok (assemble title cut.1 sections) := by
  rw [readWhole, if_neg (by simpa using ht), hcut]
  rfl

end Printing

/-- A text that begins with a space, with a link below it. -/
def entryWithIndentedText : Text :=
  "==a==\n b\n[[en:c]]"

theorem ignored_entryWithIndentedText : Region.ignored entryWithIndentedText = [] :=
  Region.ignored_eq_mergeSorted [] (by decide +kernel) (by decide)

theorem sanitizeBlanks_entryWithIndentedText : Region.sanitizeBlanks entryWithIndentedText = entryWithIndentedText :=
  Region.sanitizeBlanks_eq_self ignored_entryWithIndentedText (by decide +kernel) (by decide +kernel)
    (by decide +kernel)

theorem chunks_entryWithIndentedText :
    chunks (Region.sanitizeBlanks entryWithIndentedText) = ([], [entryWithIndentedText]) := by
  rw [sanitizeBlanks_entryWithIndentedText]
  unfold chunks headerPlaces
  rw [ignored_entryWithIndentedText]
  decide +kernel

theorem render_read_entryWithIndentedText :
    exists (q : Page) (m : Match), readWhole .builtin "e" entryWithIndentedText = .ok q ∧
      q.order.getLast? = some 0 ∧ Config.builtin.closingLinks.find? ('\n' :: (q.get 0).intro) = some m ∧
        exists p, read .builtin "e" entryWithIndentedText = .ok p ∧ p.trailingContent ≠ [] ∧
          p.render.unblanked = (Region.sanitizeBlanks entryWithIndentedText).unblanked ∧
          exists spaces : Nat -> Nat, (forall i, 1 ≤ spaces i) ∧
            Region.sanitizeBlanks entryWithIndentedText = q.renderSpaced spaces ∧
            (p.render.trimRight = (Region.sanitizeBlanks entryWithIndentedText).trimRight <->
              (forall i, i ∈ q.order -> (q.get i).line.format = .blank -> spaces i = 1) ∧
                ((beforeLinks (q.get 0).intro m).trimRightBy (· == '\n')).trim =
                  (beforeLinks (q.get 0).intro m).trimRightBy (· == '\n')) := by
  have hfacts : (readWhole .builtin "e" entryWithIndentedText).map (fun q => (q.order.getLast?,
      Config.builtin.closingLinks.find? ('\n' :: (q.get 0).intro))) = .ok (some 0, some ⟨⟨3, 12⟩, []⟩) := by
    rw [readWhole_of_chunks (by unfold entryWithIndentedText; decide) chunks_entryWithIndentedText]
    decide +kernel
  rcases exists_of_map_eq_ok hfacts with ⟨q, hread, hfacts⟩
  rcases Prod.mk.inj hfacts with ⟨hlast, hm⟩
  exact ⟨q, _, hread, hlast, hm, render_read_of_closingLinks (by decide) hread hlast hm⟩

/-- The space in front of the text is lost with the link. -/
theorem not_forall_trimRight_render_read :
    ¬ forall (c : Config) (title t : Text) (p : Page), t.PlainBlanks -> read c title t = .ok p ->
      p.trailingContent ≠ [] -> p.render.trimRight = (Region.sanitizeBlanks t).trimRight := by
  intro h
  have hfacts : (read .builtin "e" entryWithIndentedText).map (fun p => (p.trailingContent, p.render)) =
      .ok ("[[en:c]]".toList, "==a==\nb\n[[en:c]]".toList) := by
    rw [read_of_chunks (by unfold entryWithIndentedText; decide) chunks_entryWithIndentedText]
    decide +kernel
  rcases exists_of_map_eq_ok hfacts with ⟨p, hread, hfacts⟩
  rcases Prod.mk.inj hfacts with ⟨htrailing, hrender⟩
  have hsame := h .builtin "e" entryWithIndentedText p (by decide) hread (by rw [htrailing]; decide)
  rw [hrender, sanitizeBlanks_entryWithIndentedText] at hsame
  exact absurd hsame (by decide +kernel)

end Page
end WikiEntry
