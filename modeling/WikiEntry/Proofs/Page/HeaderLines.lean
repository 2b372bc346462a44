import WikiEntry.Proofs.Page.Cutting
import WikiEntry.Proofs.Page.Reachable
import WikiEntry.Proofs.Text.Lines

/-!
# Header lines

Which lines of a text begin a section decides what the text is read as: each of them is the first line of a section,
and the level and the header of the section are told from that line alone.
-/

namespace WikiEntry
namespace Page

/-!
# Lines that begin a section
-/

/-- The lines of `t`, which begins at `place` of a text with the given ignored regions, and whether each of them begins
a section there. -/
def linesFrom (regions : List Span) (place : Nat) (t : Text) : List (Bool × Text) :=
  (Text.placesFrom place (Text.splitOn t ['\n'])).map fun x => (beginsSection regions x.1 x.2, x.2)

def markedLines (t : Text) : List (Bool × Text) :=
  linesFrom (Region.ignored t) 0 t

/-- The lines that begin a section. -/
def headerLines (lines : List (Bool × Text)) : List Text :=
  (lines.filter Prod.fst).map Prod.snd

/-- The lines in front of the first header line, and those of each section. -/
def groups : List (Bool × Text) -> List Text × List (List Text)
  | [] => ([], [])
  | (begins, l) :: rest =>
      let (front, sections) := groups rest
      if begins then ([], (l :: front) :: sections) else (l :: front, sections)

/-- Lines with a newline behind each. -/
def ended (ls : List Text) : Text :=
  ls.flatMap (· ++ ['\n'])

/-- The text of each section, with a newline behind all but the last line. -/
def endedGroups : List (List Text) -> List Text
  | [] => []
  | [ls] => [Text.joinWith "\n" ls]
  | ls :: rest => ended ls :: endedGroups rest

theorem groups_append_flatten (lines : List (Bool × Text)) :
    (groups lines).1 ++ (groups lines).2.flatten = lines.map Prod.snd := by
  induction lines with
  | nil => rfl
  | cons x lines ih =>
      rcases x with ⟨begins, l⟩
      cases begins with
      | true => exact congrArg (l :: ·) ih
      | false => exact congrArg (l :: ·) ih

theorem head?_groups (lines : List (Bool × Text)) :
    (groups lines).2.map List.head? = (headerLines lines).map some := by
  induction lines with
  | nil => rfl
  | cons x lines ih =>
      rcases x with ⟨begins, l⟩
      cases begins with
      | true => exact congrArg (some l :: ·) ih
      | false => exact ih

theorem ne_nil_of_mem_groups {lines : List (Bool × Text)} {ls : List Text} (hls : ls ∈ (groups lines).2) : ls ≠ [] := by
  rintro rfl
  have hmem : none ∈ (groups lines).2.map List.head? := List.mem_map.mpr ⟨[], hls, rfl⟩
  rw [head?_groups] at hmem
  simp at hmem

theorem groups_fst_ne_nil {lines : List (Bool × Text)} (hne : lines ≠ []) (hnone : (groups lines).2 = []) :
    (groups lines).1 ≠ [] := by
  intro hnil
  have h := groups_append_flatten lines
  rw [hnone, hnil] at h
  exact hne (List.map_eq_nil_iff.mp h.symm)

theorem endedGroups_cons {ls : List Text} {rest : List (List Text)} (hrest : rest ≠ []) :
    endedGroups (ls :: rest) = ended ls :: endedGroups rest := by
  cases rest with
  | nil => exact absurd rfl hrest
  | cons ls' rest => rfl

theorem ended_cons (l : Text) (ls : List Text) : ended (l :: ls) = l ++ ['\n'] ++ ended ls :=
  List.flatMap_cons

/-- The texts of the front and of each section, with `c` in front of the lines. -/
def groupTexts (c : Text) (g : List Text × List (List Text)) : List Text :=
  if g.2 = [] then [c ++ Text.joinWith "\n" g.1] else (c ++ ended g.1) :: endedGroups g.2

theorem groupTexts_front {g : List Text × List (List Text)} (hg : g.2 = [] -> g.1 ≠ []) (c l : Text) :
    groupTexts (c ++ (l ++ ['\n'])) g = groupTexts c (l :: g.1, g.2) := by
  unfold groupTexts
  by_cases hnone : g.2 = []
  · rw [if_pos hnone, if_pos hnone, Text.joinWith_cons (hg hnone), List.append_assoc c]
    rfl
  · rw [if_neg hnone, if_neg hnone, ended_cons, List.append_assoc c]

theorem groupTexts_section {g : List Text × List (List Text)} (hg : g.2 = [] -> g.1 ≠ []) (c l : Text) :
    c :: groupTexts (l ++ ['\n']) g = groupTexts c ([], (l :: g.1) :: g.2) := by
  unfold groupTexts
  rw [if_neg (List.cons_ne_nil _ _)]
  have hc : c ++ ended [] = c := List.append_nil c
  by_cases hnone : g.2 = []
  · rw [if_pos hnone, hnone, endedGroups, Text.joinWith_cons (hg hnone), hc]
    rfl
  · rw [if_neg hnone, endedGroups_cons hnone, ended_cons, hc]

/-- Cutting in front of the places of header lines gives the groups of lines; `c` is what stands in front of the lines
that are looked at. -/
theorem cutAt_places {t : Text} (regions : List Span) {ls : List Text} (hne : ls ≠ []) {start place : Nat} {c : Text}
    (hdrop : t.drop start = c ++ Text.joinWith "\n" ls) (hplace : place = start + c.length) :
    cutAt t start (((Text.placesFrom place ls).filter fun x => beginsSection regions x.1 x.2).map Prod.fst) =
      groupTexts c (groups ((Text.placesFrom place ls).map fun x => (beginsSection regions x.1 x.2, x.2))) := by
  induction ls generalizing start place c with
  | nil => exact absurd rfl hne
  | cons l rest ih =>
      have hslice : t.slice ⟨start, place⟩ = c := by
        rw [Text.slice, hdrop, hplace]
        show List.take (start + c.length - start) (c ++ Text.joinWith "\n" (l :: rest)) = c
        rw [Nat.add_sub_cancel_left, List.take_left]
      have hbehind : t.drop place = Text.joinWith "\n" (l :: rest) := by
        rw [hplace, ← List.drop_drop, hdrop, List.drop_left]
      by_cases hlast : rest = []
      · subst hlast
        cases hbegins : beginsSection regions place l with
        | true => simp [Text.placesFrom, hbegins, groups, groupTexts, cutAt, hslice, hbehind, ended, endedGroups]
        | false => simp [Text.placesFrom, hbegins, groups, groupTexts, cutAt, hdrop]
      · have hjoin : Text.joinWith "\n" (l :: rest) = l ++ ['\n'] ++ Text.joinWith "\n" rest := Text.joinWith_cons hlast
        have hlines : (Text.placesFrom (place + l.length + 1) rest).map
            (fun x => (beginsSection regions x.1 x.2, x.2)) ≠ [] := by
          cases rest with
          | nil => exact absurd rfl hlast
          | cons m ms => exact List.cons_ne_nil _ _
        have hfront := groups_fst_ne_nil hlines
        rw [hjoin] at hdrop hbehind
        cases hbegins : beginsSection regions place l with
        | true =>
            have hplace' : place + l.length + 1 = place + (l ++ ['\n']).length := by simp [Nat.add_assoc]
            simp only [Text.placesFrom, List.filter_cons, hbegins, if_true, List.map_cons, cutAt, hslice, groups]
            rw [ih hlast hbehind hplace', groupTexts_section hfront]
        | false =>
            have hplace' : place + l.length + 1 = start + (c ++ (l ++ ['\n'])).length := by
              rw [hplace]
              simp [Nat.add_assoc]
            have hdrop' : t.drop start = c ++ (l ++ ['\n']) ++ Text.joinWith "\n" rest := by
              rw [hdrop, List.append_assoc c]
            simp only [Text.placesFrom, List.filter_cons, hbegins, Bool.false_eq_true, if_false, List.map_cons, groups]
            rw [ih hlast hdrop' hplace', groupTexts_front hfront]

theorem map_snd_linesFrom (regions : List Span) (place : Nat) (t : Text) :
    (linesFrom regions place t).map Prod.snd = Text.splitOn t ['\n'] := by
  rw [linesFrom, List.map_map]
  generalize Text.splitOn t ['\n'] = ls
  induction ls generalizing place with
  | nil => rfl
  | cons l ls ih => exact congrArg (l :: ·) (ih (place + l.length + 1))

/-- The front and the texts of the sections are made of the lines in front of the first header line, and of those from
each header line on. -/
theorem chunks_eq (t : Text) :
    chunks t = if (groups (markedLines t)).2 = [] then (t, [])
      else (ended (groups (markedLines t)).1, endedGroups (groups (markedLines t)).2) := by
  have ht : Text.joinWith "\n" (Text.splitOn t ['\n']) = t := Text.joinWith_splitOn (List.cons_ne_nil _ _)
  have hcut : cutAt t 0 (headerPlaces t) = groupTexts [] (groups (markedLines t)) :=
    cutAt_places (Region.ignored t) (Text.lines_ne_nil t) ht.symm rfl
  have hfront := groups_append_flatten (markedLines t)
  rw [markedLines, map_snd_linesFrom, ← markedLines] at hfront
  rw [chunks, hcut, groupTexts]
  generalize groups (markedLines t) = g at hfront ⊢
  by_cases hnone : g.2 = []
  · rw [hnone, List.flatten_nil, List.append_nil] at hfront
    rw [if_pos hnone, if_pos hnone, hfront, ht]
    rfl
  · rw [if_neg hnone, if_neg hnone]
    rfl

theorem dropNewlines_cons {piece : Text} {pieces : List Text} (hpieces : pieces ≠ []) :
    dropNewlines (piece :: pieces) = dropNewline piece :: dropNewlines pieces := by
  cases pieces with
  | nil => exact absurd rfl hpieces
  | cons next pieces => rfl

theorem dropNewlines_endedGroups {gs : List (List Text)} (hgs : forall ls, ls ∈ gs -> ls ≠ []) :
    dropNewlines (endedGroups gs) = gs.map (Text.joinWith "\n") := by
  induction gs with
  | nil => rfl
  | cons ls gs ih =>
      by_cases hlast : gs = []
      · rw [hlast]
        rfl
      · have hrest := ih fun ls' hls' => hgs ls' (List.mem_cons_of_mem ls hls')
        have hended : ended ls = Text.joinWith "\n" ls ++ ['\n'] :=
          Text.flatMap_append_sep (hgs ls List.mem_cons_self)
        have hne : endedGroups gs ≠ [] := by
          intro hnil
          rw [hnil] at hrest
          exact hlast (List.map_eq_nil_iff.mp hrest.symm)
        rw [endedGroups_cons hlast, dropNewlines_cons hne, hended, dropNewline_append, hrest]
        rfl

/-- Every section is read from the lines from its header line on. -/
theorem dropNewlines_chunks (t : Text) :
    dropNewlines (chunks t).2 = (groups (markedLines t)).2.map (Text.joinWith "\n") := by
  rw [chunks_eq]
  by_cases hnone : (groups (markedLines t)).2 = []
  · rw [if_pos hnone, hnone]
    rfl
  · rw [if_neg hnone]
    exact dropNewlines_endedGroups fun ls hls => ne_nil_of_mem_groups hls

end Page

namespace Section

/-!
# Sections by their first lines
-/

theorem headAndBody_of_newline_not_mem {line : Text} (hline : '\n' ∉ line) : headAndBody line = (line, {}) := by
  have hsplit : Text.splitOnce? line "\n" = none := Text.splitOnce?_singleton_eq_none hline
  rw [headAndBody, hsplit]

theorem fst_headAndBody_joinWith {line : Text} {ls : List Text} (hline : '\n' ∉ line) :
    (headAndBody (Text.joinWith "\n" (line :: ls))).1 = line := by
  cases ls with
  | nil => exact congrArg Prod.fst (headAndBody_of_newline_not_mem hline)
  | cons l ls =>
      have hjoin : Text.joinWith "\n" (line :: l :: ls) = line ++ '\n' :: Text.joinWith "\n" (l :: ls) :=
        (Text.joinWith_cons (List.cons_ne_nil l ls)).trans (List.append_assoc _ _ _)
      have hsplit : Text.splitOnce? (line ++ '\n' :: Text.joinWith "\n" (l :: ls)) "\n" =
          some (line, Text.joinWith "\n" (l :: ls)) := Text.splitOnce?_singleton_append hline _
      rw [hjoin, headAndBody, hsplit]

/-- The first line decides what is read; the rest is the body. -/
theorem read_joinWith (c : Config) {line : Text} {ls : List Text} (hline : '\n' ∉ line) :
    read c (Text.joinWith "\n" (line :: ls)) =
      (read c line).map fun s => { s with body := (headAndBody (Text.joinWith "\n" (line :: ls))).2 } := by
  rw [read, fst_headAndBody_joinWith hline, read, headAndBody_of_newline_not_mem hline]
  cases HeaderLine.read line with
  | error e => rfl
  | ok h =>
      by_cases htwo : h.level = 2
      · cases hlanguage : LanguageHeader.read c h.header with
        | error e => simp [bind, Except.bind, Except.map, htwo, hlanguage]
        | ok language => simp [bind, Except.bind, Except.map, pure, Except.pure, htwo, hlanguage]
      · simp [bind, Except.bind, Except.map, pure, Except.pure, htwo]

/-- A line that is read as the header line of a section with the level and the header. -/
def ReadsAs (c : Config) (line : Text) (heading : Nat × Text) : Prop :=
  exists s, read c line = .ok s ∧ (s.level, s.header) = heading

end Section

namespace Page

/-!
# Pages by their header lines
-/

/-- The levels and the headers of the sections in document order. -/
def headings (p : Page) : List (Nat × Text) :=
  p.order.map fun i => (p.level i, p.header i)

theorem headings_splitTrailing (c : Config) (p : Page) : (splitTrailing c p).headings = p.headings := by
  unfold splitTrailing
  cases p.order.getLast? with
  | none => rfl
  | some last =>
      dsimp only
      cases c.closingLinks.find? ('\n' :: (p.get last).intro) with
      | none => rfl
      | some m =>
          refine List.map_congr_left fun i _ => ?_
          show (((p.modify last _).get i).level, ((p.modify last _).get i).header) = _
          rw [get_modify]
          by_cases hi : last = i ∧ i < p.sections.length
          · rw [if_pos hi]
            rfl
          · rw [if_neg hi]
            rfl

/-- In a page whose sections stand in the order in which they were made, what is told of them is told in that order. -/
theorem map_get_of_order {α : Type} {p : Page} (horder : p.order = List.range p.sections.length) (f : Section -> α) :
    p.order.map (fun i => f (p.get i)) = p.sections.map f := by
  rw [horder]
  refine List.ext_getElem? fun i => ?_
  rw [List.getElem?_map, List.getElem?_map]
  by_cases hi : i < p.sections.length
  · rw [List.getElem?_range hi, List.getElem?_eq_getElem hi, Option.map_some, Option.map_some, get,
      List.getD_eq_getElem?_getD, List.getElem?_eq_getElem hi]
    rfl
  · rw [List.getElem?_eq_none (by rw [List.length_range]; exact Nat.le_of_not_lt hi),
      List.getElem?_eq_none (Nat.le_of_not_lt hi)]
    rfl

theorem headings_assemble (title front : Text) (sections : List Section) :
    (assemble title front sections).headings = sections.map fun s => (s.level, s.header) :=
  map_get_of_order (p := assemble title front sections) rfl fun s => (s.level, s.header)

/-- If the header lines are read as the headings, the sections that begin with them are. -/
theorem exists_of_readsAs {c : Config} {gs : List (List Text)} {lines : List Text} {headings : List (Nat × Text)}
    (hheads : gs.map List.head? = lines.map some) (hnewline : forall ls, ls ∈ gs -> forall l, l ∈ ls -> '\n' ∉ l)
    (hreads : List.Forall₂ (Section.ReadsAs c) lines headings) :
    exists sections, (gs.map (Text.joinWith "\n")).mapM (Section.read c) = .ok sections ∧
      (sections.map fun s => (s.level, s.header)) = headings := by
  induction hreads generalizing gs with
  | nil =>
      rw [List.map_eq_nil_iff.mp hheads]
      exact ⟨[], rfl, rfl⟩
  | @cons line heading lines headings hline _ ih =>
      rcases List.map_eq_cons_iff.mp hheads with ⟨ls, gs, rfl, hls, hgs⟩
      rcases List.head?_eq_some_iff.mp hls with ⟨ls, rfl⟩
      rcases hline with ⟨s, hs, heading⟩
      rcases ih hgs fun ls' hls' => hnewline ls' (List.mem_cons_of_mem _ hls') with ⟨sections, hsections, hmap⟩
      have hfirst : Section.read c (Text.joinWith "\n" (line :: ls)) =
          .ok { s with body := (Section.headAndBody (Text.joinWith "\n" (line :: ls))).2 } := by
        rw [Section.read_joinWith c (hnewline _ List.mem_cons_self _ List.mem_cons_self), hs]
        rfl
      refine ⟨{ s with body := (Section.headAndBody (Text.joinWith "\n" (line :: ls))).2 } :: sections, ?_, ?_⟩
      · rw [List.map_cons, List.mapM_cons, hfirst, hsections]
        rfl
      · rw [List.map_cons, hmap, ← heading]
        rfl

theorem newline_not_mem_of_mem_groups {t : Text} {ls : List Text} (hls : ls ∈ (groups (markedLines t)).2) :
    forall l, l ∈ ls -> '\n' ∉ l := by
  intro l hl
  apply Text.newline_not_mem_of_mem_lines (t := t)
  rw [← map_snd_linesFrom (Region.ignored t) 0 t, ← markedLines, ← groups_append_flatten]
  exact List.mem_append_right _ (List.mem_flatten.mpr ⟨ls, hls, hl⟩)

theorem headerLines_nil : headerLines (markedLines []) = [] := by
  have hnone : headerLine.find? [] = none := by decide +kernel
  show headerLines [(beginsSection (Region.ignored []) 0 [], [])] = []
  rw [beginsSection, hnone]
  rfl

/-- A sanitized text is read as a page with the headings that its header lines are read as. -/
theorem exists_read_of_readsAs {c : Config} {title t : Text} {headings : List (Nat × Text)}
    (ht : Region.sanitizeBlanks t = t)
    (hreads : List.Forall₂ (Section.ReadsAs c) (headerLines (markedLines t)) headings) :
    exists p, read c title t = .ok p ∧ p.headings = headings := by
  by_cases hempty : t = []
  · rw [hempty, headerLines_nil] at hreads
    cases hreads
    rw [hempty]
    exact ⟨empty title, rfl, rfl⟩
  · rcases exists_of_readsAs (head?_groups (markedLines t)) (fun _ => newline_not_mem_of_mem_groups) hreads with
      ⟨sections, hsections, hmap⟩
    refine ⟨splitTrailing c (assemble title (chunks t).1 sections), ?_, ?_⟩
    · rw [read, if_neg (by simpa using hempty), ht]
      dsimp only
      rw [dropNewlines_chunks, hsections]
      rfl
    · rw [headings_splitTrailing, headings_assemble, hmap]

end Page
end WikiEntry
