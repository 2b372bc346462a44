import WikiEntry.Proofs.Page.HeaderLines
import WikiEntry.Proofs.Page.RoundTrip

/-!
# The parts of a printed page

A page is printed as its front, its sections and its trailing content on lines of their own.  If no ignored region
reaches from one of these parts into another, then a line begins a section of the whole text exactly if it begins one of
its part.
-/

namespace WikiEntry
namespace Page

/-!
# Lines that begin a section, by place
-/

theorem start_lt_of_headerLine {line : Text} {m : Match} {s : Span} (hm : headerLine.find? line = some m)
    (hs : m.group? 1 = some s) : s.start < line.length := by
  rcases Pattern.reads_of_find?_whole hm with ⟨z, hreads, _, hgroups⟩
  rcases hreads.seq_inv with ⟨w, comments, s3, hline, hreads, hcomments⟩
  rcases hreads.seq_inv with ⟨w, blanks, s2, rfl, hreads, hblanks⟩
  rcases hreads.seq_inv with ⟨before, head, s1, rfl, hbefore, hhead⟩
  have hplace : s1.place = before.length := by
    rw [hbefore.advances.2]
    exact Nat.zero_add _
  have hspan : s = ⟨s1.place, s1.place + head.length⟩ := by
    rw [Match.group?, if_neg (by decide), hgroups, hcomments.groups_eq rfl, hblanks.groups_eq rfl,
      hhead.group_groupless rfl] at hs
    exact (Option.some.inj hs).symm
  have hpos : 0 < head.length := List.length_pos_of_ne_nil (hhead.ne_nil rfl)
  rw [hspan, hplace, hline]
  simp only [List.length_append]
  omega

/-- Only the places of the line itself matter. -/
theorem beginsSection_congr {regions regions' : List Span} {place place' : Nat} {line : Text}
    (h : forall k, k < line.length -> Region.covers regions (place + k) = Region.covers regions' (place' + k)) :
    beginsSection regions place line = beginsSection regions' place' line := by
  unfold beginsSection
  cases hm : headerLine.find? line with
  | none => rfl
  | some m =>
      cases hs : m.group? 1 with
      | none => simp [hs]
      | some s => simp [hs, h s.start (start_lt_of_headerLine hm hs)]

theorem linesFrom_append (regions : List Span) (place : Nat) (t u : Text) :
    linesFrom regions place (t ++ '\n' :: u) =
      linesFrom regions place t ++ linesFrom regions (place + (t.length + 1)) u := by
  rw [linesFrom, Text.placesFrom_lines_append, List.map_append]
  rfl

theorem linesFrom_congr {regions regions' : List Span} {place place' : Nat} {t : Text}
    (h : forall k, k < t.length -> Region.covers regions (place + k) = Region.covers regions' (place' + k)) :
    linesFrom regions place t = linesFrom regions' place' t := by
  have ht : Text.joinWith "\n" (Text.splitOn t ['\n']) = t := Text.joinWith_splitOn (List.cons_ne_nil _ _)
  rw [← ht] at h
  unfold linesFrom
  generalize Text.splitOn t ['\n'] = ls at h
  induction ls generalizing place place' with
  | nil => rfl
  | cons l ls ih =>
      by_cases hlast : ls = []
      · rw [hlast] at h ⊢
        exact congrArg (fun b => [(b, l)]) (beginsSection_congr h)
      · rw [Text.joinWith_cons hlast, List.append_assoc] at h
        have hfirst : beginsSection regions place l = beginsSection regions' place' l := by
          refine beginsSection_congr fun k hk => h k ?_
          rw [List.length_append]
          omega
        have hrest : (Text.placesFrom (place + l.length + 1) ls).map (fun x => (beginsSection regions x.1 x.2, x.2)) =
            (Text.placesFrom (place' + l.length + 1) ls).map fun x => (beginsSection regions' x.1 x.2, x.2) := by
          refine ih fun k hk => ?_
          have hbehind : l.length + 1 + k < (l ++ ('\n' :: Text.joinWith "\n" ls)).length := by
            rw [List.length_append, List.length_cons]
            omega
          have hcovers := h (l.length + 1 + k) hbehind
          rwa [← Nat.add_assoc, ← Nat.add_assoc, ← Nat.add_assoc, ← Nat.add_assoc] at hcovers
        rw [Text.placesFrom, Text.placesFrom, List.map_cons, List.map_cons, hfirst, hrest]

/-!
# Parts
-/

def frontPart (p : Page) : List Text :=
  if p.front = [] ∧ p.order ≠ [] then [] else [p.front.dropLast]

def trailingPart (p : Page) : List Text :=
  if p.trailingContent.isEmpty then [] else [p.trailingContent]

theorem trailingPart_of_eq_nil {p : Page} (h : p.trailingContent = []) : p.trailingPart = [] := by
  rw [trailingPart, h]
  rfl

theorem trailingPart_of_ne_nil {p : Page} (h : p.trailingContent ≠ []) : p.trailingPart = [p.trailingContent] :=
  if_neg (by simpa using h)

/-- What is printed on lines of its own. -/
def parts (p : Page) : List Text :=
  p.frontPart ++ p.order.map (fun i => (p.get i).render) ++ p.trailingPart

/-- The text in front of the sections ends with a newline. -/
theorem front_eq_nil_or_endsLine (p : Page) : p.front = [] ∨ EndsLine p.front := by
  unfold front
  cases hintro : p.intro.isEmpty with
  | false => exact Or.inr ⟨_, rfl⟩
  | true =>
      have hrender : p.body.render = List.replicate (p.body.leading + p.body.trailing) '\n' := by
        have htext : p.body.text = [] := List.isEmpty_iff.mp hintro
        rw [Body.render, htext, List.append_nil, List.replicate_append_replicate]
      rw [hrender, if_pos rfl, List.append_nil]
      cases p.body.leading + p.body.trailing with
      | zero => exact Or.inl rfl
      | succ n => exact Or.inr ⟨_, List.replicate_succ'⟩

theorem frontPart_append_ne_nil (p : Page) : p.frontPart ++ p.order.map (fun i => (p.get i).render) ≠ [] := by
  intro hnil
  rcases List.append_eq_nil_iff.mp hnil with ⟨hfront, hsections⟩
  rw [frontPart, if_neg fun h => h.2 (List.map_eq_nil_iff.mp hsections)] at hfront
  cases hfront

theorem parts_ne_nil (p : Page) : p.parts ≠ [] :=
  List.append_ne_nil_of_left_ne_nil p.frontPart_append_ne_nil _

theorem joinWith_frontPart_append {p : Page} (horder : p.order ≠ []) {us : List Text} (hus : us ≠ []) :
    Text.joinWith "\n" (p.frontPart ++ us) = p.front ++ Text.joinWith "\n" us := by
  rw [frontPart]
  by_cases hfront : p.front = []
  · rw [if_pos ⟨hfront, horder⟩, hfront]
    rfl
  · rcases p.front_eq_nil_or_endsLine.resolve_left hfront with ⟨u, hu⟩
    rw [if_neg fun h => hfront h.1, hu, List.dropLast_concat, List.singleton_append, Text.joinWith_cons hus]
    rfl

/-- The front and the sections, as they are printed. -/
theorem dropLast_front_append (p : Page) :
    (p.front ++ p.order.flatMap fun i => (p.get i).render ++ ['\n']).dropLast =
      Text.joinWith "\n" (p.frontPart ++ p.order.map fun i => (p.get i).render) := by
  by_cases horder : p.order = []
  · rw [frontPart, if_neg fun h => h.2 horder, horder, List.flatMap_nil, List.append_nil]
    rfl
  · have hne : (p.order.map fun i => (p.get i).render) ≠ [] := fun hnil => horder (List.map_eq_nil_iff.mp hnil)
    have hsections : (p.order.flatMap fun i => (p.get i).render ++ ['\n']) =
        Text.joinWith "\n" (p.order.map fun i => (p.get i).render) ++ ['\n'] := by
      refine Eq.trans ?_ (Text.flatMap_append_sep hne)
      rw [List.flatMap_map]
      rfl
    rw [hsections, ← List.append_assoc, List.dropLast_concat, joinWith_frontPart_append horder hne]

/-- A page is printed as its parts, joined by newlines. -/
theorem WellFormed.render_eq_joinWith {p : Page} (h : p.WellFormed) : p.render = Text.joinWith "\n" p.parts := by
  unfold render
  rw [h.flatMap_renderSection, parts, trailingPart]
  show (if p.trailingContent.isEmpty then (p.front ++ p.order.flatMap fun i => (p.get i).render ++ ['\n']).dropLast
    else (p.front ++ p.order.flatMap fun i => (p.get i).render ++ ['\n']).dropLast ++ '\n' :: p.trailingContent) = _
  rw [p.dropLast_front_append]
  cases p.trailingContent.isEmpty with
  | true => rw [if_pos rfl, if_pos rfl, List.append_nil]
  | false =>
      rw [if_neg Bool.false_ne_true, if_neg Bool.false_ne_true,
        Text.joinWith_append "\n" p.frontPart_append_ne_nil (List.cons_ne_nil _ _), List.append_assoc]
      rfl

/-!
# Regions that stay in their parts
-/

/-- Part for part, the regions hold the places that the regions of the part alone hold. -/
def Apart (regions : List Span) : (place : Nat) -> List Text -> Prop
  | _, [] => True
  | place, part :: parts =>
      (forall k, k < part.length -> Region.covers regions (place + k) = Region.covers (Region.ignored part) k) ∧
        Apart regions (place + (part.length + 1)) parts

/-- No ignored region of the printed page reaches from one part into another. -/
def KeepsRegions (p : Page) : Prop :=
  Apart (Region.ignored p.render) 0 p.parts

theorem linesFrom_joinWith {regions : List Span} {place : Nat} {parts : List Text} (hne : parts ≠ [])
    (h : Apart regions place parts) :
    linesFrom regions place (Text.joinWith "\n" parts) = parts.flatMap markedLines := by
  induction parts generalizing place with
  | nil => exact absurd rfl hne
  | cons part parts ih =>
      have hfirst : linesFrom regions place part = markedLines part :=
        linesFrom_congr fun k hk => by rw [h.1 k hk, Nat.zero_add]
      by_cases hlast : parts = []
      · rw [hlast, List.flatMap_singleton]
        exact hfirst
      · rw [Text.joinWith_cons hlast, List.append_assoc, List.flatMap_cons, ← ih hlast h.2, ← hfirst]
        exact linesFrom_append regions place part _

/-- The lines of the printed page are those of its parts. -/
theorem markedLines_render {p : Page} (h : p.WellFormed) (hregions : p.KeepsRegions) :
    markedLines p.render = p.parts.flatMap markedLines := by
  have hlines := linesFrom_joinWith p.parts_ne_nil hregions
  rwa [← h.render_eq_joinWith] at hlines

theorem headerLines_append (ls ms : List (Bool × Text)) :
    headerLines (ls ++ ms) = headerLines ls ++ headerLines ms := by
  rw [headerLines, List.filter_append, List.map_append]
  rfl

theorem get_mem {p : Page} {i : Nat} (hi : i < p.sections.length) : p.get i ∈ p.sections := by
  rw [get, List.getD_eq_getElem?_getD, List.getElem?_eq_getElem hi]
  exact List.getElem_mem hi

/-- Of the parts only the sections have a header line, each one that is read as its level and header. -/
structure PartsRead (c : Config) (p : Page) : Prop where
  front : headerLines (markedLines p.front.dropLast) = []
  trailing : headerLines (markedLines p.trailingContent) = []
  sections : forall s, s ∈ p.sections -> exists line, headerLines (markedLines s.render) = [line] ∧
    Section.ReadsAs c line (s.level, s.header)

theorem headerLines_flatMap (parts : List Text) :
    headerLines (parts.flatMap markedLines) = parts.flatMap fun part => headerLines (markedLines part) := by
  induction parts with
  | nil => rfl
  | cons part parts ih => rw [List.flatMap_cons, headerLines_append, ih, List.flatMap_cons]

theorem headerLines_frontPart (p : Page) :
    headerLines (p.frontPart.flatMap markedLines) = headerLines (markedLines p.front.dropLast) := by
  rw [frontPart]
  by_cases hnone : p.front = [] ∧ p.order ≠ []
  · rw [if_pos hnone, hnone.1]
    exact headerLines_nil.symm
  · rw [if_neg hnone, List.flatMap_singleton]

theorem headerLines_trailingPart (p : Page) :
    headerLines (p.trailingPart.flatMap markedLines) = headerLines (markedLines p.trailingContent) := by
  by_cases hnone : p.trailingContent = []
  · rw [trailingPart_of_eq_nil hnone, hnone]
    exact headerLines_nil.symm
  · rw [trailingPart_of_ne_nil hnone, List.flatMap_singleton]

/-- The header lines of the parts are those of the sections. -/
theorem PartsRead.headerLines_parts {c : Config} {p : Page} (h : p.PartsRead c) :
    headerLines (p.parts.flatMap markedLines) =
      p.order.flatMap fun i => headerLines (markedLines (p.get i).render) := by
  rw [parts, List.flatMap_append, List.flatMap_append, headerLines_append, headerLines_append, headerLines_frontPart,
    headerLines_trailingPart, h.front, h.trailing, List.append_nil, List.nil_append, headerLines_flatMap,
    List.flatMap_map]

/-- A page whose parts can be read alone is read with the same levels and headers if its regions stay in the parts. -/
theorem WellFormed.exists_read_render {c : Config} {title : Text} {p : Page} (h : p.WellFormed) (hparts : p.PartsRead c)
    (hregions : p.KeepsRegions) (hsanitized : Region.sanitizeBlanks p.render = p.render) :
    exists q, read c title p.render = .ok q ∧ q.headings = p.headings := by
  refine exists_read_of_readsAs hsanitized ?_
  rw [markedLines_render h hregions, hparts.headerLines_parts, headings]
  have hsections : forall i, i ∈ p.order -> exists line, headerLines (markedLines (p.get i).render) = [line] ∧
      Section.ReadsAs c line (p.level i, p.header i) :=
    fun i hi => hparts.sections _ (get_mem (h.made i hi))
  generalize p.order = order at hsections
  induction order with
  | nil => exact .nil
  | cons i order ih =>
      rcases hsections i List.mem_cons_self with ⟨line, hline, hreads⟩
      rw [List.flatMap_cons, hline]
      exact .cons hreads (ih fun j hj => hsections j (List.mem_cons_of_mem i hj))

end Page
end WikiEntry
