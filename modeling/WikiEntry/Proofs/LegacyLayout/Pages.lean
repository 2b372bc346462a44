import WikiEntry.Proofs.LegacyLayout.Detection
import WikiEntry.Proofs.LegacyLayout.Sections
import WikiEntry.Proofs.Page.RoundTrip

/-!
# Current pages

A page is current if all of its texts are.  Reading a current text gives a current page and printing a current page a
current text, wherever the sections stand by then; what moves them or changes their levels leaves their texts alone.
-/

namespace WikiEntry
namespace LegacyLayout

structure CurrentPage (p : Page) : Prop where
  body : IsCurrent p.body.text
  trailing : IsCurrent p.trailingContent
  sections : forall s, s ∈ p.sections -> CurrentSection s

variable {p : Page}

theorem CurrentPage.get (h : CurrentPage p) (i : Nat) : CurrentSection (p.get i) := by
  rw [Page.get, List.getD_eq_getElem?_getD]
  cases hs : p.sections[i]? with
  | none => exact currentSection_default
  | some s => exact h.sections s (List.mem_of_getElem? hs)

/-!
# Printing
-/

theorem isCurrent_joinWith_newline_iff {ts : List Text} :
    IsCurrent (Text.joinWith "\n" ts) <-> forall t, t ∈ ts -> IsCurrent t :=
  isCurrent_joinWith_iff 0 ts

theorem CurrentPage.isCurrent_renderTrees (h : CurrentPage p) (f : Outline) :
    forall t, t ∈ p.renderTrees f -> IsCurrent t := by
  induction f with
  | nil => exact List.forall_mem_nil _
  | node i level children siblings ihChildren ihSiblings =>
      refine List.forall_mem_cons.mpr ⟨?_, ihSiblings⟩
      rw [isCurrent_joinWith_newline_iff, List.forall_mem_cons]
      exact ⟨(h.get i).render, ihChildren⟩

theorem CurrentPage.isCurrent_renderSection (h : CurrentPage p) (i : Nat) : IsCurrent (p.renderSection i) := by
  rw [Page.renderSection, isCurrent_joinWith_newline_iff, List.forall_mem_cons]
  exact ⟨(h.get i).render, h.isCurrent_renderTrees _⟩

theorem CurrentPage.isCurrent_front (h : CurrentPage p) : IsCurrent p.front := by
  have hbody := isCurrent_body_render h.body
  rw [Page.front]
  split
  · rwa [List.append_nil]
  · exact (isCurrent_append_iff (by decide)).mpr ⟨hbody, rfl⟩

/-- A text of lines that are all ended. -/
def WholeLines (t : Text) : Prop :=
  t = [] ∨ Page.EndsLine t

theorem WholeLines.append {a b : Text} (ha : WholeLines a) (hb : WholeLines b) : WholeLines (a ++ b) := by
  rcases hb with rfl | ⟨u, rfl⟩
  · rwa [List.append_nil]
  · exact Or.inr ⟨a ++ u, (List.append_assoc a u _).symm⟩

/-- Behind whole lines anything may follow, and the last line end may go. -/
theorem isCurrent_append_of_wholeLines {a b : Text} (ha : WholeLines a) (hcurrent : IsCurrent a) (hb : IsCurrent b) :
    IsCurrent (a ++ b) := by
  rcases ha with rfl | ⟨u, rfl⟩
  · exact hb
  · rw [List.append_assoc, List.singleton_append, isCurrent_append_iff (by decide)]
    exact ⟨((isCurrent_append_iff (by decide)).mp hcurrent).1, hb⟩

theorem isCurrent_dropLast_of_wholeLines {a : Text} (ha : WholeLines a) (hcurrent : IsCurrent a) :
    IsCurrent a.dropLast := by
  rcases ha with rfl | ⟨u, rfl⟩
  · exact hcurrent
  · rw [List.dropLast_concat]
    exact ((isCurrent_append_iff (by decide)).mp hcurrent).1

theorem wholeLines_front (p : Page) : WholeLines p.front := by
  rw [Page.front]
  split
  · rename_i hempty
    have hnil : p.body.text = [] := List.isEmpty_iff.mp hempty
    rw [List.append_nil, Body.render, hnil, List.append_nil, List.replicate_append_replicate]
    cases p.body.leading + p.body.trailing with
    | zero => exact Or.inl rfl
    | succ n => exact Or.inr ⟨_, List.replicate_succ'⟩
  · exact Or.inr ⟨_, rfl⟩

theorem CurrentPage.render (h : CurrentPage p) : IsCurrent p.render := by
  have hsections : forall ids : List Nat, WholeLines (ids.flatMap fun i => p.renderSection i ++ ['\n']) ∧
      IsCurrent (ids.flatMap fun i => p.renderSection i ++ ['\n']) := by
    intro ids
    induction ids with
    | nil => exact ⟨Or.inl rfl, rfl⟩
    | cons i ids ih =>
        have hline : WholeLines (p.renderSection i ++ ['\n']) := Or.inr ⟨_, rfl⟩
        have hcurrent : IsCurrent (p.renderSection i ++ ['\n']) :=
          (isCurrent_append_iff (by decide)).mpr ⟨h.isCurrent_renderSection i, rfl⟩
        rw [List.flatMap_cons]
        exact ⟨hline.append ih.1, isCurrent_append_of_wholeLines hline hcurrent ih.2⟩
  rcases hsections p.topLevel with ⟨hwhole, hcurrent⟩
  have hcontent : IsCurrent (p.front ++ p.topLevel.flatMap fun i => p.renderSection i ++ ['\n']).dropLast :=
    isCurrent_dropLast_of_wholeLines ((wholeLines_front p).append hwhole)
      (isCurrent_append_of_wholeLines (wholeLines_front p) h.isCurrent_front hcurrent)
  show IsCurrent (if p.trailingContent.isEmpty then
    (p.front ++ p.topLevel.flatMap fun i => p.renderSection i ++ ['\n']).dropLast
    else (p.front ++ p.topLevel.flatMap fun i => p.renderSection i ++ ['\n']).dropLast ++ '\n' :: p.trailingContent)
  split
  · exact hcontent
  · exact (isCurrent_append_iff (by decide)).mpr ⟨hcontent, h.trailing⟩

/-!
# Changing pages
-/

theorem CurrentPage.setOrder (h : CurrentPage p) (order : List Nat) : CurrentPage (p.setOrder order) :=
  ⟨h.body, h.trailing, h.sections⟩

theorem CurrentPage.link (h : CurrentPage p) : CurrentPage p.link :=
  ⟨h.body, h.trailing, h.sections⟩

theorem CurrentPage.modify (h : CurrentPage p) (i : Nat) {f : Section -> Section}
    (hf : forall s, CurrentSection s -> CurrentSection (f s)) : CurrentPage (p.modify i f) := by
  refine ⟨h.body, h.trailing, fun s hs => ?_⟩
  rcases List.mem_iff_getElem?.mp hs with ⟨j, hj⟩
  rw [Page.modify, List.getElem?_modify] at hj
  rcases Option.map_eq_some_iff.mp hj with ⟨s', hs', rfl⟩
  have hcurrent := h.sections s' (List.mem_of_getElem? hs')
  split
  · exact hf s' hcurrent
  · exact hcurrent

theorem CurrentPage.create (h : CurrentPage p) {s : Section} (hs : CurrentSection s) : CurrentPage (p.create s).1 := by
  refine ⟨h.body, h.trailing, fun s' hs' => ?_⟩
  rcases List.mem_append.mp hs' with hs' | hs'
  · exact h.sections s' hs'
  · rw [List.mem_singleton.mp hs']
    exact hs

theorem CurrentPage.append (h : CurrentPage p) {s : Section} (hs : CurrentSection s) : CurrentPage (p.append s).1 :=
  (h.create hs).setOrder _

theorem CurrentPage.moveBehind (h : CurrentPage p) (ids : List Nat) (refused? : Option TreeFault)
    (anchor? : Page -> Option Nat) (detached : TreeFault) :
    CurrentPage (p.moveBehind ids refused? anchor? detached).page := by
  unfold Page.moveBehind
  split
  · exact h
  · cases refused? with
    | some f => exact h
    | none =>
        dsimp only
        rw [Page.insertBehind]
        dsimp only
        split
        · exact ⟨h.body, h.trailing, h.sections⟩
        · exact h.setOrder _

theorem CurrentPage.foldl {α : Type} {f : Page -> α -> Page} (h : CurrentPage p) {xs : List α}
    (hf : forall p x, x ∈ xs -> CurrentPage p -> CurrentPage (f p x)) : CurrentPage (xs.foldl f p) := by
  induction xs generalizing p with
  | nil => exact h
  | cons x xs ih =>
      rcases List.forall_mem_cons.mp (fun x hx p => hf p x hx) with ⟨hx, hxs⟩
      exact ih (hx p h) fun p x hmem => hxs x hmem p

theorem CurrentPage.foldlM {α : Type} {f : Page -> α -> Except EntryError Page}
    (hf : forall p x q, CurrentPage p -> f p x = .ok q -> CurrentPage q) (h : CurrentPage p) {xs : List α} {q : Page}
    (hq : xs.foldlM f p = .ok q) : CurrentPage q :=
  of_foldlM_eq_ok (motive := fun _ => CurrentPage) (fun x _ p q hp hstep => hf p x q hp hstep) h hq

/-!
# Levels
-/

theorem CurrentPage.putLevel (h : CurrentPage p) (i level : Nat) : CurrentPage (p.putLevel i level).page := by
  rw [Page.putLevel]
  split
  · refine h.modify i fun s hs => ?_
    cases hset : s.setLevel level with
    | error e => exact hs
    | ok s' => exact currentSection_of_setLevel hs hset
  · exact h

theorem CurrentPage.setLevel (h : CurrentPage p) (i level : Nat) : CurrentPage (p.setLevel i level).page := by
  rw [Page.setLevel]
  split
  · exact (h.putLevel i level).link
  · exact h.putLevel i level

theorem CurrentPage.putLevels (h : CurrentPage p) (levels : List (Nat × Nat)) : CurrentPage (p.putLevels levels) :=
  h.foldl fun _ x _ h => h.putLevel x.1 x.2

theorem CurrentPage.shiftLevels (h : CurrentPage p) (i : Nat) (shift : Int) :
    CurrentPage (p.shiftLevels i shift).page := by
  unfold Page.shiftLevels
  split
  · exact h
  · split
    · exact h
    · split
      · exact h
      · dsimp only
        split
        · exact (h.putLevels _).link
        · exact h

theorem CurrentPage.levelSiblings (h : CurrentPage p) (group : Option Nat × List Nat) :
    CurrentPage (p.levelSiblings group) := by
  rw [Page.levelSiblings]
  split
  · exact h.putLevels _
  · exact h

theorem CurrentPage.levelFrom (h : CurrentPage p) (rounds depth : Nat) : CurrentPage (p.levelFrom rounds depth) := by
  induction rounds generalizing p depth with
  | zero => exact h
  | succ rounds ih =>
      rw [Page.levelFrom]
      split
      · exact h
      · exact ih (h.foldl fun _ group _ h => h.levelSiblings group).link (depth + 1)

theorem CurrentPage.normalizeLevels (h : CurrentPage p) : CurrentPage p.normalizeLevels := by
  rw [Page.normalizeLevels]
  split
  · exact h
  · exact h.levelFrom _ 0

theorem CurrentPage.shiftAll (h : CurrentPage p) {ids : List Nat} {shift : Int} {q : Page}
    (hq : Levels.shiftAll p ids shift = .ok q) : CurrentPage q := by
  refine h.foldlM (fun p i q h hq => ?_) hq
  rw [Page.page_of_toExcept hq]
  exact h.shiftLevels i shift

/-!
# Reading
-/

theorem isCurrent_dropNewline {t : Text} (h : IsCurrent t) : IsCurrent (Page.dropNewline t) := by
  rw [Page.dropNewline]
  cases hbefore : Text.before? "\n" t with
  | none => exact h
  | some u =>
      have heq : t = u ++ ['\n'] := Text.before?_eq_some_iff.mp hbefore
      rw [heq, isCurrent_append_iff (by decide)] at h
      exact h.1

theorem isCurrent_of_cut {t front : Text} {sections : List Text} (hcut : Page.Cut t front sections) (ht : IsCurrent t) :
    IsCurrent front ∧ forall piece, piece ∈ Page.dropNewlines sections -> IsCurrent piece := by
  rw [← hcut.append_flatten] at ht
  constructor
  · by_cases hsections : sections = []
    · rwa [hsections, List.flatten_nil, List.append_nil] at ht
    · rcases hcut.front_endsLine hsections with rfl | ⟨u, rfl⟩
      · rfl
      · rw [List.append_assoc, List.singleton_append, isCurrent_append_iff (by decide)] at ht
        exact (isCurrent_append_iff (by decide)).mpr ⟨ht.1, rfl⟩
  · rw [← isCurrent_joinWith_newline_iff, Page.joinWith_dropNewlines hcut.endsLine]
    exact ht.of_append

theorem currentPage_assemble {title front : Text} {sections : List Section} (hfront : IsCurrent front)
    (hsections : forall s, s ∈ sections -> CurrentSection s) : CurrentPage (Page.assemble title front sections) := by
  refine ⟨?_, rfl, hsections⟩
  show IsCurrent (if front.isEmpty then ({} : Body) else Body.ofText (Page.dropNewline front)).text
  split
  · rfl
  · exact isCurrent_ofText (isCurrent_dropNewline hfront)

theorem isCurrent_bodyBeforeLinks {b : Body} {t : Text} (ht : IsCurrent t) :
    IsCurrent (Page.bodyBeforeLinks b t).text := by
  rw [Page.bodyBeforeLinks]
  split
  · rfl
  · exact (ht.trimRightBy isBlank_of_eq_newline).trim

theorem currentPage_splitTrailing (h : CurrentPage p) (c : Config) : CurrentPage (Page.splitTrailing c p) := by
  rw [Page.splitTrailing]
  split
  · exact h
  · rename_i last _
    dsimp only
    split
    · exact h
    · rename_i m hm
      rcases Page.exists_drop_of_closingLinks hm with ⟨links, hdrop, hslice, _⟩
      have hintro : IsCurrent ('\n' :: (p.get last).intro) := (isCurrent_cons_iff (by decide)).mpr (h.get last).body
      rw [← List.take_append_drop m.start ('\n' :: (p.get last).intro), hdrop, isCurrent_append_iff (by decide)] at hintro
      have hbefore : IsCurrent (Text.slice ('\n' :: (p.get last).intro) ⟨1, m.start⟩) := by
        cases hstart : m.start with
        | zero => rfl
        | succ n =>
            rw [hstart, List.take_succ_cons, isCurrent_cons_iff (by decide)] at hintro
            exact hintro.1
      have hmodified := h.modify last (f := fun s => { s with body := Page.bodyBeforeLinks s.body _ }) fun s hs =>
        hs.withBody (isCurrent_bodyBeforeLinks hbefore)
      refine ⟨hmodified.body, ?_, hmodified.sections⟩
      show IsCurrent ((Text.slice ('\n' :: (p.get last).intro) m.span).drop 1)
      rw [hslice]
      exact hintro.2

theorem currentPage_of_read {c : Config} {title t : Text} (hread : Page.read c title t = .ok p) (ht : IsCurrent t) :
    CurrentPage p := by
  rcases Page.read_eq_ok hread with ⟨_, rfl⟩ | ⟨sections, hsections, rfl⟩
  · exact ⟨rfl, rfl, List.forall_mem_nil _⟩
  · have hcut := isCurrent_of_cut (Page.cut_chunks _) (isCurrent_sanitizeBlanks_iff.mpr ht)
    refine currentPage_splitTrailing (currentPage_assemble hcut.1 fun s hs => ?_) c
    rcases exists_of_mem_of_mapM_eq_ok hsections hs with ⟨piece, hpiece, hread⟩
    exact currentSection_of_read hread (hcut.2 piece hpiece)

end LegacyLayout
end WikiEntry
