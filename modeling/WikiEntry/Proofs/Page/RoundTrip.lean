import Mathlib.Tactic.Choose
import WikiEntry.Page.Render
import WikiEntry.Proofs.Page.Cutting
import WikiEntry.Proofs.Page.Reachable
import WikiEntry.Proofs.Pattern.Beyond
import WikiEntry.Proofs.Section.RoundTrip
import WikiEntry.Proofs.Text.Trimming
import WikiEntry.Proofs.Text.Variants

/-!
# Reading and printing a page

Printing a page goes through its tree, but gives its sections in document order.  A page that was read is therefore
printed as the sanitized text it was read from, up to the blanks of headers that consist of blanks alone.
-/

namespace WikiEntry
namespace Page

/-!
# Printing in document order
-/

theorem flatMap_renderTrees (p : Page) (f : Outline) :
    (p.renderTrees f).flatMap (· ++ ['\n']) = f.toList.flatMap fun i => (p.get i).render ++ ['\n'] := by
  induction f with
  | nil => rfl
  | node i l c r ihc ihr =>
      have hhead : Text.joinWith "\n" ((p.get i).render :: p.renderTrees c) ++ ['\n'] =
          ((p.get i).render :: p.renderTrees c).flatMap (· ++ ['\n']) :=
        (Text.flatMap_append_sep (List.cons_ne_nil _ _)).symm
      rw [renderTrees, List.flatMap_cons, hhead, List.flatMap_cons, ihc, ihr, Outline.toList, List.flatMap_cons,
        List.flatMap_append, List.append_assoc]

theorem renderSection_append (p : Page) (i : Nat) :
    p.renderSection i ++ ['\n'] = (p.subtree i).flatMap fun i => (p.get i).render ++ ['\n'] := by
  have hhead : p.renderSection i ++ ['\n'] = ((p.get i).render :: p.renderTrees (p.below i)).flatMap (· ++ ['\n']) :=
    (Text.flatMap_append_sep (List.cons_ne_nil _ _)).symm
  rw [hhead, List.flatMap_cons, flatMap_renderTrees]
  rfl

/-- The text in front of the sections, with the newline that ends it. -/
def front (p : Page) : Text :=
  p.body.render ++ (if p.intro.isEmpty then [] else ['\n'])

/-- The trees on top are printed as the sections in document order. -/
theorem WellFormed.flatMap_renderSection {p : Page} (h : p.WellFormed) :
    (p.topLevel.flatMap fun i => p.renderSection i ++ ['\n']) =
      p.order.flatMap fun i => (p.get i).render ++ ['\n'] := by
  conv =>
    rhs
    rw [← h.flatMap_subtree_topLevel, List.flatMap_assoc]
  exact congrArg (p.topLevel.flatMap ·) (funext p.renderSection_append)

theorem WellFormed.render_eq {p : Page} (h : p.WellFormed) (htrailing : p.trailingContent = []) :
    p.render = (p.front ++ p.order.flatMap fun i => (p.get i).render ++ ['\n']).dropLast := by
  unfold render
  rw [h.flatMap_renderSection, htrailing]
  rfl

/-- The page with `raws i` between the signs of section `i`. -/
def around (p : Page) (raws : Nat -> Text) : Text :=
  p.front ++ Text.joinWith "\n" (p.order.map fun i => (p.get i).around (raws i))

/-- The page printed with `spaces i` spaces between the signs of section `i`, if its header is blank. -/
def renderSpaced (p : Page) (spaces : Nat -> Nat) : Text :=
  p.front ++ Text.joinWith "\n" (p.order.map fun i => (p.get i).renderSpaced (spaces i))

/-- The headers were read from `raws`. -/
def ReadFrom (p : Page) (raws : Nat -> Text) : Prop :=
  forall i, i ∈ p.order -> (p.get i).ReadFrom (raws i)

theorem WellFormed.render_eq_renderSpaced {p : Page} (h : p.WellFormed) (htrailing : p.trailingContent = [])
    (horder : p.order ≠ []) : p.render = p.renderSpaced fun _ => 1 := by
  have hsections : (p.order.flatMap fun i => (p.get i).render ++ ['\n']) =
      Text.joinWith "\n" (p.order.map fun i => (p.get i).renderSpaced 1) ++ ['\n'] := by
    have hne : (p.order.map fun i => (p.get i).renderSpaced 1) ≠ [] := fun hnil => horder (List.map_eq_nil_iff.mp hnil)
    refine Eq.trans ?_ (Text.flatMap_append_sep hne)
    rw [List.flatMap_map]
    exact congrArg (p.order.flatMap ·) (funext fun i => by rw [Section.render_eq_renderSpaced]; rfl)
  rw [h.render_eq htrailing, hsections, ← List.append_assoc, List.dropLast_concat]
  rfl

/-!
# The number of spaces
-/

theorem renderSpaced_congr {p : Page} {spaces spaces' : Nat -> Nat}
    (h : forall i, i ∈ p.order -> (p.get i).line.format = .blank -> spaces i = spaces' i) :
    p.renderSpaced spaces = p.renderSpaced spaces' := by
  unfold renderSpaced
  congr 2
  refine List.map_congr_left fun i hi => ?_
  by_cases hblank : (p.get i).line.format = .blank
  · rw [h i hi hblank]
  · exact Section.renderSpaced_of_not_blank hblank

/-- With more spaces a page is printed longer. -/
theorem length_renderSpaced_le {p : Page} {spaces spaces' : Nat -> Nat} (hle : forall i, spaces i ≤ spaces' i) :
    (p.renderSpaced spaces).length ≤ (p.renderSpaced spaces').length := by
  rw [renderSpaced, renderSpaced, List.length_append, List.length_append]
  refine Nat.add_le_add_left (Text.length_joinWith_le ?_) _
  exact List.forall₂_map_left_iff.mpr (List.forall₂_map_right_iff.mpr
    (List.forall₂_same.mpr fun i _ => Section.length_renderSpaced_le (hle i)))

theorem eq_of_length_renderSpaced {p : Page} {spaces spaces' : Nat -> Nat} (hle : forall i, spaces i ≤ spaces' i)
    (h : (p.renderSpaced spaces).length = (p.renderSpaced spaces').length) {i : Nat} (hi : i ∈ p.order)
    (hblank : (p.get i).line.format = .blank) : spaces i = spaces' i := by
  rw [renderSpaced, renderSpaced, List.length_append, List.length_append, Nat.add_left_cancel_iff] at h
  have heq := Text.length_eq_of_joinWith (fun i _ => Section.length_renderSpaced_le (s := p.get i) (hle i)) h i hi
  exact Section.eq_of_length_renderSpaced hblank heq

/-!
# Closing links

A block of closing links reaches from a newline to the end of the text, and brackets stand in it.  So a page without
trailing content has none.
-/

theorem exists_drop_of_closingLinks {c : Config} {text : Text} {m : Match} (hm : c.closingLinks.find? text = some m) :
    exists links : Text, text.drop m.start = '\n' :: links ∧ text.slice m.span = '\n' :: links ∧
      links.isBlank = false := by
  rcases Pattern.matched_of_find? hm with ⟨w, s, hmatched⟩
  have hreads := hmatched.reads
  unfold Config.closingLinks at hreads
  rcases hreads.seq_inv with ⟨w, v, s1, rfl, hreads, hend⟩
  rcases hend.anchor_inv with ⟨rfl, rfl, hholds⟩
  rcases hreads.seq_inv with ⟨u, links, s2, rfl, hnewline, hlinks⟩
  rcases hnewline.one_inv with ⟨ch, rfl, hch, _⟩
  have hch : ch = '\n' := CharSet.eq_of_holds_anyCase (by decide) (by decide) (by decide) hch
  have hrest : s.cursor.rest = [] := List.isEmpty_iff.mp hholds
  have hdrop := hmatched.rest_eq
  have hslice := hmatched.slice_eq
  rw [hrest, hch] at hdrop
  rw [hch] at hslice
  refine ⟨links, by simpa using hdrop, by simpa using hslice, ?_⟩
  have hbrackets : forall cs, Pattern.readsBeyond cs (Pattern.lit "[[").ignoringCase = true ->
      exists ch, ch ∈ links ∧ ch ∉ cs := by
    intro cs hcs
    refine hlinks.exists_beyond ?_
    show (((((Pattern.readsBeyond cs (Pattern.lit "[[").ignoringCase || _) || _) || _) || _) || _) = true
    rw [hcs]
    rfl
  rcases hbrackets Chars.blanks (by decide +kernel) with ⟨bracket, hmem, hbeyond⟩
  rw [Text.isBlank, List.all_eq_false]
  exact ⟨bracket, hmem, fun hblank => hbeyond (Chars.mem_blanks hblank)⟩

theorem splitTrailing_eq_self {c : Config} {p : Page} (h : (splitTrailing c p).trailingContent = []) :
    splitTrailing c p = p := by
  unfold splitTrailing at h ⊢
  cases hlast : p.order.getLast? with
  | none => rfl
  | some last =>
      rw [hlast] at h
      dsimp only at h ⊢
      cases hm : c.closingLinks.find? ('\n' :: (p.get last).intro) with
      | none => rfl
      | some m =>
          rw [hm] at h
          rcases exists_drop_of_closingLinks hm with ⟨links, _, hslice, hlinks⟩
          dsimp only at h
          rw [hslice] at h
          have hnil : links = [] := h
          rw [hnil] at hlinks
          cases hlinks

/-!
# Reading
-/

theorem front_assemble_of_endsLine {title front : Text} {sections : List Section} (h : front = [] ∨ EndsLine front) :
    (assemble title front sections).front = front := by
  rcases h with rfl | ⟨u, rfl⟩
  · rfl
  · have hbody : (assemble title (u ++ ['\n']) sections).body = Body.ofText u := by
      have hempty : (u ++ ['\n']).isEmpty = false := by simp
      show (if (u ++ ['\n']).isEmpty then {} else Body.ofText (dropNewline (u ++ ['\n']))) = Body.ofText u
      rw [hempty, dropNewline_append]
      rfl
    unfold Page.front intro
    rw [hbody]
    exact Body.render_above u

theorem dropLast_front_assemble {title front : Text} {sections : List Section} :
    (assemble title front sections).front.dropLast = dropNewline front := by
  cases hempty : front.isEmpty with
  | true =>
      rw [List.isEmpty_iff.mp hempty]
      rfl
  | false =>
      have hbody : (assemble title front sections).body = Body.ofText (dropNewline front) := by
        show (if front.isEmpty then {} else Body.ofText (dropNewline front)) = Body.ofText (dropNewline front)
        rw [hempty]
        rfl
      unfold Page.front intro
      rw [hbody, Body.render_above, List.dropLast_concat]

/-- Where all blanks are spaces and newlines, each header is printed with some number of spaces. -/
theorem ReadFrom.exists_spaces {p : Page} {raws : Nat -> Text} (h : p.ReadFrom raws) (ht : (p.around raws).PlainBlanks) :
    exists spaces : Nat -> Nat, (forall i, 1 ≤ spaces i) ∧ p.around raws = p.renderSpaced spaces := by
  refine ⟨fun i => max 1 (raws i).length, fun i => Nat.le_max_left _ _, ?_⟩
  refine congrArg (p.front ++ Text.joinWith "\n" ·) (List.map_congr_left fun i hi => ?_)
  have hmax : max 1 (raws i).length = (raws i).length :=
    Nat.max_eq_right (List.length_pos_of_ne_nil (h i hi).ne_nil)
  dsimp only
  rw [hmax]
  refine (h i hi).around_eq fun ch hch hblank => ?_
  have hsection : ch ∈ (p.get i).around (raws i) := by
    simp only [Section.around, HeaderLine.around, List.mem_append]
    exact Or.inl (Or.inl (Or.inl (Or.inl (Or.inr hch))))
  have hmem : ch ∈ p.around raws := List.mem_append_right _ (Text.mem_joinWith (List.mem_map_of_mem hi) hsection)
  refine (ht ch hmem hblank).resolve_right ?_
  rintro rfl
  exact (h i hi).newline_not_mem hch

/-- The pieces that were read are the sections, but for the blanks of their headers. -/
theorem exists_raws_of_mapM_read {c : Config} {pieces : List Text} {sections : List Section}
    (h : pieces.mapM (Section.read c) = .ok sections) :
    exists raws : Nat -> Text, (forall i, i < sections.length -> (sections.getD i default).ReadFrom (raws i)) ∧
      pieces = (List.range sections.length).map fun i => (sections.getD i default).around (raws i) := by
  have hmap := map_eq_of_mapM_eq_ok h
  have hlength : pieces.length = sections.length := by simpa using congrArg List.length hmap
  have hraws : forall i, exists raw, i < sections.length ->
      (sections.getD i default).ReadFrom raw ∧ pieces[i]? = some ((sections.getD i default).around raw) := by
    intro i
    by_cases hi : i < sections.length
    · have hpiece : i < pieces.length := hlength ▸ hi
      have hread : Section.read c pieces[i] = .ok sections[i] := by
        have hat := congrArg (·[i]?) hmap
        simpa [hi, hpiece] using hat
      rcases Section.exists_readFrom hread with ⟨raw, hraw, heq⟩
      refine ⟨raw, fun _ => ?_⟩
      rw [List.getD_eq_getElem _ _ hi, ← heq]
      exact ⟨hraw, List.getElem?_eq_getElem _⟩
    · exact ⟨[], fun h => absurd h hi⟩
  choose raws hraws using hraws
  refine ⟨raws, fun i hi => (hraws i hi).1, List.ext_getElem? fun i => ?_⟩
  by_cases hi : i < sections.length
  · rw [(hraws i hi).2, List.getElem?_map, List.getElem?_range hi, Option.map_some]
  · rw [List.getElem?_eq_none (by omega), List.getElem?_eq_none (by simpa using hi)]

/-- The text that sections were read from is the page put together from them, but for the blanks of headers. -/
theorem exists_raws_of_assemble {c : Config} {title t : Text} {sections : List Section}
    (hsections : (dropNewlines (chunks (Region.sanitizeBlanks t)).2).mapM (Section.read c) = .ok sections)
    (hne : sections ≠ []) :
    exists raws : Nat -> Text,
      (assemble title (chunks (Region.sanitizeBlanks t)).1 sections).ReadFrom raws ∧
        Region.sanitizeBlanks t = (assemble title (chunks (Region.sanitizeBlanks t)).1 sections).around raws := by
  have hcut := cut_chunks (Region.sanitizeBlanks t)
  rcases exists_raws_of_mapM_read hsections with ⟨raws, hraws, hpieces⟩
  refine ⟨raws, fun i hi => hraws i (List.mem_range.mp hi), ?_⟩
  have hcutNe : (chunks (Region.sanitizeBlanks t)).2 ≠ [] := by
    intro hnil
    rw [hnil] at hsections
    cases hsections
    exact hne rfl
  rw [around, front_assemble_of_endsLine (hcut.front_endsLine hcutNe)]
  conv =>
    lhs
    rw [← hcut.append_flatten, ← joinWith_dropNewlines hcut.endsLine, hpieces]
  rfl

/-- The text that sections were read from is the page put together from them, printed with some number of spaces in
blank headers. -/
theorem exists_spaces_of_assemble {c : Config} {title t : Text} {sections : List Section} (ht : t.PlainBlanks)
    (hsections : (dropNewlines (chunks (Region.sanitizeBlanks t)).2).mapM (Section.read c) = .ok sections)
    (hne : sections ≠ []) :
    exists spaces : Nat -> Nat, (forall i, 1 ≤ spaces i) ∧ Region.sanitizeBlanks t =
      (assemble title (chunks (Region.sanitizeBlanks t)).1 sections).renderSpaced spaces := by
  rcases @exists_raws_of_assemble c title t sections hsections hne with ⟨raws, hraws, htext⟩
  rcases hraws.exists_spaces (htext ▸ Region.plainBlanks_sanitizeBlanks ht) with ⟨spaces, hpos, heq⟩
  exact ⟨spaces, hpos, htext.trans heq⟩

/-- The text that a page was read from is the page printed with some number of spaces in blank headers. -/
theorem exists_spaces_of_read {c : Config} {title t : Text} {p : Page} (ht : t.PlainBlanks)
    (hread : read c title t = .ok p) (htrailing : p.trailingContent = []) (horder : p.order ≠ []) :
    exists spaces : Nat -> Nat, (forall i, 1 ≤ spaces i) ∧ Region.sanitizeBlanks t = p.renderSpaced spaces := by
  rcases read_eq_ok hread with ⟨_, rfl⟩ | ⟨sections, hsections, rfl⟩
  · exact absurd rfl horder
  · rw [splitTrailing_eq_self htrailing] at horder ⊢
    refine exists_spaces_of_assemble ht hsections fun hnil => horder ?_
    rw [hnil]
    rfl

/-!
# The round trip
-/

theorem sanitizeBlanks_nil : Region.sanitizeBlanks [] = [] :=
  rfl

/-- A page without trailing content is printed as the sanitized text, without the newline at its end if there are no
sections.  The text and the page differ at most in the number of spaces of blank headers, of which the page has one. -/
theorem render_read_of_plainBlanks {c : Config} {title t : Text} {p : Page} (ht : t.PlainBlanks)
    (hread : read c title t = .ok p) (htrailing : p.trailingContent = []) :
    (p.order = [] -> p.render = dropNewline (Region.sanitizeBlanks t)) ∧
      (p.order ≠ [] -> exists spaces : Nat -> Nat, (forall i, 1 ≤ spaces i) ∧
        Region.sanitizeBlanks t = p.renderSpaced spaces ∧ p.render = p.renderSpaced (fun _ => 1) ∧
        (p.render = Region.sanitizeBlanks t <->
          forall i, i ∈ p.order -> (p.get i).line.format = .blank -> spaces i = 1)) := by
  constructor
  · intro horder
    rw [(wellFormed_read hread).render_eq htrailing, horder, List.flatMap_nil, List.append_nil]
    rcases read_eq_ok hread with ⟨rfl, rfl⟩ | ⟨sections, hsections, rfl⟩
    · rw [sanitizeBlanks_nil]
      rfl
    · rw [splitTrailing_eq_self htrailing] at horder ⊢
      have hcut := cut_chunks (Region.sanitizeBlanks t)
      have hnil : (chunks (Region.sanitizeBlanks t)).2 = [] := by
        have hlength := congrArg List.length (map_eq_of_mapM_eq_ok hsections)
        rw [List.length_map, List.length_map, length_dropNewlines] at hlength
        rw [← List.length_eq_zero_iff, hlength, ← List.length_range (n := sections.length)]
        exact List.length_eq_zero_iff.mpr horder
      have hfront := hcut.append_flatten
      rw [hnil, List.flatten_nil, List.append_nil] at hfront
      rw [hfront]
      exact dropLast_front_assemble
  · intro horder
    rcases exists_spaces_of_read ht hread htrailing horder with ⟨spaces, hpos, htext⟩
    have hprinted := (wellFormed_read hread).render_eq_renderSpaced htrailing horder
    refine ⟨spaces, hpos, htext, hprinted, ?_⟩
    rw [htext, hprinted]
    constructor
    · intro heq i hi hblank
      exact (eq_of_length_renderSpaced hpos (congrArg List.length heq) hi hblank).symm
    · intro hone
      exact renderSpaced_congr fun i hi hblank => (hone i hi hblank).symm

theorem read_of_chunks {c : Config} {title t : Text} {cut : Text × List Text} (ht : t ≠ [])
    (hcut : chunks (Region.sanitizeBlanks t) = cut) :
    read c title t = (dropNewlines cut.2).mapM (Section.read c) >>= fun sections =>
      .ok (splitTrailing c (assemble title cut.1 sections)) := by
  rw [read, if_neg (by simpa using ht), hcut]
  rfl

/-- A front, a section with a comment, and a section below it whose header is blank. -/
def entryWithBlankHeader : Text :=
  "a\n\n<!--b-->== c==\n\n=== ===\nd\n"

theorem render_read_entryWithBlankHeader :
    exists p, read .builtin "e" entryWithBlankHeader = .ok p ∧ p.order = [0, 1] ∧
      exists spaces : Nat -> Nat, (forall i, 1 ≤ spaces i) ∧
        Region.sanitizeBlanks entryWithBlankHeader = p.renderSpaced spaces ∧ p.render = p.renderSpaced (fun _ => 1) ∧
        (p.render = Region.sanitizeBlanks entryWithBlankHeader <->
          forall i, i ∈ p.order -> (p.get i).line.format = .blank -> spaces i = 1) := by
  have hignored : Region.ignored entryWithBlankHeader = [⟨3, 11⟩] :=
    Region.ignored_eq_mergeSorted [⟨3, 11⟩] (by decide +kernel) (by decide)
  have hsanitized : Region.sanitizeBlanks entryWithBlankHeader = entryWithBlankHeader :=
    Region.sanitizeBlanks_eq_self hignored (by decide +kernel) (by decide +kernel) (by decide +kernel)
  have hchunks : chunks (Region.sanitizeBlanks entryWithBlankHeader) =
      ("a\n\n".toList, Text.listOf ["<!--b-->== c==\n\n", "=== ===\nd\n"]) := by
    rw [hsanitized]
    unfold chunks headerPlaces
    rw [hignored]
    decide +kernel
  have hfacts : (read .builtin "e" entryWithBlankHeader).map (fun p => (p.trailingContent, p.order)) =
      .ok ([], [0, 1]) := by
    rw [read_of_chunks (by unfold entryWithBlankHeader; decide) hchunks]
    decide +kernel
  rcases exists_of_map_eq_ok hfacts with ⟨p, hread, hfacts⟩
  rcases Prod.mk.inj hfacts with ⟨htrailing, horder⟩
  have hne : p.order ≠ [] := by
    rw [horder]
    exact List.cons_ne_nil _ _
  exact ⟨p, hread, horder, (render_read_of_plainBlanks (by decide) hread htrailing).2 hne⟩

/-- A comment in front of a header may begin in what is not a comment elsewhere, so that blanks in ignored text stand
between the signs. -/
def entryWithWideHeader : Text :=
  "<!---->=<!-->==  =="

theorem render_read_ne_sanitizeBlanks :
    ¬ forall (c : Config) (title t : Text) (p : Page), t.PlainBlanks -> read c title t = .ok p ->
      p.trailingContent = [] -> (p.order ≠ [] -> p.render = Region.sanitizeBlanks t) ∧
        (p.order = [] -> p.render = dropNewline (Region.sanitizeBlanks t)) := by
  intro h
  have hignored : Region.ignored entryWithWideHeader = [⟨0, 7⟩, ⟨8, 19⟩] :=
    Region.ignored_eq_mergeSorted [⟨0, 7⟩, ⟨8, 19⟩] (by decide +kernel) (by decide)
  have hsanitized : Region.sanitizeBlanks entryWithWideHeader = entryWithWideHeader :=
    Region.sanitizeBlanks_eq_self hignored (by decide +kernel) (by decide +kernel) (by decide +kernel)
  have hchunks : chunks (Region.sanitizeBlanks entryWithWideHeader) = ([], [entryWithWideHeader]) := by
    rw [hsanitized]
    unfold chunks headerPlaces
    rw [hignored]
    decide +kernel
  have hfacts : (read .builtin "e" entryWithWideHeader).map (fun p => (p.trailingContent, p.order, p.render)) =
      .ok ([], [0], "<!---->=<!-->== ==".toList) := by
    rw [read_of_chunks (by unfold entryWithWideHeader; decide) hchunks]
    decide +kernel
  rcases exists_of_map_eq_ok hfacts with ⟨p, hread, hfacts⟩
  rcases Prod.mk.inj hfacts with ⟨htrailing, hfacts⟩
  rcases Prod.mk.inj hfacts with ⟨horder, hrender⟩
  have hne : p.order ≠ [] := by
    rw [horder]
    exact List.cons_ne_nil _ _
  have hsame := (h .builtin "e" entryWithWideHeader p (by decide) hread htrailing).1 hne
  rw [hrender, hsanitized] at hsame
  exact absurd hsame (by decide)

end Page
end WikiEntry
