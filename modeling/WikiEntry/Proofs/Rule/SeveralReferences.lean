import WikiEntry.Proofs.Page.WellFormed
import WikiEntry.Proofs.Region.Delimiters
import WikiEntry.Proofs.Rule.Outcome
import WikiEntry.Proofs.Section.StrippedHeader
import WikiEntry.Rule.References

/-!
# One references section

Where several sections are headed as references, all of them go, and one new section with what they showed comes to the
end of the page.  Sections are found by their stripped headers; the section that a new one would take the place of is
found by its header as it is written, but such a section is always among those that go.
-/

namespace WikiEntry

/-!
# Headers of references
-/

namespace Marks

/-- In a single line a header is told by its beginning. -/
theorem matchesIn_upTo_iff {set : CharSet} {l t : Text} (hplain : (Pattern.lit l).hasPlainRounds = true)
    (ht : '\n' ∉ t) :
    (upTo (.one set ++ .lit l)).matchesIn t = true <-> exists c r, t = c :: (l ++ r) ∧ set.holds c = true := by
  rw [Pattern.matchesIn]
  constructor
  · intro hfound
    rcases Option.isSome_iff_exists.mp hfound with ⟨m, hm⟩
    rcases Pattern.matched_of_find? hm with ⟨w, s, hmatched⟩
    rcases hmatched.reads.seq_inv with ⟨w, behind, _, rfl, h, _⟩
    rcases h.seq_inv with ⟨w, line, _, rfl, h, _⟩
    rcases h.seq_inv with ⟨_, w, _, rfl, hstart, h⟩
    rcases hstart.anchor_inv with ⟨rfl, rfl, hzero⟩
    rcases h.seq_inv with ⟨_, w, _, rfl, hone, hword⟩
    rcases hone.one_inv with ⟨c, rfl, hc, _⟩
    rcases hword.lit_inv with ⟨rfl, _⟩
    have hrest := hmatched.rest_eq
    rw [show m.start = 0 from beq_iff_eq.mp hzero, List.drop_zero] at hrest
    refine ⟨c, line ++ (behind ++ s.cursor.rest), hrest.trans ?_, hc⟩
    simp only [List.nil_append, List.append_assoc, List.cons_append]
  · rintro ⟨c, r, rfl, hc⟩
    have hr : forall d, d ∈ r -> CharSet.inLine.holds d = true := by
      intro d hd
      rw [CharSet.inLine, CharSet.holds_noneOf]
      have hne : d ≠ '\n' := fun heq => ht (List.mem_cons_of_mem c (List.mem_append_right _ (heq ▸ hd)))
      simpa using hne
    let k : Cursor := .start (c :: (l ++ r))
    have hrest : (k.skip [c]).rest = l ++ r := Cursor.rest_skip (w := [c]) rfl
    have hline : ((k.skip [c]).skip l).rest = r ++ [] := (Cursor.rest_skip hrest).trans (List.append_nil r).symm
    have hstart : Pattern.atStart.ReadsBetween k [] k := Region.readsBetween_anchor rfl
    have hend : Pattern.atEnd.ReadsBetween _ [] _ :=
      Region.readsBetween_anchor (List.isEmpty_iff.mpr (Cursor.rest_skip hline))
    have hhead := hstart.seq ((Pattern.ReadsBetween.one set rfl hc).seq (Pattern.ReadsBetween.lit hrest))
    rcases (hhead.seq (Pattern.ReadsBetween.run true hline hr (Nat.zero_le _))).seq hend [] with ⟨_, hreads⟩
    refine Pattern.isSome_find?_of_reads ?_ hreads
    show (true && (true && (Pattern.lit l).hasPlainRounds) && true && true) = true
    rw [hplain]
    rfl

theorem matchesIn_referencesHeader {t : Text} (ht : '\n' ∉ t) :
    referencesHeader.matchesIn t = (t.startsWith "Referencias" || t.startsWith "referencias") := by
  rw [Bool.eq_iff_iff, Bool.or_eq_true, Text.startsWith, Text.startsWith, List.isPrefixOf_iff_prefix,
    List.isPrefixOf_iff_prefix]
  refine (matchesIn_upTo_iff (by decide) ht).trans ?_
  constructor
  · rintro ⟨c, r, rfl, hc⟩
    rw [CharSet.holds_oneOf, List.contains_iff_mem, List.mem_cons, List.mem_singleton] at hc
    rcases hc with rfl | rfl
    · exact Or.inl ⟨r, rfl⟩
    · exact Or.inr ⟨r, rfl⟩
  · rintro (⟨r, rfl⟩ | ⟨r, rfl⟩)
    · exact ⟨'R', r, rfl, rfl⟩
    · exact ⟨'r', r, rfl, rfl⟩

end Marks

namespace Page

/-!
# Sections of references
-/

variable {p q : Page} {ids : List Nat} {i j : Nat}

/-- Whether the header of a section, stripped, begins as that of the references. -/
def namesReferences (p : Page) (i : Nat) : Bool :=
  (p.strippedHeader i).startsWith "Referencias" || (p.strippedHeader i).startsWith "referencias"

theorem findSections_referencesHeader {c : Config} {title t : Text} (hread : read c title t = .ok p) :
    p.findSections Marks.referencesHeader = p.order.filter p.namesReferences := by
  refine List.filter_congr fun i hi => ?_
  exact Marks.matchesIn_referencesHeader (Section.newline_not_mem_strippedHeader (newline_not_mem_header hread hi))

/-- The references section that a new one would take the place of is among those that are found. -/
theorem namesReferences_of_references? (h : p.references? = some i) : i ∈ p.order ∧ p.namesReferences i = true := by
  rcases Option.filter_eq_some_iff.mp h with ⟨hlast, hheader⟩
  refine ⟨List.mem_of_getLast? hlast, ?_⟩
  rw [namesReferences, Bool.or_eq_true]
  exact Or.inl (Section.startsWith_strippedHeader hheader (by decide) (Text.forall_not_isBlank (by decide)))

/-!
# Taking sections out and putting a new one at the end
-/

theorem get_create (hi : i < p.sections.length) (s : Section) : (p.create s).1.get i = p.get i := by
  rw [get, List.getD_eq_getElem?_getD, get, List.getD_eq_getElem?_getD]
  exact congrArg (Option.getD · default) (List.getElem?_append_left hi)

theorem get_create_self (p : Page) (s : Section) : (p.create s).1.get (p.create s).2 = s := by
  rw [get, List.getD_eq_getElem?_getD]
  show ((p.sections ++ [s])[p.sections.length]?).getD default = s
  rw [List.getElem?_concat_length]
  rfl

/-- Where no references section is last, the new one is put behind all others. -/
theorem order_setReferences (hnone : p.references? = none) (hi : i ∉ p.order) :
    (p.setReferences i).order = p.order ++ [i] := by
  have hwithout : p.without [i] = p.order := List.filter_eq_self.mpr fun j hj => by
    have hne : j ≠ i := fun heq => hi (heq ▸ hj)
    simpa using hne
  rw [setReferences, hnone]
  exact congrArg (· ++ [i]) hwithout

end Page

namespace References

variable {p : Page} {ids : List Nat}

theorem sections_detachEach (p : Page) (ids : List Nat) : (detachEach p ids).sections = p.sections := by
  induction ids generalizing p with
  | nil => rfl
  | cons i ids ih => exact ih (p.detachAlone i)

theorem body_detachEach (p : Page) (ids : List Nat) : (detachEach p ids).body = p.body := by
  induction ids generalizing p with
  | nil => rfl
  | cons i ids ih => exact ih (p.detachAlone i)

theorem order_detachEach (p : Page) (ids : List Nat) : (detachEach p ids).order = p.without ids := by
  induction ids generalizing p with
  | nil => exact (List.filter_eq_self.mpr fun _ _ => rfl).symm
  | cons i ids ih =>
      refine (ih (p.detachAlone i)).trans ?_
      show (p.without [i]).filter _ = _
      rw [Page.without, List.filter_filter]
      refine List.filter_congr fun j _ => ?_
      simp only [List.contains_cons, List.contains_nil, Bool.or_false, Bool.not_or, Bool.and_comm]

/-!
# What the sections showed
-/

/-- Adding one text after the other, each once, keeps the first occurrence of each. -/
theorem foldl_addOnce (ts acc : List Text) :
    ts.foldl addOnce acc = acc ++ (ts.filter fun t => !acc.contains t).eraseDups := by
  induction ts generalizing acc with
  | nil => simp
  | cons t ts ih =>
      rw [List.foldl_cons, ih, addOnce]
      by_cases ht : acc.contains t = true
      · rw [if_pos ht, List.filter_cons_of_neg (by simpa using ht)]
      · rw [if_neg ht, List.filter_cons_of_pos (by simpa using ht), List.eraseDups_cons, List.filter_filter,
          List.append_assoc]
        refine congrArg (fun us => acc ++ (t :: List.eraseDups us)) (List.filter_congr fun u _ => ?_)
        rw [List.contains_append, List.contains_cons, List.contains_nil, Bool.or_false, Bool.not_or, Bool.and_comm]

theorem contents_eq (p : Page) (ids : List Nat) :
    contents p ids = ((ids.map fun i => withoutLists (p.get i).intro).filter
      fun t => !(Region.stripHidden t).isBlank).eraseDups := by
  rw [contents, foldl_addOnce, List.nil_append]
  exact congrArg List.eraseDups (List.filter_eq_self.mpr fun _ _ => rfl)

theorem isBlank_of_stripHidden {t : Text} (ht : t.isBlank = true) : (Region.stripHidden t).isBlank = true := by
  rw [Text.isBlank, List.all_eq_true] at ht ⊢
  exact fun ch hch => ht ch (Region.mem_of_mem_cutFrom hch)

/-- Each of them is trimmed, and something stands in it. -/
theorem trim_of_mem_contents {t : Text} (ht : t ∈ contents p ids) :
    t.trimLeftBy Chars.isBlank = t ∧ t.isBlank = false := by
  rw [contents_eq, List.mem_eraseDups, List.mem_filter, List.mem_map] at ht
  rcases ht with ⟨⟨i, _, rfl⟩, hvisible⟩
  refine ⟨Text.trimLeftBy_trimBy _ _, ?_⟩
  rw [Bool.eq_false_iff]
  intro hblank
  rw [isBlank_of_stripHidden hblank] at hvisible
  cases hvisible

/-- The text of the new section is written as it is joined. -/
theorem trim_joinWith_contents (p : Page) (ids : List Nat) :
    Text.trim (Text.joinWith "\n" (contents p ids ++ [list])) = Text.joinWith "\n" (contents p ids ++ [list]) := by
  have hsplit : Text.joinWith "\n" (contents p ids ++ [list]) =
      ((contents p ids).flatMap (· ++ "\n".toList) ++ "<references ".toList) ++ "/>".toList := by
    rw [Text.joinWith_concat, List.append_assoc]
    rfl
  rw [hsplit]
  refine (Text.trimBy_append_of_forall (Text.forall_not_isBlank (by decide)) (by decide)).trans
    (congrArg (· ++ "/>".toList) ?_)
  cases hcontents : contents p ids with
  | nil => rfl
  | cons t ts =>
      rcases trim_of_mem_contents (hcontents ▸ List.mem_cons_self : t ∈ contents p ids) with ⟨htrim, hseen⟩
      rw [List.flatMap_cons, List.append_assoc, List.append_assoc, Text.trimLeftBy_append_of_not_all hseen, htrim]

/-!
# The new section
-/

/-- The page `q` is `p` without some sections and with a new one at the end. -/
structure ClosedBy (p : Page) (removed : List Nat) (s : Section) (q : Page) (i : Nat) : Prop where
  order_eq : q.order = p.without removed ++ [i]
  get_new : q.get i = s
  get_old : forall j, j ∈ p.order -> q.get j = p.get j
  intro_eq : q.intro = p.intro

theorem sectionOf_contents (p : Page) (ids : List Nat) :
    sectionOf (contents p ids) = .ok ⟨⟨2, "Referencias y notas", .spaced, [], []⟩,
      { text := Text.joinWith "\n" (contents p ids ++ [list]) }, none⟩ := by
  have hmade : Section.ofHeader Marks.referencesAndNotes 2 =
      .ok ⟨⟨2, "Referencias y notas", .spaced, [], []⟩, {}, none⟩ := by
    decide
  rw [sectionOf, hmade]
  simp only [bind, Except.bind, pure, Except.pure, Section.setIntro, Body.setText, trim_joinWith_contents, ite_self]

/-- When all sections of references are gone, a new one takes the place of none. -/
theorem exists_close (h : p.WellFormed) {lines : List Text} {s : Section} (hs : sectionOf lines = .ok s)
    (hids : forall j, j ∈ p.order -> p.namesReferences j = true -> j ∈ ids) :
    exists q i, close (detachEach p ids) lines = .ok q ∧ ClosedBy p ids s q i := by
  let r := ((detachEach p ids).create s).1
  let i := ((detachEach p ids).create s).2
  have hleft : r.order = p.without ids := order_detachEach p ids
  have hi : i = p.sections.length := congrArg List.length (sections_detachEach p ids)
  have hnew : i ∉ r.order := by
    rw [hleft, Page.mem_without, hi]
    exact fun hmem => Nat.lt_irrefl _ (h.made _ hmem.1)
  have hold : forall j, j ∈ p.order -> r.get j = p.get j := by
    intro j hj
    have hmade : j < (detachEach p ids).sections.length := (sections_detachEach p ids).symm ▸ h.made j hj
    rw [Page.get_create hmade, Page.get, sections_detachEach]
    rfl
  have hnone : r.references? = none := by
    rw [Option.eq_none_iff_forall_ne_some]
    intro j hj
    rcases Page.namesReferences_of_references? hj with ⟨hmem, hreferences⟩
    rcases Page.mem_without.mp (hleft ▸ hmem) with ⟨hmem, hnot⟩
    refine hnot (hids j hmem ?_)
    rwa [Page.namesReferences, Page.strippedHeader, hold j hmem] at hreferences
  refine ⟨r.setReferences i, i, ?_, ⟨?_, Page.get_create_self _ s, hold, congrArg Body.text (body_detachEach p ids)⟩⟩
  · rw [close, hs]
    rfl
  · rw [Page.order_setReferences hnone hnew, hleft]

end References

/-!
# The rule
-/

namespace Rule

open References

/-- On a page with several sections of references the rule ends with the page that has one instead, at the end, on
level 2 and under its own header.  It holds what the former ones showed, in their order and each text once, and the list
of the footnotes.  All other sections are left as they were, in the same order. -/
theorem severalReferences_unites {x : Context} {t : Text} {p : Page} (hlegacy : x.legacy = false)
    (hread : x.read t = .ok p) (hseveral : 2 ≤ (p.order.filter p.namesReferences).length) :
    exists q i, severalReferences.run x t = .ok (Outcome.ofPage? t q "más de una sección de referencias") ∧
      q.order = (p.order.filter fun j => !p.namesReferences j) ++ [i] ∧ q.order.filter q.namesReferences = [i] ∧
      q.level i = 2 ∧ q.header i = "Referencias y notas" ∧
      (exists texts, (q.get i).intro = Text.joinWith "\n" (texts ++ ["<references />".toList]) ∧ texts.Nodup ∧
        texts = (((p.order.filter p.namesReferences).map fun j => withoutLists (p.get j).intro).filter
          fun u => !(Region.stripHidden u).isBlank).eraseDups) ∧
      q.intro = p.intro ∧ forall j, j ∈ p.order -> q.get j = p.get j := by
  have h := Page.wellFormed_read hread
  have hall : p.findSections Marks.referencesHeader = p.order.filter p.namesReferences :=
    Page.findSections_referencesHeader hread
  have hids : forall j, j ∈ p.order -> p.namesReferences j = true -> j ∈ p.order.filter p.namesReferences :=
    fun j hj hreferences => List.mem_filter.mpr ⟨hj, hreferences⟩
  rcases exists_close h (sectionOf_contents p _) hids with ⟨q, i, hclose, hq⟩
  have hrun : severalReferences.run x t = .ok (Outcome.ofPage? t q "más de una sección de referencias") := by
    show x.onCurrentPage t _ = _
    rw [Context.onCurrentPage_eq hlegacy hread, hall, if_neg (Nat.not_lt.mpr hseveral), hclose]
    rfl
  have hwithout : p.without (p.order.filter p.namesReferences) = p.order.filter fun j => !p.namesReferences j := by
    refine List.filter_congr fun j hj => ?_
    rw [Bool.eq_iff_iff, Bool.not_eq_true', Bool.not_eq_true', ← Bool.not_eq_true, ← Bool.not_eq_true,
      List.contains_iff_mem, List.mem_filter, and_iff_right hj]
  have horder := hwithout ▸ hq.order_eq
  have hnames : forall j, j ∈ p.order -> q.namesReferences j = p.namesReferences j := by
    intro j hj
    rw [Page.namesReferences, Page.strippedHeader, hq.get_old j hj]
    rfl
  refine ⟨q, i, hrun, horder, ?_, ?_, ?_, ⟨_, ?_, ?_, contents_eq p _⟩, hq.intro_eq, hq.get_old⟩
  · have hfirst : (p.order.filter fun j => !p.namesReferences j).filter q.namesReferences = [] := by
      rw [List.filter_filter, List.filter_eq_nil_iff]
      intro j hj
      simp [hnames j hj]
    have hlast : q.namesReferences i = true := by
      have hheader : Text.startsWith "Referencias y notas" "Referencias" = true := by decide
      rw [Page.namesReferences, Page.strippedHeader, hq.get_new, Bool.or_eq_true]
      exact Or.inl (Section.startsWith_strippedHeader hheader (by decide) (Text.forall_not_isBlank (by decide)))
    rw [horder, List.filter_append, hfirst, List.filter_cons_of_pos hlast]
    rfl
  · rw [Page.level, hq.get_new]
    rfl
  · rw [Page.header, hq.get_new]
    rfl
  · rw [hq.get_new]
    rfl
  · rw [contents_eq]
    exact Page.nodup_eraseDups _

/-- Two sections of references show the same text, a third one another, and none of them is the last section. -/
def entryWithSeveralReferences : Text :=
  "==\x7b\x7blengua|es\x7d\x7d==\n==Referencias==\na\n<references />\n==referencias y notas==\nb\n"
    ++ "==Referencias<ref>x</ref>==\na\n===c===\nd"

theorem severalReferences_unites_entryWithSeveralReferences :
    exists x p q i, x.read entryWithSeveralReferences = .ok p ∧ p.order = [0, 1, 2, 3, 4] ∧
      severalReferences.run x entryWithSeveralReferences =
        .ok (Outcome.ofPage? entryWithSeveralReferences q "más de una sección de referencias") ∧
      q.order = [0, 4, i] ∧ (q.get i).intro = "a\nb\n<references />" := by
  have hfacts : (Context.read ⟨.builtin, "t", false⟩ entryWithSeveralReferences).map (fun p =>
      ([p.order, p.order.filter p.namesReferences, p.order.filter fun j => !p.namesReferences j],
        (((p.order.filter p.namesReferences).map fun j => withoutLists (p.get j).intro).filter
          fun u => !(Region.stripHidden u).isBlank).eraseDups)) =
        .ok ([[0, 1, 2, 3, 4], [1, 2, 3], [0, 4]], ["a".toList, "b".toList]) := by
    decide +kernel
  rcases exists_of_map_eq_ok hfacts with ⟨p, hread, hfacts⟩
  simp only [Prod.mk.injEq, List.cons.injEq, and_true] at hfacts
  rcases hfacts with ⟨⟨horder, hreferences, hothers⟩, htexts⟩
  rcases severalReferences_unites (x := ⟨.builtin, "t", false⟩) rfl hread (by rw [hreferences]; decide) with
    ⟨q, i, hrun, hleft, _, _, _, ⟨texts, hintro, _, heq⟩, _⟩
  refine ⟨⟨.builtin, "t", false⟩, p, q, i, hread, horder, hrun, ?_, ?_⟩
  · rw [hleft, hothers]
    rfl
  · rw [hintro, heq, htexts]
    decide

end Rule
end WikiEntry
