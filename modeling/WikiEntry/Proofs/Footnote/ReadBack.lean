import WikiEntry.Proofs.Footnote.ListTags
import WikiEntry.Proofs.Pattern.Greedy
import WikiEntry.Proofs.Region.Blanks
import WikiEntry.Proofs.Region.Merging
import WikiEntry.Rule.Footnotes

/-!
# Footnotes that are read back

A footnote is written in another form and read again.  What is read is told by the texts that stand one behind the
other, the attributes and the content with the tags around them, and not by the pattern.
-/

namespace WikiEntry
namespace Footnote

open Region

/-!
# How footnotes stand in a text
-/

/-- The end of a tag that closes its element. -/
def IsSlash : Text -> Prop :=
  IsTag ['/'] false (.anyCase .blank)

/-- Attributes behind which an angle bracket opens an element that goes on. -/
def IsOpen (a : Text) : Prop :=
  forall x y, a ++ ['>'] = x ++ y -> ¬ IsSlash y

/-- A text begins with a footnote with these attributes and this content, and goes on with `v`. -/
inductive Begins : Text -> Text -> Option Text -> Text -> Prop
  | closed {h a w v : Text} (hhead : InAnyCase "<ref".toList h) (ha : '>' ∉ a) (hw : IsSlash w) :
      Begins (h ++ (a ++ (w ++ v))) a none v
  | full {h a c w v : Text} (hhead : InAnyCase "<ref".toList h) (ha : '>' ∉ a) (hopen : IsOpen a)
      (hw : FirstWord (IsClosingTag "ref") (c ++ (w ++ v)) 0 c w v) :
      Begins (h ++ (a ++ '>' :: (c ++ (w ++ v)))) a (some c) v

section Open

variable {a w x y : Text}

theorem IsSlash.exists_eq (hw : IsSlash w) :
    exists g, w = '/' :: (g ++ ['>']) ∧ forall c, c ∈ g -> Chars.isBlank c = true := by
  rcases hw with ⟨h, g, rfl, hh, hg, _⟩
  cases hh with
  | @cons _ c _ _ hc hh =>
      cases hh
      rw [CharSet.eq_of_holds_anyCase (by decide) (by decide) (by decide) hc]
      exact ⟨g, rfl, fun c hc => CharSet.isBlank_of_holds_anyCase (hg c hc)⟩

theorem isSlash_singleton : IsSlash ['/', '>'] :=
  ⟨['/'], [], rfl, .cons (by decide) .nil, List.forall_mem_nil _, nofun⟩

/-- What ends a closed element belongs to the attributes up to the angle bracket. -/
theorem IsSlash.exists_of_append (hw : IsSlash w) (heq : a ++ ['>'] = x ++ w) :
    exists g, a = x ++ '/' :: g ∧ forall c, c ∈ g -> Chars.isBlank c = true := by
  rcases hw.exists_eq with ⟨g, rfl, hg⟩
  rw [← List.cons_append, ← List.append_assoc] at heq
  exact ⟨g, (List.append_inj' heq rfl).1, hg⟩

/-- Attributes without blanks behind them are open unless they end with the sign of closed elements. -/
theorem isOpen_iff (ha : forall c, a.getLast? = some c -> Chars.isBlank c = false) :
    IsOpen a <-> a.getLast? ≠ some '/' := by
  constructor
  · intro hopen hlast
    rcases List.getLast?_eq_some_iff.mp hlast with ⟨x, rfl⟩
    exact hopen x ['/', '>'] (by simp) isSlash_singleton
  · intro hlast x y heq hy
    rcases hy.exists_of_append heq with ⟨g, rfl, hg⟩
    rcases List.eq_nil_or_concat g with rfl | ⟨g, c, rfl⟩
    · exact hlast List.getLast?_concat
    · rw [List.concat_eq_append, ← List.cons_append, ← List.append_assoc] at ha
      have hblank := ha c List.getLast?_concat
      rw [hg c (by simp)] at hblank
      cases hblank

end Open

/-!
# Parts of the pattern
-/

def slash : Pattern :=
  ("/" ++ .blanks ++ ">" : Pattern).ignoringCase

def closing : Pattern :=
  ("</ref" ++ .blanks ++ ">" : Pattern).ignoringCase

theorem spells_slash : Spells slash IsSlash :=
  spells_bare ['/']

theorem spells_closingTag : Spells closing (IsClosingTag "ref") :=
  spells_bare "</ref".toList

/-- The ways through a content with its closing tag. -/
def contentEnds (s : ReadState) : List ReadState :=
  ((Pattern.lit ['>']).ignoringCase.ends s).flatMap fun s =>
    ((Pattern.group 2 (.few (.anyCase .all))).ends s).flatMap closing.ends

/-- The pattern, with what follows each of its two groups in one piece. -/
theorem ends_element (s : ReadState) :
    element.ends s = ((("<ref" ++ .atWordEdge : Pattern).ignoringCase).ends s).flatMap fun s =>
      ((Pattern.group 1 (.few (.anyCase (.noneOf ['>'])))).ends s).flatMap fun s => slash.ends s ++ contentEnds s := by
  have hclosing : closing.ends = fun s => (((Pattern.lit "</ref".toList).ignoringCase.ends s).flatMap
      Pattern.blanks.ignoringCase.ends).flatMap (Pattern.lit ['>']).ignoringCase.ends := rfl
  have hcontent : forall s, (((((Pattern.lit ['>']).ignoringCase.ends s).flatMap
      (Pattern.group 2 (.few (.anyCase .all))).ends).flatMap (Pattern.lit "</ref".toList).ignoringCase.ends).flatMap
        Pattern.blanks.ignoringCase.ends).flatMap (Pattern.lit ['>']).ignoringCase.ends = contentEnds s := by
    intro s
    simp only [contentEnds, hclosing, List.flatMap_assoc]
  show ((_ : List ReadState).flatMap _).flatMap _ = _
  rw [List.flatMap_assoc]
  refine List.flatMap_congr fun s _ => List.flatMap_congr fun s _ => ?_
  exact congrArg (slash.ends s ++ ·) (hcontent s)

section Reading

variable {t : Text} {place : Nat} {s s' : ReadState} {ss : List ReadState}

/-- A content ends at the first closing tag. -/
theorem exists_of_contentEnds (h : contentEnds s = s' :: ss) :
    exists c w, s.cursor.rest = '>' :: (c ++ (w ++ s'.cursor.rest)) ∧
      FirstWord (IsClosingTag "ref") (c ++ (w ++ s'.cursor.rest)) 0 c w s'.cursor.rest ∧
      s'.groups = (2, ⟨s.place + 1, s.place + 1 + c.length⟩) :: s.groups := by
  rcases Pattern.exists_of_flatMap h with ⟨s₁, hs₁, _, h⟩
  rcases Pattern.leads_of_mem_ends hs₁ with ⟨b, hb⟩
  have hbracket := hb.advances
  have hgroups := hb.groups_eq rfl
  rw [eq_of_reads_bracket hb] at hbracket
  rcases Pattern.exists_of_ends_group_few h with ⟨c, r, hrest, -, ⟨us, hlater⟩, hmin⟩
  rcases Pattern.leads_of_mem_ends (hlater ▸ List.mem_cons_self) with ⟨w, hw⟩
  have hsplit : r = w ++ s'.cursor.rest := (Cursor.rest_skip hrest).symm.trans hw.advances.1
  subst hsplit
  refine ⟨c, w, hrest ▸ hbracket.1, ⟨rfl, spells_closingTag.sound _ _ _ hw, Nat.zero_le _, ?_⟩, ?_⟩
  · intro u w' v heq hw' _
    by_contra hlt
    have hu : u <+: c :=
      List.prefix_of_prefix_length_le (heq ▸ List.prefix_append u _) (List.prefix_append c _) (by omega)
    refine spells_closingTag.ends_ne_nil (w := w') (v := v) ?_ hw' (hmin u hu ?_)
    · exact Cursor.rest_skip (hrest.trans heq)
    · rintro rfl
      exact hlt (Nat.le_refl _)
  · have hplace : (s₁.skip c).place = s.place + 1 + c.length :=
      (Cursor.place_skip _ _).trans (congrArg (· + c.length) hbracket.2)
    rw [hw.groups_eq rfl, ReadState.close, hplace, hbracket.2]
    exact congrArg (_ :: ·) hgroups

theorem exists_of_ends {k : Cursor} (h : element.ends ⟨k, []⟩ = s' :: ss) :
    exists h a r p, k.rest = h ++ (a ++ r) ∧ InAnyCase "<ref".toList h ∧ '>' ∉ a ∧ p = k.place + h.length + a.length ∧
      ((exists w, r = w ++ s'.cursor.rest ∧ IsSlash w ∧ s'.groups = [(1, ⟨k.place + h.length, p⟩)]) ∨
        exists c w, r = '>' :: (c ++ (w ++ s'.cursor.rest)) ∧ IsOpen a ∧
          FirstWord (IsClosingTag "ref") (c ++ (w ++ s'.cursor.rest)) 0 c w s'.cursor.rest ∧
          s'.groups = [(2, ⟨p + 1, p + 1 + c.length⟩), (1, ⟨k.place + h.length, p⟩)]) := by
  rw [ends_element] at h
  rcases Pattern.exists_of_flatMap h with ⟨s₁, hs₁, _, h⟩
  rcases Pattern.leads_of_mem_ends hs₁ with ⟨h', hreads⟩
  rcases Pattern.exists_of_ends_group_few h with ⟨a, r, hrest, ha, ⟨us, hlater⟩, hmin⟩
  have hhead : InAnyCase "<ref".toList h' := by
    rcases hreads.seq_inv with ⟨h', e, _, rfl, hhead, he⟩
    rcases he.anchor_inv with ⟨rfl, rfl, -⟩
    rw [List.append_nil]
    exact inAnyCase_of_reads hhead
  have hafter : (s₁.skip a).cursor.rest = r := Cursor.rest_skip hrest
  have hplace : (s₁.skip a).place = s₁.place + a.length := Cursor.place_skip _ _
  have hgroups : s₁.groups = [] := hreads.groups_eq rfl
  have hfront : s₁.place = k.place + h'.length := hreads.advances.2
  refine ⟨h', a, r, (s₁.skip a).place, hrest ▸ hreads.advances.1, hhead, fun hmem => absurd (ha '>' hmem) (by decide),
    by rw [hplace, hfront], ?_⟩
  cases hslash : slash.ends ((s₁.skip a).close 1 s₁.place) with
  | cons x xs =>
      rw [hslash, List.cons_append] at hlater
      rcases Pattern.leads_of_mem_ends (hslash ▸ List.mem_cons_self) with ⟨w, hw⟩
      rw [(List.cons.inj hlater).1] at hw
      refine Or.inl ⟨w, hafter.symm.trans hw.advances.1, spells_slash.sound _ _ _ hw, ?_⟩
      rw [hw.groups_eq rfl, ReadState.close, hfront]
      exact congrArg (_ :: ·) hgroups
  | nil =>
      rw [hslash, List.nil_append] at hlater
      rcases exists_of_contentEnds hlater with ⟨c, w, hsplit, hw, hgroups'⟩
      have hr : r = '>' :: (c ++ (w ++ s'.cursor.rest)) := hafter.symm.trans hsplit
      refine Or.inr ⟨c, w, hr, ?_, hw, ?_⟩
      · -- Where the tag could close its element, it would be read so, and earlier.
        intro x y heq hy
        have hslashes := spells_slash.ends_ne_nil (s := (s₁.skip x).close 1 s₁.place) (w := y)
          (v := c ++ (w ++ s'.cursor.rest)) ?_ hy
        · rcases hy.exists_of_append heq with ⟨g, rfl, -⟩
          exact hslashes (List.append_eq_nil_iff.mp (hmin x (List.prefix_append _ _) (by simp))).1
        · refine Cursor.rest_skip ?_
          rw [hrest, hr, ← List.singleton_append, ← List.append_assoc, heq, List.append_assoc]
      · rw [hgroups', ReadState.close, hfront]
        exact congrArg (_ :: _ :: ·) hgroups

theorem slice_place {u w v : Text} (ht : t.drop place = u ++ (w ++ v)) (hplace : place ≤ t.length) :
    t.slice ⟨place + u.length, place + u.length + w.length⟩ = w := by
  refine Text.slice_of_eq_append (u := t.take place ++ u) (v := v) ?_ ?_
  · rw [List.append_assoc, ← ht, List.take_append_drop]
  · rw [List.length_append, List.length_take_of_le hplace]

/-- What the pattern reads is a footnote at the beginning of the rest of the text. -/
theorem begins_of_matchAt? (hplace : place ≤ t.length) {m : Match}
    (hm : element.matchAt? (.ofPlace t place) = some m) :
    exists v, Begins (t.drop place) (m.text t 1) (m.text? t 2) v ∧ m.stop + v.length = t.length := by
  rw [Pattern.matchAt?] at hm
  cases hends : element.ends ⟨.ofPlace t place, []⟩ with
  | nil =>
      rw [hends] at hm
      cases hm
  | cons s ss =>
      rw [hends] at hm
      have hm : m = ⟨⟨place, s.place⟩, s.groups⟩ := (Option.some.inj hm).symm
      subst hm
      have hstop : s.place + s.cursor.rest.length = t.length := by
        rcases Pattern.leads_of_mem_ends (hends ▸ List.mem_cons_self) with ⟨w, hw⟩
        have hlength : (t.drop place).length = (w ++ s.cursor.rest).length := congrArg List.length hw.advances.1
        have hend : s.place = place + w.length := hw.advances.2
        rw [List.length_drop, List.length_append] at hlength
        omega
      refine ⟨s.cursor.rest, ?_, hstop⟩
      rcases exists_of_ends hends with ⟨h, a, r, p, hrest, hhead, ha, rfl, hcases⟩
      have hrest : t.drop place = h ++ (a ++ r) := hrest
      have hattributes := slice_place hrest hplace
      rcases hcases with ⟨w, rfl, hw, hgroups⟩ | ⟨c, w, rfl, hopen, hw, hgroups⟩
      · have hone : Match.text ⟨⟨place, s.place⟩, s.groups⟩ t 1 = a := by
          rw [Match.text_of_lookup (by decide) (congrArg (List.lookup 1) hgroups)]
          exact hattributes
        have htwo : Match.text? ⟨⟨place, s.place⟩, s.groups⟩ t 2 = none := by
          rw [Match.text?, Match.group?, if_neg (by decide), hgroups]
          rfl
        rw [hone, htwo, hrest]
        exact .closed hhead ha hw
      · have hone : Match.text ⟨⟨place, s.place⟩, s.groups⟩ t 1 = a := by
          rw [Match.text_of_lookup (by decide) (congrArg (List.lookup 1) hgroups)]
          exact hattributes
        have htwo : Match.text? ⟨⟨place, s.place⟩, s.groups⟩ t 2 = some c := by
          have hsplit : t.drop place = (h ++ (a ++ ['>'])) ++ (c ++ (w ++ s.cursor.rest)) := by
            rw [hrest]
            simp
          have hcontent := slice_place hsplit hplace
          simp only [List.length_append, List.length_singleton, ← Nat.add_assoc] at hcontent
          rw [Match.text?, Match.group?, if_neg (by decide), hgroups]
          exact congrArg some hcontent
        rw [hone, htwo, hrest]
        exact .full hhead ha hopen hw

end Reading

/-!
# The footnotes of a text
-/

section All

variable {t u v a : Text} {content : Option Text} {f : Footnote}

theorem Begins.bracket_not_mem (h : Begins u a content v) : '>' ∉ a := by
  cases h with
  | closed _ ha _ => exact ha
  | full _ ha _ _ => exact ha

theorem Begins.getLast?_eq (h : Begins u a content []) : u.getLast? = some '>' := by
  cases h with
  | closed hhead ha hw =>
      have hne : (_ : Text) ≠ [] := (delimiting_isTag (by decide)).ne_nil _ hw
      rw [List.append_nil, ← List.append_assoc, List.getLast?_append_of_ne_nil _ hne, hw.getLast?_eq]
  | full hhead ha hopen hw =>
      have hne : (_ : Text) ≠ [] := (delimiting_isClosingTag _).ne_nil _ hw.isWord
      rw [List.append_nil, ← List.cons_append, ← List.append_assoc, ← List.append_assoc,
        List.getLast?_append_of_ne_nil _ hne, hw.isWord.getLast?_eq]

theorem begins_of_mem_all (hf : f ∈ all t) : exists u v, Begins u f.attributes f.content v := by
  rcases List.mem_map.mp hf with ⟨m, hm, rfl⟩
  have hm := (List.mem_filter.mp hm).1
  rcases (Pattern.inOrder_matchList element t).matched m hm with ⟨w, s, hmatched⟩
  rcases begins_of_matchAt? hmatched.start_le (Pattern.matchAt?_of_mem_matchesFrom (Nat.zero_le _) rfl hm) with
    ⟨v, hbegins, -⟩
  exact ⟨_, v, hbegins⟩

/-- A text that begins with an element of footnotes begins with no ignored region. -/
theorem covers_ignored_zero (hu : "<r".toList <+: u) : covers (ignored u) 0 = false := by
  rcases hu with ⟨r, rfl⟩
  refine Bool.eq_false_iff.mpr fun hcovers => ?_
  have helements : forall {name : Text} {x : Char}, x.isLower = true -> Chars.fold 'r' ≠ x ->
      covers (elements (.ofName (x :: name)) ("<r".toList ++ r)) 0 = false := by
    intro name x hx hne
    refine List.any_eq_false.mpr fun s hs hholds => ?_
    rcases begins_of_mem_elements (Nat.zero_le _) hs with ⟨-, w, hw, v, hv⟩
    have hstart : s.start = 0 := Nat.le_zero.mp (holds_iff.mp hholds).1
    rcases References.exists_second hw with ⟨c, hc, hletter⟩
    have hr : c = 'r' := by
      have hget := congrArg (fun t : Text => t[1]?) hv
      rw [hstart, List.getElem?_append_left (List.getElem?_eq_some_iff.mp hc).1, hc] at hget
      exact Option.some.inj hget
    rw [hr] at hletter
    exact hne (References.fold_eq_of_holds_anyCase hx hletter)
  have hcomments : covers (comments ("<r".toList ++ r)) 0 = false := by
    refine List.any_eq_false.mpr fun s hs hholds => ?_
    rcases begins_of_mem_comments List.drop_zero hs with ⟨-, v, hv⟩
    rw [Nat.le_zero.mp (holds_iff.mp hholds).1] at hv
    exact absurd (List.cons.inj (List.cons.inj hv).2).1 (by decide)
  rcases (covers_ignored_iff _ 0).mp hcovers with h | h | h | h
  · exact Bool.eq_false_iff.mp hcomments h
  · exact Bool.eq_false_iff.mp (helements (x := 'n') (by decide) (by decide)) h
  · exact Bool.eq_false_iff.mp (helements (x := 'p') (by decide) (by decide)) h
  · exact Bool.eq_false_iff.mp (helements (x := 'c') (by decide) (by decide)) h

theorem endsBefore_element : element.EndsBefore [] :=
  ⟨by decide, by decide, fun _ _ _ _ _ _ => List.not_mem_nil, nofun⟩

/-- What the pattern reads at the beginning of a text is a footnote of the text, and the only one if it is all of the
text. -/
theorem exists_mem_all {r : Text} (hfound : element.matchAt? (.start ("<ref".toList ++ r)) ≠ none) :
    exists f v, f ∈ all ("<ref".toList ++ r) ∧ Begins ("<ref".toList ++ r) f.attributes f.content v ∧
      (v = [] -> all ("<ref".toList ++ r) = [f]) := by
  rcases Option.ne_none_iff_exists'.mp hfound with ⟨m, hm⟩
  rcases begins_of_matchAt? (Nat.zero_le _) hm with ⟨v, hbegins, hstop⟩
  rw [List.drop_zero] at hbegins
  have hstart : m.start = 0 := (Pattern.matched_of_matchAt? (Nat.zero_le _) hm).1
  have hcovers : covers (ignored ("<ref".toList ++ r)) 0 = false := covers_ignored_zero ⟨"ef".toList ++ r, rfl⟩
  have houtside : (!covers (ignored ("<ref".toList ++ r)) m.start) = true := by
    rw [hstart, hcovers]
    rfl
  refine ⟨ofMatch _ m, v, List.mem_map_of_mem (List.mem_filter.mpr ⟨?_, houtside⟩), hbegins, ?_⟩
  · show m ∈ element.matchesFrom none 0 0 none ('<' :: ("ref".toList ++ r))
    have hm : element.matchAt? ⟨none, 0, '<' :: ("ref".toList ++ r)⟩ = some m := hm
    rw [endsBefore_element.matchesFrom_cons, if_neg (Nat.lt_irrefl 0), hm]
    exact List.mem_cons_self
  · rintro rfl
    have hlast : forall c, ("<ref".toList ++ r).getLast? = some c -> Chars.isWord c = false := by
      intro c hc
      rw [hbegins.getLast?_eq] at hc
      rw [← Option.some.inj hc]
      decide
    have hlist := endsBefore_element.matchList_append (v := []) (by rw [List.append_nil, List.append_nil, hm]) hstop
      (List.cons_ne_nil _ _) hlast
    have hnil : element.matchList [] = [] := endsBefore_element.matchesFrom_eq_nil fun _ hc => hc
    have hfilter : [m].filter (fun m => !covers (ignored ("<ref".toList ++ r)) m.start) = [m] :=
      List.filter_cons_of_pos houtside
    rw [hnil, List.append_nil, List.append_nil, List.map_nil] at hlist
    rw [all, matchesOutside, hlist, hfilter]
    rfl

end All

/-!
# Written footnotes
-/

section Written

variable {a a' c r u v w : Text} {content : Option Text} {f : Footnote}

/-- What a text begins with whose first angle bracket of that kind stands behind `a'`. -/
theorem Begins.of_bracket (ha' : '>' ∉ a') (h : Begins ("<ref".toList ++ (a' ++ '>' :: r)) a content v) :
    (content = none ∧ v = r ∧ ¬ IsOpen a' ∧ exists g, a' = a ++ '/' :: g ∧ forall c, c ∈ g -> Chars.isBlank c = true) ∨
      a = a' ∧ IsOpen a' ∧ exists c w, content = some c ∧ FirstWord (IsClosingTag "ref") r 0 c w v := by
  generalize hu : "<ref".toList ++ (a' ++ '>' :: r) = u at h
  cases h with
  | @closed h a w v hhead ha hw =>
      rcases hw.exists_eq with ⟨g, rfl, hg⟩
      have hrest := (List.append_inj hu hhead.length_eq).2
      have hsplit : a ++ ('/' :: (g ++ ['>']) ++ v) = (a ++ '/' :: g) ++ '>' :: v := by simp
      have hbracket : '>' ∉ a ++ '/' :: g := by
        simp only [List.mem_append, List.mem_cons, not_or]
        exact ⟨ha, by decide, fun hmem => absurd (hg _ hmem) (by decide)⟩
      rcases Text.eq_of_append_cons ha' hbracket (hrest.trans hsplit) with ⟨hfront, hback⟩
      refine Or.inl ⟨rfl, hback.symm, fun hopen => hopen a _ ?_ hw, g, hfront, hg⟩
      rw [hfront]
      simp
  | @full h a c w v hhead ha hopen hw =>
      have hrest := (List.append_inj hu hhead.length_eq).2
      rcases Text.eq_of_append_cons ha' ha hrest with ⟨rfl, rfl⟩
      exact Or.inr ⟨rfl, hopen, c, w, rfl, hw⟩

theorem readsBetween_no_blanks {k : Cursor} (hk : k.rest = r) : Pattern.blanks.ignoringCase.ReadsBetween k [] k :=
  Pattern.ReadsBetween.run true (w := []) hk (List.forall_mem_nil fun c => (CharSet.anyCase .blank).holds c = true)
    (Nat.zero_le _)

/-- Where attributes and what follows them can be read, a footnote is read. -/
theorem matchAt?_ne_none (ha : '>' ∉ a) (hfront : a.head? = some ' ')
    (hr : forall k : Cursor, k.rest = r ->
      (.alt slash (">" ++ .group 2 (.few .all) ++ "</ref" ++ .blanks ++ ">" : Pattern).ignoringCase
        : Pattern).ReadsBetween k r (k.skip r)) :
    element.matchAt? (.start ("<ref".toList ++ (a ++ r))) ≠ none := by
  have hrest : (Cursor.start ("<ref".toList ++ (a ++ r))).rest = "<ref".toList ++ (a ++ r) := rfl
  have hattributes := Cursor.rest_skip hrest
  have hbehind := Cursor.rest_skip hattributes
  have hhead : InAnyCase "<ref".toList "<ref".toList := by decide
  have hedge : (Anchor.word false .edge).holds ((Cursor.start ("<ref".toList ++ (a ++ r))).skip "<ref".toList) = true := by
    cases a with
    | nil => cases hfront
    | cons x a =>
        rw [holds_edge (by decide) (List.cons_ne_nil x a) hrest, Option.some.inj hfront]
        rfl
  have hset : forall x, x ∈ a -> (CharSet.anyCase (.noneOf ['>'])).holds x = true :=
    fun x hx => holds_noneOf_bracket fun heq => ha (heq ▸ hx)
  have hreads := (((readsBetween_of_inAnyCase hhead hrest).seq (readsBetween_anchor hedge)).seq
    ((Pattern.ReadsBetween.run false hattributes hset (Nat.zero_le _)).group 1)).seq (hr _ hbehind)
  rcases hreads [] with ⟨gs, hreads⟩
  exact hreads.matchAt?_ne_none (by decide)

theorem exists_of_reference (ha : '>' ∉ a) (hfront : a.head? = some ' ') :
    exists f, all ("<ref".toList ++ (a ++ " />".toList)) = [f] ∧ f.attributes = a ++ [' '] ∧ f.content = none := by
  have hbracket : forall x : Text, '>' ∉ x -> '>' ∉ a ++ x := fun x hx => by simp [ha, hx]
  have hfound : element.matchAt? (.start ("<ref".toList ++ (a ++ " />".toList))) ≠ none := by
    have hfound := matchAt?_ne_none (a := a ++ [' ']) (r := ['/', '>']) (hbracket _ (by decide)) (by simp [hfront])
      fun k hk => Pattern.ReadsBetween.altLeft _
        (spells_slash.complete k _ [] isSlash_singleton (hk.trans (List.append_nil _).symm))
    rwa [List.append_assoc] at hfound
  rcases exists_mem_all hfound with ⟨f, v, hf, hbegins, hall⟩
  have hsplit : "<ref".toList ++ (a ++ " />".toList) = "<ref".toList ++ ((a ++ [' ', '/']) ++ '>' :: []) := by simp
  rw [hsplit] at hbegins
  rcases hbegins.of_bracket (hbracket _ (by decide)) with ⟨hcontent, rfl, _, g, heq, hg⟩ | ⟨_, _, c, w, _, hw⟩
  · refine ⟨f, hall rfl, ?_, hcontent⟩
    rcases List.eq_nil_or_concat g with rfl | ⟨g, x, rfl⟩
    · have hends : a ++ [' '] ++ ['/'] = f.attributes ++ ['/'] := by simpa using heq
      exact (List.append_cancel_right hends).symm
    · -- The last sign of the tag is no blank.
      have hlast := congrArg List.getLast? heq
      rw [List.concat_eq_append, ← List.cons_append, ← List.append_assoc, List.getLast?_concat,
        List.getLast?_append_of_ne_nil _ (List.cons_ne_nil _ _)] at hlast
      have hblank := hg x (by simp)
      rw [← Option.some.inj hlast] at hblank
      exact absurd hblank (by decide)
  · have hnil := (List.append_eq_nil_iff.mp (List.append_eq_nil_iff.mp hw.text_eq.symm).2).1
    exact absurd hnil ((delimiting_isClosingTag _).ne_nil _ hw.isWord)

theorem not_mem_tail_of_isClosingTag (hw : IsClosingTag "ref" w) : '<' ∉ w.tail := by
  rcases hw with ⟨h, g, rfl, hh, hg, _⟩
  cases hh with
  | @cons _ c _ h _ hh =>
      have hhead : '<' ∉ h := not_mem_of_inAnyCase (by decide) (by decide) hh
      have hinner : '<' ∉ g := fun hmem => absurd (hg _ hmem) (by decide)
      show '<' ∉ h ++ (g ++ ['>'])
      simp [hhead, hinner]

/-- What stands in front of one closing tag, the first, also stands in front of another one. -/
theorem firstWord_closing (h : FirstWord (IsClosingTag "ref") (c ++ (w ++ v)) 0 c w v) :
    FirstWord (IsClosingTag "ref") (c ++ "</ref>".toList) 0 c "</ref>".toList [] where
  text_eq := by rw [List.append_nil]
  isWord := ⟨"</ref".toList, [], rfl, by decide, List.forall_mem_nil _, nofun⟩
  start_le := Nat.zero_le _
  leftmost := by
    intro u' w' v' heq hw' _
    by_contra hlt
    rcases List.append_eq_append_iff.mp heq with ⟨d, rfl, _⟩ | ⟨d, rfl, hrest⟩
    · simp at hlt
    · have hd : d ≠ [] := by
        rintro rfl
        simp at hlt
      have hinside : forall e, d = w' ++ e -> False := by
        rintro e rfl
        exact hlt (h.leftmost u' w' (e ++ (w ++ v)) (by simp) hw' (Nat.zero_le _))
      rcases List.append_eq_append_iff.mp hrest with ⟨e, he, _⟩ | ⟨e, rfl, hback⟩
      · exact hinside e he
      · cases e with
        | nil => exact hinside [] (by simp)
        | cons x e =>
            -- The tag would hold the beginning of another one.
            have hx : '<' = x := (List.cons.inj hback).1
            rcases List.exists_cons_of_ne_nil hd with ⟨y, d, rfl⟩
            refine not_mem_tail_of_isClosingTag hw' ?_
            rw [hx]
            simp

theorem exists_match_full (ha : '>' ∉ a) (hfront : a.head? = some ' ') (c : Text) :
    element.matchAt? (.start ("<ref".toList ++ (a ++ '>' :: (c ++ "</ref>".toList)))) ≠ none := by
  refine matchAt?_ne_none ha hfront fun k hk => Pattern.ReadsBetween.altRight _ ?_
  have hcontent := Cursor.rest_skip (w := ['>']) hk
  have hclosing := Cursor.rest_skip hcontent
  have hend := Cursor.rest_skip (w := "</ref".toList) (r := ['>']) hclosing
  have hhead : InAnyCase "</ref".toList "</ref".toList := by decide
  have hset : forall x, x ∈ c -> (CharSet.anyCase .all).holds x = true := by
    intro x _
    rcases List.exists_mem_of_ne_nil _ (Chars.variants_ne_nil x) with ⟨v, hv⟩
    exact List.any_eq_true.mpr ⟨v, hv, rfl⟩
  have hreads := ((((readsBetween_bracket hk).seq
    ((Pattern.ReadsBetween.run false hcontent hset (Nat.zero_le _)).group 2)).seq
      (readsBetween_of_inAnyCase hhead (v := ['>']) hclosing)).seq (readsBetween_no_blanks hend)).seq
        (readsBetween_bracket hend)
  simp only [Cursor.skip_append, List.append_assoc] at hreads ⊢
  exact hreads

theorem exists_of_full (ha : '>' ∉ a) (hfront : a.head? = some ' ')
    (hopen : IsOpen a) (hc : FirstWord (IsClosingTag "ref") (c ++ (w ++ v)) 0 c w v) :
    exists f, all ("<ref".toList ++ (a ++ '>' :: (c ++ "</ref>".toList))) = [f] ∧ f.attributes = a ∧
      f.content = some c := by
  rcases exists_mem_all (exists_match_full ha hfront c) with ⟨f, v, hf, hbegins, hall⟩
  rcases hbegins.of_bracket ha with ⟨_, _, hclosed, _⟩ | ⟨hattributes, _, c', w', hcontent, hw⟩
  · exact absurd hopen hclosed
  · rcases (firstWord_closing hc).unique (delimiting_isClosingTag _) hw with ⟨rfl, rfl, rfl⟩
    exact ⟨f, hall rfl, hattributes, hcontent⟩

theorem exists_of_not_isOpen (ha : '>' ∉ a) (hfront : a.head? = some ' ') (hopen : ¬ IsOpen a) (c : Text) :
    exists f, f ∈ all ("<ref".toList ++ (a ++ '>' :: (c ++ "</ref>".toList))) ∧ f.content = none := by
  rcases exists_mem_all (exists_match_full ha hfront c) with ⟨f, v, hf, hbegins, _⟩
  rcases hbegins.of_bracket ha with ⟨hcontent, _⟩ | ⟨_, hopen', _⟩
  · exact ⟨f, hf, hcontent⟩
  · exact absurd hopen' hopen

end Written

/-!
# Written names
-/

/-- A name as it is written among the attributes. -/
def nameAttribute (name : Text) : Text :=
  " name=\"".toList ++ (name ++ ['"'])

theorem nameAttribute_append (name r : Text) :
    nameAttribute name ++ r = ' ' :: 'n' :: 'a' :: 'm' :: 'e' :: '=' :: '"' :: (name ++ '"' :: r) := by
  show " name=\"".toList ++ (name ++ ['"']) ++ r = _
  rw [List.append_assoc, List.append_assoc]
  rfl

/-- What is read of a name that is written. -/
def nameMatch (name : Text) : Match :=
  ⟨⟨0, 7 + name.length + 1⟩, [(2, ⟨7, 7 + name.length⟩), (1, ⟨1, 5⟩)]⟩

/-- The key of an attribute, with what may stand in front of it. -/
def keyPattern : Pattern :=
  (.blanks ++ .atWordEdge ++ .group 1 (.alt "name" "group") : Pattern).ignoringCase

/-- The value of an attribute, in one of three notations. -/
def valuePattern : Pattern :=
  let plain : CharSet := .complement (.anyOf [.blank, .char '"', .char '\'', .char '/', .char '>'])
  (.anyOf
    ["\"" ++ .group 2 (.many (.noneOf ['"'])) ++ "\"",
     "'" ++ .group 3 (.many (.noneOf ['\''])) ++ "'",
     .group 4 (.some1 plain)] : Pattern).ignoringCase

section Names

variable {body r v w x : Text} {c : Char} {s s' : ReadState}

/-- No blank is read where none stands. -/
theorem eq_nil_of_blanks (hb : (Pattern.blanks.ignoringCase).Reads s w s') (hrest : s.cursor.rest = c :: r)
    (hc : (CharSet.anyCase .blank).holds c = false) : w = [] := by
  have hsplit := hb.advances.1
  cases w with
  | nil => rfl
  | cons d w =>
      rw [hrest] at hsplit
      have hd := hb.run_inv.1 d List.mem_cons_self
      rw [← (List.cons.inj hsplit).1, hc] at hd
      cases hd

/-- The blank in front of a written name belongs to the attribute. -/
theorem key_of_reads (h : keyPattern.Reads s w s') (hrest : s.cursor.rest = ' ' :: 'n' :: 'a' :: 'm' :: 'e' :: r) :
    w = [' ', 'n', 'a', 'm', 'e'] ∧ s'.groups = (1, ⟨s.place + 1, s.place + 5⟩) :: s.groups := by
  rcases h.seq_inv with ⟨w, key, s₂, rfl, h, hkey⟩
  rcases h.seq_inv with ⟨b, e, s₁, rfl, hb, he⟩
  rcases he.anchor_inv with ⟨rfl, rfl, -⟩
  have hkeys : InAnyCase ['n', 'a', 'm', 'e'] key ∨ InAnyCase ['g', 'r', 'o', 'u', 'p'] key := by
    rcases hkey.group_inv with ⟨y, hkey, -⟩
    cases hkey with
    | altLeft hkey => exact Or.inl (inAnyCase_of_reads hkey)
    | altRight hkey => exact Or.inr (inAnyCase_of_reads hkey)
  have hsplit : ' ' :: 'n' :: 'a' :: 'm' :: 'e' :: r = b ++ s₂.cursor.rest := hrest.symm.trans hb.advances.1
  have hrest' := hkey.advances.1
  have hb' : b = [' '] := by
    cases b with
    | nil =>
        rw [List.nil_append, hrest'] at hsplit
        rcases hkeys with hkeys | hkeys <;> cases hkeys with
        | cons hc _ =>
            rw [← (List.cons.inj hsplit).1] at hc
            exact absurd hc (by decide)
    | cons d b =>
        rcases List.cons.inj hsplit with ⟨rfl, htail⟩
        cases b with
        | nil => rfl
        | cons d b =>
            have hblank := hb.run_inv.1 d (by simp)
            rw [← (List.cons.inj htail).1] at hblank
            exact absurd hblank (by decide)
  subst hb'
  have hkeyRest : ['n', 'a', 'm', 'e'] ++ r = key ++ s'.cursor.rest := (List.cons.inj hsplit).2.trans hrest'
  have hkey' : key = ['n', 'a', 'm', 'e'] := by
    rcases hkeys with hkeys | hkeys
    · exact (List.append_inj hkeyRest hkeys.length_eq).1.symm
    · cases hkeys with
      | cons hc _ =>
          rw [← (List.cons.inj hkeyRest).1] at hc
          exact absurd hc (by decide)
  subst hkey'
  refine ⟨rfl, ?_⟩
  rw [hkey.group_groupless rfl, hb.advances.2, hb.groups_eq rfl]
  rfl

theorem value_of_reads (hbody : '"' ∉ body) (h : valuePattern.Reads s w s')
    (hrest : s.cursor.rest = '"' :: (body ++ '"' :: r)) :
    w = '"' :: (body ++ ['"']) ∧ s'.groups = (2, ⟨s.place + 1, s.place + 1 + body.length⟩) :: s.groups := by
  have hsplit := hrest.symm.trans h.advances.1
  cases h with
  | altLeft h =>
      rcases h.seq_inv with ⟨w, q', s₂, rfl, h, hq'⟩
      rcases h.seq_inv with ⟨q, y, s₁, rfl, hq, hy⟩
      rcases hq.one_inv with ⟨c, rfl, hc, -⟩
      rcases hq'.one_inv with ⟨c', rfl, hc', -⟩
      rcases hy.group_inv with ⟨z, hz, -⟩
      have hc : c = '"' := CharSet.eq_of_holds_anyCase (by decide) (by decide) (by decide) hc
      have hc' : c' = '"' := CharSet.eq_of_holds_anyCase (by decide) (by decide) (by decide) hc'
      have hy' : '"' ∉ y := fun hmem => absurd (hz.run_inv.1 _ hmem) (by decide)
      subst hc hc'
      have hsame : body ++ '"' :: r = y ++ '"' :: s'.cursor.rest := by simpa using hsplit
      rcases Text.eq_of_append_cons hbody hy' hsame with ⟨rfl, _⟩
      refine ⟨by simp, ?_⟩
      rw [hq'.groups_eq rfl, hy.group_groupless rfl, hq.groups_eq rfl, hq.advances.2]
      rfl
  | altRight h =>
      exfalso
      cases h with
      | altLeft h =>
          rcases h.seq_inv with ⟨w, q', s₂, rfl, h, -⟩
          rcases h.seq_inv with ⟨q, y, s₁, rfl, hq, -⟩
          rcases hq.one_inv with ⟨c, rfl, hc, -⟩
          have hc : c = '\'' := CharSet.eq_of_holds_anyCase (by decide) (by decide) (by decide) hc
          rw [hc] at hsplit
          exact absurd (List.cons.inj hsplit).1 (by decide)
      | altRight h =>
          rcases h.group_inv with ⟨z, hz, -⟩
          rcases hz.run_inv with ⟨hset, hleast, -⟩
          rcases List.exists_cons_of_length_pos hleast with ⟨c, w, rfl⟩
          have hc := hset c List.mem_cons_self
          rw [← (List.cons.inj hsplit).1] at hc
          exact absurd hc (by decide)

theorem nameMatch_of_reads (hbody : '"' ∉ body)
    (h : assignment.Reads ⟨.start (nameAttribute body ++ r), []⟩ w s) :
    w = nameAttribute body ∧ s.groups = (nameMatch body).groups := by
  have hrest : (Cursor.start (nameAttribute body ++ r)).rest =
      ' ' :: 'n' :: 'a' :: 'm' :: 'e' :: '=' :: '"' :: (body ++ '"' :: r) := nameAttribute_append body r
  rcases h.seq_inv with ⟨w, val, s₅, rfl, h, hval⟩
  rcases h.seq_inv with ⟨w, b', s₄, rfl, h, hb'⟩
  rcases h.seq_inv with ⟨w, e, s₃, rfl, h, he⟩
  rcases h.seq_inv with ⟨w, b, s₂, rfl, hkey, hb⟩
  rcases key_of_reads hkey hrest with ⟨rfl, hgroups⟩
  have hrest₂ : s₂.cursor.rest = '=' :: '"' :: (body ++ '"' :: r) :=
    (@List.append_cancel_left _ [' ', 'n', 'a', 'm', 'e'] _ _ (hrest.symm.trans hkey.advances.1)).symm
  have hb₀ := eq_nil_of_blanks hb hrest₂ (by decide)
  subst hb₀
  rcases he.one_inv with ⟨c, rfl, -, -⟩
  have hrest₃ : s₃.cursor.rest = '=' :: '"' :: (body ++ '"' :: r) := hb.advances.1.symm.trans hrest₂
  have hrest₄ := hrest₃.symm.trans he.advances.1
  have hb₁ := eq_nil_of_blanks hb' (List.cons.inj hrest₄).2.symm (by decide)
  subst hb₁
  have hrest₅ : s₅.cursor.rest = '"' :: (body ++ '"' :: r) := hb'.advances.1.symm.trans (List.cons.inj hrest₄).2.symm
  rcases value_of_reads hbody hval hrest₅ with ⟨rfl, hvalue⟩
  have hplace : s₅.place = 6 := by
    rw [hb'.advances.2, he.advances.2, hb.advances.2, hkey.advances.2]
    rfl
  refine ⟨by rw [← (List.cons.inj hrest₄).1]; rfl, ?_⟩
  rw [hvalue, hplace, hb'.groups_eq rfl, he.groups_eq rfl, hb.groups_eq rfl, hgroups]
  rfl

theorem ne_of_value (h : valuePattern.Reads s w s') : exists w' c, w = w' ++ [c] ∧ c ≠ ' ' := by
  have hquote : forall {q : Char} {s w s'}, (CharSet.anyCase (.char q)).holds ' ' = false ->
      (Pattern.lit [q]).ignoringCase.Reads s w s' -> exists c, w = [c] ∧ c ≠ ' ' := by
    intro q s w s' hq h
    rcases h.one_inv with ⟨c, rfl, hc, -⟩
    refine ⟨c, rfl, ?_⟩
    rintro rfl
    rw [hq] at hc
    cases hc
  cases h with
  | altLeft h =>
      rcases h.seq_inv with ⟨w, q, _, rfl, -, hq⟩
      rcases hquote (by decide) hq with ⟨c, rfl, hc⟩
      exact ⟨w, c, rfl, hc⟩
  | altRight h =>
      cases h with
      | altLeft h =>
          rcases h.seq_inv with ⟨w, q, _, rfl, -, hq⟩
          rcases hquote (by decide) hq with ⟨c, rfl, hc⟩
          exact ⟨w, c, rfl, hc⟩
      | altRight h =>
          rcases h.group_inv with ⟨z, hz, -⟩
          rcases hz.run_inv with ⟨hset, hleast, -⟩
          rcases List.eq_nil_or_concat w with rfl | ⟨w, c, rfl⟩
          · cases hleast
          · refine ⟨w, c, List.concat_eq_append, ?_⟩
            rintro rfl
            exact absurd (hset ' ' (by simp)) (by decide)

theorem endsBefore_assignment (hx : forall c, c ∈ x -> c = ' ') : assignment.EndsBefore x where
  isLocal := by decide
  nonempty := by decide
  last_not_mem := by
    intro s w t h c hc hmem
    rcases h.seq_inv with ⟨w, val, _, rfl, -, hval⟩
    rcases ne_of_value hval with ⟨w', d, rfl, hd⟩
    rw [← List.append_assoc, List.getLast?_concat] at hc
    exact hd ((Option.some.inj hc).trans (hx c hmem))
  head_not_word := by
    intro c hc
    rw [hx c (List.mem_of_mem_head? hc)]
    decide

/-- A name that is written can be read. -/
theorem readsBetween_nameAttribute (body r : Text) (hbody : '"' ∉ body) : exists w k',
    assignment.ReadsBetween (.start (nameAttribute body ++ r)) w k' := by
  have hrest : (Cursor.start (nameAttribute body ++ r)).rest = [' '] ++ (['n', 'a', 'm', 'e'] ++ (['='] ++
      (['"'] ++ (body ++ (['"'] ++ r))))) := nameAttribute_append body r
  generalize Cursor.start (nameAttribute body ++ r) = k at hrest
  have hkey := Cursor.rest_skip hrest
  have hequals := Cursor.rest_skip hkey
  have hquote := Cursor.rest_skip hequals
  have hvalue := Cursor.rest_skip hquote
  have hend := Cursor.rest_skip hvalue
  have hedge : (Anchor.word false .edge).holds (k.skip [' ']) = true := by
    rw [Anchor.holds, before_skip, hkey]
    rfl
  have hblank : forall c, c ∈ [' '] -> (CharSet.anyCase .blank).holds c = true :=
    List.forall_mem_singleton.mpr (by decide)
  have hset : forall c, c ∈ body -> (CharSet.anyCase (.noneOf ['"'])).holds c = true :=
    fun c hc => CharSet.holds_anyCase_noneOf (by decide) (by decide) (by decide) fun heq => hbody (heq ▸ hc)
  have hname := (readsBetween_of_inAnyCase (l := ['n', 'a', 'm', 'e']) (by decide) hkey).altLeft
    (Pattern.lit "group".toList).ignoringCase
  have hread := (((readsBetween_of_inAnyCase (l := ['"']) (by decide) hquote).seq
    ((Pattern.ReadsBetween.run true hvalue hset (Nat.zero_le _)).group 2)).seq
      (readsBetween_of_inAnyCase (l := ['"']) (by decide) hend))
  exact ⟨_, _, ((((((Pattern.ReadsBetween.run true hrest hblank (Nat.zero_le _)).seq (readsBetween_anchor hedge)).seq
    (hname.group 1)).seq (readsBetween_no_blanks hequals)).seq (readsBetween_of_inAnyCase (l := ['=']) (by decide) hequals)).seq
      (readsBetween_no_blanks hquote)).seq (hread.altLeft _)⟩

theorem matchAt?_assignment (hbody : '"' ∉ body) (r : Text) :
    assignment.matchAt? (.start (nameAttribute body ++ r)) = some (nameMatch body) := by
  rcases readsBetween_nameAttribute body r hbody with ⟨w, k, hreads⟩
  rcases hreads [] with ⟨gs, hreads⟩
  rcases Option.ne_none_iff_exists'.mp (hreads.matchAt?_ne_none (by decide)) with ⟨m, hm⟩
  rcases Pattern.exists_of_matchAt? hm with ⟨w, s, hw, rfl⟩
  rcases nameMatch_of_reads hbody hw with ⟨rfl, hgroups⟩
  have hlength : 0 + (nameAttribute body).length = 7 + body.length + 1 := by
    show 0 + (" name=\"".toList ++ (body ++ ['"'])).length = _
    simp only [List.length_append, List.length_singleton, Nat.zero_add, ← Nat.add_assoc]
    rfl
  rw [hm, hgroups]
  show some (⟨⟨0, 0 + (nameAttribute body).length⟩, (nameMatch body).groups⟩ : Match) = _
  rw [hlength]
  rfl

end Names

section Attributes

variable {f r g : Footnote} {body name other a v x : Text} {t : Text} {c : Char}

theorem getLast?_nameAttribute (name : Text) : (nameAttribute name).getLast? = some '"' := by
  show (" name=\"".toList ++ (name ++ ['"'])).getLast? = _
  rw [← List.append_assoc, List.getLast?_concat]

/-- The assignments behind a written name are those of the other attributes. -/
theorem matchList_nameAttribute (hbody : '"' ∉ body) (hx : forall c, c ∈ x -> c = ' ') :
    assignment.matchList (nameAttribute body ++ (v ++ x)) =
      nameMatch body :: (assignment.matchList v).map (·.shift (nameAttribute body).length) := by
  refine (endsBefore_assignment hx).matchList_append (matchAt?_assignment hbody _) ?_ (List.cons_ne_nil _ _) ?_
  · show 7 + body.length + 1 = (" name=\"".toList ++ (body ++ ['"'])).length
    simp only [List.length_append, List.length_singleton, ← Nat.add_assoc]
    rfl
  · intro c hc
    rw [getLast?_nameAttribute] at hc
    rw [← Option.some.inj hc]
    decide

theorem key_nameMatch (body r : Text) : (nameMatch body).text (nameAttribute body ++ r) 1 = "name".toList := by
  rw [nameAttribute_append]
  rfl

/-- A name that is written is read up to the first quotation mark. -/
theorem name?_eq (hbody : '"' ∉ body) (hf : f.attributes = nameAttribute body ++ v) : f.name? = some body := by
  have hlist := matchList_nameAttribute (v := v) hbody (List.forall_mem_nil (· = ' '))
  rw [List.append_nil, ← hf] at hlist
  have hkey : ((nameMatch body).text f.attributes 1).sameIgnoringCase "name" = true := by
    rw [hf, key_nameMatch]
    decide
  have hvalue : f.value (nameMatch body) = body := by
    have hslice : f.attributes.slice ⟨7, 7 + body.length⟩ = body := by
      refine Text.slice_of_eq_append (u := " name=\"".toList) (v := '"' :: v) ?_ rfl
      rw [hf, nameAttribute_append]
      rfl
    have htext : (nameMatch body).text? f.attributes 2 = some body := congrArg some hslice
    rw [value, List.findSome?_cons, htext]
    rfl
  have hfirst := List.filter_cons_of_pos (p := fun m : Match => (m.text f.attributes 1).sameIgnoringCase "name")
    (l := (assignment.matchList v).map (·.shift (nameAttribute body).length)) hkey
  rw [name?, attributesNamed, hlist, hfirst, List.head?_cons, Option.map_some, hvalue]

/-- A group of a match is read in a longer text where the match is shifted to. -/
theorem text_shift {p : Pattern} {u v x : Text} {m : Match} {i : Nat} (hm : m ∈ p.matchList v) (hi : i ≠ 0) :
    (m.shift u.length).text (u ++ (v ++ x)) i = m.text v i := by
  rcases (Pattern.inOrder_matchList p v).matched m hm with ⟨w, s, hmatched⟩
  have hwithin : forall e, e ∈ m.groups -> e.2.stop ≤ v.length := by
    intro e he
    rw [hmatched.groups_eq] at he
    rcases hmatched.reads.groups_within e he with hnil | ⟨-, hstop⟩
    · cases hnil
    · refine hstop.trans ?_
      have hplace : s.place = m.start + w.length := hmatched.reads.advances.2
      rw [hplace, ← hmatched.stop_eq]
      exact hmatched.stop_le
  have hslice : forall {s : Span}, s.stop ≤ v.length -> (u ++ (v ++ x)).slice (s.shift u.length) = v.slice s := by
    intro s hs
    have hsize : (s.shift u.length).size = s.size := Nat.add_sub_add_right s.stop u.length s.start
    have hdrop : (u ++ (v ++ x)).drop (s.start + u.length) = (v ++ x).drop s.start := by
      rw [Nat.add_comm, ← List.drop_drop, List.drop_left]
    refine Eq.trans ?_ (slice_append_left (r := x) hs)
    rw [Text.slice, Text.slice, hsize]
    exact congrArg (List.take s.size) hdrop
  rw [Match.text, Match.text, Match.text?, Match.text?, Match.group?, Match.group?, if_neg hi, if_neg hi]
  have hlookup : ((m.shift u.length).groups.lookup i).map (u ++ (v ++ x)).slice = (m.groups.lookup i).map v.slice := by
    show ((m.groups.map fun g => (g.1, g.2.shift u.length)).lookup i).map _ = _
    generalize m.groups = groups at hwithin
    induction groups with
    | nil => rfl
    | cons e groups ih =>
        rcases List.forall_mem_cons.mp hwithin with ⟨hfirst, hrest⟩
        rw [List.map_cons, List.lookup_cons, List.lookup_cons]
        cases i == e.1 with
        | true => exact congrArg some (hslice hfirst)
        | false => exact ih hrest
  rw [hlookup]

/-- Behind a name that is written whole, there is a group only if the other attributes have one. -/
theorem hasGroup_eq (hname : '"' ∉ name) (hx : forall c, c ∈ x -> c = ' ')
    (hf : f.attributes = nameAttribute name ++ (g.attributes ++ x)) : f.hasGroup = g.hasGroup := by
  have hlist := matchList_nameAttribute (v := g.attributes) hname hx
  rw [← hf] at hlist
  have hkey : ¬ ((nameMatch name).text f.attributes 1).sameIgnoringCase "group" = true := by
    rw [hf, key_nameMatch]
    decide
  have hsame : forall m, m ∈ assignment.matchList g.attributes ->
      ((m.shift (nameAttribute name).length).text f.attributes 1).sameIgnoringCase "group" =
        (m.text g.attributes 1).sameIgnoringCase "group" := by
    intro m hm
    rw [hf, text_shift hm (by decide)]
  have hfirst := List.filter_cons_of_neg (p := fun m : Match => (m.text f.attributes 1).sameIgnoringCase "group")
    (l := (assignment.matchList g.attributes).map (·.shift (nameAttribute name).length)) hkey
  rw [hasGroup, hasGroup, attributesNamed, attributesNamed, hlist, hfirst, List.filter_map, List.isEmpty_map,
    Function.comp_def, List.filter_congr hsame]

/-!
# Attributes that are read
-/

theorem mem_of_mem_slice {s : Span} (h : c ∈ t.slice s) : c ∈ t :=
  List.mem_of_mem_drop (List.mem_of_mem_take h)

/-- A name is a part of the attributes. -/
theorem mem_of_mem_name (hn : g.name? = some name) (h : c ∈ name) : c ∈ g.attributes := by
  rcases Option.map_eq_some_iff.mp hn with ⟨m, -, rfl⟩
  rw [value] at h
  cases hvalue : ([2, 3, 4] : List Nat).findSome? (m.text? g.attributes) with
  | none =>
      rw [hvalue] at h
      cases h
  | some value =>
      rw [hvalue] at h
      rcases List.exists_of_findSome?_eq_some hvalue with ⟨i, -, hi⟩
      rcases Option.map_eq_some_iff.mp hi with ⟨s, -, rfl⟩
      exact mem_of_mem_slice h

/-- The other attributes are left of the attributes when some are taken out. -/
theorem mem_of_mem_otherAttributes (h : c ∈ f.otherAttributes) : c ∈ f.attributes := by
  have hkept : c ∈ Edit.applyAll f.attributes ((f.attributesNamed "name").map fun m => ⟨m.span, []⟩) := by
    rw [← Text.trimRightBy_append (Edit.applyAll _ _) Chars.isBlank]
    exact List.mem_append_left _ h
  rcases mem_of_mem_applyFrom hkept with hmem | ⟨e, he, hmem⟩
  · exact hmem
  · rcases List.mem_map.mp he with ⟨m, -, rfl⟩
    cases hmem

theorem getLast?_otherAttributes (h : f.otherAttributes.getLast? = some c) : Chars.isBlank c = false := by
  rw [otherAttributes, Text.trimRight, Text.trimRightBy, List.getLast?_reverse] at h
  have hkept := List.head?_dropWhile_not Chars.isBlank
    (Edit.applyAll f.attributes ((f.attributesNamed "name").map fun m => ⟨m.span, []⟩)).reverse
  rw [h] at hkept
  exact hkept

theorem names_iff (hx : forall c, c ∈ x -> c = ' ') (hf : f.attributes = nameAttribute name ++ (g.attributes ++ x)) :
    f.name? = some name ∧ f.hasGroup = false <-> '"' ∉ name ∧ g.hasGroup = false := by
  by_cases hmem : '"' ∈ name
  · rcases List.eq_append_cons_of_mem hmem with ⟨body, rest, rfl, hbody⟩
    have hattributes : f.attributes = nameAttribute body ++ (rest ++ '"' :: (g.attributes ++ x)) := by
      rw [hf, nameAttribute_append, nameAttribute_append]
      simp
    have hne : f.name? ≠ some (body ++ '"' :: rest) := by
      rw [name?_eq hbody hattributes]
      simp
    exact ⟨fun h => absurd h.1 hne, fun h => absurd hmem h.1⟩
  · rw [name?_eq hmem hf, hasGroup_eq hmem hx hf]
    simp [hmem]

end Attributes

/-!
# Forms that are read back
-/

section Forms

variable {t c : Text} {r g : Footnote} {name : Text}

theorem opening_append (r : Footnote) (name rest : Text) : r.opening (some name) ++ rest =
    "<ref".toList ++ ((nameAttribute name ++ r.otherAttributes) ++ rest) := by
  show "<ref".toList ++ " name=\"".toList ++ name ++ ['"'] ++ r.otherAttributes ++ rest =
    "<ref".toList ++ ((" name=\"".toList ++ (name ++ ['"']) ++ r.otherAttributes) ++ rest)
  simp only [List.append_assoc]

theorem render_reference (r : Footnote) (name : Text) : r.render ⟨some name, none⟩ =
    "<ref".toList ++ ((nameAttribute name ++ r.otherAttributes) ++ " />".toList) :=
  opening_append r name _

theorem render_full (r : Footnote) (name c : Text) : r.render ⟨some name, some c⟩ =
    "<ref".toList ++ ((nameAttribute name ++ r.otherAttributes) ++ '>' :: (c ++ "</ref>".toList)) := by
  rw [← opening_append]
  show r.opening (some name) ++ ['>'] ++ c ++ "</ref>".toList = _
  rw [List.append_assoc, List.append_assoc]
  rfl

/-- The attributes with a name are open if the other attributes are. -/
theorem isOpen_nameAttribute_iff (r : Footnote) (name : Text) :
    IsOpen (nameAttribute name ++ r.otherAttributes) <-> r.otherAttributes.getLast? ≠ some '/' := by
  have hlast : (nameAttribute name ++ r.otherAttributes).getLast? = r.otherAttributes.getLast?.or (some '"') := by
    rw [List.getLast?_append, getLast?_nameAttribute]
  rw [isOpen_iff, hlast]
  · cases r.otherAttributes.getLast? with
    | none => decide
    | some c => rfl
  · intro c hc
    rw [hlast] at hc
    cases hother : r.otherAttributes.getLast? with
    | none =>
        rw [hother] at hc
        cases hc
        decide
    | some d =>
        rw [hother] at hc
        cases hc
        exact getLast?_otherAttributes hother

/-- The name and the group that are read where a name is written in front of the other attributes. -/
theorem names_iff_of_written {f : Footnote} {x : Text} (hx : forall c, c ∈ x -> c = ' ')
    (hf : f.attributes = (nameAttribute name ++ r.otherAttributes) ++ x) :
    f.name? = some name ∧ f.hasGroup = false <->
      '"' ∉ name ∧ ({ r with attributes := r.otherAttributes } : Footnote).hasGroup = false :=
  names_iff (g := { r with attributes := r.otherAttributes }) hx (hf.trans (List.append_assoc _ _ _))

theorem bracket_not_mem_written (hr : r ∈ all t) (hg : g ∈ all t) (hname : g.name? = some name) :
    '>' ∉ nameAttribute name ++ r.otherAttributes := by
  rcases begins_of_mem_all hr with ⟨u, v, hbegins⟩
  rcases begins_of_mem_all hg with ⟨u', v', hbegins'⟩
  rw [nameAttribute_append]
  simp only [List.mem_cons, List.mem_append, not_or]
  refine ⟨by decide, by decide, by decide, by decide, by decide, by decide, by decide, ?_, by decide, ?_⟩
  · exact fun hmem => hbegins'.bracket_not_mem (mem_of_mem_name hname hmem)
  · exact fun hmem => hbegins.bracket_not_mem (mem_of_mem_otherAttributes hmem)

theorem head?_written (r : Footnote) (name : Text) : (nameAttribute name ++ r.otherAttributes).head? = some ' ' := by
  rw [nameAttribute_append, List.head?_cons]

/-- What is asked of the only footnote of a text. -/
theorem exists_eq_singleton_iff {u : Text} {f : Footnote} {content : Option Text} (hall : all u = [f])
    (hcontent : f.content = content) :
    (exists f, all u = [f] ∧ f.name? = some name ∧ f.hasGroup = false ∧ f.content = content) <->
      f.name? = some name ∧ f.hasGroup = false := by
  rw [hall]
  constructor
  · rintro ⟨f', heq, hname, hgroup, -⟩
    cases heq
    exact ⟨hname, hgroup⟩
  · rintro ⟨hname, hgroup⟩
    exact ⟨f, rfl, hname, hgroup, hcontent⟩

/-- A reference by name is read back just if the name has no quotation mark and the other attributes have no group when
they stand together. -/
theorem all_render_reference_iff (hr : r ∈ all t) (hg : g ∈ all t) (hname : g.name? = some name) :
    (exists f, all (r.render ⟨some name, none⟩) = [f] ∧ f.name? = some name ∧ f.hasGroup = false ∧
        f.content = none) <->
      '"' ∉ name ∧ ({ r with attributes := r.otherAttributes } : Footnote).hasGroup = false := by
  rcases exists_of_reference (bracket_not_mem_written hr hg hname) (head?_written r name) with
    ⟨f, hall, hattributes, hnone⟩
  rw [render_reference, exists_eq_singleton_iff hall hnone]
  exact names_iff_of_written (List.forall_mem_singleton.mpr rfl) hattributes

/-- With its content, the other attributes may also not end with the sign of a closed element. -/
theorem all_render_full_iff (hr : r ∈ all t) (hg : g ∈ all t) (hname : g.name? = some name)
    (hcontent : r.content = some c) :
    (exists f, all (r.render ⟨some name, some c⟩) = [f] ∧ f.name? = some name ∧ f.hasGroup = false ∧
        f.content = some c) <->
      '"' ∉ name ∧ ({ r with attributes := r.otherAttributes } : Footnote).hasGroup = false ∧
        r.otherAttributes.getLast? ≠ some '/' := by
  have hbracket := bracket_not_mem_written hr hg hname
  have hfront := head?_written r name
  rw [render_full, ← isOpen_nameAttribute_iff r name]
  by_cases hopen : IsOpen (nameAttribute name ++ r.otherAttributes)
  · rcases begins_of_mem_all hr with ⟨u, v, hbegins⟩
    rw [hcontent] at hbegins
    cases hbegins with
    | full _ _ _ hw =>
        rcases exists_of_full hbracket hfront hopen hw with ⟨f, hall, hattributes, hsome⟩
        have hf := names_iff_of_written (List.forall_mem_nil _) (hattributes.trans (List.append_nil _).symm)
        rw [exists_eq_singleton_iff hall hsome, hf]
        exact and_congr_right fun _ => (and_iff_left hopen).symm
  · -- What is written as the end of the attributes is read as the end of a closed element.
    rcases exists_of_not_isOpen hbracket hfront hopen c with ⟨f, hmem, hnone⟩
    refine iff_of_false ?_ fun h => hopen h.2.2
    rintro ⟨f', heq, -, -, hsome⟩
    rw [heq] at hmem
    rw [← List.mem_singleton.mp hmem, hnone] at hsome
    cases hsome

/-- What is read of a footnote that is written with a name of the same text.  It is the footnote that was meant just if
the name has no quotation mark, the other attributes have no group when they stand together, and they do not end with the
sign of a closed element in front of a content. -/
theorem all_render_eq_singleton_iff (hr : r ∈ all t) (hg : g ∈ all t) (hname : g.name? = some name)
    (selfClosing : Bool) :
    (exists f, all (r.render ⟨some name, if selfClosing then none else r.content⟩) = [f] ∧ f.name? = some name ∧
        f.hasGroup = false ∧ f.content = if selfClosing then none else r.content) <->
      '"' ∉ name ∧ ({ r with attributes := r.otherAttributes } : Footnote).hasGroup = false ∧
        (selfClosing = true ∨ r.content = none ∨ r.otherAttributes.getLast? ≠ some '/') := by
  have hcontent : (if selfClosing then none else r.content) = none <-> selfClosing = true ∨ r.content = none := by
    cases selfClosing <;> simp
  rw [← or_assoc, ← hcontent]
  cases hwritten : (if selfClosing then none else r.content) with
  | none =>
      rw [all_render_reference_iff hr hg hname]
      exact and_congr_right fun _ => (and_iff_left (Or.inl rfl)).symm
  | some c =>
      have hread : r.content = some c := by
        cases selfClosing with
        | true => cases hwritten
        | false => exact hwritten
      rw [all_render_full_iff hr hg hname hread]
      exact and_congr_right fun _ => and_congr_right fun _ => (or_iff_right nofun).symm

end Forms

/-- A footnote with another attribute in front of its name. -/
def noteWithLanguage : Text :=
  "<ref lang='es' name=a>x</ref>"

theorem all_noteWithLanguage : all noteWithLanguage = [⟨⟨0, 29⟩, " lang='es' name=a", some "x"⟩] := by
  have hignored : ignored noteWithLanguage = [] := ignored_eq_mergeSorted [] (by decide +kernel) (by decide)
  rw [all, hignored]
  decide +kernel

theorem all_render_eq_singleton_iff_noteWithLanguage :
    (⟨⟨0, 29⟩, " lang='es' name=a", some "x"⟩ : Footnote) ∈ all noteWithLanguage ∧
      (⟨⟨0, 29⟩, " lang='es' name=a", some "x"⟩ : Footnote).name? = some ['a'] ∧
      exists f, all ((⟨⟨0, 29⟩, " lang='es' name=a", some "x"⟩ : Footnote).render ⟨some ['a'], some "x"⟩) = [f] ∧
        f.name? = some ['a'] ∧ f.hasGroup = false ∧ f.content = some ['x'] := by
  have hmem : (⟨⟨0, 29⟩, " lang='es' name=a", some "x"⟩ : Footnote) ∈ all noteWithLanguage := by
    rw [all_noteWithLanguage]
    exact List.mem_singleton_self _
  have hname : (⟨⟨0, 29⟩, " lang='es' name=a", some "x"⟩ : Footnote).name? = some ['a'] := by decide +kernel
  refine ⟨hmem, hname, (all_render_eq_singleton_iff hmem hmem hname false).mpr ⟨by decide, by decide +kernel, ?_⟩⟩
  exact Or.inr (Or.inr (by decide +kernel))

/-- A footnote whose name, between apostrophes, has a quotation mark. -/
def noteWithQuote : Text :=
  "<ref name='a\"b'>x</ref>"

theorem all_noteWithQuote : all noteWithQuote = [⟨⟨0, 23⟩, " name='a\"b'", some "x"⟩] := by
  have hignored : ignored noteWithQuote = [] := ignored_eq_mergeSorted [] (by decide +kernel) (by decide)
  rw [all, hignored]
  decide +kernel

/-- A name that is read between apostrophes is written between quotation marks, and read up to the first one. -/
theorem not_forall_render_reads_back :
    ¬ forall (t name : Text) (r g : Footnote) (selfClosing : Bool), r ∈ all t -> r.hasGroup = false -> g ∈ all t ->
      g.name? = some name -> name ≠ [] ->
      exists f, all (r.render ⟨some name, if selfClosing then none else r.content⟩) = [f] ∧ f.name? = some name ∧
        f.hasGroup = false ∧ f.content = if selfClosing then none else r.content := by
  intro h
  have hmem : (⟨⟨0, 23⟩, " name='a\"b'", some "x"⟩ : Footnote) ∈ all noteWithQuote := by
    rw [all_noteWithQuote]
    exact List.mem_singleton_self _
  rcases h noteWithQuote "a\"b" _ _ false hmem (by decide +kernel) hmem (by decide +kernel) (by decide) with
    ⟨f, hall, hname, -⟩
  have hrender : (⟨⟨0, 23⟩, " name='a\"b'", some "x"⟩ : Footnote).render ⟨some "a\"b", some "x"⟩ =
      "<ref name=\"a\"b\">x</ref>".toList := by
    decide +kernel
  have hignored : ignored "<ref name=\"a\"b\">x</ref>" = [] := ignored_eq_mergeSorted [] (by decide +kernel) (by decide)
  have hread : all "<ref name=\"a\"b\">x</ref>" = [⟨⟨0, 23⟩, " name=\"a\"b\"", some "x"⟩] := by
    rw [all, hignored]
    decide +kernel
  have hf : [f] = [⟨⟨0, 23⟩, " name=\"a\"b\"", some "x"⟩] := hall.symm.trans ((congrArg all hrender).trans hread)
  rw [(List.cons.inj hf).1] at hname
  exact absurd hname (by decide +kernel)

end Footnote
end WikiEntry
