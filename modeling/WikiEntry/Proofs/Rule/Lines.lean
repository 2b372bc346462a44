import WikiEntry.Rule.LineJoining
import WikiEntry.Rule.LineTemplates
import WikiEntry.Proofs.Region.Blanks
import WikiEntry.Proofs.Region.Revision
import WikiEntry.Proofs.Rule.Outcome
import WikiEntry.Proofs.Template.Nesting

/-!
# Breaking and joining lines

A template that begins a line gets a newline in front of it, and one that stands on a line of its own takes the place of
the markers, spaces and newlines around it, too.  Each of these edits begins where the one before it has ended or later,
so that lines are broken without anything else being lost, doubled or moved.

Lines are joined in three rewrites.  The first two touch white space and colons only; the last one takes out the mark that
the second one has put behind definitions, and with it every such mark that the page had before.
-/

namespace WikiEntry
namespace LineTemplates

/-- Spaces, tabs, newlines and the markers of lists. -/
def isLayout (c : Char) : Bool :=
  (" \t\n:;*#" : Text).contains c

def withoutLayout (t : Text) : Text :=
  t.filter fun c => !isLayout c

theorem withoutLayout_append (t u : Text) : withoutLayout (t ++ u) = withoutLayout t ++ withoutLayout u :=
  List.filter_append ..

theorem withoutLayout_eq_nil_iff {t : Text} : withoutLayout t = [] <-> forall c, c ∈ t -> isLayout c = true := by
  simp only [withoutLayout, List.filter_eq_nil_iff, Bool.not_eq_true', Bool.not_eq_false]

theorem withoutLayout_newline : withoutLayout ['\n'] = [] := by
  simp [withoutLayout_eq_nil_iff, isLayout]

theorem isLayout_of_isMarker {c : Char} (h : isMarker c = true) : isLayout c = true := by
  simp only [isMarker, Bool.or_eq_true, decide_eq_true_eq] at h
  rcases h with (((rfl | rfl) | rfl) | rfl) | rfl <;> simp [isLayout]

/-!
# Layout around a template
-/

/-- There is nothing but layout between two places. -/
structure LayoutBetween (t : Text) (a b : Nat) : Prop where
  le : a ≤ b
  nothing : withoutLayout (t.slice ⟨a, b⟩) = []

section Around

variable {t : Text} {last a b c : Nat} {s : Span}

theorem LayoutBetween.trans (hab : LayoutBetween t a b) (hbc : LayoutBetween t b c) : LayoutBetween t a c := by
  refine ⟨Nat.le_trans hab.le hbc.le, ?_⟩
  rw [← Edit.slice_append_slice t hab.le hbc.le, withoutLayout_append, hab.nothing, hbc.nothing]
  rfl

theorem layoutBetween_newline (h : t[a]? = some '\n') : LayoutBetween t a (a + 1) := by
  refine ⟨Nat.le_succ a, ?_⟩
  rcases List.getElem?_eq_some_iff.mp h with ⟨hlt, hnewline⟩
  have hslice : t.slice ⟨a, a + 1⟩ = ['\n'] := by
    rw [Text.slice, List.drop_eq_getElem_cons hlt, hnewline, Span.size, Nat.add_sub_cancel_left]
    rfl
  rw [hslice, withoutLayout_newline]

theorem layoutBetween_spaces (t : Text) (a : Nat) :
    LayoutBetween t a (a + ((t.drop a).takeWhile (· = ' ')).length) := by
  refine ⟨Nat.le_add_right _ _, withoutLayout_eq_nil_iff.mpr fun c hc => ?_⟩
  have hslice : t.slice ⟨a, a + ((t.drop a).takeWhile (· = ' ')).length⟩ = (t.drop a).takeWhile (· = ' ') := by
    rw [Text.slice, Span.size, Nat.add_sub_cancel_left]
    exact (List.prefix_iff_eq_take.mp (List.takeWhile_prefix _)).symm
  rw [hslice] at hc
  have hspace := List.mem_takeWhile_imp hc
  exact isLayout_of_isMarker (by rw [of_decide_eq_true hspace]; decide)

theorem length_markers_le (t : Text) (last a : Nat) :
    ((t.slice ⟨last, a⟩).reverse.takeWhile isMarker).length ≤ a - last := by
  have hcount := (List.takeWhile_prefix (l := (t.slice ⟨last, a⟩).reverse) isMarker).length_le
  rw [List.length_reverse] at hcount
  exact Nat.le_trans hcount (List.length_take_le _ _)

/-- The markers in front of a place, back to `last`, are the piece of the text that ends there. -/
theorem layoutBetween_markers (hlast : last ≤ a) (ha : a ≤ t.length) :
    LayoutBetween t (a - ((t.slice ⟨last, a⟩).reverse.takeWhile isMarker).length) a := by
  refine ⟨Nat.sub_le _ _, withoutLayout_eq_nil_iff.mpr fun c hc => ?_⟩
  have hcount := length_markers_le t last a
  generalize hbefore : t.slice ⟨last, a⟩ = before at hcount hc
  have hsplit : t.slice ⟨last, a - (before.reverse.takeWhile isMarker).length⟩ ++
      t.slice ⟨a - (before.reverse.takeWhile isMarker).length, a⟩ =
        (before.reverse.dropWhile isMarker).reverse ++ (before.reverse.takeWhile isMarker).reverse := by
    rw [Edit.slice_append_slice t (by omega) (Nat.sub_le _ _), hbefore, ← List.reverse_append,
      List.takeWhile_append_dropWhile, List.reverse_reverse]
  have hsize : (t.slice ⟨a - (before.reverse.takeWhile isMarker).length, a⟩).length =
      (before.reverse.takeWhile isMarker).reverse.length := by
    rw [Edit.length_slice ha, List.length_reverse]
    exact Nat.sub_sub_self (Nat.le_trans hcount (Nat.sub_le _ _))
  rw [List.append_inj_right' hsplit hsize, List.mem_reverse] at hc
  exact isLayout_of_isMarker (List.mem_takeWhile_imp hc)

end Around

/-!
# The edits
-/

/-- The edit takes in the span and begins behind `last`; it changes nothing but layout. -/
structure LaysOut (t : Text) (last : Nat) (s : Span) (e : Edit) : Prop where
  last_le : last ≤ e.span.start
  start_le : e.span.start ≤ s.start
  le_stop : s.stop ≤ e.span.stop
  same : withoutLayout e.text = withoutLayout (t.slice e.span)

section Edits

variable {t : Text} {ignored : List Span} {last : Nat} {previous : Option Nat} {s : Span} {e : Edit}
  {found : List (Span × Template)}

theorem laysOut_of_startLine? (hlast : last ≤ s.start) (h : startLine? t s = some e) :
    LaysOut t last s e ∧ e.span = s := by
  rw [startLine?] at h
  split at h
  · cases h
  · cases h
    refine ⟨⟨hlast, Nat.le_refl _, Nat.le_refl _, ?_⟩, rfl⟩
    rw [← List.singleton_append, withoutLayout_append, withoutLayout_newline]
    rfl

theorem laysOut_of_isolate? (hlast : last ≤ s.start) (hspan : s.start ≤ s.stop) (hstop : s.stop ≤ t.length)
    (h : isolate? t last previous s = some e) : LaysOut t last s e := by
  have hmarkers := layoutBetween_markers hlast (Nat.le_trans hspan hstop)
  have hspaces := layoutBetween_spaces t s.stop
  have hbehind : last ≤ s.start - ((t.slice ⟨last, s.start⟩).reverse.takeWhile isMarker).length := by
    have := length_markers_le t last s.start
    omega
  simp only [isolate?] at h
  generalize s.start - ((t.slice ⟨last, s.start⟩).reverse.takeWhile isMarker).length = markers at h hmarkers hbehind
  generalize s.stop + ((t.drop s.stop).takeWhile (· = ' ')).length = spaces at h hspaces
  generalize hstart : (if decide (0 < markers) && t[markers - 1]? == some '\n' && decide (last ≤ markers - 1) then
    markers - 1 else markers) = start at h
  generalize hend : (if t[spaces]? == some '\n' then spaces + 1 else spaces) = stop at h
  have hfront : last ≤ start ∧ LayoutBetween t start s.start := by
    split at hstart
    · rename_i hnewline
      simp only [Bool.and_eq_true, decide_eq_true_eq, beq_iff_eq] at hnewline
      rcases hnewline with ⟨⟨hpositive, hnewline⟩, hle⟩
      have hbefore := layoutBetween_newline hnewline
      rw [Nat.sub_add_cancel hpositive] at hbefore
      subst hstart
      exact ⟨hle, hbefore.trans hmarkers⟩
    · subst hstart
      exact ⟨hbehind, hmarkers⟩
  have hback : LayoutBetween t s.stop stop := by
    split at hend
    · rename_i hnewline
      subst hend
      exact hspaces.trans (layoutBetween_newline (beq_iff_eq.mp hnewline))
    · subst hend
      exact hspaces
  split at h
  · cases h
  · cases h
    refine ⟨hfront.1, hfront.2.le, hback.le, ?_⟩
    have hslice : withoutLayout (t.slice ⟨start, stop⟩) = withoutLayout (t.slice s) := by
      rw [← Edit.slice_append_slice t (Nat.le_trans hfront.2.le hspan) hback.le,
        ← Edit.slice_append_slice t hfront.2.le hspan, withoutLayout_append, withoutLayout_append, hfront.2.nothing,
        hback.nothing, List.append_nil, List.nil_append]
    have hnewline : forall b : Bool, withoutLayout (if b then [] else ['\n']) = [] := by
      intro b
      cases b with
      | true => rfl
      | false => exact withoutLayout_newline
    dsimp only
    rw [hslice, withoutLayout_append, withoutLayout_append, hnewline, hnewline, List.append_nil, List.nil_append]

/-- Every edit lays a template out anew, behind the end of the edit before it. -/
theorem splitEdits_spec (hfound : forall x, x ∈ found -> x.1.start ≤ x.1.stop ∧ x.1.stop ≤ t.length) :
    Edit.InOrder last (splitEdits t ignored last previous found) ∧
      forall e, e ∈ splitEdits t ignored last previous found ->
        withoutLayout e.text = withoutLayout (t.slice e.span) := by
  induction found generalizing last previous with
  | nil => exact ⟨trivial, List.forall_mem_nil _⟩
  | cons x found ih =>
      rcases x with ⟨s, u⟩
      rcases List.forall_mem_cons.mp hfound with ⟨⟨hspan, hstop⟩, hfound⟩
      have hcons : forall {e next previous'}, LaysOut t last s e -> e.span.stop = next ->
          Edit.InOrder last (e :: splitEdits t ignored next previous' found) ∧
            forall e', e' ∈ e :: splitEdits t ignored next previous' found ->
              withoutLayout e'.text = withoutLayout (t.slice e'.span) := by
        rintro e next previous' he rfl
        have hle : e.span.start ≤ e.span.stop := Nat.le_trans he.start_le (Nat.le_trans hspan he.le_stop)
        exact ⟨⟨he.last_le, hle, (ih hfound).1⟩, List.forall_mem_cons.mpr ⟨he.same, (ih hfound).2⟩⟩
      rw [splitEdits]
      split
      · exact ih hfound
      · rename_i hcovers
        rw [Bool.or_eq_true, not_or, decide_eq_true_eq, Nat.not_lt] at hcovers
        split
        · split
          · rename_i e he
            rcases laysOut_of_startLine? hcovers.1 he with ⟨hlays, rfl⟩
            exact hcons hlays rfl
          · exact ih hfound
        · split
          · split
            · rename_i e he
              exact hcons (laysOut_of_isolate? hcovers.1 hspan hstop he) rfl
            · exact ih hfound
          · exact ih hfound

end Edits

end LineTemplates

namespace Rule

open LineTemplates

/-- Whatever the text, breaking its lines moves, adds and removes nothing but spaces, tabs, newlines and the markers of
lists. -/
theorem lineBreaking_keeps_text {x : Context} {t : Text} {o : Outcome} (hrun : lineBreaking.run x t = .ok (some o)) :
    withoutLayout o.text = withoutLayout t := by
  have hfound : forall y, y ∈ Template.located t -> y.1.start ≤ y.1.stop ∧ y.1.stop ≤ t.length := by
    intro y hy
    have hwithin := Template.within_of_mem_spansFrom (Template.of_mem_located hy).1
    exact ⟨hwithin.start_lt_stop.le, by simpa using hwithin.le_last⟩
  rw [Outcome.text_of_of?_eq_some (Except.ok.inj hrun)]
  calc withoutLayout (Region.sanitizeBlanks (Edit.applyAll t (splitEdits t (Region.ignored t) 0 none (Template.located t))))
      = withoutLayout (Edit.applyAll t (splitEdits t (Region.ignored t) 0 none (Template.located t))) :=
        Region.filter_sanitizeBlanks (by simp [isLayout]) (by simp [isLayout])
    _ = withoutLayout t := Edit.filter_applyAll (splitEdits_spec hfound).1 (splitEdits_spec hfound).2

/-!
# A line to break
-/

def lineWithClear : Text :=
  "a: \x7b\x7bclear\x7d\x7d b"

def brokenLineWithClear : Text :=
  "a\n\x7b\x7bclear\x7d\x7d\nb"

theorem run_lineBreaking_lineWithClear (x : Context) :
    lineBreaking.run x lineWithClear = .ok (some ⟨brokenLineWithClear, some "dividiendo líneas"⟩) := by
  have hignored : Region.ignored lineWithClear = [] :=
    Region.ignored_eq_mergeSorted [] (by decide +kernel) (by decide)
  have hbroken : Region.ignored brokenLineWithClear = [] :=
    Region.ignored_eq_mergeSorted [] (by decide +kernel) (by decide)
  have hsplit : Edit.applyAll lineWithClear (splitEdits lineWithClear [] 0 none (Template.located lineWithClear)) =
      brokenLineWithClear := by
    decide +kernel
  have hsanitized : Region.sanitizeBlanks brokenLineWithClear = brokenLineWithClear :=
    Region.sanitizeBlanks_eq_self hbroken (by decide +kernel) (by decide +kernel) (by decide +kernel)
  show Except.ok (Outcome.of? lineWithClear (Region.sanitizeBlanks (Edit.applyAll lineWithClear
    (splitEdits lineWithClear (Region.ignored lineWithClear) 0 none (Template.located lineWithClear)))) _) = _
  rw [hignored, hsplit, hsanitized, Outcome.of?, if_pos (by decide +kernel)]

theorem lineBreaking_keeps_text_lineWithClear :
    lineBreaking.run ⟨.builtin, "a", false⟩ lineWithClear =
        .ok (some ⟨brokenLineWithClear, some "dividiendo líneas"⟩) ∧
      withoutLayout brokenLineWithClear = withoutLayout lineWithClear :=
  ⟨run_lineBreaking_lineWithClear _, lineBreaking_keeps_text (run_lineBreaking_lineWithClear ⟨.builtin, "a", false⟩)⟩

end Rule

/-!
# Joining lines
-/

namespace LineJoining

open Pattern

/-- White space and colons. -/
def isJoint (c : Char) : Bool :=
  Chars.isBlank c || c == ':'

def withoutJoints (t : Text) : Text :=
  t.filter fun c => !isJoint c

/-- What neither joining nor the mark of a pending colon touches. -/
def isFirm (c : Char) : Bool :=
  c ≠ pendingMark && !isJoint c

variable {t : Text}

theorem filter_isFirm (t : Text) : t.filter isFirm = (withoutJoints t).filter (· ≠ pendingMark) := by
  rw [withoutJoints, List.filter_filter]
  rfl

theorem filter_isFirm_eq_nil {w : Text} (h : forall c, c ∈ w -> isJoint c = true ∨ c = pendingMark) :
    w.filter isFirm = [] := by
  refine List.filter_eq_nil_iff.mpr fun c hc => ?_
  rcases h c hc with hjoint | rfl
  · simp [isFirm, hjoint]
  · simp [isFirm]

/-!
# Newlines of running text
-/

section Prose

variable {c : Config} {ignored footnotes blocked : List Span} {place first : Nat} {prev next : Text}
  {lines : List Text}

theorem drop_lineEnd (hlines : t.drop place = Text.joinWith "\n" (prev :: next :: lines)) :
    t.drop (place + prev.length) = '\n' :: Text.joinWith "\n" (next :: lines) := by
  rw [← List.drop_drop, hlines, Text.joinWith_cons (List.cons_ne_nil _ _), List.append_assoc, List.drop_left]
  rfl

/-- A line end and spaces that begin the next line. -/
theorem isJoint_of_mem_lineEnd (hlines : t.drop place = Text.joinWith "\n" (prev :: next :: lines)) {spaces : Nat}
    (hspaces : spaces ≤ (next.takeWhile (· = ' ')).length) :
    forall ch, ch ∈ t.slice ⟨place + prev.length, place + prev.length + 1 + spaces⟩ -> isJoint ch = true := by
  intro ch hch
  have hsize : Span.size ⟨place + prev.length, place + prev.length + 1 + spaces⟩ = spaces + 1 := by
    show place + prev.length + 1 + spaces - (place + prev.length) = spaces + 1
    omega
  have hnext : next <+: Text.joinWith "\n" (next :: lines) := by
    cases lines with
    | nil => exact List.prefix_rfl
    | cons l lines =>
        rw [Text.joinWith_cons (List.cons_ne_nil _ _), List.append_assoc]
        exact List.prefix_append _ _
  rw [Text.slice, hsize, drop_lineEnd hlines, List.take_succ_cons] at hch
  rcases List.mem_cons.mp hch with rfl | hch
  · decide
  · have hrun := ((List.takeWhile_prefix (l := next) (fun x => decide (x = ' '))).trans hnext)
    rcases hrun with ⟨rest, hrest⟩
    rw [← hrest, List.take_append_of_le_length hspaces] at hch
    have hspace := List.mem_takeWhile_imp (List.mem_of_mem_take hch)
    rw [of_decide_eq_true hspace]
    decide

/-- The edits go from line end to line end, and take in nothing but a newline and spaces that begin the next line. -/
theorem joinEdits_spec (hlines : t.drop place = Text.joinWith "\n" (prev :: lines)) (hfirst : first ≤ place + prev.length) :
    Edit.InOrder first (joinEdits c ignored footnotes blocked place (prev :: lines)) ∧
      forall e, e ∈ joinEdits c ignored footnotes blocked place (prev :: lines) ->
        e.text.filter isFirm = (t.slice e.span).filter isFirm := by
  induction lines generalizing place first prev with
  | nil => exact ⟨trivial, List.forall_mem_nil _⟩
  | cons next lines ih =>
      have hdrop : t.drop (place + prev.length + 1) = Text.joinWith "\n" (next :: lines) := by
        rw [← List.drop_drop, drop_lineEnd hlines]
        rfl
      have hlength := (List.takeWhile_prefix (l := next) (fun x => decide (x = ' '))).length_le
      rw [joinEdits]
      dsimp only
      split
      · generalize hspaces : (if Region.covers footnotes (place + prev.length) = true then _ else 0) = spaces
        have hle : spaces ≤ (next.takeWhile (· = ' ')).length := by
          rw [← hspaces]
          split
          · exact Nat.le_refl _
          · exact Nat.zero_le _
        have hnext : place + prev.length + 1 + spaces ≤ place + prev.length + 1 + next.length := by omega
        refine ⟨⟨hfirst, by dsimp only; omega, (ih hdrop hnext).1⟩, List.forall_mem_cons.mpr ⟨?_, (ih hdrop hnext).2⟩⟩
        rw [filter_isFirm_eq_nil fun ch hch => Or.inl (isJoint_of_mem_lineEnd hlines hle ch hch)]
        rfl
      · exact ih hdrop (by omega)

theorem filter_isFirm_joinProse (c : Config) (t : Text) : (joinProse c t).filter isFirm = t.filter isFirm := by
  have hlines : t.drop 0 = Text.joinWith "\n" (t.splitOn "\n") := (Text.joinWith_splitOn (by decide)).symm
  rcases List.exists_cons_of_ne_nil (Text.splitAtEach_ne_nil "\n" t 0 []) with ⟨prev, lines, hsplit⟩
  have hsplit : t.splitOn "\n" = prev :: lines := hsplit
  rw [hsplit] at hlines
  rw [joinProse, hsplit]
  rcases joinEdits_spec hlines (Nat.zero_le _) with ⟨horder, hsame⟩
  exact Edit.filter_applyAll horder hsame

end Prose

/-!
# The colons of a definition
-/

section Definitions

variable {m : Match} {w : Text} {s : ReadState} {colon : Span}

/-- The colons of a definition, and the blanks in front of them, stand inside of it. -/
structure ColonsAt (t : Text) (m : Match) (colon : Span) : Prop where
  start_le : m.start ≤ colon.start
  le : colon.start ≤ colon.stop
  le_stop : colon.stop ≤ m.stop
  joints : forall ch, ch ∈ t.slice colon -> isJoint ch = true

theorem colonsAt_of_matched (h : Matched Marks.definition t m w s) (hcolon : m.group? 3 = some colon) :
    ColonsAt t m colon := by
  rcases h.reads.seq_inv with ⟨_, _, _, hword, hreads, hend⟩
  rcases hend.anchor_inv with ⟨rfl, rfl, _⟩
  rcases hreads.seq_inv with ⟨_, meaning, s₅, rfl, hreads, htext⟩
  rcases hreads.seq_inv with ⟨front, colons, s₄, rfl, hreads, hcolons⟩
  have hplace : s₄.place = m.start + front.length := hreads.advances.2
  have hjoints : forall ch, ch ∈ colons -> isJoint ch = true := by
    rcases hcolons.group_inv with ⟨_, hgroup, _⟩
    rcases hgroup.seq_inv with ⟨blanks, signs, _, rfl, hblanks, hsigns⟩
    intro ch hch
    rcases List.mem_append.mp hch with hch | hch
    · rw [isJoint, show Chars.isBlank ch = true from hblanks.run_inv.1 ch hch, Bool.true_or]
    · rw [isJoint, ← beq_iff_eq.mp (hsigns.run_inv.1 ch hch), beq_self_eq_true, Bool.or_true]
  have hgroup : m.groups.lookup 3 = some ⟨s₄.place, s₄.place + colons.length⟩ := by
    rw [h.groups_eq, htext.group_groupless rfl, hcolons.group_groupless rfl]
    rfl
  have hspan : colon = ⟨s₄.place, s₄.place + colons.length⟩ :=
    Option.some.inj (hcolon.symm.trans hgroup)
  subst hspan
  refine ⟨?_, Nat.le_add_right _ _, ?_, ?_⟩
  · dsimp only
    omega
  · rw [h.stop_eq, hword]
    simp only [List.length_append]
    omega
  · rw [Text.slice_of_eq_append (u := t.take m.start ++ front) (v := meaning ++ s.cursor.rest)]
    · exact hjoints
    · conv_lhs => rw [← List.take_append_drop m.start t, h.rest_eq, hword]
      simp only [List.append_assoc, List.append_nil]
    · rw [hplace, List.length_append, List.length_take, Nat.min_eq_left h.start_le]

theorem filter_isFirm_joinDefinition {new : Text} (h : Matched Marks.definition t m w s)
    (hnew : joinDefinition t m = some new) : new.filter isFirm = w.filter isFirm := by
  rw [joinDefinition] at hnew
  split at hnew
  · rename_i colon meaning hcolon _
    have hat := colonsAt_of_matched h hcolon
    have hcut : (t.slice ⟨m.start, colon.start⟩ ++ ":" ++ t.slice ⟨colon.stop, m.stop⟩).filter isFirm =
        w.filter isFirm := by
      have hwhole : t.slice ⟨m.start, m.stop⟩ = w := h.slice_eq
      have hcolons : (t.slice colon).filter isFirm = [] :=
        filter_isFirm_eq_nil fun ch hch => Or.inl (hat.joints ch hch)
      rw [← hwhole, ← Edit.slice_append_slice t (Nat.le_trans hat.start_le hat.le) hat.le_stop,
        ← Edit.slice_append_slice t hat.start_le hat.le]
      simp only [List.filter_append, hcolons]
      rfl
    dsimp only at hnew
    generalize hjoined : (if (t.slice colon).contains '\n' = true then
      t.slice ⟨m.start, colon.start⟩ ++ ":" ++ t.slice ⟨colon.stop, m.stop⟩ else t.slice m.span) = joined at hnew
    have hsame : joined.filter isFirm = w.filter isFirm := by
      rw [← hjoined]
      split
      · exact hcut
      · rw [h.slice_eq]
    generalize hmarked : (if meaning.size == 0 && Text.startsWith (t.drop m.stop) "\n:" then joined ++ [pendingMark]
      else joined) = marked at hnew
    have hmark : marked.filter isFirm = joined.filter isFirm := by
      rw [← hmarked]
      split
      · rw [List.filter_append, filter_isFirm_eq_nil (w := [pendingMark]) (by simp), List.append_nil]
      · rfl
    split at hnew
    · cases hnew
    · rw [← Option.some.inj hnew, hmark, hsame]
  · cases hnew

theorem withoutJoints_joinDefinitions (t : Text) : withoutJoints (joinDefinitions t) = t.filter isFirm := by
  have hpending : forall s w s', Reads pendingColons s w s' -> ([] : Text).filter isFirm = w.filter isFirm := by
    intro s w s' hw
    rcases hw.seq_inv with ⟨_, colons, _, rfl, hw, hcolons⟩
    rcases hw.seq_inv with ⟨_, _, _, rfl, hmark, hnewline⟩
    rcases hmark.one_inv with ⟨ch, rfl, hch, _⟩
    rcases Reads.lit_inv (l := "\n") hnewline with ⟨rfl, _⟩
    refine (filter_isFirm_eq_nil fun ch' hch' => ?_).symm
    rcases List.mem_append.mp hch' with hch' | hch'
    · rcases List.mem_cons.mp hch' with rfl | hch'
      · exact Or.inr (beq_iff_eq.mp hch).symm
      · rw [List.mem_singleton.mp hch']
        exact Or.inl (by decide)
    · rw [← beq_iff_eq.mp (hcolons.run_inv.1 ch' hch')]
      exact Or.inl (by decide)
  rw [joinDefinitions, withoutJoints, List.filter_filter]
  calc List.filter (fun c => !isJoint c && decide (c ≠ pendingMark)) (pendingColons.replaceAll _ [])
      = (pendingColons.replaceAll (Region.reviseOutside t Marks.definition (joinDefinition t)) []).filter isFirm :=
        List.filter_congr fun c _ => Bool.and_comm _ _
    _ = (Region.reviseOutside t Marks.definition (joinDefinition t)).filter isFirm := filter_replaceAll hpending
    _ = t.filter isFirm := Region.filter_reviseOutside fun _ _ _ _ h hnew => filter_isFirm_joinDefinition h hnew

end Definitions

end LineJoining

namespace Rule

open LineJoining

/-- Joining lines takes nothing from a text but white space and colons, and the mark that it uses itself: what else there
is in the text is kept just if the mark is not in it. -/
theorem lineJoining_keeps_text_iff {x : Context} {t : Text} {o : Outcome} (hrun : lineJoining.run x t = .ok (some o)) :
    withoutJoints o.text = (withoutJoints t).filter (· ≠ pendingMark) ∧
      (withoutJoints o.text = withoutJoints t <-> pendingMark ∉ t) := by
  have hsame : withoutJoints o.text = (withoutJoints t).filter (· ≠ pendingMark) := by
    rw [Outcome.text_of_of?_eq_some (Except.ok.inj hrun), withoutJoints_joinDefinitions, filter_isFirm_joinProse,
      filter_isFirm]
  have hmark : pendingMark ∈ withoutJoints t <-> pendingMark ∈ t := by
    rw [withoutJoints, List.mem_filter]
    exact and_iff_left (by decide)
  refine ⟨hsame, ?_⟩
  rw [hsame, List.filter_eq_self, ← hmark]
  simp only [decide_eq_true_eq]
  exact ⟨fun h hmem => h _ hmem rfl, fun h c hc heq => h (heq ▸ hc)⟩

/-!
# A mark of the page's own
-/

def linesWithMark : Text :=
  "a\nb\ue000"

theorem run_lineJoining_linesWithMark :
    lineJoining.run ⟨.builtin, "a", false⟩ linesWithMark = .ok (some ⟨"a b", some "uniendo líneas"⟩) := by
  have hignored : Region.ignored linesWithMark = [] :=
    Region.ignored_eq_mergeSorted [] (by decide +kernel) (by decide)
  have hblocked : blocked linesWithMark = [] := by
    have hnone : (blockElements.map (Region.elements · linesWithMark) ++
        [Region.templates linesWithMark, Region.tables linesWithMark]).flatten = [] := by
      decide +kernel
    rw [blocked, Region.combine, hnone, List.mergeSort_nil]
    rfl
  have hprose : joinProse .builtin linesWithMark = "a b\ue000" := by
    rw [joinProse, hignored, hblocked]
    decide +kernel
  have hunmarked : Region.ignored "a b\ue000" = [] :=
    Region.ignored_eq_mergeSorted [] (by decide +kernel) (by decide)
  have hdefinitions : joinDefinitions "a b\ue000" = "a b" := by
    rw [joinDefinitions, Region.reviseOutside, hunmarked]
    decide +kernel
  show Except.ok (Outcome.of? linesWithMark (joinDefinitions (joinProse .builtin linesWithMark)) _) = _
  rw [hprose, hdefinitions, Outcome.of?, if_pos (by decide +kernel)]

theorem lineJoining_keeps_text_iff_linesWithMark :
    lineJoining.run ⟨.builtin, "a", false⟩ linesWithMark = .ok (some ⟨"a b", some "uniendo líneas"⟩) ∧
      withoutJoints "a b" = (withoutJoints linesWithMark).filter (· ≠ pendingMark) ∧
      (withoutJoints "a b" = withoutJoints linesWithMark <-> pendingMark ∉ linesWithMark) :=
  ⟨run_lineJoining_linesWithMark, lineJoining_keeps_text_iff run_lineJoining_linesWithMark⟩

/-- A page that holds the mark loses it. -/
theorem not_forall_lineJoining_keeps_text :
    ¬ forall x t o, lineJoining.run x t = .ok (some o) -> withoutJoints o.text = withoutJoints t := by
  intro h
  have hsame := h _ _ _ run_lineJoining_linesWithMark
  revert hsame
  decide +kernel

end Rule
end WikiEntry
