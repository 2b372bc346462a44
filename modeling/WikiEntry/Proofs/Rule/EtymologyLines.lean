import WikiEntry.Rule.EtymologyLines
import WikiEntry.Proofs.Region.Revision
import WikiEntry.Proofs.Template.Nesting
import WikiEntry.Proofs.Text.Trimming

/-!
# Cutting etymology lines out

Taking the etymology lines out of a text cuts it into pieces: what stays, the markers in front of a template, the line
from the template on, and the newline of a line of which nothing stays.  In their order the pieces are the text; only
markers and newlines are dropped.

Each cut ends where a line begins or ends.  So the line of the next template begins behind it, and the markers in front
of that template are never looked for in what was cut out before.
-/

namespace WikiEntry
namespace EtymologyLines

/-!
# Pieces
-/

/-- A line that is taken, with what is dropped around it and with the text in front that stays. -/
structure Cut where
  kept : Text
  markers : Text
  line : Text
  ending : Text

namespace Cut

def text (c : Cut) : Text :=
  c.kept ++ (c.markers ++ (c.line ++ c.ending))

/-- Where the line stands if the cut is made behind `front`. -/
def lineSpan (front : Text) (c : Cut) : Span :=
  ⟨(front ++ (c.kept ++ c.markers)).length, (front ++ (c.kept ++ c.markers)).length + c.line.length⟩

end Cut

def AtLineStart (front : Text) : Prop :=
  front.getLast?.all (· = '\n') = true

def AtLineEnd (behind : Text) : Prop :=
  behind.head?.all (· = '\n') = true

/-- A template for an etymology that begins in none of the ignored regions. -/
structure EtymologyAt (t : Text) (s : Span) : Prop where
  mem_spans : s ∈ Template.spans t
  not_ignored : Region.covers (Region.ignored t) s.start = false
  named : exists u, Template.parse? (t.slice s) = some u ∧
    (u.isNamed "etimología" = true ∨ u.isNamed "etimología2" = true)

/-- What follows a place on its line. -/
def restOfLine (t : Text) (place : Nat) : Text :=
  (t.drop place).takeWhile (· ≠ '\n')

def EndsMovably (t : Text) (s : Span) : Prop :=
  restOfLine t s.stop = [] ∨ isMovable (restOfLine t s.stop) = true

/-- A cut as it may be made between `front` and `behind`. -/
structure Cut.Proper (t front : Text) (c : Cut) (behind : Text) : Prop where
  markers : forall ch, ch ∈ c.markers -> isMarker ch = true
  /-- All markers in front of the line are dropped. -/
  all_markers : forall ch, (front ++ c.kept).getLast? = some ch -> isMarker ch = false
  /-- The line begins with an etymology template and goes on to its end. -/
  line : exists s, EtymologyAt t s ∧ s.start = (c.lineSpan front).start ∧ EndsMovably t s ∧
    c.line = t.slice s ++ restOfLine t s.stop
  /-- The newline is dropped with a line of which nothing stays, and with no other one. -/
  ending : (c.ending = ['\n'] ∧ AtLineStart (front ++ c.kept)) ∨
    (c.ending = [] ∧ AtLineEnd behind ∧ (AtLineStart (front ++ c.kept) -> behind = []))

/-- Behind `front` the text is made up of the cuts and a rest, and what is left of it and the lines are their pieces. -/
structure CutUp (t front left : Text) (lines : List Text) (cuts : List Cut) (rest : Text) : Prop where
  text_eq : t = front ++ (cuts.flatMap Cut.text ++ rest)
  left_eq : left = cuts.flatMap Cut.kept ++ rest
  lines_eq : lines = cuts.map Cut.line
  proper : forall earlier c later, cuts = earlier ++ c :: later ->
    c.Proper t (front ++ earlier.flatMap Cut.text) (later.flatMap Cut.text ++ rest)

/-- The place lies in the line of one of the cuts. -/
def InLine (front : Text) (cuts : List Cut) (place : Nat) : Prop :=
  exists earlier c later, cuts = earlier ++ c :: later ∧
    (c.lineSpan (front ++ earlier.flatMap Cut.text)).holds place = true

/-- Every template that begins before this one ends before it. -/
def Outermost (t : Text) (s : Span) : Prop :=
  forall s', s' ∈ Template.spans t -> s'.start < s.start -> s'.stop ≤ s.start

variable {t : Text} {s : Span}

/-!
# In front of a template
-/

def AtLineEdge (front behind : Text) : Prop :=
  AtLineStart front ∨ AtLineEnd behind

/-- What stands in front of a place on its line. -/
def frontOfLine (before : Text) : Text :=
  (before.reverse.takeWhile (· ≠ '\n')).reverse

def frontMarkers (before : Text) : Text :=
  ((frontOfLine before).reverse.takeWhile isMarker).reverse

def frontKept (before : Text) : Text :=
  (frontOfLine before).trimRightBy isMarker

theorem trimRightBy_append_frontOfLine (before : Text) :
    before.trimRightBy (· ≠ '\n') ++ frontOfLine before = before :=
  Text.trimRightBy_append before _

theorem frontKept_append_frontMarkers (before : Text) : frontKept before ++ frontMarkers before = frontOfLine before :=
  Text.trimRightBy_append _ isMarker

theorem length_frontOfLine (before : Text) :
    (before.trimRightBy (· ≠ '\n')).length + (frontOfLine before).length = before.length := by
  rw [← List.length_append, trimRightBy_append_frontOfLine]

theorem length_frontMarkers (before : Text) :
    (before.trimRightBy (· ≠ '\n') ++ frontKept before).length + (frontMarkers before).length = before.length := by
  rw [← List.length_append, List.append_assoc, frontKept_append_frontMarkers, trimRightBy_append_frontOfLine]

theorem isMarker_of_mem_frontMarkers (before : Text) : forall ch, ch ∈ frontMarkers before -> isMarker ch = true :=
  fun _ hch => List.mem_takeWhile_imp (List.mem_reverse.mp hch)

theorem eq_false_of_getLast?_trimRightBy (u : Text) (p : Char -> Bool) :
    forall ch, (u.trimRightBy p).getLast? = some ch -> p ch = false := by
  intro ch hch
  have hall := Text.trimRightBy_eq_self_iff.mp (Text.trimRightBy_trimRightBy u p)
  rw [hch] at hall
  simpa using hall

/-- Nothing of a line stays in front of the markers just if what stays ends at the beginning of the line. -/
theorem atLineStart_iff (before : Text) :
    AtLineStart (before.trimRightBy (· ≠ '\n') ++ frontKept before) <-> frontKept before = [] := by
  constructor
  · intro h
    by_contra hne
    rw [AtLineStart, List.getLast?_append, List.getLast?_eq_some_getLast hne, Option.some_or, Option.all_some,
      decide_eq_true_eq] at h
    have hmem : '\n' ∈ frontOfLine before := by
      rw [← frontKept_append_frontMarkers, ← h]
      exact List.mem_append_left _ (List.getLast_mem hne)
    have hnot := List.mem_takeWhile_imp (List.mem_reverse.mp hmem)
    simp at hnot
  · intro h
    rw [h, List.append_nil, AtLineStart, Option.all_eq_true]
    intro ch hch
    simpa using eq_false_of_getLast?_trimRightBy _ _ ch hch

theorem isMarker_eq_false_of_getLast? (before : Text) : forall ch,
    (before.trimRightBy (· ≠ '\n') ++ frontKept before).getLast? = some ch -> isMarker ch = false := by
  intro ch hch
  by_cases hkept : frontKept before = []
  · have hstart := (atLineStart_iff before).mpr hkept
    rw [AtLineStart, hch, Option.all_some, decide_eq_true_eq] at hstart
    rw [hstart]
    decide
  · rw [List.getLast?_append, List.getLast?_eq_some_getLast hkept, Option.some_or,
      ← List.getLast?_eq_some_getLast hkept] at hch
    exact eq_false_of_getLast?_trimRightBy _ _ ch hch

/-- Behind the edge of a line, and in front of what is no newline, a line begins behind that edge, too. -/
theorem prefix_earlierLines {front mid v : Text} (hedge : AtLineEdge front (mid ++ v)) (hv : ¬ AtLineEnd v) :
    front <+: (front ++ mid).trimRightBy (· ≠ '\n') := by
  cases hmid : mid.all (· ≠ '\n') with
  | false =>
      rw [Text.trimRightBy_append_of_not_all hmid]
      exact List.prefix_append _ _
  | true =>
      have hself : front.trimRightBy (· ≠ '\n') = front := by
        rcases hedge with hstart | hend
        · rw [Text.trimRightBy_eq_self_iff]
          simpa [AtLineStart] using hstart
        · cases mid with
          | nil => exact absurd hend hv
          | cons c mid => simp_all [AtLineEnd]
      rw [Text.trimRightBy_append_of_all hmid, hself]

theorem slice_frontOfLine {before body behind : Text} (h : Template.StandsAt t s before body behind) :
    t.slice ⟨(before.trimRightBy (· ≠ '\n')).length, s.start⟩ = frontOfLine before := by
  have hstart : s.start = (before.trimRightBy (· ≠ '\n')).length + (frontOfLine before).length := by
    rw [length_frontOfLine, h.span_eq]
  rw [hstart]
  refine Text.slice_of_eq_append (v := Template.inBraces body ++ behind) ?_ rfl
  rw [h.eq_append, ← List.append_assoc (before.trimRightBy _), trimRightBy_append_frontOfLine]

/-!
# Behind a template
-/

theorem slice_restOfLine (hs : s.start ≤ s.stop) :
    t.slice ⟨s.start, s.stop + (restOfLine t s.stop).length⟩ = t.slice s ++ restOfLine t s.stop := by
  rw [← Edit.slice_append_slice t hs (Nat.le_add_right _ _)]
  congr 1
  rw [Text.slice, Span.size, Nat.add_sub_cancel_left]
  exact (List.prefix_iff_eq_take.mp (List.takeWhile_prefix _)).symm

theorem stop_add_length_restOfLine_lt_iff (hs : s.stop ≤ t.length) :
    s.stop + (restOfLine t s.stop).length < t.length <-> (t.drop s.stop).dropWhile (· ≠ '\n') ≠ [] := by
  have hlength := congrArg List.length (List.takeWhile_append_dropWhile (p := (· ≠ '\n')) (l := t.drop s.stop))
  rw [List.length_append, List.length_drop] at hlength
  rw [← List.length_pos_iff, restOfLine]
  omega

/-- The newline at the end of a line goes if nothing of the line stays. -/
theorem exists_ending (kept behind : Text) :
    exists ending later, behind.dropWhile (· ≠ '\n') = ending ++ later ∧
      ending.length = (if kept = [] ∧ behind.dropWhile (· ≠ '\n') ≠ [] then 1 else 0) ∧
      ((ending = ['\n'] ∧ kept = []) ∨ (ending = [] ∧ AtLineEnd later ∧ (kept = [] -> later = []))) := by
  cases hafter : behind.dropWhile (· ≠ '\n') with
  | nil => exact ⟨[], [], rfl, by simp, Or.inr ⟨rfl, rfl, fun _ => rfl⟩⟩
  | cons c later =>
      have hnewline : c = '\n' := by
        have hhead := List.head?_dropWhile_not (· ≠ '\n') behind
        rw [hafter] at hhead
        simpa using hhead
      rw [hnewline]
      by_cases hkept : kept = []
      · exact ⟨['\n'], later, rfl, by simp [hkept], Or.inl ⟨rfl, hkept⟩⟩
      · exact ⟨[], '\n' :: later, rfl, by simp [hkept], Or.inr ⟨rfl, rfl, fun h => absurd h hkept⟩⟩

/-!
# One cut
-/

theorem takeLine?_eq_none_iff {last : Nat} : takeLine? t last s = none <-> ¬ EndsMovably t s := by
  rw [takeLine?, EndsMovably]
  change (if !(restOfLine t s.stop).isEmpty && !isMovable (restOfLine t s.stop) then none else _) = none <-> _
  split
  · rename_i h
    simpa using h
  · rename_i h
    refine iff_of_false nofun ?_
    simp only [Bool.and_eq_true, Bool.not_eq_true', not_and, Bool.not_eq_false, List.isEmpty_eq_false_iff] at h
    exact fun hnot => hnot (or_iff_not_imp_left.mpr h)

/-- If the last cut ended in front of the line of a template, the line is taken as if it was the first one. -/
theorem takeLine?_eq {last : Nat} {before body behind : Text} (h : Template.StandsAt t s before body behind)
    (hlast : last ≤ (before.trimRightBy (· ≠ '\n')).length) (hmovable : EndsMovably t s) :
    takeLine? t last s = some (t.slice s ++ restOfLine t s.stop,
      ⟨(before.trimRightBy (· ≠ '\n') ++ frontKept before).length,
        s.stop + (restOfLine t s.stop).length +
          if frontKept before = [] ∧ behind.dropWhile (· ≠ '\n') ≠ [] then 1 else 0⟩) := by
  have hstart : s.start = before.length := by rw [h.span_eq]
  have hstop : s.stop = before.length + (Template.inBraces body).length := by rw [h.span_eq]
  have hbefore : t.take s.start = before := by rw [h.eq_append, hstart, List.take_left]
  have hline := length_frontOfLine before
  have hfront := length_frontMarkers before
  have hcount : (before.reverse.takeWhile (· ≠ '\n')).length = (frontOfLine before).length := List.length_reverse.symm
  have hmarkers : ((frontOfLine before).reverse.takeWhile isMarker).length = (frontMarkers before).length :=
    List.length_reverse.symm
  have hbound : max (s.start - (frontOfLine before).length) last = (before.trimRightBy (· ≠ '\n')).length := by omega
  have hbegins : s.start - (frontMarkers before).length =
      (before.trimRightBy (· ≠ '\n') ++ frontKept before).length := by
    omega
  have hwhole : (before.trimRightBy (· ≠ '\n') ++ frontKept before).length = s.start - (frontOfLine before).length <->
      frontKept before = [] := by
    rw [List.length_append, ← List.length_eq_zero_iff]
    omega
  have hlength : s.stop ≤ t.length := by
    rw [h.eq_append, hstop, List.length_append, List.length_append]
    omega
  rw [takeLine?, hbefore, hcount]
  change (if !(restOfLine t s.stop).isEmpty && !isMovable (restOfLine t s.stop) then none else
    some (t.slice ⟨s.start, s.stop + (restOfLine t s.stop).length⟩,
      (⟨_, if decide _ && decide (s.stop + (restOfLine t s.stop).length < t.length) then
        s.stop + (restOfLine t s.stop).length + 1 else s.stop + (restOfLine t s.stop).length⟩ : Span))) = _
  rw [if_neg, hbound, slice_frontOfLine h, hmarkers, hbegins, slice_restOfLine (by omega)]
  · simp only [Bool.and_eq_true, decide_eq_true_eq, hwhole, stop_add_length_restOfLine_lt_iff hlength, h.drop_stop]
    split
    · rfl
    · rfl
  · rcases hmovable with hempty | hmovable
    · simp [hempty]
    · simp [hmovable]

/-- The line of a template behind the edge of a line begins behind that edge. -/
theorem exists_between {front w : Text} (hs : s ∈ Template.spans t) (ht : t = front ++ w) (hle : front.length ≤ s.start)
    (hedge : AtLineEdge front w) :
    exists kept before body behind, Template.StandsAt t s before body behind ∧
      front ++ kept = before.trimRightBy (· ≠ '\n') ∧
      w = kept ++ (frontOfLine before ++ (Template.inBraces body ++ behind)) := by
  rcases Template.exists_standsAt_of_mem_spans hs with ⟨before, body, behind, h⟩
  have hprefix : front <+: before := by
    have hfront : front <+: t := ht ▸ List.prefix_append _ _
    have hbefore : before <+: t := h.eq_append ▸ List.prefix_append _ _
    refine List.prefix_of_prefix_length_le hfront hbefore ?_
    rwa [h.span_eq] at hle
  rcases hprefix with ⟨mid, rfl⟩
  have hw : w = mid ++ (Template.inBraces body ++ behind) := by
    have htext := h.eq_append
    rw [ht, List.append_assoc] at htext
    exact List.append_cancel_left htext
  have hbrace : ¬ AtLineEnd (Template.inBraces body ++ behind) := by
    simp [AtLineEnd, Template.inBraces]
  rcases prefix_earlierLines (hw ▸ hedge) hbrace with ⟨kept, hkept⟩
  refine ⟨kept, front ++ mid, body, behind, h, hkept, ?_⟩
  have hline := trimRightBy_append_frontOfLine (front ++ mid)
  rw [← hkept, List.append_assoc, List.append_cancel_left_eq] at hline
  rw [hw, ← List.append_assoc kept, hline]

/-- The line of a template is cut out of what is behind the edge of a line, and the cut ends at such an edge. -/
theorem exists_cut {front w : Text} (hs : EtymologyAt t s) (hmovable : EndsMovably t s) (ht : t = front ++ w)
    (hle : front.length ≤ s.start) (hedge : AtLineEdge front w) :
    exists (c : Cut) (later : Text), w = c.text ++ later ∧
      takeLine? t front.length s = some (c.line, ⟨(front ++ c.kept).length, (front ++ c.text).length⟩) ∧
      (c.lineSpan front).start = s.start ∧ c.Proper t front later ∧ AtLineEdge (front ++ c.text) later := by
  rcases exists_between hs.mem_spans ht hle hedge with ⟨kept, before, body, behind, h, hkept, hw⟩
  rcases exists_ending (frontKept before) behind with ⟨ending, later, hafter, hsize, hending⟩
  have hfront : front.length ≤ (before.trimRightBy (· ≠ '\n')).length := by
    rw [← hkept, List.length_append]
    exact Nat.le_add_right _ _
  have htake := takeLine?_eq h hfront hmovable
  have hstart := atLineStart_iff before
  have hmarker := isMarker_eq_false_of_getLast? before
  have hbefore := trimRightBy_append_frontOfLine before
  rw [← frontKept_append_frontMarkers] at hw hbefore
  rw [← hkept, List.append_assoc] at htake hstart hmarker hbefore
  have hbehind : behind = restOfLine t s.stop ++ (ending ++ later) := by
    rw [restOfLine, h.drop_stop, ← hafter, List.takeWhile_append_dropWhile]
  have hlineStart : (front ++ (kept ++ frontKept before ++ frontMarkers before)).length = s.start := by
    rw [h.span_eq, List.append_assoc, hbefore]
  have hstop : s.stop = s.start + (t.slice s).length := by
    rw [h.slice_eq, h.span_eq]
  refine ⟨⟨kept ++ frontKept before, frontMarkers before, t.slice s ++ restOfLine t s.stop, ending⟩, later,
    ?_, ?_, hlineStart, ?_, ?_⟩
  · rw [hw, hbehind, h.slice_eq]
    simp only [Cut.text, List.append_assoc]
  · rw [htake, ← hsize, hstop, ← hlineStart]
    simp only [Cut.text, List.length_append, Nat.add_assoc]
  · exact ⟨isMarker_of_mem_frontMarkers before, hmarker, ⟨s, hs, hlineStart.symm, hmovable, rfl⟩, by rwa [hstart]⟩
  · rcases hending with ⟨rfl, _⟩ | ⟨rfl, hend, _⟩
    · refine Or.inl ?_
      simp [AtLineStart, Cut.text]
    · exact Or.inr hend

/-!
# Cut after cut
-/

section Run

variable {front left rest : Text} {lines : List Text} {c : Cut} {cuts : List Cut} {place : Nat}

theorem Cut.Proper.holds_start {later : Text} (h : c.Proper t front later) :
    (c.lineSpan front).holds (c.lineSpan front).start = true := by
  rcases h.line with ⟨s, hs, _, _, hline⟩
  rcases Template.exists_slice_of_mem_spans hs.mem_spans with ⟨body, hslice, _⟩
  rw [Region.holds_iff]
  refine ⟨Nat.le_refl _, Nat.lt_add_of_pos_right ?_⟩
  rw [hline, hslice, List.length_append, Template.length_inBraces]
  omega

/-- A template that begins behind the beginning of the line, in what was cut out, begins in the line. -/
theorem Cut.Proper.holds {later : Text} (h : c.Proper t front later) (ht : t = front ++ (c.text ++ later))
    (hs : s ∈ Template.spans t) (hfirst : (c.lineSpan front).start ≤ s.start)
    (hlast : s.start < (front ++ c.text).length) : (c.lineSpan front).holds s.start = true := by
  have hstop : (c.lineSpan front).stop = (front ++ (c.kept ++ (c.markers ++ c.line))).length := by
    simp only [Cut.lineSpan, List.length_append, Nat.add_assoc]
  have hlength : (front ++ c.text).length = (c.lineSpan front).stop + c.ending.length := by
    rw [hstop]
    simp only [Cut.text, List.length_append, Nat.add_assoc]
  rw [Region.holds_iff]
  refine ⟨hfirst, ?_⟩
  rcases h.ending with ⟨hending, _⟩ | ⟨hending, _⟩
  · have hne : s.start ≠ (c.lineSpan front).stop := by
      intro heq
      rcases Template.exists_standsAt_of_mem_spans hs with ⟨before, body, behind, hstands⟩
      have hbrace := hstands.drop_start
      have htext : t = (front ++ (c.kept ++ (c.markers ++ c.line))) ++ ('\n' :: later) := by
        rw [ht, Cut.text, hending]
        simp only [List.append_assoc, List.singleton_append]
      rw [heq, hstop, htext, List.drop_left] at hbrace
      cases hbrace
    rw [hlength, hending, List.length_singleton] at hlast
    omega
  · rwa [hlength, hending, List.length_nil] at hlast

theorem CutUp.cons (hc : c.Proper t front (cuts.flatMap Cut.text ++ rest))
    (h : CutUp t (front ++ c.text) left lines cuts rest) :
    CutUp t front (c.kept ++ left) (c.line :: lines) (c :: cuts) rest := by
  refine ⟨?_, ?_, ?_, ?_⟩
  · rw [h.text_eq]
    simp only [List.flatMap_cons, List.append_assoc]
  · rw [h.left_eq, List.flatMap_cons, List.append_assoc]
  · rw [h.lines_eq, List.map_cons]
  · intro earlier d later heq
    rcases List.cons_eq_append_iff.mp heq with ⟨rfl, hcons⟩ | ⟨earlier, rfl, hcons⟩
    · cases hcons
      rwa [List.flatMap_nil, List.append_nil]
    · rw [List.flatMap_cons, ← List.append_assoc]
      exact h.proper earlier d later hcons

theorem inLine_cons_iff : InLine front (c :: cuts) place <->
    (c.lineSpan front).holds place = true ∨ InLine (front ++ c.text) cuts place := by
  constructor
  · rintro ⟨earlier, d, later, heq, hholds⟩
    rcases List.cons_eq_append_iff.mp heq with ⟨rfl, hcons⟩ | ⟨earlier, rfl, hcons⟩
    · cases hcons
      rw [List.flatMap_nil, List.append_nil] at hholds
      exact Or.inl hholds
    · rw [List.flatMap_cons, ← List.append_assoc] at hholds
      exact Or.inr ⟨earlier, d, later, hcons, hholds⟩
  · rintro (hholds | ⟨earlier, d, later, rfl, hholds⟩)
    · exact ⟨[], c, cuts, rfl, by rwa [List.flatMap_nil, List.append_nil]⟩
    · refine ⟨c :: earlier, d, later, rfl, ?_⟩
      rwa [List.flatMap_cons, ← List.append_assoc]

theorem applyFrom_cut {later : Text} (edits : List Edit) :
    Edit.applyFrom front.length (c.text ++ later)
        (⟨⟨(front ++ c.kept).length, (front ++ c.text).length⟩, []⟩ :: edits) =
      c.kept ++ Edit.applyFrom (front ++ c.text).length later edits := by
  rw [Edit.applyFrom, List.append_nil, List.length_append, List.length_append, Nat.add_sub_cancel_left,
    Nat.add_sub_cancel_left, List.drop_left, Cut.text, List.append_assoc, List.take_left]

theorem etymologyAt_iff (hs : s ∈ Template.spans t) : EtymologyAt t s <->
    (!Region.covers (Region.ignored t) s.start && (Template.parse? (t.slice s)).any isEtymology) = true := by
  rw [Bool.and_eq_true, Bool.not_eq_true', Option.any_eq_true]
  simp only [isEtymology, Bool.or_eq_true]
  exact ⟨fun h => ⟨h.not_ignored, h.named⟩, fun h => ⟨hs, h.1, h.2⟩⟩

/-- From an edge of a line on, the templates behind `next` are gone through: the text is cut up, and the line of every
outermost etymology template among them that can be taken is taken. -/
theorem exists_cutUp_takeLines {spans : List Span} {next : Nat} {w : Text}
    (hspans : forall s, s ∈ spans -> s ∈ Template.spans t) (hfollow : spans.Pairwise Template.Follows)
    (ht : t = front ++ w) (hnext : front.length ≤ next) (hedge : AtLineEdge front w) :
    exists cuts rest,
      CutUp t front
        (Edit.applyFrom front.length w
          ((takeLines t (Region.ignored t) front.length next spans).map fun x => ⟨x.2, []⟩))
        ((takeLines t (Region.ignored t) front.length next spans).map Prod.fst) cuts rest ∧
      forall s, s ∈ spans -> EtymologyAt t s -> Outermost t s -> EndsMovably t s ->
        s.start < next ∨ InLine front cuts s.start := by
  induction spans generalizing front w next with
  | nil =>
      refine ⟨[], w, ⟨ht, rfl, rfl, ?_⟩, fun s hs => absurd hs List.not_mem_nil⟩
      intro earlier c later heq
      exact absurd heq.symm (List.append_ne_nil_of_right_ne_nil _ (List.cons_ne_nil _ _))
  | cons s spans ih =>
      rcases List.forall_mem_cons.mp hspans with ⟨hs, hspans⟩
      rcases List.pairwise_cons.mp hfollow with ⟨hfirst, hfollow⟩
      rw [takeLines]
      split
      · rename_i hbefore
        rcases ih hspans hfollow ht hnext hedge with ⟨cuts, rest, hcut, hall⟩
        exact ⟨cuts, rest, hcut, List.forall_mem_cons.mpr ⟨fun _ _ _ => Or.inl hbefore, hall⟩⟩
      · rename_i hbehind
        have hle : front.length ≤ s.start := hnext.trans (Nat.le_of_not_lt hbehind)
        dsimp only
        by_cases htaken : EtymologyAt t s ∧ EndsMovably t s
        · rcases exists_cut htaken.1 htaken.2 ht hle hedge with ⟨c, later, rfl, hline, hstart, hc, hedge⟩
          rw [if_pos ((etymologyAt_iff hs).mp htaken.1), hline]
          have htext : t = (front ++ c.text) ++ later := by rw [ht, List.append_assoc]
          rcases ih hspans hfollow htext (Nat.le_max_right s.stop _) hedge with ⟨cuts, rest, hcut, hall⟩
          have hlater : later = cuts.flatMap Cut.text ++ rest :=
            List.append_cancel_left (htext.symm.trans hcut.text_eq)
          refine ⟨c :: cuts, rest, ?_, List.forall_mem_cons.mpr ⟨fun _ _ _ => ?_, ?_⟩⟩
          · rw [List.map_cons, List.map_cons, applyFrom_cut]
            exact hcut.cons (hlater ▸ hc)
          · exact Or.inr (inLine_cons_iff.mpr (Or.inl (hstart ▸ hc.holds_start)))
          · -- A template that is passed by stands in this line, since it does not stand in the template of the line.
            intro s' hmem hs' houter hmovable
            rw [inLine_cons_iff]
            rcases hall s' hmem hs' houter hmovable with hlt | hinside
            · have hlt' := (hfirst s' hmem).start_lt
              have hstop := houter s hs hlt'
              exact Or.inr (Or.inl (hc.holds ht hs'.mem_spans (by omega) (by omega)))
            · exact Or.inr (Or.inr hinside)
        · have hnone : (if (!Region.covers (Region.ignored t) s.start &&
              (Template.parse? (t.slice s)).any isEtymology) = true then takeLine? t front.length s else none) =
                none := by
            split
            · rename_i hs'
              exact takeLine?_eq_none_iff.mpr fun hmovable => htaken ⟨(etymologyAt_iff hs).mpr hs', hmovable⟩
            · rfl
          rw [hnone]
          have hspan := (Template.within_of_mem_spansFrom hs).start_lt_stop
          rcases ih hspans hfollow ht (hle.trans hspan.le) hedge with ⟨cuts, rest, hcut, hall⟩
          refine ⟨cuts, rest, hcut, List.forall_mem_cons.mpr ⟨fun hs' _ hmovable => absurd ⟨hs', hmovable⟩ htaken, ?_⟩⟩
          intro s' hmem hs' houter hmovable
          have hstop := houter s hs (hfirst s' hmem).start_lt
          exact Or.inr ((hall s' hmem hs' houter hmovable).resolve_left (Nat.not_lt.mpr hstop))

end Run

/-- Taking the etymology lines out cuts a text up: what is left and the lines, with the markers in front of a line and
the newline behind one of which nothing stays, are the text again in their order, and every line begins with an
etymology template.  The line of every outermost etymology template that can be taken is taken. -/
theorem exists_cutUp_take (t : Text) :
    exists cuts rest, CutUp t [] (take t).1 (take t).2 cuts rest ∧
      forall s, EtymologyAt t s -> Outermost t s -> EndsMovably t s -> InLine [] cuts s.start := by
  have hfollow : (Template.spans t).Pairwise Template.Follows := Template.pairwise_spansFrom _ _ 0 t
  have hedge : AtLineEdge [] t := Or.inl rfl
  rcases exists_cutUp_takeLines (fun _ hs => hs) hfollow (List.nil_append t).symm (Nat.zero_le 0) hedge with
    ⟨cuts, rest, hcut, hall⟩
  refine ⟨cuts, rest, hcut, fun s hs houter hmovable => ?_⟩
  exact (hall s hs.mem_spans hs houter hmovable).resolve_left (Nat.not_lt_zero _)

/-- A whole line goes with its newline, and the end of a line leaves it. -/
example : take "a\n:\x7b\x7betimología|la|casa\x7d\x7d.\nb *\x7b\x7betimología2\x7d\x7d\nc" =
    ("a\nb \nc".toList, ["\x7b\x7betimología|la|casa\x7d\x7d.".toList, "\x7b\x7betimología2\x7d\x7d".toList]) := by
  decide +kernel

end EtymologyLines
end WikiEntry
