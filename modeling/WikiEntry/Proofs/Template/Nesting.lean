import WikiEntry.Proofs.Region.Replacement
import WikiEntry.Proofs.Region.Union
import WikiEntry.Proofs.Template.RoundTrip

/-!
# The templates of a text, side by side and inside each other

The templates of a text come in the order in which they begin, and of two templates the later one stands behind the
earlier one or inside it.  None begins in a hidden region, and each of them is a template when its text is read alone.

# Putting templates back

The edits of a replacer stand one behind the other, whatever the replacer answers.  Templates that are replaced by what
they are printed as therefore leave the text as it is.
-/

namespace WikiEntry
namespace Template

/-- The span lies between the places and has room for the braces of a template. -/
structure Within (first last : Nat) (s : Span) : Prop where
  first_le : first ≤ s.start
  braces : s.start + 4 ≤ s.stop
  le_last : s.stop ≤ last

theorem Within.start_lt_stop {first last : Nat} {s : Span} (h : Within first last s) : s.start < s.stop :=
  Nat.lt_of_lt_of_le (Nat.lt_add_of_pos_right (by decide)) h.braces

/-- The second span begins after the first one, and stands behind it or inside it. -/
structure Follows (s s' : Span) : Prop where
  start_lt : s.start < s'.start
  apart : s.stop ≤ s'.start ∨ s'.stop ≤ s.stop

theorem within_of_mem_templates {t : Text} {s : Span} (hs : s ∈ Region.templates t) : Within 0 t.length s := by
  rcases exists_of_mem_regionsFrom hs with ⟨before, rest, size, hopens, _, rfl⟩
  have hsize := toClosing?_bounds hopens.closing
  have hlength := congrArg List.length hopens.eq_append
  simp only [List.length_append, List.length_cons] at hlength
  constructor
  · exact Nat.zero_le _
  · show 0 + before.length + 4 ≤ 0 + before.length + 2 + size
    omega
  · show 0 + before.length + 2 + size ≤ t.length
    omega

/-!
# One level of nesting
-/

variable {hidden : List Span} {levels offset : Nat} {t : Text}

theorem length_inside_le (t : Text) (region : Span) :
    (t.slice ⟨region.start + 2, region.stop - 2⟩).length ≤ region.stop - 2 - (region.start + 2) :=
  List.length_take_le _ _

/-- What lies inside a region lies between its braces. -/
theorem Within.of_inside {region s : Span}
    (h : Within (offset + region.start + 2)
      (offset + region.start + 2 + (t.slice ⟨region.start + 2, region.stop - 2⟩).length) s) :
    offset + region.start + 2 ≤ s.start ∧ s.stop + 2 ≤ offset + region.stop := by
  have hlength := length_inside_le t region
  rcases h with ⟨hfirst, hbraces, hlast⟩
  omega

theorem within_of_mem_spansOfRegion {region s : Span} (hregion : region.start + 4 ≤ region.stop)
    (hinside : forall {offset t s}, s ∈ spansFrom hidden levels offset t -> Within offset (offset + t.length) s)
    (hs : s ∈ spansOfRegion hidden levels offset t region) : Within (offset + region.start) (offset + region.stop) s := by
  rcases (eq_or_mem_of_mem_spansOfRegion hs).2 with rfl | hs
  · constructor
    · exact (Nat.add_comm _ _).le
    · show region.start + offset + 4 ≤ region.stop + offset
      omega
    · exact (Nat.add_comm _ _).le
  · rcases (hinside hs).of_inside with ⟨hfirst, hlast⟩
    constructor
    · exact (Nat.le_add_right _ 2).trans hfirst
    · exact (hinside hs).braces
    · exact (Nat.le_add_right _ 2).trans hlast

theorem within_of_mem_spansFrom {s : Span} (hs : s ∈ spansFrom hidden levels offset t) :
    Within offset (offset + t.length) s := by
  induction levels generalizing offset t s with
  | zero => cases hs
  | succ levels ih =>
      rw [spansFrom_succ] at hs
      rcases List.mem_flatMap.mp hs with ⟨region, hregion, hs⟩
      have hwithin := within_of_mem_templates hregion
      have hs := within_of_mem_spansOfRegion hwithin.braces ih hs
      constructor
      · exact (Nat.le_add_right offset _).trans hs.first_le
      · exact hs.braces
      · exact hs.le_last.trans (Nat.add_le_add_left hwithin.le_last offset)

/-- The templates inside a region come after the region itself. -/
theorem pairwise_spansOfRegion (region : Span)
    (hinside : forall offset t, (spansFrom hidden levels offset t).Pairwise Follows) :
    (spansOfRegion hidden levels offset t region).Pairwise Follows := by
  rcases spansOfRegion_cases hidden levels offset t region with hnone | ⟨_, hsome⟩
  · rw [hnone]
    exact List.Pairwise.nil
  · rw [hsome]
    refine List.pairwise_cons.mpr ⟨?_, hinside _ _⟩
    intro s hs
    rcases (within_of_mem_spansFrom hs).of_inside with ⟨hfirst, hlast⟩
    constructor
    · show region.start + offset < s.start
      omega
    · apply Or.inr
      show s.stop ≤ region.stop + offset
      omega

/-- The templates of a region stand behind those of the regions before it. -/
theorem follows_of_mem_spansOfRegion {region region' s s' : Span} (hregion : region ∈ Region.templates t)
    (hregion' : region' ∈ Region.templates t) (hapart : region.stop ≤ region'.start)
    (hs : s ∈ spansOfRegion hidden levels offset t region) (hs' : s' ∈ spansOfRegion hidden levels offset t region') :
    Follows s s' := by
  have hs := within_of_mem_spansOfRegion (within_of_mem_templates hregion).braces within_of_mem_spansFrom hs
  have hs' := within_of_mem_spansOfRegion (within_of_mem_templates hregion').braces within_of_mem_spansFrom hs'
  have hbehind : s.stop ≤ s'.start :=
    hs.le_last.trans ((Nat.add_le_add_left hapart offset).trans hs'.first_le)
  constructor
  · exact hs.start_lt_stop.trans_le hbehind
  · exact Or.inl hbehind

theorem pairwise_spansFrom (hidden : List Span) (levels offset : Nat) (t : Text) :
    (spansFrom hidden levels offset t).Pairwise Follows := by
  induction levels generalizing offset t with
  | zero => exact List.Pairwise.nil
  | succ levels ih =>
      rw [spansFrom_succ, List.pairwise_flatMap]
      constructor
      · intro region _
        exact pairwise_spansOfRegion region ih
      · apply (pairwise_regionsFrom 0 0 t).imp_of_mem
        intro region region' hregion hregion' hapart s hs s' hs'
        exact follows_of_mem_spansOfRegion hregion hregion' hapart hs hs'

/-- Two templates of a text are the same one, or one of them follows the other. -/
theorem eq_or_follows {s s' : Span} (hs : s ∈ spans t) (hs' : s' ∈ spans t) : s = s' ∨ Follows s s' ∨ Follows s' s := by
  have hpairwise : (spans t).Pairwise Follows := pairwise_spansFrom _ _ 0 t
  have hfirst : (spans t).Pairwise fun s s' => s = s' ∨ Follows s s' ∨ Follows s' s :=
    hpairwise.imp fun h => Or.inr (Or.inl h)
  have hsecond : (spans t).Pairwise (flip fun s s' => s = s' ∨ Follows s s' ∨ Follows s' s) :=
    hpairwise.imp fun h => Or.inr (Or.inr h)
  have hsame : forall s, s ∈ spans t -> s = s ∨ Follows s s ∨ Follows s s := fun _ _ => Or.inl rfl
  exact List.Pairwise.forall_of_forall_of_flip hsame hfirst hsecond hs hs'

theorem eq_of_start_eq {s s' : Span} (hs : s ∈ spans t) (hs' : s' ∈ spans t) (h : s.start = s'.start) : s = s' := by
  rcases eq_or_follows hs hs' with heq | hfollows | hfollows
  · exact heq
  · exact absurd h hfollows.start_lt.ne
  · exact absurd h hfollows.start_lt.ne'

theorem covers_start_of_mem_spansFrom {s : Span} (hs : s ∈ spansFrom hidden levels offset t) :
    Region.covers hidden s.start = false := by
  induction levels generalizing offset t with
  | zero => cases hs
  | succ levels ih =>
      rw [spansFrom_succ] at hs
      rcases List.mem_flatMap.mp hs with ⟨region, _, hs⟩
      rcases eq_or_mem_of_mem_spansOfRegion hs with ⟨hcovers, rfl | hs⟩
      · rw [Nat.add_comm] at hcovers
        exact hcovers
      · exact ih hs

/-- The number of levels is no limit: a text has no more levels than characters. -/
theorem spansFrom_eq_of_length_lt {levels' : Nat} (h : t.length < levels) (h' : t.length < levels') :
    spansFrom hidden levels offset t = spansFrom hidden levels' offset t := by
  induction levels generalizing levels' offset t with
  | zero => cases h
  | succ levels ih =>
      cases levels' with
      | zero => cases h'
      | succ levels' =>
          rw [spansFrom_succ, spansFrom_succ]
          refine List.flatMap_congr fun region hregion => ?_
          have hinside : spansFrom hidden levels (offset + region.start + 2)
                (t.slice ⟨region.start + 2, region.stop - 2⟩) =
              spansFrom hidden levels' (offset + region.start + 2)
                (t.slice ⟨region.start + 2, region.stop - 2⟩) := by
            have hlength := length_inside_le t region
            have hwithin := within_of_mem_templates hregion
            have := hwithin.braces
            have := hwithin.le_last
            exact ih (by omega) (by omega)
          rw [spansOfRegion, hinside]
          rfl

/-!
# Templates read alone
-/

/-- A template stands at a place of the text, with its body between the braces. -/
structure StandsAt (t : Text) (s : Span) (before body behind : Text) : Prop where
  eq_append : t = before ++ (inBraces body ++ behind)
  span_eq : s = ⟨before.length, before.length + (inBraces body).length⟩
  closing : toClosing? 1 (body ++ ['\x7d', '\x7d']) = some (body.length + 2)

/-- An opening and its closing are the braces around a body. -/
theorem OpensBehind.exists_standsAt {before rest : Text} {size : Nat} (h : OpensBehind t before rest size) :
    exists body behind, StandsAt t ⟨before.length, before.length + 2 + size⟩ before body behind := by
  rcases exists_take_of_toClosing? h.closing with ⟨body, htake⟩
  have hsize : size = body.length + 2 := by
    have hlength := congrArg List.length htake
    rwa [List.length_take, Nat.min_eq_left (toClosing?_bounds h.closing).2, List.length_append] at hlength
  have hclosing := toClosing?_take h.closing
  rw [htake, hsize] at hclosing
  refine ⟨body, rest.drop size, ?_, ?_, hclosing⟩
  · rw [h.eq_append, inBraces, ← htake, List.cons_append, List.cons_append, List.take_append_drop]
  · rw [length_inBraces, hsize, Span.mk.injEq]
    omega

theorem exists_standsAt_of_mem_spans {s : Span} (hs : s ∈ spans t) : exists before body behind, StandsAt t s before body behind := by
  rcases exists_of_mem_spans hs with ⟨before, rest, size, hopens, _, rfl⟩
  exact ⟨before, hopens.exists_standsAt⟩

theorem StandsAt.slice_eq {s : Span} {before body behind : Text} (h : StandsAt t s before body behind) :
    t.slice s = inBraces body := by
  rw [h.span_eq]
  exact Text.slice_of_eq_append h.eq_append rfl

theorem StandsAt.drop_start {s : Span} {before body behind : Text} (h : StandsAt t s before body behind) :
    t.drop s.start = inBraces body ++ behind := by
  rw [h.eq_append, h.span_eq, List.drop_left]

theorem StandsAt.drop_stop {s : Span} {before body behind : Text} (h : StandsAt t s before body behind) :
    t.drop s.stop = behind := by
  rw [h.eq_append, h.span_eq, ← List.length_append, ← List.append_assoc, List.drop_left]

theorem StandsAt.parse?_eq {s : Span} {before body behind : Text} (h : StandsAt t s before body behind) :
    parse? (t.slice s) = some (ofBody body) :=
  parse?_eq_some_iff.mpr ⟨body, h.slice_eq, h.closing, rfl⟩

/-- The text of a template is its body between braces, and its opening is closed at its end. -/
theorem exists_slice_of_mem_spans {s : Span} (hs : s ∈ spans t) :
    exists body, t.slice s = inBraces body ∧ parse? (t.slice s) = some (ofBody body) := by
  rcases exists_standsAt_of_mem_spans hs with ⟨before, body, behind, h⟩
  exact ⟨body, h.slice_eq, h.parse?_eq⟩

theorem of_mem_located {s : Span} {u : Template} (h : (s, u) ∈ located t) : s ∈ spans t ∧ u.render = t.slice s := by
  rcases List.mem_filterMap.mp h with ⟨s', hs', heq⟩
  rcases exists_slice_of_mem_spans hs' with ⟨body, hslice, hparse⟩
  rw [hparse] at heq
  cases heq
  exact ⟨hs', (render_ofBody body).trans hslice.symm⟩

/-!
# The edits of a replacer
-/

variable {σ : Type} {replacer : σ -> Template -> Option Text × σ}

/-- The edits stand one behind the other, whatever the templates are that the replacer sees. -/
theorem inOrder_editsWith {found : List (Span × Template)} (hfound : forall x, x ∈ found -> x.1.start ≤ x.1.stop)
    (state : σ) (next : Nat) : Edit.InOrder next (editsWith replacer state next found).1 := by
  induction found generalizing state next with
  | nil => exact trivial
  | cons x found ih =>
      rcases x with ⟨s, u⟩
      rcases List.forall_mem_cons.mp hfound with ⟨hs, hfound⟩
      rw [editsWith]
      split
      · exact ih hfound state next
      · rename_i hnext
        split
        · exact ⟨Nat.le_of_not_lt hnext, hs, ih hfound _ _⟩
        · exact ih hfound _ next

theorem of_mem_editsWith {found : List (Span × Template)} {state : σ} {next : Nat} {e : Edit}
    (he : e ∈ (editsWith replacer state next found).1) :
    exists state u, (e.span, u) ∈ found ∧ (replacer state u).1 = some e.text := by
  induction found generalizing state next with
  | nil => cases he
  | cons x found ih =>
      have hlater : forall {state next}, e ∈ (editsWith replacer state next found).1 ->
          exists state u, (e.span, u) ∈ x :: found ∧ (replacer state u).1 = some e.text := by
        intro state next he
        rcases ih he with ⟨state, u, hu, hanswer⟩
        exact ⟨state, u, List.mem_cons_of_mem x hu, hanswer⟩
      rcases x with ⟨s, u⟩
      rw [editsWith] at he
      split at he
      · exact hlater he
      · split at he
        · rename_i hanswer
          rcases List.mem_cons.mp he with rfl | he
          · exact ⟨state, u, List.mem_cons_self, by rw [hanswer]⟩
          · exact hlater he
        · exact hlater he

/-- A replacer that only ever answers with the template as it is printed leaves the text as it is. -/
theorem replaceWith_eq_self (hanswers : forall state u text, (replacer state u).1 = some text -> text = u.render)
    (t : Text) (state : σ) : (replaceWith t replacer state).1 = t := by
  have horder : Edit.InOrder 0 (editsWith replacer state 0 (located t)).1 := by
    apply inOrder_editsWith
    intro x hx
    exact (within_of_mem_spansFrom (of_mem_located hx).1).start_lt_stop.le
  refine Edit.applyFrom_eq_drop horder fun e he => ?_
  rcases of_mem_editsWith he with ⟨state, u, hu, hanswer⟩
  exact (hanswers state u e.text hanswer).trans (of_mem_located hu).2

/-- The templates of a text are inside its bounds, in the order of their beginnings, side by side or inside each other;
none begins in a comment or in unparsed text, and each is a template when it is read alone.  Printing any of them again
in its place, or answering nothing, leaves the text as it is. -/
theorem spans_follow_and_replace_eq (t : Text) :
    (spans t).Pairwise Follows ∧
      (forall s, s ∈ spans t -> Within 0 t.length s ∧ Region.covers (Region.comments t) s.start = false ∧
        Region.covers (Region.elements .nowiki t) s.start = false ∧ (parse? (t.slice s)).isSome = true) ∧
      (forall filter : Template -> Bool, replace t (fun u => if filter u then some u.render else none) = t) ∧
      replace t (fun _ => none) = t := by
  refine ⟨pairwise_spansFrom _ _ 0 t, ?_, ?_, ?_⟩
  · intro s hs
    have hwithin := within_of_mem_spansFrom hs
    rw [Nat.zero_add] at hwithin
    have hcovers := covers_start_of_mem_spansFrom hs
    rw [Region.covers_hidden, Bool.or_eq_false_iff] at hcovers
    rcases exists_slice_of_mem_spans hs with ⟨body, _, hparse⟩
    exact ⟨hwithin, hcovers.1, hcovers.2, by rw [hparse]; rfl⟩
  · intro filter
    refine replaceWith_eq_self (fun _ u text hanswer => ?_) t ()
    dsimp only at hanswer
    split at hanswer
    · exact (Option.some.inj hanswer).symm
    · cases hanswer
  · exact replaceWith_eq_self (fun _ u text hanswer => by cases hanswer) t ()

/-- A template in a comment, and an odd run of braces at the end of the template around it. -/
def textWithOddBraces : Text :=
  "<!-- \x7b\x7bx\x7d\x7d -->\x7b\x7ba|\x7b\x7bb\x7d\x7d|\x7b\x7b\x7b1\x7d\x7d\x7d\x7d\x7d"

theorem spans_follow_and_replace_eq_oddBraces :
    spans textWithOddBraces = [⟨14, 32⟩, ⟨18, 23⟩, ⟨24, 30⟩] ∧
      [(⟨14, 32⟩ : Span), ⟨18, 23⟩, ⟨24, 30⟩].Pairwise Follows ∧
      Region.covers (Region.comments textWithOddBraces) 14 = false ∧
      (parse? (textWithOddBraces.slice ⟨24, 30⟩)).isSome = true ∧
      replace textWithOddBraces (fun u => if u.isNamed "b" then some u.render else none) = textWithOddBraces := by
  have hspans : spans textWithOddBraces = [⟨14, 32⟩, ⟨18, 23⟩, ⟨24, 30⟩] := by decide +kernel
  rcases spans_follow_and_replace_eq textWithOddBraces with ⟨hfollow, hspan, hreplace, _⟩
  rw [hspans] at hfollow hspan
  rcases hspan ⟨14, 32⟩ (by decide) with ⟨_, hcomments, _⟩
  rcases hspan ⟨24, 30⟩ (by decide) with ⟨_, _, _, hparse⟩
  exact ⟨hspans, hfollow, hcomments, hparse, hreplace fun u => u.isNamed "b"⟩

end Template
end WikiEntry
