import WikiEntry.Proofs.Template.Balanced
import WikiEntry.Proofs.Text.Pieces

/-!
# What stands in comments

No template is found in a comment, but the braces in it are counted by the scan that finds the templates around it.  A
comment is therefore without influence on the templates as long as its braces pair up.
-/

namespace WikiEntry
namespace Region

def closedComments (t : Text) : List Span :=
  flat "<!--" "-->" false t

/-- What stands between the delimiters of a comment. -/
def bodyOf (s : Span) : Span :=
  ⟨s.start + 4, s.stop - 3⟩

/-- The texts have the same delimiters of closed comments, and differ only between them. -/
structure DifferInComments (t u : Text) : Prop where
  length_eq : u.length = t.length
  closedComments_eq : closedComments u = closedComments t
  outside : forall n, covers ((closedComments t).map bodyOf) n = false -> u[n]? = t[n]?

instance (t u : Text) : Decidable (DifferInComments t u) :=
  decidable_of_iff
    (u.length = t.length ∧ closedComments u = closedComments t ∧
      forall n, n < t.length -> covers ((closedComments t).map bodyOf) n = false -> u[n]? = t[n]?) <| by
    constructor
    · rintro ⟨hlength, hcomments, houtside⟩
      refine ⟨hlength, hcomments, fun n hn => ?_⟩
      by_cases hlt : n < t.length
      · exact houtside n hlt hn
      · rw [List.getElem?_eq_none (by omega), List.getElem?_eq_none (by omega)]
    · rintro ⟨hlength, hcomments, houtside⟩
      exact ⟨hlength, hcomments, fun n _ hn => houtside n hn⟩

/-!
# Reading comment by comment
-/

/-- The text, which begins at `place`, has its first closed comment behind `before`. -/
structure FirstComment (place : Nat) (t before body behind : Text) (s : Span) : Prop where
  eq_append : t = before ++ "<!--".toList ++ body ++ "-->".toList ++ behind
  start_eq : s.start = place + before.length
  stop_eq : s.stop = s.start + 4 + body.length + 3

theorem FirstComment.stop_eq_length {place : Nat} {t before body behind : Text} {s : Span}
    (h : FirstComment place t before body behind s) :
    s.stop = place + (before ++ "<!--".toList ++ body ++ "-->".toList).length := by
  have hstart := h.start_eq
  have hstop := h.stop_eq
  simp only [List.length_append]
  show s.stop = place + (before.length + 4 + body.length + 3)
  omega

theorem FirstComment.drop_stop {place : Nat} {T t before body behind : Text} {s : Span}
    (h : FirstComment place t before body behind s) (hT : T.drop place = t) : T.drop s.stop = behind := by
  rw [h.stop_eq_length, ← List.drop_drop, hT, h.eq_append, List.drop_left]

theorem FirstComment.slice_bodyOf {place : Nat} {T t before body behind : Text} {s : Span}
    (h : FirstComment place t before body behind s) (hT : T.drop place = t) : T.slice (bodyOf s) = body := by
  have hstart := h.start_eq
  have hstop := h.stop_eq
  have hsize : (bodyOf s).size = body.length := by
    show s.stop - 3 - (s.start + 4) = body.length
    omega
  have hplace : (bodyOf s).start = place + (before ++ "<!--".toList).length := by
    rw [List.length_append]
    show s.start + 4 = place + (before.length + 4)
    omega
  rw [Text.slice, hsize, hplace, ← List.drop_drop, hT, h.eq_append, List.append_assoc _ body, List.append_assoc _ (body ++ _),
    List.drop_left, List.append_assoc, List.take_left]

theorem exists_firstComment {rounds place : Nat} {t : Text} {s : Span} {rest : List Span}
    (h : flatFrom "<!--" "-->" false (rounds + 1) place t = s :: rest) :
    exists before body behind, FirstComment place t before body behind s ∧
      flatFrom "<!--" "-->" false rounds s.stop behind = rest ∧
      flatFrom "<!--" "-->" true (rounds + 1) place t = s :: flatFrom "<!--" "-->" true rounds s.stop behind := by
  rw [flatFrom] at h
  split at h
  · cases h
  · rename_i before inside hopening
    dsimp only at h
    split at h
    · rename_i body behind hclosing
      cases h
      refine ⟨before, body, behind, ⟨?_, rfl, rfl⟩, rfl, ?_⟩
      · rw [Text.eq_of_splitOnce? hopening, Text.eq_of_splitOnce? hclosing]
        simp only [List.append_assoc]
      · rw [flatFrom, hopening]
        dsimp only
        rw [hclosing]
    · cases h

theorem le_start_of_mem_flatFrom {rounds place : Nat} {t : Text} {s : Span}
    (hs : s ∈ flatFrom "<!--" "-->" false rounds place t) : place ≤ s.start := by
  induction rounds generalizing place t with
  | zero => cases hs
  | succ rounds ih =>
      cases hcomments : flatFrom "<!--" "-->" false (rounds + 1) place t with
      | nil =>
          rw [hcomments] at hs
          cases hs
      | cons first rest =>
          rcases exists_firstComment hcomments with ⟨before, body, behind, hfirst, rfl, _⟩
          have hstart := hfirst.start_eq
          have hstop := hfirst.stop_eq
          rw [hcomments] at hs
          rcases List.mem_cons.mp hs with rfl | hs
          · omega
          · have := ih hs
            omega

theorem mem_comments_of_closed {rounds place : Nat} {t : Text} {s : Span}
    (hs : s ∈ flatFrom "<!--" "-->" false rounds place t) : s ∈ flatFrom "<!--" "-->" true rounds place t := by
  induction rounds generalizing place t with
  | zero => cases hs
  | succ rounds ih =>
      cases hcomments : flatFrom "<!--" "-->" false (rounds + 1) place t with
      | nil =>
          rw [hcomments] at hs
          cases hs
      | cons first rest =>
          rcases exists_firstComment hcomments with ⟨before, body, behind, _, rfl, hall⟩
          rw [hcomments] at hs
          rw [hall]
          rcases List.mem_cons.mp hs with rfl | hs
          · exact List.mem_cons_self
          · exact List.mem_cons_of_mem first (ih hs)

/-- What stands in front of the body of the first comment is in no body. -/
theorem covers_bodies_front {rounds place n : Nat} {t : Text} {s : Span} {rest : List Span}
    (h : flatFrom "<!--" "-->" false (rounds + 1) place t = s :: rest) (hn : n < s.start + 4) :
    covers ((s :: rest).map bodyOf) n = false := by
  rcases exists_firstComment h with ⟨before, body, behind, hfirst, hrest, _⟩
  rw [Bool.eq_false_iff]
  intro hcovers
  rcases List.any_eq_true.mp hcovers with ⟨b, hmem, hholds⟩
  rcases List.mem_map.mp hmem with ⟨s', hs', rfl⟩
  have hholds : s'.start + 4 ≤ n := (holds_iff.mp hholds).1
  rcases List.mem_cons.mp hs' with rfl | hs'
  · omega
  · rw [← hrest] at hs'
    have := le_start_of_mem_flatFrom hs'
    have := hfirst.stop_eq
    omega

theorem covers_bodies_behind (s : Span) (rest : List Span) (n : Nat) :
    covers ((s :: rest).map bodyOf) (s.stop + n) = covers (rest.map bodyOf) (s.stop + n) := by
  have hbody : (bodyOf s).holds (s.stop + n) = false := by
    rw [Bool.eq_false_iff]
    intro hholds
    have hstop : s.stop + n < s.stop - 3 := (holds_iff.mp hholds).2
    omega
  rw [covers, List.map_cons, List.any_cons, hbody]
  rfl

/-!
# Two texts side by side
-/

/-- The rests of two texts, which begin at `place`, have the same closed comments and differ only in them. -/
structure DifferFrom (rounds place : Nat) (t u : Text) : Prop where
  length_eq : u.length = t.length
  comments_eq : flatFrom "<!--" "-->" false rounds place u = flatFrom "<!--" "-->" false rounds place t
  outside : forall n, covers ((flatFrom "<!--" "-->" false rounds place t).map bodyOf) (place + n) = false -> u[n]? = t[n]?

/-- The first comments of both texts are the same span behind the same front, and the rests differ only in
comments. -/
structure SideBySide (rounds place : Nat) (t u : Text) (s : Span) (before body body' behind behind' : Text) : Prop where
  first : FirstComment place t before body behind s
  second : FirstComment place u before body' behind' s
  length_eq : body'.length = body.length
  differ : DifferFrom rounds s.stop behind behind'
  firstAll : flatFrom "<!--" "-->" true (rounds + 1) place t = s :: flatFrom "<!--" "-->" true rounds s.stop behind
  secondAll : flatFrom "<!--" "-->" true (rounds + 1) place u = s :: flatFrom "<!--" "-->" true rounds s.stop behind'

variable {rounds place : Nat} {t u : Text}

theorem DifferFrom.eq_of_nil (h : DifferFrom rounds place t u)
    (hnone : flatFrom "<!--" "-->" false rounds place t = []) : u = t := by
  apply List.ext_getElem?
  intro n
  apply h.outside
  rw [hnone]
  rfl

theorem DifferFrom.exists_sideBySide {s : Span} {rest : List Span} (h : DifferFrom (rounds + 1) place t u)
    (hcomments : flatFrom "<!--" "-->" false (rounds + 1) place t = s :: rest) :
    exists before body body' behind behind',
      SideBySide rounds place t u s before body body' behind behind' ∧
        flatFrom "<!--" "-->" false rounds s.stop behind = rest := by
  rcases exists_firstComment hcomments with ⟨before, body, behind, ht, hrest, hall⟩
  rcases exists_firstComment (h.comments_eq.trans hcomments) with ⟨before', body', behind', hu, hrest', hall'⟩
  have hbefore : before'.length = before.length := Nat.add_left_cancel (hu.start_eq.symm.trans ht.start_eq)
  have hbody : body'.length = body.length := by
    have := ht.stop_eq
    have := hu.stop_eq
    omega
  have houtside := h.outside
  rw [hcomments, ht.eq_append, hu.eq_append] at houtside
  have hsame : before' = before := by
    apply List.ext_getElem?
    intro n
    by_cases hn : n < before.length
    · have hplace : place + n < s.start + 4 := by
        have := ht.start_eq
        omega
      have heq := houtside n (covers_bodies_front hcomments hplace)
      simp only [List.append_assoc] at heq
      rwa [List.getElem?_append_left (by omega), List.getElem?_append_left hn] at heq
    · rw [List.getElem?_eq_none (by omega), List.getElem?_eq_none (by omega)]
  subst hsame
  have hfront := ht.stop_eq_length
  have hfronts : (before' ++ "<!--".toList ++ body' ++ "-->".toList).length =
      (before' ++ "<!--".toList ++ body ++ "-->".toList).length := by
    simp only [List.length_append, hbody]
  refine ⟨before', body, body', behind, behind', ⟨ht, hu, hbody, ⟨?_, hrest'.trans hrest.symm, ?_⟩, hall, hall'⟩, hrest⟩
  · have hlength := h.length_eq
    rw [ht.eq_append, hu.eq_append, List.length_append, hfronts] at hlength
    exact Nat.add_left_cancel (hlength.trans List.length_append)
  · intro n hn
    rw [hrest, ← covers_bodies_behind, hfront, Nat.add_assoc] at hn
    have heq := houtside _ hn
    rwa [List.getElem?_append_right (Nat.le_add_right _ n), ← hfronts,
      List.getElem?_append_right (Nat.le_add_right _ n), Nat.add_sub_cancel_left] at heq

/-- A comment that is never closed begins behind the closed ones. -/
theorem DifferFrom.allComments_eq (h : DifferFrom rounds place t u) :
    flatFrom "<!--" "-->" true rounds place u = flatFrom "<!--" "-->" true rounds place t := by
  induction rounds generalizing place t u with
  | zero => rfl
  | succ rounds ih =>
      cases hcomments : flatFrom "<!--" "-->" false (rounds + 1) place t with
      | nil => rw [h.eq_of_nil hcomments]
      | cons s rest =>
          rcases h.exists_sideBySide hcomments with ⟨before, body, body', behind, behind', hside, _⟩
          rw [hside.firstAll, hside.secondAll, ih hside.differ]

end Region

namespace Template

open Region

variable {hidden : List Span} {rounds place : Nat} {t u T U : Text}

/-- The bodies of a comment in two texts do not matter if they are the same, or the braces of both pair up. -/
def BodiesAgree (t u : Text) (s : Span) : Prop :=
  u.slice (bodyOf s) = t.slice (bodyOf s) ∨ Balanced (t.slice (bodyOf s)) ∧ Balanced (u.slice (bodyOf s))

instance (t u : Text) (s : Span) : Decidable (BodiesAgree t u s) :=
  inferInstanceAs (Decidable (_ ∨ _))

theorem alike_of_balanced {s : Span} {before body body' behind behind' : Text}
    (h : SideBySide rounds place t u s before body body' behind behind') (hbody : Balanced body) (hbody' : Balanced body')
    (hhidden : forall n, s.start ≤ n -> n < s.stop -> covers hidden n = true)
    (hbehind : Alike hidden (place + (before ++ "<!--".toList ++ body ++ "-->".toList).length) behind behind') :
    Alike hidden place (before ++ "<!--".toList ++ body ++ "-->".toList ++ behind)
      (before ++ "<!--".toList ++ body' ++ "-->".toList ++ behind') := by
  have hdashes : forall w v : Text, before ++ "<!--".toList ++ w ++ "-->".toList ++ v =
      before ++ "<!-".toList ++ (dashed w ++ ("->".toList ++ v)) := by
    intro w v
    simp [dashed]
  have hstart := h.first.start_eq
  have hstop := h.first.stop_eq
  have hfront : (before ++ "<!-".toList).length = before.length + 3 := List.length_append
  rw [hdashes, hdashes]
  apply Alike.append
  rw [hfront]
  refine .piece h.length_eq hbody hbody' ?_ (Alike.append ?_)
  · intro n hfirst hlast
    exact hhidden n (by omega) (by omega)
  · have hplace : place + (before ++ "<!--".toList ++ body ++ "-->".toList).length =
        place + (before.length + 3) + (body.length + 2) + "->".toList.length := by
      simp only [List.length_append]
      show place + (before.length + 4 + body.length + 3) = place + (before.length + 3) + (body.length + 2) + 2
      omega
    rwa [hplace] at hbehind

/-- Texts that differ only in comments are alike, if the braces in the comments pair up where they differ. -/
theorem alike_of_differFrom (hT : T.drop place = t) (hU : U.drop place = u) (h : DifferFrom rounds place t u)
    (hbodies : forall s, s ∈ flatFrom "<!--" "-->" false rounds place t -> BodiesAgree T U s)
    (hhidden : forall s, s ∈ flatFrom "<!--" "-->" false rounds place t -> forall n, s.start ≤ n -> n < s.stop ->
      covers hidden n = true) : Alike hidden place t u := by
  induction rounds generalizing place t u with
  | zero =>
      rw [h.eq_of_nil rfl]
      exact Alike.refl hidden place t
  | succ rounds ih =>
      cases hcomments : flatFrom "<!--" "-->" false (rounds + 1) place t with
      | nil =>
          rw [h.eq_of_nil hcomments]
          exact Alike.refl hidden place t
      | cons s rest =>
          rcases h.exists_sideBySide hcomments with ⟨before, body, body', behind, behind', hside, hrest⟩
          rw [hcomments] at hbodies hhidden
          rcases List.forall_mem_cons.mp hbodies with ⟨hbody, hbodies⟩
          rcases List.forall_mem_cons.mp hhidden with ⟨hcovered, hhidden⟩
          have hbehind : Alike hidden s.stop behind behind' := by
            rw [← hrest] at hbodies hhidden
            exact ih (hside.first.drop_stop hT) (hside.second.drop_stop hU) hside.differ hbodies hhidden
          rw [BodiesAgree, hside.first.slice_bodyOf hT, hside.second.slice_bodyOf hU] at hbody
          rw [hside.first.eq_append, hside.second.eq_append]
          rw [hside.first.stop_eq_length] at hbehind
          rcases hbody with rfl | ⟨hbalanced, hbalanced'⟩
          · exact Alike.append hbehind
          · exact alike_of_balanced hside hbalanced hbalanced' hcovered hbehind

/-- Texts that differ only in closed comments, with the same elements of unparsed text, have the same templates if in
each comment they have the same or the braces of both pair up. -/
theorem spans_eq_of_differInComments (h : DifferInComments t u) (hnowiki : elements .nowiki u = elements .nowiki t)
    (hbodies : forall s, s ∈ closedComments t -> BodiesAgree t u s) : spans u = spans t := by
  have hdiffer : DifferFrom (t.length + 1) 0 t u := by
    constructor
    · exact h.length_eq
    · have heq := h.closedComments_eq
      rwa [closedComments, flat, h.length_eq] at heq
    · intro n hn
      rw [Nat.zero_add] at hn
      exact h.outside n hn
  have hcomments : comments u = comments t := by
    rw [comments, flat, h.length_eq]
    exact hdiffer.allComments_eq
  have hhidden : Region.hidden u = Region.hidden t := by
    rw [Region.hidden, Region.hidden, hcomments, hnowiki]
  refine spans_eq_of_alike hhidden (alike_of_differFrom List.drop_zero List.drop_zero hdiffer hbodies ?_)
  intro s hs n hstart hstop
  rw [covers_hidden, Bool.or_eq_true]
  exact Or.inl (List.any_eq_true.mpr ⟨s, mem_comments_of_closed hs, holds_iff.mpr ⟨hstart, hstop⟩⟩)

/-- A comment between the arguments of a template. -/
def templateWithComment (body : Text) : Text :=
  "\x7b\x7ba|<!--".toList ++ body ++ "-->|\x7b\x7bc\x7d\x7d\x7d\x7d".toList

theorem spans_eq_of_differInComments_inner :
    DifferInComments (templateWithComment "\x7b\x7bb\x7d\x7d") (templateWithComment "-----") ∧
      spans (templateWithComment "\x7b\x7bb\x7d\x7d") = [⟨0, 24⟩, ⟨17, 22⟩] ∧
      spans (templateWithComment "-----") = spans (templateWithComment "\x7b\x7bb\x7d\x7d") := by
  have hdiffer : DifferInComments (templateWithComment "\x7b\x7bb\x7d\x7d") (templateWithComment "-----") := by
    decide +kernel
  exact ⟨hdiffer, by decide +kernel, spans_eq_of_differInComments hdiffer (by decide +kernel) (by decide +kernel)⟩

/-- An opening in a comment takes the template behind the comment away. -/
theorem not_forall_spans_eq :
    ¬ forall t u : Text, DifferInComments t u -> spans u = spans t := by
  intro h
  have hdiffer : DifferInComments "<!--xx-->\x7b\x7ba\x7d\x7d" "<!--\x7b\x7b-->\x7b\x7ba\x7d\x7d" := by decide +kernel
  have hspans : spans "<!--\x7b\x7b-->\x7b\x7ba\x7d\x7d" ≠ spans "<!--xx-->\x7b\x7ba\x7d\x7d" := by decide +kernel
  exact hspans (h _ _ hdiffer)

end Template
end WikiEntry
