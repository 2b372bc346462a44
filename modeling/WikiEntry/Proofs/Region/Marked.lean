import Mathlib.Logic.Relation
import WikiEntry.Proofs.Region.Respacing

/-!
# Texts with marks

A mark on every character of a text says whether an ignored region covers it.  A change of spacing that has no mark is a
change of the text that leaves the marks with their characters: finding the ignored regions of the new text gives the
same marks again, and the regions hold what they held.  So a rewrite that is made of such changes can be followed on the
marked text, without looking for the regions anew.
-/

namespace WikiEntry
namespace Region

open Text (Spacing)

/-- The characters of a text that begins at `place`, each with whether the regions cover it. -/
def markFrom (regions : List Span) : (place : Nat) -> Text -> List (Char × Bool)
  | _, [] => []
  | place, c :: r => (c, covers regions place) :: markFrom regions (place + 1) r

def marked (t : Text) : List (Char × Bool) :=
  markFrom (ignored t) 0 t

def unmark (m : List (Char × Bool)) : Text :=
  m.map Prod.fst

def unmarkedText (t : Text) : List (Char × Bool) :=
  t.map (·, false)

section Marks

variable {regions regions' : List Span} {place place' : Nat} {u v t : Text} {m : List (Char × Bool)}

theorem unmark_markFrom (regions : List Span) (place : Nat) (t : Text) : unmark (markFrom regions place t) = t := by
  induction t generalizing place with
  | nil => rfl
  | cons c r ih => exact congrArg (c :: ·) (ih (place + 1))

theorem unmark_append (m m' : List (Char × Bool)) : unmark (m ++ m') = unmark m ++ unmark m' :=
  List.map_append

theorem unmark_map (k : Bool) (t : Text) : unmark (t.map (·, k)) = t := by
  rw [unmark, List.map_map]
  exact List.map_id t

theorem length_markFrom (regions : List Span) (place : Nat) (t : Text) : (markFrom regions place t).length = t.length := by
  conv_rhs => rw [← unmark_markFrom regions place t, unmark, List.length_map]

theorem markFrom_append (regions : List Span) (place : Nat) (u v : Text) :
    markFrom regions place (u ++ v) = markFrom regions place u ++ markFrom regions (place + u.length) v := by
  induction u generalizing place with
  | nil => rfl
  | cons c u ih =>
      rw [List.cons_append, markFrom, markFrom, ih, List.length_cons, Nat.add_assoc, Nat.add_comm 1]
      rfl

theorem markFrom_congr (h : forall i, i < t.length -> covers regions (place + i) = covers regions' (place' + i)) :
    markFrom regions place t = markFrom regions' place' t := by
  induction t generalizing place place' with
  | nil => rfl
  | cons c r ih =>
      have hfirst := h 0 (Nat.zero_lt_succ _)
      rw [markFrom, markFrom, ih fun i hi => ?_]
      · exact congrArg (fun k => (c, k) :: _) hfirst
      · have hlater := h (i + 1) (Nat.succ_lt_succ hi)
        rwa [Nat.add_right_comm, Nat.add_right_comm place', Nat.add_assoc, Nat.add_assoc place']

theorem markFrom_eq_unmarkedText (h : forall i, i < t.length -> covers regions (place + i) = false) :
    markFrom regions place t = unmarkedText t := by
  induction t generalizing place with
  | nil => rfl
  | cons c r ih =>
      have hfirst := h 0 (Nat.zero_lt_succ _)
      rw [markFrom, ih fun i hi => ?_]
      · exact congrArg (fun k => (c, k) :: _) hfirst
      · have hlater := h (i + 1) (Nat.succ_lt_succ hi)
        rwa [Nat.add_right_comm, Nat.add_assoc]

theorem covers_of_markFrom_eq (h : markFrom regions place t = unmarkedText t) {i : Nat} (hi : i < t.length) :
    covers regions (place + i) = false := by
  induction t generalizing place i with
  | nil => cases hi
  | cons c r ih =>
      rcases List.cons.inj h with ⟨hfirst, hrest⟩
      cases i with
      | zero => exact (Prod.mk.inj hfirst).2
      | succ i =>
          have hlater := ih hrest (Nat.lt_of_succ_lt_succ hi)
          rwa [Nat.add_right_comm, Nat.add_assoc] at hlater

end Marks

/-!
# Covered places move along
-/

section Moved

variable {a b b' c : Text} {s s' : Span} {regions regions' : List Span}

theorem holds_eq_false_of_covers {i : Nat} (h : covers regions i = false) : forall s, s ∈ regions -> s.holds i = false :=
  fun s hs => Bool.eq_false_iff.mpr (List.any_eq_false.mp h s hs)

/-- What does not hold the old spacing does not hold the new spacing. -/
theorem holds_eq_false_moved {i i' : Nat} (hi : i < b.length) (hi' : i' < b'.length) (hs : MovedSpan a b b' s s')
    (hnot : s.holds (a.length + i) = false) : s'.holds (a.length + i') = false := by
  have hnot : ¬ (s.start ≤ a.length + i ∧ a.length + i < s.stop) := fun h => by
    rw [holds_iff.mpr h] at hnot
    cases hnot
  refine Bool.eq_false_iff.mpr fun hholds => hnot ?_
  have hholds := holds_iff.mp hholds
  unfold MovedSpan Moved at hs
  omega

/-- A region that does not hold the spacing keeps what it holds. -/
theorem slice_moved (hb : Spacing b) (hs : MovedSpan a b b' s s') (hnot : s.holds a.length = false) :
    Text.slice (a ++ (b' ++ c)) s' = Text.slice (a ++ (b ++ c)) s := by
  have hlength := List.length_pos_of_ne_nil hb.ne_nil
  have hnot : ¬ (s.start ≤ a.length ∧ a.length < s.stop) := fun h => by
    rw [holds_iff.mpr h] at hnot
    cases hnot
  rcases hs with ⟨hstart, ⟨hstop, hstop'⟩ | ⟨hstop, hstop'⟩⟩
  · rw [slice_append_left hstop, slice_append_left (hstop' ▸ hstop)]
    rcases hstart with ⟨_, hstart'⟩ | ⟨hstart, hstart'⟩
    · rw [Text.slice, Text.slice, Span.size, Span.size, hstart', hstop']
    · have hnone : s.size = 0 := by
        unfold Span.size
        omega
      have hnone' : s'.size = 0 := by
        unfold Span.size
        omega
      rw [Text.slice, Text.slice, hnone, hnone', List.take_zero, List.take_zero]
  · rcases hstart with ⟨hstart, _⟩ | ⟨hstart, hstart'⟩
    · omega
    · rcases Nat.exists_eq_add_of_le hstart with ⟨k, hk⟩
      have hk' : s'.start = a.length + b'.length + k := by omega
      have hsize : s'.size = s.size := by
        unfold Span.size
        omega
      rw [Text.slice, Text.slice, hsize, hk, hk', drop_behind, drop_behind]

end Moved

/-!
# Spacing that stands together
-/

section Together

variable {t u v w : Text} {x y : Char}

/-- No region begins or ends between two characters of spacing. -/
theorem covers_succ_of_isSpacing (heq : t = u ++ x :: y :: v) (hx : Chars.isSpacing x = true)
    (hy : Chars.isSpacing y = true) : covers (ignored t) (u.length + 1) = covers (ignored t) u.length := by
  have hb : Spacing [x, y] := ⟨List.cons_ne_nil _ _, by simp [hx, hy]⟩
  have hmoved := (neutral_of_spacing (a := u) (c := v) hb hb).ignored_moved
  have heq : t = u ++ ([x, y] ++ v) := heq
  rw [← heq] at hmoved
  refine covers_eq_of_forall₂ hmoved fun s s' _ hs => ?_
  have hlength : [x, y].length = 2 := rfl
  unfold MovedSpan Moved at hs
  rw [Bool.eq_iff_iff, holds_iff, holds_iff]
  omega

/-- Spacing that stands together has one mark. -/
theorem markFrom_spacing (heq : t = u ++ (w ++ v)) (hw : forall ch, ch ∈ w -> Chars.isSpacing ch = true) :
    markFrom (ignored t) u.length w = w.map (·, covers (ignored t) u.length) := by
  induction w generalizing u with
  | nil => rfl
  | cons x w ih =>
      rcases List.forall_mem_cons.mp hw with ⟨hx, hw⟩
      cases w with
      | nil => rfl
      | cons y w =>
          have hcovers := covers_succ_of_isSpacing heq hx (hw y List.mem_cons_self)
          have hrest := ih (u := u ++ [x]) (by rw [heq]; simp) hw
          rw [List.length_append, List.length_singleton, hcovers] at hrest
          rw [markFrom, hrest]
          rfl

end Together

/-!
# Respacing marked texts
-/

/-- Some spacing without marks is replaced by other spacing without marks. -/
def Respaces (m m' : List (Char × Bool)) : Prop :=
  exists front b b' back, Spacing b ∧ Spacing b' ∧ m = front ++ (unmarkedText b ++ back) ∧
    m' = front ++ (unmarkedText b' ++ back)

/-- The marks are those of the text. -/
def Faithful (m : List (Char × Bool)) : Prop :=
  marked (unmark m) = m

theorem unmark_marked (t : Text) : unmark (marked t) = t :=
  unmark_markFrom _ _ t

theorem faithful_marked (t : Text) : Faithful (marked t) := by
  rw [Faithful, unmark_marked]

/-- The ignored regions of two texts hold the same, one after the other. -/
def HoldSame (t t' : Text) : Prop :=
  (ignored t').map (Text.slice t') = (ignored t).map (Text.slice t)

section Steps

variable {a b b' c : Text} {front back m m' : List (Char × Bool)}

theorem holdSame_respaced (hb : Spacing b) (hb' : Spacing b')
    (hfree : forall i, i < b.length -> covers (ignored (a ++ (b ++ c))) (a.length + i) = false) :
    HoldSame (a ++ (b ++ c)) (a ++ (b' ++ c)) := by
  have hnone : forall s, s ∈ ignored (a ++ (b ++ c)) -> s.holds a.length = false :=
    holds_eq_false_of_covers (hfree 0 (List.length_pos_of_ne_nil hb.ne_nil))
  have hmoved := (neutral_of_spacing (a := a) (c := c) hb hb').ignored_moved
  unfold HoldSame
  generalize ignored (a ++ (b ++ c)) = regions at hnone hmoved ⊢
  generalize ignored (a ++ (b' ++ c)) = regions' at hmoved ⊢
  induction hmoved with
  | nil => rfl
  | cons hs _ ih =>
      rcases List.forall_mem_cons.mp hnone with ⟨hfirst, hrest⟩
      rw [List.map_cons, List.map_cons, slice_moved hb hs hfirst, ih hrest]

theorem marks_of_marked (hmarked : marked (a ++ (b ++ c)) = front ++ (unmarkedText b ++ back))
    (hfront : front.length = a.length) :
    markFrom (ignored (a ++ (b ++ c))) 0 a = front ∧
      markFrom (ignored (a ++ (b ++ c))) a.length b = unmarkedText b ∧
        markFrom (ignored (a ++ (b ++ c))) (a.length + b.length) c = back := by
  rw [marked, markFrom_append, markFrom_append, Nat.zero_add] at hmarked
  rcases List.append_inj hmarked (by rw [length_markFrom, hfront]) with ⟨hfrontMarks, hrest⟩
  have hblength : (unmarkedText b).length = b.length := List.length_map _
  exact ⟨hfrontMarks, List.append_inj hrest (by rw [length_markFrom, hblength])⟩

/-- The marks are found again after a change of spacing that has none. -/
theorem marked_respaced (hb : Spacing b) (hb' : Spacing b')
    (hmarked : marked (a ++ (b ++ c)) = front ++ (unmarkedText b ++ back)) (hfront : front.length = a.length) :
    marked (a ++ (b' ++ c)) = front ++ (unmarkedText b' ++ back) ∧ HoldSame (a ++ (b ++ c)) (a ++ (b' ++ c)) := by
  rcases marks_of_marked hmarked hfront with ⟨hfrontMarks, hbMarks, hbackMarks⟩
  have hfree : forall i, i < b.length -> covers (ignored (a ++ (b ++ c))) (a.length + i) = false :=
    fun i hi => covers_of_markFrom_eq hbMarks hi
  have hmoved := (neutral_of_spacing (a := a) (c := c) hb hb').ignored_moved
  have hkept : forall {i i' : Nat}, Moved a b b' i i' ->
      covers (ignored (a ++ (b' ++ c))) i' = covers (ignored (a ++ (b ++ c))) i := by
    intro i i' hi
    exact (covers_moved hb.ne_nil hb'.ne_nil hmoved hi).symm
  refine ⟨?_, holdSame_respaced hb hb' hfree⟩
  rw [marked, markFrom_append, markFrom_append, Nat.zero_add, ← hfrontMarks, ← hbackMarks]
  congr 1
  · refine markFrom_congr fun i hi => hkept (Or.inl ⟨?_, rfl⟩)
    omega
  · congr 1
    · refine markFrom_eq_unmarkedText fun i' hi' => ?_
      have hfirst := hfree 0 (List.length_pos_of_ne_nil hb.ne_nil)
      rw [← hfirst]
      refine (covers_eq_of_forall₂ hmoved fun s s' hs hspan => ?_).symm
      have hnot := holds_eq_false_of_covers hfirst s hs
      rw [hnot, holds_eq_false_moved (List.length_pos_of_ne_nil hb.ne_nil) hi' hspan hnot]
    · refine markFrom_congr fun i hi => hkept (Or.inr ⟨?_, ?_⟩) <;> omega

theorem Respaces.faithful (h : Respaces m m') (hm : Faithful m) : Faithful m' ∧ HoldSame (unmark m) (unmark m') := by
  rcases h with ⟨front, b, b', back, hb, hb', rfl, rfl⟩
  have hchars : forall b : Text, unmark (front ++ (unmarkedText b ++ back)) = unmark front ++ (b ++ unmark back) := by
    intro b
    rw [unmark_append, unmark_append, unmarkedText, unmark_map]
  unfold Faithful at hm ⊢
  rw [hchars] at hm ⊢
  rw [hchars]
  exact marked_respaced hb hb' hm (List.length_map _).symm

/-- A chain of changes of spacing that has no marks leaves the marks with their characters, and the regions with what they
hold. -/
theorem faithful_of_reflTransGen (h : Relation.ReflTransGen Respaces m m') (hm : Faithful m) :
    Faithful m' ∧ HoldSame (unmark m) (unmark m') := by
  induction h with
  | refl => exact ⟨hm, rfl⟩
  | tail _ hstep ih =>
      rcases hstep.faithful ih.1 with ⟨hfaithful, hsame⟩
      exact ⟨hfaithful, hsame.trans ih.2⟩

theorem Respaces.cons (x : Char × Bool) (h : Respaces m m') : Respaces (x :: m) (x :: m') := by
  rcases h with ⟨front, b, b', back, hb, hb', rfl, rfl⟩
  exact ⟨x :: front, b, b', back, hb, hb', rfl, rfl⟩

theorem reflTransGen_cons (x : Char × Bool) (h : Relation.ReflTransGen Respaces m m') :
    Relation.ReflTransGen Respaces (x :: m) (x :: m') :=
  h.lift (x :: ·) fun _ _ => Respaces.cons x

end Steps

end Region
end WikiEntry
