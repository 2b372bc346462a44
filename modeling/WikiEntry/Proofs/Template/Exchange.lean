import WikiEntry.Proofs.Region.Exchange
import WikiEntry.Proofs.Template.Balanced

/-!
# Templates around an exchanged part

The scan for templates reads over a part without braces as if it were not there.  So when such a part is exchanged for
another one, and the hidden regions only move, the new text has the templates of the old one, moved along with the text
that they begin and end at.
-/

namespace WikiEntry
namespace Template

open Region (Moved MovedSpan)

/-- A part of a text that is not empty and has no braces. -/
structure Braceless (b : Text) : Prop where
  ne_nil : b ≠ []
  plain : forall ch, ch ∈ b -> ch ≠ '\x7b' ∧ ch ≠ '\x7d'

section Scan

variable {b b' x y : Text} {place place' depth start start' : Nat}

/-!
# The scan
-/

theorem Braceless.head?_ne (hb : Braceless b) (y : Text) {ch : Char} (hch : ch = '\x7b' ∨ ch = '\x7d') :
    (b ++ y).head? ≠ some ch := by
  rcases List.exists_cons_of_ne_nil hb.ne_nil with ⟨z, r, rfl⟩
  intro hhead
  have hz := hb.plain z List.mem_cons_self
  rw [Option.some.inj hhead] at hz
  rcases hch with rfl | rfl
  · exact hz.1 rfl
  · exact hz.2 rfl

theorem regionsFrom_plain_append (hb : forall ch, ch ∈ b -> ch ≠ '\x7b' ∧ ch ≠ '\x7d') (y : Text) :
    regionsFrom place depth start (b ++ y) = regionsFrom (place + b.length) depth start y := by
  induction b generalizing place with
  | nil => rfl
  | cons ch b ih =>
      rcases List.forall_mem_cons.mp hb with ⟨hch, hb⟩
      rw [List.cons_append, regionsFrom_plain _ _ _ (absurd · hch.1) (fun _ => (absurd · hch.2)), ih hb, List.length_cons,
        Nat.add_assoc, Nat.add_comm 1]

/-- Where no template is open, closing braces are read one by one. -/
theorem regionsFrom_zero_closing (place start : Nat) (r : Text) :
    regionsFrom place 0 start ('\x7d' :: '\x7d' :: r) = regionsFrom (place + 2) 0 start r := by
  rw [regionsFrom_plain _ _ _ (absurd · (by decide)) (absurd · (by decide)),
    regionsFrom_plain _ _ _ (absurd · (by decide)) (absurd · (by decide))]

/-- Behind the part, the scan finds the same templates further on. -/
theorem regionsFrom_behind {a : Text} (hplace : a.length + b.length ≤ place) (hplace' : place' + b.length = place + b'.length)
    (hstart : depth = 0 ∨ Moved a b b' start start') :
    List.Forall₂ (MovedSpan a b b') (regionsFrom place depth start y) (regionsFrom place' depth start' y) := by
  induction y using delimiter_induction generalizing place place' depth start start' with
  | nil => exact List.Forall₂.nil
  | opening r ih =>
      rw [regionsFrom_opening, regionsFrom_opening]
      refine ih (by omega) (by omega) (Or.inr ?_)
      by_cases hdepth : depth = 0
      · rw [if_pos hdepth, if_pos hdepth]
        exact Or.inr ⟨hplace, hplace'⟩
      · rw [if_neg hdepth, if_neg hdepth]
        exact hstart.resolve_left hdepth
  | closing r ih =>
      rcases Nat.lt_trichotomy depth 1 with hdepth | rfl | hdepth
      · rw [Nat.lt_one_iff.mp hdepth, regionsFrom_zero_closing, regionsFrom_zero_closing]
        exact ih (by omega) (by omega) (Or.inl rfl)
      · rw [regionsFrom_last, regionsFrom_last]
        have hstop : Moved a b b' (place + 2) (place' + 2) := Or.inr ⟨by omega, by omega⟩
        exact .cons ⟨hstart.resolve_left (by decide), hstop⟩ (ih (by omega) (by omega) (Or.inl rfl))
      · rw [regionsFrom_closing _ _ hdepth, regionsFrom_closing _ _ hdepth]
        exact ih (by omega) (by omega) (Or.inr (hstart.resolve_left (by omega)))
  | plain ch r hopen hclose ih =>
      rw [regionsFrom_plain _ _ _ hopen (fun _ => hclose), regionsFrom_plain _ _ _ hopen (fun _ => hclose)]
      exact ih (by omega) (by omega) hstart

/-- In front of the part, the scan finds the same templates. -/
theorem regionsFrom_moved {a : Text} (hb : Braceless b) (hb' : Braceless b') (hplace : place + x.length = a.length)
    (hstart : start ≤ place) :
    List.Forall₂ (MovedSpan a b b') (regionsFrom place depth start (x ++ (b ++ y)))
      (regionsFrom place depth start (x ++ (b' ++ y))) := by
  induction x using delimiter_induction generalizing place depth start with
  | nil =>
      rw [List.length_nil, Nat.add_zero] at hplace
      rw [List.nil_append, List.nil_append, regionsFrom_plain_append hb.plain, regionsFrom_plain_append hb'.plain]
      exact regionsFrom_behind (by omega) (by omega) (Or.inr (Or.inl ⟨by omega, rfl⟩))
  | opening r ih =>
      simp only [List.length_cons] at hplace
      simp only [List.cons_append, regionsFrom_opening]
      refine ih (by omega) ?_
      split <;> omega
  | closing r ih =>
      simp only [List.length_cons] at hplace
      simp only [List.cons_append]
      rcases Nat.lt_trichotomy depth 1 with hdepth | rfl | hdepth
      · rw [Nat.lt_one_iff.mp hdepth, regionsFrom_zero_closing, regionsFrom_zero_closing]
        exact ih (by omega) (by omega)
      · rw [regionsFrom_last, regionsFrom_last]
        have hfirst : Moved a b b' start start := Or.inl ⟨by omega, rfl⟩
        have hlast : Moved a b b' (place + 2) (place + 2) := Or.inl ⟨by omega, rfl⟩
        exact .cons ⟨hfirst, hlast⟩ (ih (by omega) (by omega))
      · rw [regionsFrom_closing _ _ hdepth, regionsFrom_closing _ _ hdepth]
        exact ih (by omega) (by omega)
  | plain ch r hopen hclose ih =>
      simp only [List.length_cons] at hplace
      have hplain : forall {b : Text}, Braceless b ->
          regionsFrom place depth start (ch :: (r ++ (b ++ y))) = regionsFrom (place + 1) depth start (r ++ (b ++ y)) := by
        intro b hb
        exact regionsFrom_plain _ _ _ (fun hch => head?_append_ne (hopen hch) (hb.head?_ne y (Or.inl rfl)))
          fun _ hch => head?_append_ne (hclose hch) (hb.head?_ne y (Or.inr rfl))
      rw [List.cons_append, List.cons_append, hplain hb, hplain hb']
      exact ih (by omega) (by omega)

theorem templates_moved (hb : Braceless b) (hb' : Braceless b') (x y : Text) :
    List.Forall₂ (MovedSpan x b b') (Region.templates (x ++ (b ++ y))) (Region.templates (x ++ (b' ++ y))) :=
  regionsFrom_moved hb hb' (Nat.zero_add _) (Nat.le_refl 0)

end Scan

/-!
# Braces around the part
-/

section Braces

variable {b b' x y : Text} {i i' : Nat} {ch : Char}

/-- No brace stands inside the part. -/
theorem Braceless.outside (hb : Braceless b) (hi : (x ++ (b ++ y))[i]? = some ch) (hch : ch = '\x7b' ∨ ch = '\x7d') :
    i < x.length ∨ x.length + b.length ≤ i := by
  by_contra hinside
  rw [List.getElem?_append_right (by omega), List.getElem?_append_left (by omega)] at hi
  have hplain := hb.plain ch (List.mem_of_getElem? hi)
  rcases hch with rfl | rfl
  · exact hplain.1 rfl
  · exact hplain.2 rfl

/-- A brace at a place becomes a brace at the place that it becomes. -/
theorem Braceless.getElem?_moved (hb : Braceless b) (hb' : Braceless b') (hi : Moved x b b' i i')
    (hch : ch = '\x7b' ∨ ch = '\x7d') : (x ++ (b ++ y))[i]? = some ch <-> (x ++ (b' ++ y))[i']? = some ch := by
  have hmoved : forall {b b' : Text} {i i' : Nat}, Braceless b -> Moved x b b' i i' -> (x ++ (b ++ y))[i]? = some ch ->
      (x ++ (b' ++ y))[i']? = some ch := by
    intro b b' i i' hb hi hbrace
    have hlength := List.length_pos_of_ne_nil hb.ne_nil
    have houtside := hb.outside hbrace hch
    rcases hi with ⟨hle, heq⟩ | ⟨hle, heq⟩
    · have hlt : i < x.length := by omega
      rw [heq, List.getElem?_append_left hlt]
      rwa [List.getElem?_append_left hlt] at hbrace
    · have hsame : i' - x.length - b'.length = i - x.length - b.length := by omega
      rw [List.getElem?_append_right (by omega), List.getElem?_append_right (by omega)] at hbrace ⊢
      rw [hsame]
      exact hbrace
  exact ⟨hmoved hb hi, hmoved hb' hi.symm⟩

/-- Whether three braces stand at a place does not change. -/
theorem Braceless.startsWith_moved (hb : Braceless b) (hb' : Braceless b') (hch : ch = '\x7b' ∨ ch = '\x7d') {n : Nat}
    (hi : forall k, k < n -> Moved x b b' (i + k) (i' + k)) :
    Text.startsWith ((x ++ (b ++ y)).drop i) (List.replicate n ch) =
      Text.startsWith ((x ++ (b' ++ y)).drop i') (List.replicate n ch) := by
  induction n generalizing i i' with
  | zero => rw [List.replicate_zero, Text.startsWith_drop_nil, Text.startsWith_drop_nil]
  | succ n ih =>
      have hlater : forall k, k < n -> Moved x b b' (i + 1 + k) (i' + 1 + k) := by
        intro k hk
        have hk := hi (k + 1) (Nat.succ_lt_succ hk)
        rwa [Nat.add_comm k 1, ← Nat.add_assoc, ← Nat.add_assoc] at hk
      have hrest := ih hlater
      have hfirst : (x ++ (b ++ y))[i]? = some ch <-> (x ++ (b' ++ y))[i']? = some ch :=
        hb.getElem?_moved hb' (hi 0 (Nat.zero_lt_succ n)) hch
      rw [List.replicate_succ, Bool.eq_iff_iff, Text.startsWith_drop_cons, Text.startsWith_drop_cons, hrest, hfirst]

end Braces

/-!
# Texts inside templates
-/

/-- The outermost templates of a text are bodies in braces. -/
theorem exists_standsAt_of_mem_templates {t : Text} {s : Span} (hs : s ∈ Region.templates t) :
    exists before body behind, StandsAt t s before body behind := by
  rcases exists_of_mem_regionsFrom hs with ⟨before, rest, size, hopens, _, rfl⟩
  rw [Nat.zero_add]
  exact ⟨before, hopens.exists_standsAt⟩

/-- Two braces stand at each end. -/
theorem StandsAt.getElem?_eq {t : Text} {s : Span} {before body behind : Text} (h : StandsAt t s before body behind) :
    t[s.start]? = some '\x7b' ∧ t[s.start + 1]? = some '\x7b' ∧ t[s.stop - 2]? = some '\x7d' ∧
      t[s.stop - 1]? = some '\x7d' := by
  have hlength := length_inBraces body
  have hlast : before.length + (inBraces body).length - 2 = before.length + (body.length + 2) := by omega
  have hlast' : before.length + (inBraces body).length - 1 = before.length + (body.length + 3) := by omega
  rw [h.eq_append, h.span_eq]
  dsimp only
  rw [hlast, hlast']
  simp [inBraces]

/-- What becomes of a text that stands at a place of the text with `b` behind `a`. -/
inductive Piece (a b b' : Text) : (offset offset' : Nat) -> (t t' : Text) -> Prop where
  | before {offset : Nat} {t : Text} (h : offset + t.length ≤ a.length) : Piece a b b' offset offset t t
  | around {offset : Nat} {x y : Text} (h : offset + x.length = a.length) :
      Piece a b b' offset offset (x ++ (b ++ y)) (x ++ (b' ++ y))
  | behind {offset offset' : Nat} {t : Text} (h : a.length + b.length ≤ offset)
      (h' : offset' + b.length = offset + b'.length) : Piece a b b' offset offset' t t

/-- An outermost template that moves with its text: what tells it from a parameter stays, and what is inside moves. -/
structure MovedRegion (a b b' : Text) (offset offset' : Nat) (t t' : Text) (s s' : Span) : Prop where
  start : Moved a b b' (offset + s.start) (offset' + s'.start)
  stop : Moved a b b' (offset + s.stop) (offset' + s'.stop)
  front : Text.startsWith (t.drop s.start) "\x7b\x7b\x7b" = Text.startsWith (t'.drop s'.start) "\x7b\x7b\x7b"
  back : Text.startsWith (t.drop s.stop) "\x7d" = Text.startsWith (t'.drop s'.stop) "\x7d"
  inside : Piece a b b' (offset + s.start + 2) (offset' + s'.start + 2) (t.slice ⟨s.start + 2, s.stop - 2⟩)
    (t'.slice ⟨s'.start + 2, s'.stop - 2⟩)

section Piece

variable {a b b' t t' x y : Text} {offset offset' : Nat} {s s' : Span}

/-- What is inside an outermost template stands in front of the part, behind it or around it. -/
theorem piece_inside (hb : Braceless b) (hb' : Braceless b') (hoffset : offset + x.length = a.length)
    (hs : s ∈ Region.templates (x ++ (b ++ y))) (hmoved : MovedSpan x b b' s s') :
    Piece a b b' (offset + s.start + 2) (offset + s'.start + 2) (Text.slice (x ++ (b ++ y)) ⟨s.start + 2, s.stop - 2⟩)
      (Text.slice (x ++ (b' ++ y)) ⟨s'.start + 2, s'.stop - 2⟩) := by
  rcases exists_standsAt_of_mem_templates hs with ⟨_, _, _, hstands⟩
  rcases hstands.getElem?_eq with ⟨hfirst, hsecond, hthird, hfourth⟩
  have hfirst := hb.outside hfirst (Or.inl rfl)
  have hsecond := hb.outside hsecond (Or.inl rfl)
  have hthird := hb.outside hthird (Or.inr rfl)
  have hfourth := hb.outside hfourth (Or.inr rfl)
  have hlength := List.length_pos_of_ne_nil hb.ne_nil
  have hlength' := List.length_pos_of_ne_nil hb'.ne_nil
  have hbraces := (within_of_mem_templates hs).braces
  have hinside := length_inside_le (x ++ (b ++ y)) s
  rcases hmoved with ⟨⟨hstart, heq⟩ | ⟨hstart, heq⟩, ⟨hstop, heq'⟩ | ⟨hstop, heq'⟩⟩
  · have hsame : Text.slice (x ++ (b' ++ y)) ⟨s'.start + 2, s'.stop - 2⟩ =
        Text.slice (x ++ (b ++ y)) ⟨s.start + 2, s.stop - 2⟩ := by
      rw [heq, heq', Region.slice_append_left, Region.slice_append_left]
      · dsimp only
        omega
      · dsimp only
        omega
    rw [hsame, heq]
    exact .before (by omega)
  · have haround : forall {b : Text} {stop : Nat}, x.length + b.length + 2 ≤ stop ->
        Text.slice (x ++ (b ++ y)) ⟨s.start + 2, stop - 2⟩ =
          x.drop (s.start + 2) ++ (b ++ y.take (stop - 2 - x.length - b.length)) := by
      intro b stop hstop
      have hsize : stop - 2 - (s.start + 2) =
          (x.drop (s.start + 2)).length + (b.length + (stop - 2 - x.length - b.length)) := by
        rw [List.length_drop]
        omega
      have hle : s.start + 2 ≤ x.length := by omega
      rw [Text.slice, Span.size, hsize, List.drop_append_of_le_length hle, List.take_length_add_append,
        List.take_length_add_append]
    rw [heq, haround (by omega), haround (by omega)]
    have hbehind : s'.stop - 2 - x.length - b'.length = s.stop - 2 - x.length - b.length := by omega
    rw [hbehind]
    refine .around ?_
    rw [List.length_drop]
    omega
  · omega
  · have hsame : Text.slice (x ++ (b' ++ y)) ⟨s'.start + 2, s'.stop - 2⟩ =
        Text.slice (x ++ (b ++ y)) ⟨s.start + 2, s.stop - 2⟩ := by
      have hplace : s.start + 2 = x.length + b.length + (s.start + 2 - x.length - b.length) := by omega
      have hplace' : s'.start + 2 = x.length + b'.length + (s.start + 2 - x.length - b.length) := by omega
      have hsize : s'.stop - 2 - (s'.start + 2) = s.stop - 2 - (s.start + 2) := by omega
      rw [Text.slice, Text.slice, Span.size, Span.size, hsize, hplace, hplace', Region.drop_behind, Region.drop_behind]
    rw [hsame]
    exact .behind (by omega) (by omega)

theorem movedRegion_around (hb : Braceless b) (hb' : Braceless b') (hoffset : offset + x.length = a.length)
    (hs : s ∈ Region.templates (x ++ (b ++ y))) (hmoved : MovedSpan x b b' s s') :
    MovedRegion a b b' offset offset (x ++ (b ++ y)) (x ++ (b' ++ y)) s s' := by
  rcases exists_standsAt_of_mem_templates hs with ⟨_, _, _, hstands⟩
  rcases hstands.getElem?_eq with ⟨hfirst, hsecond, _, _⟩
  have hlength := List.length_pos_of_ne_nil hb.ne_nil
  have hplace := hb.outside hfirst (Or.inl rfl)
  have hplace' := hb.outside hsecond (Or.inl rfl)
  have hstart := hmoved.1
  have hstop := hmoved.2
  have hfront : forall k, k < 3 -> Moved x b b' (s.start + k) (s'.start + k) := by
    unfold Moved at hstart ⊢
    omega
  have hback : forall k, k < 1 -> Moved x b b' (s.stop + k) (s'.stop + k) := by
    intro k hk
    rw [Nat.lt_one_iff.mp hk]
    exact hstop
  constructor
  · unfold Moved at hstart ⊢
    omega
  · unfold Moved at hstop ⊢
    omega
  · exact hb.startsWith_moved hb' (Or.inl rfl) hfront
  · exact hb.startsWith_moved hb' (Or.inr rfl) hback
  · exact piece_inside hb hb' hoffset hs hmoved

/-- The outermost templates of a text move with it. -/
theorem Piece.templates_moved (hb : Braceless b) (hb' : Braceless b') (h : Piece a b b' offset offset' t t') :
    List.Forall₂ (MovedRegion a b b' offset offset' t t') (Region.templates t) (Region.templates t') := by
  cases h with
  | before h =>
      refine List.forall₂_same.mpr fun s hs => ?_
      have hwithin := within_of_mem_templates hs
      have hinside := length_inside_le t s
      have hbraces := hwithin.braces
      have hlast := hwithin.le_last
      exact ⟨Or.inl ⟨by omega, rfl⟩, Or.inl ⟨by omega, rfl⟩, rfl, rfl, .before (by omega)⟩
  | around h =>
      refine ((List.forall₂_and_left _ _).mpr ⟨fun s hs => hs, Template.templates_moved hb hb' _ _⟩).imp ?_
      exact fun s s' hs => movedRegion_around hb hb' h hs.1 hs.2
  | behind h h' =>
      refine List.forall₂_same.mpr fun s _ => ?_
      exact ⟨Or.inr ⟨by omega, by omega⟩, Or.inr ⟨by omega, by omega⟩, rfl, rfl, .behind (by omega) (by omega)⟩

/-!
# Templates at any depth
-/

variable {hidden hidden' : List Span}

theorem spansOfRegion_moved (hb : Braceless b) (hb' : Braceless b')
    (hhidden : List.Forall₂ (MovedSpan a b b') hidden hidden') {levels : Nat} (h : MovedRegion a b b' offset offset' t t' s s')
    (hinside : forall {offset offset' : Nat} {t t' : Text}, Piece a b b' offset offset' t t' ->
      List.Forall₂ (MovedSpan a b b') (spansFrom hidden levels offset t) (spansFrom hidden' levels offset' t')) :
    List.Forall₂ (MovedSpan a b b') (spansOfRegion hidden levels offset t s)
      (spansOfRegion hidden' levels offset' t' s') := by
  rw [spansOfRegion, spansOfRegion, ← Region.covers_moved hb.ne_nil hb'.ne_nil hhidden h.start, ← h.front, ← h.back]
  split
  · exact .nil
  · split
    · exact .nil
    · refine .cons ⟨?_, ?_⟩ (hinside h.inside)
      · rw [Span.shift, Span.shift, Nat.add_comm, Nat.add_comm s'.start]
        exact h.start
      · rw [Span.shift, Span.shift, Nat.add_comm s.stop, Nat.add_comm s'.stop]
        exact h.stop

theorem Piece.spansFrom_moved (hb : Braceless b) (hb' : Braceless b')
    (hhidden : List.Forall₂ (MovedSpan a b b') hidden hidden') (levels : Nat) (h : Piece a b b' offset offset' t t') :
    List.Forall₂ (MovedSpan a b b') (spansFrom hidden levels offset t) (spansFrom hidden' levels offset' t') := by
  induction levels generalizing offset offset' t t' with
  | zero => exact .nil
  | succ levels ih =>
      rw [spansFrom_succ, spansFrom_succ]
      exact List.rel_flatMap (h.templates_moved hb hb') fun _ _ hs => spansOfRegion_moved hb hb' hhidden hs ih

/-- The templates of a text move along with it when a part without braces is exchanged and the hidden regions only
move. -/
theorem spans_moved (hb : Braceless b) (hb' : Braceless b') (a c : Text)
    (hhidden : List.Forall₂ (MovedSpan a b b') (Region.hidden (a ++ (b ++ c))) (Region.hidden (a ++ (b' ++ c)))) :
    List.Forall₂ (MovedSpan a b b') (spans (a ++ (b ++ c))) (spans (a ++ (b' ++ c))) := by
  have hlevels : (a ++ (b ++ c)).length < (a ++ (b ++ c)).length + (a ++ (b' ++ c)).length + 1 := by omega
  have hlevels' : (a ++ (b' ++ c)).length < (a ++ (b ++ c)).length + (a ++ (b' ++ c)).length + 1 := by omega
  rw [spans, spans, spansFrom_eq_of_length_lt (Nat.lt_succ_self _) hlevels,
    spansFrom_eq_of_length_lt (Nat.lt_succ_self _) hlevels']
  exact (Piece.around (Nat.zero_add _)).spansFrom_moved hb hb' hhidden _

end Piece

end Template
end WikiEntry
