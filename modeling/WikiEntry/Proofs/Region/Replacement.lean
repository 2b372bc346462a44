import WikiEntry.Region.Replacement
import WikiEntry.Proofs.Pattern.Matched

/-!
# Through replacements

Edits in order touch the text outside their spans nowhere, so that edits which put back what their spans hold leave
the text as it is.  When characters of some kind are counted, what is counted after the edits is what is counted
before, less what the spans held, and what the new texts hold.
-/

namespace WikiEntry
namespace Edit

/-- Edits from left to right, none of which begins before `place` or overlaps another. -/
def InOrder (place : Nat) : List Edit -> Prop
  | [] => True
  | e :: edits => place ≤ e.span.start ∧ e.span.start ≤ e.span.stop ∧ InOrder e.span.stop edits

variable {t : Text} {place : Nat} {edits : List Edit} {kind : Char -> Bool}

/-- What lies between the edits, and in the place of one. -/
theorem drop_eq_append {s : Span} (hplace : place ≤ s.start) (hspan : s.start ≤ s.stop) :
    t.drop place = (t.drop place).take (s.start - place) ++ t.slice s ++ t.drop s.stop := by
  have hstart : (t.drop place).drop (s.start - place) = t.drop s.start := by
    rw [List.drop_drop, Nat.add_sub_cancel' hplace]
  have hstop : (t.drop s.start).drop s.size = t.drop s.stop := by
    rw [List.drop_drop, Span.size, Nat.add_sub_cancel' hspan]
  calc t.drop place
      = (t.drop place).take (s.start - place) ++ t.drop s.start := by
        rw [← hstart, List.take_append_drop]
    _ = (t.drop place).take (s.start - place) ++ ((t.drop s.start).take s.size ++ t.drop s.stop) := by
        rw [← hstop, List.take_append_drop]
    _ = _ := (List.append_assoc _ _ _).symm

theorem applyFrom_cons {e : Edit} (h : InOrder place (e :: edits)) :
    applyFrom place (t.drop place) (e :: edits) =
      (t.drop place).take (e.span.start - place) ++ e.text ++
        applyFrom e.span.stop (t.drop e.span.stop) edits := by
  rw [applyFrom, List.drop_drop, Nat.add_sub_cancel' (Nat.le_trans h.1 h.2.1)]

/-- Edits that put back what the spans hold change nothing. -/
theorem applyFrom_eq_drop (h : InOrder place edits) (hsame : forall e, e ∈ edits -> e.text = t.slice e.span) :
    applyFrom place (t.drop place) edits = t.drop place := by
  induction edits generalizing place with
  | nil => rfl
  | cons e edits ih =>
      rw [applyFrom_cons h, ih h.2.2 fun e' he' => hsame e' (List.mem_cons_of_mem e he'), hsame e List.mem_cons_self,
        ← drop_eq_append h.1 h.2.1]

theorem InOrder.le_start (h : InOrder place edits) {e : Edit} (he : e ∈ edits) : place ≤ e.span.start := by
  induction edits generalizing place with
  | nil => cases he
  | cons e' edits ih =>
      rcases h with ⟨hplace, hspan, hrest⟩
      rcases List.mem_cons.mp he with rfl | he
      · exact hplace
      · exact Nat.le_trans hplace (Nat.le_trans hspan (ih hrest he))

/-- An edit that begins behind another one begins behind its end. -/
theorem InOrder.stop_le (h : InOrder place edits) {e e' : Edit} (he : e ∈ edits) (he' : e' ∈ edits)
    (hlt : e.span.start < e'.span.start) : e.span.stop ≤ e'.span.start := by
  induction edits generalizing place with
  | nil => cases he
  | cons x edits ih =>
      rcases h with ⟨_, hspan, hrest⟩
      rcases List.mem_cons.mp he with rfl | hmem
      · rcases List.mem_cons.mp he' with rfl | hmem'
        · exact absurd hlt (Nat.lt_irrefl _)
        · exact hrest.le_start hmem'
      · rcases List.mem_cons.mp he' with rfl | hmem'
        · have hle := hrest.le_start hmem
          omega
        · exact ih hrest hmem hmem'

theorem inOrder_concat {e : Edit} (h : InOrder place (edits ++ [e])) :
    InOrder place edits ∧ (forall e', e' ∈ edits -> e'.span.stop ≤ e.span.start) ∧ place ≤ e.span.start ∧
      e.span.start ≤ e.span.stop := by
  induction edits generalizing place with
  | nil => exact ⟨trivial, List.forall_mem_nil _, h.1, h.2.1⟩
  | cons e' edits ih =>
      rcases h with ⟨hplace, hspan, hrest⟩
      rcases ih hrest with ⟨horder, hfront, hlast, hend⟩
      exact ⟨⟨hplace, hspan, horder⟩, List.forall_mem_cons.mpr ⟨hlast, hfront⟩,
        Nat.le_trans hplace (Nat.le_trans hspan hlast), hend⟩

theorem applyFrom_concat {e : Edit} (h : InOrder place (edits ++ [e])) (hlength : e.span.start ≤ t.length) :
    applyFrom place (t.drop place) (edits ++ [e]) =
      applyFrom place ((t.take e.span.start ++ (e.text ++ t.drop e.span.stop)).drop place) edits := by
  induction edits generalizing place with
  | nil =>
      have hplace : place ≤ (t.take e.span.start).length := by
        rw [List.length_take, Nat.min_eq_left hlength]
        exact h.1
      rw [List.nil_append, applyFrom_cons h, applyFrom, applyFrom, List.drop_append_of_le_length hplace, List.drop_take,
        List.append_assoc]
  | cons e' edits ih =>
      have hplace := (inOrder_concat h).2.1 e' List.mem_cons_self
      have horder : InOrder place (e' :: (edits ++ [e])) := h
      have hspan := h.2.1
      have hstart := h.1
      have hfront : ((t.take e.span.start ++ (e.text ++ t.drop e.span.stop)).drop place).take (e'.span.start - place) =
          (t.drop place).take (e'.span.start - place) := by
        have hle : place ≤ (t.take e.span.start).length := by
          rw [List.length_take]
          omega
        rw [List.drop_append_of_le_length hle, List.take_append_of_le_length, List.drop_take, List.take_take,
          Nat.min_eq_left (by omega)]
        rw [List.length_drop, List.length_take]
        omega
      rw [List.cons_append, applyFrom_cons horder, applyFrom_cons (inOrder_concat h).1, ih h.2.2, hfront]

/-- The last edit may be applied first: it leaves what is in front of it to the others. -/
theorem applyAll_concat {e : Edit} (h : InOrder 0 (edits ++ [e])) (hlength : e.span.start ≤ t.length) :
    applyAll t (edits ++ [e]) = applyAll (t.take e.span.start ++ (e.text ++ t.drop e.span.stop)) edits :=
  applyFrom_concat h hlength

theorem countP_drop {s : Span} (hplace : place ≤ s.start) (hspan : s.start ≤ s.stop) (kind : Char -> Bool) :
    (t.drop place).countP kind =
      ((t.drop place).take (s.start - place)).countP kind + (t.slice s).countP kind + (t.drop s.stop).countP kind := by
  rw [← List.countP_append, ← List.countP_append, ← drop_eq_append hplace hspan]

theorem countP_applyFrom_cons {e : Edit} (h : InOrder place (e :: edits)) (kind : Char -> Bool) :
    (applyFrom place (t.drop place) (e :: edits)).countP kind + (t.slice e.span).countP kind +
        (t.drop e.span.stop).countP kind =
      (t.drop place).countP kind + e.text.countP kind +
        (applyFrom e.span.stop (t.drop e.span.stop) edits).countP kind := by
  rw [applyFrom_cons h, List.countP_append, List.countP_append, countP_drop h.1 h.2.1 kind]
  omega

/-- Edits that take away more than they bring do not let a count grow. -/
theorem countP_applyFrom_le (h : InOrder place edits)
    (hless : forall e, e ∈ edits -> e.text.countP kind ≤ (t.slice e.span).countP kind) :
    (applyFrom place (t.drop place) edits).countP kind ≤ (t.drop place).countP kind := by
  induction edits generalizing place with
  | nil => exact Nat.le_refl _
  | cons e edits ih =>
      have hsum := countP_applyFrom_cons (t := t) h kind
      have hlater := ih h.2.2 fun e' he' => hless e' (List.mem_cons_of_mem _ he')
      have hfirst := hless e List.mem_cons_self
      omega

theorem countP_applyAll_lt (h : InOrder 0 edits) (hne : edits ≠ [])
    (hless : forall e, e ∈ edits -> e.text.countP kind < (t.slice e.span).countP kind) :
    (applyAll t edits).countP kind < t.countP kind := by
  cases edits with
  | nil => exact absurd rfl hne
  | cons e edits =>
      have hsum := countP_applyFrom_cons (t := t) h kind
      have hlater := countP_applyFrom_le h.2.2 fun e' he' =>
        Nat.le_of_lt (hless e' (List.mem_cons_of_mem _ he'))
      have hfirst := hless e List.mem_cons_self
      show (applyFrom 0 (t.drop 0) (e :: edits)).countP kind < (t.drop 0).countP kind
      omega

end Edit

namespace Region

/-- Where every match gets the same new text, the state has no part in the edits. -/
theorem editsWith_const {σ : Type} (new : Text) (next : σ -> Match -> σ) (state : σ) (ms : List Match) :
    (editsWith (fun state m => (some new, next state m)) state ms).1 = ms.map fun m => ⟨m.span, new⟩ := by
  induction ms generalizing state with
  | nil => rfl
  | cons m ms ih =>
      rw [List.map_cons, ← ih (next state m)]
      rfl

theorem inOrder_map_of_inOrder {p : Pattern} {t : Text} {place : Nat} {ms : List Match}
    (h : p.InOrder t place ms) (new : Match -> Text) :
    Edit.InOrder place (ms.map fun m => ⟨m.span, new m⟩) := by
  induction ms generalizing place with
  | nil => exact trivial
  | cons m ms ih =>
      rcases h.matched m List.mem_cons_self with ⟨w, s, hm⟩
      have hapart := List.pairwise_cons.mp h.apart
      refine ⟨h.later m List.mem_cons_self, ?_, ih ⟨?_, ?_, hapart.2⟩⟩
      · show m.start ≤ m.stop
        rw [hm.stop_eq]
        exact Nat.le_add_right _ _
      · intro m' hm'
        exact h.matched m' (List.mem_cons_of_mem _ hm')
      · exact hapart.1

end Region
end WikiEntry
