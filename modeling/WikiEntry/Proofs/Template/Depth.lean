import Mathlib.Data.List.Chain
import WikiEntry.Proofs.Template.Closing
import WikiEntry.Rule.Safety

/-!
# Chains of nested templates

Taking out the template that opens last leaves all others where they are and as they are closed, as long as the braces
are regular.  So templates come out by their beginnings, from the last to the first, and a chain of templates
in which each is the first one to open inside the one before it comes out in one piece.
-/

namespace WikiEntry
namespace TemplateDepth

open Template

/-!
# Regular braces
-/

/-- From `start` on there are never four opening braces in a row and no empty templates, and every template that
opens is closed. -/
structure Regular (t : Text) (start : Nat) : Prop where
  short : forall place, start ≤ place + 2 ->
    Text.startsWith (t.drop place) ['\x7b', '\x7b', '\x7b', '\x7b'] = false
  filled : forall place, start ≤ place -> Text.startsWith (t.drop place) ['\x7b', '\x7b', '\x7d', '\x7d'] = false
  closed : forall place, start ≤ place -> OpensAt t place -> exists s, s ∈ Region.templates (t.drop place) ∧ s.start = 0

theorem exists_region_iff {t : Text} {place : Nat} (h : OpensAt t place) :
    (exists s, s ∈ Region.templates (t.drop place) ∧ s.start = 0) <-> exists stop, stopOf? t place = some stop := by
  have hregions : Region.templates (t.drop place) = regionsFrom 2 1 0 (t.drop (place + 2)) := by
    rw [h.drop_eq, templates_eq, regionsFrom_opening]
    rfl
  rw [hregions, regionsFrom_inside le_rfl, stopOf?]
  cases toClosing? 1 (t.drop (place + 2)) with
  | none => simp
  | some n => simp

theorem Regular.exists_stopOf? {t : Text} {start place : Nat} (h : Regular t start) (hplace : start ≤ place)
    (hopens : OpensAt t place) : exists stop, stopOf? t place = some stop :=
  (exists_region_iff hopens).mp (h.closed place hplace hopens)

/-- Nothing opens in `t` behind `place`. -/
structure LastOpening (t : Text) (place : Nat) : Prop where
  opens : OpensAt t place
  last : forall other, place < other -> ¬ OpensAt t other

variable {t : Text} {start place stop : Nat}

/-- Two braces behind the last opening are the second and the third brace of it. -/
theorem Regular.eq_succ_of_braces (h : Regular t start) (hplace : start ≤ place) (hlast : LastOpening t place)
    {other : Nat} (hother : place < other) (hbraces : t[other]? = some '\x7b' ∧ t[other + 1]? = some '\x7b') :
    other = place + 1 := by
  have hbrace : forall q, place < q -> t[q]? = some '\x7b' -> t[q + 1]? = some '\x7b' -> t[q - 1]? = some '\x7b' := by
    intro q hq hfirst hsecond
    by_contra hbefore
    exact hlast.last q hq (opensAt_iff.mpr ⟨hfirst, hsecond, fun _ => hbefore⟩)
  by_contra hne
  have hone := hbrace other hother hbraces.1 hbraces.2
  have hsucc : other - 1 + 1 = other := by omega
  have htwo := hbrace (other - 1) (by omega) hone (by rw [hsucc]; exact hbraces.1)
  have hfour := h.short (other - 2) (by omega)
  refine Bool.eq_false_iff.mp hfour ?_
  have h1 : other - 2 + 1 = other - 1 := by omega
  simp only [Text.startsWith_drop_cons, Text.startsWith_drop_nil, and_true, h1, hsucc]
  exact ⟨htwo, hone, hbraces⟩

theorem getElem?_mask {s : Span} (hs : s.start ≤ s.stop) (hstop : s.stop ≤ t.length) (q : Nat) :
    (mask t s)[q]? = if s.start ≤ q ∧ q < s.stop then some '-' else t[q]? := by
  have hstart : (t.take s.start).length = s.start := by
    rw [List.length_take]
    omega
  have hmid : (t.take s.start ++ List.replicate s.size '-').length = s.stop := by
    rw [List.length_append, hstart, List.length_replicate, Span.size]
    omega
  by_cases hbefore : q < s.start
  · rw [mask, List.append_assoc, List.getElem?_append_left (by omega), List.getElem?_take_of_lt hbefore, if_neg (by omega)]
  · by_cases hin : q < s.stop
    · rw [if_pos ⟨by omega, hin⟩, mask, List.getElem?_append_left (by omega), List.getElem?_append_right (by omega),
        List.getElem?_replicate_of_lt]
      rw [hstart, Span.size]
      omega
    · rw [if_neg (by omega), mask, List.getElem?_append_right (by omega), hmid, List.getElem?_drop,
        Nat.add_sub_cancel' (by omega)]

theorem stopOf?_bounds (h : stopOf? t place = some stop) : place + 4 ≤ stop ∧ stop ≤ t.length := by
  rcases Option.map_eq_some_iff.mp h with ⟨n, hn, rfl⟩
  have hbounds := toClosing?_bounds hn
  rw [List.length_drop] at hbounds
  omega

theorem getElem?_mask_of_stopOf? (hstop : stopOf? t place = some stop) (q : Nat) :
    (mask t ⟨place, stop⟩)[q]? = if place ≤ q ∧ q < stop then some '-' else t[q]? := by
  have hbounds := stopOf?_bounds hstop
  exact getElem?_mask (Nat.le_of_add_right_le hbounds.1) hbounds.2 q

/-- A character other than the mask stood there before. -/
theorem getElem?_of_mask (hstop : stopOf? t place = some stop) {q : Nat} {ch : Char} (hch : ch ≠ '-')
    (h : (mask t ⟨place, stop⟩)[q]? = some ch) : t[q]? = some ch := by
  rw [getElem?_mask_of_stopOf? hstop] at h
  split at h
  · exact absurd (Option.some.inj h).symm hch
  · exact h

theorem Regular.opensAt_mask_iff (h : Regular t start) (hplace : start ≤ place) (hlast : LastOpening t place)
    (hstop : stopOf? t place = some stop) (q : Nat) :
    OpensAt (mask t ⟨place, stop⟩) q <-> OpensAt t q ∧ q ≠ place := by
  have hbounds := stopOf?_bounds hstop
  constructor
  · intro hq
    rw [opensAt_iff] at hq
    have hfirst := getElem?_of_mask hstop (by decide) hq.1
    have hsecond := getElem?_of_mask hstop (by decide) hq.2.1
    have hout : q < place ∨ stop ≤ q := by
      by_contra hin
      have hmask := hq.1
      rw [getElem?_mask_of_stopOf? hstop, if_pos (by omega)] at hmask
      exact absurd (Option.some.inj hmask) (by decide)
    have hbefore : q < place := by
      refine hout.resolve_right fun hle => ?_
      have := h.eq_succ_of_braces hplace hlast (by omega) ⟨hfirst, hsecond⟩
      omega
    refine ⟨opensAt_iff.mpr ⟨hfirst, hsecond, fun hq0 => ?_⟩, by omega⟩
    have hfree := hq.2.2 hq0
    rwa [getElem?_mask_of_stopOf? hstop, if_neg (by omega)] at hfree
  · rintro ⟨hq, hne⟩
    have hbefore : q < place := by
      by_contra hle
      exact hlast.last q (by omega) hq
    have hq := opensAt_iff.mp hq
    have hnext : q + 1 ≠ place := by
      intro heq
      have hfree := (opensAt_iff.mp hlast.opens).2.2 (by omega)
      rw [← heq] at hfree
      exact hfree hq.1
    rw [opensAt_iff]
    simp only [getElem?_mask_of_stopOf? hstop]
    rw [if_neg (by omega), if_neg (by omega), if_neg (by omega)]
    exact hq

/-- The templates that open earlier are closed where they were. -/
theorem stopOf?_mask (hlast : LastOpening t place) (hstop : stopOf? t place = some stop) {q : Nat} (hq : OpensAt t q)
    (hne : q ≠ place) : stopOf? (mask t ⟨place, stop⟩) q = stopOf? t q := by
  have hbefore : q + 2 ≤ place := by
    have hle : q ≤ place := Nat.le_of_not_lt fun hlt => hlast.last q hlt hq
    have hnext : q + 1 ≠ place := by
      rintro rfl
      exact (opensAt_iff.mp hlast.opens).2.2 (Nat.succ_ne_zero q) (opensAt_iff.mp hq).1
    omega
  rcases Option.map_eq_some_iff.mp hstop with ⟨n, hn, rfl⟩
  have hlength : q + 2 ≤ (t.take place).length := by
    have := stopOf?_bounds hstop
    rw [List.length_take]
    omega
  have htext : t.drop (q + 2) = (t.take place).drop (q + 2) ++ t.drop place := by
    conv =>
      lhs
      rw [← List.take_append_drop place t]
    rw [List.drop_append_of_le_length hlength]
  have hmask : (mask t ⟨place, n + (place + 2)⟩).drop (q + 2) =
      (t.take place).drop (q + 2) ++ (List.replicate (n + 2) '-' ++ (t.drop (place + 2)).drop n) := by
    have hsize : Span.size ⟨place, n + (place + 2)⟩ = n + 2 := by
      show n + (place + 2) - place = n + 2
      omega
    rw [mask, hsize, List.append_assoc, List.drop_append_of_le_length hlength, List.drop_drop,
      Nat.add_comm (place + 2) n]
  have hfree : ((t.take place).drop (q + 2)).getLast? ≠ some '\x7b' := by
    intro h
    refine hlast.opens.2 ?_
    rw [← List.take_append_drop (q + 2) (t.take place), List.getLast?_append, h]
    rfl
  have hgroup : forall depth, 1 ≤ depth -> toClosing? depth (t.drop place) =
      toClosing? depth (List.replicate (n + 2) '-' ++ (t.drop (place + 2)).drop n) := by
    intro depth hdepth
    rw [hlast.opens.drop_eq, toClosing?_template hdepth hn, toClosing?_replicate]
  rw [stopOf?, stopOf?, hmask, htext, toClosing?_congr hfree _ _ hgroup le_rfl]
  · rw [hlast.opens.drop_eq]
    exact fun h => absurd (Option.some.inj h) (by decide)
  · rw [List.replicate_succ]
    exact fun h => absurd (Option.some.inj h) (by decide)

theorem Regular.mask (h : Regular t start) (hplace : start ≤ place) (hlast : LastOpening t place)
    (hstop : stopOf? t place = some stop) : Regular (mask t ⟨place, stop⟩) start where
  short q hq := by
    refine Bool.eq_false_iff.mpr fun hbraces => Bool.eq_false_iff.mp (h.short q hq) ?_
    simp only [Text.startsWith_drop_cons, Text.startsWith_drop_nil, and_true] at hbraces ⊢
    exact hbraces.imp (getElem?_of_mask hstop (by decide)) (And.imp (getElem?_of_mask hstop (by decide))
      (And.imp (getElem?_of_mask hstop (by decide)) (getElem?_of_mask hstop (by decide))))
  filled q hq := by
    refine Bool.eq_false_iff.mpr fun hbraces => Bool.eq_false_iff.mp (h.filled q hq) ?_
    simp only [Text.startsWith_drop_cons, Text.startsWith_drop_nil, and_true] at hbraces ⊢
    exact hbraces.imp (getElem?_of_mask hstop (by decide)) (And.imp (getElem?_of_mask hstop (by decide))
      (And.imp (getElem?_of_mask hstop (by decide)) (getElem?_of_mask hstop (by decide))))
  closed q hq hopens := by
    rcases (h.opensAt_mask_iff hplace hlast hstop q).mp hopens with ⟨hbefore, hne⟩
    rw [exists_region_iff hopens, stopOf?_mask hlast hstop hbefore hne]
    exact h.exists_stopOf? hq hbefore


/-!
# Chains
-/

/-- Templates of `t`, each the first one that opens inside the next one. -/
structure Chain (t : Text) (start : Nat) (chain : List Span) : Prop where
  regular : Regular t start
  templates : forall s, s ∈ chain -> start ≤ s.start ∧ OpensAt t s.start ∧ stopOf? t s.start = some s.stop
  adjacent : chain.IsChain fun s s' =>
    s'.start < s.start ∧ forall q, s'.start < q -> q < s.start -> ¬ OpensAt t q

theorem Chain.mask {chain : List Span} (h : Chain t start chain) (hplace : start ≤ place)
    (hlast : LastOpening t place) (hstop : stopOf? t place = some stop)
    (hbefore : forall s, s ∈ chain -> s.start ≠ place) : Chain (mask t ⟨place, stop⟩) start chain where
  regular := h.regular.mask hplace hlast hstop
  templates s hs := by
    rcases h.templates s hs with ⟨hstart, hopens, hclosed⟩
    refine ⟨hstart, (h.regular.opensAt_mask_iff hplace hlast hstop _).mpr ⟨hopens, hbefore s hs⟩, ?_⟩
    rw [stopOf?_mask hlast hstop hopens (hbefore s hs)]
    exact hclosed
  adjacent := by
    refine h.adjacent.imp ?_
    rintro s s' ⟨hlt, hbetween⟩
    exact ⟨hlt, fun q hq hq' hopens => hbetween q hq hq' ((h.regular.opensAt_mask_iff hplace hlast hstop q).mp hopens).1⟩

theorem peel_succ {s : Span} (h : innermost? t = some s) (rounds : Nat) :
    peel (rounds + 1) t = s :: peel rounds (mask t s) := by
  rw [peel, h]

theorem Chain.tail {s : Span} {chain : List Span} (h : Chain t start (s :: chain)) : Chain t start chain where
  regular := h.regular
  templates u hu := h.templates u (List.mem_cons_of_mem s hu)
  adjacent := h.adjacent.tail

theorem Chain.start_lt {s : Span} {chain : List Span} (h : Chain t start (s :: chain)) {u : Span} (hu : u ∈ chain) :
    u.start < s.start := by
  have hdescending : (s :: chain).IsChain fun s s' => s'.start < s.start := h.adjacent.imp fun _ _ hu => hu.1
  exact List.rel_of_pairwise_cons hdescending.pairwise hu

/-- One template encloses another. -/
def Encloses (s s' : Span) : Prop :=
  s.start ≤ s'.start ∧ s'.stop ≤ s.stop

instance (s s' : Span) : Decidable (Encloses s s') :=
  inferInstanceAs (Decidable (_ ∧ _))

end TemplateDepth
end WikiEntry
