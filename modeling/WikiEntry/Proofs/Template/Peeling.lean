import WikiEntry.Proofs.Region.Revision
import WikiEntry.Proofs.Template.Depth

/-!
# Templates that come out one after the other

Each round takes out a template that opens before all that came out earlier, and the mask that is left in its place
holds no brace.  So the rounds come to an end, every template stands in the text between its braces, and of two templates
the later one lies in front of the earlier one or around it.
-/

namespace WikiEntry
namespace TemplateDepth

/-- The templates that come out of a text until there is none left. -/
inductive Peels : Text -> List Span -> Prop where
  | done {t : Text} (h : innermost? t = none) : Peels t []
  | next {t : Text} {s : Span} {later : List Span} (h : innermost? t = some s) (hlater : Peels (mask t s) later) :
      Peels t (s :: later)

/-- Two opening braces, something, and two closing braces. -/
structure Delimited (t : Text) (s : Span) : Prop where
  opens : Text.startsWith (t.drop s.start) ['\x7b', '\x7b'] = true
  filled : s.start + 5 ≤ s.stop
  closes : Text.startsWith (t.drop (s.stop - 2)) ['\x7d', '\x7d'] = true

/-- How a template that comes out lies to one that came out before it: it opens earlier, and closes before the other
opens or behind the other. -/
def ComesAfter (s s' : Span) : Prop :=
  s'.start < s.start ∧ (s'.stop ≤ s.start ∨ s.stop < s'.stop)

/-- One template lies strictly inside another. -/
def Inside (s s' : Span) : Prop :=
  s'.start < s.start ∧ s.stop < s'.stop

variable {t : Text} {s s' : Span} {l : List Span}

/-!
# One round
-/

theorem Delimited.stop_le (h : Delimited t s) : s.stop ≤ t.length := by
  have hlength := Text.le_length_of_startsWith_drop (List.cons_ne_nil _ _) h.closes
  have hfilled := h.filled
  simp only [List.length_cons, List.length_nil] at hlength
  omega

/-- The last opening, with a third brace in front of it if there is one. -/
theorem of_lastOpening? {start : Nat} (h : lastOpening? t = some start) :
    Text.startsWith (t.drop start) ['\x7b', '\x7b'] = true ∧
      forall q, start + 1 < q -> Text.startsWith (t.drop q) ['\x7b', '\x7b'] = false := by
  rcases Option.map_eq_some_iff.mp h with ⟨last, hfind, hstart⟩
  rcases Text.of_findLast? (List.cons_ne_nil _ _) hfind with ⟨hstands, hlast⟩
  split at hstart
  · rename_i hthird
    have hsucc : last - 1 + 1 = last := Nat.sub_add_cancel hthird.1
    rw [← hstart, hsucc]
    refine ⟨?_, hlast⟩
    rw [Text.startsWith_drop_cons, hsucc]
    have hbrace := ((Text.startsWith_drop_cons _ _ _ _).mp hstands).1
    exact ⟨hthird.2, (Text.startsWith_drop_cons _ _ _ _).mpr ⟨hbrace, Text.startsWith_drop_nil _ _⟩⟩
  · rw [← hstart]
    exact ⟨hstands, fun q hq => hlast q (Nat.lt_of_succ_lt hq)⟩

theorem of_innermost? (h : innermost? t = some s) :
    Delimited t s ∧ forall q, s.start + 1 < q -> Text.startsWith (t.drop q) ['\x7b', '\x7b'] = false := by
  rcases Option.bind_eq_some_iff.mp h with ⟨start, hstart, h⟩
  rcases Option.map_eq_some_iff.mp h with ⟨close, hclose, rfl⟩
  rcases of_lastOpening? hstart with ⟨hopens, hlast⟩
  rcases (Text.findFrom?_eq_some_iff (List.cons_ne_nil _ _)).mp hclose with ⟨hle, hcloses, _⟩
  exact ⟨⟨hopens, Nat.add_le_add_right hle 2, hcloses⟩, hlast⟩

/-- Two equal braces in a text with a mask stand there without it, on one side of it. -/
theorem Delimited.of_startsWith_mask (h : Delimited t s) {c : Char} (hc : c ≠ '-') {q : Nat}
    (hq : Text.startsWith ((mask t s).drop q) [c, c] = true) :
    Text.startsWith (t.drop q) [c, c] = true ∧ (q + 2 ≤ s.start ∨ s.stop ≤ q) := by
  have hfilled := h.filled
  have hplace : forall q, (mask t s)[q]? = some c -> t[q]? = some c ∧ (q < s.start ∨ s.stop ≤ q) := by
    intro q hq
    rw [getElem?_mask (by omega) h.stop_le] at hq
    split at hq
    · exact absurd (Option.some.inj hq).symm hc
    · exact ⟨hq, by omega⟩
  simp only [Text.startsWith_drop_cons, Text.startsWith_drop_nil, and_true] at hq ⊢
  rcases hplace q hq.1 with ⟨hfirst, hside⟩
  rcases hplace (q + 1) hq.2 with ⟨hsecond, hside'⟩
  exact ⟨⟨hfirst, hsecond⟩, by omega⟩

/-- A template in what one round leaves stands in the text, and comes after the template of the round. -/
theorem of_mask (h : innermost? t = some s) (hs' : Delimited (mask t s) s') : Delimited t s' ∧ ComesAfter s s' := by
  rcases of_innermost? h with ⟨hs, hlast⟩
  rcases hs.of_startsWith_mask (by decide) hs'.opens with ⟨hopens, hfront⟩
  rcases hs.of_startsWith_mask (by decide) hs'.closes with ⟨hcloses, hside⟩
  have hfilled := hs.filled
  have hfilled' := hs'.filled
  refine ⟨⟨hopens, hfilled', hcloses⟩, ?_, by omega⟩
  by_contra hbehind
  rw [hlast s'.start (by omega)] at hopens
  cases hopens

/-!
# All rounds
-/

theorem Peels.delimited (h : Peels t l) (hs : s ∈ l) : Delimited t s := by
  induction h with
  | done => cases hs
  | next hround _ ih =>
      rcases List.mem_cons.mp hs with rfl | hs
      · exact (of_innermost? hround).1
      · exact (of_mask hround (ih hs)).1

theorem Peels.pairwise (h : Peels t l) : l.Pairwise ComesAfter := by
  induction h with
  | done => exact List.Pairwise.nil
  | next hround hlater ih =>
      exact List.pairwise_cons.mpr ⟨fun s' hs' => (of_mask hround (hlater.delimited hs')).2, ih⟩

/-- Every round leaves openings in fewer places only, so that the rounds come to an end. -/
theorem peels_peel {rounds b : Nat}
    (hbound : forall q, Text.startsWith (t.drop q) ['\x7b', '\x7b'] = true -> q < b) (hrounds : b ≤ rounds) :
    Peels t (peel rounds t) := by
  induction rounds generalizing t b with
  | zero =>
      refine .done (Option.eq_none_iff_forall_ne_some.mpr fun s hs => ?_)
      have hlt := hbound _ (of_innermost? hs).1.opens
      omega
  | succ rounds ih =>
      cases hs : innermost? t with
      | none =>
          rw [peel, hs]
          exact .done hs
      | some s =>
          rcases of_innermost? hs with ⟨hdelimited, hlast⟩
          rw [peel_succ hs]
          refine .next hs (ih (b := s.start) (fun q hq => ?_) ?_)
          · rcases hdelimited.of_startsWith_mask (by decide) hq with ⟨hq, hside⟩
            have hfilled := hdelimited.filled
            by_contra hbehind
            rw [hlast q (by omega)] at hq
            cases hq
          · exact Nat.le_of_lt_succ ((hbound _ hdelimited.opens).trans_le hrounds)

theorem peels_spans (t : Text) : Peels t (spans t) := by
  refine peels_peel (b := t.length) (fun q hq => ?_) le_rfl
  have hlength := Text.le_length_of_startsWith_drop (List.cons_ne_nil _ _) hq
  simp only [List.length_cons, List.length_nil] at hlength
  omega

theorem slice_of_startsWith_drop {w : Text} {place : Nat} (h : Text.startsWith (t.drop place) w = true) :
    t.slice ⟨place, place + w.length⟩ = w := by
  rw [Text.slice, Span.size, Nat.add_sub_cancel_left]
  exact (List.prefix_iff_eq_take.mp (List.isPrefixOf_iff_prefix.mp h)).symm

/-- What stands between the braces is not empty. -/
theorem Delimited.exists_body (h : Delimited t s) :
    exists body, body ≠ [] ∧ t.slice s = ['\x7b', '\x7b'] ++ (body ++ ['\x7d', '\x7d']) := by
  have hle := h.stop_le
  rcases h with ⟨hopens, hfilled, hcloses⟩
  rcases s with ⟨start, stop⟩
  dsimp only at hle hopens hfilled hcloses
  rcases Nat.exists_eq_add_of_le hfilled with ⟨n, hn⟩
  obtain rfl : stop = start + 2 + (n + 1) + 2 := by omega
  have hopening := slice_of_startsWith_drop hopens
  have hclosing := slice_of_startsWith_drop hcloses
  refine ⟨t.slice ⟨start + 2, start + 2 + (n + 1)⟩, fun hnil => ?_, ?_⟩
  · have hsize := Edit.length_slice (t := t) (s := ⟨start + 2, start + 2 + (n + 1)⟩) ((Nat.le_add_right _ 2).trans hle)
    rw [hnil, Span.size, Nat.add_sub_cancel_left] at hsize
    cases hsize
  · rw [← hclosing]
    conv_rhs => rw [← hopening]
    have hbody := Edit.slice_append_slice t (Nat.le_add_right (start + 2) (n + 1)) (Nat.le_add_right _ 2)
    have hwhole := Edit.slice_append_slice t (Nat.le_add_right start 2) (show start + 2 ≤ start + 2 + (n + 1) + 2 by omega)
    exact (hwhole.symm.trans (congrArg _ hbody.symm))

/-!
# The longest chain
-/

/-- The count is that of a chain of templates that came out one directly after the other, the ones counted so far or
some behind them. -/
theorem exists_chain_longestChain (front : List Span) (last : Span)
    (hchain : (front ++ [last]).IsChain fun s s' => Encloses s' s) (l : List Span) :
    exists chain, chain <:+: front ++ [last] ++ l ∧ chain.length = longestChain last (front.length + 1) l ∧
      chain.IsChain fun s s' => Encloses s' s := by
  induction l generalizing front last with
  | nil => exact ⟨front ++ [last], by rw [List.append_nil], List.length_append, hchain⟩
  | cons s l ih =>
      have hlist : front ++ [last] ++ s :: l = front ++ [last] ++ [s] ++ l := by simp
      rw [longestChain, hlist]
      split
      · rename_i hencloses
        have hlonger := ih (front ++ [last]) s (hchain.append (List.isChain_singleton s) fun x hx y hy => ?_)
        · rwa [List.length_append] at hlonger
        · rw [List.getLast?_concat, Option.mem_some_iff] at hx
          rw [List.head?_cons, Option.mem_some_iff] at hy
          rw [← hx, ← hy]
          exact hencloses
      · rcases Nat.le_total (front.length + 1) (longestChain s 1 l) with hle | hle
        · rw [Nat.max_eq_right hle]
          rcases ih [] s (List.isChain_singleton s) with ⟨chain, hpart, hrest⟩
          exact ⟨chain, hpart.trans ⟨front ++ [last], [], by simp⟩, hrest⟩
        · rw [Nat.max_eq_left hle]
          exact ⟨front ++ [last], ⟨[], [s] ++ l, by simp⟩, List.length_append, hchain⟩

theorem exists_chain_depth (t : Text) :
    exists chain, chain <:+: spans t ∧ chain.length = depth t ∧ chain.IsChain fun s s' => Encloses s' s := by
  rw [depth]
  cases spans t with
  | nil => exact ⟨[], List.infix_rfl, rfl, List.isChain_nil⟩
  | cons s l => exact exists_chain_longestChain [] s (List.isChain_singleton s) l

/-- Templates that came out of one text and enclose each other do so strictly. -/
theorem Peels.inside (h : Peels t l) {chain : List Span} (hpart : chain <:+: l)
    (hchain : chain.IsChain fun s s' => Encloses s' s) : chain.Pairwise Inside := by
  have htrans : IsTrans Span fun s s' => Encloses s' s :=
    ⟨fun _ _ _ hs hs' => ⟨hs'.1.trans hs.1, hs.2.trans hs'.2⟩⟩
  refine (hchain.pairwise.and (h.pairwise.sublist hpart.sublist)).imp_of_mem fun {s s'} hs hs' hboth => ?_
  have hfilled := (h.delimited (hpart.subset hs)).filled
  rcases hboth with ⟨⟨_, hstop⟩, hstart, hside⟩
  exact ⟨hstart, by omega⟩

/-- The rounds come to an end.  Every template that comes out stands in the text between its braces, of two of them the
later one opens earlier, and lies apart or strictly around the other; and as many templates as the depth says lie strictly
inside each other. -/
theorem peels_and_nest (t : Text) :
    Peels t (spans t) ∧
      (forall s, s ∈ spans t -> s.stop ≤ t.length ∧
        exists body, body ≠ [] ∧ t.slice s = ['\x7b', '\x7b'] ++ (body ++ ['\x7d', '\x7d'])) ∧
      (spans t).Pairwise ComesAfter ∧
      exists chain, chain <:+: spans t ∧ chain.length = depth t ∧ chain.Pairwise Inside := by
  have hpeels := peels_spans t
  refine ⟨hpeels, fun s hs => ⟨(hpeels.delimited hs).stop_le, (hpeels.delimited hs).exists_body⟩, hpeels.pairwise, ?_⟩
  rcases exists_chain_depth t with ⟨chain, hpart, hlength, hchain⟩
  exact ⟨chain, hpart, hlength, hpeels.inside hpart hchain⟩

/-- A template in a template. -/
def templateInTemplate : Text :=
  ['\x7b', '\x7b', 'a', '|', '\x7b', '\x7b', 'b', '\x7d', '\x7d', '\x7d', '\x7d']

theorem peels_and_nest_templateInTemplate :
    spans templateInTemplate = [⟨4, 9⟩, ⟨0, 11⟩] ∧
      exists body, body ≠ [] ∧ templateInTemplate.slice ⟨4, 9⟩ = ['\x7b', '\x7b'] ++ (body ++ ['\x7d', '\x7d']) := by
  have hspans : spans templateInTemplate = [⟨4, 9⟩, ⟨0, 11⟩] := by decide +kernel
  rcases peels_and_nest templateInTemplate with ⟨_, hspan, _, _⟩
  rw [hspans] at hspan
  exact ⟨hspans, (hspan ⟨4, 9⟩ (by decide)).2⟩

end TemplateDepth
end WikiEntry
