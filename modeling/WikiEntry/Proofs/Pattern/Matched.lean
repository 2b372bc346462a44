import WikiEntry.Pattern.Build
import WikiEntry.Proofs.Pattern.Reads

/-!
# What a match has read

A match that a search finds reads a word of the text: the characters from its start to its stop.  What the parts of
a pattern read are the pieces of that word, and a group is the span of its piece.
-/

namespace WikiEntry

namespace Text

theorem slice_of_eq_append {t u w v : Text} {place : Nat} (ht : t = u ++ (w ++ v)) (hplace : place = u.length) :
    t.slice ⟨place, place + w.length⟩ = w := by
  unfold slice Span.size
  rw [ht, hplace, List.drop_left, Nat.add_sub_cancel_left, List.take_left]

end Text

namespace Pattern

/-!
# Words
-/

theorem Reads.advances {p : Pattern} {s t : ReadState} {w : Text} (h : Reads p s w t) :
    s.cursor.rest = w ++ t.cursor.rest ∧ t.place = s.place + w.length := by
  induction h with
  | empty s => exact ⟨rfl, rfl⟩
  | one hrest _ => exact ⟨by rw [ReadState.skip, Cursor.rest_skip hrest, hrest]; rfl, Cursor.place_skip _ _⟩
  | anchor _ => exact ⟨rfl, rfl⟩
  | seq _ _ ihp ihq =>
      rw [ihp.1, ihq.1, ihq.2, ihp.2, List.append_assoc, List.length_append, Nat.add_assoc]
      exact ⟨rfl, rfl⟩
  | altLeft _ ih => exact ih
  | altRight _ ih => exact ih
  | group _ ih => exact ih
  | optNone s => exact ⟨rfl, rfl⟩
  | optSome _ ih => exact ih
  | run hrest _ _ _ => exact ⟨by rw [ReadState.skip, Cursor.rest_skip hrest, hrest], Cursor.place_skip _ _⟩
  | loopNone s => exact ⟨rfl, rfl⟩
  | loopMore _ _ ihp ihl =>
      rw [ihp.1, ihl.1, ihl.2, ihp.2, List.append_assoc, List.length_append, Nat.add_assoc]
      exact ⟨rfl, rfl⟩
  | timesNone _ => exact ⟨rfl, rfl⟩
  | timesMore _ _ ihp iht =>
      rw [ihp.1, iht.1, iht.2, ihp.2, List.append_assoc, List.length_append, Nat.add_assoc]
      exact ⟨rfl, rfl⟩
  | distinct _ ih => exact ih

theorem Reads.seq_inv {p q : Pattern} {s t : ReadState} {w : Text} (h : Reads (p ++ q) s w t) :
    exists u v x, w = u ++ v ∧ Reads p s u x ∧ Reads q x v t := by
  cases h with
  | seq hp hq => exact ⟨_, _, _, rfl, hp, hq⟩

theorem Reads.anchor_inv {a : Anchor} {s t : ReadState} {w : Text} (h : Reads (.anchor a) s w t) :
    w = [] ∧ t = s ∧ a.holds s.cursor = true := by
  cases h with
  | anchor ha => exact ⟨rfl, rfl, ha⟩

theorem Reads.group_inv {i : Nat} {p : Pattern} {s t : ReadState} {w : Text} (h : Reads (.group i p) s w t) :
    exists x, Reads p s w x ∧ t = x.close i s.place := by
  cases h with
  | group hp => exact ⟨_, hp, rfl⟩

theorem Reads.opt_inv {greedy : Bool} {p : Pattern} {s t : ReadState} {w : Text} (h : Reads (.opt greedy p) s w t) :
    (w = [] ∧ t = s) ∨ Reads p s w t := by
  cases h with
  | optNone s => exact Or.inl ⟨rfl, rfl⟩
  | optSome hp => exact Or.inr hp

theorem Reads.run_inv {greedy : Bool} {least : Nat} {most : Option Nat} {set : CharSet} {s t : ReadState} {w : Text}
    (h : Reads (.run greedy least most set) s w t) :
    (forall c, c ∈ w -> set.holds c = true) ∧ least ≤ w.length ∧ t = s.skip w := by
  cases h with
  | run _ hset hleast _ => exact ⟨hset, hleast, rfl⟩

theorem Reads.one_inv {set : CharSet} {s t : ReadState} {w : Text} (h : Reads (.one set) s w t) :
    exists c, w = [c] ∧ set.holds c = true ∧ t = s.skip w := by
  cases h with
  | one _ hc => exact ⟨_, rfl, hc, rfl⟩

theorem Reads.lit_inv {l : Text} {s t : ReadState} {w : Text} (h : Reads (lit l) s w t) :
    w = l ∧ t.groups = s.groups := by
  induction l generalizing s w with
  | nil =>
      cases h with
      | empty s => exact ⟨rfl, rfl⟩
  | cons c l ih =>
      cases l with
      | nil =>
          rcases h.one_inv with ⟨d, rfl, hd, rfl⟩
          exact ⟨by rw [beq_iff_eq.mp hd], rfl⟩
      | cons c' l =>
          cases h with
          | seq hp hq =>
              rcases hp.one_inv with ⟨d, rfl, hd, rfl⟩
              rcases ih hq with ⟨rfl, hgroups⟩
              exact ⟨by rw [beq_iff_eq.mp hd]; rfl, hgroups⟩

theorem Reads.ne_nil {p : Pattern} {s t : ReadState} {w : Text} (h : Reads p s w t) (hp : p.mayBeEmpty = false) :
    w ≠ [] := by
  induction h with
  | empty s => cases hp
  | one _ _ => exact List.cons_ne_nil _ _
  | anchor _ => cases hp
  | seq _ _ ihp ihq =>
      intro hnil
      rcases List.append_eq_nil_iff.mp hnil with ⟨hu, hv⟩
      rcases Bool.and_eq_false_iff.mp hp with hp | hp
      · exact ihp hp hu
      · exact ihq hp hv
  | altLeft _ ih => exact ih (Bool.or_eq_false_iff.mp hp).1
  | altRight _ ih => exact ih (Bool.or_eq_false_iff.mp hp).2
  | group _ ih => exact ih hp
  | optNone s => cases hp
  | optSome _ _ => cases hp
  | run _ _ hleast _ =>
      rintro rfl
      rw [mayBeEmpty, Nat.le_zero.mp hleast] at hp
      cases hp
  | loopNone s => cases hp
  | loopMore _ _ ihp _ =>
      intro hnil
      exact ihp (Bool.or_eq_false_iff.mp hp).2 (List.append_eq_nil_iff.mp hnil).1
  | timesNone hnone =>
      have hzero := (Bool.or_eq_false_iff.mp hp).1
      rcases hnone with rfl | rfl
      · cases hzero
      · rw [beq_self_eq_true, Bool.or_true] at hzero
        cases hzero
  | timesMore _ _ ihp _ =>
      intro hnil
      exact ihp (Bool.or_eq_false_iff.mp hp).2 (List.append_eq_nil_iff.mp hnil).1
  | distinct _ ih => exact ih hp

/-!
# Groups
-/

def isGroupless : Pattern -> Bool
  | empty => true
  | one _ => true
  | anchor _ => true
  | seq p q => p.isGroupless && q.isGroupless
  | alt p q => p.isGroupless && q.isGroupless
  | group _ _ => false
  | opt _ p => p.isGroupless
  | run _ _ _ _ => true
  | loop _ _ p => p.isGroupless
  | times _ _ _ p => p.isGroupless
  | distinct p => p.isGroupless

theorem Reads.groups_eq {p : Pattern} {s t : ReadState} {w : Text} (h : Reads p s w t)
    (hp : p.isGroupless = true) : t.groups = s.groups := by
  induction h with
  | empty s => rfl
  | one _ _ => rfl
  | anchor _ => rfl
  | seq _ _ ihp ihq =>
      rw [isGroupless, Bool.and_eq_true] at hp
      rw [ihq hp.2, ihp hp.1]
  | altLeft _ ih =>
      rw [isGroupless, Bool.and_eq_true] at hp
      exact ih hp.1
  | altRight _ ih =>
      rw [isGroupless, Bool.and_eq_true] at hp
      exact ih hp.2
  | group _ _ => cases hp
  | optNone s => rfl
  | optSome _ ih => exact ih hp
  | run _ _ _ _ => rfl
  | loopNone s => rfl
  | loopMore _ _ ihp ihl => rw [ihl hp, ihp hp]
  | timesNone _ => rfl
  | timesMore _ _ ihp iht => rw [iht hp, ihp hp]
  | distinct _ ih => exact ih hp

/-- The groups that are read lie between the places from which and to which the pattern reads. -/
theorem Reads.groups_within {p : Pattern} {s t : ReadState} {w : Text} (h : Reads p s w t) :
    forall g, g ∈ t.groups -> g ∈ s.groups ∨ s.place ≤ g.2.start ∧ g.2.stop ≤ t.place := by
  have hseq : forall {p q : Pattern} {s t x : ReadState} {u v : Text}, Reads p s u t -> Reads q t v x ->
      (forall g, g ∈ t.groups -> g ∈ s.groups ∨ s.place ≤ g.2.start ∧ g.2.stop ≤ t.place) ->
      (forall g, g ∈ x.groups -> g ∈ t.groups ∨ t.place ≤ g.2.start ∧ g.2.stop ≤ x.place) ->
      forall g, g ∈ x.groups -> g ∈ s.groups ∨ s.place ≤ g.2.start ∧ g.2.stop ≤ x.place := by
    intro p q s t x u v hp hq ihp ihq g hg
    have hfront := hp.advances.2
    have hback := hq.advances.2
    rcases ihq g hg with hg | hg
    · exact (ihp g hg).imp_right fun hbounds => ⟨hbounds.1, by omega⟩
    · exact Or.inr ⟨by omega, hg.2⟩
  induction h with
  | empty s => exact fun g => Or.inl
  | one _ _ => exact fun g => Or.inl
  | anchor _ => exact fun g => Or.inl
  | seq hp hq ihp ihq => exact hseq hp hq ihp ihq
  | altLeft _ ih => exact ih
  | altRight _ ih => exact ih
  | group hp ih =>
      intro g hg
      rcases List.mem_cons.mp hg with rfl | hg
      · exact Or.inr ⟨Nat.le_refl _, Nat.le_refl _⟩
      · exact ih g hg
  | optNone s => exact fun g => Or.inl
  | optSome _ ih => exact ih
  | run _ _ _ _ => exact fun g => Or.inl
  | loopNone s => exact fun g => Or.inl
  | loopMore hp hl ihp ihl => exact hseq hp hl ihp ihl
  | timesNone _ => exact fun g => Or.inl
  | timesMore hp ht ihp iht => exact hseq hp ht ihp iht
  | distinct _ ih => exact ih

theorem Reads.group_groupless {i : Nat} {p : Pattern} {s t : ReadState} {w : Text} (h : Reads (.group i p) s w t)
    (hp : p.isGroupless = true) : t.groups = (i, ⟨s.place, s.place + w.length⟩) :: s.groups := by
  rcases h.group_inv with ⟨x, hx, rfl⟩
  rw [ReadState.close, hx.groups_eq hp, hx.advances.2]

/-!
# Matches
-/

/-- The match reads the word `w` of `t`, coming to the state `s`. -/
structure Matched (p : Pattern) (t : Text) (m : Match) (w : Text) (s : ReadState) : Prop where
  reads : Reads p ⟨.ofPlace t m.start, []⟩ w s
  start_le : m.start ≤ t.length
  stop_eq : m.stop = m.start + w.length
  groups_eq : m.groups = s.groups
  rest_eq : t.drop m.start = w ++ s.cursor.rest

theorem Matched.stop_le {p : Pattern} {t : Text} {m : Match} {w : Text} {s : ReadState} (h : Matched p t m w s) :
    m.stop ≤ t.length := by
  have hlength := congrArg List.length h.rest_eq
  rw [List.length_drop, List.length_append] at hlength
  have := h.start_le
  have := h.stop_eq
  omega

theorem matched_of_matchAt? {p : Pattern} {t : Text} {place : Nat} {m : Match} (hplace : place ≤ t.length)
    (hm : p.matchAt? (.ofPlace t place) = some m) : m.start = place ∧ exists w s, Matched p t m w s := by
  unfold matchAt? at hm
  cases hends : p.ends ⟨.ofPlace t place, []⟩ with
  | nil =>
      rw [hends] at hm
      cases hm
  | cons s rest =>
      rw [hends] at hm
      cases hm
      rcases leads_of_mem_ends (hends ▸ List.mem_cons_self) with ⟨w, hw⟩
      have hadvances := hw.advances
      exact ⟨rfl, w, s, hw, hplace, hadvances.2, rfl, hadvances.1⟩

theorem ofPlace_cons {t r : Text} {c : Char} {place : Nat} (hdrop : t.drop place = c :: r) :
    Cursor.ofPlace t (place + 1) = ⟨some c, place + 1, r⟩ := by
  have hget : t[place]? = some c := by
    rw [← List.head?_drop, hdrop, List.head?_cons]
  have htail : t.drop (place + 1) = r := by
    rw [← List.tail_drop, hdrop, List.tail_cons]
  simp [Cursor.ofPlace, hget, htail]

theorem matched_of_search {p : Pattern} {t rest : Text} {before : Option Char} {place : Nat} {m : Match}
    (hplace : place ≤ t.length) (hcursor : Cursor.ofPlace t place = ⟨before, place, rest⟩)
    (hm : p.search before place rest = some m) : exists w s, Matched p t m w s := by
  induction rest generalizing before place with
  | nil =>
      rw [search, ← hcursor] at hm
      cases hat : p.matchAt? (.ofPlace t place) with
      | none =>
          rw [hat] at hm
          cases hm
      | some m' =>
          rw [hat] at hm
          cases hm
          exact (matched_of_matchAt? hplace hat).2
  | cons c r ih =>
      rw [search, ← hcursor] at hm
      cases hat : p.matchAt? (.ofPlace t place) with
      | none =>
          rw [hat] at hm
          have hdrop : t.drop place = c :: r := congrArg Cursor.rest hcursor
          have hlt : place < t.length := by
            have := congrArg List.length hdrop
            rw [List.length_drop, List.length_cons] at this
            omega
          exact ih hlt (ofPlace_cons hdrop) hm
      | some m' =>
          rw [hat] at hm
          cases hm
          exact (matched_of_matchAt? hplace hat).2

theorem le_start_of_search {p : Pattern} {before : Option Char} {place : Nat} {rest : Text} {m : Match}
    (hm : p.search before place rest = some m) : place ≤ m.start := by
  have hat : forall {k : Cursor} {m' : Match}, p.matchAt? k = some m' -> k.place ≤ m'.start := by
    intro k m' h
    rw [matchAt?] at h
    split at h
    · cases h
    · cases h
      exact Nat.le_refl _
  induction rest generalizing before place with
  | nil =>
      rw [search] at hm
      split at hm
      · rename_i m' hm'
        cases hm
        exact hat hm'
      · cases hm
  | cons c r ih =>
      rw [search] at hm
      split at hm
      · rename_i m' hm'
        cases hm
        exact hat hm'
      · exact Nat.le_of_succ_le (ih hm)

theorem matched_of_find? {p : Pattern} {t : Text} {m : Match} (hm : p.find? t = some m) :
    exists w s, Matched p t m w s :=
  matched_of_search (Nat.zero_le _) rfl hm

theorem Matched.slice_eq {p : Pattern} {t : Text} {m : Match} {w : Text} {s : ReadState} (h : Matched p t m w s) :
    t.slice m.span = w := by
  have hspan : m.span = ⟨m.start, m.start + w.length⟩ := by
    rw [← h.stop_eq]
    rfl
  rw [hspan]
  refine Text.slice_of_eq_append (u := t.take m.start) (v := s.cursor.rest) ?_ ?_
  · rw [← h.rest_eq, List.take_append_drop]
  · rw [List.length_take, Nat.min_eq_left h.start_le]

/-- A match of the whole text reads all of it, from the start on. -/
theorem reads_of_find?_whole {p : Pattern} {t : Text} {m : Match} (hm : (whole p).find? t = some m) :
    exists s, Reads p ⟨.start t, []⟩ t s ∧ m.span = ⟨0, t.length⟩ ∧ m.groups = s.groups := by
  rcases matched_of_find? hm with ⟨w, s, h⟩
  rcases h.reads.seq_inv with ⟨u, v, x, rfl, hleft, hend⟩
  rcases hleft.seq_inv with ⟨u', v', y, rfl, hstart, hp⟩
  rcases hend.anchor_inv with ⟨rfl, rfl, hrest⟩
  rcases hstart.anchor_inv with ⟨rfl, rfl, hzero⟩
  have hstart0 : m.start = 0 := beq_iff_eq.mp hzero
  have hnil : s.cursor.rest = [] := List.isEmpty_iff.mp hrest
  have hword : t = v' := by
    have := h.rest_eq
    rwa [hstart0, hnil, List.drop_zero, List.append_nil, List.append_nil, List.nil_append] at this
  subst hword
  rw [hstart0] at hp
  refine ⟨s, hp, ?_, h.groups_eq⟩
  have hstop := h.stop_eq
  rw [hstart0, List.append_nil, List.nil_append, Nat.zero_add] at hstop
  show (⟨m.start, m.stop⟩ : Span) = ⟨0, t.length⟩
  rw [hstart0, hstop]

end Pattern

namespace Match

theorem text_of_lookup {m : Match} {t : Text} {i : Nat} {span : Span} (hi : i ≠ 0)
    (hspan : m.groups.lookup i = some span) : m.text t i = t.slice span := by
  rw [text, text?, group?, if_neg hi, hspan, Option.map_some, Option.getD_some]

end Match

namespace Pattern

/-!
# The order of matches

All matches of a pattern are found in one walk through the text.  Each of them reads a word of the text, and none
begins before the one in front of it has ended.
-/

/-- Matches from left to right, none of which begins before `next`. -/
structure InOrder (p : Pattern) (t : Text) (next : Nat) (ms : List Match) : Prop where
  matched : forall m, m ∈ ms -> exists w s, Matched p t m w s
  later : forall m, m ∈ ms -> next ≤ m.start
  apart : ms.Pairwise fun a b => a.stop ≤ b.start

theorem InOrder.nil (p : Pattern) (t : Text) (next : Nat) : InOrder p t next [] :=
  ⟨fun _ h => absurd h List.not_mem_nil, fun _ h => absurd h List.not_mem_nil, List.Pairwise.nil⟩

theorem InOrder.cons {p : Pattern} {t : Text} {next : Nat} {m : Match} {ms : List Match} {w : Text} {s : ReadState}
    (hm : Matched p t m w s) (hnext : next ≤ m.start) (h : InOrder p t m.stop ms) : InOrder p t next (m :: ms) := by
  constructor
  · intro m' hm'
    rcases List.mem_cons.mp hm' with rfl | hm'
    · exact ⟨w, s, hm⟩
    · exact h.matched m' hm'
  · intro m' hm'
    rcases List.mem_cons.mp hm' with rfl | hm'
    · exact hnext
    · have hlater := h.later m' hm'
      have hstop := hm.stop_eq
      omega
  · rw [List.pairwise_cons]
    exact ⟨h.later, h.apart⟩

theorem InOrder.behind {p : Pattern} {t : Text} {next : Nat} {m : Match} {ms : List Match}
    (h : InOrder p t next (m :: ms)) : InOrder p t m.stop ms := by
  have hapart := List.pairwise_cons.mp h.apart
  exact ⟨fun m' hm' => h.matched m' (List.mem_cons_of_mem m hm'), hapart.1, hapart.2⟩

/-- The match at a place, if there is one that the walk accepts. -/
theorem matched_of_found {p : Pattern} {t rest : Text} {before : Option Char} {place next : Nat}
    {accepts : Match -> Bool} {m : Match} (hplace : place ≤ t.length)
    (hcursor : Cursor.ofPlace t place = ⟨before, place, rest⟩)
    (hm : (if place < next then none else (p.matchAt? ⟨before, place, rest⟩).filter accepts) = some m) :
    next ≤ m.start ∧ exists w s, Matched p t m w s := by
  split at hm
  · cases hm
  · rename_i hnext
    have hat := (Option.filter_eq_some_iff.mp hm).1
    rw [← hcursor] at hat
    rcases matched_of_matchAt? hplace hat with ⟨hstart, hmatched⟩
    refine ⟨?_, hmatched⟩
    rw [hstart]
    exact Nat.le_of_not_lt hnext

theorem inOrder_matchesFrom (p : Pattern) {t rest : Text} {before : Option Char} {place : Nat} (next : Nat)
    (last : Option Nat) (hplace : place ≤ t.length) (hcursor : Cursor.ofPlace t place = ⟨before, place, rest⟩) :
    InOrder p t next (p.matchesFrom before place next last rest) := by
  induction rest generalizing before place next last with
  | nil =>
      rw [matchesFrom]
      rw [List.append_nil]
      generalize hfound : (if place < next then none else Option.filter _ _) = found
      cases found with
      | none => exact InOrder.nil p t next
      | some m =>
          rcases matched_of_found hplace hcursor hfound with ⟨hnext, w, s, hm⟩
          exact InOrder.cons hm hnext (InOrder.nil p t m.stop)
  | cons c r ih =>
      have hdrop : t.drop place = c :: r := congrArg Cursor.rest hcursor
      have hlt : place < t.length := by
        have hlength := congrArg List.length hdrop
        rw [List.length_drop, List.length_cons] at hlength
        omega
      rw [matchesFrom]
      generalize hfound : (if place < next then none else Option.filter _ _) = found
      cases found with
      | none => exact ih next last hlt (ofPlace_cons hdrop)
      | some m =>
          rcases matched_of_found hplace hcursor hfound with ⟨hnext, w, s, hm⟩
          exact InOrder.cons hm hnext (ih m.stop (some m.stop) hlt (ofPlace_cons hdrop))

theorem inOrder_matchList (p : Pattern) (t : Text) : InOrder p t 0 (p.matchList t) :=
  inOrder_matchesFrom p 0 none (Nat.zero_le _) rfl

theorem InOrder.filter {p : Pattern} {t : Text} {next : Nat} {ms : List Match} (h : InOrder p t next ms)
    (keep : Match -> Bool) : InOrder p t next (ms.filter keep) :=
  ⟨fun m hm => h.matched m ((List.mem_filter.mp hm).1), fun m hm => h.later m ((List.mem_filter.mp hm).1),
    h.apart.filter keep⟩

end Pattern
end WikiEntry
