import WikiEntry.Proofs.Region.Replacement

/-!
# What a revision does to a text

A revision calls its replacer on the matches that lie outside the regions, one after the other, and copies everything
but the matches for which it got a new text.  So a region that no match outside the regions reaches into stands in the
revised text as it was, at a place that is moved by what the matches in front of it have gained or lost.
-/

namespace WikiEntry

/-- Each begins before the other one ends; an empty span overlaps the spans that it lies inside of. -/
def Span.Overlaps (a b : Span) : Prop :=
  a.start < b.stop ∧ b.start < a.stop

namespace Edit

/-- By how much the text gets longer. -/
def growth (e : Edit) : Int :=
  e.text.length - e.span.size

/-- By how much a place moves: the growth of all edits that end at it or before it. -/
def movement : List Edit -> (place : Nat) -> Int
  | [], _ => 0
  | e :: edits, place => if e.span.stop ≤ place then e.growth + movement edits place else movement edits place

/-- `out` is `t` from `place` on, with the new texts of the edits in the place of their spans and all else copied. -/
inductive Copied (t : Text) : (place : Nat) -> List Edit -> (out : Text) -> Prop where
  | rest (place : Nat) : Copied t place [] (t.drop place)
  | edit {place : Nat} {e : Edit} {edits : List Edit} {out : Text} (hplace : place ≤ e.span.start)
      (hspan : e.span.start ≤ e.span.stop) (hstop : e.span.stop ≤ t.length) (hrest : Copied t e.span.stop edits out) :
      Copied t place (e :: edits) (t.slice ⟨place, e.span.start⟩ ++ e.text ++ out)

variable {t out : Text} {place : Nat} {edits : List Edit}

/-- Pieces that follow each other make up one piece. -/
theorem slice_append_slice (t : Text) {a b c : Nat} (hab : a ≤ b) (hbc : b ≤ c) :
    t.slice ⟨a, b⟩ ++ t.slice ⟨b, c⟩ = t.slice ⟨a, c⟩ := by
  have hsize : c - a = (b - a) + (c - b) := by omega
  have hplace : b = a + (b - a) := by omega
  unfold Text.slice Span.size
  rw [hsize, List.take_add, List.drop_drop, ← hplace]

theorem length_slice {s : Span} (hstop : s.stop ≤ t.length) : (t.slice s).length = s.size := by
  unfold Text.slice Span.size
  rw [List.length_take, List.length_drop]
  omega

theorem Copied.le_stop (h : Copied t place edits out) : forall e, e ∈ edits -> place ≤ e.span.stop := by
  induction h with
  | rest place => exact fun e he => absurd he List.not_mem_nil
  | edit hplace hspan _ _ ih =>
      intro e' he'
      have hle := Nat.le_trans hplace hspan
      rcases List.mem_cons.mp he' with rfl | he'
      · exact hle
      · exact Nat.le_trans hle (ih e' he')

/-- What stands in front of the first edit is copied, so that the walk may as well begin behind it. -/
theorem Copied.exists_behind (h : Copied t place edits out) {next : Nat} (hplace : place ≤ next)
    (hbehind : forall e, e ∈ edits -> next ≤ e.span.start) :
    exists rest, out = t.slice ⟨place, next⟩ ++ rest ∧ Copied t next edits rest := by
  cases h with
  | rest place =>
      refine ⟨t.drop next, ?_, .rest next⟩
      have hcopied := drop_eq_append (t := t) (s := ⟨place, next⟩) (Nat.le_refl place) hplace
      rwa [Nat.sub_self, List.take_zero, List.nil_append] at hcopied
  | @edit _ e edits out hfirst hspan hstop hrest =>
      have hle := hbehind e List.mem_cons_self
      refine ⟨_, ?_, .edit hle hspan hstop hrest⟩
      rw [← slice_append_slice t hplace hle]
      simp only [List.append_assoc]

theorem movement_cons_of_le {e : Edit} (edits : List Edit) (h : e.span.stop ≤ place) :
    movement (e :: edits) place = e.growth + movement edits place := by
  rw [movement, if_pos h]

theorem movement_eq_zero (h : forall e, e ∈ edits -> place < e.span.stop) : movement edits place = 0 := by
  induction edits with
  | nil => rfl
  | cons e edits ih =>
      rcases List.forall_mem_cons.mp h with ⟨he, hedits⟩
      rw [movement, if_neg (Nat.not_le.mpr he), ih hedits]

/-- A span that no edit overlaps is copied, and moves by what the edits in front of it have gained. -/
theorem Copied.exists_append (h : Copied t place edits out) {s : Span} (hplace : place ≤ s.start)
    (hspan : s.start ≤ s.stop) (hstop : s.stop ≤ t.length) (hapart : forall e, e ∈ edits -> ¬ e.span.Overlaps s) :
    exists front back, out = front ++ t.slice s ++ back ∧
      (front.length : Int) = s.start - place + movement edits s.start := by
  induction h with
  | rest place =>
      refine ⟨_, _, drop_eq_append hplace hspan, ?_⟩
      rw [movement_eq_zero (List.forall_mem_nil _), List.length_take, List.length_drop]
      omega
  | @edit place e edits out hfirst hedit hlast hrest ih =>
      rcases List.forall_mem_cons.mp hapart with ⟨hover, hapart⟩
      by_cases hbefore : e.span.stop ≤ s.start
      · rcases ih hbefore hapart with ⟨front, back, rfl, hfront⟩
        refine ⟨t.slice ⟨place, e.span.start⟩ ++ e.text ++ front, back, by simp only [List.append_assoc], ?_⟩
        have hlength : (t.slice ⟨place, e.span.start⟩).length = e.span.start - place :=
          length_slice (Nat.le_trans hedit hlast)
        have hsize : e.span.size = e.span.stop - e.span.start := rfl
        rw [movement_cons_of_le edits hbefore, growth, List.length_append, List.length_append, hlength, hsize]
        omega
      · -- The edit begins behind the span, and so do all edits after it.
        have hbehind : s.stop ≤ e.span.start := by
          unfold Span.Overlaps at hover
          omega
        refine ⟨t.slice ⟨place, s.start⟩, t.slice ⟨s.stop, e.span.start⟩ ++ e.text ++ out, ?_, ?_⟩
        · rw [← slice_append_slice t (Nat.le_trans hplace hspan) hbehind, ← slice_append_slice t hplace hspan]
          simp only [List.append_assoc]
        · have hlength : (t.slice ⟨place, s.start⟩).length = s.start - place :=
            length_slice (Nat.le_trans hspan hstop)
          rw [hlength, movement_eq_zero]
          · omega
          · intro e' he'
            rcases List.mem_cons.mp he' with rfl | he'
            · omega
            · have := hrest.le_stop e' he'
              omega

theorem Copied.place_le_start (h : Copied t place edits out) : forall e, e ∈ edits -> place ≤ e.span.start := by
  induction h with
  | rest place => exact fun e he => absurd he List.not_mem_nil
  | edit hplace hspan _ _ ih =>
      intro e' he'
      rcases List.mem_cons.mp he' with rfl | he'
      · exact hplace
      · exact Nat.le_trans (Nat.le_trans hplace hspan) (ih e' he')

/-- The new text of an edit stands between what is made of the text in front of it and of the text behind it. -/
theorem Copied.exists_split {earlier later : List Edit} {e : Edit} (h : Copied t place (earlier ++ e :: later) out) :
    exists front back, out = front ++ e.text ++ back ∧ Copied (t.take e.span.start) place earlier front ∧
      Copied t e.span.stop later back := by
  induction earlier generalizing place out with
  | nil =>
      cases h with
      | @edit _ _ _ back hplace hspan hstop hrest =>
          refine ⟨t.slice ⟨place, e.span.start⟩, back, rfl, ?_, hrest⟩
          have hfront := Copied.rest (t := t.take e.span.start) place
          rwa [List.drop_take] at hfront
  | cons e' earlier ih =>
      cases h with
      | @edit _ _ _ rest hplace hspan hstop hrest =>
          rcases ih hrest with ⟨front, back, rfl, hfront, hback⟩
          have hle : e'.span.stop ≤ e.span.start :=
            hrest.place_le_start e (List.mem_append_right _ List.mem_cons_self)
          refine ⟨t.slice ⟨place, e'.span.start⟩ ++ e'.text ++ front, back, by simp only [List.append_assoc], ?_, hback⟩
          have hslice : Text.slice (t.take e.span.start) ⟨place, e'.span.start⟩ = t.slice ⟨place, e'.span.start⟩ := by
            unfold Text.slice Span.size
            dsimp only
            rw [List.drop_take, List.take_take, Nat.min_eq_left (by omega)]
          have hlength : e'.span.stop ≤ (t.take e.span.start).length := by
            rw [List.length_take]
            omega
          rw [← hslice]
          exact .edit hplace hspan hlength hfront

/-- What begins with a character of a kind still does when all new texts do. -/
theorem Copied.head?_all {p : Char -> Bool} (h : Copied t place edits out) (hrest : (t.drop place).head?.all p = true)
    (hedits : forall e, e ∈ edits -> exists c r, e.text = c :: r ∧ p c = true) : out.head?.all p = true := by
  cases h with
  | rest place => exact hrest
  | @edit _ e edits out _ _ _ _ =>
      rcases hedits e List.mem_cons_self with ⟨c, r, htext, hc⟩
      rw [htext, Text.slice]
      generalize t.drop place = rest at hrest
      generalize Span.size _ = size
      cases rest with
      | nil => simpa using hc
      | cons d rest =>
          cases size with
          | zero => simpa using hc
          | succ size => simpa using hrest

end Edit

namespace Region

/-!
# The calls of a replacer
-/

/-- The calls from one state on, each match with its answer; every call gets the state that the one before has left. -/
inductive Calls {σ : Type} (replacer : σ -> Match -> Option Text × σ) : σ -> List (Match × Option Text) -> σ -> Prop where
  | none (state : σ) : Calls replacer state [] state
  | call {state next last : σ} {m : Match} {answer : Option Text} {calls : List (Match × Option Text)}
      (hanswer : replacer state m = (answer, next)) (hlater : Calls replacer next calls last) :
      Calls replacer state ((m, answer) :: calls) last

/-- The edits of the calls that were answered with a new text. -/
def answered (calls : List (Match × Option Text)) : List Edit :=
  calls.filterMap fun c => c.2.map fun new => ⟨c.1.span, new⟩

theorem exists_calls {σ : Type} (replacer : σ -> Match -> Option Text × σ) (state : σ) (ms : List Match) :
    exists calls, calls.map Prod.fst = ms ∧ Calls replacer state calls (editsWith replacer state ms).2 ∧
      (editsWith replacer state ms).1 = answered calls := by
  induction ms generalizing state with
  | nil => exact ⟨[], rfl, .none state, rfl⟩
  | cons m ms ih =>
      rcases ih (replacer state m).2 with ⟨calls, hmatches, hcalls, hedits⟩
      refine ⟨(m, (replacer state m).1) :: calls, by rw [List.map_cons, hmatches], ?_, ?_⟩
      · cases hanswer : (replacer state m).1 <;>
          exact .call (by rw [← hanswer]) (by simpa only [editsWith, hanswer] using hcalls)
      · cases hanswer : (replacer state m).1 <;> simp [editsWith, hanswer, hedits, answered]

theorem Calls.exists_of_mem {σ : Type} {replacer : σ -> Match -> Option Text × σ} {state last : σ}
    {calls : List (Match × Option Text)} (h : Calls replacer state calls last) {m : Match} {answer : Option Text}
    (hmem : (m, answer) ∈ calls) : exists before after, replacer before m = (answer, after) := by
  induction h with
  | none state => cases hmem
  | call hanswer _ ih =>
      rcases List.mem_cons.mp hmem with heq | hmem
      · cases heq
        exact ⟨_, _, hanswer⟩
      · exact ih hmem

theorem copied_applyFrom {p : Pattern} {t : Text} {place : Nat} {calls : List (Match × Option Text)}
    (h : p.InOrder t place (calls.map Prod.fst)) :
    Edit.Copied t place (answered calls) (Edit.applyFrom place (t.drop place) (answered calls)) := by
  induction calls generalizing place with
  | nil => exact .rest place
  | cons c calls ih =>
      rcases c with ⟨m, answer⟩
      rcases h.matched m List.mem_cons_self with ⟨w, s, hm⟩
      have hplace : place ≤ m.start := h.later m List.mem_cons_self
      have hspan : m.start ≤ m.stop := by
        rw [hm.stop_eq]
        exact Nat.le_add_right _ _
      have hbehind : p.InOrder t m.stop (calls.map Prod.fst) := h.behind
      cases answer with
      | none =>
          -- Nothing changes at this match, and the text in front of the next one is copied from `place` on.
          have hle := Nat.le_trans hplace hspan
          exact ih ⟨hbehind.matched, fun m' hm' => Nat.le_trans hle (hbehind.later m' hm'), hbehind.apart⟩
      | some new =>
          have hdrop : (t.drop place).drop (m.stop - place) = t.drop m.stop := by
            rw [List.drop_drop, Nat.add_sub_cancel' (Nat.le_trans hplace hspan)]
          show Edit.Copied t place (⟨m.span, new⟩ :: answered calls)
            (t.slice ⟨place, m.start⟩ ++ new ++
              Edit.applyFrom m.stop ((t.drop place).drop (m.stop - place)) (answered calls))
          rw [hdrop]
          exact .edit hplace hspan hm.stop_le (ih hbehind)

/-!
# Revisions
-/

/-- A text that is revised with these calls of the replacer, and the state that the last call leaves. -/
structure Revised {σ : Type} (t : Text) (p : Pattern) (regions : List Span) (position : Match -> Nat)
    (replacer : σ -> Match -> Option Text × σ) (state : σ) (calls : List (Match × Option Text)) (out : Text) (last : σ) :
    Prop where
  /-- The replacer is called on the matches whose position lies in no region, and on no others. -/
  matches_eq : calls.map Prod.fst =
    (p.matchList t).filter fun m => decide (forall s, s ∈ regions -> ¬ (s.start ≤ position m ∧ position m < s.stop))
  in_order : (calls.map Prod.fst).Pairwise fun a b => a.stop ≤ b.start
  called : Calls replacer state calls last
  copied : Edit.Copied t 0 (answered calls) out
  /-- A span that no called match overlaps, as a region may be, stands in the revised text, moved by what is in front
  of it. -/
  kept : forall s : Span, s.start ≤ s.stop -> s.stop ≤ t.length -> (forall c, c ∈ calls -> ¬ c.1.span.Overlaps s) ->
    exists front back, out = front ++ t.slice s ++ back ∧
      (front.length : Int) = s.start + Edit.movement (answered calls) s.start

theorem matchesOutside_eq (p : Pattern) (regions : List Span) (position : Match -> Nat) (t : Text) :
    matchesOutside p regions position t = (p.matchList t).filter fun m =>
      decide (forall s, s ∈ regions -> ¬ (s.start ≤ position m ∧ position m < s.stop)) := by
  refine List.filter_congr fun m _ => ?_
  rw [Bool.eq_iff_iff, decide_eq_true_eq, Bool.not_eq_true', covers, List.any_eq_false]
  refine forall₂_congr fun s _ => ?_
  simp [Span.holds]

theorem exists_of_mem_answered {calls : List (Match × Option Text)} {e : Edit} (he : e ∈ answered calls) :
    exists c, c ∈ calls ∧ e.span = c.1.span := by
  rcases List.mem_filterMap.mp he with ⟨c, hc, heq⟩
  rcases Option.map_eq_some_iff.mp heq with ⟨new, _, rfl⟩
  exact ⟨c, hc, rfl⟩

/-- Whatever the pattern, the regions, the position and the replacer, a revision calls the replacer on the matches outside
the regions and replaces the ones that it answers; regions that these matches leave alone are kept. -/
theorem exists_revised_reviseWith {σ : Type} (t : Text) (p : Pattern) (regions : List Span) (position : Match -> Nat)
    (replacer : σ -> Match -> Option Text × σ) (state : σ) :
    exists calls, Revised t p regions position replacer state calls
      (reviseWith t p regions position replacer state).1 (reviseWith t p regions position replacer state).2 := by
  rcases exists_calls replacer state (matchesOutside p regions position t) with ⟨calls, hmatches, hcalls, hedits⟩
  have horder : p.InOrder t 0 (calls.map Prod.fst) := by
    rw [hmatches]
    exact (Pattern.inOrder_matchList p t).filter _
  have hcopied : Edit.Copied t 0 (answered calls) (reviseWith t p regions position replacer state).1 := by
    have h := copied_applyFrom horder
    rw [← hedits] at h ⊢
    exact h
  refine ⟨calls, hmatches.trans (matchesOutside_eq p regions position t), horder.apart, hcalls, hcopied, ?_⟩
  intro s hspan hstop hapart
  have hcopies : forall e, e ∈ answered calls -> ¬ e.span.Overlaps s := by
    intro e he
    rcases exists_of_mem_answered he with ⟨c, hc, hspan⟩
    rw [hspan]
    exact hapart c hc
  rcases hcopied.exists_append (Nat.zero_le _) hspan hstop hcopies with ⟨front, back, hout, hfront⟩
  refine ⟨front, back, hout, ?_⟩
  omega

end Region

/-!
# What revisions keep

Edits whose new texts have the same characters of some kind as their spans, in the same order, keep the characters of
that kind of the whole text.  A replacement keeps them if it does so at every match.
-/

section Kept

variable {t : Text} {keep : Char -> Bool}

namespace Edit

variable {place : Nat} {edits : List Edit}

theorem Copied.inOrder {out : Text} (h : Copied t place edits out) : InOrder place edits := by
  induction h with
  | rest place => exact trivial
  | edit hplace hspan _ _ ih => exact ⟨hplace, hspan, ih⟩

theorem filter_applyFrom (h : InOrder place edits)
    (hsame : forall e, e ∈ edits -> e.text.filter keep = (t.slice e.span).filter keep) :
    (applyFrom place (t.drop place) edits).filter keep = (t.drop place).filter keep := by
  induction edits generalizing place with
  | nil => rfl
  | cons e edits ih =>
      have hlater := ih h.2.2 fun e' he' => hsame e' (List.mem_cons_of_mem e he')
      have hfirst := hsame e List.mem_cons_self
      rw [applyFrom_cons h, List.filter_append, List.filter_append, hfirst, hlater, ← List.filter_append,
        ← List.filter_append, ← drop_eq_append h.1 h.2.1]

theorem filter_applyAll (h : InOrder 0 edits)
    (hsame : forall e, e ∈ edits -> e.text.filter keep = (t.slice e.span).filter keep) :
    (applyAll t edits).filter keep = t.filter keep :=
  filter_applyFrom h hsame

end Edit

open Pattern

variable {p : Pattern} {new : Text}

theorem Pattern.filter_replaceAll (hsame : forall s w s', Reads p s w s' -> new.filter keep = w.filter keep) :
    (p.replaceAll t new).filter keep = t.filter keep := by
  have horder := inOrder_matchList p t
  rw [replaceAll, spans, List.map_map]
  refine Edit.filter_applyAll (Region.inOrder_map_of_inOrder horder fun _ => new) fun e he => ?_
  rcases List.mem_map.mp he with ⟨m, hm, rfl⟩
  rcases horder.matched m hm with ⟨w, s, hmatched⟩
  exact (hsame _ _ _ hmatched.reads).trans (congrArg (List.filter keep) hmatched.slice_eq.symm)

namespace Region

theorem filter_reviseOutside {replacer : Match -> Option Text}
    (hsame : forall m w s new, Matched p t m w s -> replacer m = some new -> new.filter keep = w.filter keep) :
    (reviseOutside t p replacer).filter keep = t.filter keep := by
  have horder : p.InOrder t 0 (matchesOutside p (ignored t) Match.start t) := (inOrder_matchList p t).filter _
  rcases exists_calls (fun _ m => (replacer m, ())) () (matchesOutside p (ignored t) Match.start t) with
    ⟨calls, hmatches, hcalls, hedits⟩
  have hcopied := copied_applyFrom (hmatches.symm ▸ horder)
  show (Edit.applyAll t (editsWith _ () _).1).filter keep = t.filter keep
  rw [hedits]
  refine Edit.filter_applyAll hcopied.inOrder fun e he => ?_
  rcases List.mem_filterMap.mp he with ⟨⟨m, answer⟩, hc, heq⟩
  rcases Option.map_eq_some_iff.mp heq with ⟨new, rfl, rfl⟩
  rcases horder.matched m (hmatches ▸ List.mem_map_of_mem hc) with ⟨w, s, hmatched⟩
  rcases hcalls.exists_of_mem hc with ⟨_, _, hanswer⟩
  exact (hsame m w s new hmatched (Prod.mk.inj hanswer).1).trans
    (congrArg (List.filter keep) hmatched.slice_eq.symm)

theorem filter_replaceOutside (hsame : forall s w s', Reads p s w s' -> new.filter keep = w.filter keep) :
    (replaceOutside t p new).filter keep = t.filter keep := by
  refine filter_reviseOutside fun m w s new' hm hnew => ?_
  rw [← Option.some.inj hnew]
  exact hsame _ _ _ hm.reads

/-- Sanitizing touches nothing but tabs and spaces. -/
theorem filter_sanitizeBlanks (htab : keep '\t' = false) (hspace : keep ' ' = false) :
    (sanitizeBlanks t).filter keep = t.filter keep := by
  have hspaces : forall w : Text, (forall ch, ch ∈ w -> ch = ' ') -> w.filter keep = [] := by
    intro w hw
    refine List.filter_eq_nil_iff.mpr fun ch hch => ?_
    rw [hw ch hch, hspace]
    exact Bool.false_ne_true
  rw [sanitizeBlanks, filter_replaceOutside, filter_replaceOutside, filter_replaceOutside]
  · intro s w s' hw
    rw [(Reads.lit_inv (l := "\t") hw).1]
    simp [hspace, htab]
  · intro s w s' hw
    rcases hw.run_inv with ⟨hholds, _, _⟩
    rw [hspaces w fun ch hch => (beq_iff_eq.mp (hholds ch hch)).symm]
    simp [hspace]
  · intro s w s' hw
    rw [(Reads.lit_inv (l := " \n") hw).1]
    simp [hspace]

end Region

end Kept

end WikiEntry
