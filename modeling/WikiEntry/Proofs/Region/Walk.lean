import WikiEntry.Proofs.Region.Replacement

/-!
# Replacing in one walk

Where it depends on nothing but the characters that follow how many of them a pattern reads, the search for all matches is
one walk through the text: at a match it goes on behind it, and otherwise behind the next character.  So replacing is
any function that does the same.
-/

namespace WikiEntry

namespace Pattern

/-- The pattern reads the next `len rest` characters of what follows, and nothing if there are none to be read. -/
structure ReadsAhead (p : Pattern) (len : Text -> Nat) : Prop where
  matchAt?_eq : forall before place rest,
    p.matchAt? ⟨before, place, rest⟩ = if len rest = 0 then none else some ⟨⟨place, place + len rest⟩, []⟩
  len_le : forall rest, len rest ≤ rest.length

theorem ReadsAhead.exists_read {p : Pattern} {len : Text -> Nat} (hp : ReadsAhead p len) {t : Text} (hlen : len t ≠ 0) :
    exists w r, t = w ++ r ∧ w ≠ [] ∧ len t = w.length := by
  have hlength : (t.take (len t)).length = len t := List.length_take_of_le (hp.len_le t)
  refine ⟨t.take (len t), t.drop (len t), (List.take_append_drop _ _).symm, ?_, hlength.symm⟩
  exact List.ne_nil_of_length_pos (hlength.symm ▸ Nat.pos_of_ne_zero hlen)

section Walk

variable {p : Pattern} {len : Text -> Nat} {before : Option Char} {place next : Nat} {last : Option Nat} {c : Char}
  {r w rest : Text} {m : Match}

theorem matchesFrom_nil (hp : ReadsAhead p len) : p.matchesFrom before place next last [] = [] := by
  have hlen : len [] = 0 := Nat.le_zero.mp (hp.len_le [])
  rw [matchesFrom, hp.matchAt?_eq, hlen]
  simp

theorem matchesFrom_of_len_eq_zero (hp : ReadsAhead p len) (hlen : len (c :: r) = 0) :
    p.matchesFrom before place next last (c :: r) = p.matchesFrom (some c) (place + 1) next last r := by
  rw [matchesFrom, hp.matchAt?_eq, hlen]
  simp

/-- No match begins inside the one before it. -/
theorem exists_matchesFrom_skip (p : Pattern) (before : Option Char) (place : Nat) (last : Option Nat) (w r : Text) :
    exists before', p.matchesFrom before place (place + w.length) last (w ++ r) =
      p.matchesFrom before' (place + w.length) (place + w.length) last r := by
  induction w generalizing before place with
  | nil => exact ⟨before, rfl⟩
  | cons c w ih =>
      rcases ih (some c) (place + 1) with ⟨before', heq⟩
      have hnext : place + (c :: w).length = place + 1 + w.length := by
        rw [List.length_cons]
        omega
      refine ⟨before', ?_⟩
      rw [hnext, ← heq, List.cons_append, matchesFrom, if_pos (by omega)]
      rfl

theorem exists_matchesFrom_match (hp : ReadsAhead p len) (before : Option Char) (last : Option Nat) (hnext : next ≤ place)
    (hw : w ≠ []) (hlen : len (w ++ r) = w.length) : exists before', p.matchesFrom before place next last (w ++ r) =
      ⟨⟨place, place + w.length⟩, []⟩ ::
        p.matchesFrom before' (place + w.length) (place + w.length) (some (place + w.length)) r := by
  rcases List.exists_cons_of_ne_nil hw with ⟨c, w, rfl⟩
  rcases exists_matchesFrom_skip p (some c) (place + 1) (some (place + (c :: w).length)) w r with ⟨before', heq⟩
  have hstop : place + 1 + w.length = place + (c :: w).length := by
    rw [List.length_cons]
    omega
  rw [hstop] at heq
  refine ⟨before', ?_⟩
  have hpositive : len (c :: (w ++ r)) ≠ 0 := by
    rw [← List.cons_append, hlen]
    exact Nat.succ_ne_zero _
  have hfound : ((p.matchAt? ⟨before, place, c :: (w ++ r)⟩).filter fun m => !(m.span.size == 0 && last == some place)) =
      some ⟨⟨place, place + (c :: w).length⟩, []⟩ := by
    rw [hp.matchAt?_eq, if_neg hpositive, ← List.cons_append, hlen, Option.filter_some, if_pos]
    simp [Span.size]
  rw [List.cons_append, matchesFrom, if_neg (Nat.not_lt.mpr hnext)]
  simp only [hfound]
  exact congrArg _ heq

theorem bounds_of_mem_matchesFrom (hp : ReadsAhead p len) (hm : m ∈ p.matchesFrom before place next last rest) :
    place ≤ m.start ∧ m.start ≤ m.stop := by
  induction rest generalizing before place next last with
  | nil =>
      rw [matchesFrom_nil hp] at hm
      cases hm
  | cons c r ih =>
      rw [matchesFrom] at hm
      rcases List.mem_append.mp hm with hfound | hlater
      · rw [Option.mem_toList] at hfound
        split at hfound
        · cases hfound
        · have hat := (Option.filter_eq_some_iff.mp hfound).1
          rw [hp.matchAt?_eq] at hat
          split at hat
          · cases hat
          · cases hat
            exact ⟨Nat.le_refl _, Nat.le_add_right _ _⟩
      · rcases ih hlater with ⟨hstart, hstop⟩
        exact ⟨Nat.le_of_succ_le hstart, hstop⟩

end Walk

/-!
# Fixed texts and runs
-/

theorem read_char (c : Char) (s : ReadState) :
    s.read (.char c) = if [c].isPrefixOf s.cursor.rest then [s.skip [c]] else [] := by
  unfold ReadState.read
  cases hrest : s.cursor.rest with
  | nil => rfl
  | cons d r =>
      have hskip : s.skip [c] = { s with cursor := s.cursor.next c r } := by
        rw [ReadState.skip, Cursor.skip, Cursor.skip, hrest, List.tail_cons]
      by_cases hc : c = d
      · subst hc
        simp [hskip, List.isPrefixOf]
      · simp [hc, List.isPrefixOf]

theorem ends_lit (l : Text) (s : ReadState) :
    (lit l).ends s = if l.isPrefixOf s.cursor.rest then [s.skip l] else [] := by
  induction l generalizing s with
  | nil => rfl
  | cons c l ih =>
      cases l with
      | nil => exact read_char c s
      | cons d l =>
          show (s.read (.char c)).flatMap (lit (d :: l)).ends = _
          rw [read_char]
          cases hrest : s.cursor.rest with
          | nil => rfl
          | cons x r =>
              by_cases hc : c = x
              · subst hc
                have hbehind : (s.skip [c]).cursor.rest = r := Cursor.rest_skip (w := [c]) hrest
                have hskip : (s.skip [c]).skip (d :: l) = s.skip (c :: d :: l) := rfl
                simp only [List.isPrefixOf, beq_self_eq_true, Bool.true_and, if_true, List.flatMap_singleton]
                rw [ih, hbehind, hskip]
              · simp [hc, List.isPrefixOf]

theorem readsAhead_lit {l : Text} (hl : l ≠ []) :
    ReadsAhead (lit l) fun rest => if l.isPrefixOf rest then l.length else 0 where
  matchAt?_eq := by
    intro before place rest
    have hpositive := List.length_pos_iff.mpr hl
    rw [matchAt?, ends_lit]
    by_cases hstands : l.isPrefixOf rest = true
    · simp only [hstands, if_true, if_neg (Nat.ne_of_gt hpositive)]
      have hplace : (ReadState.skip ⟨⟨before, place, rest⟩, []⟩ l).place = place + l.length := Cursor.place_skip _ l
      rw [hplace]
      rfl
    · simp [hstands]
  len_le := by
    intro rest
    split
    · rename_i hstands
      exact (List.isPrefixOf_iff_prefix.mp hstands).length_le
    · exact Nat.zero_le _

/-- How many characters of the set follow. -/
def runLength (set : CharSet) (rest : Text) : Nat :=
  (rest.takeWhile set.holds).length

/-- A run of characters of the set goes on as far as it can. -/
theorem of_runLength_append {set : CharSet} {w r : Text} (h : runLength set (w ++ r) = w.length) :
    (forall c, c ∈ w -> set.holds c = true) ∧ forall c, r.head? = some c -> set.holds c = false := by
  have hrun : (w ++ r).takeWhile set.holds = w :=
    (List.prefix_of_prefix_length_le (List.takeWhile_prefix _) (List.prefix_append w r) (Nat.le_of_eq h)).eq_of_length h
  have hall : forall c, c ∈ w -> set.holds c = true := by
    intro c hc
    rw [← hrun] at hc
    exact List.all_eq_true.mp List.all_takeWhile c hc
  refine ⟨hall, fun c hc => ?_⟩
  rcases List.head?_eq_some_iff.mp hc with ⟨r, rfl⟩
  refine Bool.eq_false_iff.mpr fun hholds => ?_
  rw [List.takeWhile_append_of_pos hall, List.takeWhile_cons_of_pos hholds] at hrun
  exact absurd (List.append_right_eq_self.mp hrun) (List.cons_ne_nil _ _)

theorem runCursors_none (set : CharSet) {rest : Text} {k : Cursor} (found : List Cursor) (hk : k.rest = rest) :
    runCursors set rest none k found = cursorsBehind k rest (runLength set rest) ++ found := by
  induction rest generalizing k found with
  | nil => rfl
  | cons c r ih =>
      rw [runCursors]
      by_cases hc : set.holds c = true
      · have hlength : runLength set (c :: r) = runLength set r + 1 := by
          rw [runLength, List.takeWhile_cons_of_pos hc]
          rfl
        rw [if_pos ⟨(Option.some_ne_none 0).symm, hc⟩, hlength, cursorsBehind_succ hk, Option.map_none,
          ih (k :: found) rfl, List.append_assoc, List.singleton_append]
      · have hlength : runLength set (c :: r) = 0 := by
          rw [runLength, List.takeWhile_cons_of_neg hc]
          rfl
        rw [if_neg fun h => hc h.2, hlength]
        rfl

theorem cursorsBehind_eq_cons (k : Cursor) (rest : Text) (n : Nat) :
    cursorsBehind k rest n = k.skip (rest.take n) :: (List.range n).reverse.map fun i => k.skip (rest.take i) := by
  rw [cursorsBehind, List.range_succ, List.reverse_append]
  rfl

theorem readsAhead_run {set : CharSet} {least : Nat} (hleast : 0 < least) :
    ReadsAhead (.run true least none set) fun rest => if least ≤ runLength set rest then runLength set rest else 0 where
  matchAt?_eq := by
    intro before place rest
    have hcursors := runCursors_none set (k := ⟨before, place, rest⟩) [] rfl
    rw [List.append_nil] at hcursors
    rw [matchAt?, ends, runEnds]
    dsimp only
    rw [hcursors, length_cursorsBehind]
    by_cases hle : least ≤ runLength set rest
    · have hmore : runLength set rest + 1 - least = runLength set rest - least + 1 := by omega
      have hpositive : runLength set rest ≠ 0 := by omega
      have hlength : (rest.take (runLength set rest)).length = runLength set rest :=
        List.length_take_of_le (List.takeWhile_prefix _).length_le
      rw [hmore, cursorsBehind_eq_cons, List.take_succ_cons]
      simp only [hle, if_true, List.map_cons, if_neg hpositive, ReadState.place, Cursor.place_skip, hlength]
    · have hnone : runLength set rest + 1 - least = 0 := by omega
      rw [hnone]
      simp [hle]
  len_le := by
    intro rest
    split
    · exact (List.takeWhile_prefix _).length_le
    · exact Nat.zero_le _

end Pattern

namespace Region

open Pattern

/-- Edits behind some text leave it as it is. -/
theorem applyFrom_append {place : Nat} {w r : Text} {edits : List Edit}
    (h : forall e, e ∈ edits -> place + w.length ≤ e.span.start ∧ e.span.start ≤ e.span.stop) :
    Edit.applyFrom place (w ++ r) edits = w ++ Edit.applyFrom (place + w.length) r edits := by
  cases edits with
  | nil => rfl
  | cons e edits =>
      rcases h e List.mem_cons_self with ⟨hstart, hstop⟩
      have htake : e.span.start - place = w.length + (e.span.start - (place + w.length)) := by omega
      have hdrop : e.span.stop - place = w.length + (e.span.stop - (place + w.length)) := by omega
      rw [Edit.applyFrom, Edit.applyFrom, htake, hdrop, List.take_length_add_append, List.drop_length_add_append]
      simp only [List.append_assoc]

section Walk

variable {p : Pattern} {len : Text -> Nat} {t new : Text}

/-- The edits that put `new` in the place of the matches in front of which no region begins to cover. -/
def editsOutside (regions : List Span) (new : Text) (ms : List Match) : List Edit :=
  (ms.filter fun m => !covers regions m.start).map fun m => ⟨m.span, new⟩

theorem replaceOutside_eq_applyFrom (p : Pattern) (t new : Text) :
    replaceOutside t p new = Edit.applyFrom 0 t (editsOutside (ignored t) new (p.matchList t)) := by
  have hedits := editsWith_const new (fun _ _ => ()) () (matchesOutside p (ignored t) Match.start t)
  exact congrArg (Edit.applyFrom 0 t) hedits

theorem bounds_of_mem_editsOutside (hp : ReadsAhead p len) {regions : List Span} {before : Option Char}
    {place next : Nat} {last : Option Nat} {rest : Text} {e : Edit}
    (he : e ∈ editsOutside regions new (p.matchesFrom before place next last rest)) :
    place ≤ e.span.start ∧ e.span.start ≤ e.span.stop := by
  rcases List.mem_map.mp he with ⟨m, hm, rfl⟩
  exact bounds_of_mem_matchesFrom hp (List.mem_filter.mp hm).1

/-- At a match, the new text takes its place, unless the match is covered. -/
theorem applyFrom_match (hp : ReadsAhead p len) (regions : List Span) (new : Text) (before : Option Char)
    (last : Option Nat) {place next : Nat} {w r : Text} (hnext : next ≤ place) (hw : w ≠ [])
    (hlen : len (w ++ r) = w.length) :
    exists before', Edit.applyFrom place (w ++ r)
        (editsOutside regions new (p.matchesFrom before place next last (w ++ r))) =
      (if covers regions place then w else new) ++ Edit.applyFrom (place + w.length) r
        (editsOutside regions new
          (p.matchesFrom before' (place + w.length) (place + w.length) (some (place + w.length)) r)) := by
  rcases exists_matchesFrom_match hp before last hnext hw hlen with ⟨before', hmatches⟩
  refine ⟨before', ?_⟩
  rw [hmatches, editsOutside]
  by_cases hcovers : covers regions place = true
  · rw [if_pos hcovers, List.filter_cons_of_neg (by simp [Match.start, hcovers])]
    exact applyFrom_append fun e he => bounds_of_mem_editsOutside hp he
  · rw [if_neg hcovers, List.filter_cons_of_pos (by simp [Match.start, hcovers]), List.map_cons, Edit.applyFrom]
    dsimp only
    rw [Nat.sub_self, Nat.add_sub_cancel_left, List.drop_left]
    rfl

/-- A function of the text in front of a place and the text behind it goes on as the walk does: past a character where
nothing is read, and past a match, which it replaces unless it is covered. -/
structure Walks (len : Text -> Nat) (t new : Text) (f : Text -> Text -> Text) : Prop where
  atEnd : f t [] = []
  past : forall u c r, t = u ++ c :: r -> len (c :: r) = 0 -> f u (c :: r) = c :: f (u ++ [c]) r
  pastMatch : forall u w r, t = u ++ (w ++ r) -> w ≠ [] -> len (w ++ r) = w.length ->
    f u (w ++ r) = (if covers (ignored t) u.length then w else new) ++ f (u ++ w) r

theorem applyFrom_eq_of_walks (hp : ReadsAhead p len) {f : Text -> Text -> Text} (hf : Walks len t new f) {u rest : Text}
    (heq : t = u ++ rest) (before : Option Char) (next : Nat) (last : Option Nat) (hnext : next ≤ u.length) :
    Edit.applyFrom u.length rest (editsOutside (ignored t) new (p.matchesFrom before u.length next last rest)) =
      f u rest := by
  -- a match is walked over as a whole, so the induction is on the length of what is left
  induction hn : rest.length using Nat.strongRecOn generalizing u rest before next last with
  | ind n ih =>
      subst hn
      cases rest with
      | nil =>
          rw [List.append_nil] at heq
          rw [matchesFrom_nil hp, ← heq, hf.atEnd]
          rfl
      | cons c r =>
          by_cases hlen : len (c :: r) = 0
          · have hnext' : next ≤ (u ++ [c]).length := by
              rw [List.length_append]
              exact Nat.le_add_right_of_le hnext
            have hlater := ih r.length (Nat.lt_succ_self _) (heq.trans (List.append_cons u c r)) (some c) next last hnext' rfl
            rw [List.length_append] at hlater
            rw [hf.past u c r heq hlen, ← hlater, matchesFrom_of_len_eq_zero hp hlen]
            exact applyFrom_append (w := [c]) fun e he => bounds_of_mem_editsOutside hp he
          · rcases hp.exists_read hlen with ⟨w, r', hsplit, hw, hlength⟩
            rw [hsplit] at heq hlength ih ⊢
            rcases applyFrom_match hp (ignored t) new before last hnext hw hlength with ⟨before', hreplaced⟩
            have hlater := ih r'.length (by simpa using List.length_pos_iff.mpr hw)
              (heq.trans (List.append_assoc u w r').symm) before' _ (some (u.length + w.length)) (Nat.le_refl _) rfl
            rw [List.length_append] at hlater
            rw [hreplaced, hlater, hf.pastMatch u w r' heq hw hlength]

/-- Replacing is any function that goes on as the walk does. -/
theorem replaceOutside_eq_of_walks (hp : ReadsAhead p len) {f : Text -> Text -> Text} (hf : Walks len t new f) :
    replaceOutside t p new = f [] t := by
  rw [replaceOutside_eq_applyFrom]
  exact applyFrom_eq_of_walks hp hf (List.nil_append t).symm none 0 none (Nat.zero_le _)

end Walk
end Region
end WikiEntry
