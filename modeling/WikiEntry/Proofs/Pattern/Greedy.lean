import Mathlib.Data.List.Forall2
import WikiEntry.Proofs.Pattern.Matched

/-!
# Preferred ways

Of the ways through a pattern the preferred one is taken.  Through a run of characters that goes on as long as it can this
is the longest one, so that none of its characters follows a match that ends with it; behind a run that stops as soon as it
can, what follows cannot be read earlier.
-/

namespace WikiEntry
namespace Pattern

/-!
# Runs that go on as long as they can
-/

/-- Nothing of the set follows the furthest cursor of a run. -/
theorem head?_runCursors (set : CharSet) (rest : Text) {k : Cursor} (hk : k.rest = rest) (found : List Cursor) :
    exists k' ks, runCursors set rest none k found = k' :: ks ∧ k'.rest.head?.all (fun c => !set.holds c) = true := by
  induction rest generalizing k found with
  | nil => exact ⟨k, found, rfl, by rw [hk]; rfl⟩
  | cons c r ih =>
      rw [runCursors]
      cases hc : set.holds c with
      | true => exact ih rfl (k :: found)
      | false => exact ⟨k, found, by simp, by rw [hk]; simp [hc]⟩

theorem exists_of_ends_many (set : CharSet) (s : ReadState) :
    exists t ts, (many set).ends s = t :: ts ∧ t.cursor.rest.head?.all (fun c => !set.holds c) = true := by
  rcases head?_runCursors set s.cursor.rest rfl [] with ⟨k, ks, hcursors, hrest⟩
  refine ⟨{ s with cursor := k }, ks.map fun k => { s with cursor := k }, ?_, hrest⟩
  show runEnds true 0 none set s = _
  simp [runEnds, hcursors]

/-- Nothing of the set follows the preferred way through a pattern that ends with a run of it. -/
theorem head?_of_ends_seq_many {p : Pattern} {i : Nat} {set : CharSet} {s t : ReadState} {ts : List ReadState}
    (h : (p ++ group i (many set)).ends s = t :: ts) : t.cursor.rest.head?.all (fun c => !set.holds c) = true := by
  have hends : (p.ends s).flatMap (group i (many set)).ends = t :: ts := h
  cases hp : p.ends s with
  | nil =>
      rw [hp] at hends
      cases hends
  | cons x xs =>
      rcases exists_of_ends_many set x with ⟨y, ys, hmany, hrest⟩
      have hgroup : (group i (many set)).ends x = y.close i x.place :: ys.map (·.close i x.place) := by
        rw [ends, hmany]
        rfl
      rw [hp, List.flatMap_cons, hgroup, List.cons_append] at hends
      rw [← (List.cons.inj hends).1]
      exact hrest

/-!
# Matches
-/

theorem matchAt?_of_found {p : Pattern} {t rest : Text} {before : Option Char} {place next : Nat}
    {accepts : Match -> Bool} {m : Match} (hplace : place ≤ t.length)
    (hcursor : Cursor.ofPlace t place = ⟨before, place, rest⟩)
    (hm : (if place < next then none else (p.matchAt? ⟨before, place, rest⟩).filter accepts) = some m) :
    p.matchAt? (.ofPlace t m.start) = some m := by
  split at hm
  · cases hm
  · have hat := (Option.filter_eq_some_iff.mp hm).1
    rw [← hcursor] at hat
    rw [(matched_of_matchAt? hplace hat).1]
    exact hat

theorem matchAt?_of_mem_matchesFrom {p : Pattern} {t rest : Text} {before : Option Char} {place next : Nat}
    {last : Option Nat} {m : Match} (hplace : place ≤ t.length)
    (hcursor : Cursor.ofPlace t place = ⟨before, place, rest⟩)
    (hm : m ∈ p.matchesFrom before place next last rest) : p.matchAt? (.ofPlace t m.start) = some m := by
  induction rest generalizing before place next last with
  | nil =>
      rw [matchesFrom, List.append_nil] at hm
      exact matchAt?_of_found hplace hcursor (Option.mem_toList.mp hm)
  | cons c r ih =>
      rw [matchesFrom] at hm
      rcases List.mem_append.mp hm with hm | hm
      · exact matchAt?_of_found hplace hcursor (Option.mem_toList.mp hm)
      · have hdrop : t.drop place = c :: r := congrArg Cursor.rest hcursor
        have hlt : place < t.length := by
          have hlength := congrArg List.length hdrop
          rw [List.length_drop, List.length_cons] at hlength
          omega
        exact ih hlt (ofPlace_cons hdrop) hm

/-- Nothing of the run that a pattern ends with follows a match that is found. -/
theorem head?_drop_stop {p : Pattern} {i : Nat} {set : CharSet} {t : Text} {m : Match}
    (hm : m ∈ (p ++ group i (many set)).matchList t) : (t.drop m.stop).head?.all (fun c => !set.holds c) = true := by
  have hat := matchAt?_of_mem_matchesFrom (Nat.zero_le _) rfl hm
  generalize m.start = start at hat
  rw [matchAt?] at hat
  cases hends : (p ++ group i (many set)).ends ⟨.ofPlace t start, []⟩ with
  | nil =>
      rw [hends] at hat
      cases hat
  | cons s ss =>
      rw [hends] at hat
      rcases leads_of_mem_ends (hends ▸ List.mem_cons_self) with ⟨w, hw⟩
      have hrest : t.drop start = w ++ s.cursor.rest := hw.advances.1
      have hplace : m.stop = start + w.length := by
        rw [← Option.some.inj hat]
        exact hw.advances.2
      rw [hplace, ← List.drop_drop, hrest, List.drop_left]
      exact head?_of_ends_seq_many hends

/-!
# Runs that stop as soon as they can
-/

/-- The first number that something is found for. -/
theorem exists_of_flatMap_range {α : Type} {f : Nat -> List α} {n : Nat} {y : α} {ys : List α}
    (h : (List.range n).flatMap f = y :: ys) :
    exists i, i < n ∧ (exists zs, f i = y :: zs) ∧ forall j, j < i -> f j = [] := by
  induction n generalizing ys with
  | zero => cases h
  | succ n ih =>
      rw [List.range_succ, List.flatMap_append, List.flatMap_singleton] at h
      cases hfront : (List.range n).flatMap f with
      | nil =>
          rw [hfront, List.nil_append] at h
          refine ⟨n, Nat.lt_succ_self n, ⟨ys, h⟩, fun j hj => ?_⟩
          exact List.flatMap_eq_nil_iff.mp hfront j (List.mem_range.mpr hj)
      | cons z zs =>
          rw [hfront, List.cons_append] at h
          rcases ih (hfront.trans (congrArg (· :: zs) (List.cons.inj h).1)) with ⟨i, hi, hfound, hnone⟩
          exact ⟨i, Nat.lt_succ_of_lt hi, hfound, hnone⟩

/-- The preferred way through a pattern goes on with the preferred way from some place. -/
theorem exists_of_flatMap {α β : Type} {l : List α} {f : α -> List β} {y : β} {ys : List β}
    (h : l.flatMap f = y :: ys) : exists a, a ∈ l ∧ exists zs, f a = y :: zs := by
  induction l with
  | nil => cases h
  | cons a l ih =>
      rw [List.flatMap_cons] at h
      cases ha : f a with
      | nil =>
          rw [ha, List.nil_append] at h
          rcases ih h with ⟨b, hb, hzs⟩
          exact ⟨b, List.mem_cons_of_mem a hb, hzs⟩
      | cons z zs =>
          rw [ha, List.cons_append] at h
          exact ⟨a, List.mem_cons_self, zs, ha.trans (congrArg (· :: zs) (List.cons.inj h).1)⟩

/-- What is read behind as few characters as possible cannot be read behind fewer of them. -/
theorem exists_of_ends_few {set : CharSet} {s t : ReadState} {ts : List ReadState} {later : ReadState -> List ReadState}
    (h : ((few set).ends s).flatMap later = t :: ts) :
    exists w r, s.cursor.rest = w ++ r ∧ (forall c, c ∈ w -> set.holds c = true) ∧
      (exists us, later (s.skip w) = t :: us) ∧ forall u, u <+: w -> u ≠ w -> later (s.skip u) = [] := by
  rcases runCursors_eq set none (k := s.cursor) [] rfl with ⟨n, hn, hset, _, hcursors⟩
  have hends : (few set).ends s = (List.range (n + 1)).map fun j => s.skip (s.cursor.rest.take j) := by
    show runEnds false 0 none set s = _
    simp [runEnds, hcursors, cursorsBehind, ReadState.skip, List.take_of_length_le, Function.comp_def]
  rw [hends, List.flatMap_map] at h
  rcases exists_of_flatMap_range h with ⟨j, hj, hfound, hnone⟩
  have hle : j ≤ n := Nat.le_of_lt_succ hj
  refine ⟨s.cursor.rest.take j, s.cursor.rest.drop j, (List.take_append_drop _ _).symm, fun c hc => ?_, hfound, ?_⟩
  · exact hset c (List.take_subset_take_left _ hle hc)
  · intro u hu hne
    have hshort : u = s.cursor.rest.take u.length := List.prefix_iff_eq_take.mp (hu.trans (List.take_prefix j _))
    have hlength : u.length < j := by
      have hle := hu.length_le
      rw [List.length_take] at hle
      rcases Nat.lt_or_eq_of_le (Nat.le_trans hle (Nat.min_le_left _ _)) with hlt | heq
      · exact hlt
      · exact absurd (heq ▸ hshort) hne
    rw [hshort]
    exact hnone u.length hlength

theorem exists_of_ends_group_few {i : Nat} {set : CharSet} {s t : ReadState} {ts : List ReadState}
    {later : ReadState -> List ReadState} (h : ((group i (few set)).ends s).flatMap later = t :: ts) :
    exists w r, s.cursor.rest = w ++ r ∧ (forall c, c ∈ w -> set.holds c = true) ∧
      (exists us, later ((s.skip w).close i s.place) = t :: us) ∧
      forall u, u <+: w -> u ≠ w -> later ((s.skip u).close i s.place) = [] := by
  rw [ends, List.flatMap_map] at h
  exact exists_of_ends_few h

/-!
# Shifted places

What a pattern without repeated rounds does at a place depends on what follows, and of what is in front only on whether it
is a word character.  So nothing but the places changes when a text gets another front, and blanks at its end change
nothing either for a pattern whose words do not end with them.
-/

/-- Whether a pattern repeats characters only, and looks around for nothing but word characters. -/
def isLocal : Pattern -> Bool
  | empty => true
  | one _ => true
  | anchor (.word _ _) => true
  | anchor _ => false
  | seq p q => p.isLocal && q.isLocal
  | alt p q => p.isLocal && q.isLocal
  | group _ p => p.isLocal
  | opt _ p => p.isLocal
  | run _ _ _ _ => true
  | loop _ _ _ => false
  | times _ _ _ _ => false
  | distinct _ => false

/-- The place with `d` characters more in front of it and with `x` at the end of what follows. -/
structure ShiftedCursor (d : Nat) (x : Text) (k k' : Cursor) : Prop where
  rest_eq : k'.rest = k.rest ++ x
  place_eq : k'.place = k.place + d
  before_eq : forall ascii, k'.before.any (Anchor.isWord ascii) = k.before.any (Anchor.isWord ascii)

structure Shifted (d : Nat) (x : Text) (s s' : ReadState) : Prop where
  cursor : ShiftedCursor d x s.cursor s'.cursor
  groups_eq : s'.groups = s.groups.map fun g => (g.1, g.2.shift d)

/-- Whether the end `x` of a text is still to be read. -/
def isBefore (x : Text) (s : ReadState) : Bool :=
  x.length ≤ s.cursor.rest.length

section Shifted

variable {d : Nat} {x : Text} {s s' : ReadState} {k k' : Cursor} {p : Pattern}

theorem ShiftedCursor.next {c : Char} {r : Text} (h : ShiftedCursor d x k k') :
    ShiftedCursor d x (k.next c r) (k'.next c (r ++ x)) := by
  refine ⟨rfl, ?_, fun _ => rfl⟩
  show k'.place + 1 = k.place + 1 + d
  rw [h.place_eq]
  exact Nat.add_right_comm _ _ _

theorem Shifted.isBefore (h : Shifted d x s s') : isBefore x s' = true := by
  rw [Pattern.isBefore, h.cursor.rest_eq, List.length_append]
  exact decide_eq_true (Nat.le_add_left _ _)

/-- Behind the end nothing leads back in front of it. -/
theorem filter_isBefore_ends (hs : Pattern.isBefore x s = false) : (p.ends s).filter (Pattern.isBefore x) = [] := by
  refine List.filter_eq_nil_iff.mpr fun t ht => ?_
  rcases leads_of_mem_ends ht with ⟨w, hw⟩
  have hlength := congrArg List.length hw.advances.1
  rw [List.length_append] at hlength
  simp only [Pattern.isBefore, decide_eq_false_iff_not, decide_eq_true_eq] at hs ⊢
  omega

/-- The cursors of a run that are further on. -/
theorem exists_runCursors_eq (set : CharSet) (rest : Text) (most : Option Nat) {k : Cursor} (found : List Cursor)
    (hk : k.rest = rest) :
    exists further, runCursors set rest most k found = further ++ k :: found ∧
      forall e, e ∈ further -> e.rest.length < rest.length := by
  induction rest generalizing most k found with
  | nil => exact ⟨[], rfl, List.forall_mem_nil _⟩
  | cons c r ih =>
      rw [runCursors]
      split
      · rcases ih (most.map (· - 1)) (k := k.next c r) (k :: found) rfl with ⟨further, heq, hshort⟩
        refine ⟨further ++ [k.next c r], by rw [heq, List.append_assoc]; rfl, fun e he => ?_⟩
        rcases List.mem_append.mp he with he | he
        · exact Nat.lt_succ_of_lt (hshort e he)
        · rw [List.mem_singleton.mp he]
          exact Nat.lt_succ_self _
      · exact ⟨[], rfl, List.forall_mem_nil _⟩

/-- In a shifted text a run goes on over the same characters, and further only in the end `x`. -/
theorem exists_runCursors_of_shifted (set : CharSet) {rest : Text} (most : Option Nat) {found found' : List Cursor}
    (h : ShiftedCursor d x k k') (hk : k.rest = rest) (hfound : List.Forall₂ (ShiftedCursor d x) found found') :
    exists further near, runCursors set (rest ++ x) most k' found' = further ++ near ∧
      (forall e, e ∈ further -> e.rest.length < x.length) ∧
      List.Forall₂ (ShiftedCursor d x) (runCursors set rest most k found) near := by
  induction rest generalizing most k k' found found' with
  | nil =>
      have hk' : k'.rest = x := by rw [h.rest_eq, hk, List.nil_append]
      rcases exists_runCursors_eq set x most found' hk' with ⟨further, heq, hshort⟩
      exact ⟨further, k' :: found', heq, hshort, .cons h hfound⟩
  | cons c r ih =>
      rw [List.cons_append, runCursors, runCursors]
      split
      · exact ih (most.map (· - 1)) h.next rfl (.cons h hfound)
      · exact ⟨[], k' :: found', rfl, List.forall_mem_nil _, .cons h hfound⟩

theorem runEnds_of_shifted (greedy : Bool) (least : Nat) (most : Option Nat) (set : CharSet) (h : Shifted d x s s') :
    List.Forall₂ (Shifted d x) (runEnds greedy least most set s)
      ((runEnds greedy least most set s').filter (Pattern.isBefore x)) := by
  rcases exists_runCursors_of_shifted set most h.cursor rfl .nil with ⟨further, near, heq, hfurther, hnear⟩
  rw [runEnds, runEnds, h.cursor.rest_eq, heq]
  generalize runCursors set s.cursor.rest most s.cursor [] = cursors at hnear
  have hcount : (further ++ near).length - least - further.length = cursors.length - least := by
    rw [List.length_append, hnear.length_eq]
    omega
  have hkept : ((further ++ near).take ((further ++ near).length - least)).filter
      (fun c => Pattern.isBefore x { s' with cursor := c }) = near.take (cursors.length - least) := by
    have hbehind : forall n, (further.take n).filter (fun c => Pattern.isBefore x { s' with cursor := c }) = [] := by
      refine fun n => List.filter_eq_nil_iff.mpr fun c hc => ?_
      have hshort := hfurther c (List.mem_of_mem_take hc)
      simpa only [Pattern.isBefore, decide_eq_true_eq, Nat.not_le] using hshort
    have hbefore : (near.take (cursors.length - least)).filter (fun c => Pattern.isBefore x { s' with cursor := c }) =
        near.take (cursors.length - least) := by
      have hflip : List.Forall₂ (fun c k => ShiftedCursor d x k c) near cursors := hnear.flip
      have hlive : forall c, c ∈ near -> Pattern.isBefore x { s' with cursor := c } = true :=
        ((List.forall₂_and_left near cursors).mp (hflip.imp fun c k hk =>
          ⟨Shifted.isBefore (s := { s with cursor := k }) ⟨hk, h.groups_eq⟩, hk⟩)).1
      exact List.filter_eq_self.mpr fun c hc => hlive c (List.mem_of_mem_take hc)
    rw [List.take_append, List.filter_append, hcount, hbehind, hbefore, List.nil_append]
  have htaken : List.Forall₂ (ShiftedCursor d x) (cursors.take (cursors.length - least))
      (near.take (cursors.length - least)) := List.forall₂_take _ hnear
  have hmap : forall {l l'}, List.Forall₂ (ShiftedCursor d x) l l' ->
      List.Forall₂ (Shifted d x) (l.map fun c => { s with cursor := c }) (l'.map fun c => { s' with cursor := c }) := by
    intro l l' hl
    rw [List.forall₂_map_left_iff, List.forall₂_map_right_iff]
    exact hl.imp fun _ _ hc => ⟨hc, h.groups_eq⟩
  rw [List.filter_map]
  cases greedy with
  | true =>
      simp only [if_true, Function.comp_def]
      rw [hkept]
      exact hmap htaken
  | false =>
      simp only [Bool.false_eq_true, if_false, Function.comp_def, List.filter_reverse]
      rw [hkept]
      exact hmap (List.forall₂_reverse_iff.mpr htaken)

theorem flatMap_filter {α β : Type} {l : List α} {f : α -> List β} {keep : α -> Bool}
    (h : forall a, a ∈ l -> keep a = false -> f a = []) : (l.filter keep).flatMap f = l.flatMap f := by
  induction l with
  | nil => rfl
  | cons a l ih =>
      have hlater := ih fun b hb => h b (List.mem_cons_of_mem a hb)
      cases ha : keep a with
      | true => rw [List.filter_cons_of_pos ha, List.flatMap_cons, List.flatMap_cons, hlater]
      | false =>
          rw [List.filter_cons_of_neg (Bool.eq_false_iff.mp ha), List.flatMap_cons, h a List.mem_cons_self ha, hlater]
          rfl

theorem read_of_shifted (set : CharSet) (h : Shifted d x s s') :
    List.Forall₂ (Shifted d x) (s.read set) ((s'.read set).filter (Pattern.isBefore x)) := by
  rw [ReadState.read, ReadState.read, h.cursor.rest_eq]
  cases hrest : s.cursor.rest with
  | nil =>
      cases x with
      | nil => exact .nil
      | cons c x =>
          dsimp only [List.nil_append]
          split
          · rw [List.filter_cons_of_neg (by simp [Pattern.isBefore, Cursor.next, Nat.not_le.mpr (Nat.lt_succ_self _)])]
            exact .nil
          · exact .nil
  | cons c r =>
      rw [List.cons_append]
      dsimp only
      split
      · have hnext :
            Shifted d x { s with cursor := s.cursor.next c r } { s' with cursor := s'.cursor.next c (r ++ x) } :=
          ⟨h.cursor.next, h.groups_eq⟩
        rw [List.filter_cons_of_pos hnext.isBefore]
        exact .cons hnext .nil
      · exact .nil

theorem holds_word_of_shifted {ascii : Bool} {test : WordTest}
    (hx : forall c, x.head? = some c -> Chars.isWord c = false) (h : ShiftedCursor d x k k') :
    (Anchor.word ascii test).holds k' = (Anchor.word ascii test).holds k := by
  have hafter : k'.rest.head?.any (Anchor.isWord ascii) = k.rest.head?.any (Anchor.isWord ascii) := by
    rw [h.rest_eq]
    cases k.rest with
    | cons c r => rfl
    | nil =>
        cases x with
        | nil => rfl
        | cons c x => simp [Anchor.isWord, hx c rfl]
  rw [Anchor.holds, Anchor.holds, h.before_eq, hafter]

theorem ends_of_shifted (hx : forall c, x.head? = some c -> Chars.isWord c = false) (hp : p.isLocal = true)
    (h : Shifted d x s s') :
    List.Forall₂ (Shifted d x) (p.ends s) ((p.ends s').filter (Pattern.isBefore x)) := by
  induction p generalizing s s' with
  | empty =>
      rw [ends, ends, List.filter_cons_of_pos h.isBefore]
      exact .cons h .nil
  | one set => exact read_of_shifted set h
  | anchor a =>
      cases a with
      | word ascii test =>
          rw [ends, ends, holds_word_of_shifted hx h.cursor]
          split
          · rw [List.filter_cons_of_pos h.isBefore]
            exact .cons h .nil
          · exact .nil
      | _ => cases hp
  | seq p q ihp ihq =>
      rw [isLocal, Bool.and_eq_true] at hp
      have hfilter : ((p.ends s').flatMap q.ends).filter (Pattern.isBefore x) =
          ((p.ends s').filter (Pattern.isBefore x)).flatMap fun t => (q.ends t).filter (Pattern.isBefore x) := by
        rw [List.filter_flatMap, flatMap_filter fun t _ ht => filter_isBefore_ends ht]
      rw [ends, ends, hfilter]
      exact List.rel_flatMap (ihp hp.1 h) fun _ _ ht => ihq hp.2 ht
  | alt p q ihp ihq =>
      rw [isLocal, Bool.and_eq_true] at hp
      rw [ends, ends, List.filter_append]
      exact List.rel_append (ihp hp.1 h) (ihq hp.2 h)
  | group i p ih =>
      rw [ends, ends, List.filter_map, List.forall₂_map_left_iff, List.forall₂_map_right_iff]
      refine (ih hp h).imp fun t t' ht => ⟨ht.cursor, ?_⟩
      have hspan : (⟨s'.place, t'.place⟩ : Span) = Span.shift ⟨s.place, t.place⟩ d := by
        show (⟨s'.cursor.place, t'.cursor.place⟩ : Span) = _
        rw [h.cursor.place_eq, ht.cursor.place_eq]
        rfl
      show (i, (⟨s'.place, t'.place⟩ : Span)) :: t'.groups = _
      rw [hspan, ht.groups_eq]
      rfl
  | opt greedy p ih =>
      rw [ends, ends]
      split
      · rw [List.filter_append, List.filter_cons_of_pos h.isBefore]
        exact List.rel_append (ih hp h) (.cons h .nil)
      · rw [List.filter_cons_of_pos h.isBefore]
        exact .cons h (ih hp h)
  | run greedy least most set => exact runEnds_of_shifted greedy least most set h
  | loop greedy atLeastOnce p => cases hp
  | times greedy least most p => cases hp
  | distinct p => cases hp

end Shifted

/-!
# Matches in a shifted text
-/

end Pattern

def Match.shift (m : Match) (d : Nat) : Match :=
  ⟨m.span.shift d, m.groups.map fun g => (g.1, g.2.shift d)⟩

namespace Pattern

/-- Words of a local pattern that are not empty, and do not end with a character of `x`; `x` does not go on with a word. -/
structure EndsBefore (p : Pattern) (x : Text) : Prop where
  isLocal : p.isLocal = true
  nonempty : p.mayBeEmpty = false
  last_not_mem : forall s w t, p.Reads s w t -> forall c, w.getLast? = some c -> c ∉ x
  head_not_word : forall c, x.head? = some c -> Chars.isWord c = false

section Matches

variable {d place place' next : Nat} {x rest rest' : Text} {k k' : Cursor} {p : Pattern} {before before' : Option Char}
  {last last' : Option Nat}

theorem EndsBefore.isBefore_of_mem_ends (hp : p.EndsBefore x) {s s' t : ReadState} (h : Shifted d x s s')
    (ht : t ∈ p.ends s') : isBefore x t = true := by
  rcases leads_of_mem_ends ht with ⟨w, hw⟩
  have heq := h.cursor.rest_eq.symm.trans hw.advances.1
  by_contra hbehind
  have hshort : t.cursor.rest.length < x.length := by
    simpa only [isBefore, decide_eq_true_eq, Nat.not_le] using hbehind
  rcases List.append_eq_append_iff.mp heq with ⟨y, rfl, hxy⟩ | ⟨y, _, hyrest⟩
  · have hy : y ≠ [] := by
      rintro rfl
      rw [hxy, List.nil_append] at hshort
      exact Nat.lt_irrefl _ hshort
    refine hp.last_not_mem _ _ _ hw (y.getLast hy) ?_ (hxy ▸ List.mem_append_left _ (List.getLast_mem hy))
    rw [List.getLast?_append_of_ne_nil _ hy, List.getLast?_eq_some_getLast hy]
  · rw [hyrest, List.length_append] at hshort
    omega

theorem EndsBefore.matchAt?_of_shifted (hp : p.EndsBefore x) (h : ShiftedCursor d x k k') :
    p.matchAt? k' = (p.matchAt? k).map (·.shift d) := by
  have hstate : Shifted d x ⟨k, []⟩ ⟨k', []⟩ := ⟨h, rfl⟩
  have hends := ends_of_shifted hp.head_not_word hp.isLocal hstate
  rw [List.filter_eq_self.mpr fun t ht => hp.isBefore_of_mem_ends hstate ht] at hends
  rw [matchAt?, matchAt?]
  generalize p.ends ⟨k, []⟩ = found at hends
  generalize p.ends ⟨k', []⟩ = found' at hends
  cases hends with
  | nil => rfl
  | @cons t t' _ _ ht _ =>
      have hplace : t'.place = t.place + d := ht.cursor.place_eq
      show some (⟨⟨k'.place, t'.place⟩, t'.groups⟩ : Match) = some (Match.shift ⟨⟨k.place, t.place⟩, t.groups⟩ d)
      rw [h.place_eq, hplace, ht.groups_eq]
      rfl

theorem exists_of_matchAt? {m : Match} (hm : p.matchAt? k = some m) :
    exists w s, p.Reads ⟨k, []⟩ w s ∧ m = ⟨⟨k.place, k.place + w.length⟩, s.groups⟩ := by
  rw [matchAt?] at hm
  split at hm
  · cases hm
  · rename_i s ss hends
    rcases leads_of_mem_ends (hends ▸ List.mem_cons_self) with ⟨w, hw⟩
    refine ⟨w, s, hw, ?_⟩
    rw [← Option.some.inj hm, hw.advances.2]
    rfl

/-- Only empty matches are refused at the end of the one before. -/
theorem EndsBefore.matchesFrom_cons (hp : p.EndsBefore x) (before : Option Char) (place next : Nat) (last : Option Nat)
    (c : Char) (r : Text) : p.matchesFrom before place next last (c :: r) =
      match if place < next then none else p.matchAt? ⟨before, place, c :: r⟩ with
      | none => p.matchesFrom (some c) (place + 1) next last r
      | some m => m :: p.matchesFrom (some c) (place + 1) m.stop (some m.stop) r := by
  have hfilter : ((p.matchAt? ⟨before, place, c :: r⟩).filter fun m => !(m.span.size == 0 && last == some place)) =
      p.matchAt? ⟨before, place, c :: r⟩ := by
    cases hm : p.matchAt? ⟨before, place, c :: r⟩ with
    | none => rfl
    | some m =>
        rcases exists_of_matchAt? hm with ⟨w, s, hw, rfl⟩
        have hpositive := List.length_pos_of_ne_nil (hw.ne_nil hp.nonempty)
        have hsize : (⟨place, place + w.length⟩ : Span).size ≠ 0 := by
          show place + w.length - place ≠ 0
          omega
        simp [hsize]
  rw [matchesFrom, hfilter]
  cases (if place < next then none else p.matchAt? ⟨before, place, c :: r⟩) <;> rfl

theorem EndsBefore.matchAt?_eq_none (hp : p.EndsBefore x) (hrest : forall c, c ∈ k.rest -> c ∈ x) :
    p.matchAt? k = none := by
  by_contra hfound
  rcases Option.ne_none_iff_exists'.mp hfound with ⟨m, hm⟩
  rcases exists_of_matchAt? hm with ⟨w, s, hw, -⟩
  have hne := hw.ne_nil hp.nonempty
  refine hp.last_not_mem _ _ _ hw _ (List.getLast?_eq_some_getLast hne) (hrest _ ?_)
  have hsplit : k.rest = w ++ s.cursor.rest := hw.advances.1
  rw [hsplit]
  exact List.mem_append_left _ (List.getLast_mem hne)

/-- Nothing is found in the end. -/
theorem EndsBefore.matchesFrom_eq_nil (hp : p.EndsBefore x) (hrest : forall c, c ∈ rest -> c ∈ x) :
    p.matchesFrom before place next last rest = [] := by
  induction rest generalizing before place next last with
  | nil =>
      rw [matchesFrom, hp.matchAt?_eq_none hrest]
      simp
  | cons c r ih =>
      rw [matchesFrom, hp.matchAt?_eq_none hrest]
      simpa using ih fun c' hc' => hrest c' (List.mem_cons_of_mem c hc')

theorem EndsBefore.matchesFrom_of_shifted (hp : p.EndsBefore x)
    (h : ShiftedCursor d x ⟨before, place, rest⟩ ⟨before', place', rest'⟩) :
    p.matchesFrom before' place' (next + d) last' rest' =
      (p.matchesFrom before place next last rest).map (·.shift d) := by
  induction rest generalizing before before' place place' next last last' rest' with
  | nil =>
      have hrest : rest' = x := h.rest_eq
      rw [hrest, hp.matchesFrom_eq_nil fun _ hc => hc, hp.matchesFrom_eq_nil fun _ hc => absurd hc List.not_mem_nil]
      rfl
  | cons c r ih =>
      have hrest : rest' = c :: (r ++ x) := h.rest_eq
      have hplace : place' = place + d := h.place_eq
      have hat := hp.matchAt?_of_shifted h
      have hnext : ShiftedCursor d x ⟨some c, place + 1, r⟩ ⟨some c, place' + 1, r ++ x⟩ := h.next
      subst hrest
      rw [hp.matchesFrom_cons, hp.matchesFrom_cons, hat]
      by_cases hplaces : place < next
      · rw [if_pos hplaces, if_pos (by omega)]
        exact ih hnext
      · rw [if_neg hplaces, if_neg (by omega)]
        cases p.matchAt? ⟨before, place, c :: r⟩ with
        | none => exact ih hnext
        | some m => exact congrArg (m.shift d :: ·) (ih hnext)

theorem matchesFrom_skip (p : Pattern) (before : Option Char) (place : Nat) (last : Option Nat) (w r : Text) :
    p.matchesFrom before place (place + w.length) last (w ++ r) =
      p.matchesFrom (w.getLast?.or before) (place + w.length) (place + w.length) last r := by
  induction w generalizing before place with
  | nil => rfl
  | cons c w ih =>
      have hnext : place + (c :: w).length = place + 1 + w.length := by
        rw [List.length_cons]
        omega
      have hbefore : (c :: w).getLast?.or before = w.getLast?.or (some c) := by
        cases w with
        | nil => rfl
        | cons c' w => rw [List.getLast?_cons_cons, List.getLast?_eq_some_getLast (List.cons_ne_nil c' w)]; rfl
      rw [hnext, hbefore, ← ih (some c) (place + 1), List.cons_append, matchesFrom, if_pos (by omega)]
      rfl

/-- Behind a first match that ends with no word character, the matches are those of the rest of the text. -/
theorem EndsBefore.matchList_append (hp : p.EndsBefore x) {u v : Text} {m : Match}
    (hm : p.matchAt? (.start (u ++ (v ++ x))) = some m) (hstop : m.stop = u.length) (hu : u ≠ [])
    (hlast : forall c, u.getLast? = some c -> Chars.isWord c = false) :
    p.matchList (u ++ (v ++ x)) = m :: (p.matchList v).map (·.shift u.length) := by
  rcases List.exists_cons_of_ne_nil hu with ⟨c, u', rfl⟩
  have hlength : 1 + u'.length = (c :: u').length := by
    rw [List.length_cons, Nat.add_comm]
  have hbefore : u'.getLast?.or (some c) = some ((c :: u').getLast hu) := by
    cases u' with
    | nil => rfl
    | cons c' u' => rw [List.getLast?_eq_some_getLast (List.cons_ne_nil c' u')]; rfl
  have hshifted : ShiftedCursor (c :: u').length x ⟨none, 0, v⟩
      ⟨some ((c :: u').getLast hu), (c :: u').length, v ++ x⟩ := by
    refine ⟨rfl, (Nat.zero_add _).symm, fun ascii => ?_⟩
    simp [Anchor.isWord, hlast _ (List.getLast?_eq_some_getLast hu)]
  have hbehind : p.matchesFrom (some ((c :: u').getLast hu)) (c :: u').length (0 + (c :: u').length) (some m.stop)
      (v ++ x) = (p.matchList v).map (·.shift (c :: u').length) := hp.matchesFrom_of_shifted hshifted
  rw [Nat.zero_add] at hbehind
  have hskip := matchesFrom_skip p (some c) 1 (some m.stop) u' (v ++ x)
  rw [hlength, hbefore, hbehind] at hskip
  rw [Cursor.start, List.cons_append] at hm
  rw [matchList, List.cons_append, hp.matchesFrom_cons, if_neg (Nat.lt_irrefl 0), hm]
  show m :: p.matchesFrom (some c) 1 m.stop (some m.stop) (u' ++ (v ++ x)) = _
  rw [hstop] at hskip ⊢
  exact congrArg (m :: ·) hskip

end Matches

end Pattern
end WikiEntry
