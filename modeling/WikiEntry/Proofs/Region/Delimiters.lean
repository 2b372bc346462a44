import WikiEntry.Proofs.Pattern.Between
import WikiEntry.Proofs.Pattern.Complete
import WikiEntry.Proofs.Region.Union
import WikiEntry.Proofs.Text.Pieces

/-!
# Words that delimit regions

Regions are found by words: a comment by two fixed ones, an element by its tags.  A search for a word of some kind finds
the leftmost one, which is said here in terms of the text around it and not of places, and what a tag is, is said without
the pattern that reads it.
-/

namespace WikiEntry
namespace Region

/-!
# The first word of a kind
-/

/-- Of the words of a kind that stand in `t` at `start` or behind, `w` is the first: it stands between `u` and `v`. -/
structure FirstWord (word : Text -> Prop) (t : Text) (start : Nat) (u w v : Text) : Prop where
  text_eq : t = u ++ (w ++ v)
  isWord : word w
  start_le : start ≤ u.length
  leftmost : forall u' w' v', t = u' ++ (w' ++ v') -> word w' -> start ≤ u'.length -> u.length ≤ u'.length

/-- No word of a kind stands in `t` at `start` or behind. -/
def NoWord (word : Text -> Prop) (t : Text) (start : Nat) : Prop :=
  forall u w v, t = u ++ (w ++ v) -> word w -> u.length < start

section Words

variable {front rest p before after : Text}

theorem startsWith_drop_of_eq {t u v : Text} (h : t = u ++ (p ++ v)) : Text.startsWith (t.drop u.length) p = true := by
  rw [h, List.drop_left]
  exact List.isPrefixOf_iff_prefix.mpr (List.prefix_append p v)

theorem startsWith_drop_rest {u v : Text} (h : front ++ rest = u ++ (p ++ v)) (hle : front.length ≤ u.length) :
    Text.startsWith (rest.drop (u.length - front.length)) p = true := by
  have hstands := startsWith_drop_of_eq h
  rwa [← Nat.add_sub_cancel' hle, ← List.drop_drop, List.drop_left] at hstands

theorem firstWord_of_splitOnce? (front : Text) (h : rest.splitOnce? p = some (before, after)) :
    FirstWord (· = p) (front ++ rest) front.length (front ++ before) p after := by
  constructor
  · rw [Text.eq_of_splitOnce? h]
    simp only [List.append_assoc]
  · rfl
  · rw [List.length_append]
    exact Nat.le_add_right _ _
  · rintro u' w' v' heq rfl hle
    rcases Option.map_eq_some_iff.mp h with ⟨n, hn, hsplit⟩
    rcases Text.find?_eq_some_iff.mp hn with ⟨_, hfirst⟩
    have hbefore : before.length ≤ n := by
      rw [← (Prod.mk.inj hsplit).1]
      exact List.length_take_le n rest
    rw [List.length_append]
    by_contra hlt
    have hnone := hfirst (u'.length - front.length) (by omega)
    rw [startsWith_drop_rest heq hle] at hnone
    cases hnone

theorem noWord_of_splitOnce? (front : Text) (h : rest.splitOnce? p = none) :
    NoWord (· = p) (front ++ rest) front.length := by
  rintro u w v heq rfl
  by_contra hle
  have hstands : exists n, Text.startsWith (rest.drop n) w = true :=
    ⟨_, startsWith_drop_rest heq (Nat.le_of_not_lt hle)⟩
  have hfind : rest.find? w = some (Nat.find hstands) :=
    Text.find?_eq_some_iff.mpr ⟨Nat.find_spec hstands, fun m hm => Bool.eq_false_iff.mpr (Nat.find_min hstands hm)⟩
  rw [Text.splitOnce?, hfind] at h
  cases h

end Words

/-!
# Words that a pattern reads
-/

/-- The words of a kind are those that a pattern reads, wherever they stand and whatever is around them. -/
structure Spells (p : Pattern) (word : Text -> Prop) : Prop where
  plain : p.hasPlainRounds = true
  sound : forall s w s', p.Reads s w s' -> word w
  complete : forall k w v, word w -> k.rest = w ++ v -> p.ReadsBetween k w (k.skip w)

namespace Spells

variable {p : Pattern} {word : Text -> Prop} {t rest : Text} {before : Option Char} {place start : Nat}

theorem ends_ne_nil (hp : Spells p word) {s : ReadState} {w v : Text} (hrest : s.cursor.rest = w ++ v) (hw : word w) :
    p.ends s ≠ [] := by
  rcases hp.complete _ w v hw hrest [] with ⟨gs, hreads⟩
  rcases hreads.finds hp.plain s rfl with ⟨s', hs', _⟩
  exact List.ne_nil_of_mem hs'

theorem matchAt?_ne_none (hp : Spells p word) {u w v : Text} (heq : t = u ++ (w ++ v)) (hw : word w) :
    p.matchAt? (.ofPlace t u.length) ≠ none := by
  have hrest : (Cursor.ofPlace t u.length).rest = w ++ v := by
    show t.drop u.length = w ++ v
    rw [heq, List.drop_left]
  rcases hp.complete _ w v hw hrest [] with ⟨gs, hreads⟩
  exact hreads.matchAt?_ne_none hp.plain

end Spells

/-- A search finds a match at the first place that has one. -/
theorem matchAt?_of_search {p : Pattern} {t rest : Text} {before : Option Char} {place i : Nat} {m? : Option Match}
    (hplace : place ≤ t.length) (hcursor : Cursor.ofPlace t place = ⟨before, place, rest⟩)
    (hm : p.search before place rest = m?) (hle : place ≤ i) (hi : i ≤ t.length)
    (hfirst : forall m, m? = some m -> i < m.start) : p.matchAt? (.ofPlace t i) = none := by
  induction rest generalizing before place with
  | nil =>
      have hlength : t.length ≤ place := List.drop_eq_nil_iff.mp (congrArg Cursor.rest hcursor)
      have hi : i = place := Nat.le_antisymm (hi.trans hlength) hle
      rw [Pattern.search, ← hcursor] at hm
      cases hat : p.matchAt? (.ofPlace t place) with
      | none => rw [hi, hat]
      | some m =>
          rw [hat] at hm
          have hstart := (Pattern.matched_of_matchAt? hplace hat).1
          have hlt := hfirst m hm.symm
          omega
  | cons c r ih =>
      rw [Pattern.search, ← hcursor] at hm
      have hdrop : t.drop place = c :: r := congrArg Cursor.rest hcursor
      cases hat : p.matchAt? (.ofPlace t place) with
      | none =>
          rw [hat] at hm
          have hlt : place < t.length := by
            have hlength := congrArg List.length hdrop
            rw [List.length_drop, List.length_cons] at hlength
            omega
          rcases Nat.eq_or_lt_of_le hle with rfl | hle
          · exact hat
          · exact ih hlt (Pattern.ofPlace_cons hdrop) hm hle
      | some m =>
          rw [hat] at hm
          have hstart := (Pattern.matched_of_matchAt? hplace hat).1
          have hlt := hfirst m hm.symm
          omega

namespace Spells

variable {p : Pattern} {word : Text -> Prop} {t : Text} {start : Nat}

theorem firstWord_of_findFrom? (hp : Spells p word) (hstart : start ≤ t.length) {m : Match}
    (hm : p.findFrom? t start = some m) :
    exists u w v, FirstWord word t start u w v ∧ m.span = ⟨u.length, u.length + w.length⟩ := by
  rcases Pattern.matched_of_search hstart rfl hm with ⟨w, s, hmatched⟩
  have hu : (t.take m.start).length = m.start := by rw [List.length_take, Nat.min_eq_left hmatched.start_le]
  refine ⟨t.take m.start, w, s.cursor.rest, ⟨?_, hp.sound _ _ _ hmatched.reads, ?_, ?_⟩, ?_⟩
  · rw [← hmatched.rest_eq, List.take_append_drop]
  · rw [hu]
    exact Pattern.le_start_of_search hm
  · intro u' w' v' heq hw' hle
    by_contra hlt
    refine hp.matchAt?_ne_none heq hw' (matchAt?_of_search hstart rfl hm hle ?_ ?_)
    · rw [heq, List.length_append]
      exact Nat.le_add_right _ _
    · intro m' hm'
      cases hm'
      rw [hu] at hlt
      exact Nat.lt_of_not_le hlt
  · rw [hu, ← hmatched.stop_eq]
    rfl

theorem noWord_of_findFrom? (hp : Spells p word) (hstart : start ≤ t.length) (hm : p.findFrom? t start = none) :
    NoWord word t start := by
  intro u w v heq hw
  by_contra hle
  refine hp.matchAt?_ne_none heq hw (matchAt?_of_search hstart rfl hm (Nat.le_of_not_lt hle) ?_ nofun)
  rw [heq, List.length_append]
  exact Nat.le_add_right _ _

end Spells

/-!
# Tags
-/

/-- The characters of a text, each in any case. -/
def InAnyCase (l w : Text) : Prop :=
  List.Forall₂ (fun a c => (CharSet.anyCase (.char a)).holds c = true) l w

instance (l w : Text) : Decidable (InAnyCase l w) :=
  inferInstanceAs (Decidable (List.Forall₂ (fun a c => (CharSet.anyCase (.char a)).holds c = true) l w))

/-- A tag begins with `head`, which does not go on as a word behind it if that is `edged`, and ends at the first angle
bracket; between them stand characters of the set `inner`. -/
def IsTag (head : Text) (edged : Bool) (inner : CharSet) (tag : Text) : Prop :=
  exists h g, tag = h ++ (g ++ ['>']) ∧ InAnyCase head h ∧ (forall c, c ∈ g -> inner.holds c = true) ∧
    (edged = true -> (Anchor.word false .edge).holds ⟨h.getLast?, h.length, g ++ ['>']⟩ = true)

def IsOpeningTag (name : Text) : Text -> Prop :=
  IsTag ('<' :: name) true (.anyCase (.noneOf ['>']))

def IsClosingTag (name : Text) : Text -> Prop :=
  IsTag ('<' :: '/' :: name) false (.anyCase .blank)

section Tags

variable {head name l w v : Text} {k : Cursor} {edged : Bool} {inner : CharSet}

theorem before_skip (k : Cursor) (w : Text) : (k.skip w).before = w.getLast?.or k.before := by
  induction w generalizing k with
  | nil => rfl
  | cons c w ih =>
      rw [Cursor.skip, ih]
      cases w with
      | nil => rfl
      | cons d w => rw [List.getLast?_cons_cons, List.getLast?_eq_some_getLast (List.cons_ne_nil d w)]; rfl

/-- Whether a word goes on depends on the characters around the place alone. -/
theorem holds_edge {k : Cursor} {h g v : Text} (hh : h ≠ []) (hg : g ≠ []) (hrest : k.rest = h ++ (g ++ v)) :
    (Anchor.word false .edge).holds (k.skip h) = (Anchor.word false .edge).holds ⟨h.getLast?, h.length, g⟩ := by
  rw [Anchor.holds, Anchor.holds, before_skip, Cursor.rest_skip hrest, List.head?_append_of_ne_nil _ hg,
    List.getLast?_eq_some_getLast hh]
  rfl

theorem inAnyCase_of_reads {s s' : ReadState} (h : (Pattern.lit l).ignoringCase.Reads s w s') : InAnyCase l w := by
  induction l generalizing s w with
  | nil =>
      cases h with
      | empty s => exact List.Forall₂.nil
  | cons a l ih =>
      cases l with
      | nil =>
          rcases Pattern.Reads.one_inv h with ⟨c, rfl, hc, _⟩
          exact List.Forall₂.cons hc List.Forall₂.nil
      | cons b l =>
          rcases Pattern.Reads.seq_inv h with ⟨u, v, x, rfl, hu, hv⟩
          rcases Pattern.Reads.one_inv hu with ⟨c, rfl, hc, _⟩
          exact List.Forall₂.cons hc (ih hv)

theorem readsBetween_of_inAnyCase (h : InAnyCase l w) (hrest : k.rest = w ++ v) :
    (Pattern.lit l).ignoringCase.ReadsBetween k w (k.skip w) := by
  induction l generalizing k w with
  | nil =>
      cases h with
      | nil => exact fun gs => ⟨gs, .empty _⟩
  | cons a l ih =>
      cases h with
      | @cons _ c _ w hc hw =>
          have hone := Pattern.ReadsBetween.one (.anyCase (.char a)) hrest hc
          cases l with
          | nil =>
              cases hw with
              | nil => exact hone
          | cons b l =>
              have hseq := hone.seq (ih hw (Cursor.rest_skip (w := [c]) hrest))
              rwa [Cursor.skip_append] at hseq

theorem plain_lit (l : Text) : (Pattern.lit l).ignoringCase.hasPlainRounds = true := by
  induction l with
  | nil => rfl
  | cons a l ih =>
      cases l with
      | nil => rfl
      | cons b l => exact ih

theorem InAnyCase.append {l l' w w' : Text} (h : InAnyCase l w) (h' : InAnyCase l' w') :
    InAnyCase (l ++ l') (w ++ w') :=
  List.rel_append h h'

theorem InAnyCase.exists_append {l l' w : Text} (h : InAnyCase (l ++ l') w) :
    exists u v, w = u ++ v ∧ InAnyCase l u ∧ InAnyCase l' v := by
  induction l generalizing w with
  | nil => exact ⟨[], w, rfl, List.Forall₂.nil, h⟩
  | cons a l ih =>
      cases h with
      | @cons _ c _ w hc hw =>
          rcases ih hw with ⟨u, v, rfl, hu, hv⟩
          exact ⟨c :: u, v, rfl, List.Forall₂.cons hc hu, hv⟩

theorem InAnyCase.ne_nil (h : InAnyCase l w) (hl : l ≠ []) : w ≠ [] := by
  cases h with
  | nil => exact absurd rfl hl
  | cons => exact List.cons_ne_nil _ _

theorem eq_of_reads_bracket {s s' : ReadState} (h : (Pattern.lit ['>']).ignoringCase.Reads s w s') : w = ['>'] := by
  rcases Pattern.Reads.one_inv h with ⟨c, rfl, hc, _⟩
  rw [CharSet.eq_of_holds_anyCase (by decide) (by decide) (by decide) hc]

theorem readsBetween_bracket (hrest : k.rest = '>' :: v) :
    (Pattern.lit ['>']).ignoringCase.ReadsBetween k ['>'] (k.skip ['>']) :=
  Pattern.ReadsBetween.one _ hrest (by decide)

theorem readsBetween_anchor {a : Anchor} (ha : a.holds k = true) : (Pattern.anchor a).ReadsBetween k [] k :=
  fun gs => ⟨gs, .anchor ha⟩

theorem spells_opening (name : Text) : Spells (TagPattern.ofName name).opening (IsOpeningTag name) where
  plain := by
    show (true && (Pattern.lit name).ignoringCase.hasPlainRounds && true && true && true) = true
    rw [plain_lit]
    rfl
  sound := by
    intro s w s' h
    have hrest := h.advances.1
    rcases h.seq_inv with ⟨w, z, _, rfl, h, hz⟩
    rcases h.seq_inv with ⟨w, g, _, rfl, h, hg⟩
    rcases h.seq_inv with ⟨w, e, _, rfl, h, he⟩
    rcases h.seq_inv with ⟨x, y, _, rfl, hx, hy⟩
    rcases he.anchor_inv with ⟨rfl, rfl, hedge⟩
    rcases hg.run_inv with ⟨hinner, _, rfl⟩
    rw [eq_of_reads_bracket hz] at hrest ⊢
    have hhead := (inAnyCase_of_reads (l := ['<']) hx).append (inAnyCase_of_reads hy)
    refine ⟨x ++ y, g, by simp, hhead, hinner, fun _ => ?_⟩
    rw [hy.cursor_eq, hx.cursor_eq, Cursor.skip_append] at hedge
    rw [← hedge]
    refine (holds_edge (v := s'.cursor.rest) (hhead.ne_nil (List.cons_ne_nil _ _)) (by simp) ?_).symm
    rw [hrest]
    simp
  complete := by
    rintro k w v ⟨h, g, rfl, hhead, hinner, hedge⟩ hrest
    rcases InAnyCase.exists_append (l := ['<']) hhead with ⟨x, y, rfl, hx, hy⟩
    rw [List.append_assoc] at hrest
    have hedge := (holds_edge (hhead.ne_nil (List.cons_ne_nil _ _)) (by simp) hrest).trans (hedge rfl)
    have hname : (k.skip x).rest = y ++ (g ++ ('>' :: v)) := Cursor.rest_skip (by rw [hrest]; simp)
    have hattributes := Cursor.rest_skip hname
    have hend := Cursor.rest_skip hattributes
    rw [← Cursor.skip_append] at hedge
    have hreads := ((((readsBetween_of_inAnyCase hx (by rw [hrest, List.append_assoc])).seq
      (readsBetween_of_inAnyCase hy hname)).seq (readsBetween_anchor hedge)).seq
        (Pattern.ReadsBetween.run true hattributes hinner (Nat.zero_le _))).seq (readsBetween_bracket hend)
    simp only [Cursor.skip_append, List.append_assoc, List.append_nil] at hreads ⊢
    exact hreads

/-- A tag without attributes, which is read in one piece. -/
theorem spells_bare (head : Text) : Spells ((Pattern.lit head).ignoringCase ++ Pattern.blanks.ignoringCase ++
    (Pattern.lit ['>']).ignoringCase) (IsTag head false (.anyCase .blank)) where
  plain := by
    show ((Pattern.lit head).ignoringCase.hasPlainRounds && true && true) = true
    rw [plain_lit]
    rfl
  sound := by
    intro s w s' hreads
    rcases hreads.seq_inv with ⟨w, z, _, rfl, hreads, hz⟩
    rcases hreads.seq_inv with ⟨h, g, _, rfl, hh, hg⟩
    refine ⟨h, g, ?_, inAnyCase_of_reads hh, hg.run_inv.1, nofun⟩
    rw [eq_of_reads_bracket hz, List.append_assoc]
  complete := by
    rintro k w v ⟨h, g, rfl, hhead, hinner, _⟩ hrest
    rw [List.append_assoc] at hrest
    have hblanks := Cursor.rest_skip hrest
    rw [List.append_assoc] at hblanks
    have hend := Cursor.rest_skip hblanks
    have hreads := ((readsBetween_of_inAnyCase hhead hrest).seq
      (Pattern.ReadsBetween.run true hblanks hinner (Nat.zero_le _))).seq (readsBetween_bracket hend)
    simp only [Cursor.skip_append, List.append_assoc] at hreads ⊢
    exact hreads

theorem spells_closing (name : Text) : Spells (TagPattern.ofName name).closing (IsClosingTag name) where
  plain := by
    show (true && (Pattern.lit name).ignoringCase.hasPlainRounds && true && true) = true
    rw [plain_lit]
    rfl
  sound := by
    intro s w s' h
    rcases h.seq_inv with ⟨w, z, _, rfl, h, hz⟩
    rcases h.seq_inv with ⟨w, g, _, rfl, h, hg⟩
    rcases h.seq_inv with ⟨x, y, _, rfl, hx, hy⟩
    have hhead := (inAnyCase_of_reads (l := ['<', '/']) hx).append (inAnyCase_of_reads hy)
    refine ⟨x ++ y, g, ?_, hhead, hg.run_inv.1, nofun⟩
    rw [eq_of_reads_bracket hz, List.append_assoc]
  complete := by
    rintro k w v ⟨h, g, rfl, hhead, hinner, _⟩ hrest
    rcases InAnyCase.exists_append (l := ['<', '/']) hhead with ⟨x, y, rfl, hx, hy⟩
    rw [List.append_assoc] at hrest
    have hname : (k.skip x).rest = y ++ (g ++ ('>' :: v)) := Cursor.rest_skip (by rw [hrest]; simp)
    have hblanks := Cursor.rest_skip hname
    have hend := Cursor.rest_skip hblanks
    have hreads := (((readsBetween_of_inAnyCase hx (by rw [hrest, List.append_assoc])).seq
      (readsBetween_of_inAnyCase hy hname)).seq
        (Pattern.ReadsBetween.run true hblanks hinner (Nat.zero_le _))).seq (readsBetween_bracket hend)
    simp only [Cursor.skip_append, List.append_assoc] at hreads ⊢
    exact hreads

end Tags

/-!
# Where regions begin
-/

section Regions

variable {t rest : Text} {rounds place start : Nat} {s : Span}

/-- One round reads a comment up to its end, or finds that it is not closed, or that there is none. -/
theorem flatFrom_cases (rounds place : Nat) (rest : Text) :
    flatFrom "<!--" "-->" true (rounds + 1) place rest = [] ∨
      (exists before body after : Text, rest = before ++ "<!--".toList ++ (body ++ "-->".toList) ++ after ∧
        flatFrom "<!--" "-->" true (rounds + 1) place rest =
          ⟨place + before.length, place + (before ++ "<!--".toList ++ (body ++ "-->".toList)).length⟩ ::
            flatFrom "<!--" "-->" true rounds
              (place + (before ++ "<!--".toList ++ (body ++ "-->".toList)).length) after) ∨
      exists before inside : Text, rest = before ++ "<!--".toList ++ inside ∧
        flatFrom "<!--" "-->" true (rounds + 1) place rest = [⟨place + before.length, place + rest.length⟩] := by
  rw [flatFrom]
  split
  · exact .inl rfl
  · rename_i before inside hopening
    have hsplit := Text.eq_of_splitOnce? hopening
    dsimp only
    split
    · rename_i body after hclosing
      have hstop : place + before.length + "<!--".toList.length + body.length + "-->".toList.length =
          place + (before ++ "<!--".toList ++ (body ++ "-->".toList)).length := by
        simp only [List.length_append, Nat.add_assoc]
      refine .inr (.inl ⟨before, body, after, ?_, by rw [hstop]⟩)
      rw [hsplit, Text.eq_of_splitOnce? hclosing]
      simp only [List.append_assoc]
    · exact .inr (.inr ⟨before, inside, hsplit, if_pos rfl⟩)

theorem begins_of_mem_comments (hrest : t.drop place = rest) (hs : s ∈ flatFrom "<!--" "-->" true rounds place rest) :
    s.start ≤ s.stop ∧ "<!--".toList <+: t.drop s.start := by
  induction rounds generalizing place rest with
  | zero => cases hs
  | succ rounds ih =>
      have hopens : forall before inside : Text, rest = before ++ "<!--".toList ++ inside ->
          "<!--".toList <+: t.drop (place + before.length) := by
        intro before inside hsplit
        rw [← List.drop_drop, hrest, hsplit, List.append_assoc, List.drop_left]
        exact List.prefix_append _ _
      rcases flatFrom_cases rounds place rest with hnone | ⟨before, body, after, hsplit, hclosed⟩ |
        ⟨before, inside, hsplit, hunclosed⟩
      · rw [hnone] at hs
        cases hs
      · rw [hclosed] at hs
        rcases List.mem_cons.mp hs with rfl | hs
        · refine ⟨?_, hopens before (body ++ "-->".toList ++ after) (by rw [hsplit]; simp only [List.append_assoc])⟩
          simp only [List.length_append]
          omega
        · refine ih ?_ hs
          rw [← List.drop_drop, hrest, hsplit, List.drop_left]
      · rw [hunclosed, List.mem_singleton] at hs
        rw [hs]
        refine ⟨?_, hopens before inside hsplit⟩
        rw [hsplit]
        simp only [List.length_append]
        omega

theorem begins_of_mem_elements {name : Text} (hstart : start ≤ t.length)
    (hs : s ∈ elementsFrom (.ofName name) t rounds start) :
    s.start ≤ s.stop ∧ exists w, IsOpeningTag name w ∧ w <+: t.drop s.start := by
  induction rounds generalizing start with
  | zero => cases hs
  | succ rounds ih =>
      rw [elementsFrom] at hs
      split at hs
      · cases hs
      · rename_i opening hopening
        rcases Pattern.matched_of_search hstart rfl hopening with ⟨w, state, hm⟩
        have hstop := hm.stop_le
        split at hs
        · exact ih hstop hs
        · split at hs
          · cases hs
          · rename_i closing hclosing
            have hle : opening.stop ≤ closing.start := Pattern.le_start_of_search hclosing
            rcases Pattern.matched_of_search hstop rfl hclosing with ⟨w', state', hm'⟩
            rcases List.mem_cons.mp hs with rfl | hs
            · refine ⟨?_, w, (spells_opening name).sound _ _ _ hm.reads, ?_⟩
              · have := hm.stop_eq
                have := hm'.stop_eq
                show opening.start ≤ closing.stop
                omega
              · show w <+: t.drop opening.start
                rw [hm.rest_eq]
                exact List.prefix_append _ _
            · exact ih hm'.stop_le hs

end Regions

/-!
# Comments one behind the other
-/

section InTurn

variable {t : Text} {place place' : Nat} {s : Span} {spans : List Span}

/-- Spans of a text, one behind the other; one that another stands behind does not end with a blank. -/
def InTurn (t : Text) (place : Nat) : List Span -> Prop
  | [] => place ≤ t.length
  | s :: spans =>
      place ≤ s.start ∧ s.start ≤ s.stop ∧ s.stop ≤ t.length ∧
        (spans ≠ [] -> forall ch, (t.take s.stop).getLast? = some ch -> Chars.isBlank ch = false) ∧
        InTurn t s.stop spans

theorem InTurn.mono (h : InTurn t place spans) (hle : place' ≤ place) : InTurn t place' spans := by
  cases spans with
  | nil => exact hle.trans h
  | cons s spans => exact ⟨hle.trans h.1, h.2⟩

theorem InTurn.filter (h : InTurn t place spans) (keep : Span -> Bool) : InTurn t place (spans.filter keep) := by
  induction spans generalizing place with
  | nil => exact h
  | cons s spans ih =>
      rcases h with ⟨hplace, hspan, hstop, hsolid, hlater⟩
      rw [List.filter_cons]
      split
      · refine ⟨hplace, hspan, hstop, fun hne => hsolid ?_, ih hlater⟩
        rintro rfl
        exact hne rfl
      · exact (ih hlater).mono (hplace.trans hspan)

theorem inTurn_flatFrom {rounds : Nat} {rest : Text} (hrest : t.drop place = rest) (hplace : place ≤ t.length) :
    InTurn t place (flatFrom "<!--" "-->" true rounds place rest) := by
  induction rounds generalizing place rest with
  | zero => exact hplace
  | succ rounds ih =>
      have hlength : place + rest.length = t.length := by
        rw [← hrest, List.length_drop]
        omega
      rcases flatFrom_cases rounds place rest with hnone | ⟨before, body, after, hsplit, hclosed⟩ |
        ⟨before, inside, hsplit, hunclosed⟩
      · rw [hnone]
        exact hplace
      · have hstop : place + (before ++ "<!--".toList ++ (body ++ "-->".toList)).length ≤ t.length := by
          rw [← hlength, hsplit]
          simp only [List.length_append]
          omega
        have hsign : t.take (place + (before ++ "<!--".toList ++ (body ++ "-->".toList)).length) =
            t.take place ++ (before ++ "<!--".toList ++ body ++ ['-', '-']) ++ ['>'] := by
          rw [List.take_add, hrest, hsplit, List.take_left]
          simp
        rw [hclosed]
        refine ⟨Nat.le_add_right _ _, ?_, hstop, fun _ ch hch => ?_, ih ?_ hstop⟩
        · simp only [List.length_append]
          omega
        · rw [hsign, List.getLast?_concat] at hch
          rw [← Option.some.inj hch]
          decide
        · rw [← List.drop_drop, hrest, hsplit, List.drop_left]
      · rw [hunclosed]
        refine ⟨Nat.le_add_right _ _, ?_, hlength.le, fun hne => absurd rfl hne, hlength.le⟩
        rw [hsplit]
        simp only [List.length_append]
        omega

theorem inTurn_comments (t : Text) : InTurn t 0 (comments t) :=
  inTurn_flatFrom List.drop_zero (Nat.zero_le _)

end InTurn

end Region
end WikiEntry
