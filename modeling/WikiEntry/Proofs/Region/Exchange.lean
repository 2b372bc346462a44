import WikiEntry.Proofs.Region.Correspondence
import WikiEntry.Proofs.Text.Variants

/-!
# Exchanging a part of a text

A part of a text is exchanged for another one.  If no word that delimits regions begins or ends inside the part, before
the exchange or after it, and the words around the part remain such words, then every region of the new text is one of
the old text, moved along with the text that it begins and ends at.
-/

namespace WikiEntry
namespace Region

/-!
# Places that move
-/

/-- Where `b` behind `a` is replaced by `b'`, the place `x` in front of `b` or behind it becomes the place `x'`. -/
def Moved (a b b' : Text) (x x' : Nat) : Prop :=
  x ≤ a.length ∧ x' = x ∨ a.length + b.length ≤ x ∧ x' + b.length = x + b'.length

/-- The two ends of a span move. -/
def MovedSpan (a b b' : Text) (s s' : Span) : Prop :=
  Moved a b b' s.start s'.start ∧ Moved a b b' s.stop s'.stop

section Moved

variable {a b b' : Text} {x x' y y' : Nat}

theorem Moved.symm (h : Moved a b b' x x') : Moved a b' b x' x := by
  unfold Moved at *
  omega

theorem moved_length (a b b' c : Text) : Moved a b b' (a ++ (b ++ c)).length (a ++ (b' ++ c)).length := by
  right
  simp only [List.length_append]
  omega

theorem Moved.le_iff (hb : b ≠ []) (hb' : b' ≠ []) (hx : Moved a b b' x x') (hy : Moved a b b' y y') :
    x ≤ y <-> x' ≤ y' := by
  have hlength := List.length_pos_of_ne_nil hb
  have hlength' := List.length_pos_of_ne_nil hb'
  unfold Moved at *
  omega

theorem Moved.max (hb : b ≠ []) (hb' : b' ≠ []) (hx : Moved a b b' x x') (hy : Moved a b b' y y') :
    Moved a b b' (max x y) (max x' y') := by
  have hle := hx.le_iff hb hb' hy
  rcases Nat.le_total x y with h | h
  · have h' := hle.mp h
    rwa [Nat.max_eq_right h, Nat.max_eq_right h']
  · have h' := (hy.le_iff hb hb' hx).mp h
    rwa [Nat.max_eq_left h, Nat.max_eq_left h']

theorem drop_behind (a b c : Text) (k : Nat) : (a ++ (b ++ c)).drop (a.length + b.length + k) = c.drop k := by
  rw [← List.append_assoc, ← List.length_append, ← List.drop_drop, List.drop_left]

theorem slice_append_left {r : Text} {s : Span} (hstop : s.stop ≤ a.length) : Text.slice (a ++ r) s = Text.slice a s := by
  unfold Text.slice Span.size
  by_cases hstart : s.start ≤ a.length
  · rw [List.drop_append_of_le_length hstart, List.take_append_of_le_length]
    rw [List.length_drop]
    omega
  · have hnone : s.stop - s.start = 0 := by omega
    rw [hnone, List.take_zero, List.take_zero]

end Moved

/-!
# Words that are left alone
-/

/-- Where a word stands in a text that has `b` between `a` and `c`. -/
inductive Beside (a b c u w v : Text) : Prop where
  | before (d : Text) (ha : a = u ++ (w ++ d)) (hv : v = d ++ (b ++ c))
  | around (w₁ w₂ : Text) (ha : a = u ++ w₁) (hw : w = w₁ ++ (b ++ w₂)) (hc : c = w₂ ++ v)
  | behind (d : Text) (hu : u = a ++ (b ++ d)) (hc : c = d ++ (w ++ v))

/-- No word of the kind begins or ends inside `b`, and those around it are such words with `b'` in its place too. -/
structure Spares (word : Text -> Prop) (a b b' c : Text) : Prop where
  beside : forall u w v, a ++ (b ++ c) = u ++ (w ++ v) -> word w -> Beside a b c u w v
  kept : forall u w₁ w₂ v, a = u ++ w₁ -> c = w₂ ++ v -> word (w₁ ++ (b ++ w₂)) -> word (w₁ ++ (b' ++ w₂))

/-- Words of a kind are left alone when `b` between `a` and `c` is exchanged for `b'`, and in the exchange back. -/
structure Exchange (word : Text -> Prop) (a b b' c : Text) : Prop where
  ne_nil : b ≠ []
  ne_nil' : b' ≠ []
  delimiting : Delimiting word
  there : Spares word a b b' c
  back : Spares word a b' b c

/-- What becomes of a word of the text: it stays as it is, or `b` inside it is replaced by `b'`. -/
def Exchanged (a b b' c w w' : Text) : Prop :=
  w' = w ∨ exists u w₁ w₂ v, a = u ++ w₁ ∧ c = w₂ ++ v ∧ w = w₁ ++ (b ++ w₂) ∧ w' = w₁ ++ (b' ++ w₂)

section Words

variable {word : Text -> Prop} {a b b' c u v w w' : Text} {start start' : Nat}

/-- A word stands beside a part that it cannot begin or end in: the part has not the character at that end of the word,
or the word has not the character at the other end of the part. -/
theorem beside_of_ends (hw : w ≠ []) (heq : a ++ (b ++ c) = u ++ (w ++ v))
    (hends : (forall ch, w.getLast? = some ch -> ch ∉ b) ∨ forall ch, b.head? = some ch -> ch ∉ w)
    (hbegins : (forall ch, w.head? = some ch -> ch ∉ b) ∨
      (forall ch, w.getLast? = some ch -> ch ∉ b) ∧ forall ch, b.getLast? = some ch -> ch ∉ w) :
    Beside a b c u w v := by
  rcases List.append_eq_append_iff.mp heq with ⟨d, rfl, hrest⟩ | ⟨d, rfl, hrest⟩
  · rcases List.append_eq_append_iff.mp hrest with ⟨e, rfl, hbehind⟩ | ⟨e, rfl, hinside⟩
    · exact .behind e rfl hbehind
    · rcases List.eq_nil_or_concat e with rfl | ⟨e, z, rfl⟩
      · exact .behind [] (by simp) hinside.symm
      · -- The word begins in the part, with the text `e` and `z` behind it.
        exfalso
        rw [List.concat_eq_append] at hinside hbegins
        rcases hbegins with hfirst | ⟨hlast, hfar⟩
        · rcases List.exists_cons_of_ne_nil hw with ⟨x, w, rfl⟩
          refine hfirst x rfl (List.mem_append_right d ?_)
          cases e with
          | nil => exact List.mem_singleton.mpr (List.cons.inj hinside).1
          | cons y e => exact (List.cons.inj hinside).1 ▸ List.mem_cons_self
        · rcases List.append_eq_append_iff.mp hinside with ⟨f, hf, _⟩ | ⟨f, hf, _⟩
          · rcases List.eq_nil_or_concat w with rfl | ⟨w, y, rfl⟩
            · exact hw rfl
            · refine hlast y (by simp) (List.mem_append_right d ?_)
              rw [hf]
              simp
          · refine hfar z (by simp) ?_
            rw [hf]
            simp
  · rcases List.append_eq_append_iff.mp hrest with ⟨e, rfl, hfront⟩ | ⟨e, rfl, hinside⟩
    · exact .before e rfl hfront
    · rcases List.append_eq_append_iff.mp hinside with ⟨f, rfl, haround⟩ | ⟨f, rfl, rfl⟩
      · exact .around d f rfl rfl haround
      · cases e with
        | nil => exact .before [] (by simp) (by simp)
        | cons x e =>
            -- The word ends in the part, with `x` and `e` in front of its end.
            exfalso
            rcases hends with hlast | hfirst
            · rcases List.eq_nil_or_concat (x :: e) with hnil | ⟨g, y, hg⟩
              · cases hnil
              · rw [List.concat_eq_append] at hg
                rw [hg] at hlast
                exact hlast y (by simp) (by simp)
            · exact hfirst x rfl (List.mem_append_right d List.mem_cons_self)

/-- A word moves along with the text that it begins and ends at. -/
theorem Spares.exists_moved (hs : Spares word a b b' c) (heq : a ++ (b ++ c) = u ++ (w ++ v)) (hw : word w) :
    exists u' w' v', a ++ (b' ++ c) = u' ++ (w' ++ v') ∧ word w' ∧ Exchanged a b b' c w w' ∧
      Moved a b b' u.length u'.length ∧ Moved a b b' (u ++ w).length (u' ++ w').length := by
  unfold Moved
  cases hs.beside u w v heq hw with
  | before d ha hv =>
      refine ⟨u, w, d ++ (b' ++ c), by simp [ha], hw, Or.inl rfl, Or.inl ⟨?_, rfl⟩, Or.inl ⟨?_, rfl⟩⟩
      · simp [ha]
      · simp [ha, ← Nat.add_assoc]
  | around w₁ w₂ ha hword hc =>
      subst hword
      refine ⟨u, w₁ ++ (b' ++ w₂), v, by simp [ha, hc], hs.kept u w₁ w₂ v ha hc hw,
        Or.inr ⟨u, w₁, w₂, v, ha, hc, rfl, rfl⟩, Or.inl ⟨?_, rfl⟩, Or.inr ⟨?_, ?_⟩⟩
      · simp [ha]
      · simp only [ha, List.length_append]
        omega
      · simp only [List.length_append]
        omega
  | behind d hu hc =>
      subst hu
      refine ⟨a ++ (b' ++ d), w, v, by simp [hc], hw, Or.inl rfl, Or.inr ⟨?_, ?_⟩, Or.inr ⟨?_, ?_⟩⟩ <;>
        simp only [List.length_append] <;> omega

theorem Exchange.symm (h : Exchange word a b b' c) : Exchange word a b' b c :=
  ⟨h.ne_nil', h.ne_nil, h.delimiting, h.back, h.there⟩

/-- The words in the new text are those in the old one. -/
theorem Exchange.correspond (h : Exchange word a b b' c) :
    Correspond (Moved a b b') (Moved a b b') (Exchanged a b b' c) word (a ++ (b ++ c)) (a ++ (b' ++ c)) where
  delimiting := h.delimiting
  there _ _ _ heq hw := h.there.exists_moved heq hw
  back := by
    intro u' w' v' heq' hw'
    rcases h.back.exists_moved heq' hw' with ⟨u, w, v, heq, hw, _, hplace, _⟩
    exact ⟨u, w, v, heq, hw, hplace.symm⟩

theorem alignment_moved (hb : b ≠ []) (hb' : b' ≠ []) :
    Alignment (Moved a b b') (Moved a b b') (a ++ (b ++ c)) (a ++ (b' ++ c)) where
  zero := Or.inl ⟨Nat.zero_le _, rfl⟩
  length := moved_length a b b' c
  begins_le_iff _ _ _ _ hx hy := hx.le_iff hb hb' hy
  ends_le_iff _ _ _ _ hx hy := hx.le_iff hb hb' hy

end Words

/-!
# Single words and tags
-/

/-- A single word that is left alone in the exchange there is left alone in the exchange back, and never around the
part. -/
theorem spares_eq {p a b b' c : Text} {ch : Char} (hch : ch ∈ b) (hp : ch ∉ p)
    (hbeside : forall u v, a ++ (b ++ c) = u ++ (p ++ v) -> Beside a b c u p v) : Spares (· = p) a b b' c where
  beside := by
    rintro u w v heq rfl
    exact hbeside u v heq
  kept := by
    rintro u w₁ w₂ v _ _ rfl
    exact absurd (by simp [hch]) hp

section Tags

variable {head h g w w₁ w₂ b b' : Text} {x x' : Char} {edged : Bool} {inner : CharSet}

/-- A character that has no other case is not in the head of a tag in another case either. -/
theorem not_mem_of_inAnyCase (hx : Chars.variants x = [x]) (hhead : x ∉ head) (h : InAnyCase head w) : x ∉ w := by
  induction h with
  | nil => exact List.not_mem_nil
  | @cons y ch l w hy _ ih =>
      rw [List.mem_cons, not_or] at hhead ⊢
      refine ⟨?_, ih hhead.2⟩
      rintro rfl
      rw [CharSet.holds, hx] at hy
      have hsame : y = x := by simpa using hy
      exact hhead.1 hsame.symm

/-- A word goes on just as little in front of one text as in front of another, if neither begins with a character of
words. -/
theorem holds_edge_exchange (hx : Chars.isWord x = false) (hx' : Chars.isWord x' = false) (before : Option Char) (n : Nat)
    (d r r' : Text) : (Anchor.word false .edge).holds ⟨before, n, d ++ x :: r⟩ =
      (Anchor.word false .edge).holds ⟨before, n, d ++ x' :: r'⟩ := by
  cases d with
  | nil =>
      have hword : forall {ch : Char} {r : Text}, Chars.isWord ch = false ->
          (ch :: r).head?.any (Anchor.isWord false) = false := by
        intro ch r hch
        show (Chars.isWord ch && _) = false
        rw [hch, Bool.false_and]
      rw [Anchor.holds, Anchor.holds, List.nil_append, List.nil_append, hword hx, hword hx']
  | cons ch d => rfl

/-- A part of a tag that begins with no character of its head stands behind that, and in front of the angle bracket. -/
theorem exists_of_isTag_append (hx : x ∉ h) (hbracket : '>' ∉ x :: b)
    (heq : h ++ (g ++ ['>']) = w₁ ++ (x :: b ++ w₂)) :
    exists d e, w₁ = h ++ d ∧ w₂ = e ++ ['>'] ∧ g = d ++ (x :: b ++ e) := by
  have hinner : exists d, w₁ = h ++ d ∧ g ++ ['>'] = d ++ (x :: b ++ w₂) := by
    rcases List.append_eq_append_iff.mp heq with ⟨d, rfl, hrest⟩ | ⟨d, rfl, hrest⟩
    · exact ⟨d, rfl, hrest⟩
    · cases d with
      | nil => exact ⟨[], by simp, hrest.symm⟩
      | cons ch d =>
          rw [(List.cons.inj hrest).1] at hx
          simp at hx
  rcases hinner with ⟨d, rfl, hrest⟩
  rcases List.eq_nil_or_concat w₂ with rfl | ⟨e, z, rfl⟩
  · have hlast := congrArg List.getLast? hrest
    rw [List.append_nil, List.getLast?_concat, List.getLast?_append_of_ne_nil _ (List.cons_ne_nil x b)] at hlast
    exact absurd (List.mem_of_getLast? hlast.symm) hbracket
  · rw [List.concat_eq_append, ← List.append_assoc, ← List.append_assoc, List.append_assoc d] at hrest
    rcases List.append_inj' hrest rfl with ⟨rfl, hz⟩
    rw [List.concat_eq_append, ← hz]
    exact ⟨d, e, rfl, rfl, rfl⟩

/-- A tag around a part remains a tag with another part. -/
theorem IsTag.exchange (hvariants : Chars.variants x = [x]) (hhead : x ∉ head) (hx : Chars.isWord x = false)
    (hx' : Chars.isWord x' = false) (hbracket : '>' ∉ x :: b)
    (hinner : (x :: b).all inner.holds = true -> (x' :: b').all inner.holds = true)
    (htag : IsTag head edged inner (w₁ ++ (x :: b ++ w₂))) : IsTag head edged inner (w₁ ++ (x' :: b' ++ w₂)) := by
  rcases htag with ⟨h, g, hw, hh, hg, hedge⟩
  rcases exists_of_isTag_append (not_mem_of_inAnyCase hvariants hhead hh) hbracket hw.symm with ⟨d, e, rfl, rfl, rfl⟩
  refine ⟨h, d ++ (x' :: b' ++ e), by simp, hh, ?_, fun he => ?_⟩
  · have hpart : (x :: b).all inner.holds = true :=
      List.all_eq_true.mpr fun ch hch => hg ch (List.mem_append_right d (List.mem_append_left e hch))
    intro ch hch
    rcases List.mem_append.mp hch with hch | hch
    · exact hg ch (List.mem_append_left _ hch)
    · rcases List.mem_append.mp hch with hch | hch
      · exact List.all_eq_true.mp (hinner hpart) ch hch
      · exact hg ch (List.mem_append_right d (List.mem_append_right _ hch))
  · have hholds := hedge he
    rw [List.append_assoc, List.cons_append, List.cons_append] at hholds ⊢
    rwa [holds_edge_exchange hx' hx]

end Tags

/-!
# Parts without delimiters
-/

theorem holds_noneOf_bracket {ch : Char} (h : ch ≠ '>') : (CharSet.anyCase (.noneOf ['>'])).holds ch = true :=
  CharSet.holds_anyCase_noneOf (by decide) (by decide) (by decide) h

def isTagSign (ch : Char) : Bool :=
  ['<', '!', '-', '/', '>'].contains ch

theorem endsWith_slash_append {x y : Text} (hy : y ≠ []) : Text.endsWith (x ++ y) "/" = Text.endsWith y "/" := by
  rcases List.eq_nil_or_concat y with rfl | ⟨r, ch, rfl⟩
  · exact absurd rfl hy
  · simp [Text.endsWith, List.isSuffixOf, List.isPrefixOf]

/-- Whether a tag closes itself does not depend on what is in front of a character that is neither blank nor bracket. -/
theorem isSelfClosing_behind {ch : Char} (hblank : Chars.isBlank ch = false) (hbracket : ch ≠ '>') (x y : Text) :
    isSelfClosing (x ++ ch :: y) = isSelfClosing (ch :: y) := by
  have hnot : (ch :: y).all (· == '>') = false := by simp [hbracket]
  have hkept : exists z, Text.trimRightBy (ch :: y) (· == '>') = ch :: z := by
    have happend := Text.trimRightBy_append (ch :: y) (· == '>')
    cases htrim : Text.trimRightBy (ch :: y) (· == '>') with
    | nil =>
        rw [Text.trimRightBy_eq_nil_iff.mp htrim] at hnot
        cases hnot
    | cons d z =>
        rw [htrim] at happend
        exact ⟨z, by rw [(List.cons.inj happend).1]⟩
  rcases hkept with ⟨z, hz⟩
  have hnotBlank : (ch :: z).all Chars.isBlank = false := by simp [hblank]
  have hne : Text.trimRight (ch :: z) ≠ [] := by
    intro hnil
    rw [Text.trimRightBy_eq_nil_iff.mp hnil] at hnotBlank
    cases hnotBlank
  rw [isSelfClosing, isSelfClosing, Text.trimRightBy_append_of_not_all hnot, hz, Text.trimRight,
    Text.trimRightBy_append_of_not_all hnotBlank]
  exact endsWith_slash_append hne

/-- A part without angle brackets that no word which delimits regions goes on into, or begins in and goes on behind. -/
structure Inert (b : Text) : Prop where
  first : exists x r, b = x :: r ∧ Chars.variants x = [x] ∧ Chars.isWord x = false ∧ isTagSign x = false
  last : exists r x, b = r ++ [x] ∧ isTagSign x = false
  opening_not_mem : '<' ∉ b
  closing_not_mem : '>' ∉ b

section Inert

variable {a b b' c name : Text}

theorem Inert.ne_nil (hb : Inert b) : b ≠ [] := by
  rcases hb.first with ⟨x, r, rfl, _⟩
  exact List.cons_ne_nil x r

theorem not_mem_of_isTagSign {p : Text} {x : Char} (hp : p.all isTagSign = true) (hx : isTagSign x = false) : x ∉ p := by
  intro hmem
  rw [List.all_eq_true.mp hp x hmem] at hx
  cases hx

theorem Inert.spares_opening (hb : Inert b) : Spares (· = "<!--".toList) a b b' c := by
  rcases hb.first with ⟨x, r, rfl, _, _, hx⟩
  have hnot : x ∉ "<!--".toList := not_mem_of_isTagSign (by decide) hx
  refine spares_eq List.mem_cons_self hnot fun u v heq => ?_
  refine beside_of_ends (by simp) heq (Or.inr ?_) (Or.inl ?_)
  · rintro ch ⟨⟩
    exact hnot
  · rintro ch ⟨⟩
    exact hb.opening_not_mem

theorem Inert.spares_closing (hb : Inert b) : Spares (· = "-->".toList) a b b' c := by
  rcases hb.first with ⟨x, r, rfl, _, _, hx⟩
  have hnot : x ∉ "-->".toList := not_mem_of_isTagSign (by decide) hx
  refine spares_eq List.mem_cons_self hnot fun u v heq => ?_
  have hlast : forall ch, "-->".toList.getLast? = some ch -> ch ∉ x :: r := by
    rintro ch ⟨⟩
    exact hb.closing_not_mem
  refine beside_of_ends (by simp) heq (Or.inl hlast) (Or.inr ⟨hlast, ?_⟩)
  rcases hb.last with ⟨r', y, heq, hy⟩
  intro ch hch
  rw [heq, List.getLast?_concat] at hch
  cases hch
  exact not_mem_of_isTagSign (by decide) hy

theorem Inert.beside_isTag {edged : Bool} {inner : CharSet} {head u w v : Text} (hb : Inert b)
    (heq : a ++ (b ++ c) = u ++ (w ++ v)) (hw : IsTag ('<' :: head) edged inner w) : Beside a b c u w v := by
  have hne : w ≠ [] := by
    rintro rfl
    cases hw.head?_eq
  refine beside_of_ends hne heq (Or.inl ?_) (Or.inl ?_)
  · rw [hw.getLast?_eq]
    rintro ch ⟨⟩
    exact hb.closing_not_mem
  · rw [hw.head?_eq]
    rintro ch ⟨⟩
    exact hb.opening_not_mem

theorem Inert.not_mem_head (head : Text) (hname : forall ch, ch ∈ name -> Chars.isWord ch = true)
    (hhead : head.all isTagSign = true) {x : Char} (hx : Chars.isWord x = false) (hsign : isTagSign x = false) :
    x ∉ head ++ name := by
  rw [List.mem_append, not_or]
  refine ⟨not_mem_of_isTagSign hhead hsign, fun hmem => ?_⟩
  rw [hname x hmem] at hx
  cases hx

theorem Inert.spares_isOpeningTag (hname : forall ch, ch ∈ name -> Chars.isWord ch = true) (hb : Inert b)
    (hb' : Inert b') : Spares (IsOpeningTag name) a b b' c where
  beside _ _ _ heq hw := hb.beside_isTag heq hw
  kept := by
    intro _ w₁ w₂ _ _ _ hw
    rcases hb.first with ⟨x, r, rfl, hvariants, hx, hsign⟩
    rcases hb'.first with ⟨x', r', rfl, _, hx', _⟩
    have hhead := not_mem_head ['<'] hname (by decide) hx hsign
    refine IsTag.exchange hvariants hhead hx hx' hb.closing_not_mem (fun _ => List.all_eq_true.mpr fun ch hch => ?_) hw
    exact holds_noneOf_bracket (ne_of_mem_of_not_mem hch hb'.closing_not_mem)

/-- Only blanks stand behind the name in a closing tag. -/
theorem Inert.spares_isClosingTag (hname : forall ch, ch ∈ name -> Chars.isWord ch = true) (hb : Inert b) (hb' : Inert b')
    (hblank : b.all (CharSet.anyCase .blank).holds = true -> b'.all (CharSet.anyCase .blank).holds = true) :
    Spares (IsClosingTag name) a b b' c where
  beside _ _ _ heq hw := hb.beside_isTag heq hw
  kept := by
    intro _ w₁ w₂ _ _ _ hw
    rcases hb.first with ⟨x, r, rfl, hvariants, hx, hsign⟩
    rcases hb'.first with ⟨x', r', rfl, _, hx', _⟩
    have hhead := not_mem_head ['<', '/'] hname (by decide) hx hsign
    exact IsTag.exchange hvariants hhead hx hx' hb.closing_not_mem hblank hw

end Inert

/-!
# Regions
-/

/-- The tags of an element are left alone, and those around the part close themselves or not as before. -/
structure ExchangeTags (name a b b' c : Text) : Prop where
  opening : Exchange (IsOpeningTag name) a b b' c
  closing : Exchange (IsClosingTag name) a b b' c
  selfClosing : forall u w₁ w₂ v, a = u ++ w₁ -> c = w₂ ++ v -> IsOpeningTag name (w₁ ++ (b ++ w₂)) ->
    isSelfClosing (w₁ ++ (b ++ w₂)) = isSelfClosing (w₁ ++ (b' ++ w₂))

section Regions

variable {a b b' c : Text}

theorem ExchangeTags.correspond {name : Text} (h : ExchangeTags name a b b' c) :
    CorrespondTags (Moved a b b') (Moved a b b') name (a ++ (b ++ c)) (a ++ (b' ++ c)) where
  opening := by
    refine h.opening.correspond.mono fun w w' hw hexchanged => ?_
    rcases hexchanged with rfl | ⟨u, w₁, w₂, v, ha, hc, rfl, rfl⟩
    · rfl
    · exact h.selfClosing u w₁ w₂ v ha hc hw
  closing := h.closing.correspond.mono fun _ _ _ _ => trivial

/-- The elements of one kind move along with the text. -/
theorem elements_moved {name : Text} (h : ExchangeTags name a b b' c) :
    List.Forall₂ (MovedSpan a b b') (elements (.ofName name) (a ++ (b ++ c)))
      (elements (.ofName name) (a ++ (b' ++ c))) :=
  elements_corresponding (alignment_moved h.opening.ne_nil h.opening.ne_nil') h.correspond

/-- Comments move along with the text. -/
theorem comments_moved (hopening : Exchange (· = "<!--".toList) a b b' c)
    (hclosing : Exchange (· = "-->".toList) a b b' c) :
    List.Forall₂ (MovedSpan a b b') (comments (a ++ (b ++ c))) (comments (a ++ (b' ++ c))) :=
  comments_corresponding (alignment_moved hopening.ne_nil hopening.ne_nil') hopening.correspond hclosing.correspond

end Regions

/-!
# Covered places
-/

section Covered

variable {a b b' : Text} {s s' : Span} {regions regions' : List Span}

theorem holds_moved (hb : b ≠ []) (hb' : b' ≠ []) {i i' : Nat} (hi : Moved a b b' i i') (hs : MovedSpan a b b' s s') :
    s.holds i = s'.holds i' := by
  have hstart := hs.1.le_iff hb hb' hi
  have hstop := hs.2.le_iff hb hb' hi
  rw [Bool.eq_iff_iff, holds_iff, holds_iff]
  omega

/-- A place is covered by regions as the place that it becomes is covered by what they become. -/
theorem covers_moved (hb : b ≠ []) (hb' : b' ≠ []) (h : List.Forall₂ (MovedSpan a b b') regions regions') {i i' : Nat}
    (hi : Moved a b b' i i') : covers regions i = covers regions' i' :=
  covers_eq_of_forall₂ h fun _ _ _ hs => holds_moved hb hb' hi hs

end Covered

/-!
# Merged regions
-/

/-- Sorting keeps a relation between the members of two lists, if related members compare alike. -/
theorem forall₂_mergeSort {α β : Type} {related : α -> β -> Prop} {le : α -> α -> Bool} {le' : β -> β -> Bool}
    (hle : forall x x' y y', related x x' -> related y y' -> le x y = le' x' y') {xs : List α} {xs' : List β}
    (h : List.Forall₂ related xs xs') : List.Forall₂ related (xs.mergeSort le) (xs'.mergeSort le') := by
  rcases List.forall₂_iff_zip.mp h with ⟨hlength, hpairs⟩
  have hpairs : forall z, z ∈ xs.zip xs' -> related z.1 z.2 := fun z hz => hpairs hz
  let pairs := (xs.zip xs').mergeSort fun z z' => le z.1 z'.1
  have hfirst : pairs.map Prod.fst = xs.mergeSort le := by
    rw [List.map_mergeSort (f := Prod.fst) (s := le) fun _ _ _ _ => rfl, List.map_fst_zip hlength.le]
  have hsecond : pairs.map Prod.snd = xs'.mergeSort le' := by
    have hsame : forall z, z ∈ xs.zip xs' -> forall z', z' ∈ xs.zip xs' -> le z.1 z'.1 = le' z.2 z'.2 :=
      fun z hz z' hz' => hle z.1 z.2 z'.1 z'.2 (hpairs z hz) (hpairs z' hz')
    rw [List.map_mergeSort hsame, List.map_snd_zip hlength.ge]
  rw [← hfirst, ← hsecond, List.forall₂_map_left_iff, List.forall₂_map_right_iff, List.forall₂_same]
  intro z hz
  exact hpairs z ((List.mergeSort_perm _ _).mem_iff.mp hz)

section Ignored

variable {a b b' c : Text}

theorem before_moved (hb : b ≠ []) (hb' : b' ≠ []) {s s' u u' : Span} (hs : MovedSpan a b b' s s')
    (hu : MovedSpan a b b' u u') : before s u = before s' u' := by
  have hstart := hs.1.le_iff hb hb' hu.1
  have hstart' := hu.1.le_iff hb hb' hs.1
  have hstop := hu.2.le_iff hb hb' hs.2
  rw [Bool.eq_iff_iff]
  simp only [before, Bool.or_eq_true, Bool.and_eq_true, decide_eq_true_eq, beq_iff_eq]
  omega

theorem mergeFrom_moved (hb : b ≠ []) (hb' : b' ≠ []) {last last' : Span} {rest rest' : List Span}
    (hlast : MovedSpan a b b' last last') (hrest : List.Forall₂ (MovedSpan a b b') rest rest') :
    List.Forall₂ (MovedSpan a b b') (mergeFrom last rest) (mergeFrom last' rest') := by
  induction hrest generalizing last last' with
  | nil => exact List.Forall₂.cons hlast List.Forall₂.nil
  | @cons s s' rest rest' hs _ ih =>
      have hle := hlast.2.le_iff hb hb' hs.1
      rw [mergeFrom, mergeFrom]
      by_cases hoverlap : s.start < last.stop
      · have hoverlap' : s'.start < last'.stop := by omega
        rw [if_pos hoverlap, if_pos hoverlap']
        exact ih ⟨hlast.1, hlast.2.max hb hb' hs.2⟩
      · have hoverlap' : ¬ s'.start < last'.stop := by omega
        rw [if_neg hoverlap, if_neg hoverlap']
        exact List.Forall₂.cons hlast (ih hs)

theorem combine_moved (hb : b ≠ []) (hb' : b' ≠ []) {lists lists' : List (List Span)}
    (h : List.Forall₂ (List.Forall₂ (MovedSpan a b b')) lists lists') :
    List.Forall₂ (MovedSpan a b b') (combine lists) (combine lists') := by
  have hsorted : List.Forall₂ (MovedSpan a b b') (lists.flatten.mergeSort before) (lists'.flatten.mergeSort before) := by
    refine forall₂_mergeSort ?_ (List.rel_flatten h)
    intro s s' u u' hs hu
    exact before_moved hb hb' hs hu
  rw [combine, combine]
  generalize lists.flatten.mergeSort before = sorted at hsorted ⊢
  generalize lists'.flatten.mergeSort before = sorted' at hsorted ⊢
  cases hsorted with
  | nil => exact List.Forall₂.nil
  | cons hs hrest => exact mergeFrom_moved hb hb' hs hrest

/-- An exchange that leaves alone all words that delimit ignored regions. -/
structure Neutral (a b b' c : Text) : Prop where
  opening : Exchange (· = "<!--".toList) a b b' c
  closing : Exchange (· = "-->".toList) a b b' c
  tags : forall name, name ∈ Text.listOf ["nowiki", "pre", "code"] -> ExchangeTags name a b b' c

/-- Parts without delimiters are exchanged without notice, if both of them or neither may stand in a closing tag, and a
tag closes itself with the one as with the other. -/
theorem Inert.neutral (hb : Inert b) (hb' : Inert b')
    (hblank : b.all (CharSet.anyCase .blank).holds = b'.all (CharSet.anyCase .blank).holds)
    (hself : forall w₁ w₂, isSelfClosing (w₁ ++ (b ++ w₂)) = isSelfClosing (w₁ ++ (b' ++ w₂))) : Neutral a b b' c where
  opening := ⟨hb.ne_nil, hb'.ne_nil, delimiting_eq (by simp), hb.spares_opening, hb'.spares_opening⟩
  closing := ⟨hb.ne_nil, hb'.ne_nil, delimiting_eq (by simp), hb.spares_closing, hb'.spares_closing⟩
  tags name hname := by
    have hword : forall ch, ch ∈ name -> Chars.isWord ch = true := by
      have hall : forall name, name ∈ Text.listOf ["nowiki", "pre", "code"] -> name.all Chars.isWord = true := by decide
      exact List.all_eq_true.mp (hall name hname)
    have hopening := delimiting_isOpeningTag name
    have hclosing := delimiting_isClosingTag name
    exact ⟨⟨hb.ne_nil, hb'.ne_nil, hopening, hb.spares_isOpeningTag hword hb', hb'.spares_isOpeningTag hword hb⟩,
      ⟨hb.ne_nil, hb'.ne_nil, hclosing, hb.spares_isClosingTag hword hb' hblank.le,
        hb'.spares_isClosingTag hword hb hblank.ge⟩, fun _ w₁ w₂ _ _ _ _ => hself w₁ w₂⟩

/-- The hidden regions move along with the text. -/
theorem Neutral.hidden_moved (h : Neutral a b b' c) :
    List.Forall₂ (MovedSpan a b b') (hidden (a ++ (b ++ c))) (hidden (a ++ (b' ++ c))) := by
  refine combine_moved h.opening.ne_nil h.opening.ne_nil' ?_
  exact .cons (comments_moved h.opening h.closing) (.cons (elements_moved (h.tags _ (by decide))) .nil)

/-- The ignored regions move along with the text. -/
theorem Neutral.ignored_moved (h : Neutral a b b' c) :
    List.Forall₂ (MovedSpan a b b') (ignored (a ++ (b ++ c))) (ignored (a ++ (b' ++ c))) := by
  refine combine_moved h.opening.ne_nil h.opening.ne_nil' ?_
  exact .cons (comments_moved h.opening h.closing) (.cons (elements_moved (h.tags _ (by decide)))
    (.cons (elements_moved (h.tags _ (by decide))) (.cons (elements_moved (h.tags _ (by decide))) .nil)))

end Ignored

end Region
end WikiEntry
