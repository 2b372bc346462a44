import Mathlib.Data.List.Forall2
import WikiEntry.Proofs.Region.Delimiters

/-!
# Corresponding regions

If the words that delimit regions stand in two texts in the same order, then the regions of the texts correspond: each
begins where the same word begins, and ends where the same word ends.  Where in the texts the words stand does not matter,
only that a search which goes on behind a word finds the same one next.
-/

namespace WikiEntry
namespace Region

/-!
# Words in the same order
-/

/-- Words that are not empty, none of which is the beginning of another. -/
structure Delimiting (word : Text -> Prop) : Prop where
  ne_nil : forall w, word w -> w ≠ []
  eq_of_begins : forall w w', word w -> word w' -> w <+: w' -> w = w'

/-- Where words begin in two texts, and where they end and searches begin.  The order of these places is the same. -/
structure Alignment (begins ends : Nat -> Nat -> Prop) (t t' : Text) : Prop where
  zero : ends 0 0
  length : ends t.length t'.length
  begins_le_iff : forall x x' y y', begins x x' -> begins y y' -> (x ≤ y <-> x' ≤ y')
  ends_le_iff : forall x x' y y', ends x x' -> begins y y' -> (x ≤ y <-> x' ≤ y')

/-- The words of a kind in one text are those in the other, as far as `same` tells, and stand where theirs do. -/
structure Correspond (begins ends : Nat -> Nat -> Prop) (same : Text -> Text -> Prop) (word : Text -> Prop)
    (t t' : Text) : Prop where
  delimiting : Delimiting word
  there : forall u w v, t = u ++ (w ++ v) -> word w -> exists u' w' v', t' = u' ++ (w' ++ v') ∧ word w' ∧ same w w' ∧
    begins u.length u'.length ∧ ends (u ++ w).length (u' ++ w').length
  back : forall u' w' v', t' = u' ++ (w' ++ v') -> word w' ->
    exists u w v, t = u ++ (w ++ v) ∧ word w ∧ begins u.length u'.length

/-- Both ends of a span are where those of another are. -/
def SpanAligned (begins ends : Nat -> Nat -> Prop) (s s' : Span) : Prop :=
  begins s.start s'.start ∧ ends s.stop s'.stop

section Words

variable {begins ends : Nat -> Nat -> Prop} {same : Text -> Text -> Prop} {word : Text -> Prop} {t t' u v w : Text}
  {start start' : Nat}

theorem FirstWord.unique (hd : Delimiting word) {u' w' v' : Text} (hf : FirstWord word t start u w v)
    (hf' : FirstWord word t start u' w' v') : u = u' ∧ w = w' ∧ v = v' := by
  have heq := hf.text_eq.symm.trans hf'.text_eq
  have hlength : u.length = u'.length :=
    Nat.le_antisymm (hf.leftmost _ _ _ hf'.text_eq hf'.isWord hf'.start_le)
      (hf'.leftmost _ _ _ hf.text_eq hf.isWord hf.start_le)
  rcases List.append_inj heq hlength with ⟨rfl, hrest⟩
  have hword : w = w' := by
    rcases List.prefix_or_prefix_of_prefix (List.prefix_append w v) (hrest ▸ List.prefix_append w' v') with h | h
    · exact hd.eq_of_begins w w' hf.isWord hf'.isWord h
    · exact (hd.eq_of_begins w' w hf'.isWord hf.isWord h).symm
  subst hword
  exact ⟨rfl, rfl, List.append_cancel_left hrest⟩

theorem Correspond.mono {same' : Text -> Text -> Prop} (h : Correspond begins ends same word t t')
    (hsame : forall w w', word w -> same w w' -> same' w w') : Correspond begins ends same' word t t' where
  delimiting := h.delimiting
  there := by
    intro u w v heq hw
    rcases h.there u w v heq hw with ⟨u', w', v', heq', hw', hsame', hplaces⟩
    exact ⟨u', w', v', heq', hw', hsame w w' hw hsame', hplaces⟩
  back := h.back

theorem NoWord.corresponding (ha : Alignment begins ends t t') (h : Correspond begins ends same word t t')
    (hstart : ends start start') (hno : NoWord word t start) : NoWord word t' start' := by
  intro u' w' v' heq' hw'
  rcases h.back u' w' v' heq' hw' with ⟨u, w, v, heq, hw, hplace⟩
  have hlt := hno u w v heq hw
  have hle := ha.ends_le_iff _ _ _ _ hstart hplace
  omega

/-- The first word in the one text is the first one in the other. -/
theorem FirstWord.corresponding (ha : Alignment begins ends t t') (h : Correspond begins ends same word t t')
    (hstart : ends start start') (hf : FirstWord word t start u w v) : exists u' w' v',
      FirstWord word t' start' u' w' v' ∧ same w w' ∧ begins u.length u'.length ∧
        ends (u ++ w).length (u' ++ w').length := by
  rcases h.there u w v hf.text_eq hf.isWord with ⟨u', w', v', heq', hw', hsame, hplace, hend⟩
  refine ⟨u', w', v', ⟨heq', hw', ?_, ?_⟩, hsame, hplace, hend⟩
  · exact (ha.ends_le_iff _ _ _ _ hstart hplace).mp hf.start_le
  · -- A word that stands in front of it in the other text would stand in front of it in this one.
    intro x' y' z' hother hword hle
    rcases h.back x' y' z' hother hword with ⟨x, y, z, hback, hy, hplace'⟩
    have hleft := hf.leftmost x y z hback hy ((ha.ends_le_iff _ _ _ _ hstart hplace').mpr hle)
    exact (ha.begins_le_iff _ _ _ _ hplace hplace').mp hleft

theorem findFrom?_corresponding {p : Pattern} (hp : Spells p word) (ha : Alignment begins ends t t')
    (h : Correspond begins ends same word t t') (hstart : ends start start') (hle : start ≤ t.length)
    (hle' : start' ≤ t'.length) :
    (p.findFrom? t start = none ∧ p.findFrom? t' start' = none) ∨
      exists m m', p.findFrom? t start = some m ∧ p.findFrom? t' start' = some m' ∧
        same (t.slice m.span) (t'.slice m'.span) ∧ SpanAligned begins ends m.span m'.span := by
  cases hm : p.findFrom? t start with
  | none =>
      have hno := (hp.noWord_of_findFrom? hle hm).corresponding ha h hstart
      cases hm' : p.findFrom? t' start' with
      | none => exact Or.inl ⟨rfl, rfl⟩
      | some m' =>
          rcases hp.firstWord_of_findFrom? hle' hm' with ⟨u, w, v, hfirst, _⟩
          exact absurd hfirst.start_le (Nat.not_le.mpr (hno u w v hfirst.text_eq hfirst.isWord))
  | some m =>
      rcases hp.firstWord_of_findFrom? hle hm with ⟨u, w, v, hfirst, hspan⟩
      rcases hfirst.corresponding ha h hstart with ⟨u', w', v', hfirst', hsame, hplace, hend⟩
      cases hm' : p.findFrom? t' start' with
      | none =>
          have hno := hp.noWord_of_findFrom? hle' hm' u' w' v' hfirst'.text_eq hfirst'.isWord
          exact absurd hfirst'.start_le (Nat.not_le.mpr hno)
      | some m' =>
          rcases hp.firstWord_of_findFrom? hle' hm' with ⟨x, y, z, hother, hspan'⟩
          rcases hother.unique h.delimiting hfirst' with ⟨rfl, rfl, rfl⟩
          rw [List.length_append, List.length_append] at hend
          refine Or.inr ⟨m, m', rfl, rfl, ?_, ?_⟩
          · rwa [hspan, hspan', Text.slice_of_eq_append hfirst.text_eq rfl, Text.slice_of_eq_append hother.text_eq rfl]
          · rw [hspan, hspan']
            exact ⟨hplace, hend⟩

/-- A search for a delimiter ends behind the place where it began, in the text. -/
theorem bounds_of_findFrom? {p : Pattern} (hp : Spells p word) (hd : Delimiting word) (hle : start ≤ t.length) {m : Match}
    (hm : p.findFrom? t start = some m) : start < m.stop ∧ m.stop ≤ t.length := by
  rcases hp.firstWord_of_findFrom? hle hm with ⟨u, w, v, hfirst, hspan⟩
  have hword := List.length_pos_of_ne_nil (hd.ne_nil w hfirst.isWord)
  have hstop : m.stop = u.length + w.length := congrArg Span.stop hspan
  have hlength := congrArg List.length hfirst.text_eq
  have hstart := hfirst.start_le
  simp only [List.length_append] at hlength
  omega

end Words

/-!
# Which words delimit
-/

theorem delimiting_eq {p : Text} (hp : p ≠ []) : Delimiting (· = p) where
  ne_nil := by
    rintro w rfl
    exact hp
  eq_of_begins := by
    rintro w w' rfl rfl _
    rfl

section Tags

variable {head w : Text} {edged : Bool} {inner : CharSet}

theorem delimiting_isTag (hbracket : inner.holds '>' = false) : Delimiting (IsTag head edged inner) where
  ne_nil := by
    rintro w ⟨h, g, rfl, _, _, _⟩
    simp
  eq_of_begins := by
    rintro w w' ⟨h, g, rfl, hh, hg, _⟩ ⟨h', g', rfl, hh', hg', _⟩ ⟨r, hr⟩
    rw [List.append_assoc] at hr
    rcases List.append_inj hr (hh.length_eq.symm.trans hh'.length_eq) with ⟨rfl, hrest⟩
    have hnot : forall {g : Text}, (forall c, c ∈ g -> inner.holds c = true) -> '>' ∉ g := by
      intro g hg hmem
      rw [hg '>' hmem] at hbracket
      cases hbracket
    rw [List.append_assoc, List.singleton_append] at hrest
    rw [((List.append_cons_inj_of_notMem (hnot hg') List.not_mem_nil).mp hrest.symm).1]

theorem delimiting_isOpeningTag (name : Text) : Delimiting (IsOpeningTag name) :=
  delimiting_isTag (by decide)

theorem delimiting_isClosingTag (name : Text) : Delimiting (IsClosingTag name) :=
  delimiting_isTag (by decide)

theorem IsTag.head?_eq {name : Text} (h : IsTag ('<' :: name) edged inner w) : w.head? = some '<' := by
  rcases h with ⟨h, g, rfl, hh, _, _⟩
  cases hh with
  | cons hc _ => rw [CharSet.eq_of_holds_anyCase (by decide) (by decide) (by decide) hc]; rfl

theorem IsTag.getLast?_eq (h : IsTag head edged inner w) : w.getLast? = some '>' := by
  rcases h with ⟨h, g, rfl, _, _, _⟩
  simp

end Tags

/-!
# Elements
-/

/-- The tags of an element correspond, and close themselves alike. -/
structure CorrespondTags (begins ends : Nat -> Nat -> Prop) (name t t' : Text) : Prop where
  opening : Correspond begins ends (fun w w' => isSelfClosing w = isSelfClosing w') (IsOpeningTag name) t t'
  closing : Correspond begins ends (fun _ _ => True) (IsClosingTag name) t t'

section Regions

variable {begins ends : Nat -> Nat -> Prop} {t t' name : Text} {start start' : Nat}

theorem elementsFrom_corresponding (ha : Alignment begins ends t t') (h : CorrespondTags begins ends name t t')
    {rounds rounds' : Nat} (hstart : ends start start') (hle : start ≤ t.length) (hle' : start' ≤ t'.length)
    (hrounds : t.length < rounds + start) (hrounds' : t'.length < rounds' + start') :
    List.Forall₂ (SpanAligned begins ends) (elementsFrom (.ofName name) t rounds start)
      (elementsFrom (.ofName name) t' rounds' start') := by
  have hopening := delimiting_isOpeningTag name
  have hclosing := delimiting_isClosingTag name
  induction rounds generalizing rounds' start start' with
  | zero => omega
  | succ rounds ih =>
      cases rounds' with
      | zero => omega
      | succ rounds' =>
          rcases findFrom?_corresponding (spells_opening name) ha h.opening hstart hle hle' with
            ⟨hm, hm'⟩ | ⟨m, m', hm, hm', hself, hspan⟩
          · rw [elementsFrom, elementsFrom, hm, hm']
            exact List.Forall₂.nil
          · have hstop : ends m.stop m'.stop := hspan.2
            have hbounds := bounds_of_findFrom? (spells_opening name) hopening hle hm
            have hbounds' := bounds_of_findFrom? (spells_opening name) hopening hle' hm'
            rw [elementsFrom, elementsFrom, hm, hm']
            dsimp only
            rw [← hself]
            split
            · exact ih hstop hbounds.2 hbounds'.2 (by omega) (by omega)
            · rcases findFrom?_corresponding (spells_closing name) ha h.closing hstop hbounds.2 hbounds'.2 with
                ⟨hn, hn'⟩ | ⟨n, n', hn, hn', _, hend⟩
              · rw [hn, hn']
                exact List.Forall₂.nil
              · have hafter := bounds_of_findFrom? (spells_closing name) hclosing hbounds.2 hn
                have hafter' := bounds_of_findFrom? (spells_closing name) hclosing hbounds'.2 hn'
                rw [hn, hn']
                exact List.Forall₂.cons ⟨hspan.1, hend.2⟩
                  (ih hend.2 hafter.2 hafter'.2 (by omega) (by omega))

/-- The elements of one kind correspond if their tags do. -/
theorem elements_corresponding (ha : Alignment begins ends t t') (h : CorrespondTags begins ends name t t') :
    List.Forall₂ (SpanAligned begins ends) (elements (.ofName name) t) (elements (.ofName name) t') :=
  elementsFrom_corresponding ha h ha.zero (Nat.zero_le _) (Nat.zero_le _) (Nat.lt_succ_self _) (Nat.lt_succ_self _)

/-!
# Comments
-/

variable {same : Text -> Text -> Prop} {p front front' rest rest' : Text}

theorem splitOnce?_corresponding (ha : Alignment begins ends t t') (h : Correspond begins ends same (· = p) t t')
    (heq : t = front ++ rest) (heq' : t' = front' ++ rest') (hplace : ends front.length front'.length) :
    (rest.splitOnce? p = none ∧ rest'.splitOnce? p = none) ∨
      exists before after before' after', rest.splitOnce? p = some (before, after) ∧
        rest'.splitOnce? p = some (before', after') ∧
        begins (front ++ before).length (front' ++ before').length ∧
        ends (front ++ before ++ p).length (front' ++ before' ++ p).length := by
  cases hm : rest.splitOnce? p with
  | none =>
      have hno := noWord_of_splitOnce? front hm
      rw [← heq] at hno
      have hno' := hno.corresponding ha h hplace
      cases hm' : rest'.splitOnce? p with
      | none => exact Or.inl ⟨rfl, rfl⟩
      | some m' =>
          have hfirst := firstWord_of_splitOnce? front' hm'
          rw [← heq'] at hfirst
          exact absurd hfirst.start_le (Nat.not_le.mpr (hno' _ _ _ hfirst.text_eq rfl))
  | some m =>
      have hfirst := firstWord_of_splitOnce? front hm
      rw [← heq] at hfirst
      rcases hfirst.corresponding ha h hplace with ⟨u', w', v', hfirst', _, hstart, hend⟩
      cases hm' : rest'.splitOnce? p with
      | none =>
          have hno' := noWord_of_splitOnce? front' hm'
          rw [← heq'] at hno'
          exact absurd hfirst'.start_le (Nat.not_le.mpr (hno' _ _ _ hfirst'.text_eq hfirst'.isWord))
      | some m' =>
          have hother := firstWord_of_splitOnce? front' hm'
          rw [← heq'] at hother
          rcases hother.unique h.delimiting hfirst' with ⟨rfl, rfl, rfl⟩
          exact Or.inr ⟨m.1, m.2, m'.1, m'.2, rfl, rfl, hstart, hend⟩

theorem length_after_lt {ch : Char} {r before after : Text} (h : rest.splitOnce? (ch :: r) = some (before, after)) :
    after.length < rest.length := by
  have hlength := congrArg List.length (Text.eq_of_splitOnce? h)
  simp only [List.length_append, List.length_cons] at hlength
  omega

/-- Comments correspond, also one that reaches to the end of the text. -/
theorem flatFrom_corresponding (ha : Alignment begins ends t t')
    (hopening : Correspond begins ends same (· = "<!--".toList) t t')
    (hclosing : Correspond begins ends same (· = "-->".toList) t t')
    {rounds rounds' : Nat} (heq : t = front ++ rest) (heq' : t' = front' ++ rest')
    (hplace : ends front.length front'.length) (hrounds : rest.length < rounds) (hrounds' : rest'.length < rounds') :
    List.Forall₂ (SpanAligned begins ends) (flatFrom "<!--" "-->" true rounds front.length rest)
      (flatFrom "<!--" "-->" true rounds' front'.length rest') := by
  induction rounds generalizing rounds' front front' rest rest' with
  | zero => omega
  | succ rounds ih =>
      cases rounds' with
      | zero => omega
      | succ rounds' =>
          rcases splitOnce?_corresponding ha hopening heq heq' hplace with
            ⟨hm, hm'⟩ | ⟨before, inside, before', inside', hm, hm', hstart, hopened⟩
          · rw [flatFrom, flatFrom, hm, hm']
            exact List.Forall₂.nil
          · have hrest := Text.eq_of_splitOnce? hm
            have hrest' := Text.eq_of_splitOnce? hm'
            have hinside : t = (front ++ before ++ "<!--".toList) ++ inside := by
              rw [heq, hrest]
              simp only [List.append_assoc]
            have hinside' : t' = (front' ++ before' ++ "<!--".toList) ++ inside' := by
              rw [heq', hrest']
              simp only [List.append_assoc]
            rw [flatFrom, flatFrom, hm, hm']
            dsimp only
            rcases splitOnce?_corresponding ha hclosing hinside hinside' hopened with
              ⟨hn, hn'⟩ | ⟨body, after, body', after', hn, hn', _, hclosed⟩
            · have hend := ha.length
              rw [heq, heq'] at hend
              rw [hn, hn']
              rw [List.length_append, List.length_append] at hstart hend
              exact List.Forall₂.cons ⟨hstart, hend⟩ List.Forall₂.nil
            · have hafter := Text.eq_of_splitOnce? hn
              have hafter' := Text.eq_of_splitOnce? hn'
              have hbehind : t = (front ++ before ++ "<!--".toList ++ body ++ "-->".toList) ++ after := by
                rw [hinside, hafter]
                simp only [List.append_assoc]
              have hbehind' : t' = (front' ++ before' ++ "<!--".toList ++ body' ++ "-->".toList) ++ after' := by
                rw [hinside', hafter']
                simp only [List.append_assoc]
              have hshorter := (length_after_lt hn).trans (length_after_lt hm)
              have hshorter' := (length_after_lt hn').trans (length_after_lt hm')
              have hmore := ih hbehind hbehind' hclosed (hshorter.trans_le (Nat.le_of_lt_succ hrounds))
                (hshorter'.trans_le (Nat.le_of_lt_succ hrounds'))
              rw [hn, hn']
              simp only [List.length_append] at hstart hclosed hmore ⊢
              exact List.Forall₂.cons ⟨hstart, hclosed⟩ hmore

theorem comments_corresponding (ha : Alignment begins ends t t')
    (hopening : Correspond begins ends same (· = "<!--".toList) t t')
    (hclosing : Correspond begins ends same (· = "-->".toList) t t') :
    List.Forall₂ (SpanAligned begins ends) (comments t) (comments t') :=
  flatFrom_corresponding ha hopening hclosing (List.nil_append t).symm (List.nil_append t').symm ha.zero
    (Nat.lt_succ_self _) (Nat.lt_succ_self _)

end Regions

/-!
# Covered places
-/

theorem covers_eq_of_forall₂ {related : Span -> Span -> Prop} {regions regions' : List Span} {i i' : Nat}
    (h : List.Forall₂ related regions regions')
    (hholds : forall s s', s ∈ regions -> related s s' -> s.holds i = s'.holds i') :
    covers regions i = covers regions' i' := by
  induction h with
  | nil => rfl
  | @cons s s' regions regions' hs _ ih =>
      have hrest := ih fun u u' hu => hholds u u' (List.mem_cons_of_mem s hu)
      unfold covers at hrest ⊢
      rw [List.any_cons, List.any_cons, hholds s s' List.mem_cons_self hs, hrest]

end Region
end WikiEntry
