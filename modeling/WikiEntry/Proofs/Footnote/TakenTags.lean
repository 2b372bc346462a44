import WikiEntry.Proofs.Footnote.ListTags
import WikiEntry.Proofs.Region.Replacement
import WikiEntry.Proofs.Region.Walk

/-!
# Taking tags of lists

Where every tag has ended before another one begins, taking one changes no other: the regions and all other tags move along
with the text.  So what is left when all tags without attributes are taken are the other tags.
-/

namespace WikiEntry
namespace References

open Region

/-!
# Tags that end
-/

def tagNames : List Text :=
  Text.listOf ["nowiki", "pre", "code", "references"]

/-- A tag of one of the elements, up to the end of the name. -/
def IsTagHead (h : Text) : Prop :=
  exists name, name ∈ tagNames ∧ (InAnyCase ('<' :: name) h ∨ InAnyCase ('<' :: '/' :: name) h)

def IsNamedTag (w : Text) : Prop :=
  exists name, name ∈ tagNames ∧ (IsOpeningTag name w ∨ IsClosingTag name w)

/-- Of the angle brackets in a text the first one is a closing one. -/
def ClosesFirst (t : Text) : Prop :=
  '>' ∈ t.takeWhile (· != '<')

instance (t : Text) : Decidable (ClosesFirst t) :=
  inferInstanceAs (Decidable ('>' ∈ t.takeWhile (· != '<')))

/-- Behind the name of a tag comes the bracket that ends the tag, before another tag begins. -/
def TagsEnd (t : Text) : Prop :=
  forall u h v, t = u ++ (h ++ v) -> IsTagHead h -> ClosesFirst v

instance (h : Text) : Decidable (IsTagHead h) :=
  inferInstanceAs (Decidable (exists name, name ∈ tagNames ∧ (InAnyCase ('<' :: name) h ∨ InAnyCase ('<' :: '/' :: name) h)))

theorem tagsEnd_iff {t : Text} : TagsEnd t <-> forall r, r ∈ t.tails -> forall n, n ∈ List.range (r.length + 1) ->
    IsTagHead (r.take n) -> ClosesFirst (r.drop n) := by
  constructor
  · intro ht r hr n _ hhead
    rcases (List.mem_tails r t).mp hr with ⟨u, rfl⟩
    exact ht u (r.take n) (r.drop n) (by rw [List.take_append_drop]) hhead
  · rintro ht u h v rfl hhead
    have hsuffix := (List.mem_tails (h ++ v) _).mpr (List.suffix_append u (h ++ v))
    have hcloses := ht (h ++ v) hsuffix h.length (by simp)
    rw [List.take_left, List.drop_left] at hcloses
    exact hcloses hhead

instance (t : Text) : Decidable (TagsEnd t) :=
  decidable_of_iff _ tagsEnd_iff.symm

/-- A text with angle brackets at its ends and nowhere else. -/
def Bracketed (w : Text) : Prop :=
  exists g, w = '<' :: (g ++ ['>']) ∧ '<' ∉ g ∧ '>' ∉ g

section Brackets

variable {t u v w a b c d g h r : Text}

theorem closesFirst_iff : ClosesFirst t <-> exists g r, t = g ++ '>' :: r ∧ '<' ∉ g := by
  constructor
  · intro h
    rcases List.append_of_mem h with ⟨g, r, hsplit⟩
    refine ⟨g, r ++ t.dropWhile (· != '<'), ?_, fun hmem => ?_⟩
    · rw [← List.cons_append, ← List.append_assoc, ← hsplit, List.takeWhile_append_dropWhile]
    · have hall := List.all_eq_true.mp (List.all_takeWhile (p := (· != '<')) (l := t)) '<'
        (hsplit ▸ List.mem_append_left _ hmem)
      exact absurd hall (by decide)
  · rintro ⟨g, r, rfl, hg⟩
    have hpos : forall ch, ch ∈ g -> (ch != '<') = true := fun ch hch => bne_iff_ne.mpr fun heq => hg (heq ▸ hch)
    rw [ClosesFirst, List.takeWhile_append_of_pos hpos, List.takeWhile_cons_of_pos (by decide)]
    simp

theorem ClosesFirst.append (h : ClosesFirst t) (r : Text) : ClosesFirst (t ++ r) := by
  rcases closesFirst_iff.mp h with ⟨g, r', rfl, hg⟩
  exact closesFirst_iff.mpr ⟨g, r' ++ r, by simp, hg⟩

/-- What comes behind an opening bracket, or has no closing one, does not matter. -/
theorem ClosesFirst.of_append (hr : forall ch, r.head? = some ch -> ch = '<' ∨ '>' ∉ r) (h : ClosesFirst (t ++ r)) :
    ClosesFirst t := by
  rcases closesFirst_iff.mp h with ⟨g, r', heq, hg⟩
  rcases List.append_eq_append_iff.mp heq with ⟨e, rfl, hrest⟩ | ⟨e, rfl, hrest⟩
  · exfalso
    cases r with
    | nil => simp at hrest
    | cons ch r =>
        rcases hr ch rfl with rfl | hnot
        · cases e with
          | nil => cases hrest
          | cons x e =>
              cases (List.cons.inj hrest).1
              exact hg (by simp)
        · rw [hrest] at hnot
          simp at hnot
  · cases e with
    | nil =>
        exfalso
        cases r with
        | nil => cases hrest
        | cons ch r =>
            cases hrest
            rcases hr '>' rfl with hbracket | hnot
            · cases hbracket
            · simp at hnot
    | cons x e =>
        cases (List.cons.inj hrest).1
        exact closesFirst_iff.mpr ⟨g, e, rfl, hg⟩

/-- What has no angle brackets may be put in front. -/
theorem ClosesFirst.behind (hopening : '<' ∉ r) (hclosing : '>' ∉ r) (h : ClosesFirst (r ++ t)) : ClosesFirst t := by
  have hpos : forall ch, ch ∈ r -> (ch != '<') = true := fun ch hch => bne_iff_ne.mpr fun heq => hopening (heq ▸ hch)
  rw [ClosesFirst, List.takeWhile_append_of_pos hpos, List.mem_append] at h
  exact h.resolve_left hclosing

theorem IsTagHead.exists_cons (hh : IsTagHead h) : exists r, h = '<' :: r ∧ forall ch, ch ∈ ['<', '>', '\n'] -> ch ∉ r := by
  have hall : tagNames.all (fun name => ['<', '>', '\n'].all fun ch =>
      Chars.variants ch == [ch] && !('/' :: name).contains ch) = true := by
    decide
  have hsign : forall {name : Text} {ch : Char}, name ∈ tagNames -> ch ∈ ['<', '>', '\n'] ->
      Chars.variants ch = [ch] ∧ ch ∉ '/' :: name := by
    intro name ch hname hch
    have hboth := List.all_eq_true.mp (List.all_eq_true.mp hall name hname) ch hch
    rw [Bool.and_eq_true, beq_iff_eq, Bool.not_eq_true', ← Bool.not_eq_true, List.contains_iff_mem] at hboth
    exact hboth
  have hbracket : forall {ch : Char}, (CharSet.anyCase (.char '<')).holds ch = true -> ch = '<' :=
    CharSet.eq_of_holds_anyCase (by decide) (by decide) (by decide)
  rcases hh with ⟨name, hname, hh | hh⟩
  · cases hh with
    | @cons _ ch _ r hch hr =>
        refine ⟨r, by rw [hbracket hch], fun x hx => ?_⟩
        have hx := hsign hname hx
        exact not_mem_of_inAnyCase hx.1 (fun hmem => hx.2 (List.mem_cons_of_mem _ hmem)) hr
  · cases hh with
    | @cons _ ch _ r hch hr =>
        refine ⟨r, by rw [hbracket hch], fun x hx => ?_⟩
        have hx := hsign hname hx
        exact not_mem_of_inAnyCase hx.1 hx.2 hr

theorem IsNamedTag.exists_head (hw : IsNamedTag w) : exists h g, w = h ++ (g ++ ['>']) ∧ IsTagHead h ∧ '>' ∉ g := by
  have hinner : forall {inner : CharSet} {g : Text}, inner.holds '>' = false -> (forall c, c ∈ g -> inner.holds c = true) ->
      '>' ∉ g := by
    intro inner g hnot hg hmem
    rw [hg '>' hmem] at hnot
    cases hnot
  rcases hw with ⟨name, hname, ⟨h, g, rfl, hh, hg, _⟩ | ⟨h, g, rfl, hh, hg, _⟩⟩
  · exact ⟨h, g, rfl, ⟨name, hname, Or.inl hh⟩, hinner (by decide) hg⟩
  · exact ⟨h, g, rfl, ⟨name, hname, Or.inr hh⟩, hinner (by decide) hg⟩

theorem TagsEnd.bracketed (ht : TagsEnd (u ++ (w ++ v))) (hw : IsNamedTag w) : Bracketed w := by
  rcases hw.exists_head with ⟨h, g, rfl, hh, hg⟩
  have hcloses := ht u h (g ++ ('>' :: v)) (by simp) hh
  rcases closesFirst_iff.mp hcloses with ⟨g', r', heq, hg'⟩
  have hopening : '<' ∉ g := by
    rcases List.append_eq_append_iff.mp heq with ⟨e, rfl, _⟩ | ⟨e, rfl, hrest⟩
    · exact fun hmem => hg' (List.mem_append_left e hmem)
    · cases e with
      | nil => simpa using hg'
      | cons x e =>
          cases (List.cons.inj hrest).1
          simp at hg
  rcases hh.exists_cons with ⟨r, rfl, hr⟩
  refine ⟨r ++ g, by simp, ?_, ?_⟩
  · simpa using ⟨hr '<' (by decide), hopening⟩
  · simpa using ⟨hr '>' (by decide), hg⟩

theorem eq_of_bracketed (hb : Bracketed b) (hw : Bracketed w) (heq : b ++ c = w ++ v) : b = w ∧ c = v := by
  have hbegins : forall {b w : Text}, Bracketed b -> Bracketed w -> b <+: w -> b = w := by
    rintro _ _ ⟨g, rfl, _, _⟩ ⟨g', rfl, _, hg'⟩ ⟨r, hr⟩
    rw [List.cons_append, List.append_assoc, List.singleton_append] at hr
    rw [((List.append_cons_inj_of_notMem hg' List.not_mem_nil).mp (List.cons.inj hr).2.symm).1]
  have hsame : b = w := by
    rcases List.prefix_or_prefix_of_prefix (List.prefix_append b c) (heq ▸ List.prefix_append w v) with h | h
    · exact hbegins hb hw h
    · exact (hbegins hw hb h).symm
  subst hsame
  exact ⟨rfl, List.append_cancel_left heq⟩

/-- Behind its beginning a bracketed text is not entered by another one. -/
theorem behind_of_bracketed (hb : Bracketed b) (hw : Bracketed w) (heq : b ++ c = d ++ (w ++ v)) :
    d = [] ∨ exists e, d = b ++ e ∧ c = e ++ (w ++ v) := by
  rcases List.append_eq_append_iff.mp heq with ⟨e, hd, hc⟩ | ⟨e, hbe, hrest⟩
  · exact Or.inr ⟨e, hd, hc⟩
  · cases e with
    | nil =>
        refine Or.inr ⟨[], by simpa using hbe.symm, by simpa using hrest.symm⟩
    | cons x e =>
        rcases hw with ⟨g', rfl, _, _⟩
        cases (List.cons.inj hrest).1
        rcases hb with ⟨g, rfl, hg, _⟩
        cases d with
        | nil => exact Or.inl rfl
        | cons y d =>
            exfalso
            have hmem : '<' ∈ g ++ ['>'] := by
              rw [(List.cons.inj hbe).2]
              simp
            simp [hg] at hmem

/-- Of two bracketed texts in one text, one stands in front of the other, or they are the same. -/
theorem bracketed_cases (hb : Bracketed b) (hw : Bracketed w) (heq : a ++ (b ++ c) = u ++ (w ++ v)) :
    (exists d, a = u ++ (w ++ d) ∧ v = d ++ (b ++ c)) ∨ (u = a ∧ w = b ∧ v = c) ∨
      exists d, u = a ++ (b ++ d) ∧ c = d ++ (w ++ v) := by
  rcases List.append_eq_append_iff.mp heq with ⟨d, rfl, hrest⟩ | ⟨d, rfl, hrest⟩
  · rcases behind_of_bracketed hb hw hrest with rfl | ⟨e, rfl, hc⟩
    · rcases eq_of_bracketed hb hw hrest with ⟨rfl, rfl⟩
      exact Or.inr (Or.inl ⟨by simp, rfl, rfl⟩)
    · exact Or.inr (Or.inr ⟨e, rfl, hc⟩)
  · rcases behind_of_bracketed hw hb hrest with rfl | ⟨e, rfl, hv⟩
    · rcases eq_of_bracketed hw hb hrest with ⟨rfl, rfl⟩
      exact Or.inr (Or.inl ⟨by simp, rfl, rfl⟩)
    · exact Or.inl ⟨e, rfl, hv⟩

end Brackets

/-!
# One tag
-/

/-- What takes the place of a tag. -/
def gap : Text :=
  "\n\n"

/-- The words of a kind stand in front of `b` or behind it. -/
def Apart (word : Text -> Prop) (a b c : Text) : Prop :=
  forall u w v, a ++ (b ++ c) = u ++ (w ++ v) -> word w ->
    (exists d, a = u ++ (w ++ d) ∧ v = d ++ (b ++ c)) ∨ exists d, u = a ++ (b ++ d) ∧ c = d ++ (w ++ v)

section Step

variable {a b b' c d h u v w name : Text} {word : Text -> Prop} {i i' : Nat}

theorem Apart.not_around (hb : b ≠ []) (h : Apart word a b c) {w₁ w₂ : Text} (ha : a = u ++ w₁) (hc : c = w₂ ++ v) :
    ¬ word (w₁ ++ (b ++ w₂)) := by
  intro hw
  have hlength := List.length_pos_of_ne_nil hb
  rcases h u _ v (by simp [ha, hc]) hw with ⟨d, heq, _⟩ | ⟨d, heq, _⟩
  · have hsum := congrArg List.length heq
    rw [ha] at hsum
    simp only [List.length_append] at hsum
    omega
  · have hsum := congrArg List.length heq
    rw [ha] at hsum
    simp only [List.length_append] at hsum
    omega

theorem Apart.spares (hb : b ≠ []) (h : Apart word a b c) : Spares word a b b' c where
  beside := by
    intro u w v heq hw
    rcases h u w v heq hw with ⟨d, ha, hv⟩ | ⟨d, hu, hc⟩
    · exact .before d ha hv
    · exact .behind d hu hc
  kept _ _ _ _ ha hc hw := absurd hw (h.not_around hb ha hc)

theorem isNamedTag_of_isListTag (hw : IsListTag w) : IsNamedTag w :=
  ⟨"references", by decide, hw⟩

theorem IsBareTag.bracketed (hb : IsBareTag b) : Bracketed b := by
  rcases hb.exists_head with ⟨h, g, rfl, hh, hg⟩
  have hhead : IsTagHead h := ⟨"references", by decide, Or.inl hh⟩
  rcases hhead.exists_cons with ⟨r, rfl, hr⟩
  have hnot : forall ch, ch ≠ ' ' -> ch ≠ '/' -> ch ∉ g := fun ch hspace hslash hmem => by
    rcases hg ch hmem with rfl | rfl
    · exact hspace rfl
    · exact hslash rfl
  refine ⟨r ++ g, by simp, ?_, ?_⟩
  · simpa using ⟨hr '<' (by decide), hnot '<' (by decide) (by decide)⟩
  · simpa using ⟨hr '>' (by decide), hnot '>' (by decide) (by decide)⟩

theorem IsBareTag.dash_not_mem (hb : IsBareTag b) : '-' ∉ b := by
  rcases hb.exists_head with ⟨h, g, rfl, hh, hg⟩
  have hhead : '-' ∉ h := not_mem_of_inAnyCase (by decide) (by simp) hh
  have hinner : '-' ∉ g := fun hmem => by
    rcases hg '-' hmem with heq | heq <;> cases heq
  simpa using ⟨hhead, hinner⟩

theorem inert_gap : Inert gap :=
  inert_of_spacing ⟨by decide, by simp [gap, Chars.isSpacing]⟩

/-- A tag of a list is no tag of an element that hides its content. -/
theorem not_isOpeningTag_of_isBareTag (hb : IsBareTag b) (hname : name ∈ Text.listOf ["nowiki", "pre", "code"]) :
    ¬ (IsOpeningTag name b ∨ IsClosingTag name b) := by
  rcases exists_second hb.isOpeningTag with ⟨c, hc, hletter⟩
  have hfold := fold_eq_of_holds_anyCase (by decide) hletter
  rintro (hw | hw)
  · have hfirst : exists x rest, name = x :: rest ∧ x.isLower = true ∧ x ≠ 'r' := by
      fin_cases hname
      · exact ⟨'n', "owiki", rfl, by decide, by decide⟩
      · exact ⟨'p', "re", rfl, by decide, by decide⟩
      · exact ⟨'c', "ode", rfl, by decide, by decide⟩
    rcases hfirst with ⟨x, rest, rfl, hlower, hne⟩
    rcases exists_second hw with ⟨c', hc', hletter'⟩
    rw [hc] at hc'
    cases hc'
    exact hne ((fold_eq_of_holds_anyCase hlower hletter').symm.trans hfold)
  · rcases exists_second hw with ⟨c', hc', hslash⟩
    rw [hc] at hc'
    cases hc'
    rw [CharSet.eq_of_holds_anyCase (by decide) (by decide) (by decide) hslash] at hfold
    exact absurd hfold (by decide)

/-- Where tags end, the other tags stand apart from a tag. -/
theorem TagsEnd.apart (ht : TagsEnd (a ++ (b ++ c))) (hb : IsBareTag b) (hword : forall w, word w -> IsNamedTag w)
    (hnot : ¬ word b) : Apart word a b c := by
  intro u w v heq hw
  rcases bracketed_cases hb.bracketed (TagsEnd.bracketed (heq ▸ ht) (hword w hw)) heq with hfront | ⟨_, rfl, _⟩ | hbehind
  · exact Or.inl hfront
  · exact absurd hw hnot
  · exact Or.inr hbehind

/-- The head of a tag has no newlines in it. -/
theorem head_beside_newlines (hb : b ≠ []) (hnewlines : forall ch, ch ∈ b -> ch = '\n')
    (heq : a ++ (b ++ c) = u ++ (h ++ v)) (hh : IsTagHead h) :
    (exists d, a = u ++ (h ++ d) ∧ v = d ++ (b ++ c)) ∨ exists d, u = a ++ (b ++ d) ∧ c = d ++ (h ++ v) := by
  rcases hh.exists_cons with ⟨r, rfl, hr⟩
  have hnot : forall ch, ch ∈ b -> ch ∉ '<' :: r := by
    intro ch hch
    rw [hnewlines ch hch]
    simpa using hr '\n' (by decide)
  have hbeside : Beside a b c u ('<' :: r) v := by
    refine beside_of_ends (List.cons_ne_nil _ _) heq (Or.inl fun ch hch hmem => ?_) (Or.inl fun ch hch hmem => ?_)
    · exact hnot ch hmem (List.mem_of_getLast? hch)
    · exact hnot ch hmem (List.mem_of_head? hch)
  cases hbeside with
  | before d ha hv => exact Or.inl ⟨d, ha, hv⟩
  | around w₁ w₂ ha hw hc =>
      rcases List.exists_mem_of_ne_nil b hb with ⟨ch, hch⟩
      exact absurd (hw ▸ List.mem_append_right w₁ (List.mem_append_left w₂ hch)) (hnot ch hch)
  | behind d hu hc => exact Or.inr ⟨d, hu, hc⟩

theorem head_beside_gap (heq : a ++ (gap ++ c) = u ++ (h ++ v)) (hh : IsTagHead h) :
    (exists d, a = u ++ (h ++ d) ∧ v = d ++ (gap ++ c)) ∨ exists d, u = a ++ (gap ++ d) ∧ c = d ++ (h ++ v) :=
  head_beside_newlines (by decide) (by simp [gap]) heq hh

/-- Where a tag begins and does not end in front of another tag, none ends behind the gap for that either. -/
theorem TagsEnd.taken (ht : TagsEnd (a ++ (b ++ c))) (hb : IsBareTag b) : TagsEnd (a ++ (gap ++ c)) := by
  intro u h v heq hh
  rcases head_beside_gap heq hh with ⟨d, ha, rfl⟩ | ⟨d, rfl, hc⟩
  · have hcloses := ht u h (d ++ (b ++ c)) (by simp [ha]) hh
    rcases hb.bracketed with ⟨g, rfl, _, _⟩
    refine (hcloses.of_append ?_).append _
    rintro ch ⟨⟩
    exact Or.inl rfl
  · exact ht (a ++ (b ++ d)) h v (by simp [hc]) hh

theorem TagsEnd.apart_gap (ht : TagsEnd (a ++ (b ++ c))) (hb : IsBareTag b) (hword : forall w, word w -> IsNamedTag w) :
    Apart word a gap c := by
  intro u w v heq hw
  rcases (hword w hw).exists_head with ⟨h, g, rfl, hh, hg⟩
  rcases head_beside_gap (heq.trans (by rw [List.append_assoc])) hh with ⟨d, ha, hv⟩ | ⟨d, hu, hc⟩
  · -- The tag ends in front of the gap, where it would have ended in front of the other tag.
    have hcloses := ht u h (d ++ (b ++ c)) (by simp [ha]) hh
    rcases hb.bracketed with ⟨g', rfl, _, _⟩
    have hinside : '>' ∈ d := by
      refine (List.takeWhile_prefix _).subset (hcloses.of_append ?_)
      rintro ch ⟨⟩
      exact Or.inl rfl
    rw [List.append_assoc, List.singleton_append] at hv
    rcases List.append_eq_append_iff.mp hv with ⟨e, hd, hrest⟩ | ⟨e, hge, hrest⟩
    · cases e with
      | nil =>
          rw [List.append_nil] at hd
          exact absurd (hd ▸ hinside) hg
      | cons x e =>
          rcases List.cons.inj hrest with ⟨rfl, hv⟩
          exact Or.inl ⟨e, by simp [ha, hd], hv⟩
    · exact absurd (hge ▸ List.mem_append_left e hinside) hg
  · exact Or.inr ⟨d, hu, by simpa using hc⟩

theorem exchange_of_apart (hb : b ≠ []) (hb' : b' ≠ []) (hd : Delimiting word) (h : Apart word a b c)
    (h' : Apart word a b' c) : Exchange word a b b' c :=
  ⟨hb, hb', hd, h.spares hb, h'.spares hb'⟩

/-- The words that delimit comments, which have no closing bracket in front and no opening one behind. -/
theorem exchange_comment {p : Text} (hb : IsBareTag b) (hp : p = "<!--" ∨ p = "-->") : Exchange (· = p) a b gap c := by
  rcases hb.bracketed with ⟨g, heq, _, _⟩
  have hdash := hb.dash_not_mem
  have hne : b ≠ [] := heq ▸ List.cons_ne_nil _ _
  have hhead : b.head? = some '<' := by rw [heq]; rfl
  have hlast : b.getLast? = some '>' := by rw [heq, ← List.cons_append, List.getLast?_concat]
  rcases hp with rfl | rfl
  · refine ⟨hne, by decide, delimiting_eq (by decide), ?_, inert_gap.spares_opening⟩
    refine spares_eq (List.mem_of_getLast? hlast) (by decide) fun u v heq => ?_
    have hend : forall ch, "<!--".toList.getLast? = some ch -> ch ∉ b := by
      rintro ch ⟨⟩
      exact hdash
    refine beside_of_ends (by decide) heq (Or.inl hend) (Or.inr ⟨hend, ?_⟩)
    rw [hlast]
    rintro ch ⟨⟩
    decide
  · refine ⟨hne, by decide, delimiting_eq (by decide), ?_, inert_gap.spares_closing⟩
    refine spares_eq (List.mem_of_head? hhead) (by decide) fun u v heq => ?_
    refine beside_of_ends (by decide) heq (Or.inr ?_) (Or.inl ?_)
    · rw [hhead]
      rintro ch ⟨⟩
      decide
    · rintro ch ⟨⟩
      exact hdash

/-- Taking a tag moves the ignored regions along with the text. -/
theorem TagsEnd.neutral (ht : TagsEnd (a ++ (b ++ c))) (hb : IsBareTag b) : Neutral a b gap c where
  opening := exchange_comment hb (Or.inl rfl)
  closing := exchange_comment hb (Or.inr rfl)
  tags := by
    intro name hname
    rcases hb.bracketed with ⟨g, heq, _, _⟩
    have hne : b ≠ [] := heq ▸ List.cons_ne_nil _ _
    have hnot := not_isOpeningTag_of_isBareTag hb hname
    have hnamed : name ∈ tagNames := List.mem_append_left (Text.listOf ["references"]) hname
    have hopening : forall w, IsOpeningTag name w -> IsNamedTag w := fun w hw => ⟨name, hnamed, Or.inl hw⟩
    have hclosing : forall w, IsClosingTag name w -> IsNamedTag w := fun w hw => ⟨name, hnamed, Or.inr hw⟩
    have happart := ht.apart hb hopening fun hw => hnot (Or.inl hw)
    refine ⟨?_, ?_, fun u w₁ w₂ v ha hc hw => absurd hw (happart.not_around hne ha hc)⟩
    · exact exchange_of_apart hne (by decide) (delimiting_isOpeningTag name) happart (ht.apart_gap hb hopening)
    · exact exchange_of_apart hne (by decide) (delimiting_isClosingTag name)
        (ht.apart hb hclosing fun hw => hnot (Or.inr hw)) (ht.apart_gap hb hclosing)

end Step

/-!
# All tags of a text
-/

/-- The tags that begin in a stretch of a text. -/
def tagsIn (t : Text) (start n : Nat) : List Text :=
  (List.range n).filterMap fun k => listTagAt? (ignored t) t (start + k)

section Stretches

variable {t t' : Text} {start start' n : Nat}

theorem listTags_eq_tagsIn (t : Text) : listTags t = tagsIn t 0 t.length := by
  rw [listTags, tagsIn]
  simp only [Nat.zero_add]

theorem tagsIn_add (t : Text) (start m n : Nat) : tagsIn t start (m + n) = tagsIn t start m ++ tagsIn t (start + m) n := by
  rw [tagsIn, List.range_add, List.filterMap_append, List.filterMap_map]
  simp only [tagsIn, Function.comp_def, Nat.add_assoc]

theorem tagsIn_congr (ht : start + n ≤ t.length) (ht' : start' + n ≤ t'.length)
    (h : forall k w, k < n -> (TagAt t (start + k) w <-> TagAt t' (start' + k) w)) :
    tagsIn t start n = tagsIn t' start' n := by
  refine List.filterMap_congr fun k hk => Option.ext fun w => ?_
  have hlt := List.mem_range.mp hk
  rw [listTagAt?_eq_some_iff (by omega), listTagAt?_eq_some_iff (by omega), h k w hlt]

theorem tagsIn_eq_nil (ht : start + n ≤ t.length) (h : forall k w, k < n -> ¬ TagAt t (start + k) w) :
    tagsIn t start n = [] := by
  refine List.filterMap_eq_nil_iff.mpr fun k hk => Option.eq_none_iff_forall_ne_some.mpr fun w hw => ?_
  have hlt := List.mem_range.mp hk
  exact h k w hlt ((listTagAt?_eq_some_iff (by omega)).mp hw)

end Stretches

section Taken

variable {a b c u v w : Text} {i i' k : Nat}

/-- Tags in front of the one that is taken stay where they are, and those behind it move. -/
theorem tagAt_taken (ht : TagsEnd (a ++ (b ++ c))) (hb : IsBareTag b)
    (hi : i < a.length ∧ i' = i ∨ a.length + b.length ≤ i ∧ i' + b.length = i + gap.length) :
    TagAt (a ++ (b ++ c)) i w <-> TagAt (a ++ (gap ++ c)) i' w := by
  have hlength : 0 < b.length := by
    rcases hb.bracketed with ⟨g, rfl, _, _⟩
    exact Nat.succ_pos _
  have hcovers : covers (ignored (a ++ (b ++ c))) i = covers (ignored (a ++ (gap ++ c))) i' :=
    covers_moved (List.ne_nil_of_length_pos hlength) (by decide) (ht.neutral hb).ignored_moved
      (hi.imp (fun h => ⟨h.1.le, h.2⟩) id)
  rw [TagAt, TagAt, hcovers]
  refine and_congr_right fun _ => and_congr_right fun hw => ?_
  have hpositive := List.length_pos_of_ne_nil (delimiting_isListTag.ne_nil w hw)
  constructor
  · rintro ⟨u, v, heq, hu⟩
    rcases bracketed_cases hb.bracketed (TagsEnd.bracketed (heq ▸ ht) (isNamedTag_of_isListTag hw)) heq with
      ⟨d, ha, _⟩ | ⟨rfl, _, _⟩ | ⟨d, rfl, hc⟩
    · have hsum := congrArg List.length ha
      simp only [List.length_append] at hsum
      exact ⟨u, d ++ (gap ++ c), by simp [ha], by omega⟩
    · omega
    · simp only [List.length_append] at hu
      exact ⟨a ++ (gap ++ d), v, by simp [hc], by simp only [List.length_append]; omega⟩
  · rintro ⟨u, v, heq, hu⟩
    rcases ht.apart_gap hb (fun _ => isNamedTag_of_isListTag) u w v heq hw with ⟨d, ha, _⟩ | ⟨d, rfl, hc⟩
    · have hsum := congrArg List.length ha
      simp only [List.length_append] at hsum
      exact ⟨u, d ++ (b ++ c), by simp [ha], by omega⟩
    · simp only [List.length_append] at hu
      exact ⟨a ++ (b ++ d), v, by simp [hc], by simp only [List.length_append]; omega⟩

theorem tagAt_bare (ht : TagsEnd (a ++ (b ++ c))) (hb : IsBareTag b) (hk : k < b.length) :
    TagAt (a ++ (b ++ c)) (a.length + k) w <->
      covers (ignored (a ++ (b ++ c))) a.length = false ∧ k = 0 ∧ w = b := by
  constructor
  · rintro ⟨hcovers, hw, u, v, heq, hu⟩
    have hpositive := List.length_pos_of_ne_nil (delimiting_isListTag.ne_nil w hw)
    rcases bracketed_cases hb.bracketed (TagsEnd.bracketed (heq ▸ ht) (isNamedTag_of_isListTag hw)) heq with
      ⟨d, ha, _⟩ | ⟨rfl, rfl, _⟩ | ⟨d, rfl, _⟩
    · have hsum := congrArg List.length ha
      simp only [List.length_append] at hsum
      omega
    · have hzero : k = 0 := by omega
      rw [hzero] at hcovers
      exact ⟨hcovers, hzero, rfl⟩
    · simp only [List.length_append] at hu
      omega
  · rintro ⟨hcovers, rfl, rfl⟩
    exact ⟨hcovers, Or.inl hb.isOpeningTag, a, c, rfl, rfl⟩

theorem not_tagAt_gap (ht : TagsEnd (a ++ (b ++ c))) (hb : IsBareTag b) (hk : k < gap.length) :
    ¬ TagAt (a ++ (gap ++ c)) (a.length + k) w := by
  rintro ⟨_, hw, u, v, heq, hu⟩
  have hpositive := List.length_pos_of_ne_nil (delimiting_isListTag.ne_nil w hw)
  rcases ht.apart_gap hb (fun _ => isNamedTag_of_isListTag) u w v heq hw with ⟨d, ha, _⟩ | ⟨d, rfl, _⟩
  · have hsum := congrArg List.length ha
    simp only [List.length_append] at hsum
    omega
  · simp only [List.length_append] at hu
    omega

theorem tagsIn_bare (ht : TagsEnd (a ++ (b ++ c))) (hb : IsBareTag b) :
    tagsIn (a ++ (b ++ c)) a.length b.length = if covers (ignored (a ++ (b ++ c))) a.length then [] else [b] := by
  split
  · rename_i hcovers
    refine tagsIn_eq_nil (by simp) fun k w hk hw => ?_
    rw [((tagAt_bare ht hb hk).mp hw).1] at hcovers
    cases hcovers
  · rename_i hcovers
    have hlength : exists n, b.length = n + 1 := by
      rcases hb.bracketed with ⟨g, rfl, _, _⟩
      exact ⟨_, rfl⟩
    rcases hlength with ⟨n, hn⟩
    have hfirst : listTagAt? (ignored (a ++ (b ++ c))) (a ++ (b ++ c)) (a.length + 0) = some b := by
      rw [listTagAt?_eq_some_iff (by simp), tagAt_bare ht hb (by omega)]
      exact ⟨Bool.eq_false_iff.mpr hcovers, rfl, rfl⟩
    have hrest : tagsIn (a ++ (b ++ c)) (a.length + 1) n = [] := by
      refine tagsIn_eq_nil (by simp; omega) fun k w hk hw => ?_
      rw [Nat.add_assoc, tagAt_bare ht hb (by omega)] at hw
      omega
    rw [hn, Nat.add_comm n 1, tagsIn_add, hrest, List.append_nil, tagsIn, List.range_one]
    simp only [List.filterMap_cons, hfirst, List.filterMap_nil]

/-- The other tags are what is left when a tag is taken. -/
theorem exists_listTags (ht : TagsEnd (a ++ (b ++ c))) (hb : IsBareTag b) : exists xs ys,
    listTags (a ++ (b ++ c)) = xs ++ ((if covers (ignored (a ++ (b ++ c))) a.length then [] else [b]) ++ ys) ∧
      listTags (a ++ (gap ++ c)) = xs ++ ys := by
  refine ⟨tagsIn (a ++ (b ++ c)) 0 a.length, tagsIn (a ++ (b ++ c)) (a.length + b.length) c.length, ?_, ?_⟩
  · rw [listTags_eq_tagsIn, List.length_append, List.length_append, tagsIn_add, tagsIn_add, Nat.zero_add,
      tagsIn_bare ht hb]
  · have hgap : tagsIn (a ++ (gap ++ c)) a.length gap.length = [] :=
      tagsIn_eq_nil (by simp) fun k w hk => not_tagAt_gap ht hb hk
    rw [listTags_eq_tagsIn, List.length_append, List.length_append, tagsIn_add, tagsIn_add, Nat.zero_add, hgap,
      List.nil_append]
    refine congrArg₂ (· ++ ·) ?_ ?_
    · refine tagsIn_congr (by simp) (by simp) fun k w hk => (tagAt_taken ht hb ?_).symm
      omega
    · refine tagsIn_congr (by simp [Nat.add_assoc]) (by simp [Nat.add_assoc]) fun k w hk => (tagAt_taken ht hb ?_).symm
      omega

end Taken

/-!
# All tags without attributes
-/

/-- Edits that take tags without attributes, all that stand outside the ignored regions. -/
structure Takes (t : Text) (edits : List Edit) : Prop where
  order : Edit.InOrder 0 edits
  text_eq : forall e, e ∈ edits -> e.text = gap
  tag : forall e, e ∈ edits -> exists u b v, t = u ++ (b ++ v) ∧ e.span = ⟨u.length, (u ++ b).length⟩ ∧ IsBareTag b ∧
    covers (ignored t) u.length = false
  all : forall i w, TagAt t i w -> isTaken w = true -> exists e, e ∈ edits ∧ e.span.start = i

section Edits

variable {t : Text} {edits : List Edit} {e : Edit}

theorem mem_listTags {w : Text} : w ∈ listTags t <-> exists i, TagAt t i w := by
  rw [listTags, List.mem_filterMap]
  constructor
  · rintro ⟨i, hi, hw⟩
    exact ⟨i, (listTagAt?_eq_some_iff (List.mem_range.mp hi).le).mp hw⟩
  · rintro ⟨i, hw⟩
    have hi : i < t.length := by
      rcases hw with ⟨_, hw, u, v, rfl, rfl⟩
      have hpositive := List.length_pos_of_ne_nil (delimiting_isListTag.ne_nil w hw)
      simp only [List.length_append]
      omega
    exact ⟨i, List.mem_range.mpr hi, (listTagAt?_eq_some_iff hi.le).mpr hw⟩

/-- The last of the tags is taken first, which leaves those in front of it. -/
theorem Takes.exists_last (h : Takes t (edits ++ [e])) (ht : TagsEnd t) : exists a b c, t = a ++ (b ++ c) ∧ IsBareTag b ∧
    covers (ignored t) a.length = false ∧ Edit.applyAll t (edits ++ [e]) = Edit.applyAll (a ++ (gap ++ c)) edits ∧
      Takes (a ++ (gap ++ c)) edits := by
  rcases h.tag e (by simp) with ⟨a, b, c, rfl, hspan, hb, hcovers⟩
  rcases Edit.inOrder_concat h.order with ⟨horder, hfront, _, _⟩
  have hpositive : 0 < b.length := by
    rcases hb.bracketed with ⟨g, rfl, _, _⟩
    exact Nat.succ_pos _
  have happly := Edit.applyAll_concat (t := a ++ (b ++ c)) h.order (by simp [hspan])
  rw [hspan, List.take_left, ← List.append_assoc a b c, List.drop_left, h.text_eq e (by simp)] at happly
  rw [← List.append_assoc a b c]
  refine ⟨a, b, c, List.append_assoc a b c, hb, by rwa [List.append_assoc], happly, horder,
    fun e' he' => h.text_eq e' (List.mem_append_left _ he'), ?_, ?_⟩
  · intro e' he'
    rcases h.tag e' (List.mem_append_left _ he') with ⟨u, b', v, heq, hspan', hb', hcovers'⟩
    have hstop := hfront e' he'
    rw [hspan, hspan'] at hstop
    simp only [List.length_append] at hstop
    rcases bracketed_cases hb.bracketed hb'.bracketed heq with ⟨d, ha, _⟩ | ⟨rfl, rfl, _⟩ | ⟨d, rfl, _⟩
    · have hplace : u.length ≤ a.length := by omega
      refine ⟨u, b', d ++ (gap ++ c), by simp [ha], hspan', hb', ?_⟩
      rw [← covers_moved (List.ne_nil_of_length_pos hpositive) (by decide) (ht.neutral hb).ignored_moved
        (Or.inl ⟨hplace, rfl⟩)]
      exact hcovers'
    · omega
    · simp only [List.length_append] at hstop
      omega
  · intro i w hw htaken
    by_cases hi : i < a.length
    · rcases h.all i w ((tagAt_taken ht hb (Or.inl ⟨hi, rfl⟩)).mpr hw) htaken with ⟨e', he', hstart⟩
      rcases List.mem_append.mp he' with he' | he'
      · exact ⟨e', he', hstart⟩
      · rw [List.mem_singleton.mp he', hspan] at hstart
        dsimp only at hstart
        omega
    · by_cases hgap : i < a.length + gap.length
      · refine absurd (a := TagAt (a ++ (gap ++ c)) (a.length + (i - a.length)) w) ?_ (not_tagAt_gap ht hb (by omega))
        rwa [Nat.add_sub_cancel' (Nat.le_of_not_lt hi)]
      · -- Behind the tag there is no other one to take.
        have hold : TagAt (a ++ (b ++ c)) (i - gap.length + b.length) w := (tagAt_taken ht hb (by omega)).mpr hw
        rcases h.all _ w hold htaken with ⟨e', he', hstart⟩
        rcases List.mem_append.mp he' with he' | he'
        · rcases h.tag e' (List.mem_append_left _ he') with ⟨u, b', v, _, hspan', _⟩
          have hstop := hfront e' he'
          rw [hspan'] at hstart hstop
          rw [hspan] at hstop
          simp only [List.length_append] at hstart hstop
          omega
        · rw [List.mem_singleton.mp he', hspan] at hstart
          dsimp only at hstart
          omega

/-- What is left when all tags without attributes are taken are the other tags. -/
theorem listTags_applyAll (h : Takes t edits) (ht : TagsEnd t) :
    listTags (Edit.applyAll t edits) = (listTags t).filter fun tag => !isTaken tag := by
  induction edits using List.reverseRecOn generalizing t with
  | nil =>
      refine (List.filter_eq_self.mpr fun w hw => ?_).symm
      rcases mem_listTags.mp hw with ⟨i, htag⟩
      refine Bool.not_eq_true' _ ▸ Bool.eq_false_iff.mpr fun htaken => ?_
      rcases h.all i w htag htaken with ⟨e, he, _⟩
      cases he
  | append_singleton edits e ih =>
      rcases h.exists_last ht with ⟨a, b, c, rfl, hb, hcovers, happly, hrest⟩
      rcases exists_listTags ht hb with ⟨xs, ys, htags, htags'⟩
      rw [hcovers, if_neg Bool.false_ne_true] at htags
      rw [happly, ih hrest (ht.taken hb), htags, htags', List.filter_append, List.filter_append, List.filter_append,
        List.filter_cons_of_neg (by simp [isTaken_iff.mpr hb]), List.filter_nil, List.nil_append]

theorem takes_editsOutside (t : Text) : Takes t (editsOutside (ignored t) gap (listElement.matchList t)) where
  order := inOrder_map_of_inOrder ((Pattern.inOrder_matchList listElement t).filter _) fun _ => gap
  text_eq := by
    intro e he
    rcases List.mem_map.mp he with ⟨m, _, rfl⟩
    rfl
  tag := by
    intro e he
    rcases List.mem_map.mp he with ⟨m, hm, rfl⟩
    rcases List.mem_filter.mp hm with ⟨hm, houtside⟩
    rcases (Pattern.inOrder_matchList listElement t).matched m hm with ⟨w, s, hmatched⟩
    have hplace : (t.take m.start).length = m.start := List.length_take_of_le hmatched.start_le
    refine ⟨t.take m.start, w, s.cursor.rest, ?_, ?_, spells_listElement.sound _ _ _ hmatched.reads, ?_⟩
    · rw [← hmatched.rest_eq, List.take_append_drop]
    · rw [List.length_append, hplace, ← hmatched.stop_eq]
      rfl
    · rw [hplace]
      simpa using houtside
  all := by
    rintro i w ⟨hcovers, hw, u, v, heq, rfl⟩ htaken
    have hbare := isTaken_iff.mp htaken
    have hdelimiting : Delimiting IsBareTag := by
      refine ⟨fun w hw => ?_, fun w w' hw hw' hbegins => ?_⟩
      · exact delimiting_isListTag.ne_nil w (Or.inl hw.isOpeningTag)
      · exact delimiting_isListTag.eq_of_begins w w' (Or.inl hw.isOpeningTag) (Or.inl hw'.isOpeningTag) hbegins
    have happart : forall u w v u' w' v', t = u ++ (w ++ v) -> t = u' ++ (w' ++ v') -> IsBareTag w -> IsBareTag w' ->
        u.length < u'.length -> u.length + w.length ≤ u'.length := by
      intro u w v u' w' v' heq heq' hw hw' hlt
      rcases bracketed_cases hw.bracketed hw'.bracketed (heq.symm.trans heq') with ⟨d, rfl, _⟩ | ⟨rfl, _⟩ | ⟨d, rfl, _⟩
      · simp only [List.length_append] at hlt
        omega
      · omega
      · simp only [List.length_append]
        omega
    rcases spells_listElement.exists_mem_matchesFrom hdelimiting happart none heq hbare rfl (Nat.zero_le _)
      (Nat.zero_le _) with ⟨m, hm, hstart⟩
    refine ⟨⟨m.span, gap⟩, List.mem_map.mpr ⟨m, List.mem_filter.mpr ⟨hm, ?_⟩, rfl⟩, hstart⟩
    rw [hstart, hcovers]
    rfl

/-- The rule takes the tags without attributes and leaves the others. -/
theorem listTags_replaceOutside (ht : TagsEnd t) :
    listTags (replaceOutside t listElement gap) = (listTags t).filter fun tag => !isTaken tag := by
  rw [replaceOutside_eq_applyFrom]
  exact listTags_applyAll (takes_editsOutside t) ht

end Edits

/-!
# Blanks around, and a line below
-/

section Around

variable {x y t : Text}

/-- Tags are those of the text, whatever is put around it. -/
theorem listTags_padded (hx : Signless x) (hy : Signless y) : listTags (x ++ (t ++ y)) = listTags t := by
  have hbetween : forall {k w}, TagAt (x ++ (t ++ y)) k w ->
      exists u v, k = x.length + u.length ∧ w ≠ [] ∧ t = u ++ (w ++ v) := by
    rintro k w ⟨_, hw, u, v, heq, rfl⟩
    rcases hw.elim (exists_between_of_isTag hx hy heq) (exists_between_of_isTag hx hy heq) with ⟨u', v', rfl, _, ht⟩
    exact ⟨u', v', List.length_append, delimiting_isListTag.ne_nil w hw, ht⟩
  have hfront : tagsIn (x ++ (t ++ y)) 0 x.length = [] := by
    refine tagsIn_eq_nil (by simp) fun k w hk hw => ?_
    rcases hbetween hw with ⟨u, v, hplace, _⟩
    omega
  have hback : tagsIn (x ++ (t ++ y)) (x.length + t.length) y.length = [] := by
    refine tagsIn_eq_nil (by simp [Nat.add_assoc]) fun k w hk hw => ?_
    rcases hbetween hw with ⟨u, v, hplace, hne, rfl⟩
    have hpositive := List.length_pos_of_ne_nil hne
    simp only [List.length_append] at hplace
    omega
  rw [listTags_eq_tagsIn, List.length_append, List.length_append, tagsIn_add, tagsIn_add, Nat.zero_add, hfront, hback,
    List.nil_append, List.append_nil, listTags_eq_tagsIn]
  refine tagsIn_congr (by simp) (by simp) fun k w hk => ?_
  rw [TagAt, TagAt, Nat.zero_add, covers_padded hx hy hk]
  refine and_congr_right fun hcovers => and_congr_right fun hw => ?_
  constructor
  · rintro ⟨u, v, heq, hu⟩
    have hcovers' : covers (ignored (x ++ (t ++ y))) (x.length + k) = false := by rwa [covers_padded hx hy hk]
    rcases hbetween ⟨hcovers', hw, u, v, heq, hu⟩ with ⟨u', v', hplace, _, ht⟩
    exact ⟨u', v', ht, by omega⟩
  · rintro ⟨u, v, rfl, rfl⟩
    exact ⟨x ++ u, v ++ y, by simp, List.length_append⟩

theorem listTags_trimRight (t : Text) : listTags t.trimRight = listTags t := by
  have hblank : Signless (t.reverse.takeWhile Chars.isBlank).reverse :=
    signless_of_all_isBlank (by rw [List.all_reverse]; exact List.all_takeWhile)
  have hpadded := listTags_padded (x := []) (t := t.trimRight) rfl hblank
  rw [List.nil_append, Text.trimRight, Text.trimRightBy_append] at hpadded
  exact hpadded.symm

theorem listTags_trim (t : Text) : listTags t.trim = listTags t := by
  have hfront : Signless (t.takeWhile Chars.isBlank) := signless_of_all_isBlank List.all_takeWhile
  have hpadded := listTags_padded (t := t.trimLeft) hfront (y := []) rfl
  rw [List.append_nil, Text.trimLeft, Text.takeWhile_append_trimLeftBy] at hpadded
  exact (listTags_trimRight t.trimLeft).trans hpadded.symm

/-- Tags that end also end when what is behind them is trimmed, and a line with a list is put there. -/
theorem TagsEnd.trimRight (ht : TagsEnd t) : TagsEnd t.trimRight := by
  intro u h v heq hh
  have hblank : Signless (t.reverse.takeWhile Chars.isBlank).reverse :=
    signless_of_all_isBlank (by rw [List.all_reverse]; exact List.all_takeWhile)
  refine (ht u h (v ++ (t.reverse.takeWhile Chars.isBlank).reverse) ?_ hh).of_append fun _ _ =>
    Or.inr (hblank.not_mem (by decide))
  rw [← List.append_assoc h, ← List.append_assoc u, ← heq, Text.trimRight, Text.trimRightBy_append]

theorem TagsEnd.append_list (ht : TagsEnd t) : TagsEnd (t ++ (['\n'] ++ list)) := by
  intro u h v heq hh
  rcases head_beside_newlines (List.cons_ne_nil _ _) (by simp) heq hh with ⟨d, ha, rfl⟩ | ⟨d, _, hc⟩
  · exact (ht u h d ha hh).append _
  · rcases hh.exists_cons with ⟨r, rfl, hr⟩
    have hopening : '<' ∉ list.tail := by decide
    cases d with
    | nil =>
        have htail : list.tail = r ++ v := congrArg List.tail hc
        have hcloses : ClosesFirst list.tail := by decide
        rw [htail] at hcloses
        exact hcloses.behind (hr '<' (by decide)) (hr '>' (by decide))
    | cons x d =>
        have htail : list.tail = d ++ ('<' :: r ++ v) := congrArg List.tail hc
        rw [htail] at hopening
        simp at hopening

/-- A line with a list of its own leaves as many closing tags over as there were. -/
theorem leftOver?_appendLine (ht : TagsEnd t) {line : Text} (hline : line = list ∨ line = listTemplate) :
    leftOver? (listTags (appendLine t line)) = leftOver? (listTags t) := by
  have hkept := ht.trimRight
  rw [appendLine, ← listTags_trimRight t]
  generalize t.trimRight = kept at hkept
  split
  · rename_i hempty
    rw [List.isEmpty_iff.mp hempty]
    rcases hline with rfl | rfl <;> decide +kernel
  · rcases hline with rfl | rfl
    · have hend : TagsEnd ((kept ++ ['\n']) ++ (list ++ [])) := by
        rw [List.append_nil, List.append_assoc]
        exact hkept.append_list
      rcases exists_listTags hend (isTaken_iff.mp (by decide +kernel)) with ⟨xs, ys, htags, hothers⟩
      have hpadded := listTags_padded (x := []) (t := kept) (y := ['\n'] ++ gap) rfl rfl
      rw [List.append_nil, List.append_assoc] at hothers
      rw [List.append_nil] at htags
      rw [← hpadded, List.nil_append, hothers]
      refine (congrArg leftOver? htags).trans ?_
      split
      · rfl
      · exact leftOver?_append_cons (by decide) (by decide) xs ys
    · have hpadded := listTags_padded (x := []) (t := kept) (y := "\n" ++ listTemplate) rfl rfl
      rw [List.append_assoc]
      exact congrArg leftOver? hpadded

end Around

end References
end WikiEntry
