import WikiEntry.Proofs.Region.Padding
import WikiEntry.Proofs.Region.Respacing
import WikiEntry.Rule.References

/-!
# Tags of the lists of footnotes

The tags of `references` elements that stand outside the ignored regions, in their order.  A list has an opening tag and a
closing one, or a tag that closes itself; how many closing tags are left over tells whether all lists are whole.
-/

namespace WikiEntry
namespace Region

/-!
# Words at a place
-/

section Spells

variable {p q : Pattern} {word word' : Text -> Prop} {t w : Text} {i : Nat}

theorem Spells.alt (hp : Spells p word) (hq : Spells q word') : Spells (.alt p q) fun w => word w ∨ word' w where
  plain := by
    rw [Pattern.hasPlainRounds, hp.plain, hq.plain]
    rfl
  sound := by
    intro s w s' h
    cases h with
    | altLeft h => exact Or.inl (hp.sound s w s' h)
    | altRight h => exact Or.inr (hq.sound s w s' h)
  complete := by
    intro k w v hw hrest
    rcases hw with hw | hw
    · exact (hp.complete k w v hw hrest).altLeft q
    · exact (hq.complete k w v hw hrest).altRight p

theorem Spells.exists_of_matchAt? (hp : Spells p word) (hi : i ≤ t.length) {m : Match}
    (hm : p.matchAt? (.ofPlace t i) = some m) : m.start = i ∧ exists u w v, t = u ++ (w ++ v) ∧ word w ∧ u.length = i ∧
      m.stop = i + w.length ∧ t.slice m.span = w := by
  rcases Pattern.matched_of_matchAt? hi hm with ⟨hstart, w, s, hmatched⟩
  refine ⟨hstart, t.take i, w, s.cursor.rest, ?_, hp.sound _ _ _ hmatched.reads, List.length_take_of_le hi, ?_,
    hmatched.slice_eq⟩
  · rw [← hmatched.rest_eq, hstart, List.take_append_drop]
  · rw [hmatched.stop_eq, hstart]

/-- A pattern reads at a place just the word that stands there. -/
theorem Spells.map_matchAt?_eq_some_iff (hp : Spells p word) (hd : Delimiting word) (hi : i ≤ t.length) :
    (p.matchAt? (.ofPlace t i)).map (fun m => t.slice m.span) = some w <->
      word w ∧ exists u v, t = u ++ (w ++ v) ∧ u.length = i := by
  constructor
  · intro h
    rcases Option.map_eq_some_iff.mp h with ⟨m, hm, rfl⟩
    rcases hp.exists_of_matchAt? hi hm with ⟨_, u, w, v, heq, hw, hu, _, hslice⟩
    rw [hslice]
    exact ⟨hw, u, v, heq, hu⟩
  · rintro ⟨hw, u, v, heq, hu⟩
    have hfound := hp.matchAt?_ne_none heq hw
    rw [hu] at hfound
    rcases Option.ne_none_iff_exists'.mp hfound with ⟨m, hm⟩
    rcases hp.exists_of_matchAt? hi hm with ⟨_, u', w', v', heq', hw', hu', _, hslice⟩
    -- Of two words at one place one is the beginning of the other.
    rw [hm, Option.map_some, hslice, Option.some.injEq]
    have hrest := (List.append_inj (heq.symm.trans heq') (hu.trans hu'.symm)).2
    rcases List.prefix_or_prefix_of_prefix (List.prefix_append w v) (hrest ▸ List.prefix_append w' v') with h | h
    · exact (hd.eq_of_begins w w' hw hw' h).symm
    · exact hd.eq_of_begins w' w hw' hw h

/-- Where no word begins inside another one, the walk through the text finds them all. -/
theorem Spells.exists_mem_matchesFrom (hp : Spells p word) (hd : Delimiting word)
    (hapart : forall u w v u' w' v', t = u ++ (w ++ v) -> t = u' ++ (w' ++ v') -> word w -> word w' ->
      u.length < u'.length -> u.length + w.length ≤ u'.length)
    {u v rest : Text} {before : Option Char} {place next : Nat} (last : Option Nat) (heq : t = u ++ (w ++ v)) (hw : word w)
    (hcursor : Cursor.ofPlace t place = ⟨before, place, rest⟩) (hplace : place ≤ u.length) (hnext : next ≤ u.length) :
    exists m, m ∈ p.matchesFrom before place next last rest ∧ m.start = u.length := by
  have hlength : u.length < t.length := by
    have hpositive := List.length_pos_of_ne_nil (hd.ne_nil w hw)
    rw [heq]
    simp only [List.length_append]
    omega
  induction rest generalizing before place next last with
  | nil =>
      have hend : t.length ≤ place := List.drop_eq_nil_iff.mp (congrArg Cursor.rest hcursor)
      omega
  | cons c r ih =>
      have hdrop : t.drop place = c :: r := congrArg Cursor.rest hcursor
      rw [Pattern.matchesFrom]
      rcases Nat.eq_or_lt_of_le hplace with heqPlace | hlt
      · have hfound := hp.matchAt?_ne_none heq hw
        rw [← heqPlace] at hfound
        rcases Option.ne_none_iff_exists'.mp hfound with ⟨m, hm⟩
        rcases hp.exists_of_matchAt? (by omega) hm with ⟨hstart, u', w', v', _, hw', _, hstop, _⟩
        rw [hcursor] at hm
        have hpositive := List.length_pos_of_ne_nil (hd.ne_nil w' hw')
        have hsize : (m.span.size == 0 && last == some place) = false := by
          have hne : m.span.size ≠ 0 := by
            show m.stop - m.start ≠ 0
            omega
          simp [hne]
        refine ⟨m, List.mem_append_left _ ?_, hstart.trans heqPlace⟩
        rw [if_neg (by omega), hm, Option.filter_some, hsize]
        simp
      · generalize hfound : (if place < next then none else Option.filter _ _) = found
        have hlater : (found.map Match.stop).getD next ≤ u.length := by
          cases found with
          | none => exact hnext
          | some m =>
              split at hfound
              · cases hfound
              · have hm := (Option.filter_eq_some_iff.mp hfound).1
                rw [← hcursor] at hm
                rcases hp.exists_of_matchAt? (by omega) hm with ⟨_, u', w', v', heq', hw', hu', hstop, _⟩
                rw [Option.map_some, Option.getD_some, hstop, ← hu']
                exact hapart u' w' v' u w v heq' heq hw' hw (by omega)
        rcases ih _ (Pattern.ofPlace_cons hdrop) hlt hlater with ⟨m, hm, hstart⟩
        exact ⟨m, List.mem_append_right _ hm, hstart⟩

end Spells

end Region

namespace References

open Region

/-!
# Tags
-/

/-- The tags of an element that lists footnotes. -/
def listTag : Pattern :=
  .alt (TagPattern.ofName "references").opening (TagPattern.ofName "references").closing

def IsListTag (w : Text) : Prop :=
  IsOpeningTag "references" w ∨ IsClosingTag "references" w

/-- The tag at a place, unless a region covers it. -/
def listTagAt? (regions : List Span) (t : Text) (i : Nat) : Option Text :=
  if covers regions i then none else (listTag.matchAt? (.ofPlace t i)).map fun m => t.slice m.span

def listTags (t : Text) : List Text :=
  (List.range t.length).filterMap (listTagAt? (ignored t) t)

/-- A tag stands at a place outside the ignored regions. -/
def TagAt (t : Text) (i : Nat) (w : Text) : Prop :=
  covers (ignored t) i = false ∧ IsListTag w ∧ exists u v, t = u ++ (w ++ v) ∧ u.length = i

/-- A tag without attributes, whether or not it closes itself. -/
def IsBareTag (w : Text) : Prop :=
  exists h m slash n, w = h ++ (List.replicate m ' ' ++ (slash ++ List.replicate n ' ') ++ ['>']) ∧
    InAnyCase "<references".toList h ∧ (slash = [] ∨ slash = ['/'])

/-- Whether the rule takes a tag. -/
def isTaken (w : Text) : Bool :=
  (Pattern.whole listElement).matchesIn w

section Tags

variable {t u v w h : Text} {i : Nat} {a c : Char}

/-- A small letter is told by the character that stands for it in any case. -/
theorem fold_eq_of_holds_anyCase (ha : a.isLower = true) (hc : (CharSet.anyCase (.char a)).holds c = true) :
    Chars.fold c = a := by
  rcases List.any_eq_true.mp hc with ⟨x, hx, heq⟩
  rw [← beq_iff_eq.mp heq] at hx
  exact Chars.fold_eq_of_mem_variants ha hx

/-- The second character of a tag tells opening tags from closing ones, and the names of elements. -/
theorem exists_second {head : Text} {edged : Bool} {inner : CharSet} (hw : IsTag ('<' :: a :: head) edged inner w) :
    exists c, w[1]? = some c ∧ (CharSet.anyCase (.char a)).holds c = true := by
  rcases hw with ⟨h, g, rfl, hh, _, _⟩
  cases hh with
  | cons _ hh =>
      cases hh with
      | @cons _ c _ _ hc _ => exact ⟨c, rfl, hc⟩

theorem not_begins_of_closing {name name' : Text} {x : Char} (hx : x.isLower = true) {w' : Text}
    (hw : IsOpeningTag (x :: name) w) (hw' : IsClosingTag name' w') : ¬ w <+: w' ∧ ¬ w' <+: w := by
  rcases exists_second hw with ⟨c, hc, hletter⟩
  rcases exists_second hw' with ⟨c', hc', hslash⟩
  have hc'' : c' = '/' := CharSet.eq_of_holds_anyCase (by decide) (by decide) (by decide) hslash
  have hne : c ≠ c' := by
    rintro rfl
    have hfold := fold_eq_of_holds_anyCase hx hletter
    rw [hc''] at hfold
    rw [← hfold] at hx
    cases hx
  constructor
  · rintro ⟨r, rfl⟩
    rw [List.getElem?_append_left (List.getElem?_eq_some_iff.mp hc).1, hc] at hc'
    exact hne (Option.some.inj hc')
  · rintro ⟨r, rfl⟩
    rw [List.getElem?_append_left (List.getElem?_eq_some_iff.mp hc').1, hc'] at hc
    exact hne (Option.some.inj hc).symm

theorem delimiting_isListTag : Delimiting IsListTag where
  ne_nil := by
    rintro w (hw | hw)
    · exact (delimiting_isOpeningTag _).ne_nil w hw
    · exact (delimiting_isClosingTag _).ne_nil w hw
  eq_of_begins := by
    rintro w w' (hw | hw) (hw' | hw') hbegins
    · exact (delimiting_isOpeningTag _).eq_of_begins w w' hw hw' hbegins
    · exact absurd hbegins (not_begins_of_closing (by decide) hw hw').1
    · exact absurd hbegins (not_begins_of_closing (by decide) hw' hw).2
    · exact (delimiting_isClosingTag _).eq_of_begins w w' hw hw' hbegins

theorem listTagAt?_eq_some_iff (hi : i ≤ t.length) : listTagAt? (ignored t) t i = some w <-> TagAt t i w := by
  rw [listTagAt?, TagAt]
  cases covers (ignored t) i with
  | true => simp
  | false =>
      rw [if_neg Bool.false_ne_true, eq_self_iff_true, true_and]
      exact ((spells_opening _).alt (spells_closing _)).map_matchAt?_eq_some_iff delimiting_isListTag hi

theorem eq_spaces_of_run {g : Text} (hg : forall c, c ∈ g -> (CharSet.anyCase (.char ' ')).holds c = true) :
    g = List.replicate g.length ' ' :=
  List.eq_replicate_iff.mpr ⟨rfl, fun c hc => CharSet.eq_of_holds_anyCase (by decide) (by decide) (by decide) (hg c hc)⟩

theorem spells_listElement : Spells listElement IsBareTag where
  plain := by decide
  sound := by
    intro s w s' hreads
    rcases hreads.seq_inv with ⟨w, z, _, rfl, hreads, hz⟩
    rcases hreads.seq_inv with ⟨w, y, _, rfl, hreads, hy⟩
    rcases hreads.seq_inv with ⟨w, x, _, rfl, hreads, hx⟩
    rcases hreads.seq_inv with ⟨h, g, _, rfl, hh, hg⟩
    refine ⟨h, g.length, x, y.length, ?_, inAnyCase_of_reads hh, ?_⟩
    · rw [← eq_spaces_of_run hg.run_inv.1, ← eq_spaces_of_run hy.run_inv.1, eq_of_reads_bracket hz]
      simp only [List.append_assoc]
    · cases hx with
      | run _ hslash _ hone =>
          have hlength := hone 1 rfl
          cases x with
          | nil => exact Or.inl rfl
          | cons c x =>
              have hc := CharSet.eq_of_holds_anyCase (by decide) (by decide) (by decide) (hslash c List.mem_cons_self)
              rw [List.length_cons] at hlength
              have hnil : x = [] := List.length_eq_zero_iff.mp (by omega)
              rw [hc, hnil]
              exact Or.inr rfl
  complete := by
    rintro k w v ⟨h, m, slash, n, rfl, hh, hslash⟩ hrest
    have hspaces : forall m c, c ∈ List.replicate m ' ' -> (CharSet.anyCase (.char ' ')).holds c = true := by
      intro m c hc
      rw [List.eq_of_mem_replicate hc]
      decide
    have hslashes : (forall c, c ∈ slash -> (CharSet.anyCase (.char '/')).holds c = true) ∧ slash.length ≤ 1 := by
      rcases hslash with rfl | rfl
      · exact ⟨List.forall_mem_nil _, Nat.zero_le _⟩
      · exact ⟨List.forall_mem_singleton.mpr (by decide), Nat.le_refl _⟩
    simp only [List.append_assoc] at hrest
    have hattributes := Cursor.rest_skip hrest
    have hend := Cursor.rest_skip hattributes
    have hbehind := Cursor.rest_skip hend
    have hbracket := Cursor.rest_skip hbehind
    have hslash : forall {k : Cursor} {r : Text}, k.rest = slash ++ r ->
        (Pattern.run true 0 (some 1) (CharSet.anyCase (.char '/'))).ReadsBetween k slash (k.skip slash) := by
      intro k r hrest
      refine (Pattern.Reads.run (s := ⟨k, []⟩) hrest hslashes.1 (Nat.zero_le _) ?_).readsBetween
      rintro _ ⟨⟩
      exact hslashes.2
    have hreads := ((((readsBetween_of_inAnyCase hh hrest).seq
      (Pattern.ReadsBetween.run false hattributes (hspaces m) (Nat.zero_le _))).seq (hslash hend)).seq
        (Pattern.ReadsBetween.run false hbehind (hspaces n) (Nat.zero_le _))).seq (readsBetween_bracket hbracket)
    simp only [Cursor.skip_append, List.append_assoc] at hreads ⊢
    exact hreads

theorem isTaken_iff : isTaken w = true <-> IsBareTag w := by
  rw [isTaken, Pattern.matchesIn]
  constructor
  · intro h
    rcases Option.isSome_iff_exists.mp h with ⟨m, hm⟩
    rcases Pattern.reads_of_find?_whole hm with ⟨s, hreads, _⟩
    exact spells_listElement.sound _ w s hreads
  · intro hw
    rcases spells_listElement.complete (.start w) w [] hw (List.append_nil w).symm [] with ⟨gs, hreads⟩
    exact Pattern.isSome_find?_whole spells_listElement.plain hreads

theorem getLast?_of_inAnyCase {l : Text} (hh : InAnyCase (l ++ [a]) h) :
    exists c, h.getLast? = some c ∧ (CharSet.anyCase (.char a)).holds c = true := by
  rcases hh.exists_append with ⟨x, y, rfl, _, hy⟩
  cases hy with
  | @cons _ c _ y hc hy =>
      cases hy
      exact ⟨c, List.getLast?_concat, hc⟩

theorem IsBareTag.exists_head (hw : IsBareTag w) : exists h g, w = h ++ (g ++ ['>']) ∧ InAnyCase "<references".toList h ∧
    forall c, c ∈ g -> c = ' ' ∨ c = '/' := by
  rcases hw with ⟨h, m, slash, n, rfl, hh, hslash⟩
  refine ⟨h, List.replicate m ' ' ++ (slash ++ List.replicate n ' '), rfl, hh, fun c hc => ?_⟩
  simp only [List.mem_append, List.mem_replicate] at hc
  rcases hc with ⟨_, rfl⟩ | hc | ⟨_, rfl⟩
  · exact Or.inl rfl
  · rcases hslash with rfl | rfl
    · cases hc
    · exact Or.inr (List.mem_singleton.mp hc)
  · exact Or.inl rfl

/-- A tag without attributes is an opening tag: what is behind the name begins no word. -/
theorem IsBareTag.isOpeningTag (hw : IsBareTag w) : IsOpeningTag "references" w := by
  rcases hw.exists_head with ⟨h, g, rfl, hh, hinner⟩
  refine ⟨h, g, rfl, hh, fun c hc => holds_noneOf_bracket ?_, fun _ => ?_⟩
  · rcases hinner c hc with rfl | rfl <;> decide
  · rcases getLast?_of_inAnyCase (l := "<reference".toList) hh with ⟨c, hlast, hc⟩
    have hword : Chars.isWord c = true :=
      Chars.isWord_of_fold_eq (by decide) (fold_eq_of_holds_anyCase (by decide) hc)
    have hnext : exists d, (g ++ ['>']).head? = some d ∧ Chars.isWord d = false := by
      cases g with
      | nil => exact ⟨'>', rfl, by decide⟩
      | cons d g =>
          refine ⟨d, rfl, ?_⟩
          rcases hinner d List.mem_cons_self with rfl | rfl <;> decide
    rcases hnext with ⟨d, hd, hnot⟩
    simp [Anchor.holds, WordTest.holds, Anchor.isWord, hlast, hd, hword, hnot]

end Tags

/-!
# Whole lists
-/

def isClosing (tag : Text) : Bool :=
  tag.startsWith "</"

/-- An opening tag without attributes, which the rule takes though the list that it opens goes on. -/
def opensTakenList (tag : Text) : Bool :=
  isTaken tag && !isSelfClosing tag

/-- How many closing tags are left over when each opening tag takes one of those behind it.  There are none to count if an
opening tag finds none. -/
def leftOver? : List Text -> Option Nat
  | [] => some 0
  | tag :: tags =>
      (leftOver? tags).bind fun n =>
        if isClosing tag then some (n + 1)
        else if isSelfClosing tag then some n
        else if n = 0 then none
        else some (n - 1)

section Lists

variable {tag : Text} {tags : List Text} {n : Nat}

theorem isClosing_of_isTaken (h : isTaken tag = true) : isClosing tag = false := by
  rcases exists_second (isTaken_iff.mp h).isOpeningTag with ⟨c, hc, hletter⟩
  refine Bool.eq_false_iff.mpr fun hclosing => ?_
  rcases List.isPrefixOf_iff_prefix.mp hclosing with ⟨r, rfl⟩
  cases hc
  exact absurd hletter (by decide)

/-- Without the tags that are taken, a closing tag is left over for each opening one among them. -/
theorem leftOver?_filter (h : leftOver? tags = some n) :
    leftOver? (tags.filter fun tag => !isTaken tag) = some (n + tags.countP opensTakenList) := by
  induction tags generalizing n with
  | nil =>
      cases h
      rfl
  | cons tag tags ih =>
      rw [leftOver?] at h
      rcases Option.bind_eq_some_iff.mp h with ⟨k, hk, h⟩
      have hrest := ih hk
      rw [List.countP_cons, opensTakenList]
      cases htaken : isTaken tag with
      | true =>
          rw [isClosing_of_isTaken htaken, if_neg Bool.false_ne_true] at h
          rw [List.filter_cons_of_neg (by simp [htaken]), hrest]
          cases hself : isSelfClosing tag with
          | true =>
              rw [hself, if_pos rfl] at h
              cases h
              rfl
          | false =>
              rw [hself, if_neg Bool.false_ne_true] at h
              split at h
              · cases h
              · cases h
                simp only [Bool.not_false, Bool.and_true, if_true]
                refine congrArg some ?_
                omega
      | false =>
          rw [List.filter_cons_of_pos (by simp [htaken]), leftOver?, hrest, Option.bind_some, Bool.false_and,
            if_neg Bool.false_ne_true, Nat.add_zero (tags.countP _)]
          by_cases hclosing : isClosing tag = true
          · rw [if_pos hclosing] at h ⊢
            cases h
            rw [Nat.add_right_comm]
          · rw [if_neg hclosing] at h ⊢
            by_cases hself : isSelfClosing tag = true
            · rw [if_pos hself] at h ⊢
              cases h
              rfl
            · rw [if_neg hself] at h ⊢
              split at h
              · cases h
              · cases h
                rw [if_neg (by omega), Nat.sub_add_comm (by omega)]

/-- A tag that closes itself is no matter. -/
theorem leftOver?_append_cons (hclosing : isClosing tag = false) (hself : isSelfClosing tag = true) (tags tags' : List Text) :
    leftOver? (tags ++ tag :: tags') = leftOver? (tags ++ tags') := by
  induction tags with
  | nil => simp [leftOver?, hclosing, hself]
  | cons x tags ih => rw [List.cons_append, List.cons_append, leftOver?, leftOver?, ih]

end Lists

end References
end WikiEntry
