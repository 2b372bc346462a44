import WikiEntry.Proofs.Template.PlainNames

/-!
# Templates that get another name

The plain name of a template is exchanged for another one.  All templates of the text remain, in their order and inside
each other as before, and so do their names but for the one that was exchanged.  Names are exchanged in many templates from
the last to the first, so that what stands in front of the next one is still the old text.
-/

namespace WikiEntry
namespace Template

open Region (Moved MovedSpan Neutral Inert)
open Text (plainName? endsName)

/-!
# One name
-/

/-- A name of a template: plain and not empty. -/
structure IsPlainName (w : Text) : Prop where
  ne_nil : w ≠ []
  plain : w.all isNameChar = true

section OneName

variable {a c w w' : Text}

theorem IsPlainName.braceless (hw : IsPlainName w) : Braceless w where
  ne_nil := hw.ne_nil
  plain ch hch := ⟨ne_of_mem_of_not_mem hch (not_mem_of_isNameChar hw.plain (by decide)),
    ne_of_mem_of_not_mem hch (not_mem_of_isNameChar hw.plain (by decide))⟩

/-- The braces in front of a name, the name, and the character behind it. -/
def opened (w : Text) (ch : Char) : Text :=
  '\x7b' :: '\x7b' :: (w ++ [ch])

theorem IsPlainName.inert_opened (hw : IsPlainName w) {ch : Char} (hch : ch = '|' ∨ ch = '\x7d') : Inert (opened w ch) := by
  have hangle : forall x, isNameChar x = false -> x ∉ ['\x7b', '|', '\x7d'] -> x ∉ opened w ch := by
    intro x hx hnot hmem
    have hname := not_mem_of_isNameChar hw.plain hx
    simp only [opened, List.mem_cons, List.mem_append, List.not_mem_nil, or_false, not_or] at hmem hnot
    rcases hmem with rfl | rfl | hmem | rfl
    · exact hnot.1 rfl
    · exact hnot.1 rfl
    · exact hname hmem
    · rcases hch with rfl | rfl
      · exact hnot.2.1 rfl
      · exact hnot.2.2 rfl
  refine ⟨⟨'\x7b', _, rfl, by decide, by decide, by decide⟩, ⟨'\x7b' :: '\x7b' :: w, ch, rfl, ?_⟩, ?_, ?_⟩
  · rcases hch with rfl | rfl <;> decide
  · exact hangle _ (by decide) (by decide)
  · exact hangle _ (by decide) (by decide)

/-- Plain names are exchanged without notice between the braces and the end of the name. -/
theorem IsPlainName.neutral (hw : IsPlainName w) (hw' : IsPlainName w') {ch : Char} (hch : ch = '|' ∨ ch = '\x7d') :
    Neutral a (opened w ch) (opened w' ch) c := by
  have hbrace : (CharSet.anyCase .blank).holds '\x7b' = false := by decide
  refine (hw.inert_opened hch).neutral (hw'.inert_opened hch) ?_ fun w₁ w₂ => ?_
  · simp only [opened, List.all_cons, hbrace, Bool.false_and]
  · have hbehind : forall w, Region.isSelfClosing (w₁ ++ (opened w ch ++ w₂)) = Region.isSelfClosing (ch :: w₂) := by
      intro w
      have hblank : Chars.isBlank ch = false ∧ ch ≠ '>' := by
        rcases hch with rfl | rfl <;> decide
      have heq : w₁ ++ (opened w ch ++ w₂) = (w₁ ++ '\x7b' :: '\x7b' :: w) ++ ch :: w₂ := by simp [opened]
      rw [heq]
      exact Region.isSelfClosing_behind hblank.1 hblank.2 _ _
    rw [hbehind, hbehind]

theorem MovedSpan.opened {s s' : Span} {ch : Char} (h : MovedSpan a (opened w ch) (opened w' ch) s s') :
    MovedSpan (a ++ ['\x7b', '\x7b']) w w' s s' := by
  have hlength : (a ++ ['\x7b', '\x7b']).length = a.length + 2 := by simp
  have hopened : forall w, (Template.opened w ch).length = w.length + 3 := by
    intro w
    simp [Template.opened]
  unfold MovedSpan Moved at h ⊢
  rw [hopened, hopened] at h
  omega

/-- The templates move along with the text when a name is exchanged. -/
theorem spans_renamed (hw : IsPlainName w) (hw' : IsPlainName w') (hc : endsName c = true) :
    List.Forall₂ (MovedSpan (a ++ ['\x7b', '\x7b']) w w') (spans ((a ++ ['\x7b', '\x7b']) ++ (w ++ c)))
      (spans ((a ++ ['\x7b', '\x7b']) ++ (w' ++ c))) := by
  have hfirst : exists ch z, c = ch :: z ∧ (ch = '|' ∨ ch = '\x7d') := by
    rcases Text.endsName_iff.mp hc with ⟨z, rfl⟩ | ⟨z, rfl⟩
    · exact ⟨'|', z, rfl, Or.inl rfl⟩
    · exact ⟨'\x7d', '\x7d' :: z, rfl, Or.inr rfl⟩
  rcases hfirst with ⟨ch, z, rfl, hch⟩
  have heq : forall w, (a ++ ['\x7b', '\x7b']) ++ (w ++ ch :: z) = a ++ (opened w ch ++ z) := by
    intro w
    simp [opened]
  refine spans_moved hw.braceless hw'.braceless _ _ ?_
  rw [heq, heq]
  exact (hw.neutral hw' hch).hidden_moved.imp fun _ _ h => MovedSpan.opened h

/-- The other templates keep their names. -/
theorem plainName?_renamed (hw : IsPlainName w) (hw' : IsPlainName w') (hc : endsName c = true) {s s' : Span}
    (hs : s ∈ spans ((a ++ ['\x7b', '\x7b']) ++ (w ++ c))) (hmoved : MovedSpan (a ++ ['\x7b', '\x7b']) w w' s s') :
    plainName? (((a ++ ['\x7b', '\x7b']) ++ (w' ++ c)).drop (s'.start + 2)) =
      if s.start = a.length then some w' else plainName? (((a ++ ['\x7b', '\x7b']) ++ (w ++ c)).drop (s.start + 2)) := by
  rcases exists_standsAt_of_mem_spans hs with ⟨_, _, _, hstands⟩
  rcases hstands.getElem?_eq with ⟨hfirst, hsecond, _, _⟩
  have hfirst := hw.braceless.outside hfirst (Or.inl rfl)
  have hsecond := hw.braceless.outside hsecond (Or.inl rfl)
  have hlength := List.length_pos_of_ne_nil hw.ne_nil
  have hfront : (a ++ ['\x7b', '\x7b']).length = a.length + 2 := by simp
  rcases hmoved.1 with ⟨hle, heq⟩ | ⟨hle, heq⟩
  · rw [heq]
    by_cases hplace : s.start = a.length
    · rw [if_pos hplace, hplace, ← hfront, List.drop_left]
      exact Text.plainName?_append hw'.plain hc
    · have hdrop : forall z, ((a ++ ['\x7b', '\x7b']) ++ z).drop (s.start + 2) =
          (a ++ ['\x7b']).drop (s.start + 2) ++ '\x7b' :: z := by
        intro z
        have heq : (a ++ ['\x7b', '\x7b']) ++ z = (a ++ ['\x7b']) ++ '\x7b' :: z := by simp
        rw [heq, List.drop_append_of_le_length]
        rw [List.length_append, List.length_singleton]
        omega
      rw [if_neg hplace, hdrop, hdrop]
      exact Text.plainName?_opening _ _ _
  · have hplace : s.start + 2 = (a ++ ['\x7b', '\x7b']).length + w.length + (s.start - a.length - w.length) := by omega
    have hplace' : s'.start + 2 = (a ++ ['\x7b', '\x7b']).length + w'.length + (s.start - a.length - w.length) := by omega
    rw [if_neg (by omega), hplace', hplace, Region.drop_behind, Region.drop_behind]

end OneName

/-!
# Many names
-/

def mapSpan (f : Nat -> Nat) (s : Span) : Span :=
  ⟨f s.start, f s.stop⟩

/-- The places where templates of a text begin and end. -/
def ends (t : Text) : List Nat :=
  (spans t).flatMap fun s => [s.start, s.stop]

/-- The templates at some places get a name, and the order of the places where templates begin and end stays. -/
def Renamed (places : List Nat) (name t t' : Text) : Prop :=
  exists f : Nat -> Nat, (forall x y, x ∈ ends t -> y ∈ ends t -> (x < y <-> f x < f y)) ∧
    named t' = (named t).map fun x => (mapSpan f x.1, if x.1.start ∈ places then some name else x.2)

/-- Where the places of a text go when `b` behind `a` is replaced by `b'`. -/
def moveTo (a b b' : Text) (x : Nat) : Nat :=
  if x ≤ a.length then x else x + b'.length - b.length

theorem eq_moveTo_of_moved {a b b' : Text} (hb : b ≠ []) {x x' : Nat} (h : Moved a b b' x x') : x' = moveTo a b b' x := by
  have hlength := List.length_pos_of_ne_nil hb
  rw [moveTo]
  rcases h with ⟨hle, heq⟩ | ⟨hle, heq⟩
  · rw [if_pos hle, heq]
  · rw [if_neg (by omega)]
    omega

theorem map_eq_of_forall₂ {α β γ : Type} {related : α -> β -> Prop} {f : α -> γ} {g : β -> γ} {xs : List α} {ys : List β}
    (h : List.Forall₂ related xs ys) (hsame : forall x y, x ∈ xs -> related x y -> g y = f x) : ys.map g = xs.map f := by
  induction h with
  | nil => rfl
  | cons hxy _ ih =>
      rw [List.map_cons, List.map_cons, hsame _ _ List.mem_cons_self hxy, ih fun x y hx => hsame x y (List.mem_cons_of_mem _ hx)]

theorem movedSpan_mapSpan {a b b' : Text} (hb : b ≠ []) {l l' : List Span} (h : List.Forall₂ (MovedSpan a b b') l l')
    {s : Span} (hs : s ∈ l) : MovedSpan a b b' s (mapSpan (moveTo a b b') s) := by
  induction h with
  | nil => cases hs
  | @cons u u' l l' hu _ ih =>
      rcases List.mem_cons.mp hs with rfl | hs
      · rcases hu with ⟨hstart, hstop⟩
        rw [eq_moveTo_of_moved hb hstart] at hstart
        rw [eq_moveTo_of_moved hb hstop] at hstop
        exact ⟨hstart, hstop⟩
      · exact ih hs

theorem spans_eq_map_named (t : Text) : spans t = (named t).map Prod.fst := by
  rw [named, List.map_map]
  exact (List.map_id _).symm

section ManyNames

variable {a c w name t t' : Text} {places : List Nat}

theorem named_renamed (hw : IsPlainName w) (hname : IsPlainName name) (hc : endsName c = true) :
    named ((a ++ ['\x7b', '\x7b']) ++ (name ++ c)) =
      (named ((a ++ ['\x7b', '\x7b']) ++ (w ++ c))).map fun x =>
        (mapSpan (moveTo (a ++ ['\x7b', '\x7b']) w name) x.1, if x.1.start = a.length then some name else x.2) := by
  rw [named, named, List.map_map]
  refine map_eq_of_forall₂ (spans_renamed hw hname hc) fun s s' hs hmoved => ?_
  rw [plainName?_renamed hw hname hc hs hmoved, Function.comp, mapSpan, ← eq_moveTo_of_moved hw.ne_nil hmoved.1,
    ← eq_moveTo_of_moved hw.ne_nil hmoved.2]

theorem ends_of_named_eq {f : Nat -> Nat} {g : Span × Option Text -> Option Text}
    (h : named t' = (named t).map fun x => (mapSpan f x.1, g x)) : ends t' = (ends t).map f := by
  rw [ends, ends, spans_eq_map_named, spans_eq_map_named, h, List.map_map, List.map_flatMap, List.flatMap_map,
    List.flatMap_map]
  rfl

theorem moved_moveTo_of_mem_ends (hw : IsPlainName w) (hname : IsPlainName name) (hc : endsName c = true) {x : Nat}
    (hx : x ∈ ends ((a ++ ['\x7b', '\x7b']) ++ (w ++ c))) :
    Moved (a ++ ['\x7b', '\x7b']) w name x (moveTo (a ++ ['\x7b', '\x7b']) w name x) := by
  rcases List.mem_flatMap.mp hx with ⟨s, hs, hx⟩
  have hmoved := movedSpan_mapSpan hw.ne_nil (spans_renamed hw hname hc) hs
  rw [List.mem_cons, List.mem_singleton] at hx
  rcases hx with rfl | rfl
  · exact hmoved.1
  · exact hmoved.2

/-- A name is exchanged, and then others in front of it. -/
theorem renamed_step (hw : IsPlainName w) (hname : IsPlainName name) (hc : endsName c = true)
    (hplaces : forall place, place ∈ places -> place < a.length)
    (h : Renamed places name ((a ++ ['\x7b', '\x7b']) ++ (name ++ c)) t') :
    Renamed (places ++ [a.length]) name ((a ++ ['\x7b', '\x7b']) ++ (w ++ c)) t' := by
  have hfront : (a ++ ['\x7b', '\x7b']).length = a.length + 2 := by simp
  have hone := named_renamed hw hname hc (a := a)
  have hends := ends_of_named_eq hone
  have hmoved := fun x => moved_moveTo_of_mem_ends hw hname hc (a := a) (x := x)
  generalize moveTo (a ++ ['\x7b', '\x7b']) w name = g at hone hends hmoved
  rcases h with ⟨f, horder, hnamed⟩
  refine ⟨fun x => f (g x), fun x y hx hy => ?_, ?_⟩
  · have hle := (hmoved y hy).le_iff hw.ne_nil hname.ne_nil (hmoved x hx)
    have hx' : g x ∈ ends ((a ++ ['\x7b', '\x7b']) ++ (name ++ c)) := hends ▸ List.mem_map_of_mem hx
    have hy' : g y ∈ ends ((a ++ ['\x7b', '\x7b']) ++ (name ++ c)) := hends ▸ List.mem_map_of_mem hy
    rw [← horder _ _ hx' hy']
    omega
  · rw [hnamed, hone, List.map_map]
    refine List.map_congr_left fun x hx => ?_
    have hstart : x.1.start ∈ ends ((a ++ ['\x7b', '\x7b']) ++ (w ++ c)) := by
      rw [ends, spans_eq_map_named]
      exact List.mem_flatMap.mpr ⟨x.1, List.mem_map_of_mem hx, List.mem_cons_self⟩
    have hsame : g x.1.start ∈ places <-> x.1.start ∈ places := by
      have hlength := List.length_pos_of_ne_nil hw.ne_nil
      rcases hmoved _ hstart with ⟨_, heq⟩ | ⟨hle, heq⟩
      · rw [heq]
      · refine iff_of_false (fun hmem => ?_) fun hmem => ?_
        · have hlt := hplaces _ hmem
          omega
        · have hlt := hplaces _ hmem
          omega
    simp only [Function.comp, mapSpan, hsame, List.mem_append, List.mem_singleton]
    by_cases hmem : x.1.start ∈ places
    · rw [if_pos hmem, if_pos (Or.inl hmem)]
    · rw [if_neg hmem]
      simp only [hmem, false_or]

/-- The edit puts the name in the place of a plain one, and leaves the rest of the template. -/
structure NamesAnew (name t : Text) (e : Edit) (w rest : Text) : Prop where
  isPlainName : IsPlainName w
  endsName : endsName rest = true
  stop_le : e.span.stop ≤ t.length
  slice_eq : t.slice e.span = '\x7b' :: '\x7b' :: (w ++ rest)
  text_eq : e.text = '\x7b' :: '\x7b' :: (name ++ rest)

theorem NamesAnew.start_lt_stop {e : Edit} {rest : Text} (h : NamesAnew name t e w rest) : e.span.start < e.span.stop := by
  have hlength := congrArg List.length h.slice_eq
  have hsize : (t.slice e.span).length ≤ e.span.stop - e.span.start := List.length_take_le _ _
  rw [List.length_cons] at hlength
  omega

theorem endsName_append {r : Text} (hr : endsName r = true) (z : Text) : endsName (r ++ z) = true := by
  rcases Text.endsName_iff.mp hr with ⟨y, rfl⟩ | ⟨y, rfl⟩
  · exact Text.endsName_iff.mpr (Or.inl ⟨y ++ z, rfl⟩)
  · exact Text.endsName_iff.mpr (Or.inr ⟨y ++ z, rfl⟩)

/-- Edits of names, each of its own template, leave the templates where they are and give them the name. -/
theorem renamed_applyAll (hname : IsPlainName name) {edits : List Edit} (horder : Edit.InOrder 0 edits)
    (hedits : forall e, e ∈ edits -> exists w rest, NamesAnew name t e w rest) :
    Renamed (edits.map (·.span.start)) name t (Edit.applyAll t edits) := by
  -- The last edit comes first, so that the text in front of it, where the others are, is still the old one.
  induction edits using List.reverseRecOn generalizing t with
  | nil =>
      refine ⟨id, fun x y _ _ => Iff.rfl, ?_⟩
      simp [Edit.applyAll, Edit.applyFrom, mapSpan]
  | append_singleton edits e ih =>
      rcases Edit.inOrder_concat horder with ⟨hothers, hfront, _, hspan⟩
      rcases hedits e (by simp) with ⟨w, rest, hw, hrest, hstop, hslice, htext⟩
      have hstart : e.span.start ≤ t.length := hspan.trans hstop
      have ht : t = (t.take e.span.start ++ ['\x7b', '\x7b']) ++ (w ++ (rest ++ t.drop e.span.stop)) := by
        have happend := Edit.drop_eq_append (t := t) (Nat.zero_le _) hspan
        rw [List.drop_zero, Nat.sub_zero, hslice] at happend
        simpa using happend
      have hnew : t.take e.span.start ++ (e.text ++ t.drop e.span.stop) =
          (t.take e.span.start ++ ['\x7b', '\x7b']) ++ (name ++ (rest ++ t.drop e.span.stop)) := by
        rw [htext]
        simp
      have hlength : (t.take e.span.start).length = e.span.start := by
        rw [List.length_take, Nat.min_eq_left hstart]
      have hedits' : forall e', e' ∈ edits -> exists w rest,
          NamesAnew name (t.take e.span.start ++ (e.text ++ t.drop e.span.stop)) e' w rest := by
        intro e' he'
        rcases hedits e' (List.mem_append_left _ he') with ⟨w', rest', hw', hrest', _, hslice', htext'⟩
        have hle : e'.span.stop ≤ (t.take e.span.start).length := by
          rw [hlength]
          exact hfront e' he'
        refine ⟨w', rest', hw', hrest', ?_, ?_, htext'⟩
        · rw [List.length_append]
          exact hle.trans (Nat.le_add_right _ _)
        · rw [Region.slice_append_left hle, ← hslice']
          conv_rhs => rw [← List.take_append_drop e.span.start t, Region.slice_append_left hle]
      have hrenamed := ih hothers hedits'
      rw [Edit.applyAll_concat horder hstart, List.map_append, List.map_singleton]
      rw [hnew] at hrenamed ⊢
      have hplaces : forall place, place ∈ edits.map (·.span.start) -> place < (t.take e.span.start).length := by
        intro place hplace
        rcases List.mem_map.mp hplace with ⟨e', he', rfl⟩
        rcases hedits e' (List.mem_append_left _ he') with ⟨_, _, hanew⟩
        rw [hlength]
        exact hanew.start_lt_stop.trans_le (hfront e' he')
      have hstep := renamed_step hw hname (endsName_append hrest _) hplaces hrenamed
      rwa [← ht, hlength] at hstep

end ManyNames

end Template
end WikiEntry
