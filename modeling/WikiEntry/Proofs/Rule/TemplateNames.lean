import WikiEntry.Rule.All
import WikiEntry.Proofs.Page.WellFormed
import WikiEntry.Proofs.Rule.Outcome
import WikiEntry.Proofs.Template.Renamed

/-!
# Templates that go by another name

The rule takes the redirects one after the other, and renames the templates that go by the old name from the left, without
looking into a template that it renames.  A redirect does not bring up a name that another one is for, so that what is left of
the old names in the end are just the templates that lie inside one with the same old name.
-/

namespace WikiEntry

/-!
# Compared names
-/

namespace Template

/-- The characters that no plain name has. -/
def markup : Text :=
  ['\x7b', '\x7d', '[', ']', '|', '=', '<', '>']

theorem mem_markup {ch : Char} (h : isNameChar ch = false) : ch ∈ markup := by
  rw [isNameChar, Bool.and_eq_false_iff] at h
  rcases h with h | h
  · rw [Bool.not_eq_false', isDelimiter, List.contains_iff_mem] at h
    simp only [markup, List.mem_cons, List.not_mem_nil, or_false] at h ⊢
    tauto
  · have heq : ch = '>' := by simpa using h
    rw [heq]
    decide

/-- The form in which names are compared keeps all markup. -/
theorem mem_nameForm {name : Text} {ch : Char} (h : ch ∈ name) (hch : ch ∈ markup) : ch ∈ nameForm name := by
  have hall : markup.all (fun ch => !Chars.isBlank ch && ch != '_' && ch != ' ' && ch.toNat < 128 && ch.toLower == ch) =
      true := by
    decide
  have hletters := List.all_eq_true.mp hall ch hch
  simp only [Bool.and_eq_true, Bool.not_eq_true', bne_iff_ne, beq_iff_eq, decide_eq_true_eq] at hletters
  rcases hletters with ⟨⟨⟨⟨hblank, hunderscore⟩, hspace⟩, hascii⟩, hlower⟩
  have hspaced : ch ∈ name.trim.map fun c => if c = '_' then ' ' else c :=
    List.mem_map.mpr ⟨ch, Text.mem_trimBy h hblank, if_neg hunderscore⟩
  have hjoined : ch ∈ Text.joinWith " " ((Text.splitOn (name.trim.map fun c => if c = '_' then ' ' else c) " ").filter
      (!·.isEmpty)) := by
    have hsame := Text.joinWith_splitOn (t := name.trim.map fun c => if c = '_' then ' ' else c) (p := " ") (by simp)
    rw [← hsame] at hspaced
    rcases Text.mem_of_mem_joinWith hspaced with hsep | ⟨u, hu, hmem⟩
    · exact absurd (List.mem_singleton.mp hsep) hspace
    · refine Text.mem_joinWith (List.mem_filter.mpr ⟨hu, ?_⟩) hmem
      cases u with
      | nil => cases hmem
      | cons c u => rfl
  rw [nameForm]
  split
  · rename_i hnil
    rw [hnil] at hjoined
    cases hjoined
  · rename_i c r hcons
    rw [hcons] at hjoined
    rcases List.mem_cons.mp hjoined with rfl | hrest
    · rw [Chars.lower, if_pos hascii, hlower]
      exact List.mem_cons_self
    · exact List.mem_append_right _ hrest

theorem isPlainName_of_nameForm {v old : Text} (hold : nameForm old ≠ []) (hplain : (nameForm old).all isNameChar = true)
    (h : nameForm v = nameForm old) : IsPlainName v where
  ne_nil := by
    rintro rfl
    exact hold (h.symm.trans (by decide))
  plain := by
    refine List.all_eq_true.mpr fun ch hch => ?_
    by_contra hnot
    have hmem := mem_nameForm hch (mem_markup (Bool.not_eq_true _ ▸ hnot))
    rw [h] at hmem
    exact hnot (List.all_eq_true.mp hplain ch hmem)

end Template

namespace TemplateNames

open Template

/-!
# Old names
-/

/-- A template goes by the old name of a redirect, in any of its forms, and not by the name that is used instead. -/
def IsStale (r : Text × Text) (u : Template) : Prop :=
  u.isNamed r.1 = true ∧ u.trimmedName ≠ r.2

/-- The template at a span goes by an old name. -/
def StaleAt (t : Text) (r : Text × Text) (s : Span) : Prop :=
  exists u, (s, u) ∈ located t ∧ IsStale r u

/-- A plain name that is an old one. -/
def IsOldName (r : Text × Text) (v : Text) : Prop :=
  nameForm v = nameForm r.1 ∧ v.trim ≠ r.2

/-- A redirect from a plain name to another one. -/
structure IsRedirect (r : Text × Text) : Prop where
  ne_nil : nameForm r.1 ≠ []
  plain : (nameForm r.1).all isNameChar = true
  isPlainName : IsPlainName r.2
  trim_eq : r.2.trim = r.2

section Stale

variable {r : Text × Text} {t : Text} {s : Span} {u : Template} {x : Span × Option Text}

theorem isStale_iff : IsStale r u <-> IsOldName r u.name := by
  rw [IsStale, IsOldName, isNamed, beq_iff_eq]
  rfl

theorem IsOldName.isPlainName {v : Text} (hr : IsRedirect r) (h : IsOldName r v) : IsPlainName v :=
  isPlainName_of_nameForm hr.ne_nil hr.plain h.1

/-- Old names are plain, so that they are read off the text. -/
theorem staleAt_iff (hr : IsRedirect r) : StaleAt t r s <-> exists v, (s, some v) ∈ named t ∧ IsOldName r v := by
  rw [← (map_located t).2]
  constructor
  · rintro ⟨u, hu, hstale⟩
    have hold := isStale_iff.mp hstale
    refine ⟨u.name, List.mem_map.mpr ⟨(s, u), hu, ?_⟩, hold⟩
    rw [Text.plain?, if_pos (hold.isPlainName hr).plain]
  · rintro ⟨v, hv, hold⟩
    rcases List.mem_map.mp hv with ⟨⟨s', u⟩, hu, heq⟩
    rcases Prod.mk.inj heq with ⟨rfl, hname⟩
    rw [Text.plain?] at hname
    split at hname
    · exact ⟨u, hu, isStale_iff.mpr (Option.some.inj hname ▸ hold)⟩
    · cases hname

/-- The templates of a text begin at different places. -/
theorem plainName_of_mem_named (hx : x ∈ named t) : x.2 = Text.plainName? (t.drop (x.1.start + 2)) := by
  rcases List.mem_map.mp hx with ⟨s, _, rfl⟩
  rfl

end Stale

/-!
# One redirect
-/

/-- The new text of a template, if it goes by the old name. -/
def renamed? (r : Text × Text) (u : Template) : Option Text :=
  if u.isNamed r.1 then (if u.trimmedName == r.2 then none else some (u.setName r.2).render) else none

/-- The edits by which the templates with an old name are renamed. -/
def renames (r : Text × Text) (t : Text) : List Edit :=
  (editsWith (fun _ u => (renamed? r u, ())) () 0 (located t)).1

section Renames

variable {r : Text × Text} {t text : Text} {s : Span} {u : Template} {e : Edit}

theorem renamed?_eq_some_iff : renamed? r u = some text <-> IsStale r u ∧ text = (u.setName r.2).render := by
  rw [renamed?, IsStale]
  split
  · rename_i hnamed
    split
    · rename_i hname
      exact iff_of_false nofun fun h => h.1.2 (eq_of_beq hname)
    · rename_i hname
      rw [Option.some.injEq, eq_comm (a := text)]
      exact ⟨fun h => ⟨⟨hnamed, fun heq => hname (beq_iff_eq.mpr heq)⟩, h⟩, fun h => h.2⟩
  · rename_i hnamed
    exact iff_of_false nofun fun h => hnamed h.1.1

theorem inOrder_renames (r : Text × Text) (t : Text) : Edit.InOrder 0 (renames r t) :=
  inOrder_editsWith (fun _ hx => (within_of_mem_spansFrom (of_mem_located hx).1).start_lt_stop.le) () 0

theorem staleAt_of_mem_renames (he : e ∈ renames r t) : StaleAt t r e.span := by
  rcases of_mem_editsWith he with ⟨_, u, hu, hanswer⟩
  exact ⟨u, hu, (renamed?_eq_some_iff.mp hanswer).1⟩

theorem namesAnew_of_mem_renames (hr : IsRedirect r) (he : e ∈ renames r t) :
    exists w rest, NamesAnew r.2 t e w rest := by
  rcases of_mem_editsWith he with ⟨_, u, hu, hanswer⟩
  rcases renamed?_eq_some_iff.mp hanswer with ⟨hstale, htext⟩
  rcases of_mem_located hu with ⟨hs, hrender⟩
  have hends : Text.endsName (u.params.flatMap Param.render ++ ['\x7d', '\x7d']) = true := by
    cases u.params with
    | nil => rfl
    | cons p ps =>
        rw [List.flatMap_cons, p.render_eq]
        rfl
  have hstop := (within_of_mem_spansFrom hs).le_last
  rw [Nat.zero_add] at hstop
  refine ⟨u.name, _, (isStale_iff.mp hstale).isPlainName hr, hends, hstop, ?_, ?_⟩
  · rw [← hrender, render_eq_inBraces, inBraces, List.append_assoc]
  · rw [htext, render_eq_inBraces, inBraces, List.append_assoc]
    rfl

/-- A template is edited if the replacer answers it, unless it lies inside an edited one. -/
theorem exists_edit_of_mem {f : Template -> Option Text} {found : List (Span × Template)} (next : Nat)
    (hfound : found.Pairwise fun x y => x.1.start < y.1.start) (hx : (s, u) ∈ found) (hanswer : f u = some text) :
    s.start < next ∨ exists e, e ∈ (editsWith (fun _ u => (f u, ())) () next found).1 ∧
      (e.span = s ∨ e.span.start < s.start ∧ s.start < e.span.stop) := by
  induction found generalizing next with
  | nil => cases hx
  | cons x found ih =>
      rcases x with ⟨s', u'⟩
      rcases List.pairwise_cons.mp hfound with ⟨hfirst, hrest⟩
      rw [editsWith]
      rcases List.mem_cons.mp hx with heq | hx
      · cases heq
        by_cases hnext : s.start < next
        · exact Or.inl hnext
        · rw [if_neg hnext, hanswer]
          exact Or.inr ⟨_, List.mem_cons_self, Or.inl rfl⟩
      · have hlt := hfirst _ hx
        split
        · exact ih next hrest hx
        · cases hf : f u' with
          | none => exact ih next hrest hx
          | some text' =>
              right
              rcases ih s'.stop hrest hx with hinside | ⟨e, he, hcase⟩
              · exact ⟨⟨s', text'⟩, List.mem_cons_self, Or.inr ⟨hlt, hinside⟩⟩
              · exact ⟨e, List.mem_cons_of_mem _ he, hcase⟩

theorem exists_rename_of_staleAt (h : StaleAt t r s) :
    exists e, e ∈ renames r t ∧ (e.span = s ∨ e.span.start < s.start ∧ s.start < e.span.stop) := by
  rcases h with ⟨u, hu, hstale⟩
  have hpairwise : (located t).Pairwise fun x y => x.1.start < y.1.start := by
    have hspans := pairwise_spansFrom (Region.hidden t) (t.length + 1) 0 t
    rw [← spans, ← (map_located t).1, List.pairwise_map] at hspans
    exact hspans.imp fun h => h.start_lt
  rcases exists_edit_of_mem 0 hpairwise hu (renamed?_eq_some_iff.mpr ⟨hstale, rfl⟩) with hlt | hedit
  · cases hlt
  · exact hedit

theorem renamed_rename (hr : IsRedirect r) (t : Text) :
    Renamed ((renames r t).map (·.span.start)) r.2 t (rename t r.1 r.2) :=
  renamed_applyAll hr.isPlainName (inOrder_renames r t) fun _ he => namesAnew_of_mem_renames hr he

end Renames

/-!
# What is left of an old name
-/

/-- A template with an old name lies inside another one with the same old name. -/
def NestsStale (t : Text) (r : Text × Text) : Prop :=
  exists s s', StaleAt t r s ∧ StaleAt t r s' ∧ s.start < s'.start ∧ s'.stop ≤ s.stop

/-- The first redirect renames no template that goes by the old name of the second one, and brings up none. -/
structure Apart (r r' : Text × Text) : Prop where
  form_ne : nameForm r.1 ≠ nameForm r'.1
  name_eq : nameForm r.2 = nameForm r'.1 -> r.2 = r'.2

section Left

variable {r r' : Text × Text} {t t' : Text} {s s' : Span} {f : Nat -> Nat}

theorem StaleAt.mem_spans (h : StaleAt t r s) : s ∈ spans t :=
  (of_mem_located h.choose_spec.1).1

theorem start_mem_ends (hs : s ∈ spans t) : s.start ∈ ends t :=
  List.mem_flatMap.mpr ⟨s, hs, by simp⟩

theorem stop_mem_ends (hs : s ∈ spans t) : s.stop ∈ ends t :=
  List.mem_flatMap.mpr ⟨s, hs, by simp⟩

/-- The old names behind a redirect that brings up none are those in front of it, in templates that are not renamed. -/
theorem staleAt_renamed_iff (hr' : IsRedirect r') (hnew : ¬ IsOldName r' r.2) {places : List Nat}
    (h : named t' = (named t).map fun x => (mapSpan f x.1, if x.1.start ∈ places then some r.2 else x.2)) (s' : Span) :
    StaleAt t' r' s' <-> exists s, StaleAt t r' s ∧ s.start ∉ places ∧ s' = mapSpan f s := by
  rw [staleAt_iff hr', h]
  constructor
  · rintro ⟨v, hv, hold⟩
    rcases List.mem_map.mp hv with ⟨⟨s, n⟩, hmem, heq⟩
    rcases Prod.mk.inj heq with ⟨rfl, hname⟩
    dsimp only at hname
    split at hname
    · cases hname
      exact absurd hold hnew
    · rename_i hplace
      exact ⟨s, (staleAt_iff hr').mpr ⟨v, hname ▸ hmem, hold⟩, hplace, rfl⟩
  · rintro ⟨s, hs, hplace, rfl⟩
    rcases (staleAt_iff hr').mp hs with ⟨v, hv, hold⟩
    exact ⟨v, List.mem_map.mpr ⟨(s, some v), hv, by rw [if_neg hplace]⟩, hold⟩

/-- A template does not go by two old names. -/
theorem start_not_mem_places (hr : IsRedirect r) (hr' : IsRedirect r') (hapart : Apart r r') (hs : StaleAt t r' s) :
    s.start ∉ (renames r t).map (·.span.start) := by
  intro hmem
  rcases List.mem_map.mp hmem with ⟨e, he, hstart⟩
  rcases (staleAt_iff hr).mp (staleAt_of_mem_renames he) with ⟨v, hv, hold⟩
  rcases (staleAt_iff hr').mp hs with ⟨v', hv', hold'⟩
  have hname := plainName_of_mem_named hv
  have hname' := plainName_of_mem_named hv'
  dsimp only at hname hname' hstart
  rw [hstart, ← hname', Option.some.injEq] at hname
  exact hapart.form_ne (hold.1.symm.trans (hname ▸ hold'.1))

theorem not_isOldName_of_apart (hr : IsRedirect r) (hapart : Apart r r') : ¬ IsOldName r' r.2 := by
  rintro ⟨hform, hne⟩
  exact hne (hr.trim_eq.trans (hapart.name_eq hform))

/-- A redirect leaves the old names of the others. -/
theorem staleAt_rename_of_apart (hr : IsRedirect r) (hr' : IsRedirect r') (hapart : Apart r r') (t : Text) :
    ((exists s, StaleAt (rename t r.1 r.2) r' s) <-> exists s, StaleAt t r' s) ∧
      (NestsStale (rename t r.1 r.2) r' <-> NestsStale t r') := by
  rcases renamed_rename hr t with ⟨f, horder, hnamed⟩
  have hiff : forall {s'}, StaleAt (rename t r.1 r.2) r' s' <-> exists s, StaleAt t r' s ∧ s' = mapSpan f s := by
    intro s'
    rw [staleAt_renamed_iff hr' (not_isOldName_of_apart hr hapart) hnamed s']
    constructor
    · rintro ⟨s, hs, _, heq⟩
      exact ⟨s, hs, heq⟩
    · rintro ⟨s, hs, heq⟩
      exact ⟨s, hs, start_not_mem_places hr hr' hapart hs, heq⟩
  have hinside : forall {s u}, StaleAt t r' s -> StaleAt t r' u ->
      ((mapSpan f s).start < (mapSpan f u).start ∧ (mapSpan f u).stop ≤ (mapSpan f s).stop <->
        s.start < u.start ∧ u.stop ≤ s.stop) := by
    intro s u hs hu
    have hstart := horder _ _ (start_mem_ends hs.mem_spans) (start_mem_ends hu.mem_spans)
    have hstop := horder _ _ (stop_mem_ends hs.mem_spans) (stop_mem_ends hu.mem_spans)
    simp only [mapSpan]
    omega
  constructor
  · constructor
    · rintro ⟨s', hs'⟩
      rcases hiff.mp hs' with ⟨s, hs, _⟩
      exact ⟨s, hs⟩
    · rintro ⟨s, hs⟩
      exact ⟨mapSpan f s, hiff.mpr ⟨s, hs, rfl⟩⟩
  · constructor
    · rintro ⟨s', u', hs', hu', hin⟩
      rcases hiff.mp hs' with ⟨s, hs, rfl⟩
      rcases hiff.mp hu' with ⟨u, hu, rfl⟩
      exact ⟨s, u, hs, hu, (hinside hs hu).mp hin⟩
    · rintro ⟨s, u, hs, hu, hin⟩
      exact ⟨_, _, hiff.mpr ⟨s, hs, rfl⟩, hiff.mpr ⟨u, hu, rfl⟩, (hinside hs hu).mpr hin⟩

/-- What a redirect leaves of its old name are the templates inside one with that name. -/
theorem staleAt_rename_iff (hr : IsRedirect r) (t : Text) :
    (exists s, StaleAt (rename t r.1 r.2) r s) <-> NestsStale t r := by
  rcases renamed_rename hr t with ⟨f, _, hnamed⟩
  have hnew : ¬ IsOldName r r.2 := fun h => h.2 hr.trim_eq
  have hiff := staleAt_renamed_iff hr hnew hnamed
  have hplace : forall {s}, StaleAt t r s -> s.start ∈ (renames r t).map (·.span.start) ->
      exists e, e ∈ renames r t ∧ e.span = s := by
    intro s hs hmem
    rcases List.mem_map.mp hmem with ⟨e, he, hstart⟩
    exact ⟨e, he, eq_of_start_eq (staleAt_of_mem_renames he).mem_spans hs.mem_spans hstart⟩
  constructor
  · rintro ⟨s', hs'⟩
    rcases (hiff s').mp hs' with ⟨s, hs, hnot, rfl⟩
    rcases exists_rename_of_staleAt hs with ⟨e, he, rfl | ⟨hlt, hinside⟩⟩
    · exact absurd (List.mem_map_of_mem he) hnot
    · have hold := staleAt_of_mem_renames he
      refine ⟨e.span, s, hold, hs, hlt, ?_⟩
      rcases eq_or_follows hold.mem_spans hs.mem_spans with rfl | hfollows | hfollows
      · exact Nat.le_refl _
      · exact hfollows.apart.resolve_left (Nat.not_le.mpr hinside)
      · exact absurd hfollows.start_lt (Nat.not_lt.mpr hlt.le)
  · rintro ⟨s, u, hs, hu, hlt, hstop⟩
    -- Of two templates inside each other not both are renamed.
    by_cases hmem : u.start ∈ (renames r t).map (·.span.start)
    · refine ⟨mapSpan f s, (hiff _).mpr ⟨s, hs, fun hmem' => ?_, rfl⟩⟩
      rcases hplace hu hmem with ⟨e', he', rfl⟩
      rcases hplace hs hmem' with ⟨e, he, rfl⟩
      have hapart := (inOrder_renames r t).stop_le he he' hlt
      have hlength := (within_of_mem_spansFrom hu.mem_spans).start_lt_stop
      omega
    · exact ⟨mapSpan f u, (hiff _).mpr ⟨u, hu, hmem, rfl⟩⟩

end Left

/-!
# Blanks at the end
-/

/-- The blanks at the end of a text. -/
def trailingBlanks (t : Text) : Text :=
  (t.reverse.takeWhile Chars.isBlank).reverse

section Blanks

variable {t : Text}

/-- A text ends with a character that is no blank. -/
def EndsVisibly (t : Text) : Prop :=
  exists x ch, t = x ++ [ch] ∧ Chars.isBlank ch = false

theorem trailingBlanks_append {x : Text} (hx : EndsVisibly x) (y : Text) : trailingBlanks (x ++ y) = trailingBlanks y := by
  rcases hx with ⟨x, ch, rfl, hch⟩
  have hnone : (ch :: x.reverse).takeWhile Chars.isBlank = [] := List.takeWhile_cons_of_neg (by simp [hch])
  have hreverse : (x ++ [ch] ++ y).reverse = y.reverse ++ ch :: x.reverse := by simp
  rw [trailingBlanks, trailingBlanks, hreverse, List.takeWhile_append, hnone, List.append_nil]
  split
  · rename_i hall
    rw [(List.takeWhile_prefix Chars.isBlank).eq_of_length hall]
  · rfl

/-- Edits of texts that end visibly leave the blanks at the end. -/
theorem trailingBlanks_applyFrom {edits : List Edit} {place : Nat} (horder : Edit.InOrder place edits)
    (hedits : forall e, e ∈ edits -> EndsVisibly (t.slice e.span) ∧ EndsVisibly e.text) :
    trailingBlanks (Edit.applyFrom place (t.drop place) edits) = trailingBlanks (t.drop place) := by
  induction edits generalizing place with
  | nil => rfl
  | cons e edits ih =>
      rcases List.forall_mem_cons.mp hedits with ⟨⟨hslice, htext⟩, hedits⟩
      have hvisible : forall {x y : Text}, EndsVisibly y -> EndsVisibly (x ++ y) := by
        rintro x y ⟨z, ch, rfl, hch⟩
        exact ⟨x ++ z, ch, (List.append_assoc _ _ _).symm, hch⟩
      rw [Edit.applyFrom_cons horder, trailingBlanks_append (hvisible htext), ih horder.2.2 hedits]
      conv_rhs => rw [Edit.drop_eq_append horder.1 horder.2.1, trailingBlanks_append (hvisible hslice)]

theorem endsVisibly_render (u : Template) : EndsVisibly u.render := by
  refine ⟨"\x7b\x7b" ++ u.name ++ u.params.flatMap Param.render ++ ['\x7d'], '\x7d', ?_, by decide⟩
  rw [Template.render, List.append_assoc _ ['\x7d']]
  rfl

theorem trailingBlanks_rename (r : Text × Text) (t : Text) : trailingBlanks (rename t r.1 r.2) = trailingBlanks t := by
  refine trailingBlanks_applyFrom (inOrder_renames r t) fun e he => ?_
  rcases of_mem_editsWith he with ⟨_, u, hu, hanswer⟩
  constructor
  · rw [← (of_mem_located hu).2]
    exact endsVisibly_render u
  · rw [(renamed?_eq_some_iff.mp hanswer).2]
    exact endsVisibly_render _

end Blanks

/-!
# All redirects
-/

section All

variable {r : Text × Text} {rs : List (Text × Text)} {t : Text}

theorem fst_renameAll_cons (r : Text × Text) (rs : List (Text × Text)) (t : Text) :
    (renameAll (r :: rs) t).1 = (renameAll rs (rename t r.1 r.2)).1 := by
  rw [renameAll]

theorem trailingBlanks_renameAll (rs : List (Text × Text)) (t : Text) :
    trailingBlanks (renameAll rs t).1 = trailingBlanks t := by
  induction rs generalizing t with
  | nil => rfl
  | cons r rs ih => rw [fst_renameAll_cons, ih, trailingBlanks_rename]

/-- A text that is no change by the blanks at its end is no change at all. -/
theorem renameAll_eq_of_not_changed (h : changed t (renameAll rs t).1 = false) : (renameAll rs t).1 = t := by
  have htrim : t.trimRight = Text.trimRight (renameAll rs t).1 := by
    rw [changed, bne_eq_false_iff_eq] at h
    exact h
  have hsame := Text.trimRightBy_append (renameAll rs t).1 Chars.isBlank
  have hold := Text.trimRightBy_append t Chars.isBlank
  have hblanks := trailingBlanks_renameAll rs t
  rw [trailingBlanks, trailingBlanks] at hblanks
  rw [← hsame, hblanks, ← Text.trimRight, ← htrim, Text.trimRight, hold]

/-- The old names of a redirect that is none of these, and has no name in common with them, stay. -/
theorem staleAt_renameAll_of_apart (hr : IsRedirect r) (hrs : forall r', r' ∈ rs -> IsRedirect r' ∧ Apart r' r) (t : Text) :
    (exists s, StaleAt (renameAll rs t).1 r s) <-> exists s, StaleAt t r s := by
  induction rs generalizing t with
  | nil => rfl
  | cons r' rs ih =>
      rcases List.forall_mem_cons.mp hrs with ⟨⟨hr', hapart⟩, hrs⟩
      rw [fst_renameAll_cons, ih hrs, (staleAt_rename_of_apart hr' hr hapart t).1]

/-- Whatever the order of the redirects, each leaves the templates inside one with the same old name. -/
theorem staleAt_renameAll_iff (hrs : forall r, r ∈ rs -> IsRedirect r)
    (hapart : rs.Pairwise fun r r' => Apart r r' ∧ Apart r' r) (hr : r ∈ rs) (t : Text) :
    (exists s, StaleAt (renameAll rs t).1 r s) <-> NestsStale t r := by
  induction rs generalizing t with
  | nil => cases hr
  | cons r' rs ih =>
      rcases List.forall_mem_cons.mp hrs with ⟨hr', hothers⟩
      rcases List.pairwise_cons.mp hapart with ⟨hfirst, hrest⟩
      rw [fst_renameAll_cons]
      rcases List.mem_cons.mp hr with rfl | hmem
      · rw [staleAt_renameAll_of_apart hr' fun u hu => ⟨hothers u hu, (hfirst u hu).2⟩]
        exact staleAt_rename_iff hr' t
      · rw [ih hothers hrest hmem, (staleAt_rename_of_apart hr' (hothers r hmem) (hfirst r hmem).1 t).2]

end All

/-!
# The redirects of the library
-/

theorem mem_redirects {c : Config} {r : Text × Text} (h : r ∈ redirects c) : r ∈ c.redirects ∧ r.1 ≠ r.2 := by
  rcases List.mem_filterMap.mp h with ⟨old, _, hbind⟩
  rcases Option.bind_eq_some_iff.mp hbind with ⟨name, hname, hsome⟩
  split at hsome
  · cases hsome
  · rename_i hne
    cases hsome
    rcases Option.map_eq_some_iff.mp hname with ⟨r, hfind, rfl⟩
    have hold : (r.1 == old) = true := List.find?_some (p := fun r : Text × Text => r.1 == old) hfind
    rw [beq_iff_eq] at hold
    exact ⟨List.mem_reverse.mp (hold ▸ List.mem_of_find?_eq_some hfind), fun heq => hne heq.symm⟩

theorem pairwise_redirects (c : Config) : (redirects c).Pairwise fun r r' => r.1 ≠ r'.1 := by
  rw [redirects, List.pairwise_filterMap]
  refine (Page.nodup_eraseDups _).imp fun hne r hr r' hr' heq => hne ?_
  have hfirst : forall {old : Text} {r : Text × Text},
      ((c.redirect? old).bind fun name => if name = old then none else some (old, name)) = some r -> r.1 = old := by
    intro old r h
    rcases Option.bind_eq_some_iff.mp h with ⟨name, _, hsome⟩
    split at hsome
    · cases hsome
    · rw [← Option.some.inj hsome]
  rw [← hfirst hr, ← hfirst hr', heq]

theorem mem_redirects_builtin : ((("sinonimo" : Text), ("sinónimo" : Text)) : Text × Text) ∈ redirects .builtin := by
  refine List.mem_filterMap.mpr ⟨"sinonimo", ?_, by decide +kernel⟩
  rw [Config.redirectedNames, List.mem_eraseDups, (List.mergeSort_perm _ _).mem_iff]
  decide +kernel

theorem isRedirect_of_mem_builtin {r : Text × Text} (h : r ∈ redirects .builtin) : IsRedirect r := by
  have htable : Builtin.redirects.all (fun r => nameForm r.1 != [] && (nameForm r.1).all isNameChar && r.2 != [] &&
      r.2.all isNameChar && r.2.trim == r.2) = true := by
    decide +kernel
  have hr := List.all_eq_true.mp htable r (mem_redirects h).1
  simp only [Bool.and_eq_true, bne_iff_ne, beq_iff_eq] at hr
  rcases hr with ⟨⟨⟨⟨hform, hplain⟩, hne⟩, hname⟩, htrim⟩
  exact ⟨hform, hplain, ⟨hne, hname⟩, htrim⟩

theorem pairwise_apart_builtin : (redirects .builtin).Pairwise fun r r' => Apart r r' ∧ Apart r' r := by
  have htable : Builtin.redirects.all (fun r => Builtin.redirects.all fun r' =>
      r.1 == r.2 || r'.1 == r'.2 || r.1 == r'.1 ||
        nameForm r.1 != nameForm r'.1 && (nameForm r.2 != nameForm r'.1 || r.2 == r'.2)) = true := by
    decide +kernel
  have hapart : forall {r r' : Text × Text}, r ∈ redirects .builtin -> r' ∈ redirects .builtin -> r.1 ≠ r'.1 ->
      Apart r r' := by
    intro r r' hr hr' hne
    have hpair := List.all_eq_true.mp (List.all_eq_true.mp htable r (mem_redirects hr).1) r' (mem_redirects hr').1
    simp only [Bool.or_eq_true, Bool.and_eq_true, bne_iff_ne, beq_iff_eq, (mem_redirects hr).2, (mem_redirects hr').2, hne,
      false_or] at hpair
    exact ⟨hpair.1, fun hform => hpair.2.resolve_left (not_not_intro hform)⟩
  refine (pairwise_redirects .builtin).imp_of_mem fun hr hr' hne => ?_
  exact ⟨hapart hr hr' hne, hapart hr' hr hne.symm⟩

end TemplateNames

namespace Rule

open Template TemplateNames

/-- Every template of the new text is found with a name.  Some still goes by an old one just if in the old text a template
with an old name lies inside another one with the same old name: these are the ones that the rule does not look into. -/
theorem templateNames_staleAt_iff (title : Text) (legacy : Bool) (t : Text) :
    exists out summary, templateNames.run ⟨.builtin, title, legacy⟩ t = .ok (Outcome.of? t out summary) ∧
      (changed t out = false -> out = t) ∧ (located out).map Prod.fst = spans out ∧
      ((exists r s, r ∈ redirects .builtin ∧ StaleAt out r s) <->
        exists r, r ∈ redirects .builtin ∧ NestsStale t r) := by
  refine ⟨(renameAll (redirects .builtin) t).1, _, rfl, renameAll_eq_of_not_changed, (map_located _).1, ?_⟩
  have hleft : forall r, r ∈ redirects .builtin ->
      ((exists s, StaleAt (renameAll (redirects .builtin) t).1 r s) <-> NestsStale t r) := fun r hr =>
    staleAt_renameAll_iff (fun _ => isRedirect_of_mem_builtin) pairwise_apart_builtin hr t
  constructor
  · rintro ⟨r, s, hr, hs⟩
    exact ⟨r, hr, (hleft r hr).mp ⟨s, hs⟩⟩
  · rintro ⟨r, hr, hnests⟩
    rcases (hleft r hr).mpr hnests with ⟨s, hs⟩
    exact ⟨r, s, hr, hs⟩

/-- A text that is left alone, or has the outcome of the rule, is the one in which all is renamed. -/
theorem text_eq_of_run {title t out : Text} {legacy : Bool} {summary : Option Text}
    (hrun : templateNames.run ⟨.builtin, title, legacy⟩ t = .ok (Outcome.of? t out summary))
    (hsame : changed t out = false -> out = t) : out = (renameAll (redirects .builtin) t).1 := by
  have hboth := Except.ok.inj hrun
  cases hchanged : changed t out with
  | true =>
      have hsome := hboth.trans (if_pos hchanged)
      exact Outcome.text_of_of?_eq_some hsome
  | false =>
      have hnone := Outcome.of?_eq_none_iff.mp (hboth.trans (Outcome.of?_eq_none_iff.mpr hchanged))
      rw [hsame hchanged, renameAll_eq_of_not_changed hnone]

/-- A template with an old name in another one with the same name. -/
def textWithOldNames : Text :=
  "\x7b\x7bsinonimo|\x7b\x7bsinonimo|a\x7d\x7d\x7d\x7d"

theorem nestsStale_textWithOldNames : NestsStale textWithOldNames ("sinonimo", "sinónimo") := by
  have hlocated : located textWithOldNames = [(⟨0, 27⟩, ⟨"sinonimo", [.positional 1 "\x7b\x7bsinonimo|a\x7d\x7d"]⟩),
      (⟨11, 25⟩, ⟨"sinonimo", [.positional 1 "a"]⟩)] := by
    decide +kernel
  refine ⟨⟨0, 27⟩, ⟨11, 25⟩, ⟨_, by rw [hlocated]; exact List.mem_cons_self, ?_⟩,
    ⟨_, by rw [hlocated]; exact List.mem_cons_of_mem _ List.mem_cons_self, ?_⟩, by decide, by decide⟩
  · exact ⟨by decide +kernel, by decide⟩
  · exact ⟨by decide +kernel, by decide⟩

/-- Behind the rule not every text is without old names. -/
theorem not_forall_templateNames_staleAt :
    ¬ forall t, exists out summary, templateNames.run ⟨.builtin, "t", false⟩ t = .ok (Outcome.of? t out summary) ∧
      (changed t out = false -> out = t) ∧ forall r s, r ∈ redirects .builtin -> ¬ StaleAt out r s := by
  intro h
  rcases h textWithOldNames with ⟨out, summary, hrun, hsame, hnone⟩
  have hout := text_eq_of_run hrun hsame
  rcases (staleAt_renameAll_iff (fun _ => isRedirect_of_mem_builtin) pairwise_apart_builtin mem_redirects_builtin _).mpr
    nestsStale_textWithOldNames with ⟨s, hs⟩
  exact hnone _ s mem_redirects_builtin (hout ▸ hs)

end Rule
end WikiEntry
