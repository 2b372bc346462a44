import WikiEntry.Proofs.LegacyLayout.Names
import WikiEntry.Proofs.Region.Delimiters
import WikiEntry.Proofs.Template.Nesting

/-!
# Current texts are not taken for legacy ones

A current text stays current when its blanks are sanitized and when comments and unparsed text are taken out.  In what is
left there is neither a header nor a template of the legacy layout.
-/

namespace WikiEntry
namespace LegacyLayout

/-!
# Sanitizing
-/

theorem squeeze_applyFrom {t : Text} {place : Nat} {edits : List Edit} (h : Edit.InOrder place edits)
    (hsame : forall e, e ∈ edits -> squeeze e.text = squeeze (t.slice e.span)) :
    squeeze (Edit.applyFrom place (t.drop place) edits) = squeeze (t.drop place) := by
  induction edits generalizing place with
  | nil => rfl
  | cons e edits ih =>
      have hrest := ih h.2.2 fun e' he' => hsame e' (List.mem_cons_of_mem e he')
      rw [Edit.applyFrom_cons h, squeeze_append, squeeze_append, hrest, hsame e List.mem_cons_self, ← squeeze_append,
        ← squeeze_append, ← Edit.drop_eq_append h.1 h.2.1]

theorem squeeze_replaceOutside {p : Pattern} {new : Text}
    (h : forall s w s', Pattern.Reads p s w s' -> squeeze w = squeeze new) (t : Text) :
    squeeze (Region.replaceOutside t p new) = squeeze t := by
  have horder : p.InOrder t 0 (Region.matchesOutside p (Region.ignored t) Match.start t) :=
    (Pattern.inOrder_matchList p t).filter _
  have hedits : Region.replaceOutside t p new =
      Edit.applyAll t ((Region.matchesOutside p (Region.ignored t) Match.start t).map fun m => ⟨m.span, new⟩) := by
    rw [← Region.editsWith_const new (fun _ _ => ()) ()]
    rfl
  rw [hedits]
  refine squeeze_applyFrom (t := t) (Region.inOrder_map_of_inOrder horder _) fun e he => ?_
  rcases List.mem_map.mp he with ⟨m, hm, rfl⟩
  rcases horder.matched m hm with ⟨w, s, hmatched⟩
  rw [hmatched.slice_eq]
  exact (h _ _ _ hmatched.reads).symm

theorem squeeze_sanitizeBlanks (t : Text) : squeeze (Region.sanitizeBlanks t) = squeeze t := by
  have hlit : forall l new : Text, squeeze l = squeeze new ->
      forall s w s', Pattern.Reads (Pattern.lit l) s w s' -> squeeze w = squeeze new := by
    intro l new heq s w s' h
    rw [h.lit_inv.1, heq]
  have hrun : forall s w s', Pattern.Reads (.run true 2 none (.char ' ')) s w s' -> squeeze w = squeeze " " := by
    intro s w s' h
    refine (List.filter_eq_nil_iff.mpr fun c hc => ?_).trans (by decide : ([] : Text) = squeeze " ")
    have hspace : ' ' = c := eq_of_beq (h.run_inv.1 c hc)
    rw [← hspace]
    decide
  rw [Region.sanitizeBlanks, squeeze_replaceOutside (hlit " \n" "\n" (by decide)), squeeze_replaceOutside hrun,
    squeeze_replaceOutside (hlit "\t" " " (by decide))]

theorem isCurrent_sanitizeBlanks_iff {t : Text} : IsCurrent (Region.sanitizeBlanks t) <-> IsCurrent t := by
  rw [IsCurrent, squeeze_sanitizeBlanks]
  rfl

end LegacyLayout

/-!
# Hidden regions
-/

namespace Region

/-- Regions that stand one behind the other, each beginning with an angle bracket. -/
def Brackets (t : Text) (place : Nat) : List Span -> Prop
  | [] => True
  | s :: rest => place ≤ s.start ∧ s.start ≤ s.stop ∧ (exists r, t.drop s.start = '<' :: r) ∧ Brackets t s.stop rest

/-- A comment or an element. -/
structure Bracket (t : Text) (s : Span) : Prop where
  start_le : s.start ≤ s.stop
  drop_eq : exists r, t.drop s.start = '<' :: r

theorem brackets_mergeFrom {t : Text} {place : Nat} {last : Span} {rest : List Span} (hplace : place ≤ last.start)
    (hsorted : (last :: rest).Pairwise fun a b => a.start ≤ b.start) (h : forall s, s ∈ last :: rest -> Bracket t s) :
    Brackets t place (mergeFrom last rest) := by
  induction rest generalizing place last with
  | nil =>
      have hlast := h last List.mem_cons_self
      exact ⟨hplace, hlast.start_le, hlast.drop_eq, trivial⟩
  | cons s rest ih =>
      rcases List.forall_mem_cons.mp h with ⟨hlast, hrest⟩
      rcases List.pairwise_cons.mp hsorted with ⟨hfirst, hsorted⟩
      rw [mergeFrom]
      split
      · refine ih hplace ?_ ?_
        · refine List.pairwise_cons.mpr ⟨fun u hu => hfirst u (List.mem_cons_of_mem s hu), (List.pairwise_cons.mp hsorted).2⟩
        · refine List.forall_mem_cons.mpr ⟨⟨?_, hlast.drop_eq⟩, fun u hu => hrest u (List.mem_cons_of_mem s hu)⟩
          exact hlast.start_le.trans (Nat.le_max_left _ _)
      · rename_i hapart
        exact ⟨hplace, hlast.start_le, hlast.drop_eq, ih (Nat.le_of_not_lt hapart) hsorted hrest⟩

theorem brackets_combine {t : Text} {lists : List (List Span)}
    (h : forall regions, regions ∈ lists -> forall s, s ∈ regions -> Bracket t s) : Brackets t 0 (combine lists) := by
  have hsorted := (List.pairwise_mergeSort before_trans before_total lists.flatten).imp start_le_of_before
  have hall : forall s, s ∈ lists.flatten.mergeSort before -> Bracket t s := by
    intro s hs
    rcases List.mem_flatten.mp ((List.mergeSort_perm lists.flatten before).mem_iff.mp hs) with ⟨regions, hregions, hs⟩
    exact h regions hregions s hs
  rw [combine]
  cases hregions : lists.flatten.mergeSort before with
  | nil => exact trivial
  | cons s rest =>
      rw [hregions] at hsorted hall
      exact brackets_mergeFrom (Nat.zero_le _) hsorted hall

theorem bracket_of_mem_comments {t rest : Text} {rounds place : Nat} (hrest : t.drop place = rest) {s : Span}
    (hs : s ∈ flatFrom "<!--" "-->" true rounds place rest) : Bracket t s := by
  rcases begins_of_mem_comments hrest hs with ⟨hle, r, hr⟩
  exact ⟨hle, _, hr.symm⟩

theorem bracket_of_mem_elements {t : Text} {name : Text} {rounds start : Nat} (hstart : start ≤ t.length) {s : Span}
    (hs : s ∈ elementsFrom (.ofName name) t rounds start) : Bracket t s := by
  rcases begins_of_mem_elements hstart hs with ⟨hle, w, ⟨h, g, rfl, hh, _⟩, r, hr⟩
  cases hh with
  | @cons _ c _ h hc _ =>
      rw [CharSet.eq_of_holds_anyCase (by decide) (by decide) (by decide) hc] at hr
      exact ⟨hle, _, hr.symm⟩

theorem brackets_hidden (t : Text) : Brackets t 0 (hidden t) := by
  refine brackets_combine fun regions hregions s hs => ?_
  rcases List.mem_cons.mp hregions with rfl | hregions
  · exact bracket_of_mem_comments List.drop_zero hs
  · rw [List.mem_singleton.mp hregions] at hs
    exact bracket_of_mem_elements (Nat.zero_le _) hs

end Region
namespace LegacyLayout

variable {t : Text}

theorem IsCurrent.drop (h : IsCurrent t) (n : Nat) : IsCurrent (t.drop n) := by
  rw [← List.take_append_drop n t] at h
  exact h.of_append

/-- What is left when regions are cut out is current: no name is open where a region begins. -/
theorem isCurrent_cutFrom {place : Nat} {regions : List Span} (h : IsCurrent (t.drop place))
    (hregions : Region.Brackets t place regions) : IsCurrent (Region.cutFrom place (t.drop place) regions) := by
  induction regions generalizing place with
  | nil => exact h
  | cons s regions ih =>
      rcases hregions with ⟨hplace, hspan, ⟨r, hdrop⟩, hregions⟩
      have hstart : (t.drop place).drop (s.start - place) = t.drop s.start := by
        rw [List.drop_drop, Nat.add_sub_cancel' hplace]
      have hstop : (t.drop place).drop (s.stop - place) = t.drop s.stop := by
        rw [List.drop_drop, Nat.add_sub_cancel' (hplace.trans hspan)]
      have hrest : IsCurrent (t.drop s.stop) := hstop ▸ h.drop _
      have hsplit : IsCurrent ((t.drop place).take (s.start - place) ++ t.drop s.start) := by
        rwa [← hstart, List.take_append_drop]
      rw [Region.cutFrom, hstop]
      exact hsplit.append_of_begins ⟨(List.nil_append _).symm, List.forall_mem_nil _, Or.inl ⟨r, hdrop⟩⟩ (ih hrest hregions)

theorem isCurrent_stripHidden (h : IsCurrent t) : IsCurrent (Region.stripHidden t) := by
  have hdrop : IsCurrent (t.drop 0) := h
  exact isCurrent_cutFrom hdrop (Region.brackets_hidden t)

/-!
# Headers of the legacy layout
-/

theorem opensCurrent_of_isCurrent {r : Text} (h : IsCurrent ('\x7b' :: '\x7b' :: r)) : opensCurrent (squeeze r) = true := by
  have hbrace : Chars.isBlank '\x7b' = false := by decide
  rw [IsCurrent, squeeze_cons hbrace, squeeze_cons hbrace, allCurrent, Bool.and_eq_true] at h
  exact h.1

theorem hasInfix_append (a p b : Text) : Text.hasInfix (a ++ p ++ b) p = true := by
  rw [Text.hasInfix, Option.isSome_iff_ne_none]
  induction a with
  | nil =>
      have hstarts : Text.startsWith ([] ++ p ++ b) p = true := List.isPrefixOf_iff_prefix.mpr ⟨b, rfl⟩
      unfold Text.find?
      rw [if_pos hstarts]
      exact Option.some_ne_none 0
  | cons c a ih =>
      unfold Text.find?
      split
      · exact Option.some_ne_none 0
      · exact fun h => ih (Option.map_eq_none_iff.mp h)

/-- A name that a legacy header begins with is none of the present layout. -/
theorem opensCurrent_header {u : Text} (hu : forall c, c ∈ u -> isNameChar c = true) (r : Text) :
    opensCurrent (u ++ "-ES".toList ++ r) = false := by
  have hname : forall c, c ∈ u ++ "-ES".toList -> isNameChar c = true := by
    intro c hc
    rcases List.mem_append.mp hc with hc | hc
    · exact hu c hc
    · exact List.all_eq_true.mp (by decide : "-ES".toList.all isNameChar = true) c hc
  have hinfix : Text.hasInfix ((u ++ "-ES".toList ++ r).takeWhile isNameChar) "-ES" = true := by
    rw [List.takeWhile_append_of_pos hname]
    exact hasInfix_append u "-ES" (r.takeWhile isNameChar)
  rw [opensCurrent, isCurrentName, hinfix]
  simp

/-- The capitals of legacy names. -/
theorem of_mem_capitals {c : Char} (hc : (CharSet.anyOf [.range 'A' 'Z', .char '-']).holds c = true) :
    isNameChar c = true ∧ Chars.isBlank c = false := by
  rcases Bool.or_eq_true _ _ |>.mp hc with hc | hc
  · have hcapitals : forall n : Fin 26,
        isNameChar (Char.ofNat (65 + n)) = true ∧ Chars.isBlank (Char.ofNat (65 + n)) = false := by
      decide
    rcases Bool.and_eq_true _ _ |>.mp hc with ⟨hlow, hhigh⟩
    have hlow : 65 ≤ c.toNat := of_decide_eq_true hlow
    have hhigh : c.toNat ≤ 90 := of_decide_eq_true hhigh
    have hcapital := hcapitals ⟨c.toNat - 65, by omega⟩
    rw [Nat.add_sub_cancel' hlow, Char.ofNat_toNat] at hcapital
    exact hcapital
  · rw [← eq_of_beq hc]
    decide

theorem squeeze_eq_self {u : Text} (hu : forall c, c ∈ u -> Chars.isBlank c = false) : squeeze u = u :=
  List.filter_eq_self.mpr fun c hc => by simp [hu c hc]

theorem matchesIn_legacyHeader_eq_false (h : IsCurrent t) : Marks.legacyHeader.matchesIn t = false := by
  rw [Pattern.matchesIn, Option.isSome_eq_false_iff, Option.isNone_iff_eq_none, Option.eq_none_iff_forall_ne_some]
  intro m hm
  rcases Pattern.matched_of_find? hm with ⟨w, s, hm⟩
  rcases hm.reads.seq_inv with ⟨w, name, s2, rfl, hopening, hgroup⟩
  rcases hopening.seq_inv with ⟨braces, spaces, s1, rfl, hbraces, hspaces⟩
  rcases hgroup.group_inv with ⟨s3, hname, _⟩
  rcases hname.seq_inv with ⟨u, ending, s4, rfl, hu, hending⟩
  have hchars : forall c, c ∈ u -> isNameChar c = true ∧ Chars.isBlank c = false := by
    intro c hc
    cases hu with
    | altLeft hu =>
        rw [hu.lit_inv.1] at hc
        have hchono : "Chono".toList.all (fun c => isNameChar c && !Chars.isBlank c) = true := by decide
        simpa using List.all_eq_true.mp hchono c hc
    | altRight hu => exact of_mem_capitals (hu.run_inv.1 c hc)
  have hspaces : squeeze spaces = [] := by
    refine List.filter_eq_nil_iff.mpr fun c hc => ?_
    rw [← eq_of_beq (hspaces.run_inv.1 c hc)]
    decide
  have hcurrent := h.drop m.start
  rw [hm.rest_eq, hbraces.lit_inv.1, hending.lit_inv.1] at hcurrent
  have hopens := opensCurrent_of_isCurrent (r := spaces ++ (u ++ "-ES".toList) ++ s.cursor.rest) (by simpa using hcurrent)
  have hending : squeeze "-ES" = "-ES".toList := by decide
  rw [squeeze_append, squeeze_append, hspaces, List.nil_append, squeeze_append,
    squeeze_eq_self fun c hc => (hchars c hc).2, hending, opensCurrent_header fun c hc => (hchars c hc).1] at hopens
  cases hopens

/-!
# Templates of the legacy layout
-/

theorem opensCurrent_squeeze_legacyName {name : Text} (hname : name ∈ Marks.legacyNames) :
    opensCurrent (squeeze name) = false := by
  have hchars : Marks.legacyNames.all (·.all isNameChar) = true := by decide
  have htake : (squeeze name).takeWhile isNameChar = squeeze name := by
    refine List.takeWhile_eq_self_iff.mpr fun c hc => ?_
    exact List.all_eq_true.mp (List.all_eq_true.mp hchars name hname) c (List.mem_filter.mp hc).1
  have hcontains : (Marks.legacyNames.map squeeze).contains (squeeze name) = true :=
    List.contains_iff_mem.mpr (List.mem_map_of_mem hname)
  rw [opensCurrent, htake, isCurrentName, hcontains]
  simp

/-- A legacy name with blanks around it is none of the present layout. -/
theorem opensCurrent_legacyName {name : Text} (hname : name.trim ∈ Marks.legacyNames) {c : Char} (hc : endsName c = true)
    (r : Text) : opensCurrent (squeeze (name ++ c :: r)) = false := by
  have hall : name.all Chars.isBlank = false := by
    rw [Bool.eq_false_iff]
    intro hall
    have hnil : name.trim = [] := by
      rw [Text.trim, Text.trimBy, Text.trimLeftBy_eq_nil_iff.mpr hall]
      rfl
    rw [hnil] at hname
    exact absurd hname (by decide)
  have hparts := Text.takeWhile_append_trimBy hall
  have hfront := squeeze_of_blank (b := name.takeWhile Chars.isBlank) fun c hc => List.mem_takeWhile_imp hc
  have hback := squeeze_of_blank (b := (name.reverse.takeWhile Chars.isBlank).reverse) fun c hc =>
    List.mem_takeWhile_imp (List.mem_reverse.mp hc)
  rw [squeeze_append, squeeze_cons_of_endsName hc, opensCurrent_append hc, ← hparts, squeeze_append, squeeze_append]
  rcases hfront with hfront | ⟨front, hfront⟩
  · rw [hfront, List.nil_append]
    rcases hback with hback | ⟨back, hback⟩
    · rw [hback, List.append_nil]
      exact opensCurrent_squeeze_legacyName hname
    · rw [hback, opensCurrent_append (by decide)]
      exact opensCurrent_squeeze_legacyName hname
  · rw [hfront]
    rfl

theorem exists_endsName_of_render (u : Template) :
    exists c r, endsName c = true ∧ u.render = '\x7b' :: '\x7b' :: (u.name ++ c :: r) := by
  cases hparams : u.params with
  | nil => exact ⟨'\x7d', ['\x7d'], by decide, by simp [Template.render, hparams]⟩
  | cons p ps =>
      cases p with
      | positional i v => exact ⟨'|', _, by decide, by simp [Template.render, hparams, Param.render]; rfl⟩
      | named k v => exact ⟨'|', _, by decide, by simp [Template.render, hparams, Param.render]; rfl⟩

theorem trimmedName_not_mem (h : IsCurrent t) {x : Span × Template} (hx : x ∈ Template.located t) :
    x.2.trimmedName ∉ Marks.legacyNames := by
  intro hname
  rcases exists_endsName_of_render x.2 with ⟨c, r, hc, hrender⟩
  have hslice : t.drop x.1.start = x.2.render ++ (t.drop x.1.start).drop x.1.size := by
    rw [(Template.of_mem_located hx).2]
    exact (List.take_append_drop _ _).symm
  have hcurrent := h.drop x.1.start
  rw [hslice, hrender, List.cons_append, List.cons_append, List.append_assoc] at hcurrent
  have hopens := opensCurrent_of_isCurrent hcurrent
  rw [List.cons_append, opensCurrent_legacyName hname hc] at hopens
  cases hopens

/-- The layout of a current text is the present one. -/
theorem isLegacy_eq_false (h : IsCurrent t) : Marks.isLegacy t = false := by
  have hstripped := isCurrent_stripHidden h
  rw [Marks.isLegacy, matchesIn_legacyHeader_eq_false hstripped, Bool.false_or, List.any_eq_false]
  intro x hx
  rw [List.contains_iff_mem]
  exact trimmedName_not_mem hstripped hx

end LegacyLayout
end WikiEntry
