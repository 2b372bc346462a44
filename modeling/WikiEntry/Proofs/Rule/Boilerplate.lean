import WikiEntry.Proofs.Page.Headers
import WikiEntry.Proofs.Region.Delimiters
import WikiEntry.Proofs.Region.Revision
import WikiEntry.Proofs.Rule.Outcome
import WikiEntry.Rule.Comments

/-!
# What is left without boilerplate

Comments are removed from the last one to the first, some of them with blanks around them.  A comment that another one
stands behind ends with a sign, so that such blanks never reach into what is still to be searched, and nothing but the
comments and blanks is lost.  Placeholders are searched in the headers of what is left.
-/

namespace WikiEntry

namespace Comments

open Page Region

/-!
# One comment
-/

section Removing

variable {t u w : Text} {place : Nat} {s : Span} {spans : List Span}

/-- Where a comment stands alone on its line, the line goes, with the newline behind it or else the one in front. -/
theorem removeComment_eq (u : Text) (s : Span) :
    removeComment u s = u.take s.start ++ u.drop s.stop ∨
      exists front spaces spaces' back : Text, u.take s.start = front ++ spaces ∧ u.drop s.stop = spaces' ++ back ∧
        (spaces ++ spaces').isBlank = true ∧ (front = [] ∨ exists w, front = w ++ ['\n']) ∧
        ((exists w, back = '\n' :: w ∧ removeComment u s = front ++ w) ∨ back = [] ∧ removeComment u s = front.dropLast) := by
  unfold removeComment
  generalize u.take s.start = before
  generalize u.drop s.stop = after
  have hbefore := Text.trimRightBy_append before (· ≠ '\n')
  have hafter := Text.takeWhile_append_trimLeftBy after (· ≠ '\n')
  have hfront : Text.trimRightBy before (· ≠ '\n') = [] ∨ exists w, Text.trimRightBy before (· ≠ '\n') = w ++ ['\n'] := by
    have hhead := List.head?_dropWhile_not (· ≠ '\n') before.reverse
    unfold Text.trimRightBy
    cases hdrop : before.reverse.dropWhile (· ≠ '\n') with
    | nil => exact Or.inl rfl
    | cons c w =>
        rw [hdrop] at hhead
        refine Or.inr ⟨w.reverse, ?_⟩
        rw [List.reverse_cons]
        simpa using hhead
  have hback : Text.trimLeftBy after (· ≠ '\n') = [] ∨ exists w, Text.trimLeftBy after (· ≠ '\n') = '\n' :: w := by
    have hhead := List.head?_dropWhile_not (· ≠ '\n') after
    unfold Text.trimLeftBy
    cases hdrop : after.dropWhile (· ≠ '\n') with
    | nil => exact Or.inl rfl
    | cons c w =>
        rw [hdrop] at hhead
        exact Or.inr ⟨w, by simpa using hhead⟩
  dsimp only
  generalize Text.trimRightBy before (· ≠ '\n') = front at hbefore hfront
  generalize Text.trimLeftBy after (· ≠ '\n') = back at hafter hback
  generalize (before.reverse.takeWhile (· ≠ '\n')).reverse = spaces at hbefore ⊢
  generalize after.takeWhile (· ≠ '\n') = spaces' at hafter ⊢
  subst hbefore hafter
  split
  · rename_i hspaces
    refine Or.inr ⟨front, spaces, spaces', back, rfl, rfl, List.all_eq_true.mpr fun c hc => ?_, hfront, ?_⟩
    · rw [of_decide_eq_true (List.all_eq_true.mp hspaces c hc)]
      decide
    · rw [List.length_append, Nat.add_sub_cancel, List.take_left, List.drop_left]
      rcases hback with rfl | ⟨w, rfl⟩
      · exact Or.inr ⟨rfl, rfl⟩
      · exact Or.inl ⟨w, rfl, rfl⟩
  · exact Or.inl rfl

/-- With a comment nothing but blanks goes. -/
theorem unblanked_removeComment (u : Text) (s : Span) :
    (removeComment u s).unblanked = Text.unblanked (u.take s.start) ++ Text.unblanked (u.drop s.stop) := by
  rcases removeComment_eq u s with heq | ⟨front, spaces, spaces', back, hfront, hback, hblank, hline, hrest⟩
  · rw [heq, Text.unblanked_append]
  · have hboth := Text.unblanked_eq_nil_iff.mpr hblank
    rw [Text.unblanked_append, List.append_eq_nil_iff] at hboth
    have hnewline : Text.unblanked ['\n'] = [] := by decide
    rw [hfront, hback, Text.unblanked_append, Text.unblanked_append, hboth.1, hboth.2, List.append_nil, List.nil_append]
    rcases hrest with ⟨w, rfl, heq⟩ | ⟨rfl, heq⟩
    · rw [heq, Text.unblanked_append, ← List.singleton_append, Text.unblanked_append ['\n'], hnewline, List.nil_append]
    · rw [heq]
      rcases hline with rfl | ⟨w, rfl⟩
      · rfl
      · rw [List.dropLast_concat, Text.unblanked_append, hnewline, List.append_nil]
        exact (List.append_nil _).symm

/-- What ends with a sign is not reached by blanks behind it. -/
theorem prefix_of_prefix_append (hw : forall ch, w.getLast? = some ch -> Chars.isBlank ch = false) {v : Text}
    (hv : v.isBlank = true) (h : w <+: u ++ v) : w <+: u := by
  refine List.prefix_of_prefix_length_le h (List.prefix_append u v) (Nat.le_of_not_lt fun hlonger => ?_)
  rcases List.prefix_of_prefix_length_le (List.prefix_append u v) h hlonger.le with ⟨r, rfl⟩
  have hr : r ≠ [] := by
    rintro rfl
    rw [List.append_nil] at hlonger
    exact Nat.lt_irrefl _ hlonger
  have hmem : r.getLast hr ∈ v := by
    rcases h with ⟨v', hv'⟩
    rw [List.append_assoc, List.append_cancel_left_eq] at hv'
    rw [← hv']
    exact List.mem_append_left v' (List.getLast_mem hr)
  have hsolid := hw (r.getLast hr) (by rw [List.getLast?_append_of_ne_nil _ hr, List.getLast?_eq_some_getLast hr])
  rw [List.all_eq_true.mp hv _ hmem] at hsolid
  cases hsolid

/-- What stands in front of a comment stays there if it ends with a sign. -/
theorem prefix_removeComment (hw : forall ch, w.getLast? = some ch -> Chars.isBlank ch = false)
    (h : w <+: u.take s.start) : w <+: removeComment u s := by
  rcases removeComment_eq u s with heq | ⟨front, spaces, spaces', back, hfront, _, hblank, hline, hrest⟩
  · rw [heq]
    exact h.trans (List.prefix_append _ _)
  · have hspaces : Text.isBlank spaces = true := by
      rw [Text.isBlank, List.all_append, Bool.and_eq_true] at hblank
      exact hblank.1
    rw [hfront] at h
    have hbegins := prefix_of_prefix_append hw hspaces h
    rcases hrest with ⟨v, _, heq⟩ | ⟨_, heq⟩
    · rw [heq]
      exact hbegins.trans (List.prefix_append _ _)
    · rw [heq]
      rcases hline with rfl | ⟨v, rfl⟩
      · exact hbegins
      · rw [List.dropLast_concat]
        exact prefix_of_prefix_append hw (by decide) hbegins

/-!
# All comments
-/

/-- Up to where the comments begin the text stays as it is, and from there on it is the text without them, but for
blanks. -/
theorem exists_foldr_removeComment (h : InTurn t place spans)
    (hsolid : spans ≠ [] -> forall ch, (t.take place).getLast? = some ch -> Chars.isBlank ch = false) :
    exists v, spans.foldr (fun s t => removeComment t s) t = t.take place ++ v ∧
      v.unblanked = (cutFrom place (t.drop place) spans).unblanked := by
  induction spans generalizing place with
  | nil => exact ⟨t.drop place, (List.take_append_drop place t).symm, rfl⟩
  | cons s spans ih =>
      rcases h with ⟨hplace, hspan, hstop, hsign, hlater⟩
      rcases ih hlater hsign with ⟨v, hv, hunblanked⟩
      have hlength : (t.take s.stop).length = s.stop := List.length_take_of_le hstop
      have hfront : (t.take s.stop ++ v).take s.start = t.take s.start := by
        rw [List.take_append_of_le_length (by omega), List.take_take, Nat.min_eq_left hspan]
      have hback : (t.take s.stop ++ v).drop s.stop = v := List.drop_left' hlength
      have hsplit : t.take s.start = t.take place ++ (t.drop place).take (s.start - place) := by
        rw [← List.take_add, Nat.add_sub_cancel' hplace]
      rw [List.foldr_cons, hv]
      rcases prefix_removeComment (u := t.take s.stop ++ v) (s := s) (hsolid (List.cons_ne_nil s spans))
        (by rw [hfront, hsplit]; exact List.prefix_append _ _) with ⟨v', hv'⟩
      refine ⟨v', hv'.symm, List.append_cancel_left (?_ : Text.unblanked (t.take place) ++ _ = Text.unblanked (t.take place) ++ _)⟩
      rw [← Text.unblanked_append, hv', unblanked_removeComment, hfront, hback, hunblanked, hsplit, cutFrom,
        List.drop_drop, Nat.add_sub_cancel' (hplace.trans hspan), Text.unblanked_append, Text.unblanked_append,
        List.append_assoc]

theorem unblanked_removeTargets (c : Config) (t : Text) :
    (removeTargets c t).unblanked = (cutFrom 0 t (targets c t)).unblanked := by
  rcases exists_foldr_removeComment ((inTurn_comments t).filter _) (fun _ ch hch => by cases hch) with ⟨v, hv, hunblanked⟩
  rw [removeTargets, targets, hv]
  exact hunblanked

end Removing

/-!
# Headers
-/

/-- A header without placeholders, the second kind of which is searched in what the first leaves. -/
def withoutPlaceholders (header : Text) : Text :=
  placeholders.foldl (fun t p => cutFrom 0 t (p.spans t)) header

/-- Putting nothing in the place of matches is cutting them out. -/
theorem replaceAll_nil (p : Pattern) (t : Text) : p.replaceAll t [] = cutFrom 0 t (p.spans t) := by
  suffices h : forall (spans : List Span) (place : Nat) (rest : Text),
      Edit.applyFrom place rest (spans.map (⟨·, []⟩)) = cutFrom place rest spans from h (p.spans t) 0 t
  intro spans
  induction spans with
  | nil => exact fun _ _ => rfl
  | cons s spans ih =>
      intro place rest
      rw [List.map_cons, Edit.applyFrom, ih, List.append_nil, cutFrom]

/-- In a header nothing but placeholders and blanks goes. -/
theorem unblanked_cleanHeader (header : Text) :
    (cleanHeader header).unblanked = (withoutPlaceholders header).unblanked := by
  have hspaces : forall s w s', Pattern.Reads spaceRuns s w s' ->
      (" " : Text).filter (fun ch => !Chars.isBlank ch) = w.filter fun ch => !Chars.isBlank ch := by
    intro s w s' h
    refine Eq.trans (by decide) (List.filter_eq_nil_iff.mpr fun ch hch => ?_).symm
    rw [← (beq_iff_eq.mp (h.run_inv.1 ch hch) : ' ' = ch)]
    decide
  rw [cleanHeader, Text.unblanked_trim, Text.unblanked, Pattern.filter_replaceAll hspaces]
  simp only [replaceAll_nil]
  rfl

/-- A section with its header cleaned. -/
def clean (c : Config) (s : Section) : Section :=
  if cleanHeader s.header = s.header then s else s.setHeader c (cleanHeader s.header)

theorem clean_cases (c : Config) (s : Section) :
    (cleanHeader s.header = s.header ∧ clean c s = s) ∨ clean c s = s.setHeader c (cleanHeader s.header) := by
  unfold clean
  split
  · rename_i hclean
    exact .inl ⟨hclean, rfl⟩
  · exact .inr rfl

theorem unblanked_header_clean (c : Config) (s : Section) :
    (clean c s).header.unblanked = (withoutPlaceholders s.header).unblanked := by
  rw [← unblanked_cleanHeader]
  rcases clean_cases c s with ⟨hclean, heq⟩ | heq
  · rw [heq, hclean]
  · rw [heq, Section.header_setHeader, Text.unblanked_trim]

theorem blankIsEmpty_clean {s : Section} (h : s.BlankIsEmpty) (c : Config) : (clean c s).BlankIsEmpty := by
  rcases clean_cases c s with ⟨_, heq⟩ | heq
  · rwa [heq]
  · rw [heq]
    exact h.setHeader c _

theorem around_clean (c : Config) (s : Section) (raw : Text) : (clean c s).around raw = s.around raw := by
  rcases clean_cases c s with ⟨_, heq⟩ | heq
  · rw [heq]
  · rw [heq, Section.around_setHeader]

section Placeholders

variable {x : Context} {t result : Text} {p : Page}

theorem cleanHeaders_eq (c : Config) (p : Page) : cleanHeaders c p = p.modifyAll (clean c) p.order := by
  have hstep : forall (p : Page) (i : Nat), (if cleanHeader (p.header i) = p.header i then p
      else p.modify i (·.setHeader c (cleanHeader (p.header i)))) = p.modify i (clean c) := by
    intro p i
    by_cases hclean : cleanHeader (p.header i) = p.header i
    · rw [if_pos hclean]
      conv_lhs => rw [← p.modify_id i]
      exact modify_congr (if_pos hclean).symm
    · rw [if_neg hclean]
      exact modify_congr (if_neg hclean).symm
  exact congrArg (fun step => p.order.foldl step p) (funext fun p => funext fun i => hstep p i)

theorem clean_withBody (c : Config) (s : Section) (b : Body) :
    clean c { s with body := b } = { clean c s with body := b } := by
  have hheader : Section.header { s with body := b } = s.header := rfl
  rw [clean, clean, hheader, Section.setHeader_withBody]
  split
  · exact rfl
  · exact rfl

theorem sound_clean (c : Config) {s : Section} (h : s.Sound) : (clean c s).Sound := by
  rcases clean_cases c s with ⟨_, heq⟩ | heq
  · rwa [heq]
  · rw [heq]
    exact h.setHeader c _

theorem level_clean (c : Config) (s : Section) : (clean c s).level = s.level := by
  rcases clean_cases c s with ⟨_, heq⟩ | heq
  · rw [heq]
  · rw [heq, Section.level_setHeader]

theorem intro_clean (c : Config) (s : Section) : (clean c s).intro = s.intro := by
  rcases clean_cases c s with ⟨_, heq⟩ | heq
  · rw [heq]
  · rw [heq, Section.intro_setHeader]

/-- The page with its headers cleaned, before the links at its end are taken out. -/
theorem cleanHeaders_splitTrailing (c : Config) (q : Page) :
    cleanHeaders c (splitTrailing c q) = splitTrailing c (q.modifyAll (clean c) q.order) := by
  rw [cleanHeaders_eq, order_splitTrailing, splitTrailing_modifyAll (clean_withBody c)]

/-- A page that was read is printed with everything it was read from but placeholders in its headers, and blanks. -/
theorem exists_pieces_of_read (hread : x.read t = .ok p) (horder : p.order ≠ []) :
    exists (first : Text) (before behind : Nat -> Text),
      t.unblanked = (first ++ p.order.flatMap fun i => before i ++ p.header i ++ behind i).unblanked ∧
      (cleanHeaders x.config p).render.unblanked =
        (first ++ p.order.flatMap fun i => before i ++ withoutPlaceholders (p.header i) ++ behind i).unblanked := by
  rcases exists_readWhole_of_read hread with ⟨q, hq, rfl⟩
  have horders := order_splitTrailing x.config q
  rw [horders] at horder
  rcases exists_raws_of_readWhole hq horder with ⟨raws, hraws, htext⟩
  rcases exists_pieces_around q with ⟨first, before, behind, hpieces⟩
  have hmade := (wellFormed_readWhole hq).made
  have hget : forall i, i ∈ q.order -> (q.modifyAll (clean x.config) q.order).get i = clean x.config (q.get i) :=
    fun i hi => (get_modifyAll (wellFormed_readWhole hq).nodup (hmade i hi)).trans (if_pos hi)
  have hsections := order_modifyAll (clean x.config) q q.order
  refine ⟨first, before, behind, ?_, ?_⟩
  · have hsanitized : (Region.sanitizeBlanks t).unblanked = t.unblanked :=
      Region.filter_sanitizeBlanks (by decide) (by decide)
    rw [← hsanitized, htext, horders, ← hpieces]
    refine unblanked_around fun i hi => ?_
    rw [header_splitTrailing x.config q hi, Page.header, (hraws i hi).header_eq, Text.unblanked_trim]
  · have hwellFormed := (wellFormed_readWhole hq).modifyAll (f := clean x.config) (fun _ => sound_clean x.config)
      (level_clean x.config) q.order
    have htrailing : (q.modifyAll (clean x.config) q.order).trailingContent = [] := by
      rcases exists_sections_modifyAll (clean x.config) q q.order with ⟨sections, heq⟩
      rw [heq]
      exact (trailingContent_readWhole hq : q.trailingContent = [])
    have hfirst : forall i, ((q.modifyAll (clean x.config) q.order).get i).intro.head? ≠ some '\n' := by
      intro i
      rw [get_modifyAll_congr (intro_clean x.config)]
      exact head?_intro_of_readWhole hq i
    have hblank : forall i, i ∈ (q.modifyAll (clean x.config) q.order).order ->
        ((q.modifyAll (clean x.config) q.order).get i).BlankIsEmpty := by
      intro i hi
      rw [hsections] at hi
      rw [hget i hi]
      exact blankIsEmpty_clean (hraws i hi).blankIsEmpty x.config
    rw [cleanHeaders_splitTrailing, unblanked_render_of_splitTrailing hwellFormed (by rwa [hsections]) htrailing hfirst,
      unblanked_render_of_blankIsEmpty hblank, around_modifyAll (around_clean x.config), horders, ← hpieces]
    refine unblanked_around fun i hi => ?_
    rw [header_splitTrailing x.config q hi, Page.header, hget i hi, unblanked_header_clean]
    rfl

/-- Placeholders and blanks are all that goes from a text that the comments were removed from. -/
theorem exists_pieces_of_removePlaceholders (h : removePlaceholders x t = .ok result) :
    (t.hasInfix "tipo de palabra" = false ∧ result = t) ∨
      exists p, x.read t = .ok p ∧ exists (first : Text) (before behind : Nat -> Text),
        t.unblanked = (first ++ p.order.flatMap fun i => before i ++ p.header i ++ behind i).unblanked ∧
        result.unblanked =
          (first ++ p.order.flatMap fun i => before i ++ withoutPlaceholders (p.header i) ++ behind i).unblanked := by
  unfold removePlaceholders at h
  split at h
  · rcases exists_of_bind_eq_ok h with ⟨p, hread, h⟩
    refine .inr ⟨p, hread, ?_⟩
    by_cases horder : p.order = []
    · rw [horder] at h ⊢
      cases h
      exact ⟨t, fun _ => [], fun _ => [], by rw [List.flatMap_nil, List.append_nil], by
        rw [List.flatMap_nil, List.append_nil]
        rfl⟩
    rcases exists_pieces_of_read hread horder with ⟨first, before, behind, ht, hcleaned⟩
    refine ⟨first, before, behind, ht, ?_⟩
    rw [← Except.ok.inj h]
    split
    · exact hcleaned
    · rename_i hnone
      have hsame : forall i, i ∈ p.order -> cleanHeader (p.header i) = p.header i := by
        intro i hi
        by_contra hne
        exact hnone (List.any_eq_true.mpr ⟨i, hi, decide_eq_true hne⟩)
      rw [ht, Text.unblanked_append, Text.unblanked_append]
      refine congrArg (first.unblanked ++ ·) ?_
      rw [Text.unblanked, Text.unblanked, List.filter_flatMap, List.filter_flatMap]
      refine List.flatMap_congr fun i hi => ?_
      have hheader := unblanked_cleanHeader (p.header i)
      rw [hsame i hi] at hheader
      simp only [List.filter_append]
      exact congrArg (_ ++ · ++ _) hheader
  · rename_i hno
    exact .inl ⟨Bool.eq_false_iff.mpr hno, (Except.ok.inj h).symm⟩

end Placeholders

/-- What is left of a text is, but for blanks, the text without the comments that match the catalogue, and in the headers
of the page read from that without placeholders; all in the same order, and nothing else. -/
theorem unblanked_boilerplate {x : Context} {t : Text} {o? : Option Outcome} (hrun : Rule.boilerplate.run x t = .ok o?) :
    (removeTargets x.config t).unblanked = (cutFrom 0 t (targets x.config t)).unblanked ∧
      (((removeTargets x.config t).hasInfix "tipo de palabra" = false ∧
          ((o?.map Outcome.text).getD t).unblanked = (removeTargets x.config t).unblanked) ∨
        exists p, x.read (removeTargets x.config t) = .ok p ∧ exists (first : Text) (before behind : Nat -> Text),
          (removeTargets x.config t).unblanked =
            (first ++ p.order.flatMap fun i => before i ++ p.header i ++ behind i).unblanked ∧
          ((o?.map Outcome.text).getD t).unblanked =
            (first ++ p.order.flatMap fun i => before i ++ withoutPlaceholders (p.header i) ++ behind i).unblanked) := by
  rcases exists_of_bind_eq_ok hrun with ⟨kept, hkept, h⟩
  refine ⟨unblanked_removeTargets x.config t, ?_⟩
  rw [← Except.ok.inj h, Outcome.unblanked_of?]
  rcases exists_pieces_of_removePlaceholders hkept with ⟨hno, rfl⟩ | ⟨p, hread, hpieces⟩
  · exact .inl ⟨hno, rfl⟩
  · exact .inr ⟨p, hread, hpieces⟩

/-- A comment in a header, without which a placeholder stands there. -/
def headerWithComment : Text :=
  "==a <!-<!-- -->- tipo de palabra, por ejemplo x--> b=="

def headerWithPlaceholder : Text :=
  "==a <!-- tipo de palabra, por ejemplo x--> b=="

theorem targets_headerWithComment : targets .builtin headerWithComment = [⟨7, 15⟩] := by
  decide +kernel

theorem removeTargets_headerWithComment : removeTargets .builtin headerWithComment = headerWithPlaceholder := by
  rw [removeTargets, targets_headerWithComment]
  decide +kernel

theorem removePlaceholders_headerWithPlaceholder :
    removePlaceholders ⟨.builtin, "t", false⟩ headerWithPlaceholder = .ok "==a b==".toList := by
  have hignored : ignored headerWithPlaceholder = [⟨4, 42⟩] :=
    ignored_eq_mergeSorted [⟨4, 42⟩] (by decide +kernel) (by decide)
  have hsanitized : sanitizeBlanks headerWithPlaceholder = headerWithPlaceholder :=
    sanitizeBlanks_eq_self hignored (by decide +kernel) (by decide +kernel) (by decide +kernel)
  have hchunks : chunks (sanitizeBlanks headerWithPlaceholder) = ([], [headerWithPlaceholder]) := by
    rw [hsanitized]
    unfold chunks headerPlaces
    rw [hignored]
    decide +kernel
  have hne : headerWithPlaceholder ≠ [] := by
    unfold headerWithPlaceholder
    decide
  have hfound : headerWithPlaceholder.hasInfix "tipo de palabra" = true := by decide +kernel
  unfold removePlaceholders Context.read
  rw [if_pos hfound, read_of_chunks hne hchunks]
  decide +kernel

theorem run_headerWithComment : Rule.boilerplate.run ⟨.builtin, "t", false⟩ headerWithComment =
    .ok (some ⟨"==a b==", some "eliminando comentarios"⟩) := by
  show (removePlaceholders ⟨.builtin, "t", false⟩ (removeTargets .builtin headerWithComment) >>= fun kept =>
    .ok (Outcome.of? headerWithComment kept (some "eliminando comentarios"))) = _
  rw [removeTargets_headerWithComment, removePlaceholders_headerWithPlaceholder]
  decide +kernel

theorem unblanked_boilerplate_headerWithComment :
    Rule.boilerplate.run ⟨.builtin, "t", false⟩ headerWithComment =
        .ok (some ⟨"==a b==", some "eliminando comentarios"⟩) ∧
      headerWithPlaceholder.unblanked = (cutFrom 0 headerWithComment [⟨7, 15⟩]).unblanked ∧
      exists p, Context.read ⟨.builtin, "t", false⟩ headerWithPlaceholder = .ok p ∧
        exists (first : Text) (before behind : Nat -> Text),
          headerWithPlaceholder.unblanked =
            (first ++ p.order.flatMap fun i => before i ++ p.header i ++ behind i).unblanked ∧
          Text.unblanked "==a b==" =
            (first ++ p.order.flatMap fun i => before i ++ withoutPlaceholders (p.header i) ++ behind i).unblanked := by
  have hparts := unblanked_boilerplate run_headerWithComment
  have hfound : headerWithPlaceholder.hasInfix "tipo de palabra" = true := by decide +kernel
  dsimp only at hparts
  rw [removeTargets_headerWithComment, targets_headerWithComment] at hparts
  rcases hparts with ⟨hcut, ⟨hno, _⟩ | hpieces⟩
  · rw [hfound] at hno
    cases hno
  · exact ⟨run_headerWithComment, hcut, hpieces⟩

/-- What a comment leaves may be taken for a placeholder, though no placeholder stands in the text. -/
theorem not_forall_sublist_boilerplate :
    ¬ forall (x : Context) (t : Text) (o? : Option Outcome), Rule.boilerplate.run x t = .ok o? ->
      (cutFrom 0 t (combine (targets x.config t :: placeholders.map (·.spans t)))).unblanked.Sublist
        ((o?.map Outcome.text).getD t).unblanked := by
  intro h
  have hplaceholders : placeholders.map (·.spans headerWithComment) = [[], []] := by decide +kernel
  have hcombine : combine [[⟨7, 15⟩], [], []] = [(⟨7, 15⟩ : Span)] := by
    rw [combine, show [[(⟨7, 15⟩ : Span)], [], []].flatten = [⟨7, 15⟩] from rfl, List.mergeSort_singleton]
    rfl
  have hlost := h ⟨.builtin, "t", false⟩ headerWithComment _ run_headerWithComment
  dsimp only at hlost
  rw [targets_headerWithComment, hplaceholders, hcombine] at hlost
  exact absurd hlost (by decide +kernel)

end Comments
end WikiEntry
