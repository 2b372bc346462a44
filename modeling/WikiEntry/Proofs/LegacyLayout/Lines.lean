import WikiEntry.Proofs.LegacyLayout.Pages

/-!
# Etymology lines and spellings of current sections

The conversion moves etymology lines between sections, and writes the spellings of legacy templates below the new
headers.  It cuts in front of templates and at line ends, so that current texts stay current.
-/

namespace WikiEntry
namespace LegacyLayout

variable {t : Text}

/-!
# Taking etymology lines out
-/

/-- What is taken for an etymology template: the line goes to a line end, and what is removed for it begins with the
markers in front of it. -/
structure TakesLine (t : Text) (last : Nat) (s : Span) (line : Text) (removed : Span) : Prop where
  line_append : exists rest, t.drop s.start = line ++ rest ∧ (rest = [] ∨ exists r, rest = '\n' :: r)
  last_le : last ≤ removed.start
  start_le : removed.start ≤ removed.stop
  markers : exists m, t.drop removed.start = m ++ t.drop s.start ∧ forall c, c ∈ m -> EtymologyLines.isMarker c = true

theorem drop_eq_slice_append {first last : Nat} (h : first ≤ last) :
    t.drop first = t.slice ⟨first, last⟩ ++ t.drop last := by
  have hdrop : t.drop last = (t.drop first).drop (last - first) := by
    rw [List.drop_drop, Nat.add_sub_cancel' h]
  rw [hdrop]
  exact (List.take_append_drop _ _).symm

/-- The markers in front of a place, back to `bound`. -/
theorem exists_markers {bound place : Nat} (hle : bound ≤ place) (hplace : place ≤ t.length) :
    bound ≤ place - ((t.slice ⟨bound, place⟩).reverse.takeWhile EtymologyLines.isMarker).length ∧
      exists m, t.drop (place - ((t.slice ⟨bound, place⟩).reverse.takeWhile EtymologyLines.isMarker).length) =
        m ++ t.drop place ∧ forall c, c ∈ m -> EtymologyLines.isMarker c = true := by
  have hslice := drop_eq_slice_append (t := t) hle
  have hlength : (t.slice ⟨bound, place⟩).length = place - bound := by
    have := congrArg List.length hslice
    rw [List.length_drop, List.length_append, List.length_drop] at this
    omega
  have hparts := Text.trimRightBy_append (t.slice ⟨bound, place⟩) EtymologyLines.isMarker
  have hmarkers : forall c, c ∈ ((t.slice ⟨bound, place⟩).reverse.takeWhile EtymologyLines.isMarker).reverse ->
      EtymologyLines.isMarker c = true := fun c hc => List.mem_takeWhile_imp (List.mem_reverse.mp hc)
  have hcount : ((t.slice ⟨bound, place⟩).reverse.takeWhile EtymologyLines.isMarker).length =
      ((t.slice ⟨bound, place⟩).reverse.takeWhile EtymologyLines.isMarker).reverse.length := List.length_reverse.symm
  rw [hcount]
  generalize ((t.slice ⟨bound, place⟩).reverse.takeWhile EtymologyLines.isMarker).reverse = m at hparts hmarkers
  generalize Text.trimRightBy (t.slice ⟨bound, place⟩) EtymologyLines.isMarker = front at hparts
  rw [← hparts, List.length_append] at hlength
  have hstart : place - m.length = bound + front.length := by omega
  refine ⟨by omega, m, ?_, hmarkers⟩
  rw [hstart, ← List.drop_drop, hslice, ← hparts, List.append_assoc, List.drop_left]

theorem takesLine_of_takeLine? {last : Nat} {s : Span} {line : Text} {removed : Span} (hlast : last ≤ s.start)
    (hspan : s.start ≤ s.stop) (hstop : s.stop ≤ t.length)
    (h : EtymologyLines.takeLine? t last s = some (line, removed)) : TakesLine t last s line removed := by
  rw [EtymologyLines.takeLine?] at h
  dsimp only at h
  split at h
  · cases h
  · generalize ((t.take s.start).reverse.takeWhile (· ≠ '\n')).length = before at h
    generalize hbound : max (s.start - before) last = bound at h
    have hle : bound ≤ s.start := by omega
    rcases exists_markers (t := t) hle (hspan.trans hstop) with ⟨hfirst, m, hdrop, hmarkers⟩
    generalize ((t.slice ⟨bound, s.start⟩).reverse.takeWhile EtymologyLines.isMarker).length = n at h hfirst hdrop
    have hrest := congrArg (List.drop ((t.drop s.stop).takeWhile (· ≠ '\n')).length)
      (List.takeWhile_append_dropWhile (p := (· ≠ '\n')) (l := t.drop s.stop))
    rw [List.drop_left, List.drop_drop] at hrest
    cases Option.some.inj h
    refine ⟨⟨_, drop_eq_slice_append (hspan.trans (Nat.le_add_right _ _)), ?_⟩, ?_, ?_, m, hdrop, hmarkers⟩
    · rw [← hrest]
      have hhead := List.head?_dropWhile_not (· ≠ '\n') (t.drop s.stop)
      cases hdropped : (t.drop s.stop).dropWhile (· ≠ '\n') with
      | nil => exact Or.inl rfl
      | cons c r =>
          rw [hdropped] at hhead
          have hnewline : c = '\n' := by simpa using hhead
          exact Or.inr ⟨r, by rw [hnewline]⟩
    · show last ≤ s.start - n
      omega
    · dsimp only
      split <;> omega

theorem begins_of_mem_spans {s : Span} (hs : s ∈ Template.spans t) : exists r, t.drop s.start = '\x7b' :: '\x7b' :: r := by
  rcases Template.exists_of_mem_spans hs with ⟨before, rest, _, hopens, _, rfl⟩
  exact ⟨rest, by rw [hopens.eq_append, List.drop_left]⟩

theorem TakesLine.isCurrent_line {last : Nat} {s removed : Span} {line : Text} (h : TakesLine t last s line removed)
    (ht : IsCurrent t) : IsCurrent line := by
  rcases h.line_append with ⟨behind, hdrop, hbehind⟩
  have hfrom := ht.drop s.start
  rw [hdrop] at hfrom
  rcases hbehind with rfl | ⟨r, rfl⟩
  · rwa [List.append_nil] at hfrom
  · exact ((isCurrent_append_iff (by decide)).mp hfrom).1

/-- A removed region begins where no name is open, so that anything current may follow what is in front of it. -/
theorem TakesLine.isCurrent_applyFrom {last : Nat} {s removed : Span} {line : Text} {edits : List Edit}
    (h : TakesLine t last s line removed) (ht : IsCurrent t) (hs : s ∈ Template.spans t)
    (hrest : IsCurrent (Edit.applyFrom removed.stop (t.drop removed.stop) edits)) :
    IsCurrent (Edit.applyFrom last (t.drop last) (⟨removed, []⟩ :: edits)) := by
  rcases h.markers with ⟨m, hmarkers, hm⟩
  have hfrom := ht.drop last
  rw [drop_eq_slice_append h.last_le] at hfrom
  have hbegins : Begins (t.drop removed.start) m (t.drop s.start) := ⟨hmarkers, hm, Or.inr (begins_of_mem_spans hs)⟩
  rw [Edit.applyFrom, List.append_nil, List.drop_drop, Nat.add_sub_cancel' (h.last_le.trans h.start_le)]
  exact hfrom.append_of_begins hbegins hrest

/-- The lines are current, and so is the text without what is removed for them. -/
theorem isCurrent_takeLines (h : IsCurrent t) (ignored : List Span) {spans : List Span} {last next : Nat}
    (hspans : forall s, s ∈ spans -> s ∈ Template.spans t) (hnext : last ≤ next) :
    (forall x, x ∈ EtymologyLines.takeLines t ignored last next spans -> IsCurrent x.1) ∧
      IsCurrent (Edit.applyFrom last (t.drop last)
        ((EtymologyLines.takeLines t ignored last next spans).map fun x => ⟨x.2, []⟩)) := by
  -- What was removed last ends in front of the templates still to come.
  induction spans generalizing last next with
  | nil => exact ⟨List.forall_mem_nil _, h.drop last⟩
  | cons s spans ih =>
      rcases List.forall_mem_cons.mp hspans with ⟨hs, hspans⟩
      have hwithin := Template.within_of_mem_spansFrom hs
      have hspan := hwithin.start_lt_stop.le
      rw [EtymologyLines.takeLines]
      split
      · exact ih hspans hnext
      · rename_i hstart
        have hlast : last ≤ s.start := hnext.trans (Nat.le_of_not_lt hstart)
        dsimp only
        split
        · rename_i line removed htaken
          have htaken : EtymologyLines.takeLine? t last s = some (line, removed) := by
            split at htaken
            · exact htaken
            · cases htaken
          have hline := takesLine_of_takeLine? hlast hspan (hwithin.le_last.trans (Nat.zero_add _).le) htaken
          rcases ih hspans (Nat.le_max_right s.stop removed.stop) with ⟨hlines, hrest⟩
          exact ⟨List.forall_mem_cons.mpr ⟨hline.isCurrent_line h, hlines⟩, hline.isCurrent_applyFrom h hs hrest⟩
        · exact ih hspans (hlast.trans hspan)

/-- Etymology lines are taken out of a current text, and what is left is current too. -/
theorem isCurrent_take (h : IsCurrent t) :
    IsCurrent (EtymologyLines.take t).1 ∧ forall line, line ∈ (EtymologyLines.take t).2 -> IsCurrent line := by
  rcases isCurrent_takeLines h (Region.ignored t) (fun _ hs => hs) (Nat.le_refl 0) with ⟨hlines, hrest⟩
  refine ⟨hrest, fun line hline => ?_⟩
  rcases List.mem_map.mp hline with ⟨x, hx, rfl⟩
  exact hlines x hx

theorem currentSection_move {source target : Section} (hsource : CurrentSection source) (htarget : CurrentSection target) :
    CurrentSection (EtymologyLines.move source target).1 ∧ CurrentSection (EtymologyLines.move source target).2 := by
  rcases isCurrent_take hsource.body with ⟨hrest, hlines⟩
  have hjoined : IsCurrent (Text.joinWith "\n\n" (EtymologyLines.take source.intro).2) :=
    (isCurrent_joinWith_iff 1 _).mpr hlines
  rw [EtymologyLines.move]
  dsimp only
  split
  · exact ⟨hsource, htarget⟩
  · refine ⟨hsource.setIntro hrest, htarget.setIntro ?_⟩
    rw [List.append_assoc]
    exact (isCurrent_append_iff (c := '\n') (by decide)).mpr ⟨htarget.body, hjoined⟩

theorem isCurrent_mergeIntros {above below : Text} (habove : IsCurrent above) (hbelow : IsCurrent below) :
    IsCurrent (mergeIntros above below) := by
  have hmerged : IsCurrent (above ++ "\n" ++ below).trim := by
    rw [List.append_assoc]
    exact IsCurrent.trim ((isCurrent_append_iff (c := '\n') (by decide)).mpr ⟨habove, hbelow⟩)
  rcases isCurrent_take hmerged with ⟨hrest, hlines⟩
  have hjoined : IsCurrent (Text.joinWith "\n\n" (EtymologyLines.take (above ++ "\n" ++ below).trim).2) :=
    (isCurrent_joinWith_iff 1 _).mpr hlines
  rw [mergeIntros]
  dsimp only
  split
  · exact hmerged
  · split
    · exact hmerged
    · rw [List.append_assoc]
      exact (isCurrent_append_iff (c := '\n') (by decide)).mpr ⟨hrest.trim, hjoined⟩

end LegacyLayout
end WikiEntry
