import WikiEntry.Proofs.LegacyLayout.Lines

/-!
# Spellings of current sections

The spelling that a header gives is current if the header is.  It is written into a template, into a template of its own,
or into a comment, and none of these makes a legacy name of it.
-/

namespace WikiEntry
namespace LegacyLayout

variable {t : Text}

/-!
# The end of a comment
-/

theorem eq_append_of_hasInfix {t p : Text} (h : t.hasInfix p = true) : exists a b, t = a ++ p ++ b := by
  rcases Option.isSome_iff_exists.mp h with ⟨n, hn⟩
  exact ⟨_, _, Text.eq_append_of_find? hn⟩

theorem hasInfix_append_dashes {name : Text} (h : Text.hasInfix (name ++ "-->") "-ES" = true) :
    name.hasInfix "-ES" = true := by
  rcases eq_append_of_hasInfix h with ⟨a, b, heq⟩
  rcases List.append_eq_append_iff.mp heq with ⟨c, hname, hdashes⟩ | ⟨c, hname, _⟩
  · have hlast := congrArg List.getLast? hname
    rw [List.getLast?_append, List.getLast?_append] at hlast
    cases hc : c.getLast? with
    | none =>
        rw [List.getLast?_eq_none_iff.mp hc, List.append_nil] at hname
        rw [← hname, ← List.append_nil (a ++ _)]
        exact hasInfix_append a "-ES" []
    | some d =>
        rw [hc] at hlast
        have hd : 'S' = d := Option.some.inj hlast
        have hmem : 'S' ∈ "-->".toList := by
          rw [hdashes, hd]
          exact List.mem_append_left b (List.mem_of_getLast? hc)
        exact absurd hmem (by decide)
  · rw [hname]
    exact hasInfix_append a "-ES" c

/-- Neither does the end of a comment hold a legacy name, nor does it make one of what stands in front of it. -/
theorem isCurrentName_append_dashes {name : Text} (h : isCurrentName name = true) : isCurrentName (name ++ "-->") = true := by
  have hcontains : (Marks.legacyNames.map squeeze).contains (name ++ "-->") = false := by
    rw [Bool.eq_false_iff]
    intro hmem
    have hlast : forall n, n ∈ Marks.legacyNames.map squeeze -> n.getLast? ≠ some '>' := by decide
    refine hlast _ (List.contains_iff_mem.mp hmem) ?_
    rw [List.getLast?_append]
    rfl
  have hinfix : Text.hasInfix (name ++ "-->") "-ES" = false := by
    rw [Bool.eq_false_iff]
    intro hin
    rw [isCurrentName, hasInfix_append_dashes hin] at h
    simp at h
  have hne : List.isEmpty (name ++ "-->".toList) = false := by
    cases name <;> rfl
  rw [isCurrentName, hne, hinfix, hcontains]
  rfl

theorem opensCurrent_append_dashes {r : Text} (h : opensCurrent r = true) : opensCurrent (r ++ "-->") = true := by
  have hdashes := List.all_eq_true.mp (by decide : "-->".toList.all isNameChar = true)
  by_cases hall : r.dropWhile isNameChar = []
  · have hname := List.dropWhile_eq_nil_iff.mp hall
    have htake : (r ++ "-->").takeWhile isNameChar = r.takeWhile isNameChar ++ "-->" := by
      rw [List.takeWhile_append_of_pos hname, List.takeWhile_eq_self_iff.mpr hname, List.takeWhile_eq_self_iff.mpr hdashes]
    have hdrop : (r ++ "-->").dropWhile isNameChar = [] := by
      rw [List.dropWhile_append_of_pos hname, List.dropWhile_eq_nil_iff.mpr hdashes]
    rw [opensCurrent, Bool.and_eq_true] at h ⊢
    rw [htake, hdrop]
    exact ⟨isCurrentName_append_dashes h.1, rfl⟩
  · rwa [opensCurrent_append_of_ended hall]

theorem IsCurrent.append_dashes (h : IsCurrent t) : IsCurrent (t ++ " -->") := by
  have hdashes : squeeze " -->" = "-->".toList := by decide
  rw [IsCurrent, ← List.append_nil (squeeze t)] at h
  rw [IsCurrent, squeeze_append, hdashes]
  refine allCurrent_exchange (fun _ => rfl) (fun r hr => ?_) h rfl
  rw [List.append_nil] at hr
  exact opensCurrent_append_dashes hr

/-!
# Reading a spelling
-/

theorem exists_append_of_groupHeader {header : Text} {m : Match} (hm : groupHeader.find? header = some m) :
    exists front, header = front ++ m.text header 1 := by
  rcases Pattern.reads_of_find?_whole hm with ⟨s, hreads, _, hgroups⟩
  rcases hreads.seq_inv with ⟨front, spelling, s1, hheader, hfront, hspelling⟩
  have hplace : s1.place = front.length := by
    rw [hfront.advances.2]
    exact Nat.zero_add _
  have hspans : m.groups = [(1, ⟨s1.place, s1.place + spelling.length⟩)] := by
    rw [hgroups, hspelling.group_groupless rfl, hfront.lit_inv.2]
  have htext : m.text header 1 = spelling := by
    rw [Match.text_of_lookup (by decide) (by rw [hspans]; rfl)]
    exact Text.slice_of_eq_append (u := front) (v := []) (by rw [hheader, List.append_nil]) (by rw [hplace])
  exact ⟨front, by rw [htext, hheader]⟩

theorem isCurrent_spellingOfHeader? {s : Section} (h : CurrentSection s) {spelling : Text}
    (hspelling : spellingOfHeader? s = some spelling) : IsCurrent spelling := by
  rw [spellingOfHeader?] at hspelling
  have hfound := (Option.filter_eq_some_iff.mp hspelling).1
  split at hfound
  · rename_i language hlanguage
    exact isCurrent_get? (isCurrent_render_iff.mp (h.language language hlanguage)).2 hfound
  · rcases Option.map_eq_some_iff.mp hfound with ⟨m, hm, rfl⟩
    rcases exists_append_of_groupHeader hm with ⟨front, hheader⟩
    have hcurrent : IsCurrent s.header := h.header
    rw [hheader] at hcurrent
    exact hcurrent.of_append.trim

/-!
# Writing a spelling
-/

theorem isCurrent_render_append_iff {u : Template} {b : Text} :
    IsCurrent (u.render ++ b) <-> IsCurrent u.render ∧ IsCurrent b := by
  have hrender : u.render ++ b =
      ("\x7b\x7b".toList ++ u.name) ++ (u.params.flatMap Param.render ++ '\x7d' :: ('\x7d' :: b)) := by
    simp [Template.render]
  rw [hrender, isCurrent_append_flatMap_render, isCurrent_cons_iff (by decide), isCurrent_render_iff, and_assoc]

/-- A template of a current text may be replaced by a current one. -/
theorem isCurrent_replaceOne {place : Span} {u : Template} (h : IsCurrent t) (hmem : (place, u) ∈ Template.located t) :
    IsCurrent u.render ∧ forall v : Template, IsCurrent v.render -> IsCurrent (Edit.applyAll t [⟨place, v.render⟩]) := by
  rcases Template.of_mem_located hmem with ⟨hspan, hrender⟩
  rcases begins_of_mem_spans hspan with ⟨r, hbegins⟩
  have hfrom : IsCurrent (u.render ++ t.drop place.stop) := by
    rw [hrender, ← drop_eq_slice_append (Template.within_of_mem_spansFrom hspan).start_lt_stop.le]
    exact h.drop _
  have hsplit : IsCurrent (t.take place.start ++ t.drop place.start) := by
    rwa [List.take_append_drop]
  rcases isCurrent_render_append_iff.mp hfrom with ⟨hu, hrest⟩
  refine ⟨hu, fun v hv => ?_⟩
  rw [Edit.applyAll, Edit.applyFrom, Edit.applyFrom, Nat.sub_zero, Nat.sub_zero, List.append_assoc]
  exact hsplit.append_of_begins ⟨(List.nil_append _).symm, List.forall_mem_nil _, Or.inr ⟨r, hbegins⟩⟩
    (isCurrent_render_append_iff.mpr ⟨hv, hrest⟩)

theorem CurrentSection.writeSpelling {s : Section} (h : CurrentSection s) {spelling : Text}
    (hspelling : IsCurrent spelling) : CurrentSection (writeSpelling s spelling) := by
  have hintro : IsCurrent s.intro := h.body
  rw [LegacyLayout.writeSpelling]
  split
  · rename_i place u hlocated
    split
    · exact h
    · have hmem : (place, u) ∈ Template.locatedNamed s.intro "pron.la" := hlocated ▸ List.mem_singleton_self _
      rcases isCurrent_replaceOne hintro (List.mem_filter.mp hmem).1 with ⟨hu, hreplaced⟩
      exact h.setIntro (hreplaced _ (isCurrent_set hu (isCurrent_of_not_mem (by decide)) hspelling))
  · split
    · have heq : s.intro ++ "\n\x7b\x7bdiacrítico|" ++ spelling ++ "\x7d\x7d." =
          s.intro ++ '\n' :: ("\x7b\x7bdiacrítico".toList ++ '|' :: (spelling ++ '\x7d' :: "\x7d.".toList)) := by
        simp
      refine h.setIntro ?_
      rw [heq, isCurrent_append_iff (by decide), isCurrent_append_iff (by decide), isCurrent_append_iff (by decide)]
      exact ⟨hintro, by decide +kernel, hspelling, isCurrent_of_not_mem (by decide)⟩
    · have heq : "<!-- NO EDITAR: alt=" ++ spelling ++ " -->\n" ++ s.intro =
          "<!-- NO EDITAR: alt".toList ++ '=' :: (spelling ++ " -->" ++ '\n' :: s.intro) := by
        simp
      refine h.setIntro ?_
      rw [heq, isCurrent_append_iff (by decide), isCurrent_append_iff (by decide)]
      exact ⟨isCurrent_of_not_mem (by decide), hspelling.append_dashes, hintro⟩

theorem CurrentSection.moveSpelling {s : Section} (h : CurrentSection s) : CurrentSection (moveSpelling s) := by
  rw [LegacyLayout.moveSpelling]
  split
  · rename_i spelling hspelling
    exact (h.writeSpelling (isCurrent_spellingOfHeader? h hspelling)).removeLanguageParam "alt"
  · exact h

end LegacyLayout
end WikiEntry
