import WikiEntry.Proofs.Editor
import WikiEntry.Proofs.Prose.Rules

/-!
# Checking plain prose

A check of prose on several lines joins the lines with spaces, and does nothing else.  What it leaves is prose on
one line, which a further check leaves alone.
-/

namespace WikiEntry
namespace Text

/-- A word over the letters from a to z. -/
def IsWord (w : Text) : Prop :=
  w ≠ [] ∧ forall ch, ch ∈ w -> 'a' ≤ ch ∧ ch ≤ 'z'

instance (w : Text) : Decidable w.IsWord :=
  @instDecidableAnd _ _ _ (List.decidableBAll (fun ch => 'a' ≤ ch ∧ ch ≤ 'z') w)

/-- Some words, separated by single spaces. -/
def IsProseLine (l : Text) : Prop :=
  exists ws : List Text, ws ≠ [] ∧ (forall w, w ∈ ws -> w.IsWord) ∧ l = joinWith " " ws

theorem mem_letters {ch : Char} (hfirst : 'a' ≤ ch) (hlast : ch ≤ 'z') : ch ∈ letters := by
  have hall : ((List.range 26).map fun n => Char.ofNat (97 + n)).all letters.contains = true := by decide
  have hlow : 97 ≤ ch.toNat := hfirst
  have hhigh : ch.toNat ≤ 122 := hlast
  have hmem : ch ∈ (List.range 26).map fun n => Char.ofNat (97 + n) := by
    refine List.mem_map.mpr ⟨ch.toNat - 97, List.mem_range.mpr (by omega), ?_⟩
    rw [Nat.add_sub_cancel' hlow, Char.ofNat_toNat]
  exact List.contains_iff_mem.mp (List.all_eq_true.mp hall ch hmem)

theorem IsWord.isProse {w : Text} (h : w.IsWord) : w.IsProse :=
  IsProse.ofLetters h.1 fun ch hch => mem_letters (h.2 ch hch).1 (h.2 ch hch).2

theorem IsProseLine.isProse {l : Text} (h : l.IsProseLine) : l.IsProse := by
  rcases h with ⟨ws, hne, hws, rfl⟩
  exact IsProse.joinWith ' ' (by decide) hne fun w hw => (hws w hw).isProse

theorem IsProseLine.newline_not_mem {l : Text} (h : l.IsProseLine) : '\n' ∉ l := by
  rcases h with ⟨ws, -, hws, rfl⟩
  intro hmem
  rcases mem_of_mem_joinWith hmem with hsep | ⟨w, hw, hmem⟩
  · exact absurd hsep (by decide)
  · exact absurd ((hws w hw).2 '\n' hmem).1 (by decide)

theorem isProseLine_joinWith {ls : List Text} (hne : ls ≠ []) (hls : forall l, l ∈ ls -> l.IsProseLine) :
    (joinWith " " ls).IsProseLine := by
  induction ls with
  | nil => exact absurd rfl hne
  | cons l rest ih =>
      by_cases hlast : rest = []
      · rw [hlast]
        exact hls l List.mem_cons_self
      · rcases hls l List.mem_cons_self with ⟨ws, hws, hwords, rfl⟩
        rcases ih hlast fun l hl => hls l (List.mem_cons_of_mem _ hl) with ⟨vs, hvs, hwords', heq⟩
        refine ⟨ws ++ vs, List.append_ne_nil_of_left_ne_nil hws vs, ?_, ?_⟩
        · intro w hw
          rcases List.mem_append.mp hw with hw | hw
          · exact hwords w hw
          · exact hwords' w hw
        · rw [joinWith_cons hlast, heq, joinWith_append " " hws hvs]

end Text

namespace LineJoining

/-!
# Joining
-/

theorem endsWithSpecialLink_of_isProse (c : Config) {t : Text} (ht : t.IsProse) :
    endsWithSpecialLink c t = false := by
  have hends : t.endsWith "]]" = false :=
    Text.endsWith_eq_false (a := ']') List.mem_cons_self (ht.not_mem (by decide))
  rw [endsWithSpecialLink, ht.trimRight_eq_self, hends]
  rfl

theorem startsWithSpecialLink_of_isProse (c : Config) {t : Text} (ht : t.IsProse) :
    startsWithSpecialLink c t = false := by
  have hafter : Text.after? "[[" t = none :=
    Text.after?_eq_none (a := '[') List.mem_cons_self (ht.not_mem (by decide))
  rw [startsWithSpecialLink, hafter]
  rfl

theorem endsWith_of_isProse {t : Text} (ht : t.IsProse) :
    (Text.listOf ["__", "----", "\x7d\x7d", "|\x7d"]).any t.endsWith = false := by
  have hmarks : (Text.listOf ["__", "----", "\x7d\x7d", "|\x7d"]).all
      (fun ending => ending.any fun ch => !Text.proseChars.contains ch) = true := by
    decide
  refine List.any_eq_false.mpr fun ending hending => Bool.eq_false_iff.mp ?_
  rcases List.any_eq_true.mp (List.all_eq_true.mp hmarks ending hending) with ⟨ch, hch, hbeyond⟩
  exact Text.endsWith_eq_false hch (ht.not_mem (by simpa using hbeyond))

/-- Two lines of prose can be joined. -/
theorem canJoin_of_isProse (c : Config) {prev next : Text} (hprev : prev.IsProse) (hnext : next.IsProse) :
    canJoin c false prev next = true := by
  rcases hprev.head with ⟨start, hstart, hstartLetter⟩
  rcases hprev.last with ⟨last, hlast, hlastLetter⟩
  rcases hnext.head with ⟨first, hfirst, hfirstLetter⟩
  have hlastPlain : (last ≠ '>' && last ≠ '=') = true :=
    Text.of_mem_letters (p := fun last => last ≠ '>' && last ≠ '=') (by decide) hlastLetter
  have hstartPlain : (!((":;*#" : Text).contains start || (start = ' ' && !false))) = true :=
    Text.of_mem_letters (p := fun start => !((":;*#" : Text).contains start || (start = ' ' && !false)))
      (by decide) hstartLetter
  have hfirstPlain : (!("\n<:;#*\x7b\x7d|=!" : Text).contains first && !(first = ' ' && !false)) = true :=
    Text.of_mem_letters
      (p := fun first => !("\n<:;#*\x7b\x7d|=!" : Text).contains first && !(first = ' ' && !false))
      (by decide) hfirstLetter
  have hnextPlain := startsWithSpecialLink_of_isProse c hnext
  rcases List.head?_eq_some_iff.mp hstart with ⟨prev, rfl⟩
  rcases List.head?_eq_some_iff.mp hfirst with ⟨next, rfl⟩
  unfold canJoin
  rw [hlast, Region.stripHidden_of_isProse hprev]
  dsimp only
  rw [hlastPlain, endsWith_of_isProse hprev, endsWithSpecialLink_of_isProse c hprev, hstartPlain, hfirstPlain, hnextPlain]
  simp

theorem applyFrom_joinEdits (c : Config) {ls : List Text} (hls : forall l, l ∈ ls -> l.IsProse) (place : Nat) :
    Edit.applyFrom place (Text.joinWith "\n" ls) (joinEdits c [] [] [] place ls) = Text.joinWith " " ls := by
  induction ls generalizing place with
  | nil => rfl
  | cons l rest ih =>
      cases rest with
      | nil => rfl
      | cons m rest =>
          have hjoin := canJoin_of_isProse c (hls l List.mem_cons_self) (hls m (by simp))
          have hedits : joinEdits c [] [] [] place (l :: m :: rest) =
              ⟨⟨place + l.length, place + l.length + 1⟩, [' ']⟩ ::
                joinEdits c [] [] [] (place + l.length + 1) (m :: rest) := by
            simp [joinEdits, Region.covers, hjoin]
          rw [hedits, Edit.applyFrom, Text.joinWith_cons (List.cons_ne_nil m rest),
            Text.joinWith_cons (List.cons_ne_nil m rest),
            ← ih (fun l hl => hls l (List.mem_cons_of_mem _ hl)) (place + l.length + 1)]
          show List.take (place + l.length - place) (l ++ ['\n'] ++ _) ++ [' '] ++
            Edit.applyFrom (place + l.length + 1) (List.drop (place + l.length + 1 - place) (l ++ ['\n'] ++ _)) _ = _
          have hnewline : place + l.length + 1 - place = (l ++ ['\n']).length := by
            rw [List.length_append, List.length_singleton]
            omega
          rw [hnewline, List.drop_left, Nat.add_sub_cancel_left, List.append_assoc l, List.take_left]
          rfl

theorem blocked_of_isProse {t : Text} (ht : t.IsProse) : blocked t = [] := by
  have hnone : (blockElements.map (Region.elements · t) ++ [Region.templates t, Region.tables t]).flatten = [] := by
    rw [Region.templates_of_isProse ht, Region.tables_of_isProse ht, List.flatten_eq_nil_iff]
    intro regions hregions
    rcases List.mem_append.mp hregions with hregions | hregions
    · rcases List.mem_map.mp hregions with ⟨tag, htag, rfl⟩
      rcases List.mem_map.mp htag with ⟨name, _, rfl⟩
      exact Region.elements_of_isProse ht name
    · simpa using hregions
  rw [blocked, Region.combine, hnone, List.mergeSort_nil]
  rfl

theorem joinProse_joinWith (c : Config) {ls : List Text} (hne : ls ≠ []) (hls : forall l, l ∈ ls -> l.IsProseLine) :
    joinProse c (Text.joinWith "\n" ls) = Text.joinWith " " ls := by
  have hprose : (Text.joinWith "\n" ls).IsProse :=
    Text.IsProse.joinWith '\n' (by decide) hne fun l hl => (hls l hl).isProse
  rw [joinProse, Region.ignored_of_isProse hprose, Region.TagPattern.ref, Region.elements_of_isProse hprose,
    blocked_of_isProse hprose]
  show Edit.applyAll _ (joinEdits c [] [] [] 0 (Text.splitOn _ ['\n'])) = _
  rw [Text.lines_joinWith hne fun l hl => (hls l hl).newline_not_mem]
  exact applyFrom_joinEdits c (fun l hl => (hls l hl).isProse) 0

theorem joinDefinitions_of_isProse {t : Text} (ht : t.IsProse) : joinDefinitions t = t := by
  rw [joinDefinitions, ht.reviseOutside_eq_self (by decide),
    Pattern.replaceAll_eq_self ht.chars (by decide), List.filter_eq_self]
  intro ch hch
  refine decide_eq_true ?_
  rintro rfl
  exact ht.not_mem (by decide) hch

end LineJoining

/-!
# The rule and the editor
-/

section

variable {ls : List Text}

theorem isProse_joinWith (blank : Char) (hblank : blank ∈ Text.proseChars) (hne : ls ≠ [])
    (hls : forall l, l ∈ ls -> l.IsProseLine) : (Text.joinWith [blank] ls).IsProse :=
  Text.IsProse.joinWith blank hblank hne fun l hl => (hls l hl).isProse

/-- Joining changes what stands on several lines, because there is a newline to go. -/
theorem changed_joinWith (hne : ls ≠ []) (hls : forall l, l ∈ ls -> l.IsProseLine) :
    changed (Text.joinWith "\n" ls) (Text.joinWith " " ls) = decide (2 ≤ ls.length) := by
  have hlines : (Text.joinWith "\n" ls).IsProse := isProse_joinWith '\n' (by decide) hne hls
  have hline : (Text.joinWith " " ls).IsProse := isProse_joinWith ' ' (by decide) hne hls
  rw [changed, hlines.trimRight_eq_self, hline.trimRight_eq_self]
  cases ls with
  | nil => exact absurd rfl hne
  | cons l rest =>
      cases rest with
      | nil => exact bne_self_eq_false l
      | cons m rest =>
          have hnewline : '\n' ∉ Text.joinWith " " (l :: m :: rest) := by
            intro hmem
            rcases Text.mem_of_mem_joinWith hmem with hsep | ⟨l, hl, hmem⟩
            · exact absurd hsep (by decide)
            · exact (hls l hl).newline_not_mem hmem
          have hdiffer : Text.joinWith "\n" (l :: m :: rest) ≠ Text.joinWith " " (l :: m :: rest) := by
            intro heq
            rw [← heq, Text.joinWith_cons (List.cons_ne_nil m rest)] at hnewline
            exact hnewline (List.mem_append_left _ (List.mem_append_right _ (List.mem_singleton_self _)))
          rw [bne_iff_ne.mpr hdiffer]
          exact (decide_eq_true (by simp)).symm

theorem Rule.run_lineJoining_of_proseLines (x : Context) (hne : ls ≠ []) (hls : forall l, l ∈ ls -> l.IsProseLine) :
    lineJoining.run x (Text.joinWith "\n" ls) =
      .ok (if 2 ≤ ls.length then some ⟨Text.joinWith " " ls, some "uniendo líneas"⟩ else none) := by
  have hline : (Text.joinWith " " ls).IsProse := isProse_joinWith ' ' (by decide) hne hls
  show Except.ok (Outcome.of? _ (LineJoining.joinDefinitions (LineJoining.joinProse x.config _)) _) = _
  rw [LineJoining.joinProse_joinWith x.config hne hls, LineJoining.joinDefinitions_of_isProse hline, Outcome.of?,
    changed_joinWith hne hls]
  simp only [decide_eq_true_eq]

end

namespace Editor

/-- Rules that leave prose alone leave an editor of prose as it is. -/
theorem applyAll_of_leavesProse {e : Editor} (hlegacy : e.legacy = false) (htext : e.text.IsProse) {rules : List Rule}
    (hrules : forall r, r ∈ rules -> r.LeavesProse) : e.applyAll rules = (e, none) := by
  induction rules with
  | nil => rfl
  | cons r rules ih =>
      have hrun : r.run e.context e.text = .ok none := hrules r List.mem_cons_self e.context e.text hlegacy htext
      have happly : e.apply r = .ok (e, false) := by
        rw [apply, hrun]
        rfl
      rw [applyAll, happly]
      exact ih fun r hr => hrules r (List.mem_cons_of_mem _ hr)

theorem applyAll_append {e e' : Editor} {rules : List Rule} (h : e.applyAll rules = (e', none)) (more : List Rule) :
    e.applyAll (rules ++ more) = e'.applyAll more := by
  induction rules generalizing e with
  | nil =>
      cases h
      rfl
  | cons r rules ih =>
      rw [applyAll] at h
      rw [List.cons_append, applyAll]
      cases happly : e.apply r with
      | error f =>
          rw [happly] at h
          cases h
      | ok answer =>
          rw [happly] at h
          exact ih h

section

variable {e : Editor} {ls : List Text}

/-- The editor with the lines joined, if there are several. -/
def joined (e : Editor) (ls : List Text) : Editor :=
  if 2 ≤ ls.length then e.record Rule.lineJoining ⟨Text.joinWith " " ls, some "uniendo líneas"⟩ else e

theorem apply_lineJoining (hne : ls ≠ []) (hls : forall l, l ∈ ls -> l.IsProseLine)
    (htext : e.text = Text.joinWith "\n" ls) :
    e.apply Rule.lineJoining = .ok (e.joined ls, decide (2 ≤ ls.length)) := by
  have hchanged := changed_joinWith hne hls
  rw [apply, htext, Rule.run_lineJoining_of_proseLines e.context hne hls, joined]
  by_cases hseveral : 2 ≤ ls.length
  · rw [if_pos hseveral, if_pos hseveral, decide_eq_true hseveral]
    rw [decide_eq_true hseveral] at hchanged
    show (if changed _ _ = true then _ else _) = _
    rw [if_pos hchanged]
    rfl
  · rw [if_neg hseveral, if_neg hseveral, decide_eq_false hseveral]
    rfl

theorem text_joined (hne : ls ≠ []) (htext : e.text = Text.joinWith "\n" ls) :
    (e.joined ls).text = Text.joinWith " " ls := by
  by_cases hseveral : 2 ≤ ls.length
  · rw [joined, if_pos hseveral]
    rfl
  · rw [joined, if_neg hseveral, htext]
    match ls, hseveral with
    | [], _ => exact absurd rfl hne
    | [l], _ => rfl
    | l :: m :: rest, hseveral => exact absurd (by simp) hseveral

theorem legacy_joined (hlegacy : e.legacy = false) (hne : ls ≠ []) (hls : forall l, l ∈ ls -> l.IsProseLine) :
    (e.joined ls).legacy = false := by
  by_cases hseveral : 2 ≤ ls.length
  · rw [joined, if_pos hseveral]
    exact Marks.isLegacy_of_isProse (isProse_joinWith ' ' (by decide) hne hls)
  · rwa [joined, if_neg hseveral]

theorem changes_joined :
    (e.joined ls).changes =
      e.changes ++ if 2 ≤ ls.length then [⟨"join_lines", some "uniendo líneas"⟩] else [] := by
  by_cases hseveral : 2 ≤ ls.length
  · rw [joined, if_pos hseveral, if_pos hseveral]
    rfl
  · rw [joined, if_neg hseveral, if_neg hseveral, List.append_nil]

/-- A check of prose joins its lines. -/
theorem check_of_proseLines (hlegacy : e.legacy = false) (hne : ls ≠ []) (hls : forall l, l ∈ ls -> l.IsProseLine)
    (htext : e.text = Text.joinWith "\n" ls) : e.check = (e.joined ls, none) := by
  have hprose : e.text.IsProse := htext ▸ isProse_joinWith '\n' (by decide) hne hls
  have hjoined : (e.joined ls).text.IsProse :=
    (text_joined hne htext) ▸ isProse_joinWith ' ' (by decide) hne hls
  have hall : e.applyAll Rule.all = (e.joined ls, none) := by
    rw [Rule.all_eq, applyAll_append (applyAll_of_leavesProse hlegacy hprose Rule.leavesProse_of_mem_beforeJoining),
      applyAll, apply_lineJoining hne hls htext]
    exact applyAll_of_leavesProse (legacy_joined hlegacy hne hls) hjoined Rule.leavesProse_of_mem_afterJoining
  rw [check, hall]

theorem check_of_proseLine (hlegacy : e.legacy = false) (htext : e.text.IsProseLine) : e.check = (e, none) := by
  have hlines : forall l, l ∈ [e.text] -> l.IsProseLine := fun l hl => List.mem_singleton.mp hl ▸ htext
  rw [check_of_proseLines hlegacy (List.cons_ne_nil _ _) hlines rfl]
  rfl

theorem ofPage_of_isProse (c : Config) (title : Text) {t : Text} (ht : t.IsProse) :
    ofPage c title t = ⟨c, title.trim, t, t, false, []⟩ := by
  rw [ofPage, Region.sanitizeBlanks_of_isProse ht, Marks.isLegacy_of_isProse ht]

/-- A check of prose on several lines succeeds, gives the same words on one line, and records nothing but that
lines were joined; a further check has nothing to do, whether by the same editor or by a new one. -/
theorem check_ofPage_proseLines (c : Config) (title : Text) (lines : List Text) (hne : lines ≠ [])
    (hlines : forall l, l ∈ lines -> l.IsProseLine) :
    let first := (ofPage c title (Text.joinWith "\n" lines)).check
    let second := (ofPage c title first.1.text).check
    (first.2 = none ∧ first.1.text = Text.joinWith " " lines ∧
      first.1.changes = if 2 ≤ lines.length then [⟨"join_lines", some "uniendo líneas"⟩] else []) ∧
    (second.2 = none ∧ second.1.text = first.1.text ∧ second.1.changes = []) ∧
    first.1.check = (first.1, none) := by
  have hwrapped := isProse_joinWith '\n' (by decide) hne hlines
  have hline := Text.isProseLine_joinWith hne hlines
  have hpage := ofPage_of_isProse c title hwrapped
  have htext := text_joined (e := ofPage c title (Text.joinWith "\n" lines)) hne (congrArg Editor.text hpage)
  intro first second
  have hfirst : first = ((ofPage c title (Text.joinWith "\n" lines)).joined lines, none) :=
    check_of_proseLines (congrArg Editor.legacy hpage) hne hlines (congrArg Editor.text hpage)
  have hjoined := ofPage_of_isProse c title hline.isProse
  have hsecond : second = (ofPage c title (Text.joinWith " " lines), none) := by
    show (ofPage c title first.1.text).check = _
    rw [hfirst, htext]
    exact check_of_proseLine (congrArg Editor.legacy hjoined) ((congrArg Editor.text hjoined).symm ▸ hline)
  rw [hsecond, hfirst]
  refine ⟨⟨rfl, htext, ?_⟩, ⟨rfl, ?_, rfl⟩, ?_⟩
  · rw [changes_joined]
    exact List.nil_append _
  · rw [htext]
    exact congrArg Editor.text hjoined
  · exact check_of_proseLine (legacy_joined (congrArg Editor.legacy hpage) hne hlines) (htext.symm ▸ hline)

/-- Two lines become one. -/
theorem check_ofPage_proseLines_wrapped :
    let lines : List Text := ["una casa", "de madera"]
    let first := (ofPage Config.builtin "casa" (Text.joinWith "\n" lines)).check
    Text.joinWith "\n" lines = "una casa\nde madera".toList ∧ first.2 = none ∧
      first.1.text = Text.joinWith " " lines ∧ first.1.changes = [⟨"join_lines", some "uniendo líneas"⟩] := by
  have hlines : forall l : Text, l ∈ ([("una casa" : Text), "de madera"] : List Text) -> l.IsProseLine := by
    intro l hl
    rcases List.mem_cons.mp hl with rfl | hl
    · exact ⟨["una".toList, "casa".toList], List.cons_ne_nil _ _, by decide, by decide⟩
    · rw [List.mem_singleton.mp hl]
      exact ⟨["de".toList, "madera".toList], List.cons_ne_nil _ _, by decide, by decide⟩
  rcases check_ofPage_proseLines Config.builtin "casa" _ (List.cons_ne_nil _ _) hlines with
    ⟨⟨hfault, hjoined, hchanges⟩, -⟩
  exact ⟨by decide, hfault, hjoined, hchanges.trans (if_pos (by decide))⟩

end
end Editor
end WikiEntry
