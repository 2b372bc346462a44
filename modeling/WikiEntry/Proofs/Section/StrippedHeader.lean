import WikiEntry.Proofs.LegacyLayout.Detection
import WikiEntry.Proofs.Page.HeaderLines
import WikiEntry.Proofs.Pattern.Beyond
import WikiEntry.Proofs.Region.Blanks
import WikiEntry.Proofs.Section.RoundTrip
import WikiEntry.Proofs.Text.Trimming

/-!
# What is left of a header

Footnotes, comments and unparsed text begin with an angle bracket, and sanitizing and trimming concern blanks only.  So
a header that begins with a plain word still does when it is stripped, and no newline comes into it.
-/

namespace WikiEntry

/-!
# Beginnings that stay
-/

namespace Edit

variable {t w : Text}

/-- What stands in front of all edits stays. -/
theorem prefix_applyAll (hw : w <+: t) {edits : List Edit} (h : forall e, e ∈ edits -> w.length ≤ e.span.start) :
    w <+: applyAll t edits := by
  cases edits with
  | nil => exact hw
  | cons e edits =>
      have htake : w <+: t.take (e.span.start - 0) := List.prefix_take_iff.mpr ⟨hw, h e List.mem_cons_self⟩
      rw [applyAll, applyFrom, List.append_assoc]
      exact htake.trans (List.prefix_append _ _)

end Edit

namespace Region

open Pattern

variable {t w new : Text} {p : Pattern}

theorem length_le_start (hw : w <+: t)
    (hp : forall s u s', p.Reads s u s' -> exists ch r, u = ch :: r ∧ ch ∉ w) {m : Match} (hm : m ∈ p.matchList t) :
    w.length ≤ m.start := by
  rcases (inOrder_matchList p t).matched m hm with ⟨u, s, hmatched⟩
  rcases hp _ _ _ hmatched.reads with ⟨ch, r, rfl, hch⟩
  exact Text.length_le_of_drop_eq hw hch hmatched.rest_eq

theorem prefix_replaceAll (hw : w <+: t) (hp : forall s u s', p.Reads s u s' -> exists ch r, u = ch :: r ∧ ch ∉ w) :
    w <+: p.replaceAll t new := by
  refine Edit.prefix_applyAll hw fun e he => ?_
  rcases List.mem_map.mp he with ⟨s, hs, rfl⟩
  rcases List.mem_map.mp hs with ⟨m, hm, rfl⟩
  exact length_le_start hw hp hm

theorem prefix_replaceOutside (hw : w <+: t) (hp : forall s u s', p.Reads s u s' -> exists ch r, u = ch :: r ∧ ch ∉ w) :
    w <+: replaceOutside t p new := by
  have hedits : replaceOutside t p new =
      Edit.applyAll t ((matchesOutside p (ignored t) Match.start t).map fun m => ⟨m.span, new⟩) := by
    rw [← editsWith_const new (fun _ _ => ()) ()]
    rfl
  rw [hedits]
  refine Edit.prefix_applyAll hw fun e he => ?_
  rcases List.mem_map.mp he with ⟨m, hm, rfl⟩
  exact length_le_start hw hp (List.mem_filter.mp hm).1

theorem prefix_stripHidden (hw : w <+: t) (hbracket : '<' ∉ w) : w <+: stripHidden t := by
  have hregions := brackets_hidden t
  rw [stripHidden]
  cases hhidden : hidden t with
  | nil => exact hw
  | cons s regions =>
      rw [hhidden] at hregions
      rcases hregions with ⟨_, _, ⟨r, hdrop⟩, _⟩
      have hle := Text.length_le_of_drop_eq hw hbracket hdrop
      have htake : w <+: t.take (s.start - 0) := List.prefix_take_iff.mpr ⟨hw, hle⟩
      exact htake.trans (List.prefix_append _ _)

theorem prefix_sanitizeBlanks (hw : w <+: t) (htab : '\t' ∉ w) (hspace : ' ' ∉ w) : w <+: sanitizeBlanks t := by
  have hruns : forall s u s', Pattern.Reads (.run true 2 none (.char ' ')) s u s' ->
      exists ch r, u = ch :: r ∧ ch ∉ w := by
    intro s u s' h
    rcases h.run_inv with ⟨hset, hleast, _⟩
    cases u with
    | nil => cases hleast
    | cons ch r =>
        have heq : ' ' = ch := eq_of_beq (hset ch List.mem_cons_self)
        exact ⟨ch, r, rfl, heq ▸ hspace⟩
  have htabs : forall s u s', Pattern.Reads ("\t" : Pattern) s u s' -> exists ch r, u = ch :: r ∧ ch ∉ w :=
    fun s u s' h => ⟨'\t', [], h.lit_inv.1, htab⟩
  have hends : forall s u s', Pattern.Reads (" \n" : Pattern) s u s' -> exists ch r, u = ch :: r ∧ ch ∉ w :=
    fun s u s' h => ⟨' ', ['\n'], h.lit_inv.1, hspace⟩
  exact prefix_replaceOutside (prefix_replaceOutside (prefix_replaceOutside hw htabs) hruns) hends

/-!
# Characters that do not come in
-/

theorem mem_of_mem_cutFrom {place : Nat} {rest : Text} {regions : List Span} {ch : Char}
    (h : ch ∈ cutFrom place rest regions) : ch ∈ rest := by
  induction regions generalizing place rest with
  | nil => exact h
  | cons s regions ih =>
      rcases List.mem_append.mp h with h | h
      · exact List.mem_of_mem_take h
      · exact List.mem_of_mem_drop (ih h)

theorem mem_of_mem_replaceAll {ch : Char} (h : ch ∈ p.replaceAll t new) : ch ∈ t ∨ ch ∈ new := by
  rcases mem_of_mem_applyFrom h with h | ⟨e, he, h⟩
  · exact Or.inl h
  · rcases List.mem_map.mp he with ⟨s, _, rfl⟩
    exact Or.inr h

/-- Sanitizing brings no newline into a text without any. -/
theorem newline_not_mem_sanitizeBlanks (ht : '\n' ∉ t) : '\n' ∉ sanitizeBlanks t := by
  have hkeep : forall {u : Text} {q : Pattern}, '\n' ∉ u -> '\n' ∉ replaceOutside u q " " := by
    intro u q hu h
    rcases mem_of_mem_replaceOutside h with h | h
    · exact hu h
    · revert h
      decide
  have hspaces := hkeep (q := .run true 2 none (.char ' ')) (hkeep (q := "\t") ht)
  have hnone : (" \n" : Pattern).matchList
      (replaceOutside (replaceOutside t "\t" " ") (.run true 2 none (.char ' ')) " ") = [] := by
    refine matchList_eq_nil (fun ch hch => hch) ?_
    show (CharSet.avoids (.char ' ') _ || CharSet.avoids (.char '\n') _) = true
    rw [Bool.or_eq_true]
    refine Or.inr (List.all_eq_true.mpr fun ch hch => ?_)
    rw [CharSet.holds_char, Bool.not_eq_true', beq_eq_false_iff_ne]
    exact fun heq => hspaces (heq ▸ hch)
  rw [sanitizeBlanks, replaceOutside_eq_self hnone]
  exact hspaces

end Region

namespace Text

variable {t w : Text}

theorem prefix_trim (hw : w <+: t) (hplain : forall ch, ch ∈ w -> Chars.isBlank ch = false) : w <+: t.trim := by
  rcases hw with ⟨u, rfl⟩
  by_cases hnil : w = []
  · rw [hnil]
    exact List.nil_prefix
  · rcases List.exists_mem_of_ne_nil w hnil with ⟨ch, hch⟩
    have hsome : w.all Chars.isBlank = false := List.all_eq_false.mpr ⟨ch, hch, by simp [hplain ch hch]⟩
    show w <+: trimRightBy (trimLeftBy (w ++ u) _) _
    rw [trimLeftBy_append_of_not_all hsome, trimLeftBy_of_forall hplain]
    cases hu : u.all Chars.isBlank with
    | true => rw [trimRightBy_append_of_all hu, trimRightBy_of_forall hplain]
    | false =>
        rw [trimRightBy_append_of_not_all hu]
        exact List.prefix_append _ _

end Text

/-!
# Stripped headers
-/

namespace Section

theorem exists_eq_cons_of_reads_footnote {s s' : ReadState} {w : Text} (h : footnote.Reads s w s') :
    exists r, w = '<' :: r := by
  rcases h.seq_inv with ⟨w, _, _, rfl, h, _⟩
  rcases h.seq_inv with ⟨w, _, _, rfl, h, _⟩
  rcases h.seq_inv with ⟨w, _, _, rfl, h, _⟩
  rcases h.seq_inv with ⟨w, _, _, rfl, h, _⟩
  rcases h.one_inv with ⟨ch, rfl, hch, _⟩
  rw [CharSet.eq_of_holds_anyCase (a := '<') (by decide) (by decide) (by decide) hch]
  exact ⟨_, rfl⟩

/-- A header that begins with a plain word begins with it when it is stripped. -/
theorem startsWith_strippedHeader {s : Section} {w : Text} (hw : s.header.startsWith w = true) (hbracket : '<' ∉ w)
    (hplain : forall ch, ch ∈ w -> Chars.isBlank ch = false) : s.strippedHeader.startsWith w = true := by
  have hblank : forall {ch}, Chars.isBlank ch = true -> ch ∉ w := fun hch hmem => by
    rw [hplain _ hmem] at hch
    cases hch
  rw [Text.startsWith, List.isPrefixOf_iff_prefix] at hw ⊢
  refine Text.prefix_trim (Region.prefix_sanitizeBlanks (Region.prefix_stripHidden ?_ hbracket) (hblank (by decide))
    (hblank (by decide))) hplain
  refine Region.prefix_replaceAll hw fun _ u _ h => ?_
  rcases exists_eq_cons_of_reads_footnote h with ⟨r, rfl⟩
  exact ⟨'<', r, rfl, hbracket⟩

theorem newline_not_mem_strippedHeader {s : Section} (hs : '\n' ∉ s.header) : '\n' ∉ s.strippedHeader := by
  have hfootnotes : '\n' ∉ footnote.replaceAll s.header [] := fun hmem =>
    (Region.mem_of_mem_replaceAll hmem).elim hs List.not_mem_nil
  have hhidden : '\n' ∉ Region.stripHidden (footnote.replaceAll s.header []) := fun hmem =>
    hfootnotes (Region.mem_of_mem_cutFrom hmem)
  intro h
  unfold strippedHeader Text.trim at h
  exact Region.newline_not_mem_sanitizeBlanks hhidden (Text.mem_of_mem_trimBy h)

theorem newline_not_mem_of_read {c : Config} {t : Text} {s : Section} (h : read c t = .ok s) : '\n' ∉ s.header := by
  rcases read_eq_ok h with ⟨hline, _, _⟩
  intro hmem
  unfold HeaderLine.read at hline
  split at hline
  · rename_i line hfound
    cases hline
    rcases List.exists_of_findSome?_eq_some hfound with ⟨level, _, hlevel⟩
    rcases HeaderLine.eq_around_of_ofLevel? hlevel with ⟨raw, _, _, hraw, hheader, _⟩
    rw [Section.header, hheader] at hmem
    exact hraw (Text.mem_of_mem_trimBy hmem)
  · cases hline

end Section

namespace Page

/-- The headers of a page that was read are pieces of lines. -/
theorem newline_not_mem_header {c : Config} {title t : Text} {p : Page} (h : read c title t = .ok p) {i : Nat}
    (hi : i ∈ p.order) : '\n' ∉ p.header i := by
  have hheading : (p.level i, p.header i) ∈ p.headings := List.mem_map_of_mem hi
  rcases read_eq_ok h with ⟨_, rfl⟩ | ⟨sections, hsections, rfl⟩
  · cases hi
  · rw [headings_splitTrailing, headings_assemble] at hheading
    rcases List.mem_map.mp hheading with ⟨s, hs, heq⟩
    rcases exists_of_mem_of_mapM_eq_ok hsections hs with ⟨piece, _, hread⟩
    rw [← (Prod.mk.inj heq).2]
    exact Section.newline_not_mem_of_read hread

end Page
end WikiEntry
