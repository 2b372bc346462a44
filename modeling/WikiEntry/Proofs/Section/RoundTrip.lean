import WikiEntry.Proofs.Pattern.Matched
import WikiEntry.Proofs.Region.Blanks
import WikiEntry.Proofs.Section.Sound
import WikiEntry.Proofs.Text.Pieces
import WikiEntry.Proofs.Text.Trimming

/-!
# Reading and printing a section

A section that was read is printed as it stood, with one exception: the blanks of a header that consists of blanks
alone are not kept, and one space is printed for them.  What stood in the text is therefore the section printed
with some number of spaces between the signs of a blank header.
-/

namespace WikiEntry

/-!
# Header lines
-/

namespace HeaderFormat

theorem render_ofRaw {raw : Text} (hraw : forall ch, ch ∈ raw -> Chars.isBlank ch = true -> ch = ' ')
    (hblank : raw.isBlank = false) : (ofRaw raw).render raw.trim = raw := by
  have hpred : forall (t : Text), (forall ch, ch ∈ t -> Chars.isBlank ch = true -> ch = ' ') ->
      List.replicate (t.takeWhile (· == ' ')).length ' ' = t.takeWhile Chars.isBlank := by
    intro t ht
    have hsame : t.takeWhile Chars.isBlank = t.takeWhile (· == ' ') := by
      induction t with
      | nil => rfl
      | cons ch t ih =>
          have hch : Chars.isBlank ch = (ch == ' ') := by
            rw [Bool.eq_iff_iff, beq_iff_eq]
            constructor
            · exact ht ch List.mem_cons_self
            · rintro rfl
              decide
          rw [List.takeWhile_cons, List.takeWhile_cons, hch, ih fun d hd => ht d (List.mem_cons_of_mem ch hd)]
    rw [hsame]
    exact (List.eq_replicate_of_mem fun ch hch => by simpa using List.mem_takeWhile_imp hch).symm
  have hrev : forall ch, ch ∈ raw.reverse -> Chars.isBlank ch = true -> ch = ' ' :=
    fun ch hch => hraw ch (List.mem_reverse.mp hch)
  have htrail : List.replicate (raw.reverse.takeWhile (· == ' ')).length ' ' =
      (raw.reverse.takeWhile Chars.isBlank).reverse := by
    rw [← List.reverse_replicate, hpred raw.reverse hrev]
  rw [ofRaw, if_neg (Bool.eq_false_iff.mp hblank), render, hpred raw hraw, htrail]
  exact Text.takeWhile_append_trimBy hblank

theorem length_takeWhile_space_le (t : Text) :
    (t.takeWhile (· == ' ')).length ≤ (t.takeWhile Chars.isBlank).length := by
  induction t with
  | nil => exact Nat.le_refl 0
  | cons ch t ih =>
      by_cases hch : ch = ' '
      · have hblank : Chars.isBlank ' ' = true := by decide
        rw [hch, List.takeWhile_cons, List.takeWhile_cons, if_pos hblank, if_pos (beq_self_eq_true ' ')]
        exact Nat.succ_le_succ ih
      · rw [List.takeWhile_cons_of_neg (by simpa using hch)]
        exact Nat.zero_le _

/-- Whatever the blanks are, the header is not printed longer than it was. -/
theorem length_render_ofRaw_le {raw : Text} (hne : raw ≠ []) : ((ofRaw raw).render raw.trim).length ≤ raw.length := by
  cases hblank : raw.isBlank with
  | true =>
      rw [ofRaw, if_pos hblank]
      exact List.length_pos_iff.mpr hne
  | false =>
      have hlength := congrArg List.length (Text.takeWhile_append_trimBy hblank)
      have hlead := length_takeWhile_space_le raw
      have htrail := length_takeWhile_space_le raw.reverse
      rw [List.length_append, List.length_append, List.length_reverse] at hlength
      rw [ofRaw, if_neg (Bool.eq_false_iff.mp hblank), render]
      simp only [List.length_append, List.length_replicate, Text.trim]
      omega

end HeaderFormat

namespace HeaderLine

def signsOf (h : HeaderLine) : Text :=
  List.replicate h.level '='

/-- The line with `raw` between its signs. -/
def around (h : HeaderLine) (raw : Text) : Text :=
  h.before ++ h.signsOf ++ raw ++ h.signsOf ++ h.after

theorem eq_around_of_ofLevel? {line : Text} {level : Nat} {h : HeaderLine} (hread : ofLevel? line level = some h) :
    exists raw, line = h.around raw ∧ raw ≠ [] ∧ '\n' ∉ raw ∧ h.header = raw.trim ∧ h.format = .ofRaw raw := by
  rcases Option.map_eq_some_iff.mp hread with ⟨m, hm, rfl⟩
  rcases Pattern.reads_of_find?_whole hm with ⟨s, hreads, _, hgroups⟩
  rcases hreads.seq_inv with ⟨w, after, s4, hline, hreads, hafter⟩
  rcases hreads.seq_inv with ⟨w, signs', s3, rfl, hreads, hsigns'⟩
  rcases hreads.seq_inv with ⟨w, raw, s2, rfl, hreads, hraw⟩
  rcases hreads.seq_inv with ⟨before, signs, s1, rfl, hbefore, hsigns⟩
  rcases hraw.group_inv with ⟨x, hrun, _⟩
  rcases hrun.run_inv with ⟨hinLine, hlength, _⟩
  have hplace1 : s1.place = before.length := by rw [hbefore.advances.2]; exact Nat.zero_add _
  have hplace2 := hsigns.advances.2
  have hplace4 := hsigns'.advances.2
  rw [hraw.advances.2] at hplace4
  rcases hsigns.lit_inv with ⟨rfl, hkept⟩
  rcases hsigns'.lit_inv with ⟨rfl, hkept'⟩
  have hspans : m.groups = [(3, ⟨s4.place, s4.place + after.length⟩), (2, ⟨s2.place, s2.place + raw.length⟩),
      (1, ⟨0, 0 + before.length⟩)] := by
    rw [hgroups, hafter.group_groupless rfl, hkept', hraw.group_groupless rfl, hkept, hbefore.group_groupless rfl]
    rfl
  have htext1 : m.text line 1 = before := by
    rw [Match.text_of_lookup (by decide) (by rw [hspans]; rfl)]
    exact Text.slice_of_eq_append (u := [])
      (v := List.replicate level '=' ++ (raw ++ (List.replicate level '=' ++ after))) (by simp [hline]) rfl
  have htext2 : m.text line 2 = raw := by
    rw [Match.text_of_lookup (by decide) (by rw [hspans]; rfl)]
    exact Text.slice_of_eq_append (u := before ++ List.replicate level '=') (v := List.replicate level '=' ++ after)
      (by simp [hline]) (by simp [hplace2, hplace1])
  have htext3 : m.text line 3 = after := by
    rw [Match.text_of_lookup (by decide) (by rw [hspans]; rfl)]
    refine Text.slice_of_eq_append (v := []) (by rw [hline, List.append_nil]) ?_
    simp [hplace4, hplace2, hplace1]
    omega
  simp only [htext1, htext2, htext3]
  refine ⟨raw, hline, ?_, ?_, rfl, rfl⟩
  · rintro rfl
    cases hlength
  · intro hnewline
    have hholds := hinLine '\n' hnewline
    rw [CharSet.inLine, CharSet.holds_noneOf] at hholds
    cases hholds

/-- A line is not printed longer than it was read. -/
theorem length_render_le_of_read {line : Text} {h : HeaderLine} (hread : read line = .ok h) :
    h.render.length ≤ line.length := by
  rcases Section.exists_ofLevel?_of_read hread with ⟨level, _, hlevel⟩
  rcases eq_around_of_ofLevel? hlevel with ⟨raw, heq, hne, _, hheader, hformat⟩
  have hraw := HeaderFormat.length_render_ofRaw_le hne
  rw [← hheader, ← hformat] at hraw
  rw [heq, render, around, signsOf]
  simp only [List.length_append]
  omega

/-- What is between the signs when a blank header is printed with `n` spaces. -/
def between (h : HeaderLine) (n : Nat) : Text :=
  if h.format = .blank then List.replicate n ' ' else h.format.render h.header

theorem between_one (h : HeaderLine) : h.between 1 = h.format.render h.header := by
  unfold between
  split
  · rename_i hblank
    rw [hblank]
    rfl
  · rfl

/-- What stands between the signs is the header as it is printed, or else blanks alone. -/
theorem between_eq {h : HeaderLine} {raw : Text} (hraw : forall ch, ch ∈ raw -> Chars.isBlank ch = true -> ch = ' ')
    (hheader : h.header = raw.trim) (hformat : h.format = .ofRaw raw) : h.between raw.length = raw := by
  cases hblank : raw.isBlank with
  | true =>
      rw [between, hformat, HeaderFormat.ofRaw, if_pos hblank, if_pos rfl]
      exact (List.eq_replicate_of_mem fun ch hch => hraw ch hch (List.all_eq_true.mp hblank ch hch)).symm
  | false =>
      rw [between, hformat, if_neg (by simp [HeaderFormat.ofRaw, hblank]), hheader]
      exact HeaderFormat.render_ofRaw hraw hblank

end HeaderLine

/-!
# Bodies
-/

namespace Body

theorem ofText_of_all {t : Text} (ht : t.all (· == '\n') = true) :
    (ofText t).text = [] ∧ (ofText t).render = List.replicate (t.length + 1) '\n' := by
  rw [ofText, if_pos ht]
  exact ⟨rfl, rfl⟩

theorem ofText_of_not_all {t : Text} (ht : t.all (· == '\n') = false) :
    (ofText t).text ≠ [] ∧ (ofText t).render = t := by
  have hkept := Text.trimRightBy_append t (· == '\n')
  have htext := Text.takeWhile_append_trimLeftBy (t.trimRightBy (· == '\n')) (· == '\n')
  rw [ofText, if_neg (Bool.eq_false_iff.mp ht)]
  constructor
  · intro hnil
    have hleft := Text.trimLeftBy_eq_nil_iff.mp hnil
    have hright : (t.reverse.takeWhile (· == '\n')).reverse.all (· == '\n') = true := by
      rw [List.all_reverse, List.all_takeWhile]
    rw [← hkept, List.all_append, hleft, hright] at ht
    cases ht
  · have hleading := Text.takeWhile_eq_replicate (t.trimRightBy (· == '\n')) '\n'
    have htrailing := congrArg List.reverse (Text.takeWhile_eq_replicate t.reverse '\n')
    have hlength := congrArg List.length htext
    have hlength' := congrArg List.length hkept
    rw [List.length_append] at hlength hlength'
    rw [List.reverse_replicate] at htrailing
    rw [List.length_reverse] at hlength'
    dsimp only [render]
    rw [← hlength', ← hlength, Nat.add_sub_cancel, Nat.add_sub_cancel_left, ← hleading, ← htrailing, htext, hkept]

/-- Printed below a line, or in front of one, a body takes up the text that it was read from and one newline. -/
theorem render_below (t : Text) :
    (if (ofText t).text.isEmpty then [] else ['\n']) ++ (ofText t).render = '\n' :: t := by
  cases ht : t.all (· == '\n') with
  | true =>
      rcases ofText_of_all ht with ⟨htext, hrender⟩
      rw [htext, hrender, List.replicate_succ, ← Text.eq_replicate_of_all ht]
      rfl
  | false =>
      rcases ofText_of_not_all ht with ⟨htext, hrender⟩
      rw [if_neg (by simpa using htext), hrender, List.singleton_append]

theorem render_above (t : Text) :
    (ofText t).render ++ (if (ofText t).text.isEmpty then [] else ['\n']) = t ++ ['\n'] := by
  cases ht : t.all (· == '\n') with
  | true =>
      rcases ofText_of_all ht with ⟨htext, hrender⟩
      rw [htext, hrender, List.replicate_succ', ← Text.eq_replicate_of_all ht]
      exact List.append_nil _
  | false =>
      rcases ofText_of_not_all ht with ⟨htext, hrender⟩
      rw [if_neg (by simpa using htext), hrender]

end Body

/-!
# Sections
-/

namespace Section

/-- The section with `raw` between its signs. -/
def around (s : Section) (raw : Text) : Text :=
  s.line.around raw ++ (if s.intro.isEmpty then [] else ['\n']) ++ s.body.render

/-- The section printed with `n` spaces between the signs of a blank header. -/
def renderSpaced (s : Section) (n : Nat) : Text :=
  s.line.around (s.line.between n) ++ (if s.intro.isEmpty then [] else ['\n']) ++ s.body.render

theorem render_eq_renderSpaced (s : Section) : s.render = s.renderSpaced 1 := by
  rw [renderSpaced, HeaderLine.between_one]
  rfl

theorem renderSpaced_of_not_blank {s : Section} {n m : Nat} (h : s.line.format ≠ .blank) :
    s.renderSpaced n = s.renderSpaced m := by
  rw [renderSpaced, renderSpaced, HeaderLine.between, HeaderLine.between, if_neg h, if_neg h]

theorem length_renderSpaced {s : Section} (n : Nat) (h : s.line.format = .blank) :
    (s.renderSpaced n).length = (s.renderSpaced 0).length + n := by
  simp only [renderSpaced, HeaderLine.around, HeaderLine.between, if_pos h, List.length_append, List.length_replicate]
  omega

theorem length_renderSpaced_le {s : Section} {n m : Nat} (h : n ≤ m) :
    (s.renderSpaced n).length ≤ (s.renderSpaced m).length := by
  by_cases hblank : s.line.format = .blank
  · rw [length_renderSpaced n hblank, length_renderSpaced m hblank]
    omega
  · rw [renderSpaced_of_not_blank hblank]

theorem eq_of_length_renderSpaced {s : Section} {n m : Nat} (hblank : s.line.format = .blank)
    (h : (s.renderSpaced n).length = (s.renderSpaced m).length) : n = m := by
  rw [length_renderSpaced n hblank, length_renderSpaced m hblank] at h
  omega

/-- The header was read from `raw`, which stood between the signs. -/
structure ReadFrom (s : Section) (raw : Text) : Prop where
  ne_nil : raw ≠ []
  newline_not_mem : '\n' ∉ raw
  header_eq : s.header = raw.trim
  format_eq : s.line.format = .ofRaw raw

/-- A section that was read stood in the text as it is printed, but for the blanks of its header. -/
theorem exists_readFrom {c : Config} {t : Text} {s : Section} (hread : read c t = .ok s) :
    exists raw, s.ReadFrom raw ∧ t = s.around raw := by
  rcases read_eq_ok hread with ⟨hline, hbody, _⟩
  rcases exists_ofLevel?_of_read hline with ⟨level, _, hlevel⟩
  rcases HeaderLine.eq_around_of_ofLevel? hlevel with ⟨raw, heq, hne, hnewline, hheader, hformat⟩
  refine ⟨raw, ⟨hne, hnewline, hheader, hformat⟩, ?_⟩
  rw [around, intro, hbody, ← heq, List.append_assoc]
  cases hsplit : t.splitOnce? "\n" with
  | none =>
      have hhead : headAndBody t = (t, {}) := by rw [headAndBody, hsplit]
      rw [hhead]
      exact (List.append_nil t).symm
  | some pieces =>
      rcases pieces with ⟨first, rest⟩
      have hhead : headAndBody t = (first, Body.ofText rest) := by rw [headAndBody, hsplit]
      rw [hhead, Body.render_below, Text.eq_of_splitOnce? hsplit, List.append_assoc]
      rfl

/-- Where all blanks are spaces, the section stood in the text as it is printed with some number of spaces. -/
theorem ReadFrom.around_eq {s : Section} {raw : Text} (h : s.ReadFrom raw)
    (hraw : forall ch, ch ∈ raw -> Chars.isBlank ch = true -> ch = ' ') : s.around raw = s.renderSpaced raw.length := by
  rw [around, renderSpaced, HeaderLine.between_eq hraw h.header_eq h.format_eq]

theorem length_render (s : Section) : s.render.length = s.renderHeader.length +
    ((if s.intro = [] then 0 else 1) + (s.body.leading + s.intro.length + s.body.trailing)) := by
  rw [render, Body.render, intro]
  by_cases hintro : s.body.text = []
  · rw [if_pos hintro, hintro]
    simp only [List.isEmpty_nil, if_true, List.length_append, List.length_replicate, List.length_nil]
    omega
  · rw [if_neg hintro, if_neg (by simpa using hintro)]
    simp only [List.length_append, List.length_replicate, List.length_singleton]
    omega

/-- Whatever its blanks are, a section is not printed longer than it was read. -/
theorem length_render_le_of_read {c : Config} {t : Text} {s : Section} (hread : read c t = .ok s) :
    s.render.length ≤ t.length := by
  rcases read_eq_ok hread with ⟨hline, hbody, _⟩
  have hle := HeaderLine.length_render_le_of_read hline
  rw [render, intro, hbody, List.append_assoc, renderHeader, List.length_append]
  cases hsplit : t.splitOnce? "\n" with
  | none =>
      have hhead : headAndBody t = (t, {}) := by rw [headAndBody, hsplit]
      rw [hhead] at hle ⊢
      exact hle
  | some pieces =>
      rcases pieces with ⟨first, rest⟩
      have hhead : headAndBody t = (first, Body.ofText rest) := by rw [headAndBody, hsplit]
      have hlength := congrArg List.length (Text.eq_of_splitOnce? hsplit)
      rw [List.append_assoc, List.length_append] at hlength
      rw [hhead] at hle ⊢
      rw [Body.render_below, hlength]
      exact Nat.add_le_add_right hle _

/-!
# Sections with another header
-/

/-- A header that counts as blank is empty. -/
def BlankIsEmpty (s : Section) : Prop :=
  s.line.format = .blank -> s.header = []

theorem ReadFrom.blankIsEmpty {s : Section} {raw : Text} (h : s.ReadFrom raw) : s.BlankIsEmpty := by
  intro hblank
  rw [h.format_eq, HeaderFormat.ofRaw] at hblank
  split at hblank
  · rename_i hraw
    rw [h.header_eq, Text.trim_eq_nil_iff.mpr hraw]
  · cases hblank

theorem header_setHeader (c : Config) (s : Section) (header : Text) : (s.setHeader c header).header = header.trim :=
  rfl

theorem BlankIsEmpty.setHeader {s : Section} (h : s.BlankIsEmpty) (c : Config) (header : Text) :
    (s.setHeader c header).BlankIsEmpty := by
  intro hblank
  rw [header_setHeader]
  have hformat : (s.setHeader c header).line.format =
      if s.header.isEmpty && !header.trim.isEmpty then .spaced
      else if !s.header.isEmpty && header.trim.isEmpty then .blank else s.line.format := rfl
  rw [hformat] at hblank
  cases hheader : header.trim.isEmpty with
  | true => exact List.isEmpty_iff.mp hheader
  | false =>
      rw [hheader] at hblank
      cases hempty : s.header.isEmpty with
      | true =>
          rw [hempty] at hblank
          cases hblank
      | false =>
          rw [hempty] at hblank
          rw [h hblank] at hempty
          cases hempty

/-- Printed with any number of spaces, such a section has its header between the signs, but for blanks. -/
theorem BlankIsEmpty.unblanked_between {s : Section} (h : s.BlankIsEmpty) (n : Nat) :
    (s.line.between n).unblanked = s.header.unblanked := by
  have hspaces : forall n, Text.unblanked (List.replicate n ' ') = [] := Text.unblanked_replicate (by decide)
  unfold HeaderLine.between
  split
  · rename_i hblank
    rw [h hblank, hspaces]
    rfl
  · cases hformat : s.line.format with
    | blank => contradiction
    | padded lead trail =>
        rw [HeaderFormat.render, Text.unblanked_append, Text.unblanked_append, hspaces, hspaces, List.append_nil,
          List.nil_append]
        rfl

theorem around_setHeader (c : Config) (s : Section) (header raw : Text) :
    (s.setHeader c header).around raw = s.around raw :=
  rfl

theorem level_setHeader (c : Config) (s : Section) (header : Text) : (s.setHeader c header).level = s.level :=
  rfl

theorem intro_setHeader (c : Config) (s : Section) (header : Text) : (s.setHeader c header).intro = s.intro :=
  rfl

theorem setHeader_withBody (c : Config) (s : Section) (header : Text) (b : Body) :
    setHeader c { s with body := b } header = { s.setHeader c header with body := b } := by
  have hlevel : Section.level { s with body := b } = s.level := rfl
  have hheader : Section.header { s with body := b } = s.header := rfl
  unfold setHeader
  rw [hlevel, hheader]

end Section
end WikiEntry
