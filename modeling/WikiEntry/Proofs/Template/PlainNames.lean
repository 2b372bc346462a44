import WikiEntry.Proofs.LegacyLayout.Detection
import WikiEntry.Proofs.Template.Edited
import WikiEntry.Proofs.Template.Exchange
import WikiEntry.Proofs.Text.Pieces
import WikiEntry.Proofs.Text.Trimming

/-!
# Plain names of templates

A name is plain if it has none of the characters that templates, links, parameters and tags are made of.  Such a name is
read off the text behind the opening braces, without parsing the template: it goes to the first bar, or to the closing
braces.
-/

namespace WikiEntry

def isNameChar (ch : Char) : Bool :=
  !isDelimiter ch && ch != '>'

namespace Text

/-- A bar or closing braces, behind which the name of a template has ended. -/
def endsName (t : Text) : Bool :=
  t.startsWith "|" || t.startsWith "\x7d\x7d"

/-- The name that a text begins with. -/
def plainName? (t : Text) : Option Text :=
  if endsName (t.dropWhile isNameChar) then some (t.takeWhile isNameChar) else none

/-- The name, if it is plain. -/
def plain? (v : Text) : Option Text :=
  if v.all isNameChar then some v else none

section PlainName

variable {t v r : Text}

theorem endsName_iff : endsName r = true <-> (exists z, r = '|' :: z) ∨ exists z, r = '\x7d' :: '\x7d' :: z := by
  have hbar : r.startsWith "|" = true <-> exists z, r = '|' :: z := by
    rw [startsWith, List.isPrefixOf_iff_prefix]
    exact exists_congr fun _ => eq_comm
  have hbraces : r.startsWith "\x7d\x7d" = true <-> exists z, r = '\x7d' :: '\x7d' :: z := by
    rw [startsWith, List.isPrefixOf_iff_prefix]
    exact exists_congr fun _ => eq_comm
  rw [endsName, Bool.or_eq_true, hbar, hbraces]

theorem plainName?_append (hv : v.all isNameChar = true) (hr : endsName r = true) : plainName? (v ++ r) = some v := by
  have hv := List.all_eq_true.mp hv
  have hstop : exists ch z, r = ch :: z ∧ isNameChar ch = false := by
    rcases endsName_iff.mp hr with ⟨z, rfl⟩ | ⟨z, rfl⟩
    · exact ⟨'|', z, rfl, by decide⟩
    · exact ⟨'\x7d', '\x7d' :: z, rfl, by decide⟩
  rcases hstop with ⟨ch, z, rfl, hch⟩
  rw [plainName?, List.dropWhile_append_of_pos hv, List.takeWhile_append_of_pos hv,
    List.dropWhile_cons_of_neg (by simp [hch]), List.takeWhile_cons_of_neg (by simp [hch]), if_pos hr, List.append_nil]

theorem exists_of_plainName? (h : plainName? t = some v) :
    v.all isNameChar = true ∧ exists r, t = v ++ r ∧ endsName r = true := by
  rw [plainName?] at h
  split at h
  · rename_i hends
    cases h
    exact ⟨List.all_takeWhile, _, List.takeWhile_append_dropWhile.symm, hends⟩
  · cases h

/-- Opening braces end no name, so that it does not matter what is behind them. -/
theorem plainName?_opening (t z z' : Text) : plainName? (t ++ '\x7b' :: z) = plainName? (t ++ '\x7b' :: z') := by
  induction t with
  | nil => rfl
  | cons ch t ih =>
      cases hch : isNameChar ch with
      | true =>
          have hcons : forall r, plainName? (ch :: r) = (plainName? r).map (ch :: ·) := by
            intro r
            rw [plainName?, plainName?, List.dropWhile_cons_of_pos hch, List.takeWhile_cons_of_pos hch]
            split <;> rfl
          rw [List.cons_append, List.cons_append, hcons, hcons, ih]
      | false =>
          have hnone : forall r, plainName? (ch :: r) = if endsName (ch :: r) then some [] else none := by
            intro r
            rw [plainName?, List.dropWhile_cons_of_neg (by simp [hch]), List.takeWhile_cons_of_neg (by simp [hch])]
          rw [List.cons_append, List.cons_append, hnone, hnone]
          cases t with
          | nil => rfl
          | cons d t => rfl

end PlainName

end Text

namespace Region

theorem exists_of_mem_brackets {t : Text} {place : Nat} {regions : List Span} (h : Brackets t place regions) {s : Span}
    (hs : s ∈ regions) : exists r, t.drop s.start = '<' :: r := by
  induction regions generalizing place with
  | nil => cases hs
  | cons u regions ih =>
      rcases h with ⟨_, _, hdrop, hrest⟩
      rcases List.mem_cons.mp hs with rfl | hs
      · exact hdrop
      · exact ih hrest hs

/-- Regions begin with an angle bracket, so that none covers a place in a beginning that has no such bracket. -/
theorem covers_hidden_eq_false {t w : Text} (hw : w <+: t) (hbracket : '<' ∉ w) {i : Nat} (hi : i < w.length) :
    covers (hidden t) i = false := by
  refine List.any_eq_false.mpr fun s hs hholds => ?_
  rcases exists_of_mem_brackets (brackets_hidden t) hs with ⟨r, hdrop⟩
  have hle := Text.length_le_of_drop_eq hw hbracket hdrop
  have hstart := (holds_iff.mp hholds).1
  omega

end Region

namespace Template

open Text (plainName? endsName)

section Body

variable {v r body behind : Text} {hidden : List Span} {place : Nat}

/-!
# The name of a body
-/

theorem markFrom_append_atTop (hv : forall ch, ch ∈ v -> ch ≠ '\x7b' ∧ ch ≠ '[')
    (hcovers : forall i, i < v.length -> Region.covers hidden (place + i) = false) (r : Text) :
    markFrom hidden place 0 0 (v ++ r) = atTop v ++ markFrom hidden (place + v.length) 0 0 r := by
  induction v generalizing place with
  | nil => rfl
  | cons ch v ih =>
      rcases List.forall_mem_cons.mp hv with ⟨⟨hbrace, hbracket⟩, hv⟩
      have hfirst : Region.covers hidden place = false := hcovers 0 (Nat.zero_lt_succ _)
      have hrest : forall i, i < v.length -> Region.covers hidden (place + 1 + i) = false := by
        intro i hi
        have hlater := hcovers (i + 1) (Nat.succ_lt_succ hi)
        rwa [Nat.add_comm i, ← Nat.add_assoc] at hlater
      rw [List.cons_append, markFrom, ih hv hrest, List.length_cons, Nat.add_comm v.length, ← Nat.add_assoc]
      simp [hfirst, hbrace, hbracket, atTop]

theorem markFrom_bar (hcovers : Region.covers hidden place = false) (r : Text) :
    markFrom hidden place 0 0 ('|' :: r) = ('|', true) :: markFrom hidden (place + 1) 0 0 r := by
  rw [markFrom]
  simp [hcovers]

theorem splitBars_append_bar {front : List (Char × Bool)} (hfront : ('|', true) ∉ front) (rest : List (Char × Bool)) :
    splitBars (front ++ ('|', true) :: rest) = front :: splitBars rest := by
  induction front with
  | nil =>
      rcases exists_splitBars rest with ⟨name, pieces, hsplit, _⟩
      rw [List.nil_append, splitBars, hsplit]
      rfl
  | cons m front ih =>
      rw [List.mem_cons, not_or] at hfront
      rw [List.cons_append, splitBars, ih hfront.2]
      exact if_neg (Ne.symm hfront.1)

theorem splitBars_eq_singleton {marked : List (Char × Bool)} (h : ('|', true) ∉ marked) : splitBars marked = [marked] := by
  induction marked with
  | nil => rfl
  | cons m marked ih =>
      rw [List.mem_cons, not_or] at h
      rw [splitBars, ih h.2]
      exact if_neg (Ne.symm h.1)

theorem not_mem_of_isNameChar (hv : v.all isNameChar = true) {ch : Char} (hch : isNameChar ch = false) : ch ∉ v := by
  intro hmem
  rw [List.all_eq_true.mp hv ch hmem] at hch
  cases hch

/-- A body that begins with a plain name up to a bar or its end is read with that name. -/
theorem name_ofBody (hv : v.all isNameChar = true) (hr : r = [] ∨ exists z, r = '|' :: z) :
    (ofBody (v ++ r)).name = v := by
  have hplain : forall ch, ch ∈ v -> ch ≠ '\x7b' ∧ ch ≠ '[' := fun ch hch =>
    ⟨ne_of_mem_of_not_mem hch (not_mem_of_isNameChar hv (by decide)),
      ne_of_mem_of_not_mem hch (not_mem_of_isNameChar hv (by decide))⟩
  have hbar : ('|', true) ∉ atTop v := not_mem_atTop (not_mem_of_isNameChar hv (by decide))
  have hbracket : '<' ∉ v := not_mem_of_isNameChar hv (by decide)
  have hcovers : forall i, i < v.length -> Region.covers (Region.hidden (v ++ r)) (0 + i) = false := by
    intro i hi
    rw [Nat.zero_add]
    exact Region.covers_hidden_eq_false (List.prefix_append v r) hbracket hi
  have hmark := markFrom_append_atTop hplain hcovers r
  rcases hr with rfl | ⟨z, rfl⟩
  · rw [ofBody, mark, hmark, markFrom, List.append_nil, splitBars_eq_singleton hbar]
    exact unmark_atTop v
  · have hprefix : v ++ ['|'] <+: v ++ '|' :: z := ⟨z, by simp⟩
    have hlast : Region.covers (Region.hidden (v ++ '|' :: z)) v.length = false :=
      Region.covers_hidden_eq_false hprefix (by simpa using hbracket) (by simp)
    rw [Nat.zero_add] at hmark
    rw [ofBody, mark, hmark, markFrom_bar hlast, splitBars_append_bar hbar]
    exact unmark_atTop v

/-- The body of a template goes on behind its name with the first of the bars. -/
theorem exists_body_eq (body : Text) :
    exists r, body = (ofBody body).name ++ r ∧ (r = [] ∨ exists z, r = '|' :: z) := by
  have hrender := render_ofBody body
  rw [render_eq_inBraces, inBraces, inBraces, List.cons.injEq, List.cons.injEq] at hrender
  refine ⟨_, (List.append_cancel_right hrender.2.2).symm, ?_⟩
  cases (ofBody body).params with
  | nil => exact Or.inl rfl
  | cons p ps =>
      refine Or.inr ⟨p.content ++ ps.flatMap Param.render, ?_⟩
      rw [List.flatMap_cons, p.render_eq]
      rfl

/-- A plain name in front of a bar or of closing braces is the beginning of the body. -/
theorem exists_body_of_plain (hclosing : toClosing? 1 (body ++ ['\x7d', '\x7d']) = some (body.length + 2))
    (hv : v.all isNameChar = true) (heq : body ++ '\x7d' :: '\x7d' :: behind = v ++ r) (hr : endsName r = true) :
    exists r', body = v ++ r' ∧ (r' = [] ∨ exists z, r' = '|' :: z) := by
  have hbrace : '\x7d' ∉ v := not_mem_of_isNameChar hv (by decide)
  rcases Text.endsName_iff.mp hr with ⟨z, rfl⟩ | ⟨z, rfl⟩
  · rcases List.append_eq_append_iff.mp heq with ⟨d, rfl, hd⟩ | ⟨d, rfl, hd⟩
    · cases d with
      | nil => cases (List.cons.inj hd).1
      | cons ch d =>
          rw [(List.cons.inj hd).1] at hbrace
          simp at hbrace
    · cases d with
      | nil => cases (List.cons.inj hd).1
      | cons ch d => exact ⟨ch :: d, rfl, Or.inr ⟨d, by rw [(List.cons.inj hd).1]⟩⟩
  · have hplain : forall ch, ch ∈ v -> ch ≠ '\x7b' ∧ ch ≠ '\x7d' := fun ch hch =>
      ⟨ne_of_mem_of_not_mem hch (not_mem_of_isNameChar hv (by decide)), ne_of_mem_of_not_mem hch hbrace⟩
    have hclosed := toClosing?_append hclosing behind
    have hsame : body ++ ['\x7d', '\x7d'] ++ behind = v ++ '\x7d' :: '\x7d' :: z := by
      rw [← heq, List.append_assoc]
      rfl
    rw [hsame, toClosing?_braceless hplain, toClosing?_last, Option.map_some, Option.some.injEq] at hclosed
    exact ⟨[], by rw [List.append_nil]; exact (List.append_inj heq (by omega)).1, Or.inl rfl⟩

/-- The plain name at the beginning of a body is the name that it is read with. -/
theorem plainName?_body (hclosing : toClosing? 1 (body ++ ['\x7d', '\x7d']) = some (body.length + 2)) (behind : Text) :
    plainName? (body ++ '\x7d' :: '\x7d' :: behind) = (ofBody body).name.plain? := by
  have hplain : (ofBody body).name.all isNameChar = true ->
      plainName? (body ++ '\x7d' :: '\x7d' :: behind) = some (ofBody body).name := by
    intro hname
    rcases exists_body_eq body with ⟨r, hbody, hr⟩
    conv_lhs => rw [hbody, List.append_assoc]
    refine Text.plainName?_append hname (Text.endsName_iff.mpr ?_)
    rcases hr with rfl | ⟨z, rfl⟩
    · exact Or.inr ⟨behind, rfl⟩
    · exact Or.inl ⟨_, rfl⟩
  rw [Text.plain?]
  split
  · rename_i hname
    exact hplain hname
  · rename_i hname
    refine Option.eq_none_iff_forall_ne_some.mpr fun v hv => hname ?_
    rcases Text.exists_of_plainName? hv with ⟨hall, r, heq, hr⟩
    rcases exists_body_of_plain hclosing hall heq hr with ⟨r', rfl, hr'⟩
    rw [name_ofBody hall hr']
    exact hall

end Body

/-!
# The names in a text
-/

/-- The templates of a text with their plain names. -/
def named (t : Text) : List (Span × Option Text) :=
  (spans t).map fun s => (s, plainName? (t.drop (s.start + 2)))

section Named

variable {t before body behind : Text} {s : Span}

theorem StandsAt.drop_eq (h : StandsAt t s before body behind) :
    t.drop (s.start + 2) = body ++ '\x7d' :: '\x7d' :: behind := by
  rw [h.eq_append, h.span_eq, ← List.drop_drop, List.drop_left]
  simp [inBraces]

/-- Every template is found in the text, and with the plain name that it is read with. -/
theorem map_located (t : Text) : (located t).map Prod.fst = spans t ∧
    (located t).map (fun x => (x.1, x.2.name.plain?)) = named t := by
  have hread : forall s, s ∈ spans t ->
      exists u, parse? (t.slice s) = some u ∧ u.name.plain? = plainName? (t.drop (s.start + 2)) := by
    intro s hs
    rcases exists_standsAt_of_mem_spans hs with ⟨before, body, behind, h⟩
    exact ⟨_, h.parse?_eq, by rw [h.drop_eq, plainName?_body h.closing]⟩
  rw [located, named]
  generalize spans t = found at hread ⊢
  induction found with
  | nil => exact ⟨rfl, rfl⟩
  | cons s found ih =>
      rcases List.forall_mem_cons.mp hread with ⟨⟨u, hu, hname⟩, hread⟩
      rcases ih hread with ⟨hspans, hnames⟩
      rw [List.filterMap_cons_some (by rw [hu]; rfl), List.map_cons, List.map_cons, List.map_cons, hspans, hnames, hname]
      exact ⟨rfl, rfl⟩

end Named

end Template
end WikiEntry
