import WikiEntry.Proofs.Text.Occurrences
import WikiEntry.Proofs.Text.Pieces

/-!
# Lines

Texts that are joined by newlines have the lines of each, one after the other, and each line stands where it stood
in its text, counted from where that text begins.
-/

namespace WikiEntry
namespace Text

theorem splitAtEach_newline (t piece : Text) :
    splitAtEach ['\n'] t 0 piece = List.splitOnPPrepend (· == '\n') t piece := by
  induction t generalizing piece with
  | nil => rfl
  | cons ch r ih =>
      rw [splitAtEach, List.splitOnPPrepend]
      by_cases hch : ch = '\n'
      · rw [hch]
        simp [ih]
      · simp [hch, ih, Ne.symm hch]

/-- The lines of a text are its pieces between newlines. -/
theorem splitOn_newline (t : Text) : Text.splitOn t ['\n'] = List.splitOn '\n' t :=
  splitAtEach_newline t []

theorem joinWith_newline (ls : List Text) : joinWith "\n" ls = List.intercalate ['\n'] ls := by
  induction ls with
  | nil => rfl
  | cons l ls ih =>
      cases ls with
      | nil => simp [joinWith]
      | cons m ms =>
          rw [joinWith_cons (List.cons_ne_nil m ms), ih, List.intercalate_cons_cons]
          rfl

theorem joinWith_append (sep : Text) {ts us : List Text} (hts : ts ≠ []) (hus : us ≠ []) :
    joinWith sep (ts ++ us) = joinWith sep ts ++ sep ++ joinWith sep us := by
  induction ts with
  | nil => exact absurd rfl hts
  | cons t ts ih =>
      by_cases hlast : ts = []
      · rw [hlast]
        exact joinWith_cons hus
      · rw [List.cons_append, joinWith_cons (List.append_ne_nil_of_left_ne_nil hlast us), ih hlast, joinWith_cons hlast]
        simp only [List.append_assoc]

theorem joinWith_concat (sep u : Text) (ts : List Text) :
    joinWith sep (ts ++ [u]) = ts.flatMap (· ++ sep) ++ u := by
  by_cases hts : ts = []
  · rw [hts]
    rfl
  · rw [joinWith_append sep hts (List.cons_ne_nil u []), flatMap_append_sep hts]
    rfl

theorem infix_joinWith_of_mem (sep : Text) {u : Text} {us : List Text} (h : u ∈ us) : u <:+: joinWith sep us := by
  induction us with
  | nil => cases h
  | cons v vs ih =>
      by_cases hvs : vs = []
      · rw [hvs] at h ⊢
        rw [List.mem_singleton.mp h]
        exact List.infix_rfl
      · rw [joinWith_cons hvs]
        rcases List.mem_cons.mp h with rfl | h
        · rw [List.append_assoc]
          exact (List.prefix_append _ _).isInfix
        · exact (ih h).trans (List.suffix_append _ _).isInfix

theorem joinWith_append_joinWith {sep : Text} (ts : List Text) {us : List Text} (hus : us ≠ []) :
    joinWith sep (ts ++ [joinWith sep us]) = joinWith sep (ts ++ us) := by
  by_cases hts : ts = []
  · rw [hts]
    rfl
  · rw [joinWith_append sep hts hus, joinWith_append sep hts (List.cons_ne_nil _ _)]
    rfl

theorem lines_append (t u : Text) :
    Text.splitOn (t ++ '\n' :: u) ['\n'] = Text.splitOn t ['\n'] ++ Text.splitOn u ['\n'] := by
  simp only [splitOn_newline]
  exact List.splitOnP_append_cons t u rfl

theorem lines_joinWith_eq_flatMap {ts : List Text} (hne : ts ≠ []) :
    Text.splitOn (joinWith "\n" ts) ['\n'] = ts.flatMap (Text.splitOn · ['\n']) := by
  induction ts with
  | nil => exact absurd rfl hne
  | cons t ts ih =>
      by_cases hlast : ts = []
      · rw [hlast, List.flatMap_singleton]
        rfl
      · rw [joinWith_cons hlast, List.append_assoc, List.flatMap_cons, ← ih hlast]
        exact lines_append t _

theorem lines_joinWith {ls : List Text} (hne : ls ≠ []) (hls : forall l, l ∈ ls -> '\n' ∉ l) :
    Text.splitOn (joinWith "\n" ls) ['\n'] = ls := by
  rw [splitOn_newline, joinWith_newline]
  exact List.splitOn_intercalate '\n' hls hne

theorem lines_ne_nil (t : Text) : Text.splitOn t ['\n'] ≠ [] :=
  splitAtEach_ne_nil ['\n'] t 0 []

theorem newline_not_mem_of_mem_splitAtEach {t piece l : Text} (hpiece : '\n' ∉ piece)
    (hl : l ∈ splitAtEach ['\n'] t 0 piece) : '\n' ∉ l := by
  induction t generalizing piece with
  | nil =>
      rw [List.mem_singleton.mp hl]
      simpa using hpiece
  | cons ch r ih =>
      rw [splitAtEach] at hl
      by_cases hch : ch = '\n'
      · rw [hch, if_pos (by simp)] at hl
        rcases List.mem_cons.mp hl with rfl | hl
        · simpa using hpiece
        · exact ih List.not_mem_nil hl
      · rw [if_neg (by simp [Ne.symm hch])] at hl
        refine ih ?_ hl
        rw [List.mem_cons]
        rintro (rfl | hmem)
        · exact hch rfl
        · exact hpiece hmem

theorem newline_not_mem_of_mem_lines {t l : Text} (hl : l ∈ Text.splitOn t ['\n']) : '\n' ∉ l :=
  newline_not_mem_of_mem_splitAtEach List.not_mem_nil hl

theorem placesFrom_append (place : Nat) (ls ms : List Text) :
    placesFrom place (ls ++ ms) = placesFrom place ls ++ placesFrom (place + (ls.flatMap (· ++ ['\n'])).length) ms := by
  induction ls generalizing place with
  | nil => rfl
  | cons l ls ih =>
      have hplace : place + ((l :: ls).flatMap (· ++ ['\n'])).length =
          place + l.length + 1 + (ls.flatMap (· ++ ['\n'])).length := by
        rw [List.flatMap_cons, List.length_append, List.length_append, List.length_singleton]
        omega
      rw [List.cons_append, placesFrom, ih, placesFrom, List.cons_append, hplace]

theorem mem_of_mem_placesFrom {place n : Nat} {l : Text} {ls : List Text} (h : (n, l) ∈ placesFrom place ls) :
    l ∈ ls := by
  induction ls generalizing place with
  | nil => cases h
  | cons m ms ih =>
      rcases List.mem_cons.mp h with h | h
      · cases h
        exact List.mem_cons_self
      · exact List.mem_cons_of_mem m (ih h)

theorem mem_of_mem_placedLines {t l : Text} {n : Nat} {ch : Char} (h : (n, l) ∈ placedLines t) (hch : ch ∈ l) :
    ch ∈ t := by
  have hmem : ch ∈ joinWith ['\n'] (t.splitOn ['\n']) := mem_joinWith (mem_of_mem_placesFrom h) hch
  rwa [joinWith_splitOn (List.cons_ne_nil _ _)] at hmem

theorem exists_append_of_mem_placesFrom {place n : Nat} {l : Text} {ls : List Text} (h : (n, l) ∈ placesFrom place ls) :
    exists before after, joinWith "\n" ls = before ++ l ++ after ∧ n = place + before.length := by
  induction ls generalizing place with
  | nil => cases h
  | cons m ms ih =>
      rcases List.mem_cons.mp h with h | h
      · cases h
        by_cases hms : ms = []
        · rw [hms]
          exact ⟨[], [], (List.append_nil l).symm, rfl⟩
        · exact ⟨[], "\n" ++ joinWith "\n" ms, by rw [joinWith_cons hms, List.append_assoc]; rfl, rfl⟩
      · have hms : ms ≠ [] := by
          rintro rfl
          cases h
        rcases ih h with ⟨before, after, hjoined, hn⟩
        refine ⟨m ++ "\n" ++ before, after, ?_, ?_⟩
        · rw [joinWith_cons hms, hjoined]
          simp only [List.append_assoc]
        · rw [hn, List.length_append, List.length_append]
          show _ = place + (m.length + 1 + before.length)
          omega

/-- A line stands at its place. -/
theorem exists_append_of_mem_placedLines {t l : Text} {n : Nat} (h : (n, l) ∈ placedLines t) :
    exists before after, t = before ++ l ++ after ∧ n = before.length := by
  rcases exists_append_of_mem_placesFrom h with ⟨before, after, hjoined, hn⟩
  exact ⟨before, after, (joinWith_splitOn (List.cons_ne_nil _ _)).symm.trans hjoined, hn.trans (Nat.zero_add _)⟩

theorem length_lines (t : Text) : ((Text.splitOn t ['\n']).flatMap (· ++ ['\n'])).length = t.length + 1 := by
  rw [flatMap_append_sep (lines_ne_nil t), joinWith_splitOn (List.cons_ne_nil _ _)]
  exact List.length_append

theorem placesFrom_lines_append (place : Nat) (t u : Text) :
    placesFrom place (Text.splitOn (t ++ '\n' :: u) ['\n']) =
      placesFrom place (Text.splitOn t ['\n']) ++ placesFrom (place + (t.length + 1)) (Text.splitOn u ['\n']) := by
  rw [lines_append, placesFrom_append, length_lines]

/-!
# The first occurrence of a character
-/

theorem startsWith_singleton_drop {t : Text} {ch : Char} (ht : ch ∉ t) (u : Text) {m : Nat} (hm : m < t.length) :
    startsWith ((t ++ u).drop m) [ch] = false := by
  refine Bool.eq_false_iff.mpr fun h => ?_
  rw [startsWith_drop_cons, List.getElem?_append_left hm] at h
  exact ht (List.mem_of_getElem? h.1)

theorem splitOnce?_singleton_eq_none {t : Text} {ch : Char} (ht : ch ∉ t) : splitOnce? t [ch] = none := by
  rw [splitOnce?, Option.map_eq_none_iff, Option.eq_none_iff_forall_ne_some]
  intro n hn
  have hstands := (find?_eq_some_iff.mp hn).1
  have hlength := le_length_of_startsWith_drop (List.cons_ne_nil _ _) hstands
  have hfalse := startsWith_singleton_drop ht [] (Nat.lt_of_succ_le hlength)
  rw [List.append_nil] at hfalse
  exact Bool.false_ne_true (hfalse.symm.trans hstands)

/-- A text is cut at the first place where the separator stands. -/
theorem splitOnce?_append {t p : Text} (u : Text)
    (hfirst : forall m, m < t.length -> startsWith ((t ++ (p ++ u)).drop m) p = false) :
    splitOnce? (t ++ (p ++ u)) p = some (t, u) := by
  have hfind : find? (t ++ (p ++ u)) p = some t.length := by
    rw [find?_eq_some_iff, List.drop_left]
    exact ⟨List.isPrefixOf_iff_prefix.mpr (List.prefix_append p u), hfirst⟩
  rw [splitOnce?, hfind, Option.map_some, List.take_left, ← List.drop_drop, List.drop_left, List.drop_left]

theorem splitOnce?_singleton_append {t : Text} {ch : Char} (ht : ch ∉ t) (u : Text) :
    splitOnce? (t ++ ch :: u) [ch] = some (t, u) :=
  splitOnce?_append (p := [ch]) u fun _ hm => startsWith_singleton_drop ht _ hm

end Text
end WikiEntry
