import WikiEntry.Rule.LegacyLayout
import WikiEntry.Proofs.Region.Replacement
import WikiEntry.Proofs.Text.Pieces

/-!
# Texts that open templates of the present layout only

A text is current if a whole name follows each opening of a template, and none of these names belongs to the legacy
layout.  Blanks do not count, since they are trimmed off names and come and go between other characters.  That a text is
current is seen piece by piece: it may be cut and put together at line ends and at the delimiters of names.
-/

namespace WikiEntry
namespace LegacyLayout

/-!
# Names behind openings
-/

/-- A text without its blanks; line ends are kept. -/
def squeeze (t : Text) : Text :=
  t.filter fun c => c = '\n' || !Chars.isBlank c

/-- The characters that end a name; an opening or a comment must not follow it. -/
def endsName (c : Char) : Bool :=
  c = '\n' || c = '|' || c = '=' || c = '\x7d'

def isNameChar (c : Char) : Bool :=
  !endsName c && c ≠ '\x7b' && c ≠ '<'

def isCurrentName (name : Text) : Bool :=
  !name.isEmpty && !name.hasInfix "-ES" && !(Marks.legacyNames.map squeeze).contains name

/-- What follows an opening begins with a whole name of the present layout. -/
def opensCurrent (r : Text) : Bool :=
  isCurrentName (r.takeWhile isNameChar) && (r.dropWhile isNameChar).head?.all endsName

/-- What may follow a brace.  A marker or a comment could be taken out and leave the brace in front of another one. -/
def mayFollowBrace : Text -> Bool
  | [] => true
  | c :: r => if c = '\x7b' then opensCurrent r else c ≠ '<' && !EtymologyLines.isMarker c

/-- Every opening in a text without blanks is one of the present layout. -/
def allCurrent : Text -> Bool
  | [] => true
  | c :: r => (c ≠ '\x7b' || mayFollowBrace r) && allCurrent r

/-- Whatever blanks it holds, a text opens templates of the present layout only. -/
def IsCurrent (t : Text) : Prop :=
  allCurrent (squeeze t) = true

instance (t : Text) : Decidable (IsCurrent t) :=
  inferInstanceAs (Decidable (_ = true))

/-!
# Cutting where names end
-/

theorem isNameChar_eq_false {c : Char} (hc : endsName c = true) : isNameChar c = false := by
  rw [isNameChar, hc]
  rfl

/-- A name does not reach beyond the character that ends it. -/
theorem opensCurrent_append {c : Char} (hc : endsName c = true) (r b : Text) :
    opensCurrent (r ++ c :: b) = opensCurrent r := by
  have hname := isNameChar_eq_false hc
  have htake : (r ++ c :: b).takeWhile isNameChar = r.takeWhile isNameChar := by
    rw [List.takeWhile_append, List.takeWhile_cons_of_neg (Bool.eq_false_iff.mp hname), List.append_nil]
    split
    · rename_i hlength
      exact ((List.takeWhile_prefix isNameChar).eq_of_length hlength).symm
    · rfl
  have hdrop : ((r ++ c :: b).dropWhile isNameChar).head?.all endsName = (r.dropWhile isNameChar).head?.all endsName := by
    rw [List.dropWhile_append, List.dropWhile_cons_of_neg (Bool.eq_false_iff.mp hname)]
    cases r.dropWhile isNameChar with
    | nil => simp [hc]
    | cons d r' => rfl
  rw [opensCurrent, opensCurrent, htake, hdrop]

theorem mayFollowBrace_append {c : Char} (hc : endsName c = true) (r b : Text) :
    mayFollowBrace (r ++ c :: b) = mayFollowBrace r := by
  cases r with
  | nil =>
      have hcases : c = '\n' ∨ c = '|' ∨ c = '=' ∨ c = '\x7d' := by simpa [endsName, or_assoc] using hc
      rcases hcases with rfl | rfl | rfl | rfl <;> rfl
  | cons d r =>
      rw [List.cons_append, mayFollowBrace, mayFollowBrace, opensCurrent_append hc]

theorem allCurrent_append {c : Char} (hc : endsName c = true) (a b : Text) :
    allCurrent (a ++ c :: b) = (allCurrent a && allCurrent b) := by
  induction a with
  | nil =>
      have hne : c ≠ '\x7b' := by
        rintro rfl
        exact absurd hc (by decide)
      simp [allCurrent, hne]
  | cons d a ih => rw [List.cons_append, allCurrent, allCurrent, mayFollowBrace_append hc, ih, Bool.and_assoc]

theorem allCurrent_of_append {a b : Text} (h : allCurrent (a ++ b) = true) : allCurrent b = true := by
  induction a with
  | nil => exact h
  | cons c a ih =>
      rw [List.cons_append, allCurrent, Bool.and_eq_true] at h
      exact ih h.2

/-!
# Cutting in front of openings
-/

/-- A text that begins with an opening or a comment, perhaps behind markers. -/
structure Begins (x markers rest : Text) : Prop where
  eq_append : x = markers ++ rest
  markers_all : forall c, c ∈ markers -> EtymologyLines.isMarker c = true
  rest_eq : (exists r, rest = '<' :: r) ∨ exists r, rest = '\x7b' :: '\x7b' :: r

theorem isNameChar_of_isMarker {c : Char} (hc : EtymologyLines.isMarker c = true) : isNameChar c = true := by
  have hcases : c = ':' ∨ c = ';' ∨ c = '*' ∨ c = '#' := by simpa [EtymologyLines.isMarker, or_assoc] using hc
  rcases hcases with rfl | rfl | rfl | rfl <;> decide

/-- Behind the character that ends a name anything may follow. -/
theorem opensCurrent_append_of_ended {r : Text} (h : r.dropWhile isNameChar ≠ []) (b : Text) :
    opensCurrent (r ++ b) = opensCurrent r := by
  have hshort : (r.takeWhile isNameChar).length ≠ r.length := by
    intro hlength
    have hself := (List.takeWhile_prefix isNameChar).eq_of_length hlength
    exact h (List.dropWhile_eq_nil_iff.mpr (List.takeWhile_eq_self_iff.mp hself))
  rw [opensCurrent, opensCurrent, List.takeWhile_append, if_neg hshort, List.dropWhile_append,
    if_neg (by simpa using h), List.head?_append_of_ne_nil _ h]

/-- What follows may be exchanged if each opening in front of it stays one of the present layout. -/
theorem allCurrent_exchange {a x b : Text} (hbrace : mayFollowBrace x = true -> mayFollowBrace b = true)
    (hopens : forall r, opensCurrent (r ++ x) = true -> opensCurrent (r ++ b) = true) (h : allCurrent (a ++ x) = true)
    (hb : allCurrent b = true) : allCurrent (a ++ b) = true := by
  have hfollows : forall r, mayFollowBrace (r ++ x) = true -> mayFollowBrace (r ++ b) = true := by
    intro r hr
    cases r with
    | nil => exact hbrace hr
    | cons d r =>
        rw [List.cons_append, mayFollowBrace] at hr ⊢
        split
        · rename_i hd
          rw [if_pos hd] at hr
          exact hopens r hr
        · rename_i hd
          rwa [if_neg hd] at hr
  induction a with
  | nil => exact hb
  | cons c a ih =>
      rw [List.cons_append, allCurrent, Bool.and_eq_true] at h ⊢
      refine ⟨?_, ih h.2⟩
      by_cases hc : c = '\x7b'
      · have hr : mayFollowBrace (a ++ x) = true := by simpa [hc] using h.1
        rw [hfollows a hr, Bool.or_true]
      · simp [hc]

/-- A name in front of an opening must have ended, so that it does not matter what follows. -/
theorem opensCurrent_of_begins {r x markers rest : Text} (hx : Begins x markers rest) (h : opensCurrent (r ++ x) = true)
    (b : Text) : opensCurrent (r ++ b) = true := by
  have hended : r.dropWhile isNameChar ≠ [] := by
    intro hall
    rw [opensCurrent, Bool.and_eq_true] at h
    have hnext := h.2
    have hmarkers : markers.dropWhile isNameChar = [] :=
      List.dropWhile_eq_nil_iff.mpr fun c hc => isNameChar_of_isMarker (hx.markers_all c hc)
    rw [hx.eq_append, List.dropWhile_append, hall, List.isEmpty_nil, if_pos rfl, List.dropWhile_append, hmarkers,
      List.isEmpty_nil, if_pos rfl] at hnext
    rcases hx.rest_eq with ⟨r', rfl⟩ | ⟨r', rfl⟩
    · exact absurd hnext (by simp [isNameChar, endsName])
    · exact absurd hnext (by simp [isNameChar, endsName])
  rw [opensCurrent_append_of_ended hended] at h ⊢
  exact h

/-- No brace stands in front of an opening. -/
theorem mayFollowBrace_eq_false_of_begins {x markers rest : Text} (hx : Begins x markers rest) :
    mayFollowBrace x = false := by
  rw [hx.eq_append]
  cases markers with
  | nil =>
      rcases hx.rest_eq with ⟨r, rfl⟩ | ⟨r, rfl⟩
      · simp [mayFollowBrace]
      · simp [mayFollowBrace, opensCurrent, isCurrentName, isNameChar]
  | cons c markers =>
      have hc := hx.markers_all c List.mem_cons_self
      have hne : c ≠ '\x7b' := by
        rintro rfl
        exact absurd hc (by decide)
      simp [mayFollowBrace, hne, hc]

theorem allCurrent_of_begins {a x markers rest b : Text} (hx : Begins x markers rest) (h : allCurrent (a ++ x) = true)
    (hb : allCurrent b = true) : allCurrent (a ++ b) = true := by
  refine allCurrent_exchange (fun hbrace => ?_) (fun r hr => opensCurrent_of_begins hx hr b) h hb
  rw [mayFollowBrace_eq_false_of_begins hx] at hbrace
  cases hbrace

/-!
# Current texts
-/

variable {a b t x markers rest : Text}

theorem squeeze_append (a b : Text) : squeeze (a ++ b) = squeeze a ++ squeeze b :=
  List.filter_append ..

theorem squeeze_cons {c : Char} (hc : Chars.isBlank c = false) (t : Text) : squeeze (c :: t) = c :: squeeze t :=
  List.filter_cons_of_pos (by simp [hc])

theorem squeeze_newline (t : Text) : squeeze ('\n' :: t) = '\n' :: squeeze t :=
  List.filter_cons_of_pos (by simp)

theorem squeeze_cons_of_endsName {c : Char} (hc : endsName c = true) (t : Text) : squeeze (c :: t) = c :: squeeze t := by
  have hcases : c = '\n' ∨ c = '|' ∨ c = '=' ∨ c = '\x7d' := by simpa [endsName, or_assoc] using hc
  rcases hcases with rfl | rfl | rfl | rfl
  · exact squeeze_newline t
  · exact squeeze_cons (by decide) t
  · exact squeeze_cons (by decide) t
  · exact squeeze_cons (by decide) t

/-- A text may be cut and put together where names end. -/
theorem isCurrent_append_iff {c : Char} (hc : endsName c = true) :
    IsCurrent (a ++ c :: b) <-> IsCurrent a ∧ IsCurrent b := by
  rw [IsCurrent, squeeze_append, squeeze_cons_of_endsName hc, allCurrent_append hc, Bool.and_eq_true]
  rfl

theorem isCurrent_cons_iff {c : Char} (hc : endsName c = true) : IsCurrent (c :: b) <-> IsCurrent b := by
  have hnil : IsCurrent [] := rfl
  simpa [hnil] using isCurrent_append_iff (a := []) (b := b) hc

theorem IsCurrent.of_append (h : IsCurrent (a ++ b)) : IsCurrent b := by
  rw [IsCurrent, squeeze_append] at h
  exact allCurrent_of_append h

theorem Begins.squeezed (h : Begins x markers rest) : Begins (squeeze x) markers (squeeze rest) := by
  have hmarkers : squeeze markers = markers := by
    refine List.filter_eq_self.mpr fun c hc => ?_
    have hcases : c = ':' ∨ c = ';' ∨ c = '*' ∨ c = '#' := by
      simpa [EtymologyLines.isMarker, or_assoc] using h.markers_all c hc
    rcases hcases with rfl | rfl | rfl | rfl <;> decide
  refine ⟨by rw [h.eq_append, squeeze_append, hmarkers], h.markers_all, ?_⟩
  rcases h.rest_eq with ⟨r, rfl⟩ | ⟨r, rfl⟩
  · exact Or.inl ⟨squeeze r, squeeze_cons (by decide) r⟩
  · exact Or.inr ⟨squeeze r, by rw [squeeze_cons (by decide), squeeze_cons (by decide)]⟩

/-- What stands in front of an opening or a comment may be put in front of anything. -/
theorem IsCurrent.append_of_begins (h : IsCurrent (a ++ x)) (hx : Begins x markers rest) (hb : IsCurrent b) :
    IsCurrent (a ++ b) := by
  rw [IsCurrent, squeeze_append] at h ⊢
  exact allCurrent_of_begins hx.squeezed h hb

theorem IsCurrent.append_of_not_mem (h : IsCurrent t) (ha : '\x7b' ∉ a) : IsCurrent (a ++ t) := by
  induction a with
  | nil => exact h
  | cons c a ih =>
      have hrest := ih fun h => ha (List.mem_cons_of_mem c h)
      have hne : c ≠ '\x7b' := fun h => ha (h ▸ List.mem_cons_self)
      rw [IsCurrent, squeeze, List.cons_append, List.filter_cons]
      split
      · rw [allCurrent, Bool.and_eq_true]
        exact ⟨by simp [hne], hrest⟩
      · exact hrest

theorem isCurrent_of_not_mem (ht : '\x7b' ∉ t) : IsCurrent t := by
  have hnil : IsCurrent [] := rfl
  simpa using hnil.append_of_not_mem ht

/-!
# Trimming and joining
-/

/-- Of blanks, line ends are left at most. -/
theorem squeeze_of_blank (hb : forall c, c ∈ b -> Chars.isBlank c = true) :
    squeeze b = [] ∨ exists r, squeeze b = '\n' :: r := by
  cases hsqueezed : squeeze b with
  | nil => exact Or.inl rfl
  | cons c r =>
      have hc : c ∈ squeeze b := hsqueezed ▸ List.mem_cons_self
      rcases List.mem_filter.mp hc with ⟨hmem, hkept⟩
      have hnewline : c = '\n' := by simpa [hb c hmem] using hkept
      exact Or.inr ⟨r, by rw [hnewline]⟩

theorem IsCurrent.of_append_blank (h : IsCurrent (a ++ b)) (hb : forall c, c ∈ b -> Chars.isBlank c = true) :
    IsCurrent a := by
  rw [IsCurrent, squeeze_append] at h
  rcases squeeze_of_blank hb with hsqueezed | ⟨r, hsqueezed⟩
  · rwa [hsqueezed, List.append_nil] at h
  · rw [hsqueezed, allCurrent_append (by decide), Bool.and_eq_true] at h
    exact h.1

theorem IsCurrent.append_blank (h : IsCurrent a) (hb : forall c, c ∈ b -> Chars.isBlank c = true) :
    IsCurrent (a ++ b) := by
  have hcurrent : IsCurrent b := isCurrent_of_not_mem fun hmem => absurd (hb _ hmem) (by decide)
  rw [IsCurrent] at hcurrent ⊢
  rw [squeeze_append]
  rcases squeeze_of_blank hb with hsqueezed | ⟨r, hsqueezed⟩
  · rwa [hsqueezed, List.append_nil]
  · rw [hsqueezed] at hcurrent ⊢
    rw [allCurrent_append (by decide), Bool.and_eq_true]
    exact ⟨h, hcurrent⟩

theorem IsCurrent.trimLeftBy (h : IsCurrent t) (p : Char -> Bool) : IsCurrent (t.trimLeftBy p) := by
  rw [← Text.takeWhile_append_trimLeftBy t p] at h
  exact h.of_append

theorem IsCurrent.trimRightBy {p : Char -> Bool} (h : IsCurrent t) (hp : forall c, p c = true -> Chars.isBlank c = true) :
    IsCurrent (t.trimRightBy p) := by
  rw [← Text.trimRightBy_append t p] at h
  refine h.of_append_blank fun c hc => hp c ?_
  exact List.mem_takeWhile_imp (List.mem_reverse.mp hc)

theorem IsCurrent.trim (h : IsCurrent t) : IsCurrent t.trim :=
  (h.trimLeftBy _).trimRightBy fun _ hc => hc

/-- Blanks at the end do not matter. -/
theorem IsCurrent.of_trimRight (h : IsCurrent t.trimRight) : IsCurrent t := by
  rw [← Text.trimRightBy_append t Chars.isBlank]
  exact h.append_blank fun c hc => List.mem_takeWhile_imp (List.mem_reverse.mp hc)

theorem isBlank_of_eq_newline (c : Char) (hc : (c == '\n') = true) : Chars.isBlank c = true := by
  rw [eq_of_beq hc]
  decide

theorem isCurrent_replicate_append {c : Char} (hc : endsName c = true) (n : Nat) :
    IsCurrent (List.replicate n c ++ t) <-> IsCurrent t := by
  induction n with
  | zero => rfl
  | succ n ih => rw [List.replicate_succ, List.cons_append, isCurrent_cons_iff hc, ih]

theorem isCurrent_append_replicate {c : Char} (hc : endsName c = true) (n : Nat) :
    IsCurrent (t ++ List.replicate n c) <-> IsCurrent t := by
  cases n with
  | zero => rw [List.replicate_zero, List.append_nil]
  | succ n =>
      have hrest : IsCurrent (List.replicate n c) := by
        rw [← List.append_nil (List.replicate n c), isCurrent_replicate_append hc]
        rfl
      rw [List.replicate_succ, isCurrent_append_iff hc]
      exact and_iff_left hrest

theorem isCurrent_joinWith_iff (n : Nat) (ts : List Text) :
    IsCurrent (Text.joinWith (List.replicate (n + 1) '\n') ts) <-> forall t, t ∈ ts -> IsCurrent t := by
  induction ts with
  | nil => exact ⟨fun _ => List.forall_mem_nil _, fun _ => rfl⟩
  | cons t ts ih =>
      rw [List.forall_mem_cons]
      by_cases hts : ts = []
      · subst hts
        simp [Text.joinWith]
      · rw [Text.joinWith_cons hts, List.append_assoc, List.replicate_succ, List.cons_append,
          isCurrent_append_iff (by decide), isCurrent_replicate_append (by decide), ← List.replicate_succ, ih]

end LegacyLayout
end WikiEntry
