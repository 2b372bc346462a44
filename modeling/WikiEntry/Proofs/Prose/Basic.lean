import Mathlib.Data.List.Chain
import WikiEntry.Rule.Marks
import WikiEntry.Proofs.Pattern.Beyond
import WikiEntry.Proofs.Region.Union
import WikiEntry.Proofs.Text.Absent
import WikiEntry.Proofs.Text.Lines

/-!
# Plain prose

Plain prose is made of words over the small letters, with single spaces and newlines between them.  It has no mark
of any kind: no region is ignored, there are no templates, and the page of such a text is one text in front of no
sections.
-/

namespace WikiEntry
namespace Text

def letters : List Char :=
  "abcdefghijklmnopqrstuvwxyz".toList

def proseChars : List Char :=
  ' ' :: '\n' :: letters

/-- Words with single blanks between them: of two neighbours one is a letter, and so are both ends. -/
structure IsProse (t : Text) : Prop where
  chars : forall ch, ch ∈ t -> ch ∈ proseChars
  apart : t.IsChain fun a b => a ∈ letters ∨ b ∈ letters
  head : exists ch, t.head? = some ch ∧ ch ∈ letters
  last : exists ch, t.getLast? = some ch ∧ ch ∈ letters

theorem of_mem_letters {p : Char -> Bool} (h : letters.all p = true) {ch : Char} (hch : ch ∈ letters) : p ch = true :=
  List.all_eq_true.mp h ch hch

theorem isBlank_of_mem_letters {ch : Char} (h : ch ∈ letters) : Chars.isBlank ch = false := by
  simpa using of_mem_letters (p := (!Chars.isBlank ·)) (by decide) h

namespace IsProse

/-!
# Building prose
-/

theorem ofLetters {w : Text} (hne : w ≠ []) (hw : forall ch, ch ∈ w -> ch ∈ letters) : IsProse w where
  chars ch hch := List.mem_cons_of_mem _ (List.mem_cons_of_mem _ (hw ch hch))
  apart := (List.pairwise_of_forall_mem_list fun a ha _ _ => Or.inl (hw a ha)).isChain
  head := ⟨w.head hne, List.head?_eq_some_head hne, hw _ (List.head_mem hne)⟩
  last := ⟨w.getLast hne, List.getLast?_eq_some_getLast hne, hw _ (List.getLast_mem hne)⟩

variable {t u : Text}

theorem append (ht : t.IsProse) (hu : u.IsProse) {blank : Char} (hblank : blank ∈ proseChars) :
    IsProse (t ++ [blank] ++ u) where
  chars ch hch := by
    rcases List.mem_append.mp hch with hch | hch
    · rcases List.mem_append.mp hch with hch | hch
      · exact ht.chars ch hch
      · rwa [List.mem_singleton.mp hch]
    · exact hu.chars ch hch
  apart := by
    rw [List.append_assoc, List.isChain_append]
    refine ⟨ht.apart, ?_, ?_⟩
    · rw [List.singleton_append, List.isChain_cons]
      refine ⟨?_, hu.apart⟩
      intro ch hch
      rcases hu.head with ⟨first, hfirst, hletter⟩
      rw [hfirst] at hch
      exact Or.inr (Option.mem_some.mp hch ▸ hletter)
    · intro a ha b _
      rcases ht.last with ⟨last, hlast, hletter⟩
      rw [hlast] at ha
      exact Or.inl (Option.mem_some.mp ha ▸ hletter)
  head := by
    rcases ht.head with ⟨ch, hch, hletter⟩
    exact ⟨ch, by rw [List.append_assoc, List.head?_append, hch]; rfl, hletter⟩
  last := by
    rcases hu.last with ⟨ch, hch, hletter⟩
    exact ⟨ch, by rw [List.getLast?_append, hch]; rfl, hletter⟩

theorem joinWith (blank : Char) (hblank : blank ∈ proseChars) {ts : List Text} (hne : ts ≠ [])
    (hts : forall t, t ∈ ts -> t.IsProse) : IsProse (Text.joinWith [blank] ts) := by
  induction ts with
  | nil => exact absurd rfl hne
  | cons t ts ih =>
      by_cases hlast : ts = []
      · rw [hlast]
        exact hts t List.mem_cons_self
      · rw [joinWith_cons hlast]
        exact (hts t List.mem_cons_self).append (ih hlast fun u hu => hts u (List.mem_cons_of_mem t hu)) hblank

/-!
# Ends and blanks
-/

theorem not_mem (ht : t.IsProse) {a : Char} (ha : a ∉ proseChars) : a ∉ t :=
  fun h => ha (ht.chars a h)

theorem ne_nil (ht : t.IsProse) : t ≠ [] := by
  rintro rfl
  rcases ht.head with ⟨ch, hch, _⟩
  cases hch

theorem trimLeftBy_eq_self (ht : t.IsProse) {p : Char -> Bool} (hp : forall ch, ch ∈ letters -> p ch = false) :
    t.trimLeftBy p = t := by
  rcases ht.head with ⟨ch, hch, hletter⟩
  cases t with
  | nil => rfl
  | cons c r =>
      cases hch
      exact List.dropWhile_cons_of_neg (Bool.eq_false_iff.mp (hp _ hletter))

theorem trimRightBy_eq_self (ht : t.IsProse) {p : Char -> Bool} (hp : forall ch, ch ∈ letters -> p ch = false) :
    t.trimRightBy p = t := by
  rcases ht.last with ⟨ch, hch, hletter⟩
  rcases List.getLast?_eq_some_iff.mp hch with ⟨r, rfl⟩
  rw [trimRightBy, List.reverse_append, List.reverse_singleton, List.singleton_append,
    List.dropWhile_cons_of_neg (Bool.eq_false_iff.mp (hp _ hletter)), List.reverse_cons, List.reverse_reverse]

theorem trimRight_eq_self (ht : t.IsProse) : t.trimRight = t :=
  ht.trimRightBy_eq_self fun _ => isBlank_of_mem_letters

theorem trim_eq_self (ht : t.IsProse) : t.trim = t := by
  rw [trim, trimBy, ht.trimLeftBy_eq_self fun _ => isBlank_of_mem_letters]
  exact ht.trimRight_eq_self

/-- No two blanks stand side by side. -/
theorem not_piece (ht : t.IsProse) {a b : Char} (ha : a ∉ letters) (hb : b ∉ letters) : ¬ [a, b] <:+: t := by
  rintro ⟨front, behind, heq⟩
  have happart := ht.apart
  rw [← heq, List.append_assoc] at happart
  rcases List.isChain_pair.mp (happart.right_of_append.left_of_append) with h | h
  · exact ha h
  · exact hb h

/-!
# Patterns
-/

section

variable {p : Pattern} (ht : t.IsProse) (hp : p.readsBeyond proseChars = true)

include ht hp

theorem matchList_eq_nil : p.matchList t = [] :=
  Pattern.matchList_eq_nil ht.chars hp

theorem matchesIn_eq_false : p.matchesIn t = false :=
  Pattern.matchesIn_eq_false ht.chars hp

theorem replaceOutside_eq_self (new : Text) : Region.replaceOutside t p new = t :=
  Region.replaceOutside_eq_self (ht.matchList_eq_nil hp) new

theorem expandOutside_eq_self (new : Text) : Region.expandOutside t p new = t :=
  Region.expandOutside_eq_self (ht.matchList_eq_nil hp) new

theorem reviseOutside_eq_self (replacer : Match -> Option Text) : Region.reviseOutside t p replacer = t :=
  Region.reviseOutside_eq_self (ht.matchList_eq_nil hp) replacer

end

/-- A run of at least two blanks finds nothing. -/
theorem matchList_run_eq_nil (ht : t.IsProse) {greedy : Bool} {least : Nat} {most : Option Nat} {blank : Char}
    (hblank : blank ∉ letters) (hleast : 2 ≤ least) :
    Pattern.matchList (.run greedy least most (.char blank)) t = [] := by
  refine Pattern.matchList_eq_nil_of_not_matched fun m w s hm => ?_
  rcases hm.reads.run_inv with ⟨hset, hlength, _⟩
  have hpiece := hm.piece
  match w, hset, hlength, hpiece with
  | [], _, hlength, _ => exact absurd (hleast.trans hlength) (by simp)
  | [_], _, hlength, _ => exact absurd (hleast.trans hlength) (by simp)
  | a :: b :: w, hset, _, hpiece =>
      have ha : blank = a := beq_iff_eq.mp (hset a List.mem_cons_self)
      have hb : blank = b := beq_iff_eq.mp (hset b (List.mem_cons_of_mem a List.mem_cons_self))
      subst ha hb
      exact ht.not_piece hblank hblank ((List.infix_append [] [blank, blank] w).trans hpiece)

/-- Two blanks in a row find nothing. -/
theorem matchList_lit_eq_nil (ht : t.IsProse) {a b : Char} (ha : a ∉ letters) (hb : b ∉ letters) :
    Pattern.matchList (.lit [a, b]) t = [] := by
  refine Pattern.matchList_eq_nil_of_not_matched fun m w s hm => ?_
  rcases hm.reads.lit_inv with ⟨rfl, _⟩
  exact ht.not_piece ha hb hm.piece

end IsProse
end Text

/-!
# Regions and templates
-/

namespace Region

variable {t : Text}

theorem comments_of_isProse (ht : t.IsProse) : comments t = [] :=
  comments_eq_nil (ht.not_mem (by decide))

theorem elements_of_isProse (ht : t.IsProse) (name : Text) : elements (.ofName name) t = [] :=
  elements_eq_nil (ht.not_mem (by decide)) name

theorem hidden_of_isProse (ht : t.IsProse) : hidden t = [] :=
  hidden_eq_nil (ht.not_mem (by decide))

theorem ignored_of_isProse (ht : t.IsProse) : ignored t = [] := by
  rw [ignored, comments_of_isProse ht, TagPattern.nowiki, TagPattern.pre, TagPattern.code, elements_of_isProse ht,
    elements_of_isProse ht, elements_of_isProse ht]
  simp [combine, mergeSorted]

theorem templates_of_isProse (ht : t.IsProse) : templates t = [] :=
  nested_eq_nil (a := '\x7b') List.mem_cons_self (ht.not_mem (by decide)) _

theorem tables_of_isProse (ht : t.IsProse) : tables t = [] :=
  nested_eq_nil (a := '\x7b') List.mem_cons_self (ht.not_mem (by decide)) _

theorem stripHidden_of_isProse (ht : t.IsProse) : stripHidden t = t := by
  rw [stripHidden, hidden_of_isProse ht]
  rfl

theorem sanitizeBlanks_of_isProse (ht : t.IsProse) : sanitizeBlanks t = t := by
  have htabs : replaceOutside t "\t" " " = t := ht.replaceOutside_eq_self (by decide) " "
  have hruns : replaceOutside t (.run true 2 none (.char ' ')) " " = t :=
    replaceOutside_eq_self (ht.matchList_run_eq_nil (by decide) (Nat.le_refl 2)) " "
  have hends : replaceOutside t " \n" "\n" = t :=
    replaceOutside_eq_self (ht.matchList_lit_eq_nil (by decide) (by decide)) "\n"
  rw [sanitizeBlanks, htabs, hruns, hends]

end Region

namespace Template

variable {t : Text}

theorem spans_of_isProse (ht : t.IsProse) : spans t = [] := by
  rw [spans, spansFrom, Region.templates_of_isProse ht]
  rfl

theorem located_of_isProse (ht : t.IsProse) : located t = [] := by
  rw [located, spans_of_isProse ht]
  rfl

theorem replace_of_isProse (ht : t.IsProse) (replacer : Template -> Option Text) : replace t replacer = t := by
  rw [replace, replaceWith, located_of_isProse ht]
  rfl

end Template

theorem Marks.isLegacy_of_isProse {t : Text} (ht : t.IsProse) : Marks.isLegacy t = false := by
  rw [Marks.isLegacy, Region.stripHidden_of_isProse ht, ht.matchesIn_eq_false (by decide),
    Template.located_of_isProse ht]
  rfl

/-!
# The page of a prose text
-/

namespace Page

/-- A page without sections. -/
def ofBody (title : Text) (b : Body) : Page :=
  { empty title with body := b }

/-- A page with a text and no sections. -/
def ofFront (title t : Text) : Page :=
  ofBody title ⟨0, t, 0⟩

theorem render_ofBody (title : Text) {t : Text} (ht : t ≠ []) (trailing : Nat) :
    (ofBody title ⟨0, t, trailing⟩).render = t ++ List.replicate trailing '\n' := by
  show List.dropLast (((t ++ List.replicate trailing '\n') ++ if t.isEmpty then [] else ['\n']) ++ []) = _
  rw [List.isEmpty_eq_false_iff.mpr ht, if_neg Bool.false_ne_true, List.append_nil, List.dropLast_concat]

theorem render_ofFront (title : Text) {t : Text} (ht : t ≠ []) : (ofFront title t).render = t :=
  (render_ofBody title ht 0).trans (List.append_nil t)

theorem headerPlaces_of_isProse {t : Text} (ht : t.IsProse) : headerPlaces t = [] := by
  rw [headerPlaces, List.map_eq_nil_iff, List.filter_eq_nil_iff]
  rintro ⟨place, line⟩ hmem
  have hline : forall ch, ch ∈ line -> ch ∈ Text.proseChars := fun ch hch =>
    ht.chars ch (Text.mem_of_mem_placedLines hmem hch)
  simp [beginsSection, Pattern.find?_eq_none hline (p := headerLine) (by decide)]

theorem ofText_of_isProse {t : Text} (ht : t.IsProse) : Body.ofText t = ⟨0, t, 0⟩ := by
  have hletters : forall ch, ch ∈ Text.letters -> (ch == '\n') = false := by
    intro ch hch
    simpa using Text.of_mem_letters (p := (· != '\n')) (by decide) hch
  have hall : t.all (· == '\n') = false := by
    rcases ht.head with ⟨ch, hch, hletter⟩
    refine Bool.eq_false_iff.mpr fun h => ?_
    have hnewline := List.all_eq_true.mp h ch (List.mem_of_head? hch)
    rw [hletters ch hletter] at hnewline
    cases hnewline
  rw [Body.ofText, hall, if_neg Bool.false_ne_true, ht.trimRightBy_eq_self hletters]
  dsimp only
  rw [ht.trimLeftBy_eq_self hletters, Nat.sub_self]

theorem read_of_isProse (c : Config) (title : Text) {t : Text} (ht : t.IsProse) :
    read c title t = .ok (ofFront title t) := by
  have hchunks : chunks t = (t, []) := by
    rw [chunks, headerPlaces_of_isProse ht]
    rfl
  have hdrop : dropNewline t = t := by
    have hbefore : Text.before? "\n" t = none := by
      rw [Option.eq_none_iff_forall_ne_some]
      intro r hr
      rcases ht.last with ⟨ch, hch, hletter⟩
      rw [Text.before?_eq_some_iff.mp hr, List.getLast?_append] at hch
      cases hch
      exact absurd hletter (by decide)
    rw [dropNewline, hbefore]
    rfl
  have hne : t.isEmpty = false := List.isEmpty_eq_false_iff.mpr ht.ne_nil
  rw [read, hne, if_neg Bool.false_ne_true, Region.sanitizeBlanks_of_isProse ht, hchunks]
  show Except.ok (splitTrailing c (assemble title t [])) = _
  rw [assemble, hne, if_neg Bool.false_ne_true, hdrop, ofText_of_isProse ht]
  rfl

end Page
end WikiEntry
