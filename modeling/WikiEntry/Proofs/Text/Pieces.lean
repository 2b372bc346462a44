import Mathlib.Data.List.Forall2
import Mathlib.Data.List.TakeWhile
import WikiEntry.Text.Blank

/-!
# Pieces of a text

Trimming takes the longest run of characters off either end.  What is taken off at the two ends, put around what
is left, gives the text back, unless the whole text is such a run.  Likewise a text is what stands before and after
the first occurrence of a separator, with the separator between them.
-/

namespace WikiEntry
namespace Text

/-!
# Trimming
-/

theorem trimLeftBy_eq_nil_iff {t : Text} {p : Char -> Bool} : t.trimLeftBy p = [] <-> t.all p = true := by
  rw [trimLeftBy, List.dropWhile_eq_nil_iff, List.all_eq_true]

theorem trimRightBy_eq_nil_iff {t : Text} {p : Char -> Bool} : t.trimRightBy p = [] <-> t.all p = true := by
  rw [trimRightBy, List.reverse_eq_nil_iff, List.dropWhile_eq_nil_iff, List.all_eq_true]
  simp only [List.mem_reverse]

theorem trimBy_eq_nil_iff {t : Text} {p : Char -> Bool} : t.trimBy p = [] <-> t.all p = true := by
  rw [trimBy, trimRightBy_eq_nil_iff]
  conv_rhs => rw [← List.takeWhile_append_dropWhile (p := p) (l := t), List.all_append, List.all_takeWhile]
  rfl

theorem trim_eq_nil_iff {t : Text} : t.trim = [] <-> t.isBlank = true :=
  trimBy_eq_nil_iff

theorem takeWhile_append_trimLeftBy (t : Text) (p : Char -> Bool) : t.takeWhile p ++ t.trimLeftBy p = t :=
  List.takeWhile_append_dropWhile

theorem trimRightBy_append (t : Text) (p : Char -> Bool) :
    t.trimRightBy p ++ (t.reverse.takeWhile p).reverse = t := by
  rw [trimRightBy, ← List.reverse_append, List.takeWhile_append_dropWhile, List.reverse_reverse]

theorem trimRightBy_append_of_all {x y : Text} {p : Char -> Bool} (hy : y.all p = true) :
    (x ++ y).trimRightBy p = x.trimRightBy p := by
  have hnil : y.reverse.dropWhile p = [] := List.reverse_eq_nil_iff.mp (trimRightBy_eq_nil_iff.mpr hy)
  rw [trimRightBy, List.reverse_append, List.dropWhile_append, hnil]
  rfl

theorem trimRightBy_append_of_not_all {x y : Text} {p : Char -> Bool} (hy : y.all p = false) :
    (x ++ y).trimRightBy p = x ++ y.trimRightBy p := by
  have hne : y.reverse.dropWhile p ≠ [] := by
    intro hnil
    rw [trimRightBy_eq_nil_iff.mp (List.reverse_eq_nil_iff.mpr hnil)] at hy
    cases hy
  rw [trimRightBy, List.reverse_append, List.dropWhile_append, if_neg (by simpa using hne), List.reverse_append,
    List.reverse_reverse]
  rfl

/-- A run of characters in front takes no part in the run at the end. -/
theorem takeWhile_reverse_trimLeftBy {t : Text} {p : Char -> Bool} (ht : t.all p = false) :
    (t.trimLeftBy p).reverse.takeWhile p = t.reverse.takeWhile p := by
  have hne : t.dropWhile p ≠ [] := by
    intro h
    rw [trimLeftBy_eq_nil_iff.mp h] at ht
    cases ht
  have hhead : p ((t.dropWhile p).head hne) = false := List.head_dropWhile_not p hne
  have hshort : ((t.dropWhile p).reverse.takeWhile p).length ≠ (t.dropWhile p).reverse.length := by
    intro hlength
    have hself := (List.takeWhile_prefix p).eq_of_length hlength
    have hall := List.takeWhile_eq_self_iff.mp hself _ (List.mem_reverse.mpr (List.head_mem hne))
    rw [hhead] at hall
    cases hall
  conv =>
    rhs
    rw [← takeWhile_append_trimLeftBy t p, List.reverse_append, trimLeftBy, List.takeWhile_append, if_neg hshort]
  rfl

theorem takeWhile_append_trimBy {t : Text} {p : Char -> Bool} (ht : t.all p = false) :
    t.takeWhile p ++ t.trimBy p ++ (t.reverse.takeWhile p).reverse = t := by
  rw [trimBy, ← takeWhile_reverse_trimLeftBy ht, List.append_assoc, trimRightBy_append, takeWhile_append_trimLeftBy]

theorem length_trimRightBy_le (t : Text) (p : Char -> Bool) : (t.trimRightBy p).length ≤ t.length := by
  have hlength := congrArg List.length (trimRightBy_append t p)
  rw [List.length_append] at hlength
  omega

theorem length_trimBy_le (t : Text) (p : Char -> Bool) : (t.trimBy p).length ≤ t.length :=
  (length_trimRightBy_le _ p).trans (List.length_dropWhile_le p t)

/-!
# Runs of one character
-/

theorem eq_replicate_of_all {t : Text} {ch : Char} (ht : t.all (· == ch) = true) : t = List.replicate t.length ch :=
  List.eq_replicate_of_mem fun d hd => beq_iff_eq.mp (List.all_eq_true.mp ht d hd)

theorem takeWhile_eq_replicate (t : Text) (ch : Char) :
    t.takeWhile (· == ch) = List.replicate (t.takeWhile (· == ch)).length ch :=
  eq_replicate_of_all List.all_takeWhile

/-!
# Splitting
-/

/-- A text is split in one way at the first place of a character. -/
theorem eq_of_append_cons {x y r r' : Text} {ch : Char} (hx : ch ∉ x) (hy : ch ∉ y) (h : x ++ ch :: r = y ++ ch :: r') :
    x = y ∧ r = r' := by
  rcases List.append_eq_append_iff.mp h with ⟨d, rfl, hrest⟩ | ⟨d, rfl, hrest⟩
  · cases d with
    | nil => exact ⟨(List.append_nil x).symm, (List.cons.inj hrest).2⟩
    | cons c d =>
        rw [(List.cons.inj hrest).1] at hy
        simp at hy
  · cases d with
    | nil => exact ⟨List.append_nil y, (List.cons.inj hrest).2.symm⟩
    | cons c d =>
        rw [(List.cons.inj hrest).1] at hx
        simp at hx

theorem eq_append_of_find? {t p : Text} {n : Nat} (h : t.find? p = some n) :
    t = t.take n ++ p ++ t.drop (n + p.length) := by
  induction t generalizing n with
  | nil =>
      unfold find? at h
      split at h
      · rename_i hp
        cases h
        have hnil : p = [] := List.prefix_nil.mp (List.isPrefixOf_iff_prefix.mp hp)
        rw [hnil]
        rfl
      · cases h
  | cons c r ih =>
      unfold find? at h
      split at h
      · rename_i hp
        cases h
        rcases List.isPrefixOf_iff_prefix.mp hp with ⟨rest, hrest⟩
        rw [← hrest, Nat.zero_add, List.drop_left]
        rfl
      · rcases Option.map_eq_some_iff.mp h with ⟨m, hm, rfl⟩
        rw [List.take_succ_cons, Nat.add_right_comm, List.drop_succ_cons, List.cons_append, List.cons_append, ← ih hm]

theorem eq_of_splitOnce? {t sep before after : Text} (h : t.splitOnce? sep = some (before, after)) :
    t = before ++ sep ++ after := by
  rcases Option.map_eq_some_iff.mp h with ⟨n, hn, heq⟩
  cases heq
  exact eq_append_of_find? hn

/-!
# Joining
-/

theorem joinWith_cons {sep u : Text} {us : List Text} (hus : us ≠ []) :
    joinWith sep (u :: us) = u ++ sep ++ joinWith sep us := by
  cases us with
  | nil => exact absurd rfl hus
  | cons v vs => rfl

theorem flatMap_append_sep {sep : Text} {us : List Text} (hus : us ≠ []) :
    us.flatMap (· ++ sep) = joinWith sep us ++ sep := by
  induction us with
  | nil => exact absurd rfl hus
  | cons u us ih =>
      by_cases hnil : us = []
      · rw [hnil]
        exact List.append_nil _
      · rw [List.flatMap_cons, ih hnil, joinWith_cons hnil, List.append_assoc (u ++ sep)]

theorem mem_joinWith {sep u : Text} {us : List Text} {ch : Char} (hu : u ∈ us) (hch : ch ∈ u) :
    ch ∈ joinWith sep us := by
  induction us with
  | nil => cases hu
  | cons v vs ih =>
      by_cases hnil : vs = []
      · rw [hnil] at hu ⊢
        rw [List.mem_singleton.mp hu] at hch
        exact hch
      · rw [joinWith_cons hnil]
        rcases List.mem_cons.mp hu with rfl | hu
        · exact List.mem_append_left _ (List.mem_append_left _ hch)
        · exact List.mem_append_right _ (ih hu)

theorem mem_of_mem_joinWith {sep : Text} {us : List Text} {ch : Char} (h : ch ∈ joinWith sep us) :
    ch ∈ sep ∨ exists u, u ∈ us ∧ ch ∈ u := by
  induction us with
  | nil => cases h
  | cons v vs ih =>
      by_cases hnil : vs = []
      · rw [hnil] at h ⊢
        exact Or.inr ⟨v, List.mem_singleton_self v, h⟩
      · rw [joinWith_cons hnil] at h
        rcases List.mem_append.mp h with h | h
        · rcases List.mem_append.mp h with h | h
          · exact Or.inr ⟨v, List.mem_cons_self, h⟩
          · exact Or.inl h
        · rcases ih h with h | ⟨u, hu, h⟩
          · exact Or.inl h
          · exact Or.inr ⟨u, List.mem_cons_of_mem v hu, h⟩

theorem length_joinWith_le {sep : Text} {us vs : List Text}
    (h : List.Forall₂ (fun u v => u.length ≤ v.length) us vs) :
    (joinWith sep us).length ≤ (joinWith sep vs).length := by
  induction h with
  | nil => exact Nat.le_refl _
  | cons hle hrest ih =>
      cases hrest with
      | nil => exact hle
      | cons _ _ =>
          rw [joinWith_cons (List.cons_ne_nil _ _), joinWith_cons (List.cons_ne_nil _ _)]
          simp only [List.length_append]
          omega

/-- Of two lists of pieces, one nowhere longer than the other, that join to the same length, all pieces are of equal
length. -/
theorem length_eq_of_joinWith {α : Type} {sep : Text} {xs : List α} {f g : α -> Text}
    (hle : forall x, x ∈ xs -> (f x).length ≤ (g x).length)
    (h : (joinWith sep (xs.map f)).length = (joinWith sep (xs.map g)).length) :
    forall x, x ∈ xs -> (f x).length = (g x).length := by
  induction xs with
  | nil => exact fun x hx => by cases hx
  | cons x xs ih =>
      have hhead := hle x List.mem_cons_self
      have hrest : forall y, y ∈ xs -> (f y).length ≤ (g y).length := fun y hy => hle y (List.mem_cons_of_mem x hy)
      have htail : (joinWith sep (xs.map f)).length ≤ (joinWith sep (xs.map g)).length :=
        length_joinWith_le
          (List.forall₂_map_left_iff.mpr (List.forall₂_map_right_iff.mpr (List.forall₂_same.mpr hrest)))
      intro y hy
      by_cases hlast : xs = []
      · rw [hlast] at h hy
        rw [List.mem_singleton.mp hy]
        exact h
      · have hne : forall f : α -> Text, xs.map f ≠ [] := fun f hnil => hlast (List.map_eq_nil_iff.mp hnil)
        rw [List.map_cons, List.map_cons, joinWith_cons (hne f), joinWith_cons (hne g)] at h
        simp only [List.length_append] at h
        rcases List.mem_cons.mp hy with rfl | hy
        · omega
        · exact ih hrest (by omega) y hy

/-- Pieces that are nowhere longer than others and join to the same text are the same. -/
theorem eq_of_joinWith {sep : Text} {us vs : List Text} (hle : List.Forall₂ (fun u v => u.length ≤ v.length) us vs)
    (h : joinWith sep us = joinWith sep vs) : us = vs := by
  induction hle with
  | nil => rfl
  | @cons u v us vs hle hrest ih =>
      cases hrest with
      | nil => exact congrArg ([·]) h
      | @cons u' v' us vs hle' hrest' =>
          have htail : (joinWith sep (u' :: us)).length ≤ (joinWith sep (v' :: vs)).length :=
            length_joinWith_le (.cons hle' hrest')
          rw [joinWith_cons (List.cons_ne_nil _ _), joinWith_cons (List.cons_ne_nil _ _), List.append_assoc,
            List.append_assoc] at h
          have hlength := congrArg List.length h
          simp only [List.length_append] at hlength
          rcases List.append_inj h (by omega) with ⟨rfl, h⟩
          rw [ih (List.append_cancel_left (List.append_cancel_left h))]

theorem splitAtEach_ne_nil (p t : Text) (skip : Nat) (piece : Text) : splitAtEach p t skip piece ≠ [] := by
  induction t generalizing skip piece with
  | nil => exact List.cons_ne_nil _ _
  | cons c r ih =>
      cases skip with
      | zero =>
          unfold splitAtEach
          split
          · exact List.cons_ne_nil _ _
          · exact ih 0 (c :: piece)
      | succ skip => exact ih skip piece

theorem joinWith_splitAtEach {p : Text} (hp : p ≠ []) (t : Text) (skip : Nat) (piece : Text) :
    joinWith p (splitAtEach p t skip piece) = piece.reverse ++ t.drop skip := by
  induction t generalizing skip piece with
  | nil =>
      rw [List.drop_nil, List.append_nil]
      rfl
  | cons c r ih =>
      cases skip with
      | succ skip => exact ih skip piece
      | zero =>
          unfold splitAtEach
          split
          · rename_i hprefix
            rcases List.isPrefixOf_iff_prefix.mp hprefix with ⟨rest, hrest⟩
            rw [joinWith_cons (splitAtEach_ne_nil _ _ _ _), ih, List.reverse_nil, List.nil_append, List.append_assoc]
            congr 1
            cases p with
            | nil => exact absurd rfl hp
            | cons d p =>
                rw [List.cons_append] at hrest
                rcases List.cons.inj hrest with ⟨rfl, rfl⟩
                rw [List.length_cons, Nat.add_sub_cancel, List.drop_left]
                rfl
          · rw [ih, List.reverse_cons, List.append_assoc]
            rfl

theorem joinWith_splitOn {t p : Text} (hp : p ≠ []) : joinWith p (t.splitOn p) = t :=
  joinWith_splitAtEach hp t 0 []

end Text
end WikiEntry
