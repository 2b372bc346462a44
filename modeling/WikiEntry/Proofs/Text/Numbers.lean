import WikiEntry.Proofs.Text.Pieces

/-!
# Numbers

A number that is written in digits is read as the number it was, as long as it is below the bound.  Its text has no
blanks and no sign, so that trimming leaves it as it is.
-/

namespace WikiEntry

theorem Chars.isBlank_of_isDigit {ch : Char} (h : ch.isDigit = true) : isBlank ch = false := by
  simp only [Char.isDigit, ge_iff_le, UInt32.le_iff_toNat_le, Bool.and_eq_true, decide_eq_true_eq] at h
  rcases h with ⟨hzero, hnine⟩
  have hlow : 48 ≤ ch.toNat := hzero
  have hhigh : ch.toNat ≤ 57 := hnine
  simp [isBlank, inRanges, blankRanges]
  omega

namespace Text

theorem trimLeftBy_of_forall {t : Text} {p : Char -> Bool} (ht : forall ch, ch ∈ t -> p ch = false) :
    t.trimLeftBy p = t := by
  cases t with
  | nil => rfl
  | cons ch t => rw [trimLeftBy, List.dropWhile_cons_of_neg (Bool.eq_false_iff.mp (ht ch List.mem_cons_self))]

theorem trimBy_of_forall {t : Text} {p : Char -> Bool} (ht : forall ch, ch ∈ t -> p ch = false) : t.trimBy p = t := by
  have hreverse : t.reverse.dropWhile p = t.reverse :=
    trimLeftBy_of_forall fun ch hch => ht ch (List.mem_reverse.mp hch)
  rw [trimBy, trimLeftBy_of_forall ht, trimRightBy, hreverse, List.reverse_reverse]

/-!
# Digits
-/

theorem digitsValue?_of_forall {t : Text} (ht : forall ch, ch ∈ t -> ch.isDigit = true) :
    digitsValue? t = some (Nat.ofDigitChars 10 t 0) := by
  unfold digitsValue? Nat.ofDigitChars
  generalize (0 : Nat) = n
  induction t generalizing n with
  | nil => rfl
  | cons ch t ih =>
      rw [List.foldl_cons, List.foldl_cons, Option.bind_some, if_pos (ht ch List.mem_cons_self)]
      exact ih (fun d hd => ht d (List.mem_cons_of_mem ch hd)) _

theorem isDigit_of_mem_ofNumber {n : Nat} {ch : Char} (h : ch ∈ ofNumber n) : ch.isDigit = true :=
  Nat.isDigit_of_mem_toDigits (by decide) (by decide) h

theorem trim_ofNumber (n : Nat) : (ofNumber n).trim = ofNumber n :=
  trimBy_of_forall fun _ hch => Chars.isBlank_of_isDigit (isDigit_of_mem_ofNumber hch)

theorem readNumber?_ofNumber {n : Nat} (hn : n < numberBound) : readNumber? (ofNumber n) = some n := by
  have hvalue : digitsValue? (ofNumber n) = some n := by
    rw [digitsValue?_of_forall fun ch hch => isDigit_of_mem_ofNumber hch, ofNumber, Nat.ofDigitChars_ten_toDigits]
  have hne : ofNumber n ≠ [] := Nat.toDigits_ne_nil
  have hsign : forall r, ofNumber n ≠ '+' :: r := by
    intro r hr
    have hdigit : ('+').isDigit = true := isDigit_of_mem_ofNumber (hr ▸ List.mem_cons_self)
    cases hdigit
  unfold readNumber?
  split
  · rename_i r hr
    exact absurd hr (hsign r)
  · dsimp only
    rw [hvalue, if_neg (mt List.isEmpty_iff.mp hne), Option.filter_some, if_pos (decide_eq_true hn)]

end Text
end WikiEntry
