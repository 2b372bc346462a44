import Mathlib
import WikiEntry.Pattern.CharSet

/-!
# Characters without variants

Case folding relates letters to letters.  An ASCII character that is not a letter has no variant but itself, so
that a pattern that ignores case reads it as it stands, and it is the lower case of itself only.  A blank has no other
variant either.
-/

namespace WikiEntry
namespace Chars

/-- A run that folds no ASCII character but letters, and folds no character from beyond ASCII to one but a letter. -/
def CaseRun.SparesAscii (r : CaseRun) : Prop :=
  (128 ≤ r.first ∨ 65 ≤ r.first ∧ r.last ≤ 90) ∧
    (r.last < 128 ∨ 128 ≤ (r.first : Int) + r.shift ∨
      r.first = r.last ∧ (r.image r.first = 107 ∨ r.image r.first = 115))

instance (r : CaseRun) : Decidable r.SparesAscii :=
  inferInstanceAs (Decidable (_ ∧ _))

theorem sparesAscii_of_mem_foldRuns : forall r, r ∈ foldRuns -> r.SparesAscii := by
  decide +kernel

theorem sparesAscii_of_mem_lowerRuns : forall r, r ∈ lowerRuns -> r.SparesAscii := by
  decide +kernel

theorem CaseRun.le_of_holds {r : CaseRun} {n : Nat} (h : r.holds n = true) : r.first ≤ n ∧ n ≤ r.last := by
  simp only [CaseRun.holds, Bool.and_eq_true, decide_eq_true_eq] at h
  exact h.1

/-- A character beyond ASCII that is mapped into ASCII is mapped to the letter k or the letter s. -/
theorem mapRuns_of_lt {runs : List CaseRun} (hruns : forall r, r ∈ runs -> r.SparesAscii) {n : Nat} (hn : 128 ≤ n)
    (hlt : mapRuns runs n < 128) : mapRuns runs n = 107 ∨ mapRuns runs n = 115 := by
  unfold mapRuns at hlt ⊢
  cases hfind : runs.find? (·.holds n) with
  | none =>
      rw [hfind] at hlt
      exact absurd hn (Nat.not_le_of_lt hlt)
  | some r =>
      rw [hfind] at hlt
      have hholds : r.holds n = true := List.find?_some (p := fun r : CaseRun => r.holds n) hfind
      have hle := CaseRun.le_of_holds hholds
      rcases (hruns r (List.mem_of_find?_eq_some hfind)).2 with hlast | hshift | ⟨hone, himage⟩
      · omega
      · have himage : 128 ≤ r.image n := by
          unfold CaseRun.image
          omega
        exact absurd himage (Nat.not_le_of_lt hlt)
      · have hfirst : n = r.first := by omega
        rw [hfirst]
        exact himage

/-- What a run folds is no ASCII character but a letter. -/
theorem of_mem_preimage {r : CaseRun} {m n : Nat} (hr : r ∈ foldRuns) (hm : m ∈ r.preimage n) :
    128 ≤ m ∨ 65 ≤ m ∧ m ≤ 90 := by
  unfold CaseRun.preimage at hm
  dsimp only at hm
  split at hm
  · rename_i hholds
    rw [← List.mem_singleton.mp hm] at hholds
    have hle := CaseRun.le_of_holds (Bool.and_eq_true_iff.mp hholds).1
    rcases (sparesAscii_of_mem_foldRuns r hr).1 with hfirst | hletters
    · omega
    · omega
  · cases hm

theorem variants_ne_nil (c : Char) : variants c ≠ [] := by
  unfold variants
  split
  · split <;> exact List.cons_ne_nil _ _
  · dsimp only
    split <;> exact List.cons_ne_nil _ _

theorem isAlpha_of_mem_asciiVariants {c v : Char} (hc : c.toNat < 128) (halpha : c.isAlpha = true)
    (hv : v ∈ c.toLower :: c.toUpper :: asciiVariants c.toLower) : v.isAlpha = true ∨ 128 ≤ v.toNat := by
  have hall : ((List.range 128).map Char.ofNat).all (fun c => !c.isAlpha ||
      (c.toLower :: c.toUpper :: asciiVariants c.toLower).all fun v => v.isAlpha || 128 ≤ v.toNat) = true := by
    decide +kernel
  have hmem : c ∈ (List.range 128).map Char.ofNat :=
    List.mem_map.mpr ⟨c.toNat, List.mem_range.mpr hc, Char.ofNat_toNat c⟩
  have hletters := List.all_eq_true.mp hall c hmem
  rw [halpha, Bool.not_true, Bool.false_or] at hletters
  have hletter := List.all_eq_true.mp hletters v hv
  rw [Bool.or_eq_true, decide_eq_true_eq] at hletter
  exact hletter

theorem toNat_eq_of_eq_ofNat {n : Nat} {a : Char} (h : a = Char.ofNat n) (hzero : a ≠ '\x00') : a.toNat = n := by
  unfold Char.ofNat at h
  split at h
  · rw [h]
    rfl
  · exact absurd h hzero

/-- Beyond ASCII, characters that fold into ASCII fold to letters, or to the character for what is no code point. -/
theorem fold_of_lt {c : Char} (hc : ¬ c.toNat < 128) (hf : (fold c).toNat < 128) :
    fold c = 'k' ∨ fold c = 's' ∨ fold c = '\x00' := by
  have hfold : fold c = Char.ofNat (mapRuns foldRuns c.toNat) := by
    rw [fold, if_neg hc]
  by_cases hzero : fold c = '\x00'
  · exact Or.inr (Or.inr hzero)
  · rw [toNat_eq_of_eq_ofNat hfold hzero] at hf
    rcases mapRuns_of_lt sparesAscii_of_mem_foldRuns (Nat.le_of_not_lt hc) hf with hk | hs
    · left
      rw [hfold, hk]
    · right
      left
      rw [hfold, hs]

/-- An ASCII character that is not a letter is a variant of no other character. -/
theorem eq_of_mem_variants {a c : Char} (ha : a.toNat < 128) (hletter : a.isAlpha = false) (hzero : a ≠ '\x00')
    (h : a ∈ variants c) : c = a := by
  have hno : forall c : Char, c.toNat < 128 -> c.isAlpha = true ->
      a ∉ c.toLower :: c.toUpper :: asciiVariants c.toLower := by
    intro c hc halpha hmem
    rcases isAlpha_of_mem_asciiVariants hc halpha hmem with h | h
    · rw [hletter] at h
      cases h
    · omega
  unfold variants at h
  split at h
  · rename_i hc
    split at h
    · rename_i halpha
      exact absurd h (hno c hc halpha)
    · exact (List.mem_singleton.mp h).symm
  · rename_i hc
    dsimp only at h
    split at h
    · rename_i hf
      rcases fold_of_lt hc hf with heq | heq | heq
      · rw [heq] at h
        exact absurd h (hno 'k' (by decide) (by decide))
      · rw [heq] at h
        exact absurd h (hno 's' (by decide) (by decide))
      · rw [heq] at h
        rcases List.mem_cons.mp h with h | h
        · exact absurd h hzero
        · exact absurd (List.mem_singleton.mp h) hzero
    · rename_i hf
      rcases List.mem_cons.mp h with rfl | h
      · exact absurd ha hf
      · rcases List.mem_map.mp h with ⟨m, hm, heq⟩
        rcases List.mem_flatMap.mp hm with ⟨r, hr, hm⟩
        have hcode := toNat_eq_of_eq_ofNat heq.symm hzero
        rcases of_mem_preimage hr hm with hbig | hcapital
        · omega
        · have hupper : a.isUpper = true := by
            simp only [Char.isUpper, ge_iff_le, UInt32.le_iff_toNat_le, Bool.decide_and, Bool.and_eq_true,
              decide_eq_true_eq]
            rw [← hcode] at hcapital
            exact hcapital
          rw [Char.isAlpha, hupper, Bool.true_or] at hletter
          cases hletter

/-- Of the variants of a character only what it folds to is a small letter of ASCII. -/
theorem fold_eq_of_mem_variants {a c : Char} (ha : a.isLower = true) (h : a ∈ variants c) : fold c = a := by
  have hall : ((List.range 128).map Char.ofNat).all (fun c =>
      (c.toLower :: c.toUpper :: asciiVariants c.toLower).all fun v => !v.isLower || c.toLower == v) = true := by
    decide +kernel
  have hletters : forall c : Char, c.toNat < 128 -> a ∈ c.toLower :: c.toUpper :: asciiVariants c.toLower ->
      c.toLower = a := by
    intro c hc hmem
    have hc : c ∈ (List.range 128).map Char.ofNat :=
      List.mem_map.mpr ⟨c.toNat, List.mem_range.mpr hc, Char.ofNat_toNat c⟩
    have hletter := List.all_eq_true.mp (List.all_eq_true.mp hall c hc) a hmem
    rwa [ha, Bool.not_true, Bool.false_or, beq_iff_eq] at hletter
  have hcode : 97 ≤ a.toNat ∧ a.toNat ≤ 122 := by
    simpa [Char.isLower, UInt32.le_iff_toNat_le] using ha
  unfold variants at h
  split at h
  · rename_i hc
    rw [fold, if_pos hc]
    split at h
    · exact hletters c hc h
    · rename_i halpha
      rw [List.mem_singleton.mp h] at ha
      exact absurd (Bool.or_eq_true_iff.mpr (Or.inr ha)) halpha
  · rename_i hc
    dsimp only at h
    split at h
    · rename_i hf
      rcases fold_of_lt hc hf with heq | heq | heq
      · rw [heq] at h ⊢
        exact hletters 'k' (by decide) h
      · rw [heq] at h ⊢
        exact hletters 's' (by decide) h
      · rw [heq] at h
        rcases List.mem_cons.mp h with rfl | h
        · cases ha
        · rw [List.mem_singleton.mp h] at ha
          cases ha
    · rename_i hf
      rcases List.mem_cons.mp h with rfl | h
      · omega
      · rcases List.mem_map.mp h with ⟨m, hm, heq⟩
        rcases List.mem_flatMap.mp hm with ⟨r, hr, hm⟩
        have hsame := toNat_eq_of_eq_ofNat heq.symm (by rintro rfl; cases ha)
        rcases of_mem_preimage hr hm with hbig | hcapital
        · omega
        · omega

/-- What folds to a small letter of ASCII is a letter. -/
theorem isWord_of_fold_eq {a c : Char} (ha : a.isLower = true) (h : fold c = a) : isWord c = true := by
  rw [fold] at h
  split at h
  · rename_i hc
    have hall : ((List.range 128).map Char.ofNat).all (fun c => !c.toLower.isLower || isWord c) = true := by
      decide +kernel
    have hmem : c ∈ (List.range 128).map Char.ofNat :=
      List.mem_map.mpr ⟨c.toNat, List.mem_range.mpr hc, Char.ofNat_toNat c⟩
    have hword := List.all_eq_true.mp hall c hmem
    rwa [h, ha, Bool.not_true, Bool.false_or] at hword
  · rename_i hc
    have hcode : 97 ≤ a.toNat ∧ a.toNat ≤ 122 := by
      simpa [Char.isLower, UInt32.le_iff_toNat_le] using ha
    have hmapped := toNat_eq_of_eq_ofNat h.symm (by rintro rfl; cases ha)
    have hrunWords : foldRuns.all (fun r => r.last < 128 || 128 ≤ (r.first : Int) + r.shift ||
        isWord (Char.ofNat r.first)) = true := by
      decide +kernel
    unfold mapRuns at hmapped
    cases hfind : foldRuns.find? (·.holds c.toNat) with
    | none =>
        rw [hfind] at hmapped
        dsimp only at hmapped
        omega
    | some r =>
        rw [hfind] at hmapped
        dsimp only at hmapped
        have hholds : r.holds c.toNat = true := List.find?_some (p := fun r : CaseRun => r.holds c.toNat) hfind
        have hle := CaseRun.le_of_holds hholds
        have hr := List.mem_of_find?_eq_some hfind
        have hword := List.all_eq_true.mp hrunWords r hr
        have himage : (r.image c.toNat : Int) = a.toNat := by omega
        unfold CaseRun.image at himage
        rcases (sparesAscii_of_mem_foldRuns r hr).2 with hlast | hshift | ⟨hone, _⟩
        · omega
        · omega
        · have hfirst : r.first = c.toNat := by omega
          rw [hfirst, Char.ofNat_toNat] at hword
          have hlast : ¬ r.last < 128 := by omega
          have hshift : ¬ 128 ≤ (c.toNat : Int) + r.shift := by omega
          simpa [hlast, hshift] using hword

/-!
# Lower case
-/

theorem eq_or_isAlpha_toLower {c : Char} (hc : c.toNat < 128) : c.toLower = c ∨ c.toLower.isAlpha = true := by
  have hall : ((List.range 128).map Char.ofNat).all (fun c => c.toLower == c || c.toLower.isAlpha) = true := by
    decide +kernel
  have hmem : c ∈ (List.range 128).map Char.ofNat :=
    List.mem_map.mpr ⟨c.toNat, List.mem_range.mpr hc, Char.ofNat_toNat c⟩
  simpa using List.all_eq_true.mp hall c hmem

/-- An ASCII character that is not a letter is the lower case of no other character. -/
theorem eq_of_mem_lower {a c : Char} (ha : a.toNat < 128) (hletter : a.isAlpha = false) (hzero : a ≠ '\x00')
    (h : a ∈ lower c) : c = a := by
  rw [lower] at h
  split at h
  · rename_i hc
    rw [List.mem_singleton.mp h] at hletter ⊢
    rcases eq_or_isAlpha_toLower hc with hsame | halpha
    · exact hsame.symm
    · rw [halpha] at hletter
      cases hletter
  · rename_i hc
    split at h
    · rename_i image himage
      have hspecial : lowerSpecial.all (fun x => x.2.all fun n => (Char.ofNat n).isAlpha || 128 ≤ (Char.ofNat n).toNat) =
          true := by
        decide
      rcases List.lookup_eq_some_iff.mp himage with ⟨before, behind, hlist, _⟩
      have hmem : (c.toNat, image) ∈ lowerSpecial := hlist ▸ List.mem_append_right before List.mem_cons_self
      rcases List.mem_map.mp h with ⟨n, hn, rfl⟩
      have hn := List.all_eq_true.mp (List.all_eq_true.mp hspecial _ hmem) n hn
      rw [hletter, Bool.false_or, decide_eq_true_eq] at hn
      omega
    · have hcode := List.mem_singleton.mp h
      have hmapped := toNat_eq_of_eq_ofNat hcode hzero
      rw [hmapped] at ha
      rcases mapRuns_of_lt sparesAscii_of_mem_lowerRuns (Nat.le_of_not_lt hc) ha with hk | hs
      · rw [hcode, hk] at hletter
        cases hletter
      · rw [hcode, hs] at hletter
        cases hletter

end Chars

theorem Text.mem_of_mem_lower {t : Text} {a : Char} (ha : a.toNat < 128) (hletter : a.isAlpha = false) (hzero : a ≠ '\x00')
    (h : a ∈ t.lower) : a ∈ t := by
  rw [Text.lower] at h
  generalize ([] : Text) = before at h
  induction t generalizing before with
  | nil => cases h
  | cons c r ih =>
      rw [Text.lowerAfter] at h
      rcases List.mem_append.mp h with h | h
      · refine List.mem_cons.mpr (Or.inl ?_)
        split at h
        · have hsigma : a = 'ς' ∨ a = 'σ' := by
            split at h
            · exact Or.inl (List.mem_singleton.mp h)
            · exact Or.inr (List.mem_singleton.mp h)
          rcases hsigma with rfl | rfl
          · exact absurd ha (by decide)
          · exact absurd ha (by decide)
        · exact (Chars.eq_of_mem_lower ha hletter hzero h).symm
      · exact List.mem_cons_of_mem c (ih _ h)

/-!
# Blanks
-/

namespace Chars

def blankPlaces : List Nat :=
  blankRanges.flatMap fun r => List.range' r.1 (r.2 + 1 - r.1)

theorem isBlank_iff {c : Char} : isBlank c = true <-> c.toNat ∈ blankPlaces := by
  simp only [isBlank, inRanges, blankPlaces, List.any_eq_true, Bool.and_eq_true, decide_eq_true_eq, List.mem_flatMap,
    List.mem_range'_1]
  refine exists_congr fun r => and_congr_right fun _ => and_congr_right fun _ => ?_
  omega

/-- A run that neither folds a blank nor folds anything to one. -/
def CaseRun.SparesBlanks (r : CaseRun) : Prop :=
  forall n, n ∈ blankPlaces -> r.holds n = false ∧ r.preimage n = []

instance (r : CaseRun) : Decidable r.SparesBlanks :=
  inferInstanceAs (Decidable (forall n, n ∈ blankPlaces -> r.holds n = false ∧ r.preimage n = []))

theorem sparesBlanks_of_mem_foldRuns : forall r, r ∈ foldRuns -> r.SparesBlanks := by
  decide +kernel

theorem isBlank_eq_false_of_mem_asciiVariants {c v : Char} (hc : c.toNat < 128) (halpha : c.isAlpha = true)
    (hv : v ∈ c.toLower :: c.toUpper :: asciiVariants c.toLower) : isBlank v = false := by
  have hall : ((List.range 128).map Char.ofNat).all (fun c => !c.isAlpha ||
      (c.toLower :: c.toUpper :: asciiVariants c.toLower).all fun v => !isBlank v) = true := by
    decide +kernel
  have hmem : c ∈ (List.range 128).map Char.ofNat :=
    List.mem_map.mpr ⟨c.toNat, List.mem_range.mpr hc, Char.ofNat_toNat c⟩
  have hletters := List.all_eq_true.mp hall c hmem
  rw [halpha, Bool.not_true, Bool.false_or] at hletters
  exact (Bool.not_eq_true' _).mp (List.all_eq_true.mp hletters v hv)

/-- No character but itself is folded to a blank. -/
theorem eq_of_isBlank_fold {c : Char} (hc : ¬ c.toNat < 128) (hblank : isBlank (fold c) = true) : fold c = c := by
  have hzero : fold c ≠ '\x00' := fun heq => absurd (heq ▸ hblank) (by decide)
  have hfold : fold c = Char.ofNat (mapRuns foldRuns c.toNat) := by
    rw [fold, if_neg hc]
  have hcode := toNat_eq_of_eq_ofNat hfold hzero
  rw [isBlank_iff, hcode] at hblank
  unfold mapRuns at hblank hfold
  cases hfind : foldRuns.find? (·.holds c.toNat) with
  | none =>
      rw [hfind] at hfold
      exact hfold.trans (Char.ofNat_toNat c)
  | some r =>
      rw [hfind] at hblank
      dsimp only at hblank
      have hholds : r.holds c.toNat = true := List.find?_some (p := fun r : CaseRun => r.holds c.toNat) hfind
      have hnone := (sparesBlanks_of_mem_foldRuns r (List.mem_of_find?_eq_some hfind) _ hblank).2
      have hpositive : 0 < r.image c.toNat := by
        refine Nat.pos_of_ne_zero fun hnil => ?_
        rw [hnil] at hblank
        exact absurd hblank (by decide)
      have hback : (r.image c.toNat - r.shift).toNat = c.toNat := by
        unfold CaseRun.image at hpositive ⊢
        omega
      rw [CaseRun.preimage, hback] at hnone
      simp [hholds] at hnone

/-- A blank is a variant of no other character. -/
theorem eq_of_mem_variants_of_isBlank {c v : Char} (hv : v ∈ variants c) (hblank : isBlank v = true) : v = c := by
  unfold variants at hv
  split at hv
  · rename_i hc
    split at hv
    · rename_i halpha
      rw [isBlank_eq_false_of_mem_asciiVariants hc halpha hv] at hblank
      cases hblank
    · exact List.mem_singleton.mp hv
  · rename_i hc
    dsimp only at hv
    split at hv
    · rename_i hf
      have hnone : (fold c :: (fold c).toUpper :: asciiVariants (fold c)).all (fun v => !isBlank v) = true := by
        rcases fold_of_lt hc hf with heq | heq | heq <;> rw [heq] <;> decide
      have hv := List.all_eq_true.mp hnone v hv
      rw [hblank] at hv
      cases hv
    · rcases List.mem_cons.mp hv with rfl | hv
      · exact eq_of_isBlank_fold hc hblank
      · rcases List.mem_map.mp hv with ⟨m, hm, rfl⟩
        rcases List.mem_flatMap.mp hm with ⟨r, hr, hm⟩
        have hcode := toNat_eq_of_eq_ofNat rfl fun heq => absurd (heq ▸ hblank) (by decide)
        rw [isBlank_iff, hcode] at hblank
        have hnone := (sparesBlanks_of_mem_foldRuns r hr m hblank).1
        unfold CaseRun.preimage at hm
        dsimp only at hm
        split at hm
        · rename_i hboth
          rw [← List.mem_singleton.mp hm, hnone, Bool.false_and] at hboth
          cases hboth
        · cases hm

end Chars

/-- Of blanks the case does not matter. -/
theorem CharSet.isBlank_of_holds_anyCase {c : Char} (h : (anyCase .blank).holds c = true) : Chars.isBlank c = true := by
  rcases List.any_eq_true.mp h with ⟨v, hv, hblank⟩
  rwa [← Chars.eq_of_mem_variants_of_isBlank hv hblank]

/-- Of an ASCII character that is not a letter the case does not matter. -/
theorem CharSet.eq_of_holds_anyCase {a c : Char} (ha : a.toNat < 128) (hletter : a.isAlpha = false) (hzero : a ≠ '\x00')
    (h : (anyCase (.char a)).holds c = true) : c = a := by
  rcases List.any_eq_true.mp h with ⟨v, hv, heq⟩
  rw [← beq_iff_eq.mp heq] at hv
  exact Chars.eq_of_mem_variants ha hletter hzero hv

theorem CharSet.holds_anyCase_noneOf {a c : Char} (ha : a.toNat < 128) (hletter : a.isAlpha = false) (hzero : a ≠ '\x00')
    (h : c ≠ a) : (anyCase (.noneOf [a])).holds c = true := by
  rcases List.exists_mem_of_ne_nil _ (Chars.variants_ne_nil c) with ⟨v, hv⟩
  refine List.any_eq_true.mpr ⟨v, hv, ?_⟩
  have hne : v ≠ a := by
    rintro rfl
    exact h (Chars.eq_of_mem_variants ha hletter hzero hv)
  simpa [CharSet.holds_noneOf] using hne

end WikiEntry
