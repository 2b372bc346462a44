import Mathlib.Order.Basic
import WikiEntry.Page.Order
import WikiEntry.Text.Collation

/-!
# The orders of names and of languages are total preorders

Names are compared by weights, first those of all letters and then those of all accents, and a list of weights is
compared as the first weights that differ are.  Both steps keep a total preorder.  Two names may be equal in this
order and still differ, as by a character that does not count.

Languages are compared by one property after the other, and the first one in which they differ decides.  Each property
is compared by a total preorder, so that the whole comparison is one, if the comparison of the names is.  Spanish comes
first whatever else is compared, and however names are compared.
-/

namespace WikiEntry

section Comparators

variable {α β : Type}

theorem transCmp_congr {cmp : α -> α -> Ordering} (cmp' : α -> α -> Ordering) [Std.TransCmp cmp']
    (h : forall a b, cmp a b = cmp' a b) : Std.TransCmp cmp := by
  have heq : cmp = cmp' := funext fun a => funext fun b => h a b
  rw [heq]
  infer_instance

/-- Whatever is compared by one of its properties is compared as these are. -/
theorem transCmp_comap (cmp : α -> α -> Ordering) [Std.TransCmp cmp] (f : β -> α) :
    Std.TransCmp fun a b => cmp (f a) (f b) where
  eq_swap := Std.OrientedCmp.eq_swap
  isLE_trans := Std.TransCmp.isLE_trans

/-- Compares what is there, with what is missing after it. -/
def missingLast (cmp : α -> α -> Ordering) : Option α -> Option α -> Ordering
  | some a, some b => cmp a b
  | some _, none => .lt
  | none, some _ => .gt
  | none, none => .eq

instance orientedCmp_missingLast {cmp : α -> α -> Ordering} [Std.OrientedCmp cmp] :
    Std.OrientedCmp (missingLast cmp) := by
  constructor
  intro a b
  cases a with
  | none => cases b <;> rfl
  | some a =>
      cases b with
      | none => rfl
      | some b =>
          show cmp a b = (cmp b a).swap
          exact Std.OrientedCmp.eq_swap

instance transCmp_missingLast {cmp : α -> α -> Ordering} [Std.TransCmp cmp] : Std.TransCmp (missingLast cmp) := by
  constructor
  intro a b c hab hbc
  cases a with
  | none =>
      cases b with
      | none => exact hbc
      | some b => cases hab
  | some a =>
      cases c with
      | none => rfl
      | some c =>
          cases b with
          | none => cases hbc
          | some b =>
              have hab : (cmp a b).isLE = true := hab
              have hbc : (cmp b c).isLE = true := hbc
              show (cmp a c).isLE = true
              exact Std.TransCmp.isLE_trans hab hbc

end Comparators

/-!
# Names
-/

namespace Collation

theorem compareWeights_eq (as bs : List Nat) : compareWeights as bs = List.compareLex compare as bs := by
  induction as generalizing bs with
  | nil => cases bs <;> rfl
  | cons a as ih =>
      cases bs with
      | nil => rfl
      | cons b bs => rw [compareWeights, ih, List.compareLex_cons_cons]

instance : Std.TransCmp compareWeights :=
  transCmp_congr _ compareWeights_eq

instance : Std.TransCmp Key.compare := by
  have hletters : Std.TransCmp fun a b : Key => compareWeights a.letters b.letters :=
    transCmp_comap compareWeights Key.letters
  have haccents : Std.TransCmp fun a b : Key => compareWeights a.accents b.accents :=
    transCmp_comap compareWeights Key.accents
  exact transCmp_congr (compareLex (fun a b => compareWeights a.letters b.letters)
    fun a b => compareWeights a.accents b.accents) fun _ _ => rfl

end Collation

namespace Text

/-- The collation of names is a total preorder. -/
instance : Std.TransCmp collate :=
  transCmp_comap Collation.Key.compare Collation.key

theorem compareChars_eq (s t : Text) : compareChars s t = List.compareLex (compareOn Char.toNat) s t := by
  induction s generalizing t with
  | nil => cases t <;> rfl
  | cons c s ih =>
      cases t with
      | nil => rfl
      | cons d t =>
          rw [compareChars, ih, List.compareLex_cons_cons]
          rfl

instance : Std.TransCmp compareChars :=
  transCmp_congr _ compareChars_eq

end Text

/-!
# Languages
-/

variable (collate : Text -> Text -> Ordering)

namespace LanguageHeader

def isSpanish (h : LanguageHeader) : Bool :=
  Section.isSpanish h.code

/-- The comparison of languages with each other. -/
def compare : LanguageHeader -> LanguageHeader -> Ordering :=
  compareLex (compareOn fun h => !h.isSpanish) <|
    compareLex (compareOn isTransliteration) <|
      compareLex (compareOn fun h => h.name.isEmpty) <|
        compareLex (fun x y => collate x.name y.name) fun x y => x.code.lower.compareChars y.code.lower

instance [Std.TransCmp collate] : Std.TransCmp (compare collate) := by
  have hname : Std.TransCmp fun x y : LanguageHeader => collate x.name y.name :=
    transCmp_comap collate name
  have hcode : Std.TransCmp fun x y : LanguageHeader => x.code.lower.compareChars y.code.lower :=
    transCmp_comap Text.compareChars fun h : LanguageHeader => h.code.lower
  unfold compare
  infer_instance

end LanguageHeader

namespace Section

theorem compareBool_eq (a b : Bool) : compareBool a b = compare a b := by
  cases a <;> cases b <;> rfl

theorem compareLanguagesBy_eq (a b : Section) :
    compareLanguagesBy collate a b = missingLast (LanguageHeader.compare collate) a.language? b.language? := by
  have hspanish : forall x y : LanguageHeader,
      compareBool (isSpanish y.code) (isSpanish x.code) = compareOn (fun h : LanguageHeader => !h.isSpanish) x y := by
    intro x y
    rw [compareOn, LanguageHeader.isSpanish, LanguageHeader.isSpanish]
    cases isSpanish x.code <;> cases isSpanish y.code <;> rfl
  unfold compareLanguagesBy isLanguage
  cases a.language? with
  | none => cases b.language? <;> rfl
  | some x =>
      cases b.language? with
      | none => rfl
      | some y =>
          simp only [hspanish, compareBool_eq]
          rfl

instance [Std.TransCmp collate] : Std.TransCmp (compareLanguagesBy collate) := by
  have hlanguage : Std.TransCmp fun a b : Section =>
      missingLast (LanguageHeader.compare collate) a.language? b.language? :=
    transCmp_comap (missingLast (LanguageHeader.compare collate)) language?
  exact transCmp_congr _ (compareLanguagesBy_eq collate)

/-- A section with the code of Spanish, in any case of its letters. -/
def hasSpanishCode (s : Section) : Bool :=
  s.languageCode?.any isSpanish

/-- A Spanish section comes in front of all others. -/
theorem compareLanguagesBy_spanish {a b : Section} (ha : a.hasSpanishCode = true) (hb : b.hasSpanishCode = false) :
    compareLanguagesBy collate a b = .lt := by
  rw [compareLanguagesBy_eq]
  unfold hasSpanishCode languageCode? at ha hb
  cases hx : a.language? with
  | none =>
      rw [hx] at ha
      cases ha
  | some x =>
      rw [hx, Option.map_some, Option.any_some] at ha
      cases hy : b.language? with
      | none => rfl
      | some y =>
          rw [hy, Option.map_some, Option.any_some] at hb
          have hfirst : compareOn (fun h : LanguageHeader => !h.isSpanish) x y = .lt := by
            rw [compareOn, LanguageHeader.isSpanish, LanguageHeader.isSpanish, ha, hb]
            rfl
          show (compareOn (fun h : LanguageHeader => !h.isSpanish) x y).then _ = .lt
          rw [hfirst]
          rfl

end Section
end WikiEntry
