import WikiEntry.Region.Replacement

/-!
# Plain blanks

Replacing brings no characters into a text but those of the new texts.  Sanitizing therefore keeps a text without
blanks other than spaces and newlines free of them.
-/

namespace WikiEntry

namespace Text

/-- The only blanks are spaces and newlines. -/
def PlainBlanks (t : Text) : Prop :=
  forall ch, ch ∈ t -> Chars.isBlank ch = true -> ch = ' ' ∨ ch = '\n'

instance (t : Text) : Decidable t.PlainBlanks :=
  List.decidableBAll (fun ch => Chars.isBlank ch = true -> ch = ' ' ∨ ch = '\n') t

end Text

namespace Region

theorem mem_of_mem_applyFrom {place : Nat} {rest : Text} {edits : List Edit} {ch : Char}
    (h : ch ∈ Edit.applyFrom place rest edits) : ch ∈ rest ∨ exists e, e ∈ edits ∧ ch ∈ e.text := by
  induction edits generalizing place rest with
  | nil => exact Or.inl h
  | cons e edits ih =>
      rw [Edit.applyFrom] at h
      rcases List.mem_append.mp h with h | h
      · rcases List.mem_append.mp h with h | h
        · exact Or.inl (List.mem_of_mem_take h)
        · exact Or.inr ⟨e, List.mem_cons_self, h⟩
      · rcases ih h with h | ⟨e', he', h⟩
        · exact Or.inl (List.mem_of_mem_drop h)
        · exact Or.inr ⟨e', List.mem_cons_of_mem e he', h⟩

/-- Every edit has a text that the replacer answered. -/
theorem exists_of_mem_editsWith {σ : Type} {replacer : σ -> Match -> Option Text × σ} {state : σ} {ms : List Match}
    {e : Edit} (h : e ∈ (editsWith replacer state ms).1) :
    exists state m, m ∈ ms ∧ (replacer state m).1 = some e.text := by
  induction ms generalizing state with
  | nil => cases h
  | cons m ms ih =>
      have hlater : e ∈ (editsWith replacer (replacer state m).2 ms).1 ->
          exists state m', m' ∈ m :: ms ∧ (replacer state m').1 = some e.text := by
        intro h
        rcases ih h with ⟨state, m', hm', heq⟩
        exact ⟨state, m', List.mem_cons_of_mem m hm', heq⟩
      cases hanswer : (replacer state m).1 with
      | none =>
          simp only [editsWith, hanswer] at h
          exact hlater h
      | some text =>
          simp only [editsWith, hanswer] at h
          rcases List.mem_cons.mp h with rfl | h
          · exact ⟨state, m, List.mem_cons_self, hanswer⟩
          · exact hlater h

theorem mem_of_mem_replaceOutside {t new : Text} {p : Pattern} {ch : Char} (h : ch ∈ replaceOutside t p new) :
    ch ∈ t ∨ ch ∈ new := by
  rcases mem_of_mem_applyFrom h with h | ⟨e, he, h⟩
  · exact Or.inl h
  · rcases exists_of_mem_editsWith he with ⟨_, _, _, heq⟩
    rw [Option.some.inj heq]
    exact Or.inr h

theorem plainBlanks_replaceOutside {t new : Text} {p : Pattern} (ht : t.PlainBlanks) (hnew : new.PlainBlanks) :
    (replaceOutside t p new).PlainBlanks := by
  intro ch hch
  rcases mem_of_mem_replaceOutside hch with h | h
  · exact ht ch h
  · exact hnew ch h

theorem plainBlanks_sanitizeBlanks {t : Text} (ht : t.PlainBlanks) : (sanitizeBlanks t).PlainBlanks := by
  have hspace : Text.PlainBlanks [' '] := fun ch hch _ => Or.inl (List.mem_singleton.mp hch)
  have hnewline : Text.PlainBlanks ['\n'] := fun ch hch _ => Or.inr (List.mem_singleton.mp hch)
  exact plainBlanks_replaceOutside (plainBlanks_replaceOutside (plainBlanks_replaceOutside ht hspace) hspace) hnewline

/-!
# Texts that are sanitized already

The ignored regions of a text are known as soon as the regions of each kind are; what a replacement changes is
then a matter of computing.
-/

theorem ignored_eq_mergeSorted {t : Text} (regions : List Span)
    (hregions : [comments t, elements .nowiki t, elements .pre t, elements .code t].flatten = regions)
    (hsorted : regions.Pairwise fun a b => before a b = true) : ignored t = mergeSorted regions := by
  rw [ignored, combine, hregions, List.mergeSort_of_pairwise hsorted]

theorem sanitizeBlanks_eq_self {t : Text} {regions : List Span} (hignored : ignored t = regions)
    (htabs : revise t "\t" regions (fun _ => some " ") = t)
    (hruns : revise t (.run true 2 none (.char ' ')) regions (fun _ => some " ") = t)
    (hends : revise t " \n" regions (fun _ => some "\n") = t) : sanitizeBlanks t = t := by
  subst hignored
  unfold sanitizeBlanks replaceOutside reviseOutside
  simp only [htabs, hruns, hends]

end Region
end WikiEntry
