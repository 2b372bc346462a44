import WikiEntry.Proofs.LegacyLayout.Spellings
import WikiEntry.Proofs.Text.Lines
import WikiEntry.Proofs.Text.Variants

/-!
# Inserting the headers

On every line at most one template is replaced by a header, the first one of a language.  What is inserted is current, so
that the text is current in the end if on each line that template is the only one of the legacy layout.
-/

namespace WikiEntry
namespace LegacyLayout

/-!
# Lines that are converted
-/

/-- The templates that are seen when headers are inserted. -/
def seen (t : Text) : List (Span × Template) :=
  (Template.located t).filter fun x => !Region.covers (Region.ignored t) x.1.start

/-- What stands on a line around a template is current, and so are the parameters of the template. -/
def CurrentAround (place : Nat) (line : Text) (x : Span × Template) : Prop :=
  IsCurrent (line.take (x.1.start - place)) ∧ IsCurrent (line.drop (x.1.stop - place)) ∧
    forall v, v ∈ x.2.params -> IsCurrent v.render

instance (place : Nat) (line : Text) (x : Span × Template) : Decidable (CurrentAround place line x) :=
  inferInstanceAs (Decidable (_ ∧ _ ∧ _))

/-- The line is current, but for its first language template if that is one of the legacy layout. -/
def LineConverts (t : Text) (place : Nat) (line : Text) : Prop :=
  match languageTemplateOn? (seen t) place line with
  | none => IsCurrent line
  | some x => if isLegacyName x.2.trimmedName then CurrentAround place line x else IsCurrent line

instance (t : Text) (place : Nat) (line : Text) : Decidable (LineConverts t place line) :=
  match h : languageTemplateOn? (seen t) place line with
  | none => decidable_of_iff (IsCurrent line) (by rw [LineConverts, h])
  | some x =>
      decidable_of_iff (if isLegacyName x.2.trimmedName then CurrentAround place line x else IsCurrent line)
        (by rw [LineConverts, h])

/-- No line holds more of the legacy layout than its first language template. -/
def LinesConvert (t : Text) : Prop :=
  forall x, x ∈ t.placedLines -> LineConverts t x.1 x.2

instance (t : Text) : Decidable (LinesConvert t) :=
  inferInstanceAs (Decidable (forall x, x ∈ t.placedLines -> LineConverts t x.1 x.2))

/-!
# Headers
-/

theorem brace_not_mem_of_isLanguageTemplate {name : Text} (h : isLanguageTemplate name = true) : '\x7b' ∉ name := by
  rw [isLanguageTemplate, Bool.or_eq_true, Bool.or_eq_true] at h
  rcases h with (h | h) | h
  · have hnames : forall n, n ∈ Text.listOf ["ES", "TRANS", "TRANSLIT"] -> '\x7b' ∉ n := by decide
    exact hnames name (List.contains_iff_mem.mp h)
  · have hnames : forall n, n ∈ currentNames -> '\x7b' ∉ n := by decide
    exact hnames name (List.contains_iff_mem.mp h)
  · cases hbefore : Text.before? "-ES" name with
    | none =>
        rw [hbefore] at h
        cases h
    | some language =>
        rw [hbefore, Option.any_some, Bool.and_eq_true] at h
        rw [Text.before?_eq_some_iff.mp hbefore]
        intro hmem
        rcases List.mem_append.mp hmem with hmem | hmem
        · exact absurd (List.all_eq_true.mp h.2 _ hmem) (by decide)
        · exact absurd hmem (by decide)

theorem isCurrent_codeOf {name : Text} (h : isLanguageTemplate name = true) : IsCurrent (codeOf name) := by
  rw [codeOf]
  split
  · exact isCurrent_of_not_mem (by decide)
  · refine isCurrent_of_not_mem fun hmem => brace_not_mem_of_isLanguageTemplate h ?_
    have hreplaced := Text.mem_of_mem_lower (by decide) (by decide) (by decide) hmem
    rcases Text.mem_of_mem_joinWith hreplaced with hsep | ⟨piece, hpiece, hmem⟩
    · cases hsep
    · have hjoined : Text.joinWith "-ES" (name.splitOn "-ES") = name := Text.joinWith_splitOn (by decide)
      rw [← hjoined]
      exact Text.mem_joinWith hpiece hmem

theorem isCurrent_spellingOf {title : Text} {u : Template} (h : forall v, v ∈ u.params -> IsCurrent v.render) :
    IsCurrent (spellingOf title u) := by
  rw [spellingOf]
  cases hspelling : (u.get? "1").filter (isSpelling title) with
  | none => rfl
  | some spelling => exact isCurrent_get? h (Option.filter_eq_some_iff.mp hspelling).1

/-- Taking named parameters over keeps a template current, whichever of them are left out. -/
theorem isCurrent_foldl {f : Template -> Param -> Template} (hpositional : forall w i v, f w (.positional i v) = w)
    (hnamed : forall w k v, f w (.named k v) = w ∨ f w (.named k v) = w.set k.trim v.trim) {params : List Param}
    (hparams : forall v, v ∈ params -> IsCurrent v.render) {w : Template} (hw : IsCurrent w.render) :
    IsCurrent (params.foldl f w).render := by
  induction params generalizing w with
  | nil => exact hw
  | cons v params ih =>
      rcases List.forall_mem_cons.mp hparams with ⟨hv, hparams⟩
      refine ih hparams ?_
      cases v with
      | positional i value => rwa [hpositional]
      | named key value =>
          rcases hnamed w key value with hleft | hset
          · rwa [hleft]
          · have hboth : IsCurrent ('|' :: key ++ '=' :: value) := hv
            rcases (isCurrent_append_iff (by decide)).mp hboth with ⟨hkey, hvalue⟩
            rw [hset]
            exact isCurrent_set hw ((isCurrent_cons_iff (by decide)).mp hkey).trim hvalue.trim

theorem isCurrent_languageTemplate {code spelling : Text} {u : Template} (hcode : IsCurrent code)
    (hspelling : IsCurrent spelling) (h : forall v, v ∈ u.params -> IsCurrent v.render) :
    IsCurrent (languageTemplate code spelling u).render := by
  have hfirst : IsCurrent ((Template.ofName "lengua").setPositional 1 code).render := by
    have hrender : ((Template.ofName "lengua").setPositional 1 code).render =
        "\x7b\x7blengua".toList ++ '|' :: (code ++ '\x7d' :: ['\x7d']) := by
      simp [Template.setPositional, Template.has, Template.ofName, Template.render, Param.render]
    rw [hrender, isCurrent_append_iff (by decide), isCurrent_append_iff (by decide)]
    exact ⟨by decide +kernel, hcode, rfl⟩
  rw [languageTemplate]
  split
  · exact isCurrent_foldl (fun _ _ _ => rfl) (fun _ _ _ => ite_eq_or_eq _ _ _) h hfirst
  · refine isCurrent_set ?_ (isCurrent_of_not_mem (by decide)) hspelling
    exact isCurrent_foldl (fun _ _ _ => rfl) (fun _ _ _ => ite_eq_or_eq _ _ _) h hfirst

/-!
# Lines
-/

theorem isCurrent_headerLine {before header after : Text} (hbefore : IsCurrent before) (hheader : IsCurrent header)
    (hafter : IsCurrent after) : IsCurrent (headerLine before header after) := by
  rw [headerLine]
  -- On either side of the header stand signs, and line ends behind what is in front of them.
  generalize hback : (if after.isEmpty || isComment after then [] else '\n' :: after : Text) = back
  have hbackCurrent : IsCurrent back := by
    rw [← hback]
    split
    · rfl
    · exact (isCurrent_cons_iff (by decide)).mpr hafter
  have hheaded : IsCurrent ('=' :: (header ++ '=' :: back)) :=
    (isCurrent_cons_iff (by decide)).mpr ((isCurrent_append_iff (by decide)).mpr ⟨hheader, hbackCurrent⟩)
  split
  · have heq : ([] : Text) ++ "=" ++ header ++ "=" ++ back = '=' :: (header ++ '=' :: back) := by
      simp
    rwa [heq]
  · have heq : before ++ "\n" ++ "=" ++ header ++ "=" ++ back = before ++ '\n' :: '=' :: (header ++ '=' :: back) := by
      simp
    rw [heq]
    exact (isCurrent_append_iff (by decide)).mpr ⟨hbefore, hheaded⟩

theorem not_isLegacyName_of_mem_currentNames : forall name, name ∈ currentNames -> isLegacyName name = false := by
  decide

/-- A line that converts is current once its header is inserted. -/
theorem isCurrent_headLine {title t line language : Text} {place : Nat} (h : LineConverts t place line) :
    IsCurrent (headLine title (seen t) place line language).1 := by
  rw [headLine]
  rw [LineConverts] at h
  cases hfound : languageTemplateOn? (seen t) place line with
  | none =>
      rw [hfound] at h
      exact h
  | some x =>
      rcases x with ⟨s, u⟩
      have hname : isLanguageTemplate u.trimmedName = true := by
        have := List.find?_some hfound
        simp only [Bool.and_eq_true] at this
        exact this.2
      rw [hfound] at h
      dsimp only at h ⊢
      split
      · rename_i hcurrent
        rwa [not_isLegacyName_of_mem_currentNames _ (List.contains_iff_mem.mp hcurrent)] at h
      · split
        · rename_i hlegacy
          rw [Bool.not_eq_true'] at hlegacy
          rwa [hlegacy] at h
        · rename_i hlegacy
          rw [Bool.not_eq_true', Bool.not_eq_false] at hlegacy
          rw [if_pos hlegacy] at h
          rcases h with ⟨hbefore, hafter, hparams⟩
          have hspelling : IsCurrent (spellingOf title u) := isCurrent_spellingOf hparams
          have hcode := isCurrent_codeOf hname
          refine isCurrent_headerLine hbefore ?_ (hafter.trimLeftBy _)
          split
          · exact hspelling.append_of_not_mem (by decide)
          · exact isCurrent_languageTemplate hcode hspelling hparams

theorem isCurrent_of_mem_headLines {title t language line : Text} {lines : List (Nat × Text)}
    (h : forall x, x ∈ lines -> LineConverts t x.1 x.2) (hline : line ∈ headLines title (seen t) language lines) :
    IsCurrent line := by
  induction lines generalizing language with
  | nil => cases hline
  | cons x lines ih =>
      rcases List.forall_mem_cons.mp h with ⟨hx, h⟩
      rw [headLines] at hline
      rcases List.mem_cons.mp hline with rfl | hline
      · exact isCurrent_headLine hx
      · exact ih h hline

theorem isCurrent_insertHeaders {t : Text} (h : LinesConvert t) (title : Text) : IsCurrent (insertHeaders title t) :=
  (isCurrent_joinWith_iff 0 _).mpr fun _ hline => isCurrent_of_mem_headLines h hline

end LegacyLayout
end WikiEntry
