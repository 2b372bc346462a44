import WikiEntry.Editor
import WikiEntry.Proofs.Error

/-!
# What an editor knows of its text

An editor looks up the layout of its text when it is made, and again whenever a rule changes the text.  A check that is
given up puts back the text that the editor was made for, but does not look again: the editor goes on with the layout of
the text at which the check stopped.
-/

namespace WikiEntry
namespace Editor

/-- The layout that the editor goes by is the layout of its text. -/
def Settled (e : Editor) : Prop :=
  e.legacy = Marks.isLegacy e.text

theorem settled_ofPage (c : Config) (title t : Text) : (ofPage c title t).Settled := by
  dsimp only [Settled, ofPage]

/-!
# Rules
-/

/-- The editor after a rule had an outcome. -/
def record (e : Editor) (r : Rule) (o : Outcome) : Editor :=
  { e with text := o.text, legacy := Marks.isLegacy o.text, changes := e.changes ++ [⟨r.name, o.summary⟩] }

theorem eq_of_apply {e e' : Editor} {r : Rule} {b : Bool} (h : e.apply r = .ok (e', b)) :
    e' = e ∨ exists o, r.run e.context e.text = .ok (some o) ∧ e' = e.record r o := by
  rcases exists_of_bind_eq_ok h with ⟨answer, hrun, h⟩
  cases answer with
  | none =>
      cases h
      exact Or.inl rfl
  | some o =>
      dsimp only at h
      split at h
      · cases h
        exact Or.inr ⟨o, hrun, rfl⟩
      · cases h
        exact Or.inl rfl

/-- The editor `e'` comes from `e` by rules that were applied: it is the same editor, or it knows its layout. -/
structure Continues (e e' : Editor) : Prop where
  given_eq : e'.given = e.given
  changes : e.changes <+: e'.changes
  settled : e' = e ∨ e'.changes ≠ e.changes ∧ e'.Settled

theorem Continues.refl (e : Editor) : Continues e e :=
  ⟨rfl, List.prefix_rfl, Or.inl rfl⟩

theorem continues_record (e : Editor) (r : Rule) (o : Outcome) : Continues e (e.record r o) := by
  refine ⟨rfl, List.prefix_append _ _, Or.inr ⟨?_, rfl⟩⟩
  intro h
  exact List.cons_ne_nil _ _ (List.append_right_eq_self.mp h)

theorem Continues.trans {e e' e'' : Editor} (h : Continues e e') (h' : Continues e' e'') : Continues e e'' := by
  refine ⟨h'.given_eq.trans h.given_eq, h.changes.trans h'.changes, ?_⟩
  rcases h'.settled with rfl | ⟨hmore, hsettled⟩
  · exact h.settled
  · refine Or.inr ⟨?_, hsettled⟩
    intro hsame
    have hback : e''.changes <+: e'.changes := hsame ▸ h.changes
    exact hmore (hback.eq_of_length_le h'.changes.length_le)

theorem continues_of_apply {e e' : Editor} {r : Rule} {b : Bool} (h : e.apply r = .ok (e', b)) :
    Continues e e' := by
  rcases eq_of_apply h with rfl | ⟨o, _, rfl⟩
  · exact Continues.refl e'
  · exact continues_record e r o

theorem continues_applyAll (e : Editor) (rules : List Rule) : Continues e (e.applyAll rules).1 := by
  induction rules generalizing e with
  | nil => exact Continues.refl e
  | cons r rules ih =>
      rw [applyAll]
      cases hr : e.apply r with
      | error f => exact Continues.refl e
      | ok answer => exact (continues_of_apply hr).trans (ih answer.1)

theorem Continues.settled_iff_or_changed {e e' : Editor} (h : Continues e e') :
    e'.Settled <-> e.Settled ∨ e'.changes ≠ e.changes := by
  rcases h.settled with rfl | ⟨hmore, hsettled⟩
  · simp
  · exact iff_of_true hsettled (Or.inr hmore)

/-!
# Checks
-/

theorem check_eq_of_none {e : Editor} (h : e.check.2 = none) : e.check.1 = (e.applyAll Rule.all).1 := by
  unfold check at h ⊢
  split at h
  · rename_i hrun
    rw [hrun]
  · cases h

/-- A check that is given up takes back what was done, but not the layout that was found. -/
theorem check_eq_of_fault {e : Editor} {f : EntryError} (h : e.check.2 = some f) :
    e.check.1 = (e.applyAll Rule.all).1.restore := by
  unfold check at h ⊢
  split at h
  · cases h
  · rename_i hrun
    rw [hrun]

/-!
# Runs
-/

/-- What can be asked of an editor. -/
inductive Request where
  | apply (r : Rule)
  | check

/-- What a request leaves behind, and the fault that ended it; a rule that fails changes nothing. -/
def respond (e : Editor) : Request -> Editor × Option EntryError
  | .apply r =>
      match e.apply r with
      | .ok (e', _) => (e', none)
      | .error f => (e, some f)
  | .check => e.check

/-- The editors of a page after any requests. -/
inductive Reachable (c : Config) (title t : Text) : Editor -> Prop where
  | ofPage : Reachable c title t (ofPage c title t)
  | respond {e : Editor} (q : Request) : Reachable c title t e -> Reachable c title t (e.respond q).1

theorem continues_respond_apply (e : Editor) (r : Rule) : Continues e (e.respond (.apply r)).1 := by
  rw [respond]
  cases hr : e.apply r with
  | error f => exact Continues.refl e
  | ok answer => exact continues_of_apply hr

/-- An editor that does not know the layout of its text holds the text that it was made for, with nothing recorded. -/
structure Tracked (t : Text) (e : Editor) : Prop where
  given_eq : e.given = t
  settled : e.Settled ∨ e.text = t ∧ e.changes = []

theorem Tracked.continues {t : Text} {e e' : Editor} (h : e.Tracked t) (hlater : Continues e e') : e'.Tracked t := by
  refine ⟨hlater.given_eq.trans h.given_eq, ?_⟩
  rcases hlater.settled with rfl | ⟨_, hsettled⟩
  · exact h.settled
  · exact Or.inl hsettled

theorem Tracked.restore {t : Text} {e : Editor} (h : e.Tracked t) : e.restore.Tracked t :=
  ⟨h.given_eq, Or.inr ⟨h.given_eq, rfl⟩⟩

theorem Tracked.check {t : Text} {e : Editor} (h : e.Tracked t) : e.check.1.Tracked t := by
  have hstop := h.continues (continues_applyAll e Rule.all)
  cases hfault : e.check.2 with
  | none =>
      rw [check_eq_of_none hfault]
      exact hstop
  | some f =>
      rw [check_eq_of_fault hfault]
      exact hstop.restore

theorem Reachable.tracked {c : Config} {title t : Text} {e : Editor} (h : Reachable c title t e) : e.Tracked t := by
  induction h with
  | ofPage => exact ⟨rfl, Or.inl (settled_ofPage c title t)⟩
  | respond q _ ih =>
      cases q with
      | apply r => exact ih.continues (continues_respond_apply _ r)
      | check => exact ih.check

/-- After a check was given up, the layout is known if it was known where the check stopped and the first text has the
same layout as the text there. -/
theorem Tracked.settled_restore_iff {t : Text} {e : Editor} (h : e.Tracked t) :
    e.restore.Settled <-> e.Settled ∧ Marks.isLegacy e.text = Marks.isLegacy t := by
  have hrestore : e.restore.Settled <-> e.legacy = Marks.isLegacy t := by
    rw [← h.given_eq]
    rfl
  rw [hrestore, Settled]
  constructor
  · intro hlegacy
    rcases h.settled with hsettled | ⟨htext, _⟩
    · exact ⟨hsettled, hsettled.symm.trans hlegacy⟩
    · rw [htext]
      exact ⟨hlegacy, rfl⟩
  · rintro ⟨hsettled, hsame⟩
    exact hsettled.trans hsame

/-- An editor knows the layout of its text when it is made, and whenever something is recorded.  A rule, or a check that
goes through, leaves it knowing the layout if it did before or if something was changed; a check that is given up
puts the first text back, with nothing recorded, and leaves it knowing the layout only if that was known where the check
stopped and is the layout of both texts. -/
theorem Reachable.settled_iff {c : Config} {title t : Text} {e : Editor} (h : Reachable c title t e) :
    (Editor.ofPage c title t).Settled ∧ (e.changes ≠ [] -> e.Settled) ∧
      (forall r, (e.respond (.apply r)).1.Settled <-> e.Settled ∨ (e.respond (.apply r)).1.changes ≠ e.changes) ∧
      (e.check.2 = none -> (e.check.1.Settled <-> e.Settled ∨ e.check.1.changes ≠ e.changes)) ∧
      forall f, e.check.2 = some f -> e.check.1.text = t ∧ e.check.1.changes = [] ∧
        (e.check.1.Settled <-> (e.applyAll Rule.all).1.Settled ∧
          Marks.isLegacy (e.applyAll Rule.all).1.text = Marks.isLegacy t) := by
  have hstop := h.tracked.continues (continues_applyAll e Rule.all)
  refine ⟨settled_ofPage c title t, ?_, ?_, ?_, ?_⟩
  · intro hchanges
    rcases h.tracked.settled with hsettled | ⟨_, hnone⟩
    · exact hsettled
    · exact absurd hnone hchanges
  · intro r
    exact (continues_respond_apply e r).settled_iff_or_changed
  · intro hfault
    rw [check_eq_of_none hfault]
    exact (continues_applyAll e Rule.all).settled_iff_or_changed
  · intro f hfault
    rw [check_eq_of_fault hfault]
    exact ⟨hstop.given_eq, rfl, hstop.settled_restore_iff⟩

/-!
# A page that is refused
-/

/-- Templates inside each other, too deep, in a template with a tab before its legacy name. -/
def entryWithTab : Text :=
  "\x7b\x7b\tFR-ES|\x7b\x7ba|\x7b\x7bb\x7d\x7d\x7d\x7d\x7d\x7d"

theorem settled_iff_entryWithTab :
    Reachable .builtin "casa" entryWithTab (ofPage .builtin "casa" entryWithTab) ∧
      (ofPage .builtin "casa" entryWithTab).check.2 = some (.templatesTooDeep 3 2) ∧
      (ofPage .builtin "casa" entryWithTab).check.1.text = entryWithTab ∧
      (ofPage .builtin "casa" entryWithTab).check.1.changes = [] ∧
      ((ofPage .builtin "casa" entryWithTab).check.1.Settled <->
        ((ofPage .builtin "casa" entryWithTab).applyAll Rule.all).1.Settled ∧
          Marks.isLegacy ((ofPage .builtin "casa" entryWithTab).applyAll Rule.all).1.text =
            Marks.isLegacy entryWithTab) := by
  have hreachable : Reachable .builtin "casa" entryWithTab (ofPage .builtin "casa" entryWithTab) := .ofPage
  have hfault : (ofPage .builtin "casa" entryWithTab).check.2 = some (.templatesTooDeep 3 2) := by decide +kernel
  rcases hreachable.settled_iff with ⟨_, _, _, _, hgivenUp⟩
  exact ⟨hreachable, hfault, hgivenUp _ hfault⟩

/-- The blank is tidied when the editor is made, so that the tidied text has a legacy header; the text that is put back
has none. -/
theorem not_settled_entryWithTab : ¬ (ofPage .builtin "casa" entryWithTab).check.1.Settled := by
  have hlegacy : (ofPage .builtin "casa" entryWithTab).check.1.legacy = true := by decide +kernel
  have htext : (ofPage .builtin "casa" entryWithTab).check.1.text = entryWithTab := by decide +kernel
  have hfirst : Marks.isLegacy entryWithTab = false := by decide +kernel
  rw [Settled, hlegacy, htext, hfirst]
  exact Bool.noConfusion

theorem not_forall_settled :
    ¬ forall (c : Config) (title t : Text) (e : Editor), Reachable c title t e ->
      e.Settled ∧ forall f, e.check.2 = some f -> e.check.1.text = t ∧ e.check.1.changes = [] := by
  intro h
  have hchecked := h .builtin "casa" entryWithTab _ (.respond .check .ofPage)
  exact not_settled_entryWithTab hchecked.1

end Editor
end WikiEntry
