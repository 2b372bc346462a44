import WikiEntry.Rule.All
import WikiEntry.Proofs.Region.Blanks
import WikiEntry.Proofs.Region.Replacement
import WikiEntry.Proofs.Rule.Outcome
import WikiEntry.Proofs.Text.Variants

/-!
# Removing namespaces

Every namespace that is removed takes a colon with it, so that the rule has an outcome exactly when it sees a
namespace, and comes to an end when it is repeated.  One run is not always enough: behind a namespace that is
removed another one can stand.
-/

namespace WikiEntry
namespace TemplateNames

/-- The namespaces that the rule sees in a text. -/
def seenNamespaces (t : Text) : List Match :=
  Region.matchesOutside namespacePrefix (Region.ignored t) Match.start t

/-!
# Colons
-/

theorem colon_of_blank : forall ch, Chars.isBlank ch = true -> (ch == ':') = false := by
  intro ch hch
  apply beq_eq_false_iff_ne.mpr
  rintro rfl
  revert hch
  decide

theorem colon_mem_of_reads {s s' : ReadState} {w : Text} (h : Pattern.Reads namespacePrefix s w s') : ':' ∈ w := by
  rcases h.seq_inv with ⟨u, v, x, rfl, _, hgroup⟩
  rcases hgroup.group_inv with ⟨y, hgroup, _⟩
  rcases hgroup.seq_inv with ⟨v1, v2, _, rfl, hgroup, _⟩
  rcases hgroup.seq_inv with ⟨v3, v4, _, rfl, _, hone⟩
  rcases hone.one_inv with ⟨ch, rfl, hch, _⟩
  have heq : ch = ':' := CharSet.eq_of_holds_anyCase (by decide) (by decide) (by decide) hch
  rw [heq]
  simp

theorem removeNamespaces_fst (t : Text) :
    (removeNamespaces t).1 = Edit.applyAll t ((seenNamespaces t).map fun m => ⟨m.span, "\x7b\x7b"⟩) := by
  rw [← Region.editsWith_const "\x7b\x7b" (fun found m => addOnce found (m.text t 1).trim) []]
  rfl

/-- Every namespace takes a colon with it. -/
theorem countP_removeNamespaces_lt {t : Text} (h : seenNamespaces t ≠ []) :
    (removeNamespaces t).1.countP (· == ':') < t.countP (· == ':') := by
  have horder : namespacePrefix.InOrder t 0 (seenNamespaces t) := (Pattern.inOrder_matchList _ t).filter _
  rw [removeNamespaces_fst]
  refine Edit.countP_applyAll_lt (Region.inOrder_map_of_inOrder horder _) ?_ ?_
  · simpa using h
  · intro e he
    rcases List.mem_map.mp he with ⟨m, hm, rfl⟩
    rcases horder.matched m hm with ⟨w, s, hmatched⟩
    show (("\x7b\x7b" : Text)).countP (· == ':') < (t.slice m.span).countP (· == ':')
    rw [hmatched.slice_eq]
    have hcolon : 0 < w.countP (· == ':') := List.countP_pos_iff.mpr ⟨':', colon_mem_of_reads hmatched.reads, rfl⟩
    exact hcolon

theorem removeNamespaces_eq_self {t : Text} (h : seenNamespaces t = []) : (removeNamespaces t).1 = t := by
  rw [removeNamespaces_fst, h]
  rfl

end TemplateNames

open TemplateNames

/-!
# Outcomes
-/

namespace Rule

theorem exists_templateNamespaces_run_eq (c : Context) (t : Text) :
    exists summary, templateNamespaces.run c t = .ok (Outcome.of? t (removeNamespaces t).1 summary) :=
  ⟨_, rfl⟩

theorem templateNamespaces_run_eq_none_iff (c : Context) (t : Text) :
    templateNamespaces.run c t = .ok none <-> seenNamespaces t = [] := by
  rcases exists_templateNamespaces_run_eq c t with ⟨summary, hrun⟩
  rw [hrun, Except.ok.injEq, Outcome.of?_eq_none_iff]
  constructor
  · intro hsame
    by_contra hne
    have hlt := countP_removeNamespaces_lt hne
    rw [changed_of_countP_ne colon_of_blank (Nat.ne_of_lt hlt)] at hsame
    cases hsame
  · intro hnone
    rw [removeNamespaces_eq_self hnone]
    exact bne_self_eq_false _

theorem templateNamespaces_text {c : Context} {t : Text} {o : Outcome}
    (h : templateNamespaces.run c t = .ok (some o)) : o.text = (removeNamespaces t).1 := by
  rcases exists_templateNamespaces_run_eq c t with ⟨summary, hrun⟩
  rw [hrun] at h
  exact Outcome.text_of_of?_eq_some (Except.ok.inj h)

/-- The rule is done with a text after one run exactly when it sees no namespace in what the run leaves. -/
theorem idempotentOn_templateNamespaces_iff (c : Context) (t : Text) :
    templateNamespaces.IdempotentOn c t <-> seenNamespaces (removeNamespaces t).1 = [] := by
  constructor
  · intro h
    cases hrun : templateNamespaces.run c t with
    | error e => cases hrun
    | ok o? =>
        cases o? with
        | none =>
            have hnone := (templateNamespaces_run_eq_none_iff c t).mp hrun
            rw [removeNamespaces_eq_self hnone]
            exact hnone
        | some o =>
            have hagain := (templateNamespaces_run_eq_none_iff _ _).mp (h o hrun)
            rw [templateNamespaces_text hrun] at hagain
            exact hagain
  · intro hnone o hrun
    rw [templateNamespaces_run_eq_none_iff, templateNamespaces_text hrun]
    exact hnone

/-- Repeated at most as often as the text has colons, the rule sees no namespace any more. -/
theorem exists_seenNamespaces_iterate_eq_nil (t : Text) :
    exists n, n ≤ t.countP (· == ':') ∧ seenNamespaces (Nat.iterate (fun u => (removeNamespaces u).1) n t) = [] := by
  generalize hcount : t.countP (· == ':') = count
  induction count using Nat.strongRecOn generalizing t with
  | ind count ih =>
      by_cases hnone : seenNamespaces t = []
      · exact ⟨0, Nat.zero_le _, hnone⟩
      · have hlt := countP_removeNamespaces_lt hnone
        rw [hcount] at hlt
        rcases ih _ hlt _ rfl with ⟨n, hn, hlast⟩
        exact ⟨n + 1, Nat.succ_le_of_lt (Nat.lt_of_le_of_lt hn hlt), hlast⟩

/-!
# A namespace behind a namespace
-/

def doubledNamespace : Text :=
  "\x7b\x7bmsg:msg:a\x7d\x7d"

theorem ignored_doubledNamespace : Region.ignored doubledNamespace = [] :=
  Region.ignored_eq_mergeSorted [] (by decide +kernel) (by decide)

theorem removeNamespaces_doubledNamespace :
    (removeNamespaces doubledNamespace).1 = "\x7b\x7bmsg:a\x7d\x7d" := by
  rw [removeNamespaces_fst, seenNamespaces, ignored_doubledNamespace]
  decide +kernel

theorem seenNamespaces_removeNamespaces_doubledNamespace :
    seenNamespaces (removeNamespaces doubledNamespace).1 ≠ [] := by
  have hignored : Region.ignored "\x7b\x7bmsg:a\x7d\x7d" = [] :=
    Region.ignored_eq_mergeSorted [] (by decide +kernel) (by decide)
  rw [removeNamespaces_doubledNamespace, seenNamespaces, hignored]
  decide +kernel

/-- Not all rules are done with every sanitized text after one run. -/
theorem not_forall_idempotentOn :
    ¬ forall r, r ∈ Rule.all -> forall title t, Region.sanitizeBlanks t = t ->
      r.IdempotentOn ⟨.builtin, title, Marks.isLegacy t⟩ t := by
  intro hall
  have hrule : templateNamespaces ∈ Rule.all := by
    simp [Rule.all]
  have hsanitized : Region.sanitizeBlanks doubledNamespace = doubledNamespace :=
    Region.sanitizeBlanks_eq_self ignored_doubledNamespace (by decide +kernel) (by decide +kernel)
      (by decide +kernel)
  have honce := hall templateNamespaces hrule "a" doubledNamespace hsanitized
  rw [idempotentOn_templateNamespaces_iff] at honce
  exact seenNamespaces_removeNamespaces_doubledNamespace honce

end Rule
end WikiEntry
