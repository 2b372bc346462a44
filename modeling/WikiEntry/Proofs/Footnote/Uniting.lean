import WikiEntry.Proofs.Footnote.Shown

/-!
# Bringing contents together

Contents are brought together group by group.  A name bears a content when all footnotes that had a content from
the start, and have the name at present, had that content.  One step keeps this for all names but those that it
gives up, and whatever referred to such a name refers to the common name afterwards.
-/

namespace WikiEntry
namespace Footnote

variable {notes : List Footnote} {forms : List (Nat × FootnoteForm)} {s : Naming}
variable {name body : Text} {i : Nat}

/-!
# Names that bear a content
-/

/-- The name has a content, and no footnote that has it, full or not any more, had another one. -/
structure Bears (notes : List Footnote) (forms : List (Nat × FootnoteForm)) (name body : Text) : Prop where
  carried : exists i, Carries notes forms name i
  only : forall i, Ungrouped notes i -> (nth notes i).isReference = false ->
    (formOf notes forms i).name = some name -> (nth notes i).body = body

/-- At present the footnote is a reference to a name that bears the content. -/
def PointsTo (notes : List Footnote) (forms : List (Nat × FootnoteForm)) (i : Nat) (body : Text) : Prop :=
  (formOf notes forms i).content = none ∧
    exists name, (formOf notes forms i).name = some name ∧ Bears notes forms name body

/-- What holds between the steps. -/
structure Invariant (notes : List Footnote) (s : Naming) : Prop where
  taken : NamesTaken notes s
  full : forall i, (nth notes i).isReference = false ->
    (formOf notes s.forms i).content = (nth notes i).content ∨ (formOf notes s.forms i).content = none
  refs : forall i, (nth notes i).isReference = true -> (formOf notes s.forms i).content = none
  contents : forall i, Ungrouped notes i -> (nth notes i).isReference = false ->
    (formOf notes s.forms i).content = none -> PointsTo notes s.forms i (nth notes i).body
  references : forall i name body, Ungrouped notes i -> (nth notes i).isReference = true ->
    (nth notes i).name? = some name -> StandsFor notes [] name body -> PointsTo notes s.forms i body

theorem Carries.isReference (hs : Invariant notes s) (h : Carries notes s.forms name i) :
    (nth notes i).isReference = false := by
  cases href : (nth notes i).isReference with
  | false => rfl
  | true =>
      have hfull := h.full
      rw [hs.refs i href] at hfull
      cases hfull

theorem Bears.standsFor (hs : Invariant notes s) (h : Bears notes s.forms name body) :
    StandsFor notes s.forms name body := by
  refine ⟨h.carried, ?_⟩
  intro i hi
  have href := hi.isReference hs
  rcases hs.full i href with hsame | hnone
  · rw [FootnoteForm.body, hsame]
    exact h.only i hi.ungrouped href hi.named
  · have hfull := hi.full
    rw [hnone] at hfull
    cases hfull

theorem Invariant.kept (hs : Invariant notes s) : Kept notes s.forms := by
  have hrefers : forall i body, PointsTo notes s.forms i body -> RefersTo notes s.forms i body := by
    rintro i body ⟨hnone, name, hname, hbears⟩
    exact ⟨hnone, name, hname, hbears.standsFor hs⟩
  constructor
  · intro i content hi hcontent
    have href := isReference_of_content_eq_some hcontent
    rcases hs.full i href with hsame | hnone
    · left
      rw [hsame, hcontent]
    · right
      exact hrefers i _ (hs.contents i hi href hnone)
  · intro i name body hi hcontent hname hstands
    have href : (nth notes i).isReference = true := Option.isNone_iff_eq_none.mpr hcontent
    exact hrefers i body (hs.references i name body hi href hname hstands)

theorem invariant_ofNotes (notes : List Footnote) : Invariant notes (.ofNotes notes) := by
  constructor
  · intro i hi name hname
    refine List.mem_filterMap.mpr ⟨nth notes i, ?_, hname⟩
    rw [nth, List.getD_eq_getElem?_getD, List.getElem?_eq_getElem hi]
    exact List.getElem_mem hi
  · intro i _
    exact Or.inl rfl
  · intro i href
    exact content_eq_none_of_isReference href
  · intro i _ href hnone
    have hsome := content_isSome_of_full href
    rw [show (nth notes i).content = none from hnone] at hsome
    cases hsome
  · intro i name body _ href hname hstands
    refine ⟨content_eq_none_of_isReference href, name, hname, hstands.carried, ?_⟩
    intro j hj hfull hjname
    exact hstands.only j ⟨hj, hjname, content_isSome_of_full hfull⟩

/-!
# One step
-/

/-- The footnotes of one content get a common name, and followers refer to it with them. -/
structure Common (notes : List Footnote) (s s' : Naming) (first : Nat) (rest followers : List Nat)
    (name body : Text) : Prop where
  before : Invariant notes s
  sharing : Sharing notes (first :: rest) body
  free : FreeFor notes s (first :: rest) name
  follow : forall i, i ∈ followers <-> Follows notes s (first :: rest) name i
  forms : forall i, formOf notes s'.forms i =
    if i = first then (nth notes first).formNamed (some name)
    else if i ∈ rest ∨ i ∈ followers then referenceTo name
    else formOf notes s.forms i
  taken : s'.taken = s.taken ++ [name]

namespace Common

variable {s' : Naming} {first : Nat} {rest followers : List Nat}

theorem form_first (h : Common notes s s' first rest followers name body) :
    formOf notes s'.forms first = (nth notes first).formNamed (some name) := by
  rw [h.forms, if_pos rfl]

theorem form_rest (h : Common notes s s' first rest followers name body) (hi : i ∈ rest) :
    formOf notes s'.forms i = referenceTo name := by
  have hne : i ≠ first := by
    rintro rfl
    exact (List.nodup_cons.mp h.sharing.nodup).1 hi
  rw [h.forms, if_neg hne, if_pos (Or.inl hi)]

theorem form_follower (h : Common notes s s' first rest followers name body) (hi : i ∈ followers) :
    formOf notes s'.forms i = referenceTo name := by
  have hne : i ≠ first := by
    rintro rfl
    exact ((h.follow i).mp hi).outside List.mem_cons_self
  rw [h.forms, if_neg hne, if_pos (Or.inr hi)]

theorem form_other (h : Common notes s s' first rest followers name body) (hi : i ∉ first :: rest)
    (hf : i ∉ followers) : formOf notes s'.forms i = formOf notes s.forms i := by
  rw [List.mem_cons, not_or] at hi
  rw [h.forms, if_neg hi.1, if_neg]
  rintro (hrest | hfollow)
  · exact hi.2 hrest
  · exact hf hfollow

theorem not_mem_followers (h : Common notes s s' first rest followers name body)
    (hi : (nth notes i).isReference = false) : i ∉ followers := by
  intro hf
  have href := ((h.follow i).mp hf).reference
  rw [hi] at href
  cases href

theorem form_full (h : Common notes s s' first rest followers name body) (hi : i ∉ first :: rest)
    (hfull : (nth notes i).isReference = false) : formOf notes s'.forms i = formOf notes s.forms i :=
  h.form_other hi (h.not_mem_followers hfull)

theorem name_member (h : Common notes s s' first rest followers name body) (hi : i ∈ first :: rest) :
    (formOf notes s'.forms i).name = some name := by
  rcases List.mem_cons.mp hi with rfl | hrest
  · rw [h.form_first]
    rfl
  · rw [h.form_rest hrest]
    rfl

/-- Afterwards the common name bears the content of the members. -/
theorem bears (h : Common notes s s' first rest followers name body) : Bears notes s'.forms name body := by
  have hfirst := (h.sharing.mem first).mp List.mem_cons_self
  constructor
  · refine ⟨first, hfirst.1.ungrouped, h.name_member List.mem_cons_self, ?_⟩
    rw [h.form_first]
    exact content_isSome_of_full hfirst.1.full
  · intro i hi hfull hname
    by_cases hmem : i ∈ first :: rest
    · exact ((h.sharing.mem i).mp hmem).2
    · rw [h.form_full hmem hfull] at hname
      have href := h.free i hi.1 hmem hname
      rw [hfull] at href
      cases href

/-- Whatever the common name bore before was the content of the members. -/
theorem body_eq (h : Common notes s s' first rest followers name body) {other : Text}
    (hbears : Bears notes s.forms name other) : other = body := by
  rcases hbears.carried with ⟨i, hi⟩
  have hfull := hi.isReference h.before
  have hmem : i ∈ first :: rest := by
    by_contra hmem
    have href := h.free i hi.ungrouped.1 hmem hi.named
    rw [hfull] at href
    cases href
  rw [← hbears.only i hi.ungrouped hfull hi.named]
  exact ((h.sharing.mem i).mp hmem).2

/-- A name that a member has bears the content of the members. -/
theorem body_eq_of_member (h : Common notes s s' first rest followers name body) {m : Nat} {old other : Text}
    (hm : m ∈ first :: rest) (hname : (formOf notes s.forms m).name = some old)
    (hbears : Bears notes s.forms old other) : other = body := by
  have hmember := (h.sharing.mem m).mp hm
  rw [← hmember.2]
  exact (hbears.only m hmember.1.ungrouped hmember.1.full hname).symm

theorem mem_of_body_eq (h : Common notes s s' first rest followers name body) (hi : Ungrouped notes i)
    (hfull : (nth notes i).isReference = false) (hbody : (nth notes i).body = body) : i ∈ first :: rest := by
  have hfirst := (h.sharing.mem first).mp List.mem_cons_self
  refine (h.sharing.mem i).mpr ⟨⟨hi, hfull, ?_⟩, hbody⟩
  rw [hbody, ← hfirst.2]
  exact hfirst.1.body

/-- A name that no member gives up bears what it bore. -/
theorem bears_other (h : Common notes s s' first rest followers name body) {old other : Text}
    (hbears : Bears notes s.forms old other) (hne : old ≠ name)
    (hkept : forall i, i ∈ first :: rest -> (formOf notes s.forms i).name ≠ some old) :
    Bears notes s'.forms old other := by
  constructor
  · rcases hbears.carried with ⟨i, hi⟩
    have hform := h.form_full (fun hmem => hkept i hmem hi.named) (hi.isReference h.before)
    refine ⟨i, hi.ungrouped, ?_, ?_⟩
    · rw [hform]
      exact hi.named
    · rw [hform]
      exact hi.full
  · intro i hi hfull hname
    by_cases hmem : i ∈ first :: rest
    · rw [h.name_member hmem] at hname
      cases hname
      exact absurd rfl hne
    · rw [h.form_full hmem hfull] at hname
      exact hbears.only i hi hfull hname

/-- Footnotes that are not members refer to the content that they have referred to. -/
theorem pointsTo (h : Common notes s s' first rest followers name body) {other : Text} (hi : Ungrouped notes i)
    (hmem : i ∉ first :: rest) (hpoints : PointsTo notes s.forms i other)
    (hown : (nth notes i).isReference = true ∨ (nth notes i).body = other) : PointsTo notes s'.forms i other := by
  rcases hpoints with ⟨hnone, old, hold, hbears⟩
  by_cases hf : i ∈ followers
  · -- the name is one that a member gives up, so that it bore the content of the members
    rcases ((h.follow i).mp hf).former with ⟨m, given, hm, hmname, _, hgiven⟩
    have hsame : given = old := Option.some.inj (hgiven.symm.trans hold)
    subst hsame
    rw [h.body_eq_of_member hm hmname hbears, PointsTo, h.form_follower hf]
    exact ⟨rfl, name, rfl, h.bears⟩
  · rw [PointsTo, h.form_other hmem hf]
    refine ⟨hnone, old, hold, ?_⟩
    by_cases hname : old = name
    · subst hname
      rw [h.body_eq hbears]
      exact h.bears
    · refine h.bears_other hbears hname ?_
      -- were the name given up, a reference would follow, and a full footnote would be a member itself
      intro m hm hmname
      cases hfull : (nth notes i).isReference with
      | true => exact hf ((h.follow i).mpr ⟨hi.1, hmem, hfull, m, old, hm, hmname, hname, hold⟩)
      | false =>
          rw [hfull] at hown
          have hbody := hown.resolve_left Bool.false_ne_true
          exact hmem (h.mem_of_body_eq hi hfull (hbody.trans (h.body_eq_of_member hm hmname hbears)))

theorem not_member (h : Common notes s s' first rest followers name body)
    (hi : (nth notes i).isReference = true) : i ∉ first :: rest := by
  intro hmem
  have hfull := ((h.sharing.mem i).mp hmem).1.full
  rw [hi] at hfull
  cases hfull

theorem namesTaken (h : Common notes s s' first rest followers name body) : NamesTaken notes s' := by
  intro i hi current hcurrent
  rw [h.taken, List.mem_append, List.mem_singleton]
  by_cases hmem : i ∈ first :: rest
  · have hname : s'.name? notes i = some name := h.name_member hmem
    rw [hname] at hcurrent
    cases hcurrent
    exact Or.inr rfl
  · by_cases hf : i ∈ followers
    · rw [Naming.name?, h.form_follower hf] at hcurrent
      cases hcurrent
      exact Or.inr rfl
    · rw [Naming.name?, h.form_other hmem hf] at hcurrent
      exact Or.inl (h.before.taken i hi current hcurrent)

theorem invariant (h : Common notes s s' first rest followers name body) : Invariant notes s' := by
  constructor
  · exact h.namesTaken
  · intro i hfull
    by_cases hmem : i ∈ first :: rest
    · rcases List.mem_cons.mp hmem with rfl | hrest
      · left
        rw [h.form_first]
        rfl
      · right
        rw [h.form_rest hrest]
        rfl
    · rw [h.form_full hmem hfull]
      exact h.before.full i hfull
  · intro i href
    by_cases hf : i ∈ followers
    · rw [h.form_follower hf]
      rfl
    · rw [h.form_other (h.not_member href) hf]
      exact h.before.refs i href
  · intro i hi hfull hnone
    by_cases hmem : i ∈ first :: rest
    · rcases List.mem_cons.mp hmem with rfl | hrest
      · have hsome := content_isSome_of_full hfull
        rw [h.form_first] at hnone
        rw [show (nth notes i).content = none from hnone] at hsome
        cases hsome
      · rw [((h.sharing.mem i).mp hmem).2]
        exact ⟨hnone, name, h.name_member hmem, h.bears⟩
    · rw [h.form_full hmem hfull] at hnone
      exact h.pointsTo hi hmem (h.before.contents i hi hfull hnone) (Or.inr rfl)
  · intro i former other hi href hname hstands
    exact h.pointsTo hi (h.not_member href) (h.before.references i former other hi href hname hstands) (Or.inl href)

end Common

/-- A step keeps the invariant and the forms of all full footnotes but the members, and brings these together or
leaves them alone. -/
theorem unite_step {members : List Nat} (hs : Invariant notes s) (hsharing : Sharing notes members body)
    (hpending : forall i, i ∈ members -> formOf notes s.forms i = (nth notes i).form) :
    Invariant notes (unite notes s members) ∧ Together notes (unite notes s members).forms members ∧
      forall i, i ∉ members -> (nth notes i).isReference = false ->
        formOf notes (unite notes s members).forms i = formOf notes s.forms i := by
  rcases unite_cases hs.taken members with ⟨k, hsame | ⟨name, followers, hfree, hfollow, hrewrite⟩⟩
  · rw [hsame]
    exact ⟨⟨hs.taken, hs.full, hs.refs, hs.contents, hs.references⟩, Or.inl hpending, fun _ _ _ => rfl⟩
  · cases members with
    | nil => exact absurd hsharing.several (by simp)
    | cons first rest =>
        have hcommon : Common notes s (unite notes s (first :: rest)) first rest followers name body := by
          refine ⟨hs, hsharing, hfree, hfollow, ?_, ?_⟩
          · intro i
            rw [hrewrite, formOf_rewrite hsharing.nodup]
          · rw [hrewrite, taken_rewrite]
        refine ⟨hcommon.invariant, Or.inr ⟨first, rest, name, rfl, ?_, hcommon.form_first, ?_⟩, ?_⟩
        · exact ((hsharing.mem first).mp List.mem_cons_self).1.full
        · intro i hi
          exact hcommon.form_rest hi
        · intro i hmem hfull
          exact hcommon.form_full hmem hfull

/-!
# All steps
-/

theorem Together.congr {forms' : List (Nat × FootnoteForm)} {members : List Nat}
    (h : Together notes forms members)
    (hsame : forall i, i ∈ members -> formOf notes forms' i = formOf notes forms i) :
    Together notes forms' members := by
  rcases h with hold | ⟨first, rest, name, rfl, hfull, hfirst, hrest⟩
  · left
    intro i hi
    rw [hsame i hi]
    exact hold i hi
  · right
    refine ⟨first, rest, name, rfl, hfull, ?_, ?_⟩
    · rw [hsame first List.mem_cons_self]
      exact hfirst
    · intro i hi
      rw [hsame i (List.mem_cons_of_mem _ hi)]
      exact hrest i hi

/-- All steps, from a state in which the forms of all members are the old ones. -/
theorem unite_run {groups : List (List Nat)} (hs : Invariant notes s)
    (hsharing : forall members, members ∈ groups -> exists body, Sharing notes members body)
    (hdisjoint : groups.Pairwise List.Disjoint)
    (hpending : forall members, members ∈ groups -> forall i, i ∈ members ->
      formOf notes s.forms i = (nth notes i).form) :
    Invariant notes (groups.foldl (unite notes) s) ∧
      (forall members, members ∈ groups -> Together notes (groups.foldl (unite notes) s).forms members) ∧
      forall i, (forall members, members ∈ groups -> i ∉ members) -> (nth notes i).isReference = false ->
        formOf notes (groups.foldl (unite notes) s).forms i = formOf notes s.forms i := by
  induction groups generalizing s with
  | nil => exact ⟨hs, fun _ hmem => absurd hmem List.not_mem_nil, fun _ _ _ => rfl⟩
  | cons members groups ih =>
      rcases hsharing members List.mem_cons_self with ⟨body, hshare⟩
      rcases List.pairwise_cons.mp hdisjoint with ⟨hapart, hlater⟩
      have hsharing' := fun later hmem => hsharing later (List.mem_cons_of_mem members hmem)
      rcases unite_step hs hshare (hpending members List.mem_cons_self) with ⟨hstep, htogether, hframe⟩
      have hpending' : forall later, later ∈ groups -> forall i, i ∈ later ->
          formOf notes (unite notes s members).forms i = (nth notes i).form := by
        intro later hmem i hi
        rcases hsharing' later hmem with ⟨_, hlatershare⟩
        rw [hframe i (fun him => hapart later hmem him hi) ((hlatershare.mem i).mp hi).1.full]
        exact hpending later (List.mem_cons_of_mem _ hmem) i hi
      rcases ih hstep hsharing' hlater hpending' with ⟨hinv, hall, hframe'⟩
      refine ⟨hinv, ?_, ?_⟩
      · intro m hm
        rcases List.mem_cons.mp hm with rfl | hm
        · -- later groups do not touch the group that comes first
          refine htogether.congr ?_
          intro i hi
          exact hframe' i (fun later hmem hil => hapart later hmem hi hil) ((hshare.mem i).mp hi).1.full
        · exact hall m hm
      · intro i hout hfull
        rw [List.foldl_cons, hframe' i (fun later hmem => hout later (List.mem_cons_of_mem _ hmem)) hfull]
        exact hframe i (hout members List.mem_cons_self) hfull

theorem kept_and_together_united (notes : List Footnote) :
    Kept notes (united notes) ∧ forall members, members ∈ repeated notes -> Together notes (united notes) members := by
  have hrun := unite_run (invariant_ofNotes notes) (fun _ hmem => sharing_of_mem_repeated hmem)
    (pairwise_disjoint_repeated notes) (fun _ _ _ _ => rfl)
  exact ⟨hrun.1.kept, hrun.2.1⟩

-- the reference follows the name that the second footnote gives up
example : united [⟨⟨0, 1⟩, " name=a", some "c"⟩, ⟨⟨1, 2⟩, " name=b", some " c"⟩, ⟨⟨2, 3⟩, " name=b", none⟩] =
    [(1, referenceTo "a"), (0, ⟨some "a", some "c"⟩), (2, referenceTo "a")] := by
  decide +kernel

/-!
# The rules
-/

theorem kept_formsIn (t : Text) {new : List Footnote -> List (Nat × FootnoteForm)}
    (h : Kept (all t) (new (all t))) : Kept (all t) (formsIn t new) := by
  rw [formsIn]
  split
  · exact kept_nil (all t)
  · exact h

theorem together_formsIn (t : Text) {members : List Nat} (hmem : members ∈ repeated (all t)) :
    Together (all t) (formsIn t united) members := by
  rw [formsIn]
  split
  · left
    intro i _
    rfl
  · exact (kept_and_together_united (all t)).2 members hmem

/-- In any text, both rules write footnotes in forms that show what the footnotes have shown before.  Where
contents are brought together, the first footnote of a content, and no other, keeps it. -/
theorem rules_keep_what_is_shown (c : Context) (t : Text) :
    (Rule.ambiguousFootnotes.run c t =
        .ok (Outcome.of? t (revise t (formsIn t unnamed)) (some "corrigiendo referencias")) ∧
      Kept (all t) (formsIn t unnamed)) ∧
    Rule.repeatedFootnotes.run c t =
        .ok (Outcome.of? t (revise t (formsIn t united)) (some "agrupando referencias")) ∧
      Kept (all t) (formsIn t united) ∧
      forall members, members ∈ repeated (all t) -> Together (all t) (formsIn t united) members := by
  refine ⟨⟨rfl, kept_formsIn t (kept_unnamed (all t))⟩, rfl, ?_, ?_⟩
  · exact kept_formsIn t (kept_and_together_united (all t)).1
  · intro members hmem
    exact together_formsIn t hmem

end Footnote
end WikiEntry
