import WikiEntry.Proofs.Page.Moved
import WikiEntry.Proofs.Page.Sorting
import WikiEntry.Proofs.Pattern.Beyond
import WikiEntry.Proofs.Region.Union
import WikiEntry.Proofs.Rule.Outcome
import WikiEntry.Proofs.Text.Absent
import WikiEntry.Proofs.Text.Trimming
import WikiEntry.Rule.SuperfluousSections

/-!
# What is left of empty sections

The empty sections of a page are taken out in one walk through the document order that the page had before.  The walk
meets a section before it meets those below it, so that a section whose children all go stays behind without children.
A section that had none goes, or something that is seen stands in it; but what is invisible in the first section of a
page has no section before it to go to.
-/

namespace WikiEntry
namespace SuperfluousSections

open Pattern

/-!
# White space alone
-/

/-- White space is invisible. -/
theorem isInvisible_of_isBlank {t : Text} (ht : t.isBlank = true) : Marks.isInvisible t = true := by
  have hchars : forall ch, ch ∈ t -> ch ∈ Chars.blanks := fun ch hch => Chars.mem_blanks (List.all_eq_true.mp ht ch hch)
  have habsent : forall {ch}, ch ∉ Chars.blanks -> ch ∉ t := fun hch h => hch (hchars _ h)
  have hstrip : Region.stripHidden t = t := by
    rw [Region.stripHidden, Region.hidden_eq_nil (habsent (by decide))]
    rfl
  have hclear : t.replace "\x7b\x7bclear\x7d\x7d" [] = t := by
    rw [Text.replace, Text.splitOn_eq_singleton (a := '\x7b') (by decide) (habsent (by decide))]
    rfl
  have hbreaks : Marks.lineBreak.replaceAll t [] = t := replaceAll_eq_self hchars (by decide +kernel) []
  have himages : Marks.image.replaceAll t [] = t := replaceAll_eq_self hchars (by decide +kernel) []
  have hcategories : Marks.categoryLink.replaceAll t [] = t := replaceAll_eq_self hchars (by decide +kernel) []
  rw [Marks.isInvisible, hstrip, hclear, hbreaks, himages, hcategories, ht]

/-!
# One section
-/

/-- Whether the header of a section is a standard one, other than that of an etymology. -/
def isDispensable (c : Config) (p : Page) (i : Nat) : Bool :=
  !(p.strippedHeader i).startsWith "Etimología" && c.isStandardHeader (p.strippedHeader i)

/-- A standard section without children and without a text. -/
def isVacant (c : Config) (p : Page) (i : Nat) : Bool :=
  isDispensable c p i && (p.children i).isEmpty && (p.get i).intro.isEmpty

theorem isVacant_iff {c : Config} {p : Page} {i : Nat} :
    isVacant c p i = true <-> isDispensable c p i = true ∧ p.children i = [] ∧ (p.get i).intro = [] := by
  rw [isVacant, Bool.and_eq_true, Bool.and_eq_true, List.isEmpty_iff, List.isEmpty_iff, and_assoc]

theorem isEmptySection_iff {c : Config} {p : Page} {i : Nat} :
    isEmptySection c p i = true <->
      isDispensable c p i = true ∧ p.children i = [] ∧ Marks.isInvisible (p.get i).intro = true := by
  unfold isEmptySection isDispensable
  dsimp only
  rw [Bool.and_eq_true, Bool.and_eq_true, Bool.and_eq_true, Bool.and_eq_true, List.isEmpty_iff, and_assoc, and_assoc,
    and_assoc, and_left_comm (a := p.children i = [])]

/-- The page behind the visit of a section. -/
def pageBehind (c : Config) (p : Page) (i : Nat) : Page :=
  (removeEmpty c p i).getD p

/-- What the walk does at one section, with the headers of the sections that are gone. -/
def visit (c : Config) (x : Page × List Text) (i : Nat) : Page × List Text :=
  match removeEmpty c x.1 i with
  | some q => (q, addOnce x.2 (x.1.strippedHeader i))
  | none => x

theorem fst_visit (c : Config) (x : Page × List Text) (i : Nat) : (visit c x i).1 = pageBehind c x.1 i := by
  unfold visit pageBehind
  cases removeEmpty c x.1 i <;> rfl

theorem removeAllEmpty_eq (c : Config) (p : Page) : removeAllEmpty c p = p.order.foldl (visit c) (p, []) := by
  unfold removeAllEmpty
  refine List.foldl_ext _ _ _ fun x i _ => ?_
  rcases x with ⟨q, removed⟩
  cases hq : removeEmpty c q i <;> simp only [visit, hq]

theorem fst_removeAllEmpty (c : Config) (p : Page) : (removeAllEmpty c p).1 = p.order.foldl (pageBehind c) p := by
  rw [removeAllEmpty_eq]
  exact (List.foldl_hom Prod.fst fun x i => (fst_visit c x i).symm).symm

/-- A visit takes the section out or leaves the page as it is; what stands in the section goes to the one before. -/
theorem pageBehind_cases (c : Config) (p : Page) (i : Nat) :
    (p.children i = [] ∧ (p.get i).intro = [] ∧ pageBehind c p i = p.detachAlone i) ∨
      (p.children i = [] ∧ exists previous, p.previous? i = some previous ∧
        pageBehind c p i = (addIntro p previous (p.get i).intro).detachAlone i) ∨
      (pageBehind c p i = p ∧ (isEmptySection c p i = false ∨ ((p.get i).intro ≠ [] ∧ p.previous? i = none))) := by
  unfold pageBehind removeEmpty
  cases hempty : isEmptySection c p i with
  | false => exact Or.inr (Or.inr ⟨rfl, Or.inl rfl⟩)
  | true =>
      have hchildren := (isEmptySection_iff.mp hempty).2.1
      by_cases hintro : (p.get i).intro = []
      · exact Or.inl ⟨hchildren, hintro, by simp [hintro]⟩
      · cases hprevious : p.previous? i with
        | none => exact Or.inr (Or.inr ⟨by simp [hintro], Or.inr ⟨hintro, rfl⟩⟩)
        | some previous => exact Or.inr (Or.inl ⟨hchildren, previous, rfl, by simp [hintro]⟩)

/-!
# Taking out one section
-/

section Removal

variable {q : Page} {kept todo : List Nat} {i j : Nat}

theorem previous?_eq_getLast? (h : q.WellFormed) (horder : q.order = kept ++ i :: todo) :
    q.previous? i = kept.getLast? := by
  rw [Page.previous?, h.position?_eq_some horder, Option.bind_some, List.getLast?_eq_getElem?]
  cases kept with
  | nil => rfl
  | cons k kept =>
      rw [if_neg (by simp), horder, List.getElem?_append_left (by simp)]

theorem order_detachAlone (h : q.WellFormed) (horder : q.order = kept ++ i :: todo) :
    (q.detachAlone i).order = kept ++ todo := by
  have hnodup := h.nodup
  rw [horder] at hnodup
  have hnot : i ∉ kept ++ todo := (List.nodup_middle.mp hnodup).notMem
  show (q.order.filter fun j => !([i] : List Nat).contains j) = kept ++ todo
  rw [horder, List.filter_append, List.filter_cons_of_neg (by simp), ← List.filter_append, List.filter_eq_self]
  intro j hj
  have hne : j ≠ i := fun heq => hnot (heq ▸ hj)
  simpa using hne

/-- Nobody loses a parent when a section without children goes. -/
theorem parent?_detachAlone (h : q.WellFormed) (hchildren : q.children i = []) (hj : j ∈ (q.detachAlone i).order) :
    (q.detachAlone i).parent? j = q.parent? j := by
  refine h.parent?_without (fun k l hp hl => ?_) hj
  rw [List.mem_singleton.mp hl] at hp
  have hchild := h.mem_children_iff.mpr hp
  rw [hchildren] at hchild
  cases hchild

theorem get_addIntro (q : Page) (previous : Nat) (t : Text) (j : Nat) :
    (addIntro q previous t).get j = if previous = j ∧ j < q.sections.length
      then (q.get j).setIntro ((q.get j).intro ++ "\n" ++ t) else q.get j :=
  Page.get_modify q previous j _

theorem wellFormed_addIntro (h : q.WellFormed) (previous : Nat) (t : Text) : (addIntro q previous t).WellFormed :=
  h.modifyBody previous fun s => s.body.setText (s.intro ++ "\n" ++ t)

theorem line_addIntro (q : Page) (previous : Nat) (t : Text) (j : Nat) :
    ((addIntro q previous t).get j).line = (q.get j).line := by
  rw [get_addIntro]
  split <;> rfl

/-- What is seen in a text is still seen when something is put behind it. -/
theorem isBlank_addIntro (q : Page) (previous : Nat) (t : Text) (hj : (q.get j).intro.isBlank = false) :
    ((addIntro q previous t).get j).intro.isBlank = false := by
  rw [get_addIntro]
  split
  · show Text.isBlank (Text.trim ((q.get j).intro ++ "\n" ++ t)) = false
    rw [Text.isBlank_trim, Text.isBlank, List.all_append, List.all_append]
    rw [Text.isBlank] at hj
    rw [hj]
    rfl
  · exact hj

end Removal

/-!
# The walk
-/

/-- Why a section may stay: it is no standard one, it had children, or something is seen in it; or it is the first of
the page, and has white space alone. -/
def MayStay (c : Config) (p q : Page) (kept : List Nat) (i : Nat) : Prop :=
  isDispensable c p i = false ∨ p.children i ≠ [] ∨ (q.get i).intro.isBlank = false ∨
    (kept.head? = some i ∧ (p.get i).intro ≠ [] ∧ (p.get i).intro.isBlank = true)

/-- The page `p` when the walk has come to `todo`, and `kept` is what is left of the sections in front. -/
structure Swept (c : Config) (p : Page) (kept todo : List Nat) (q : Page) : Prop where
  wellFormed : q.WellFormed
  order_eq : q.order = kept ++ todo
  line_eq : forall i, (q.get i).line = (p.get i).line
  parent?_eq : forall i, i ∈ q.order -> q.parent? i = p.parent? i
  intro_eq : forall i, i ∈ todo -> (q.get i).intro = (p.get i).intro
  mayStay : forall i, i ∈ kept -> MayStay c p q kept i

section Walk

variable {c : Config} {p q : Page} {kept todo : List Nat} {i j : Nat}

theorem Swept.start (h : p.WellFormed) : Swept c p [] p.order p where
  wellFormed := h
  order_eq := rfl
  line_eq := fun _ => rfl
  parent?_eq := fun _ _ => rfl
  intro_eq := fun _ _ => rfl
  mayStay := List.forall_mem_nil _

theorem Swept.isDispensable_eq (h : Swept c p kept todo q) (i : Nat) : isDispensable c q i = isDispensable c p i := by
  unfold isDispensable Page.strippedHeader Section.strippedHeader Section.header
  rw [h.line_eq i]

/-- The children that a section has are those that it had, without those that are gone. -/
theorem Swept.mem_children_iff (h : Swept c p kept todo q) (hp : p.WellFormed) :
    j ∈ q.children i <-> j ∈ q.order ∧ j ∈ p.children i := by
  rw [h.wellFormed.mem_children_iff, hp.mem_children_iff]
  constructor
  · intro hparent
    have hj := (h.wellFormed.parent_spec hparent).1
    exact ⟨hj, (h.parent?_eq j hj).symm.trans hparent⟩
  · rintro ⟨hj, hparent⟩
    exact (h.parent?_eq j hj).trans hparent

/-- What makes a section stay keeps doing so, as long as its text is not taken from it. -/
theorem MayStay.mono {q' : Page} {more : List Nat} (h : MayStay c p q kept i)
    (htext : (q.get i).intro.isBlank = false -> (q'.get i).intro.isBlank = false) :
    MayStay c p q' (kept ++ more) i := by
  rcases h with h | h | h | ⟨hhead, h⟩
  · exact Or.inl h
  · exact Or.inr (Or.inl h)
  · exact Or.inr (Or.inr (Or.inl (htext h)))
  · refine Or.inr (Or.inr (Or.inr ⟨?_, h⟩))
    rw [List.head?_append, hhead]
    rfl

/-- A section is taken out, after texts in front of it may have got longer. -/
theorem Swept.detach {r : Page} (h : Swept c p kept (i :: todo) q) (hr : r.WellFormed) (horder : r.order = q.order)
    (hparent : forall j, r.parent? j = q.parent? j) (hchildren : q.children i = [])
    (hline : forall j, (r.get j).line = (q.get j).line)
    (hintro : forall j, j ∉ kept -> (r.get j).intro = (q.get j).intro)
    (htext : forall j, (q.get j).intro.isBlank = false -> (r.get j).intro.isBlank = false) :
    Swept c p kept todo (r.detachAlone i) := by
  have hsplit : r.order = kept ++ i :: todo := horder.trans h.order_eq
  have hnone : r.children i = [] := by
    rw [hr.children_eq_filter, ← hchildren, h.wellFormed.children_eq_filter, horder]
    exact List.filter_congr fun j _ => by rw [hparent j]
  have hleft := order_detachAlone hr hsplit
  refine ⟨hr.detachAlone i, hleft, fun j => (hline j).trans (h.line_eq j), fun j hj => ?_, fun j hj => ?_,
    fun j hj => ?_⟩
  · rw [parent?_detachAlone hr hnone hj, hparent j]
    apply h.parent?_eq
    rw [hleft] at hj
    rw [h.order_eq]
    exact (List.sublist_append_right [i] todo).append_left kept |>.subset hj
  · have hnodup := h.wellFormed.nodup
    rw [h.order_eq] at hnodup
    have hfront : j ∉ kept := fun hkept =>
      (List.nodup_append.mp hnodup).2.2 j hkept j (List.mem_cons_of_mem i hj) rfl
    exact (hintro j hfront).trans (h.intro_eq j (List.mem_cons_of_mem i hj))
  · rw [← List.append_nil kept]
    exact (h.mayStay j hj).mono (htext j)

theorem Swept.mayStay_of_visit (h : Swept c p kept (i :: todo) q) (hp : p.WellFormed)
    (hstays : isEmptySection c q i = false ∨ ((q.get i).intro ≠ [] ∧ q.previous? i = none)) :
    MayStay c p q (kept ++ [i]) i := by
  have hintro := h.intro_eq i List.mem_cons_self
  cases hblank : (q.get i).intro.isBlank with
  | false => exact Or.inr (Or.inr (Or.inl hblank))
  | true =>
      rcases hstays with hnot | ⟨hne, hprevious⟩
      · rw [← Bool.not_eq_true, isEmptySection_iff] at hnot
        cases hgoes : isDispensable c p i with
        | false => exact Or.inl hgoes
        | true =>
            right; left
            intro hnone
            refine hnot ⟨(h.isDispensable_eq i).trans hgoes, ?_, isInvisible_of_isBlank hblank⟩
            rw [List.eq_nil_iff_forall_not_mem]
            intro j hj
            have hchild := ((h.mem_children_iff hp).mp hj).2
            rw [hnone] at hchild
            cases hchild
      · rw [previous?_eq_getLast? h.wellFormed h.order_eq, List.getLast?_eq_none_iff] at hprevious
        rw [hintro] at hne hblank
        exact Or.inr (Or.inr (Or.inr ⟨by rw [hprevious]; rfl, hne, hblank⟩))

/-- One visit. -/
theorem Swept.step (h : Swept c p kept (i :: todo) q) (hp : p.WellFormed) :
    exists kept', Swept c p kept' todo (pageBehind c q i) := by
  rcases pageBehind_cases c q i with ⟨hchildren, _, heq⟩ | ⟨hchildren, previous, hprevious, heq⟩ | ⟨heq, hstays⟩
  · rw [heq]
    exact ⟨kept, h.detach h.wellFormed rfl (fun _ => rfl) hchildren (fun _ => rfl) (fun _ _ => rfl) fun _ => id⟩
  · rw [heq]
    have hmem : previous ∈ kept := by
      rw [previous?_eq_getLast? h.wellFormed h.order_eq] at hprevious
      exact List.mem_of_getLast? hprevious
    refine ⟨kept, h.detach (wellFormed_addIntro h.wellFormed _ _) rfl (fun _ => rfl) hchildren (line_addIntro q _ _)
      (fun j hj => ?_) (fun j => isBlank_addIntro q _ _)⟩
    rw [get_addIntro, if_neg]
    rintro ⟨rfl, _⟩
    exact hj hmem
  · rw [heq]
    refine ⟨kept ++ [i], h.wellFormed, ?_, h.line_eq, h.parent?_eq,
      fun j hj => h.intro_eq j (List.mem_cons_of_mem i hj), fun j hj => ?_⟩
    · rw [h.order_eq, List.append_assoc, List.singleton_append]
    · rcases List.mem_append.mp hj with hj | hj
      · exact (h.mayStay j hj).mono id
      · rw [List.mem_singleton.mp hj]
        exact h.mayStay_of_visit hp hstays

/-- A run of visits, by induction on the sections still to come. -/
theorem Swept.exists_foldl (hp : p.WellFormed) (h : Swept c p kept todo q) :
    exists kept', Swept c p kept' [] (todo.foldl (pageBehind c) q) := by
  induction todo generalizing kept q with
  | nil => exact ⟨kept, h⟩
  | cons i todo ih =>
      rcases h.step hp with ⟨_, hnext⟩
      rw [List.foldl_cons]
      exact ih hnext

/-- A section that is left is vacant just when its text is gone, and all that stood below it; and it had something below
it, or it is the first of those left and had white space alone. -/
theorem isVacant_removeAllEmpty_iff (hp : p.WellFormed) (hi : i ∈ (removeAllEmpty c p).1.order) :
    isVacant c (removeAllEmpty c p).1 i = true <->
      isDispensable c p i = true ∧ ((removeAllEmpty c p).1.get i).intro = [] ∧
        (forall j, j ∈ p.children i -> j ∉ (removeAllEmpty c p).1.order) ∧
        (p.children i ≠ [] ∨ ((removeAllEmpty c p).1.order.head? = some i ∧ (p.get i).intro ≠ [] ∧
          (p.get i).intro.isBlank = true)) := by
  rw [fst_removeAllEmpty] at hi ⊢
  generalize hend : p.order.foldl (pageBehind c) p = q at hi ⊢
  rcases hend ▸ (Swept.start hp).exists_foldl hp with ⟨kept, h⟩
  have horder : q.order = kept := h.order_eq.trans (List.append_nil kept)
  have hgone : q.children i = [] <-> forall j, j ∈ p.children i -> j ∉ q.order := by
    rw [List.eq_nil_iff_forall_not_mem]
    refine forall_congr' fun j => ?_
    rw [h.mem_children_iff hp, not_and']
  rw [isVacant_iff, h.isDispensable_eq i, hgone]
  constructor
  · rintro ⟨hdispensable, hchildren, hintro⟩
    refine ⟨hdispensable, hintro, hchildren, ?_⟩
    rcases h.mayStay i (horder ▸ hi) with hnot | hparent | hseen | hfirst
    · rw [hdispensable] at hnot
      cases hnot
    · exact Or.inl hparent
    · rw [hintro] at hseen
      cases hseen
    · exact Or.inr (horder ▸ hfirst)
  · exact fun ⟨hdispensable, hintro, hchildren, _⟩ => ⟨hdispensable, hchildren, hintro⟩

end Walk

end SuperfluousSections

/-!
# The rule
-/

namespace Rule

open SuperfluousSections

/-- On a page with a language the rule ends with the page behind the walk.  A standard section of that page has neither
a text nor children just when those it had are all gone, or when it is the first section left, and had white space
alone. -/
theorem emptySections_leaves_vacant_iff {x : Context} {t : Text} {p : Page} (hread : x.read t = .ok p)
    (hlanguages : p.languages ≠ []) :
    exists q removed, removeAllEmpty x.config p = (q, removed) ∧
      emptySections.run x t = .ok (if removed.isEmpty then none
        else Outcome.ofPage? t q ("eliminando secciones vacías: " ++ Text.joinWith ", " removed)) ∧
      forall i, i ∈ q.order ->
        (isVacant x.config q i = true <->
          isDispensable x.config p i = true ∧ (q.get i).intro = [] ∧ (forall j, j ∈ p.children i -> j ∉ q.order) ∧
            (p.children i ≠ [] ∨
              (q.order.head? = some i ∧ (p.get i).intro ≠ [] ∧ (p.get i).intro.isBlank = true))) := by
  refine ⟨(removeAllEmpty x.config p).1, (removeAllEmpty x.config p).2, rfl, ?_, fun i hi =>
    isVacant_removeAllEmpty_iff (Page.wellFormed_read hread) hi⟩
  have hsome : p.languages.isEmpty = false := by simpa using hlanguages
  show (x.read t >>= _) = _
  rw [hread]
  show (if p.languages.isEmpty then _ else _) = _
  rw [hsome]
  rfl

/-- An empty section stands below another one, and nothing else does. -/
def entryWithNestedEmptySections : Text :=
  "==\x7b\x7blengua|es\x7d\x7d==\n===Véase también===\n====Traducciones===="

theorem emptySections_leaves_vacant_iff_entryWithNestedEmptySections :
    exists x p, x.read entryWithNestedEmptySections = .ok p ∧ p.languages ≠ [] ∧
      exists q removed, removeAllEmpty x.config p = (q, removed) ∧
        emptySections.run x entryWithNestedEmptySections = .ok (if removed.isEmpty then none
          else Outcome.ofPage? entryWithNestedEmptySections q
            ("eliminando secciones vacías: " ++ Text.joinWith ", " removed)) ∧
        forall i, i ∈ q.order ->
          (isVacant x.config q i = true <->
            isDispensable x.config p i = true ∧ (q.get i).intro = [] ∧ (forall j, j ∈ p.children i -> j ∉ q.order) ∧
              (p.children i ≠ [] ∨
                (q.order.head? = some i ∧ (p.get i).intro ≠ [] ∧ (p.get i).intro.isBlank = true))) := by
  have hread : (Context.read ⟨.builtin, "t", false⟩ entryWithNestedEmptySections).map Page.languages = .ok [0] := by
    decide +kernel
  rcases exists_of_map_eq_ok hread with ⟨p, hp, hlanguages⟩
  have hsome : p.languages ≠ [] := by simp [hlanguages]
  exact ⟨⟨.builtin, "t", false⟩, p, hp, hsome, emptySections_leaves_vacant_iff hp hsome⟩

/-- A page that the rule ends with may have a standard section without children and without a text. -/
theorem not_forall_not_isVacant :
    ¬ forall (x : Context) (t : Text) (p : Page), x.read t = .ok p -> p.languages ≠ [] ->
      forall i, i ∈ (removeAllEmpty x.config p).1.order ->
        isVacant x.config (removeAllEmpty x.config p).1 i = false := by
  intro h
  have hfacts : (Context.read ⟨.builtin, "t", false⟩ entryWithNestedEmptySections).map (fun p =>
      (p.languages, (removeAllEmpty .builtin p).1.order, isVacant .builtin (removeAllEmpty .builtin p).1 1)) =
        .ok ([0], [0, 1], true) := by
    decide +kernel
  rcases exists_of_map_eq_ok hfacts with ⟨p, hp, hfacts⟩
  simp only [Prod.mk.injEq] at hfacts
  have hvacant := h ⟨.builtin, "t", false⟩ entryWithNestedEmptySections p hp (by simp [hfacts.1]) 1
    (by simp [hfacts.2.1])
  rw [hfacts.2.2] at hvacant
  cases hvacant

end Rule
end WikiEntry
