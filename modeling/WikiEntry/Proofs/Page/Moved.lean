import WikiEntry.Proofs.Page.Failure
import WikiEntry.Proofs.Page.Rows

/-!
# Moving subtrees disturbs nothing else

Sections that are taken out or moved take along what lies below them, and nothing else.  What stays keeps its parent,
since a parent stays if a section below it does; and where a row of subtrees is put behind a subtree whose root is no
deeper than they are, it comes between sections that it takes nothing from.
-/

namespace WikiEntry
namespace Page

open Outline

/-!
# The moved sections
-/

theorem removeAll_flatMap {f : Nat -> List Nat} {i : Nat} {ids : List Nat}
    (hapart : forall j, j ∈ ids -> forall k, k ∈ f i -> k ∈ f j -> i = j) :
    (ids.flatMap f).removeAll (f i) = (ids.filter fun j => !j == i).flatMap f := by
  induction ids with
  | nil => rfl
  | cons j ids ih =>
      rcases List.forall_mem_cons.mp hapart with ⟨hj, hids⟩
      have hrest := ih hids
      unfold List.removeAll at hrest ⊢
      rw [List.flatMap_cons, List.filter_append, hrest]
      by_cases hij : j = i
      · have hnone : ((f j).filter fun k => !(f i).elem k) = [] :=
          List.filter_eq_nil_iff.mpr fun k hk => by simpa [hij] using hij ▸ hk
        rw [hnone, List.filter_cons_of_neg (by simp [hij]), List.nil_append]
      · have hall : ((f j).filter fun k => !(f i).elem k) = f j :=
          List.filter_eq_self.mpr fun k hk => by
            have hnot : k ∉ f i := fun hki => hij (hj k hki hk).symm
            simpa using hnot
        rw [hall, List.filter_cons_of_pos (by simpa using hij), List.flatMap_cons]

/-- Repetitions may be dropped before or after each section is replaced by its own list. -/
theorem eraseDups_flatMap {f : Nat -> List Nat} {ids : List Nat} (hnodup : forall i, i ∈ ids -> (f i).Nodup)
    (hapart : forall i, i ∈ ids -> forall j, j ∈ ids -> forall k, k ∈ f i -> k ∈ f j -> i = j) :
    (ids.flatMap f).eraseDups = ids.eraseDups.flatMap f := by
  induction hl : ids.length using Nat.strongRecOn generalizing ids with
  | ind n ih =>
      cases ids with
      | nil => rfl
      | cons i ids =>
          rcases List.forall_mem_cons.mp hnodup with ⟨hi, hids⟩
          have hsub : forall j, j ∈ (ids.filter fun j => !j == i) -> j ∈ i :: ids :=
            fun j hj => List.mem_cons_of_mem i (List.mem_filter.mp hj).1
          have hlength : (ids.filter fun j => !j == i).length < n := by
            have hle := List.length_filter_le (fun j => !j == i) ids
            rw [List.length_cons] at hl
            omega
          have hrest := ih _ hlength (fun j hj => hnodup j (hsub j hj))
            (fun j hj k hk => hapart j (hsub j hj) k (hsub k hk)) rfl
          rw [List.flatMap_cons, List.eraseDups_append, eraseDups_of_nodup hi,
            removeAll_flatMap fun j hj => hapart i List.mem_cons_self j (List.mem_cons_of_mem i hj), hrest,
            List.eraseDups_cons, List.flatMap_cons]

namespace WellFormed

variable {p q r : Page} {i j k x n : Nat} {ids : List Nat}

/-- What is moved is a row of subtrees, if all sections that are named stand on one level. -/
theorem subtrees_eq_flatMap (h : p.WellFormed) (hlevel : forall i, i ∈ ids -> p.level i = n) :
    p.subtrees ids = ids.eraseDups.flatMap p.subtree := by
  refine eraseDups_flatMap (fun i _ => h.nodup_subtree i) ?_
  intro i hi j hj k hki hkj
  exact h.subtree_disjoint ((hlevel i hi).trans (hlevel j hj).symm) hki hkj

theorem mem_subtrees_iff : k ∈ p.subtrees ids <-> exists i, i ∈ ids ∧ k ∈ p.subtree i := by
  rw [subtrees, List.mem_eraseDups, List.mem_flatMap]

theorem le_level_of_mem_subtrees (h : p.WellFormed) (hlevel : forall i, i ∈ ids -> p.level i = n)
    (hk : k ∈ p.subtrees ids) : n ≤ p.level k := by
  rcases mem_subtrees_iff.mp hk with ⟨i, hi, hsub⟩
  rw [← hlevel i hi]
  rcases List.mem_cons.mp hsub with rfl | hbelow
  · exact Nat.le_refl _
  · exact Nat.le_of_lt (h.level_lt_of_mem_descendants hbelow)

/-- A section that is not deeper than those that are moved is moved only if it is one of them. -/
theorem mem_of_mem_subtrees_of_le (h : p.WellFormed) (hlevel : forall i, i ∈ ids -> p.level i = n) (hk : p.level k ≤ n)
    (hmem : k ∈ p.subtrees ids) : k ∈ ids := by
  rcases mem_subtrees_iff.mp hmem with ⟨i, hi, hsub⟩
  rcases List.mem_cons.mp hsub with rfl | hbelow
  · exact hi
  · have hlt := h.level_lt_of_mem_descendants hbelow
    rw [hlevel i hi] at hlt
    exact absurd hk (Nat.not_le.mpr hlt)

/-!
# Taking subtrees out
-/

/-- What stays keeps its parent, if what is taken out takes along all that lies below it. -/
theorem parent?_without (h : p.WellFormed) {removed : List Nat}
    (hclosed : forall j k, p.parent? j = some k -> k ∈ removed -> j ∈ removed)
    (hj : j ∈ p.without removed) : (p.setOrder (p.without removed)).parent? j = p.parent? j := by
  refine h.parent?_eq_of_filter (h.without removed) rfl rfl hj ?_
  intro k hk
  have hnot : k ∉ removed := fun hmem => (mem_without.mp hj).2 (hclosed j k hk hmem)
  simpa using hnot

theorem parent?_detach (h : p.WellFormed) (i : Nat) (hj : j ∈ (p.detach i).order) :
    (p.detach i).parent? j = p.parent? j :=
  h.parent?_without (fun _ _ hp hk => h.mem_subtree_of_parent? hp hk) hj

theorem parent?_withoutSubtrees (h : p.WellFormed) (ids : List Nat) (hj : j ∈ p.without (p.subtrees ids)) :
    (p.setOrder (p.without (p.subtrees ids))).parent? j = p.parent? j := by
  refine h.parent?_without ?_ hj
  intro j k hp hk
  rcases mem_subtrees_iff.mp hk with ⟨i, hi, hsub⟩
  exact mem_subtrees_iff.mpr ⟨i, hi, h.mem_subtree_of_parent? hp hsub⟩

/-!
# The place behind a subtree
-/

/-- The last of the places of some sections that stand together. -/
theorem max?_position? (hn : r.order.Nodup) {front stays back ids : List Nat} (horder : r.order = front ++ (stays ++ back))
    (hne : stays ≠ []) (hstays : forall k, k ∈ stays -> k ∈ ids) (hids : forall k, k ∈ ids -> k ∈ r.order -> k ∈ stays) :
    (ids.filterMap r.position?).max? = some (front.length + stays.length - 1) := by
  have hpositive : 0 < stays.length := List.length_pos_of_ne_nil hne
  have hget : forall m, m < stays.length -> r.order[front.length + m]? = stays[m]? := by
    intro m hm
    rw [horder, List.getElem?_append_right (Nat.le_add_right _ _), Nat.add_sub_cancel_left,
      List.getElem?_append_left hm]
  rw [List.max?_eq_some_iff]
  constructor
  · have hlast : r.order[front.length + (stays.length - 1)]? = some (stays.getLast hne) := by
      rw [hget _ (by omega), List.getLast_eq_getElem, List.getElem?_eq_getElem]
    refine List.mem_filterMap.mpr ⟨stays.getLast hne, hstays _ (List.getLast_mem hne), ?_⟩
    rw [position?, ← Nat.add_sub_assoc hpositive] at *
    rcases List.getElem?_eq_some_iff.mp hlast with ⟨hlt, heq⟩
    refine List.idxOf?_eq_some_iff.mpr ⟨hlt, heq, fun m hm hsame => ?_⟩
    have := (List.Nodup.getElem_inj_iff hn).mp (hsame.trans heq.symm)
    omega
  · intro m hm
    rcases List.mem_filterMap.mp hm with ⟨k, hk, hpos⟩
    rcases List.idxOf?_eq_some_iff.mp hpos with ⟨hlt, heq, _⟩
    have hmem : k ∈ stays := hids k hk (heq ▸ List.getElem_mem hlt)
    rcases List.mem_iff_getElem.mp hmem with ⟨m', hm', heq'⟩
    have hplace : front.length + m' < r.order.length := by
      rw [horder, List.length_append, List.length_append]
      omega
    have hsame : r.order[front.length + m'] = k := by
      have h := hget m' hm'
      rw [List.getElem?_eq_getElem hplace, List.getElem?_eq_getElem hm', heq'] at h
      exact Option.some.inj h
    have := (List.Nodup.getElem_inj_iff hn).mp (hsame.trans heq.symm)
    omega

end WellFormed

/-!
# Moving a row behind a subtree
-/

/-- The order without the moved sections: what is left of the subtree of `x`, between the parts in front and behind. -/
structure Stays (p : Page) (x : Nat) (ids front stays back : List Nat) : Prop where
  rest_eq : p.without (p.subtrees ids) = front ++ ((x :: stays) ++ back)
  stays_eq : x :: stays = (p.subtree x).filter fun k => !(p.subtrees ids).contains k
  not_mem_subtree : forall k, k ∈ front ++ back -> k ∉ p.subtree x

/-- The moved sections stand behind what is left of the subtree of `x`. -/
def putBehind (p : Page) (x : Nat) (ids front stays back : List Nat) : Page :=
  p.setOrder (front ++ ((x :: stays) ++ (p.subtrees ids ++ back)))

theorem WellFormed.exists_stays {p : Page} (h : p.WellFormed) {x : Nat} (hx : x ∈ p.order) {ids : List Nat}
    (hstay : x ∉ p.subtrees ids) : exists front stays back, p.Stays x ids front stays back := by
  rcases h.order_eq_append hx with ⟨before, behind, heq⟩
  let keep : Nat -> Bool := fun k => !(p.subtrees ids).contains k
  have hkeep : keep x = true := by simpa [keep] using hstay
  have hstays : x :: (p.descendants x).filter keep = (p.subtree x).filter keep := by
    rw [subtree, List.filter_cons_of_pos hkeep]
  refine ⟨before.filter keep, (p.descendants x).filter keep, behind.filter keep, ?_, hstays, ?_⟩
  · rw [Page.without, heq, List.filter_append, List.filter_append, hstays]
  · have hn := h.nodup
    rw [heq] at hn
    rcases List.nodup_append.mp hn with ⟨_, hn, hfront⟩
    intro k hk hsub
    rcases List.mem_append.mp hk with hk | hk
    · exact hfront k (List.mem_filter.mp hk).1 k (List.mem_append_left _ hsub) rfl
    · exact (List.nodup_append.mp hn).2.2 k hsub k (List.mem_filter.mp hk).1 rfl

namespace Stays

variable {p : Page} {b j k l x n : Nat} {ids front stays back : List Nat}

theorem mem_subtree (hs : p.Stays x ids front stays back) (hk : k ∈ x :: stays) : k ∈ p.subtree x := by
  rw [hs.stays_eq] at hk
  exact (List.mem_filter.mp hk).1

theorem level_lt (hs : p.Stays x ids front stays back) (h : p.WellFormed) (hk : k ∈ stays) : p.level x < p.level k := by
  refine h.level_lt_of_mem_descendants ((List.mem_cons.mp (hs.mem_subtree (List.mem_cons_of_mem x hk))).resolve_left ?_)
  rintro rfl
  have hn := h.nodup_subtree k
  have hfiltered := hn.filter fun j => !(p.subtrees ids).contains j
  rw [← hs.stays_eq] at hfiltered
  exact (List.nodup_cons.mp hfiltered).1 hk

theorem mem_without (hs : p.Stays x ids front stays back) :
    k ∈ p.without (p.subtrees ids) <-> k ∈ front ∨ k ∈ x :: stays ∨ k ∈ back := by
  rw [hs.rest_eq, List.mem_append, List.mem_append]

/-- The moved sections are put behind what stays. -/
theorem insertBehind_eq (hs : p.Stays x ids front stays back) (h : p.WellFormed) (f : TreeFault) :
    p.insertBehind ids (·.lastPosition? x) f = ⟨p.putBehind x ids front stays back, none⟩ := by
  have hanchor : ({ p with order := p.without (p.subtrees ids) } : Page).lastPosition? x =
      some (front.length + (x :: stays).length - 1) := by
    refine WellFormed.max?_position? (r := { p with order := p.without (p.subtrees ids) }) (h.nodup.filter _) hs.rest_eq
      (List.cons_ne_nil _ _) (fun k hk => hs.mem_subtree hk) ?_
    intro k hk hmem
    rw [hs.stays_eq]
    exact List.mem_filter.mpr ⟨hk, (List.mem_filter.mp hmem).2⟩
  have htake : front.length + (x :: stays).length - 1 + 1 = (front ++ (x :: stays)).length := by
    rw [List.length_append, List.length_cons]
    omega
  simp only [insertBehind, hanchor, htake]
  rw [hs.rest_eq, ← List.append_assoc, List.take_left, List.drop_left, putBehind]
  simp only [List.append_assoc]

theorem wellFormed_putBehind (hs : p.Stays x ids front stays back) (h : p.WellFormed)
    (hmade : forall i, i ∈ ids -> i < p.sections.length) : (p.putBehind x ids front stays back).WellFormed := by
  have hmove := h.move hmade (hs.rest_eq.trans (List.append_assoc _ _ _).symm)
  simp only [List.append_assoc] at hmove
  exact hmove

/-- What follows `x` in the page without the moved sections would lie below `x` there, and so here, if it were deeper. -/
theorem level_le (hs : p.Stays x ids front stays back) (h : p.WellFormed) (hb : back.head? = some b) :
    p.level b ≤ p.level x := by
  have hwithout := h.without (p.subtrees ids)
  have horder : (p.setOrder (p.without (p.subtrees ids))).order = front ++ x :: (stays ++ back) := hs.rest_eq
  rcases List.head?_eq_some_iff.mp hb with ⟨behind, rfl⟩
  refine Nat.le_of_not_lt fun hlt => ?_
  have hbelow : b ∈ (p.setOrder (p.without (p.subtrees ids))).descendants x := by
    have hall : (b :: behind).takeWhile (fun k => p.level x < p.level k) =
        b :: behind.takeWhile fun k => p.level x < p.level k :=
      List.takeWhile_cons_of_pos (by simpa using hlt)
    rw [hwithout.descendants_eq_append horder fun k hk => hs.level_lt h hk]
    refine List.mem_append_right _ ?_
    show b ∈ (b :: behind).takeWhile fun k => p.level x < p.level k
    rw [hall]
    exact List.mem_cons_self
  have hsub := h.mem_descendants_of_parent?_eq hwithout (fun k hk => h.parent?_withoutSubtrees ids hk) hbelow
  exact hs.not_mem_subtree b (List.mem_append_right _ List.mem_cons_self) (List.mem_cons_of_mem x hsub)

/-- What is not moved keeps its parent. -/
theorem parent?_putBehind (hs : p.Stays x ids front stays back) (h : p.WellFormed)
    (hmade : forall i, i ∈ ids -> i < p.sections.length) (hlevel : forall i, i ∈ ids -> p.level i = n)
    (hle : p.level x ≤ n) (hj : j ∉ p.subtrees ids) : (p.putBehind x ids front stays back).parent? j = p.parent? j := by
  have hq := hs.wellFormed_putBehind h hmade
  have horder : (p.putBehind x ids front stays back).order = (front ++ (x :: stays)) ++ (p.subtrees ids ++ back) :=
    (List.append_assoc _ _ _).symm
  by_cases hmem : j ∈ p.order
  · have hstays := Page.mem_without.mpr ⟨hmem, hj⟩
    rw [← h.parent?_withoutSubtrees ids hstays]
    refine hq.parent?_eq_of_insert (h.without _) rfl horder (hs.rest_eq.trans (List.append_assoc _ _ _).symm) ?_ hstays
    intro b hb k hk
    have hlow := hs.level_le h hb
    have hhigh := h.le_level_of_mem_subtrees hlevel hk
    show p.level b ≤ p.level k
    omega
  · have hnot : j ∉ (p.putBehind x ids front stays back).order := by
      rw [horder, List.append_assoc, List.mem_append, List.mem_append, List.mem_append]
      have hrest := mt hs.mem_without.mpr fun hstays => hmem (Page.mem_without.mp hstays).1
      simp only [not_or] at hrest ⊢
      exact ⟨hrest.1, hrest.2.1, hj, hrest.2.2⟩
    rw [h.parent?_of_not_mem hmem, hq.parent?_of_not_mem hnot]

/-- What is moved keeps what lies below it, and its parent is the last shallower section in front of it. -/
theorem descendants_and_parent?_putBehind (hs : p.Stays x ids front stays back) (h : p.WellFormed)
    (hmade : forall i, i ∈ ids -> i < p.sections.length) (hlevel : forall i, i ∈ ids -> p.level i = n)
    (hle : p.level x ≤ n) (hl : l ∈ ids) :
    (p.putBehind x ids front stays back).descendants l = p.descendants l ∧
      (p.putBehind x ids front stays back).parent? l = lastShallower p.level n (front ++ (x :: stays)) := by
  have hheads : forall i, i ∈ ids.eraseDups -> p.level i = n := fun i hi => hlevel i (List.mem_eraseDups.mp hi)
  have horder : (p.putBehind x ids front stays back).order =
      (front ++ (x :: stays)) ++ (ids.eraseDups.flatMap (fun l => l :: p.descendants l) ++ back) := by
    show front ++ ((x :: stays) ++ (p.subtrees ids ++ back)) = _
    rw [h.subtrees_eq_flatMap hlevel, List.append_assoc]
    rfl
  rw [← hlevel l hl]
  refine (hs.wellFormed_putBehind h hmade).descendants_and_parent?_row horder ?_ ?_ ?_ l (List.mem_eraseDups.mpr hl)
  · refine List.pairwise_of_forall_mem_list fun i hi j hj => ?_
    exact Nat.le_of_eq ((hheads j hj).trans (hheads i hi).symm)
  · exact fun l _ k hk => h.level_lt_of_mem_descendants hk
  · intro b hb l hl
    have hlow := hs.level_le h hb
    have hhigh := hheads l hl
    show p.level b ≤ p.level l
    omega

/-!
# The children after a move
-/

section Children

variable {above : Option Nat}

/-- A section with a parent that is shallower than the moved ones is moved only if it is one of them. -/
theorem mem_ids_iff (h : p.WellFormed) (hlevel : forall i, i ∈ ids -> p.level i = n)
    (habove : forall y, above = some y -> p.level y < n) (hj : p.parent? j = above) : j ∈ p.subtrees ids <-> j ∈ ids := by
  constructor
  · intro hmem
    rcases WellFormed.mem_subtrees_iff.mp hmem with ⟨i, hi, hsub⟩
    rcases List.mem_cons.mp hsub with rfl | hbelow
    · exact hi
    · cases above with
      | none => exact absurd hbelow (h.not_mem_descendants_of_parent?_eq_none hj)
      | some y =>
          have hlt := habove y rfl
          rcases (h.mem_descendants_iff_of_parent? hj).mp hbelow with rfl | hy
          · rw [hlevel i hi] at hlt
            exact absurd hlt (Nat.lt_irrefl n)
          · have hdeeper := h.level_lt_of_mem_descendants hy
            rw [hlevel i hi] at hdeeper
            exact absurd hlt (Nat.lt_asymm hdeeper)
  · exact mem_subtrees

theorem filter_childrenUnder (hs : p.Stays x ids front stays back) (h : p.WellFormed)
    (hlevel : forall i, i ∈ ids -> p.level i = n) (habove : forall y, above = some y -> p.level y < n) :
    (p.childrenUnder above).filter (fun j => !ids.contains j) =
      front.filter (fun j => p.parent? j == above) ++ (x :: stays).filter (fun j => p.parent? j == above) ++
        back.filter fun j => p.parent? j == above := by
  have hrest : (p.childrenUnder above).filter (fun j => !ids.contains j) =
      (p.without (p.subtrees ids)).filter fun j => p.parent? j == above := by
    rw [h.childrenUnder_eq_filter, Page.without, List.filter_filter, List.filter_filter]
    refine List.filter_congr fun j _ => ?_
    cases hj : p.parent? j == above with
    | false => rw [Bool.and_false, Bool.false_and]
    | true =>
        have hiff := mem_ids_iff h hlevel habove (beq_iff_eq.mp hj)
        rw [Bool.and_true, Bool.true_and, Bool.eq_iff_iff]
        simp [hiff]
  rw [hrest, hs.rest_eq, List.filter_append, List.filter_append, List.append_assoc]

theorem childrenUnder_putBehind (hs : p.Stays x ids front stays back) (h : p.WellFormed)
    (hmade : forall i, i ∈ ids -> i < p.sections.length) (hlevel : forall i, i ∈ ids -> p.level i = n)
    (hle : p.level x ≤ n) (hlast : lastShallower p.level n (front ++ (x :: stays)) = above) :
    (p.putBehind x ids front stays back).childrenUnder above =
      front.filter (fun j => p.parent? j == above) ++ (x :: stays).filter (fun j => p.parent? j == above) ++
        (ids.eraseDups ++ back.filter fun j => p.parent? j == above) := by
  have hq := hs.wellFormed_putBehind h hmade
  have hkept : forall part : List Nat, (forall j, j ∈ part -> j ∈ p.without (p.subtrees ids)) ->
      part.filter (fun j => (p.putBehind x ids front stays back).parent? j == above) =
        part.filter fun j => p.parent? j == above := by
    intro part hpart
    refine List.filter_congr fun j hj => ?_
    rw [hs.parent?_putBehind h hmade hlevel hle (Page.mem_without.mp (hpart j hj)).2]
  have hmoved : (p.subtrees ids).filter (fun j => (p.putBehind x ids front stays back).parent? j == above) =
      ids.eraseDups := by
    have hheads : forall l, l ∈ ids.eraseDups ->
        (p.putBehind x ids front stays back).subtree l = p.subtree l ∧
          (p.putBehind x ids front stays back).parent? l = above := by
      intro l hl
      rcases hs.descendants_and_parent?_putBehind h hmade hlevel hle (List.mem_eraseDups.mp hl) with ⟨hbelow, hparent⟩
      exact ⟨congrArg (List.cons l) hbelow, hparent.trans hlast⟩
    have hsame : ids.eraseDups.flatMap p.subtree =
        ids.eraseDups.flatMap (p.putBehind x ids front stays back).subtree :=
      congrArg List.flatten (List.map_congr_left fun l hl => (hheads l hl).1.symm)
    rw [h.subtrees_eq_flatMap hlevel, hsame]
    exact hq.filter_parent?_row fun l hl => (hheads l hl).2
  have horder : (p.putBehind x ids front stays back).order = front ++ ((x :: stays) ++ (p.subtrees ids ++ back)) := rfl
  rw [hq.childrenUnder_eq_filter, horder, List.filter_append, List.filter_append, List.filter_append, hmoved,
    hkept front fun j hj => hs.mem_without.mpr (Or.inl hj),
    hkept (x :: stays) fun j hj => hs.mem_without.mpr (Or.inr (Or.inl hj)),
    hkept back fun j hj => hs.mem_without.mpr (Or.inr (Or.inr hj)), List.append_assoc]

/-- Nothing behind the subtree of `x` has `x` for its parent. -/
theorem filter_back (hs : p.Stays x ids front stays back) (h : p.WellFormed) :
    back.filter (fun j => p.parent? j == some x) = [] := by
  refine List.filter_eq_nil_iff.mpr fun j hj hp => ?_
  exact hs.not_mem_subtree j (List.mem_append_right _ hj)
    (h.mem_subtree_of_parent? (beq_iff_eq.mp hp) List.mem_cons_self)

/-- Of what stays below `x`, only `x` has the parent of `x`. -/
theorem filter_stays (hs : p.Stays x ids front stays back) (h : p.WellFormed) :
    (x :: stays).filter (fun j => p.parent? j == p.parent? x) = [x] := by
  have hx : (!(p.subtrees ids).contains x) = true := by
    have hmem : x ∈ x :: stays := List.mem_cons_self
    rw [hs.stays_eq] at hmem
    exact (List.mem_filter.mp hmem).2
  have hcomm : ((p.subtree x).filter fun k => !(p.subtrees ids).contains k).filter (fun j => p.parent? j == p.parent? x) =
      ((p.subtree x).filter fun j => p.parent? j == p.parent? x).filter fun k => !(p.subtrees ids).contains k := by
    rw [List.filter_filter, List.filter_filter]
    exact List.filter_congr fun k _ => Bool.and_comm _ _
  rw [hs.stays_eq, hcomm, h.filter_parent?_subtree rfl]
  exact List.filter_cons_of_pos hx

end Children

/-!
# The last shallower section behind which the row is put
-/

theorem lastShallower_stays (hs : p.Stays x ids front stays back) (h : p.WellFormed) (hle : n ≤ p.level x) :
    lastShallower p.level n (front ++ (x :: stays)) = lastShallower p.level n front := by
  have hnone : lastShallower p.level n (x :: stays) = none := by
    refine lastShallower_eq_none fun k hk => ?_
    rcases List.mem_cons.mp (hs.mem_subtree hk) with rfl | hbelow
    · exact hle
    · exact Nat.le_trans hle (Nat.le_of_lt (h.level_lt_of_mem_descendants hbelow))
  rw [lastShallower_append, hnone, Option.none_or]

theorem lastShallower_parent (hs : p.Stays x ids front stays back) (h : p.WellFormed) (hn : n = p.level x + 1) :
    lastShallower p.level n (front ++ (x :: stays)) = some x := by
  have hdeeper : lastShallower p.level n stays = none := by
    refine lastShallower_eq_none fun k hk => ?_
    have hlt := hs.level_lt h hk
    omega
  have hx : lastShallower p.level n [x] = some x := by
    have hlt : p.level x < n := by omega
    simp [lastShallower, hlt]
  rw [← List.singleton_append, ← List.append_assoc, lastShallower_append, hdeeper, Option.none_or, lastShallower_append, hx]
  rfl

end Stays

/-!
# Reachable pages
-/

/-- The sections `ids` were moved with what lies below them, and everything else is as it was. -/
structure MovesOnly (p q : Page) (ids : List Nat) : Prop where
  sections_eq : q.sections = p.sections
  mem_order_iff : forall j, j ∈ q.order <-> j ∈ p.order ∨ j ∈ p.subtrees ids
  without_eq : q.without (p.subtrees ids) = p.without (p.subtrees ids)
  below_eq : forall i, i ∈ ids -> q.below i = p.below i
  parent?_eq : forall j, j ∉ p.subtrees ids -> q.parent? j = p.parent? j

theorem Stays.movesOnly {p : Page} {x n : Nat} {ids front stays back : List Nat} (hs : p.Stays x ids front stays back)
    (h : p.WellFormed) (hmade : forall i, i ∈ ids -> i < p.sections.length) (hlevel : forall i, i ∈ ids -> p.level i = n)
    (hle : p.level x ≤ n) : p.MovesOnly (p.putBehind x ids front stays back) ids where
  sections_eq := rfl
  mem_order_iff := by
    intro j
    have horder : (p.putBehind x ids front stays back).order = front ++ ((x :: stays) ++ (p.subtrees ids ++ back)) := rfl
    have hrest : (j ∈ p.order ∧ j ∉ p.subtrees ids) <-> j ∈ front ∨ j ∈ x :: stays ∨ j ∈ back :=
      Page.mem_without.symm.trans hs.mem_without
    rw [horder, List.mem_append, List.mem_append, List.mem_append]
    tauto
  without_eq := by
    have hnone : ((p.subtrees ids).filter fun j => !(p.subtrees ids).contains j) = [] :=
      List.filter_eq_nil_iff.mpr fun j hj => by simpa using hj
    have hkept : (p.without (p.subtrees ids)).filter (fun j => !(p.subtrees ids).contains j) =
        p.without (p.subtrees ids) :=
      List.filter_eq_self.mpr fun j hj => (List.mem_filter.mp hj).2
    show (front ++ ((x :: stays) ++ (p.subtrees ids ++ back))).filter (fun j => !(p.subtrees ids).contains j) = _
    rw [List.filter_append, List.filter_append, List.filter_append, hnone, List.nil_append, ← List.filter_append,
      ← List.filter_append, ← hs.rest_eq, hkept]
  below_eq := fun _ hi => h.below_eq_of_descendants_eq (hs.wellFormed_putBehind h hmade) rfl
    (hs.descendants_and_parent?_putBehind h hmade hlevel hle hi).1
  parent?_eq := fun _ hj => hs.parent?_putBehind h hmade hlevel hle hj

/-- Where nothing is moved, the page is put together as it was. -/
theorem Stays.putBehind_nil {p : Page} {x : Nat} {front stays back : List Nat} (hs : p.Stays x [] front stays back)
    (h : p.WellFormed) : p.putBehind x [] front stays back = p := by
  have horder : front ++ ((x :: stays) ++ (p.subtrees [] ++ back)) = p.order := by
    rw [show p.subtrees [] = [] from rfl, List.nil_append, ← hs.rest_eq]
    exact List.filter_eq_self.mpr fun _ _ => rfl
  rw [putBehind, horder, h.setOrder_order]

theorem Stays.moveBehind_eq {p : Page} {x : Nat} {ids front stays back : List Nat} (hs : p.Stays x ids front stays back)
    (h : p.WellFormed) (f : TreeFault) :
    p.moveBehind ids none (·.lastPosition? x) f = ⟨p.putBehind x ids front stays back, none⟩ := by
  unfold moveBehind
  cases ids with
  | nil =>
      rw [hs.putBehind_nil h]
      rfl
  | cons i ids => exact hs.insertBehind_eq h f

theorem WellFormed.exists_appendChildren {p : Page} (h : p.WellFormed) {x : Nat} (hx : x ∈ p.order) {ids : List Nat}
    (hids : forall i, i ∈ ids -> i < p.sections.length ∧ p.level i = p.level x + 1) :
    exists q, p.appendChildren x ids = ⟨q, none⟩ ∧ p.MovesOnly q ids ∧
      q.children x = (p.children x).filter (fun j => !ids.contains j) ++ ids.eraseDups := by
  have hmade : forall i, i ∈ ids -> i < p.sections.length := fun i hi => (hids i hi).1
  have hlevel : forall i, i ∈ ids -> p.level i = p.level x + 1 := fun i hi => (hids i hi).2
  have hstay : x ∉ p.subtrees ids := by
    intro hmem
    have hle := h.le_level_of_mem_subtrees hlevel hmem
    omega
  have hrefused : p.notDeeper? x ids = none := by
    have hnone : ids.find? (fun i => p.level i ≤ p.level x) = none := by
      refine List.find?_eq_none.mpr fun i hi => ?_
      rw [hlevel i hi]
      simp
    rw [notDeeper?, hnone]
    rfl
  rcases h.exists_stays hx hstay with ⟨front, stays, back, hs⟩
  have hlast := hs.lastShallower_parent h rfl
  have hparent : forall y, some x = some y -> p.level y < p.level x + 1 := by
    intro y hy
    rw [Option.some.inj hy]
    exact Nat.lt_succ_self _
  refine ⟨p.putBehind x ids front stays back, ?_, hs.movesOnly h hmade hlevel (Nat.le_succ _), ?_⟩
  · rw [appendChildren, hrefused]
    exact hs.moveBehind_eq h _
  · have hbefore := hs.filter_childrenUnder h hlevel hparent
    have hafter := hs.childrenUnder_putBehind h hmade hlevel (Nat.le_succ _) hlast
    rw [hs.filter_back h, List.append_nil] at hbefore hafter
    rw [← hbefore] at hafter
    exact hafter

theorem WellFormed.exists_insertAfter {p : Page} (h : p.WellFormed) {t : Nat} (ht : t ∈ p.order) {ids : List Nat}
    (hnot : t ∉ ids) (hids : forall i, i ∈ ids -> i < p.sections.length ∧ p.level i = p.level t) :
    exists q, p.insertAfter t ids = ⟨q, none⟩ ∧ p.MovesOnly q ids ∧
      exists before after, (p.siblings t).filter (fun j => !ids.contains j) = before ++ t :: after ∧
        q.siblings t = before ++ t :: (ids.eraseDups ++ after) := by
  have hmade : forall i, i ∈ ids -> i < p.sections.length := fun i hi => (hids i hi).1
  have hlevel : forall i, i ∈ ids -> p.level i = p.level t := fun i hi => (hids i hi).2
  have hstay : t ∉ p.subtrees ids := fun hmem => hnot (h.mem_of_mem_subtrees_of_le hlevel (Nat.le_refl _) hmem)
  have hrefused : p.notSameLevel? t ids = none := by
    have hnone : ids.find? (fun i => p.level i != p.level t) = none := by
      refine List.find?_eq_none.mpr fun i hi => ?_
      rw [hlevel i hi]
      simp
    rw [notSameLevel?, hnone]
    rfl
  rcases h.exists_stays ht hstay with ⟨front, stays, back, hs⟩
  have hkept := hs.parent?_putBehind h hmade hlevel (Nat.le_refl _) hstay
  have hlast : lastShallower p.level (p.level t) (front ++ (t :: stays)) = p.parent? t := by
    rw [hs.lastShallower_stays h (Nat.le_refl _), ← hkept]
    exact ((hs.wellFormed_putBehind h hmade).parent?_eq_lastShallower rfl).symm
  refine ⟨p.putBehind t ids front stays back, ?_, hs.movesOnly h hmade hlevel (Nat.le_refl _),
    front.filter (fun j => p.parent? j == p.parent? t), back.filter (fun j => p.parent? j == p.parent? t), ?_, ?_⟩
  · rw [insertAfter, hrefused]
    exact hs.moveBehind_eq h _
  · rw [siblings_eq_childrenUnder, hs.filter_childrenUnder h hlevel fun y hy => (h.parent_spec hy).2.2, hs.filter_stays h,
      List.append_assoc, List.singleton_append]
  · rw [siblings_eq_childrenUnder, hkept, hs.childrenUnder_putBehind h hmade hlevel (Nat.le_refl _) hlast,
      hs.filter_stays h, List.append_assoc, List.singleton_append]

/-- On every reachable page, taking a section out takes its subtree out and nothing else; sections one level below a
section become its last children; and sections on the level of another one come directly behind it.  Each is moved with
what lies below it, and all that is not moved keeps its parent. -/
theorem Reachable.detach_and_moves_keep_the_rest {p : Page} (h : p.Reachable) :
    (forall i, (p.detach i).order = p.order.filter (fun j => !(p.subtree i).contains j) ∧
      (p.detach i).sections = p.sections ∧
      forall j, j ∈ (p.detach i).order -> (p.detach i).parent? j = p.parent? j) ∧
      (forall x ids, x ∈ p.order -> (forall i, i ∈ ids -> i < p.sections.length ∧ p.level i = p.level x + 1) ->
        exists q, p.appendChildren x ids = ⟨q, none⟩ ∧ p.MovesOnly q ids ∧
          q.children x = (p.children x).filter (fun j => !ids.contains j) ++ ids.eraseDups) ∧
      (forall t ids, t ∈ p.order -> t ∉ ids -> (forall i, i ∈ ids -> i < p.sections.length ∧ p.level i = p.level t) ->
        exists q, p.insertAfter t ids = ⟨q, none⟩ ∧ p.MovesOnly q ids ∧
          exists before after, (p.siblings t).filter (fun j => !ids.contains j) = before ++ t :: after ∧
            q.siblings t = before ++ t :: (ids.eraseDups ++ after)) := by
  have hw := h.wellFormed
  refine ⟨fun i => ⟨rfl, rfl, fun _ hj => hw.parent?_detach i hj⟩, ?_, ?_⟩
  · exact fun x ids hx hids => hw.exists_appendChildren hx hids
  · exact fun t ids ht hnot hids => hw.exists_insertAfter ht hnot hids

/-- Two sections of level 2, the first with sections of level 3 and 4 below it, the second with one of level 4 in front of
one of level 3. -/
def entryWithSubtrees : Page where
  title := "casa"
  sections := [⟨⟨2, "Uso", .tight, [], []⟩, {}, none⟩, ⟨⟨3, "Notas", .tight, [], []⟩, {}, none⟩,
    ⟨⟨4, "Citas", .tight, [], []⟩, {}, none⟩, ⟨⟨2, "Forma", .tight, [], []⟩, {}, none⟩,
    ⟨⟨4, "Citas", .tight, [], []⟩, {}, none⟩, ⟨⟨3, "Notas", .tight, [], []⟩, {}, none⟩]
  order := [0, 1, 2, 3, 4, 5]
  outline := .ofList [(0, 2), (1, 3), (2, 4), (3, 2), (4, 4), (5, 3)]

theorem reachable_entryWithSubtrees : entryWithSubtrees.Reachable := by
  have hfirst := (Reachable.new "casa").create (s := entryWithSubtrees.get 0) (by decide)
  have hsecond := hfirst.create (s := entryWithSubtrees.get 1) (by decide)
  have hthird := hsecond.create (s := entryWithSubtrees.get 2) (by decide)
  have hfourth := hthird.create (s := entryWithSubtrees.get 3) (by decide)
  have hfifth := hfourth.create (s := entryWithSubtrees.get 4) (by decide)
  have hsixth := hfifth.create (s := entryWithSubtrees.get 5) (by decide)
  exact .change (.appendSections [0, 1, 2, 3, 4, 5]) hsixth ⟨by decide, nofun⟩ rfl

theorem detach_and_moves_keep_the_rest_entryWithSubtrees :
    entryWithSubtrees.Reachable ∧ entryWithSubtrees.children 3 = [4, 5] ∧
      (forall j, j ∈ (entryWithSubtrees.detach 1).order ->
        (entryWithSubtrees.detach 1).parent? j = entryWithSubtrees.parent? j) ∧
      (exists q, entryWithSubtrees.appendChildren 3 [5, 1, 5] = ⟨q, none⟩ ∧ entryWithSubtrees.MovesOnly q [5, 1, 5] ∧
        q.children 3 = (entryWithSubtrees.children 3).filter (fun j => !([5, 1, 5].contains j)) ++ [5, 1, 5].eraseDups) ∧
      exists q, entryWithSubtrees.insertAfter 1 [5] = ⟨q, none⟩ ∧ entryWithSubtrees.MovesOnly q [5] ∧
        exists before after, (entryWithSubtrees.siblings 1).filter (fun j => !([5].contains j)) = before ++ 1 :: after ∧
          q.siblings 1 = before ++ 1 :: ([5].eraseDups ++ after) := by
  rcases reachable_entryWithSubtrees.detach_and_moves_keep_the_rest with ⟨hdetach, happend, hinsert⟩
  exact ⟨reachable_entryWithSubtrees, by decide, (hdetach 1).2.2, happend 3 [5, 1, 5] (by decide) (by decide),
    hinsert 1 [5] (by decide) (by decide) (by decide)⟩

end Page
end WikiEntry
