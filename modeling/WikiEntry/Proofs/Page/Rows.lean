import WikiEntry.Proofs.Page.Subtree

/-!
# Rows of subtrees

The parent of a section is the last shallower one in front of it.  So what is put between two parts of a document takes
nothing away from the second part if that begins with a section that is no deeper, and where subtrees stand in a row
whose heads do not get deeper, every head keeps what is below it.
-/

namespace WikiEntry

namespace Outline

variable {level : Nat -> Nat}

/-!
# The last shallower section
-/

/-- The last of some sections that is shallower than `l`. -/
def lastShallower (level : Nat -> Nat) (l : Nat) (front : List Nat) : Option Nat :=
  (front.filter fun j => level j < l).getLast?

theorem lastShallower_append (l : Nat) (front more : List Nat) :
    lastShallower level l (front ++ more) = (lastShallower level l more).or (lastShallower level l front) := by
  rw [lastShallower, List.filter_append, List.getLast?_append]
  rfl

theorem lastShallower_eq_none {l : Nat} {front : List Nat} (h : forall j, j ∈ front -> l ≤ level j) :
    lastShallower level l front = none := by
  rw [lastShallower, List.getLast?_eq_none_iff, List.filter_eq_nil_iff]
  intro j hj hlt
  exact absurd (h j hj) (Nat.not_le.mpr (by simpa using hlt))

theorem le_of_lastShallower_eq_none {l : Nat} {front : List Nat} (h : lastShallower level l front = none) :
    forall j, j ∈ front -> l ≤ level j := by
  rw [lastShallower, List.getLast?_eq_none_iff, List.filter_eq_nil_iff] at h
  intro j hj
  exact Nat.le_of_not_lt fun hlt => h j hj (by simpa using hlt)

theorem shallowerBefore_eq_lastShallower {front : List Nat} {i : Nat} (back : List Nat) (hi : i ∉ front) :
    shallowerBefore level i (front ++ i :: back) = lastShallower level (level i) front := by
  induction front with
  | nil => simp [shallowerBefore, lastShallower]
  | cons j front ih =>
      rw [List.mem_cons, not_or] at hi
      rw [List.cons_append, shallowerBefore, if_neg hi.1, ih hi.2, ← List.singleton_append, lastShallower_append]
      by_cases hlt : level j < level i
      · simp [lastShallower, hlt]
      · simp [lastShallower, hlt]

/-!
# A forest and its walk
-/

theorem Nested.toList_children {i l : Nat} {c r : Outline} (h : Nested level (node i l c r)) :
    c.toList = (c.toList ++ r.toList).takeWhile fun j => level i < level j := by
  rcases h with ⟨_, hdeeper, hroots, _, _⟩
  have hnone : (r.toList.takeWhile fun j => level i < level j) = [] := by
    cases r with
    | nil => rfl
    | node j k c' r' =>
        rw [toList, List.takeWhile_cons_of_neg]
        have hle : level j ≤ level i := hroots j List.mem_cons_self
        simpa using hle
  rw [List.takeWhile_append_of_pos fun j hj => decide_eq_true (hdeeper j hj), hnone, List.append_nil]

/-- Levels and the walk determine a forest. -/
theorem Nested.ext {f g : Outline} (hf : Nested level f) (hg : Nested level g) (hwalk : f.toList = g.toList) : f = g := by
  induction f generalizing g with
  | nil =>
      cases g with
      | nil => rfl
      | node j k c r => cases hwalk
  | node i l c r ihc ihr =>
      cases g with
      | nil => cases hwalk
      | node j k c' r' =>
          rcases List.cons.inj hwalk with ⟨rfl, hrest⟩
          have hc : c.toList = c'.toList := by rw [hf.toList_children, hrest, ← hg.toList_children]
          have hr : r.toList = r'.toList := by
            rw [hc] at hrest
            exact List.append_cancel_left hrest
          rw [ihc hf.2.2.2.1 hg.2.2.2.1 hc, ihr hf.2.2.2.2 hg.2.2.2.2 hr, hf.1, hg.1]

end Outline

namespace Page

open Outline

theorem getLast?_filter_of_mem {α : Type} {xs : List α} {keep : α -> Bool} {a : α} (h : xs.getLast? = some a)
    (ha : keep a = true) : (xs.filter keep).getLast? = some a := by
  rcases List.getLast?_eq_some_iff.mp h with ⟨ys, rfl⟩
  rw [List.filter_append, List.filter_cons_of_pos ha, List.getLast?_append]
  rfl

namespace WellFormed

variable {p q r : Page} {i j l x n : Nat} {front back block : List Nat}

theorem not_mem_front (h : p.WellFormed) (horder : p.order = front ++ i :: back) : i ∉ front := by
  have hn := h.nodup
  rw [horder] at hn
  exact fun hi => (List.nodup_append.mp hn).2.2 i hi i List.mem_cons_self rfl

theorem parent?_eq_lastShallower (h : p.WellFormed) (horder : p.order = front ++ i :: back) :
    p.parent? i = lastShallower p.level (p.level i) front := by
  have hi : i ∈ p.order := horder ▸ List.mem_append_right front List.mem_cons_self
  rw [← shallowerBefore_eq_lastShallower back (h.not_mem_front horder), ← horder]
  unfold parent? Outline.parent?
  rw [h.linked, parentFrom?_ofOrder hi]
  simp

/-- A section keeps its parent if that stays while other sections are taken out. -/
theorem parent?_eq_of_filter (h : p.WellFormed) (hr : r.WellFormed) (hlevel : r.level = p.level) {keep : Nat -> Bool}
    (horder : r.order = p.order.filter keep) (hj : j ∈ r.order)
    (hparent : forall k, p.parent? j = some k -> keep k = true) : r.parent? j = p.parent? j := by
  rw [horder] at hj
  rcases List.mem_filter.mp hj with ⟨hmem, hkeep⟩
  rcases List.append_of_mem hmem with ⟨front, back, heq⟩
  have hfiltered : r.order = front.filter keep ++ j :: back.filter keep := by
    rw [horder, heq, List.filter_append, List.filter_cons_of_pos hkeep]
  have hp := h.parent?_eq_lastShallower heq
  rw [hr.parent?_eq_lastShallower hfiltered, hp, hlevel]
  have hcomm : ((front.filter keep).filter fun k => p.level k < p.level j) =
      (front.filter fun k => p.level k < p.level j).filter keep := by
    rw [List.filter_filter, List.filter_filter]
    exact List.filter_congr fun k _ => Bool.and_comm _ _
  unfold lastShallower at hp ⊢
  rw [hcomm]
  cases hlast : (front.filter fun k => p.level k < p.level j).getLast? with
  | none => rw [List.getLast?_eq_none_iff.mp hlast, List.filter_nil, List.getLast?_nil]
  | some k => exact getLast?_filter_of_mem hlast (hparent k (hp.trans hlast))

/-- A block between two parts of a document becomes the parent of no section outside, if the second part begins with a
section that is no deeper than the block. -/
theorem parent?_eq_of_insert (hq : q.WellFormed) (hr : r.WellFormed) (hlevel : q.level = r.level)
    (hqorder : q.order = front ++ (block ++ back)) (hrorder : r.order = front ++ back)
    (hback : forall b, back.head? = some b -> forall k, k ∈ block -> r.level b ≤ r.level k) (hj : j ∈ r.order) :
    q.parent? j = r.parent? j := by
  rw [hrorder] at hj
  rcases List.mem_append.mp hj with hj | hj
  · rcases List.append_of_mem hj with ⟨before, behind, heq⟩
    have hq' : q.order = before ++ j :: (behind ++ (block ++ back)) := by rw [hqorder, heq]; simp
    have hr' : r.order = before ++ j :: (behind ++ back) := by rw [hrorder, heq]; simp
    rw [hq.parent?_eq_lastShallower hq', hr.parent?_eq_lastShallower hr', hlevel]
  · rcases List.append_of_mem hj with ⟨before, behind, heq⟩
    have hq' : q.order = (front ++ (block ++ before)) ++ j :: behind := by rw [hqorder, heq]; simp
    have hr' : r.order = (front ++ before) ++ j :: behind := by rw [hrorder, heq]; simp
    rw [hq.parent?_eq_lastShallower hq', hr.parent?_eq_lastShallower hr', hlevel]
    simp only [lastShallower_append]
    cases hbefore : lastShallower r.level (r.level j) before with
    | some k => rfl
    | none =>
        -- No section between the block and `j` is shallower than `j`, so that none of the block is either.
        have hblock : lastShallower r.level (r.level j) block = none := by
          refine lastShallower_eq_none fun k hk => ?_
          cases before with
          | nil => exact hback j (by rw [heq]; rfl) k hk
          | cons b before =>
              have hle := le_of_lastShallower_eq_none hbefore b List.mem_cons_self
              exact Nat.le_trans hle (hback b (by rw [heq]; rfl) k hk)
        rw [hblock]
        rfl

/-!
# What lies below
-/

theorem below_eq_ofOrder (h : p.WellFormed) (x : Nat) : p.below x = ofOrder p.level (p.descendants x) := by
  by_cases hx : x ∈ p.order
  · rcases List.append_of_mem hx with ⟨front, rest, heq⟩
    have hbelow : p.below x = ((ofOrder p.level rest).spanDeeper (p.level x)).1 := by
      rw [below, h.linked, heq, children?_ofOrder (h.not_mem_front heq), Option.getD_some]
    have hnested : Nested p.level (p.below x) := by
      rw [hbelow]
      exact ((nested_ofOrder rest).spanDeeper (p.level x)).1
    exact hnested.ext (nested_ofOrder _) (toList_ofOrder _).symm
  · rw [descendants, h.below_of_not_mem hx]
    rfl

theorem below_eq_of_descendants_eq (h : p.WellFormed) (hq : q.WellFormed) (hlevel : q.level = p.level)
    (hsame : q.descendants x = p.descendants x) : q.below x = p.below x := by
  rw [hq.below_eq_ofOrder, h.below_eq_ofOrder, hsame, hlevel]

/-- If the sections that one page has also have their parents there in another one, what lies below a section there lies
below it here. -/
theorem mem_descendants_of_parent?_eq (h : p.WellFormed) (hr : r.WellFormed)
    (hparent : forall k, k ∈ r.order -> r.parent? k = p.parent? k) (hj : j ∈ r.descendants x) : j ∈ p.descendants x := by
  have hmem := hr.descendants_subset hj
  rcases hr.exists_ancestors hmem with ⟨as, has, _⟩
  have hup : forall {k : Nat} {as : List Nat}, r.Ancestors k as -> k ∈ r.order -> p.Ancestors k as := by
    intro k as has
    induction has with
    | top hp => exact fun hk => .top ((hparent _ hk).symm.trans hp)
    | under hp _ ih => exact fun hk => .under ((hparent _ hk).symm.trans hp) (ih (hr.parent_spec hp).2.1)
  rw [h.mem_descendants_iff (hup has hmem), ← hr.mem_descendants_iff has]
  exact hj

/-- Of a section and what lies below it, only the section itself has the parent of the section. -/
theorem filter_parent?_subtree (h : p.WellFormed) {above : Option Nat} (hl : p.parent? l = above) :
    (p.subtree l).filter (fun k => p.parent? k == above) = [l] := by
  rw [subtree, List.filter_cons_of_pos (by rw [hl]; exact beq_self_eq_true above), List.filter_eq_nil_iff.mpr]
  intro k hk hp
  have hp : p.parent? k = above := beq_iff_eq.mp hp
  cases above with
  | none => exact h.not_mem_descendants_of_parent?_eq_none hp hk
  | some x =>
      have hlt := (h.parent_spec hl).2.2
      rcases (h.mem_descendants_iff_of_parent? hp).mp hk with rfl | hx
      · exact Nat.lt_irrefl _ hlt
      · exact Nat.lt_asymm hlt (h.level_lt_of_mem_descendants hx)

/-!
# Rows
-/

section Rows

variable {heads rest : List Nat} {block : Nat -> List Nat}

theorem takeWhile_row (hheads : forall k, heads.head? = some k -> p.level k ≤ n)
    (hrest : heads = [] -> forall k, rest.head? = some k -> p.level k ≤ n) :
    ((heads.flatMap (fun l => l :: block l) ++ rest).takeWhile fun k => n < p.level k) = [] := by
  cases heads with
  | nil =>
      cases rest with
      | nil => rfl
      | cons k rest => exact List.takeWhile_cons_of_neg (by simpa using hrest rfl k rfl)
  | cons k heads => exact List.takeWhile_cons_of_neg (by simpa using hheads k rfl)

/-- In a row whose heads do not get deeper, every head has its block below it, and the parent of them all is in front. -/
theorem descendants_and_parent?_row (h : p.WellFormed)
    (horder : p.order = front ++ (heads.flatMap (fun l => l :: block l) ++ rest))
    (hheads : heads.Pairwise fun i j => p.level j ≤ p.level i)
    (hdeeper : forall l, l ∈ heads -> forall k, k ∈ block l -> p.level l < p.level k)
    (hrest : forall k, rest.head? = some k -> forall l, l ∈ heads -> p.level k ≤ p.level l) :
    forall l, l ∈ heads -> p.descendants l = block l ∧ p.parent? l = lastShallower p.level (p.level l) front := by
  induction heads generalizing front with
  | nil => exact List.forall_mem_nil _
  | cons l heads ih =>
      rcases List.pairwise_cons.mp hheads with ⟨hfirst, hlater⟩
      have hblock := hdeeper l List.mem_cons_self
      have horder' : p.order = front ++ l :: (block l ++ (heads.flatMap (fun l => l :: block l) ++ rest)) := by
        rw [horder, List.flatMap_cons, List.append_assoc, List.cons_append]
      refine List.forall_mem_cons.mpr ⟨⟨?_, h.parent?_eq_lastShallower horder'⟩, ?_⟩
      · rw [h.descendants_eq_append horder' hblock, takeWhile_row, List.append_nil]
        · intro k hk
          exact hfirst k (List.mem_of_mem_head? hk)
        · intro _ k hk
          exact hrest k hk l List.mem_cons_self
      · intro m hm
        have hnext : p.order = (front ++ l :: block l) ++ (heads.flatMap (fun l => l :: block l) ++ rest) := by
          rw [horder', List.append_assoc, List.cons_append]
        rcases ih hnext hlater (fun k hk => hdeeper k (List.mem_cons_of_mem l hk))
          (fun k hk m hm => hrest k hk m (List.mem_cons_of_mem l hm)) m hm with ⟨hdescendants, hparent⟩
        refine ⟨hdescendants, ?_⟩
        -- The subtree of the first head has nothing that is shallower than a later head.
        have hnone : lastShallower p.level (p.level m) (l :: block l) = none := by
          refine lastShallower_eq_none (List.forall_mem_cons.mpr ⟨hfirst m hm, fun k hk => ?_⟩)
          exact Nat.le_trans (hfirst m hm) (Nat.le_of_lt (hblock k hk))
        rw [hparent, lastShallower_append, hnone, Option.none_or]

theorem filter_parent?_row (h : p.WellFormed) {above : Option Nat} (hheads : forall l, l ∈ heads -> p.parent? l = above) :
    (heads.flatMap p.subtree).filter (fun k => p.parent? k == above) = heads := by
  induction heads with
  | nil => rfl
  | cons l heads ih =>
      rcases List.forall_mem_cons.mp hheads with ⟨hl, hheads⟩
      rw [List.flatMap_cons, List.filter_append, h.filter_parent?_subtree hl, ih hheads]
      rfl

end Rows
end WellFormed

/-!
# Children, and sections on top
-/

/-- The children of a section, or the sections on top. -/
def childrenUnder (p : Page) : (above : Option Nat) -> List Nat
  | some x => p.children x
  | none => p.topLevel

theorem WellFormed.childrenUnder_eq_filter {p : Page} (h : p.WellFormed) (above : Option Nat) :
    p.childrenUnder above = p.order.filter fun i => p.parent? i == above := by
  cases above with
  | some x => exact h.children_eq_filter x
  | none =>
      refine List.filter_congr fun i hi => ?_
      rw [Bool.eq_iff_iff, beq_iff_eq, beq_iff_eq]
      exact h.depth_eq_one_iff hi

theorem siblings_eq_childrenUnder (p : Page) (i : Nat) : p.siblings i = p.childrenUnder (p.parent? i) := by
  unfold siblings
  cases p.parent? i <;> rfl

end Page
end WikiEntry
