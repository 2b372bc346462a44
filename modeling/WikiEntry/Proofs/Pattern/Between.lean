import WikiEntry.Proofs.Pattern.Matched

/-!
# Reading from place to place

What a pattern reads does not depend on the groups that were read before.  Set apart from them, what it reads is a
relation between two places of a text, which follows the constructors of patterns as the relation with groups does.
-/

namespace WikiEntry
namespace Pattern

/-- The pattern can read the text from one place to the other, whatever groups were read before. -/
def ReadsBetween (p : Pattern) (k : Cursor) (w : Text) (k' : Cursor) : Prop :=
  forall gs, exists gs', Reads p ⟨k, gs⟩ w ⟨k', gs'⟩

theorem ReadsBetween.seq {p q : Pattern} {k k' k'' : Cursor} {u v : Text} (hp : ReadsBetween p k u k')
    (hq : ReadsBetween q k' v k'') : ReadsBetween (.seq p q) k (u ++ v) k'' := by
  intro gs
  rcases hp gs with ⟨gs', hu⟩
  rcases hq gs' with ⟨gs'', hv⟩
  exact ⟨gs'', Reads.seq hu hv⟩

theorem ReadsBetween.altLeft {p : Pattern} (q : Pattern) {k k' : Cursor} {w : Text} (hp : ReadsBetween p k w k') :
    ReadsBetween (.alt p q) k w k' :=
  fun gs => (hp gs).imp fun _ => Reads.altLeft

theorem ReadsBetween.altRight (p : Pattern) {q : Pattern} {k k' : Cursor} {w : Text} (hq : ReadsBetween q k w k') :
    ReadsBetween (.alt p q) k w k' :=
  fun gs => (hq gs).imp fun _ => Reads.altRight

theorem ReadsBetween.group (i : Nat) {p : Pattern} {k k' : Cursor} {w : Text} (hp : ReadsBetween p k w k') :
    ReadsBetween (.group i p) k w k' := by
  intro gs
  rcases hp gs with ⟨gs', hw⟩
  exact ⟨_, Reads.group (i := i) hw⟩

theorem ReadsBetween.optSome (greedy : Bool) {p : Pattern} {k k' : Cursor} {w : Text} (hp : ReadsBetween p k w k') :
    ReadsBetween (.opt greedy p) k w k' :=
  fun gs => (hp gs).imp fun _ => Reads.optSome

theorem ReadsBetween.distinct {p : Pattern} {k k' : Cursor} {w : Text} (hp : ReadsBetween p k w k') :
    ReadsBetween (.distinct p) k w k' :=
  fun gs => (hp gs).imp fun _ => Reads.distinct

theorem ReadsBetween.loopNone (greedy : Bool) (p : Pattern) (k : Cursor) :
    ReadsBetween (.loop greedy false p) k [] k :=
  fun gs => ⟨gs, Reads.loopNone _⟩

theorem ReadsBetween.loopMore {greedy : Bool} (atLeastOnce : Bool) {p : Pattern} {k k' k'' : Cursor} {u v : Text}
    (hp : ReadsBetween p k u k') (hl : ReadsBetween (.loop greedy false p) k' v k'') :
    ReadsBetween (.loop greedy atLeastOnce p) k (u ++ v) k'' := by
  intro gs
  rcases hp gs with ⟨gs', hu⟩
  rcases hl gs' with ⟨gs'', hv⟩
  exact ⟨gs'', Reads.loopMore hu hv⟩

theorem ReadsBetween.timesMore {greedy : Bool} {least most : Nat} {p : Pattern} {k k' k'' : Cursor} {u v : Text}
    (hp : ReadsBetween p k u k') (ht : ReadsBetween (.times greedy (least - 1) most p) k' v k'') :
    ReadsBetween (.times greedy least (most + 1) p) k (u ++ v) k'' := by
  intro gs
  rcases hp gs with ⟨gs', hu⟩
  rcases ht gs' with ⟨gs'', hv⟩
  exact ⟨gs'', Reads.timesMore hu hv⟩

/-- What is read does not depend on the groups. -/
theorem Reads.readsBetween {p : Pattern} {s t : ReadState} {w : Text} (h : Reads p s w t) :
    ReadsBetween p s.cursor w t.cursor := by
  induction h with
  | empty s => exact fun gs => ⟨gs, Reads.empty _⟩
  | one hrest hc => exact fun gs => ⟨gs, Reads.one (s := ⟨_, gs⟩) hrest hc⟩
  | anchor ha => exact fun gs => ⟨gs, Reads.anchor ha⟩
  | seq _ _ ihp ihq => exact ihp.seq ihq
  | altLeft _ ih => exact ih.altLeft _
  | altRight _ ih => exact ih.altRight _
  | group _ ih => exact ih.group _
  | optNone s => exact fun gs => ⟨gs, Reads.optNone _⟩
  | optSome _ ih => exact ih.optSome _
  | run hrest hset hleast hmost => exact fun gs => ⟨gs, Reads.run (s := ⟨_, gs⟩) hrest hset hleast hmost⟩
  | loopNone s => exact ReadsBetween.loopNone _ _ _
  | loopMore _ _ ihp ihl => exact ihp.loopMore _ ihl
  | timesNone hnone => exact fun gs => ⟨gs, Reads.timesNone hnone⟩
  | timesMore _ _ ihp iht => exact ihp.timesMore iht
  | distinct _ ih => exact ih.distinct

theorem ReadsBetween.one (set : CharSet) {k : Cursor} {c : Char} {r : Text} (hrest : k.rest = c :: r)
    (hc : set.holds c = true) : ReadsBetween (.one set) k [c] (k.skip [c]) :=
  (Reads.one (s := ⟨k, []⟩) hrest hc).readsBetween

theorem ReadsBetween.lit {l : Text} {k : Cursor} {r : Text} (hrest : k.rest = l ++ r) :
    ReadsBetween (lit l) k l (k.skip l) := by
  induction l generalizing k with
  | nil => exact fun gs => ⟨gs, Reads.empty _⟩
  | cons c l ih =>
      have hone := ReadsBetween.one (.char c) hrest (beq_self_eq_true c)
      cases l with
      | nil => exact hone
      | cons d l => exact hone.seq (ih (Cursor.rest_skip (w := [c]) hrest))

theorem ReadsBetween.run (greedy : Bool) {least : Nat} {set : CharSet} {k : Cursor} {w r : Text}
    (hrest : k.rest = w ++ r) (hset : forall c, c ∈ w -> set.holds c = true) (hleast : least ≤ w.length) :
    ReadsBetween (.run greedy least none set) k w (k.skip w) :=
  (Reads.run (s := ⟨k, []⟩) hrest hset hleast (fun _ hmost => by cases hmost)).readsBetween

/-- Rounds of one pattern in front are rounds of another that reads as much. -/
theorem Reads.loop_front {greedy atLeastOnce : Bool} {p q : Pattern}
    (hmono : forall s u t, Reads p s u t -> ReadsBetween q s.cursor u t.cursor) {s t : ReadState} {u v : Text}
    {k : Cursor} (hu : Reads (.loop greedy atLeastOnce p) s u t)
    (hv : ReadsBetween (.loop greedy false q) t.cursor v k) :
    ReadsBetween (.loop greedy false q) s.cursor (u ++ v) k := by
  generalize hr : Pattern.loop greedy atLeastOnce p = r at hu
  induction hu generalizing atLeastOnce with
  | loopNone s => exact hv
  | loopMore hp _ _ ih =>
      cases hr
      rw [List.append_assoc]
      exact (hmono _ _ _ hp).loopMore false (ih hv rfl)
  | _ => cases hr

end Pattern
end WikiEntry
