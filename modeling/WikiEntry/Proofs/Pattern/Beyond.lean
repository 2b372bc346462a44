import WikiEntry.Region.Replacement
import WikiEntry.Proofs.Pattern.Matched

/-!
# Patterns that need other characters

Most patterns need a mark: a bracket, a brace, a colon.  Whether a pattern can read anything in a text without
marks is seen from the pattern alone: in a sequence one part has to need a mark, and of alternatives all parts.  A
pattern that needs one leaves every text without marks as it is.
-/

namespace WikiEntry

namespace CharSet

/-- Whether a set holds none of these characters. -/
def avoids (s : CharSet) (cs : List Char) : Bool :=
  cs.all (!s.holds ·)

theorem not_mem_of_avoids {s : CharSet} {cs : List Char} {ch : Char} (h : s.avoids cs = true)
    (hch : s.holds ch = true) : ch ∉ cs := by
  intro hmem
  have hno := List.all_eq_true.mp h ch hmem
  rw [hch] at hno
  cases hno

end CharSet

namespace Pattern

/-- Whether each way to read the pattern reads a character that is not among these. -/
def readsBeyond (cs : List Char) : Pattern -> Bool
  | empty => false
  | one set => set.avoids cs
  | anchor _ => false
  | seq p q => p.readsBeyond cs || q.readsBeyond cs
  | alt p q => p.readsBeyond cs && q.readsBeyond cs
  | group _ p => p.readsBeyond cs
  | opt _ _ => false
  | run _ least _ set => least != 0 && set.avoids cs
  | loop _ atLeastOnce p => atLeastOnce && p.readsBeyond cs
  | times _ least most p => least != 0 && most != 0 && p.readsBeyond cs
  | distinct p => p.readsBeyond cs

theorem Reads.exists_beyond {cs : List Char} {p : Pattern} {s t : ReadState} {w : Text} (h : Reads p s w t)
    (hp : p.readsBeyond cs = true) : exists ch, ch ∈ w ∧ ch ∉ cs := by
  induction h with
  | empty s => cases hp
  | one _ hc => exact ⟨_, List.mem_singleton_self _, CharSet.not_mem_of_avoids hp hc⟩
  | anchor _ => cases hp
  | seq _ _ ihp ihq =>
      rcases Bool.or_eq_true_iff.mp hp with hp | hp
      · rcases ihp hp with ⟨ch, hch, hbeyond⟩
        exact ⟨ch, List.mem_append_left _ hch, hbeyond⟩
      · rcases ihq hp with ⟨ch, hch, hbeyond⟩
        exact ⟨ch, List.mem_append_right _ hch, hbeyond⟩
  | altLeft _ ih => exact ih (Bool.and_eq_true_iff.mp hp).1
  | altRight _ ih => exact ih (Bool.and_eq_true_iff.mp hp).2
  | group _ ih => exact ih hp
  | optNone s => cases hp
  | optSome _ _ => cases hp
  | @run _ _ _ _ _ w _ _ hset hleast _ =>
      rcases Bool.and_eq_true_iff.mp hp with ⟨hpositive, havoids⟩
      cases w with
      | nil =>
          rw [Nat.le_zero.mp hleast] at hpositive
          cases hpositive
      | cons ch w =>
          exact ⟨ch, List.mem_cons_self, CharSet.not_mem_of_avoids havoids (hset ch List.mem_cons_self)⟩
  | loopNone s => cases hp
  | loopMore _ _ ihp _ =>
      rcases ihp (Bool.and_eq_true_iff.mp hp).2 with ⟨ch, hch, hbeyond⟩
      exact ⟨ch, List.mem_append_left _ hch, hbeyond⟩
  | timesNone hnone =>
      rcases Bool.and_eq_true_iff.mp (Bool.and_eq_true_iff.mp hp).1 with ⟨hleast, hmost⟩
      rcases hnone with rfl | rfl
      · cases hleast
      · cases hmost
  | timesMore _ _ ihp _ =>
      rcases ihp (Bool.and_eq_true_iff.mp hp).2 with ⟨ch, hch, hbeyond⟩
      exact ⟨ch, List.mem_append_left _ hch, hbeyond⟩
  | distinct _ ih => exact ih hp

/-- What a repetition reads ends with what its last round reads. -/
theorem Reads.loop_last {greedy atLeastOnce : Bool} {p : Pattern} {s t : ReadState} {w : Text}
    (h : Reads (.loop greedy atLeastOnce p) s w t) :
    (atLeastOnce = false ∧ w = []) ∨ exists u v, w = u ++ v ∧ exists x y, Reads p x v y := by
  generalize hq : Pattern.loop greedy atLeastOnce p = q at h
  induction h generalizing atLeastOnce with
  | loopNone s =>
      cases hq
      exact Or.inl ⟨rfl, rfl⟩
  | loopMore hp _ _ ih =>
      cases hq
      rcases ih rfl with ⟨_, rfl⟩ | ⟨u, v, rfl, hlast⟩
      · exact Or.inr ⟨[], _, List.append_nil _, _, _, hp⟩
      · exact Or.inr ⟨_ ++ u, v, (List.append_assoc _ _ _).symm, hlast⟩
  | _ => cases hq

/-!
# Texts that a pattern leaves alone
-/

section

variable {cs : List Char} {t : Text} {p : Pattern}

/-- A match is a piece of the text. -/
theorem Matched.piece {m : Match} {w : Text} {s : ReadState} (h : Matched p t m w s) : w <:+: t :=
  (List.infix_append [] w s.cursor.rest).trans (h.rest_eq ▸ (List.drop_suffix _ _).isInfix)

theorem not_matched_of_beyond (ht : forall ch, ch ∈ t -> ch ∈ cs) (hp : p.readsBeyond cs = true) {m : Match} {w : Text}
    {s : ReadState} : ¬ Matched p t m w s := by
  intro h
  rcases h.reads.exists_beyond hp with ⟨ch, hch, hbeyond⟩
  exact hbeyond (ht ch (h.piece.subset hch))

theorem matchList_eq_nil_of_not_matched (h : forall m w s, ¬ Matched p t m w s) : p.matchList t = [] := by
  cases hms : p.matchList t with
  | nil => rfl
  | cons m ms =>
      rcases (inOrder_matchList p t).matched m (hms ▸ List.mem_cons_self) with ⟨w, s, hm⟩
      exact absurd hm (h m w s)

theorem matchList_eq_nil (ht : forall ch, ch ∈ t -> ch ∈ cs) (hp : p.readsBeyond cs = true) : p.matchList t = [] :=
  matchList_eq_nil_of_not_matched fun _ _ _ => not_matched_of_beyond ht hp

theorem find?_eq_none (ht : forall ch, ch ∈ t -> ch ∈ cs) (hp : p.readsBeyond cs = true) : p.find? t = none := by
  rw [Option.eq_none_iff_forall_ne_some]
  intro m hm
  rcases matched_of_find? hm with ⟨w, s, hm⟩
  exact not_matched_of_beyond ht hp hm

theorem matchesIn_eq_false (ht : forall ch, ch ∈ t -> ch ∈ cs) (hp : p.readsBeyond cs = true) :
    p.matchesIn t = false := by
  rw [matchesIn, find?_eq_none ht hp]
  rfl

theorem replaceAll_eq_self (ht : forall ch, ch ∈ t -> ch ∈ cs) (hp : p.readsBeyond cs = true) (new : Text) :
    p.replaceAll t new = t := by
  rw [replaceAll, spans, matchList_eq_nil ht hp]
  rfl

end
end Pattern

namespace Region

open Pattern

theorem reviseWith_eq_self {σ : Type} {t : Text} {p : Pattern} (h : p.matchList t = []) (regions : List Span)
    (position : Match -> Nat) (replacer : σ -> Match -> Option Text × σ) (state : σ) :
    reviseWith t p regions position replacer state = (t, state) := by
  rw [reviseWith, matchesOutside, h]
  rfl

theorem reviseOutside_eq_self {t : Text} {p : Pattern} (h : p.matchList t = [])
    (replacer : Match -> Option Text) : reviseOutside t p replacer = t := by
  rw [reviseOutside, revise, reviseAt, reviseWith_eq_self h]

theorem replaceOutside_eq_self {t : Text} {p : Pattern} (h : p.matchList t = []) (new : Text) :
    replaceOutside t p new = t :=
  reviseOutside_eq_self h _

theorem expandOutside_eq_self {t : Text} {p : Pattern} (h : p.matchList t = []) (replacement : Text) :
    expandOutside t p replacement = t :=
  reviseOutside_eq_self h _

end Region
end WikiEntry
