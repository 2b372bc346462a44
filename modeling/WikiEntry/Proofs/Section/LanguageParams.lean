import WikiEntry.Proofs.Section.Languages
import WikiEntry.Proofs.Template.Edited

/-!
# Parameters of a language header

The parameters beside the code are set and removed by their keys, and the key of the code is refused by its text.  But a
template reads a key as a number before it asks for the parameter of that number, so that the code answers to every other
spelling of the number one too.  Such a key finds the parameter that holds the code, and it is then that the code changes.
-/

namespace WikiEntry

namespace Param

theorem trim_one : Text.trim "1" = "1" := by
  decide

theorem answersTo_one_iff {p : Param} :
    p.answersTo "1" = true <-> (exists v, p = positional 1 v) ∨ exists k v, p = named k v ∧ k.trim = "1" := by
  cases p with
  | positional i v =>
      have hone : Text.readNumber? (Text.trim "1") = some 1 := by decide
      rw [answersTo, hone, beq_iff_eq, Option.some.injEq]
      simp [eq_comm]
  | named k v =>
      rw [answersTo, trim_one, beq_iff_eq]
      simp

/-- A named parameter answers to one text, up to the blanks around it; so what answers to two texts is positional. -/
theorem eq_positional_of_answersTo {p : Param} {key : Text} (hone : p.answersTo "1" = true)
    (hkey : p.answersTo key = true) (hne : key.trim ≠ "1") :
    (exists v, p = positional 1 v) ∧ Text.readNumber? key.trim = some 1 := by
  rcases answersTo_one_iff.mp hone with ⟨v, rfl⟩ | ⟨k, v, rfl, hk⟩
  · exact ⟨⟨v, rfl⟩, beq_iff_eq.mp hkey⟩
  · exact absurd ((beq_iff_eq.mp hkey).symm.trans hk) hne

theorem answersTo_withValue (p : Param) (key value : Text) : (p.withValue value).answersTo key = p.answersTo key := by
  cases p with
  | positional i v => rfl
  | named k v => rfl

theorem value_withValue (p : Param) (value : Text) : (p.withValue value).value = value := by
  cases p with
  | positional i v => rfl
  | named k v => rfl

/-- What answers to the number one when the first positional parameter is gone: the second one, or one of that name. -/
def isNextOne : Param -> Bool
  | positional i _ => i == 2
  | named k _ => k.trim == "1"

end Param

namespace Template

/-!
# Numbered parameters
-/

/-- The positional parameters are numbered from one on, in the order in which they stand. -/
def Numbered (ps : List Param) : Prop :=
  exists count, indices ps = List.range' 1 count

variable {ps front back : List Param} {u : Template} {key value : Text}

theorem exists_indices_paramsOf (index : Nat) (pieces : List (List (Char × Bool))) :
    exists count, indices (paramsOf index pieces) = List.range' index count := by
  induction pieces generalizing index with
  | nil => exact ⟨0, rfl⟩
  | cons piece pieces ih =>
      by_cases hkey : ('=', true) ∈ piece
      · rcases List.eq_append_cons_of_mem hkey with ⟨k, v, rfl, hfirst⟩
        rw [paramsOf_named hfirst, indices_cons]
        exact ih index
      · rcases ih (index + 1) with ⟨count, hcount⟩
        refine ⟨count + 1, ?_⟩
        rw [paramsOf_positional hkey, indices_cons, hcount]
        rfl

theorem Numbered.of_indices_eq {qs : List Param} (h : Numbered ps) (heq : indices qs = indices ps) : Numbered qs := by
  rcases h with ⟨count, hcount⟩
  exact ⟨count, heq.trans hcount⟩

theorem numbered_ofBody (body : Text) : Numbered (ofBody body).params := by
  rcases exists_splitBars (mark body) with ⟨name, pieces, hsplit, _⟩
  rw [ofBody, hsplit]
  exact exists_indices_paramsOf 1 pieces

theorem numbered_of_parse? {t : Text} (h : parse? t = some u) : Numbered u.params := by
  rcases parse?_eq_some_iff.mp h with ⟨body, _, _, rfl⟩
  exact numbered_ofBody body

theorem Numbered.set (h : Numbered u.params) (key value : Text) : Numbered (u.set key value).params := by
  rw [Template.set]
  split
  · exact h.of_indices_eq (indices_setFirst key value u.params)
  · exact h.of_indices_eq ((indices_append _ _).trans (List.append_nil _))

theorem Numbered.setPositional_one (h : Numbered u.params) (value : Text) :
    Numbered (u.setPositional 1 value).params := by
  rw [Template.setPositional, if_neg Nat.one_ne_zero]
  dsimp only
  split
  · exact h.of_indices_eq (indices_setFirst _ value u.params)
  · rename_i hnone
    -- The first positional parameter would answer.
    have hempty : indices u.params = [] := by
      rcases h with ⟨count, hcount⟩
      cases count with
      | zero => exact hcount
      | succ count =>
          have hmem : 1 ∈ indices u.params := by
            rw [hcount]
            exact List.mem_cons_self
          rcases List.mem_filterMap.mp hmem with ⟨p, hp, hindex⟩
          exact absurd (List.any_eq_true.mpr ⟨p, hp, answersTo_ofNumber (by decide) hindex⟩) hnone
    have hcount : u.positionalCount = 0 := by
      rw [positionalCount, ← length_indices, hempty]
      rfl
    refine ⟨1, ?_⟩
    rw [hcount, indices_append, indices_append, hempty]
    rfl

/-- The other parameters when one of them is removed: those behind a positional one move up. -/
def movedUp : (removed : Param) -> List Param -> List Param
  | .positional i _, ps => ps.map (renumber i)
  | .named .., ps => ps

theorem params_remove {p : Param} (h : u.find? key = some p) :
    exists front back, u.params = front ++ p :: back ∧ (u.remove key).params = movedUp p (front ++ back) ∧
      forall q, q ∈ front -> ¬ q.answersTo key = true := by
  rcases exists_params_of_find? h with ⟨front, back, hparams, herased, _, hfront⟩
  refine ⟨front, back, hparams, ?_, hfront⟩
  rw [Template.remove, h, herased]
  cases p with
  | positional i v => rfl
  | named k v => rfl

theorem remove_of_find?_eq_none (h : u.find? key = none) : u.remove key = u := by
  rw [Template.remove, h, List.eraseP_of_forall_not (List.find?_eq_none.mp h)]

theorem Numbered.remove (h : Numbered u.params) (key : Text) : Numbered (u.remove key).params := by
  cases hfound : u.find? key with
  | none =>
      rw [remove_of_find?_eq_none hfound]
      exact h
  | some p =>
      rcases params_remove hfound with ⟨front, back, hparams, hremoved, _⟩
      rw [hparams] at h
      rw [hremoved]
      rcases h with ⟨count, hcount⟩
      rw [indices_append, indices_cons] at hcount
      cases p with
      | positional i v =>
          rw [movedUp, Numbered, indices_map_renumber, indices_append]
          exact exists_range'_of_removed hcount
      | named k v => exact ⟨count, (indices_append front back).trans hcount⟩

theorem Numbered.index?_ne {i : Nat} {v : Text} (h : Numbered (front ++ .positional i v :: back)) :
    forall p, p ∈ front ++ back -> p.index? ≠ some i := by
  rcases h with ⟨count, hcount⟩
  have hnodup : (indices (front ++ .positional i v :: back)).Nodup := by
    rw [hcount]
    exact List.nodup_range'
  have hsplit : indices (front ++ .positional i v :: back) = indices front ++ i :: indices back := indices_append _ _
  rw [hsplit, List.nodup_middle, ← indices_append] at hnodup
  intro p hp hindex
  exact (List.nodup_cons.mp hnodup).1 (List.mem_filterMap.mpr ⟨p, hp, hindex⟩)

/-- In front of the first positional parameter all others are named. -/
theorem Numbered.indices_front {v : Text} (h : Numbered (front ++ .positional 1 v :: back)) : indices front = [] := by
  have hother := h.index?_ne
  rcases h with ⟨count, hcount⟩
  rw [indices_append] at hcount
  cases hfront : indices front with
  | nil => rfl
  | cons i is =>
      rw [hfront] at hcount
      have hone : 1 ∈ indices front := by
        cases count with
        | zero => cases hcount
        | succ count =>
            rw [hfront, (List.cons.inj hcount).1]
            exact List.mem_cons_self
      rcases List.mem_filterMap.mp hone with ⟨p, hp, hindex⟩
      exact absurd hindex (hother p (List.mem_append_left back hp))

theorem Numbered.one_le {i : Nat} {v : Text} (h : Numbered (front ++ .positional i v :: back)) : 1 ≤ i := by
  rcases h with ⟨count, hcount⟩
  have hmem : i ∈ indices (front ++ .positional i v :: back) := by
    rw [indices_append]
    exact List.mem_append_right _ List.mem_cons_self
  rw [hcount, List.mem_range'_1] at hmem
  exact hmem.1

/-!
# Looking the first parameter up after a change
-/

/-- What is found after a parameter got a new value is what was found before, with the new value if it is that one. -/
theorem find?_setFirst (other key value : Text) (ps : List Param) :
    (setFirst key value ps).find? (·.answersTo other) =
      if ps.find? (·.answersTo other) = ps.find? (·.answersTo key) then
        (ps.find? (·.answersTo other)).map (·.withValue value)
      else ps.find? (·.answersTo other) := by
  induction ps with
  | nil => rfl
  | cons p ps ih =>
      rw [setFirst]
      by_cases hkey : p.answersTo key = true
      · rw [if_pos hkey, List.find?_cons_of_pos (p := fun q : Param => q.answersTo key) hkey]
        by_cases hother : p.answersTo other = true
        · have hset : (p.withValue value).answersTo other = true := by
            rw [p.answersTo_withValue, hother]
          rw [List.find?_cons_of_pos hset, List.find?_cons_of_pos hother, if_pos rfl]
          rfl
        · have hset : ¬ (p.withValue value).answersTo other = true := by
            rw [p.answersTo_withValue]
            exact hother
          have hne : ps.find? (·.answersTo other) ≠ some p := fun h => hother (List.find?_some h)
          rw [List.find?_cons_of_neg hset, List.find?_cons_of_neg hother, if_neg hne]
      · rw [if_neg hkey, List.find?_cons_of_neg (p := fun q : Param => q.answersTo key) hkey]
        by_cases hother : p.answersTo other = true
        · have hne : some p ≠ ps.find? (·.answersTo key) := fun h => hkey (List.find?_some h.symm)
          rw [List.find?_cons_of_pos hother, List.find?_cons_of_pos hother, if_neg hne]
        · rw [List.find?_cons_of_neg hother, List.find?_cons_of_neg hother, ih]

theorem find?_set (other key value : Text) (u : Template) (hother : other.trim ≠ key.trim) :
    (u.set key value).find? other =
      if u.find? other = u.find? key then (u.find? other).map (·.withValue value) else u.find? other := by
  rw [Template.set]
  split
  · exact find?_setFirst other key value u.params
  · rename_i hnone
    have hkey : u.find? key = none := by
      rw [find?, List.find?_eq_none]
      intro p hp hanswers
      exact hnone (List.any_eq_true.mpr ⟨p, hp, hanswers⟩)
    have hnew : ¬ (Param.named key value).answersTo other = true := by
      rw [Param.answersTo, beq_iff_eq]
      exact fun h => hother h.symm
    have happend : find? { u with params := u.params ++ [.named key value] } other = u.find? other := by
      rw [find?, find?, List.find?_append, List.find?_cons_of_neg hnew, List.find?_nil, Option.or_none]
    rw [happend, hkey]
    cases u.find? other <;> rfl

theorem value_renumber (i : Nat) (p : Param) : (renumber i p).value = p.value := by
  cases p with
  | positional j v => rfl
  | named k v => rfl

theorem renumber_of_index?_eq_none {i : Nat} {p : Param} (h : p.index? = none) : renumber i p = p := by
  cases p with
  | positional j v => cases h
  | named k v => rfl

/-- Behind the first positional parameter nothing moves up to its place. -/
theorem answersTo_one_renumber {i : Nat} (hi : 1 < i) (p : Param) :
    (renumber i p).answersTo "1" = p.answersTo "1" := by
  cases p with
  | positional j v =>
      rw [Bool.eq_iff_iff, Param.answersTo_one_iff, Param.answersTo_one_iff, renumber]
      simp only [Param.positional.injEq, exists_and_left, reduceCtorEq, false_and, exists_const, or_false]
      split <;> grind
  | named k v => rfl

theorem answersTo_one_renumber_one {p : Param} (hp : p.index? ≠ some 1) :
    (renumber 1 p).answersTo "1" = p.isNextOne := by
  cases p with
  | positional j v =>
      have hne : j ≠ 1 := fun h => hp (congrArg some h)
      rw [Bool.eq_iff_iff, Param.answersTo_one_iff, renumber, Param.isNextOne, beq_iff_eq]
      simp only [Param.positional.injEq, exists_and_left, reduceCtorEq, false_and, exists_const, or_false]
      split <;> grind
  | named k v =>
      rw [renumber_of_index?_eq_none rfl, Param.answersTo, Param.trim_one, Param.isNextOne]

theorem find?_middle {p : Param -> Bool} {q : Param} (hq : ¬ p q = true) :
    (front ++ q :: back).find? p = (front ++ back).find? p := by
  rw [List.find?_append, List.find?_append, List.find?_cons_of_neg hq]

theorem find?_map_renumber {i : Nat} (hi : 1 < i) (ps : List Param) :
    (ps.map (renumber i)).find? (·.answersTo "1") = (ps.find? (·.answersTo "1")).map (renumber i) := by
  rw [List.find?_map]
  congr 2
  funext p
  exact answersTo_one_renumber hi p

theorem renumber_of_answersTo_one {i : Nat} (hi : 1 ≤ i) {p : Param} (hp : p.answersTo "1" = true) :
    renumber i p = p := by
  rcases Param.answersTo_one_iff.mp hp with ⟨v, rfl⟩ | ⟨k, v, rfl, _⟩
  · rw [renumber, if_neg (Nat.not_lt.mpr hi)]
  · rfl

/-- Removing a parameter that does not answer to the number one leaves the one that does. -/
theorem find?_one_remove {q : Param} (h : Numbered u.params) (hq : u.find? key = some q)
    (hnot : ¬ q.answersTo "1" = true) : (u.remove key).find? "1" = u.find? "1" := by
  rcases params_remove hq with ⟨front, back, hparams, hremoved, _⟩
  rw [hparams] at h
  rw [find?, find?, hremoved, hparams, find?_middle hnot]
  cases q with
  | positional i v =>
      have hi : 1 < i := by
        have hne : i ≠ 1 := by
          rintro rfl
          exact hnot (Param.answersTo_one_iff.mpr (Or.inl ⟨v, rfl⟩))
        exact Nat.lt_of_le_of_ne h.one_le (Ne.symm hne)
      rw [movedUp, find?_map_renumber hi]
      cases hfound : (front ++ back).find? (·.answersTo "1") with
      | none => rfl
      | some p => exact congrArg some (renumber_of_answersTo_one (Nat.le_of_lt hi) (List.find?_some hfound))
  | named k v => rfl

/-- Removing the first positional parameter leaves a named one in front of it that answers to the number one. -/
theorem find?_one_remove_positional {p : Param} {v : Text} (h : Numbered u.params)
    (hq : u.find? key = some (.positional 1 v)) (hp : u.find? "1" = some p) (hne : p ≠ .positional 1 v) :
    (u.remove key).find? "1" = some p := by
  rcases params_remove hq with ⟨front, back, hparams, hremoved, _⟩
  rw [hparams] at h
  rw [find?, hparams, List.find?_append,
    List.find?_cons_of_pos (Param.answersTo_one_iff.mpr (Or.inl ⟨v, rfl⟩))] at hp
  have hfront : front.find? (·.answersTo "1") = some p := by
    cases hfound : front.find? (·.answersTo "1") with
    | some q =>
        rw [hfound] at hp
        exact hp
    | none =>
        rw [hfound] at hp
        exact absurd (Option.some.inj hp).symm hne
  have hkept : front.map (renumber 1) = front := by
    refine (List.map_congr_left fun q hq => ?_).trans (List.map_id front)
    apply renumber_of_index?_eq_none
    exact List.filterMap_eq_nil_iff.mp h.indices_front q hq
  rw [find?, hremoved, movedUp, List.map_append, hkept, List.find?_append, hfront]
  rfl

/-- Removing the parameter that answers to the number one leaves the next one. -/
theorem find?_one_remove_self {v : Text} (h : Numbered u.params) (hq : u.find? key = some (.positional 1 v)) :
    ((u.remove key).find? "1").map Param.value = (u.params.find? Param.isNextOne).map Param.value := by
  rcases params_remove hq with ⟨front, back, hparams, hremoved, _⟩
  rw [hparams] at h
  have hnext : forall p, p ∈ front ++ back -> (renumber 1 p).answersTo "1" = p.isNextOne :=
    fun p hp => answersTo_one_renumber_one (h.index?_ne p hp)
  rw [find?, hremoved, movedUp, hparams, find?_middle (Bool.not_eq_true _ |>.mpr rfl), List.find?_map]
  have hsame : (front ++ back).find? ((·.answersTo "1") ∘ renumber 1) = (front ++ back).find? Param.isNextOne :=
    List.find?_congr hnext
  rw [hsame, Option.map_map]
  congr 1
  funext p
  exact value_renumber 1 p

end Template

namespace LanguageHeader

variable {h : LanguageHeader} {key value : Text}

/-!
# Keys that find the code
-/

/-- A key that is not the text of the number one, but finds the parameter that holds the code. -/
def SpellsCode (h : LanguageHeader) (key : Text) : Prop :=
  key.trim ≠ "1" ∧ exists p, h.template.find? "1" = some p ∧ h.template.find? key = some p

/-- The code that is left when the parameter with the code is removed. -/
def nextCode (h : LanguageHeader) : Text :=
  ((h.template.params.find? Param.isNextOne).map (·.value.trim)).getD []

theorem SpellsCode.readNumber?_eq (hkey : h.SpellsCode key) : Text.readNumber? key.trim = some 1 := by
  rcases hkey with ⟨hne, p, hone, hfound⟩
  exact (Param.eq_positional_of_answersTo (List.find?_some hone) (List.find?_some hfound) hne).2

theorem SpellsCode.exists_positional (hkey : h.SpellsCode key) : exists v,
    h.template.find? "1" = some (.positional 1 v) ∧ h.template.find? key = some (.positional 1 v) := by
  rcases hkey with ⟨hne, p, hone, hfound⟩
  rcases Param.eq_positional_of_answersTo (List.find?_some hone) (List.find?_some hfound) hne with ⟨⟨v, rfl⟩, _⟩
  exact ⟨v, hone, hfound⟩

theorem code_setParam_of_not (hkey : ¬ h.SpellsCode key) : (h.setParam key value).code = h.code := by
  rw [setParam]
  split
  · rfl
  · rename_i hne
    rw [beq_iff_eq] at hne
    have hother : Text.trim "1" ≠ key.trim := fun heq => hne (heq.symm.trans Param.trim_one)
    rw [code, code, Template.get?, Template.get?, Template.find?_set _ _ _ _ hother]
    split
    · rename_i heq
      cases hone : h.template.find? "1" with
      | none => rfl
      | some p => exact absurd ⟨hne, p, hone, heq ▸ hone⟩ hkey
    · rfl

theorem code_setParam_of_spellsCode (hkey : h.SpellsCode key) : (h.setParam key value).code = value.trim := by
  rcases hkey with ⟨hne, p, hone, hfound⟩
  have hother : Text.trim "1" ≠ key.trim := fun heq => hne (heq.symm.trans Param.trim_one)
  rw [setParam, if_neg (by rwa [beq_iff_eq]), code, Template.get?, Template.find?_set _ _ _ _ hother,
    if_pos (hone.trans hfound.symm), hone]
  exact congrArg Text.trim (p.value_withValue value)

/-- Setting a parameter leaves the code unless the key finds the parameter with the code, and the value is another one. -/
theorem code_setParam_eq_iff : (h.setParam key value).code = h.code <-> (h.SpellsCode key -> value.trim = h.code) := by
  by_cases hkey : h.SpellsCode key
  · rw [code_setParam_of_spellsCode hkey]
    exact ⟨fun heq _ => heq, fun heq => heq hkey⟩
  · exact iff_of_true (code_setParam_of_not hkey) fun hspells => absurd hspells hkey

theorem code_removeParam_of_not (hn : Template.Numbered h.template.params) (hkey : ¬ h.SpellsCode key) :
    (h.removeParam key).code = h.code := by
  rw [removeParam]
  split
  · rename_i hcan
    rw [canRemove, Bool.and_eq_true, bne_iff_ne] at hcan
    rw [code, code, Template.get?, Template.get?]
    cases hq : h.template.find? key with
    | none => rw [Template.remove_of_find?_eq_none hq]
    | some q =>
        by_cases hone : q.answersTo "1" = true
        · rcases Param.eq_positional_of_answersTo hone (List.find?_some hq) hcan.1 with ⟨⟨v, rfl⟩, _⟩
          cases hp : h.template.find? "1" with
          | none => exact absurd hone (List.find?_eq_none.mp hp _ (List.mem_of_find?_eq_some hq))
          | some p =>
              have hne : p ≠ .positional 1 v := by
                rintro rfl
                exact hkey ⟨hcan.1, _, hp, hq⟩
              rw [Template.find?_one_remove_positional hn hq hp hne]
        · rw [Template.find?_one_remove hn hq hone]
  · rfl

theorem code_removeParam_of_spellsCode (hn : Template.Numbered h.template.params) (hkey : h.SpellsCode key) :
    (h.removeParam key).code = h.nextCode := by
  rcases hkey.exists_positional with ⟨v, _, hfound⟩
  have hhas : h.template.has key = true :=
    List.any_eq_true.mpr ⟨_, List.mem_of_find?_eq_some hfound, List.find?_some hfound⟩
  have hcan : h.canRemove key = true := by
    rw [canRemove, hhas, Bool.and_true, bne_iff_ne]
    exact hkey.1
  have hnext := congrArg (Option.map Text.trim) (Template.find?_one_remove_self hn hfound)
  rw [Option.map_map, Option.map_map] at hnext
  rw [removeParam, if_pos hcan, code, nextCode]
  exact congrArg (Option.getD · []) hnext

theorem code_removeParam_eq_iff (hn : Template.Numbered h.template.params) :
    (h.removeParam key).code = h.code <-> (h.SpellsCode key -> h.nextCode = h.code) := by
  by_cases hkey : h.SpellsCode key
  · rw [code_removeParam_of_spellsCode hn hkey]
    exact ⟨fun heq _ => heq, fun heq => heq hkey⟩
  · exact iff_of_true (code_removeParam_of_not hn hkey) fun hspells => absurd hspells hkey

theorem name_setParam : (h.setParam key value).name = h.name := by
  rw [setParam]
  split <;> rfl

theorem name_removeParam : (h.removeParam key).name = h.name := by
  rw [removeParam]
  split <;> rfl

end LanguageHeader

namespace Section

/-!
# Languages of reachable sections
-/

theorem exists_read_of_language {c : Config} {t : Text} {s : Section} {language : LanguageHeader} (h : read c t = .ok s)
    (hlanguage : s.language? = some language) : exists header, LanguageHeader.read c header = .ok (some language) := by
  rcases exists_of_bind_eq_ok h with ⟨line, _, h⟩
  by_cases htwo : line.level = 2
  · simp only [if_pos htwo] at h
    rcases exists_of_bind_eq_ok h with ⟨language', hread, h⟩
    cases h
    exact ⟨_, hread.trans (congrArg Except.ok hlanguage)⟩
  · simp only [if_neg htwo] at h
    cases h
    cases hlanguage

theorem exists_read_of_language_setHeader {c : Config} {header : Text} {s : Section} {language : LanguageHeader}
    (hlanguage : (s.setHeader c header).language? = some language) :
    exists header, LanguageHeader.read c header = .ok (some language) := by
  by_cases htwo : s.level = 2
  · simp only [setHeader, if_pos htwo] at hlanguage
    cases hread : LanguageHeader.read c header.trim with
    | error e =>
        rw [hread] at hlanguage
        cases hlanguage
    | ok language' =>
        rw [hread] at hlanguage
        exact ⟨_, hread.trans (congrArg Except.ok hlanguage)⟩
  · simp only [setHeader, if_neg htwo] at hlanguage
    cases hlanguage

theorem language?_of_setLevel {s : Section} {level : Nat} {language : LanguageHeader}
    (hlanguage : ((s.setLevel level).toOption.getD s).language? = some language) : s.language? = some language := by
  cases hset : s.setLevel level with
  | error e =>
      rw [hset] at hlanguage
      exact hlanguage
  | ok t =>
      rw [hset] at hlanguage
      rcases exists_of_bind_eq_ok hset with ⟨_, _, hset⟩
      cases hset
      by_cases htwo : level = 2
      · simpa [Except.toOption, htwo] using hlanguage
      · simp [Except.toOption, htwo] at hlanguage

theorem language?_updateLanguage (s : Section) (f : LanguageHeader -> LanguageHeader) :
    (s.updateLanguage f).language? = s.language?.map f := by
  unfold updateLanguage
  cases hl : s.language? with
  | none => exact hl
  | some language => rfl

theorem language?_removeLanguageParam (s : Section) (key : Text) :
    (s.removeLanguageParam key).language? = s.language?.map (·.removeParam key) := by
  unfold removeLanguageParam
  split
  · exact language?_updateLanguage s _
  · rename_i hcan
    cases hl : s.language? with
    | none => rfl
    | some language =>
        rw [canRemoveLanguageParam, hl, Option.any_some] at hcan
        rw [Option.map_some, LanguageHeader.removeParam, if_neg hcan]

/-- What holds of every language that is read or made, and is kept by every change of a parameter, holds of the language of
every section. -/
theorem Reachable.of_language {s : Section} (h : s.Reachable) {P : LanguageHeader -> Prop}
    (hread : forall c header language, LanguageHeader.read c header = .ok (some language) -> P language)
    (hmade : forall c code, P (.ofCode c code)) (hcode : forall c code l, P l -> P (l.setCode c code))
    (hset : forall key value l, P l -> P (l.setParam key value))
    (hremoved : forall key l, P l -> P (l.removeParam key)) :
    forall language, s.language? = some language -> P language := by
  have hmap : forall {s : Section} {f : LanguageHeader -> LanguageHeader},
      (forall language, s.language? = some language -> P language) -> (forall l, P l -> P (f l)) ->
        forall language, s.language?.map f = some language -> P language := by
    intro s f hs hf language hlanguage
    rcases Option.map_eq_some_iff.mp hlanguage with ⟨l, hl, rfl⟩
    exact hf l (hs l hl)
  induction h with
  | read hr =>
      intro language hlanguage
      rcases exists_read_of_language hr hlanguage with ⟨header, hheader⟩
      exact hread _ header language hheader
  | ofHeader hmade =>
      intro language hlanguage
      rcases exists_of_bind_eq_ok hmade with ⟨_, _, hmade⟩
      cases hmade
      cases hlanguage
  | ofLanguage c code =>
      intro language hlanguage
      cases hlanguage
      exact hmade c code
  | @change s x _ ih =>
      cases x with
      | setHeader c header =>
          intro language hlanguage
          rw [SectionChange.run] at hlanguage
          rcases exists_read_of_language_setHeader hlanguage with ⟨header, hheader⟩
          exact hread _ header language hheader
      | setLevel level =>
          intro language hlanguage
          rw [SectionChange.run] at hlanguage
          exact ih language (language?_of_setLevel hlanguage)
      | setLanguageCode c code =>
          rw [SectionChange.run, setLanguageCode, language?_updateLanguage]
          exact hmap ih (hcode c code)
      | setLanguageParam key value =>
          rw [SectionChange.run, setLanguageParam, language?_updateLanguage]
          exact hmap ih (hset key value)
      | removeLanguageParam key =>
          rw [SectionChange.run, language?_removeLanguageParam]
          exact hmap ih (hremoved key)
      | setIntro t => exact ih
      | setLeading n => exact ih
      | setTrailing n => exact ih
      | setFormat format => exact ih

/-- The positional parameters of a language template are always numbered from one on. -/
theorem Reachable.numbered {s : Section} (h : s.Reachable) {language : LanguageHeader}
    (hlanguage : s.language? = some language) : Template.Numbered language.template.params := by
  refine h.of_language (P := fun l => Template.Numbered l.template.params) ?_ ?_ ?_ ?_ ?_ language hlanguage
  · intro c header l hread
    unfold LanguageHeader.read at hread
    split at hread
    · rename_i hparse
      dsimp only at hread
      split at hread
      · cases hread
      · cases hread
        exact Template.numbered_of_parse? hparse
    · cases hread
  · exact fun c code => Template.Numbered.setPositional_one (u := Template.ofName "lengua") ⟨0, rfl⟩ _
  · exact fun c code l hl => hl.setPositional_one _
  · intro key value l hl
    rw [LanguageHeader.setParam]
    split
    · exact hl
    · exact hl.set key value
  · intro key l hl
    rw [LanguageHeader.removeParam]
    split
    · exact hl.remove key
    · exact hl

/-- Setting or removing a parameter of a language section leaves the name of the language, and it leaves the code unless
the key is another spelling of the number one that finds the parameter with the code: then the code becomes the new
value, or the one that is left. -/
theorem Reachable.languageCode?_params_iff {s : Section} (h : s.Reachable) {language : LanguageHeader}
    (hlanguage : s.language? = some language) (key value : Text) :
    ((s.setLanguageParam key value).languageCode? = s.languageCode? <->
      (language.SpellsCode key -> value.trim = language.code)) ∧
    ((s.removeLanguageParam key).languageCode? = s.languageCode? <->
      (language.SpellsCode key -> language.nextCode = language.code)) ∧
    (s.setLanguageParam key value).language?.map LanguageHeader.name = some language.name ∧
    (s.removeLanguageParam key).language?.map LanguageHeader.name = some language.name ∧
    (language.SpellsCode key -> key.trim ≠ "1" ∧ Text.readNumber? key.trim = some 1) := by
  have hset : (s.setLanguageParam key value).language? = some (language.setParam key value) := by
    rw [setLanguageParam, language?_updateLanguage, hlanguage, Option.map_some]
  have hremoved : (s.removeLanguageParam key).language? = some (language.removeParam key) := by
    rw [language?_removeLanguageParam, hlanguage, Option.map_some]
  simp only [languageCode?, hset, hremoved, hlanguage, Option.map_some, Option.some.injEq]
  exact ⟨LanguageHeader.code_setParam_eq_iff, LanguageHeader.code_removeParam_eq_iff (h.numbered hlanguage),
    LanguageHeader.name_setParam, LanguageHeader.name_removeParam, fun hkey => ⟨hkey.1, hkey.readNumber?_eq⟩⟩

/-- A header that gives its code twice, with a parameter between that has the name of a number. -/
def repeatedCode : LanguageHeader :=
  ⟨⟨"lengua", [.positional 1 "es", .named "1.0" "a", .positional 2 "es"]⟩, .plain, "español"⟩

theorem languageCode?_params_iff_repeatedCode :
    exists s : Section, s.Reachable ∧ s.language? = some repeatedCode ∧ repeatedCode.SpellsCode " +01" ∧
      ((s.setLanguageParam " +01" "fr").languageCode? = s.languageCode? <->
        (repeatedCode.SpellsCode " +01" -> Text.trim "fr" = repeatedCode.code)) ∧
      ((s.removeLanguageParam " +01").languageCode? = s.languageCode? <->
        (repeatedCode.SpellsCode " +01" -> repeatedCode.nextCode = repeatedCode.code)) ∧
      (s.setLanguageParam " +01" "fr").language?.map LanguageHeader.name = some repeatedCode.name ∧
      (s.removeLanguageParam " +01").language?.map LanguageHeader.name = some repeatedCode.name ∧
      (repeatedCode.SpellsCode " +01" -> Text.trim " +01" ≠ "1" ∧ Text.readNumber? (Text.trim " +01") = some 1) := by
  have hfacts : (Section.read .builtin "==\x7b\x7blengua|es|1.0=a|es\x7d\x7d==").map Section.language? =
      .ok (some repeatedCode) := by
    decide +kernel
  rcases exists_of_map_eq_ok hfacts with ⟨s, hread, hlanguage⟩
  have hspells : repeatedCode.SpellsCode " +01" := ⟨by decide, .positional 1 "es", by decide, by decide⟩
  exact ⟨s, .read hread, hlanguage, hspells, (Reachable.read hread).languageCode?_params_iff hlanguage " +01" "fr"⟩

/-- Not every key that is set or removed leaves the code. -/
theorem not_forall_languageCode?_eq :
    ¬ forall (s : Section) (key value : Text), s.Reachable -> s.isLanguage = true ->
      (s.setLanguageParam key value).languageCode? = s.languageCode? ∧
        (s.removeLanguageParam key).languageCode? = s.languageCode? := by
  intro h
  have hfacts : (Section.read .builtin "==\x7b\x7blengua|es\x7d\x7d==").map
      (fun s => (s.isLanguage, s.languageCode?, (s.setLanguageParam "01" "fr").languageCode?)) =
        .ok (true, some "es", some "fr") := by
    decide +kernel
  rcases exists_of_map_eq_ok hfacts with ⟨s, hread, heq⟩
  simp only [Prod.mk.injEq] at heq
  have hset := (h s "01" "fr" (.read hread) heq.1).1
  rw [heq.2.1, heq.2.2] at hset
  exact absurd hset (by decide)

end Section
end WikiEntry
