import WikiEntry.Proofs.Region.Union
import WikiEntry.Proofs.Template.RoundTrip
import WikiEntry.Proofs.Text.Numbers

/-!
# Templates that are edited

Reading numbers the positional parameters from one on, in the order in which they stand.  Every edit keeps them
numbered in this way, so that a template that was built by edits and printed is read as the same template, as long as
the texts that were given hold no delimiter.
-/

namespace WikiEntry

/-- The characters that templates, links, parameters and tags are made of. -/
def isDelimiter (ch : Char) : Bool :=
  ['\x7b', '\x7d', '[', ']', '|', '=', '<'].contains ch

def Text.Undelimited (t : Text) : Prop :=
  forall ch, ch ∈ t -> isDelimiter ch = false

instance (t : Text) : Decidable t.Undelimited :=
  List.decidableBAll (isDelimiter · = false) t

theorem Text.Undelimited.not_mem {t : Text} {ch : Char} (h : t.Undelimited) (hch : isDelimiter ch = true) : ch ∉ t := by
  intro hmem
  rw [h ch hmem] at hch
  cases hch

namespace Param

def index? : Param -> Option Nat
  | positional i _ => some i
  | named .. => none

/-- What is printed behind the bar. -/
def content : Param -> Text
  | positional _ v => v
  | named k v => k ++ '=' :: v

theorem render_eq (p : Param) : p.render = '|' :: p.content := by
  cases p with
  | positional i v => rfl
  | named k v => rfl

def Undelimited : Param -> Prop
  | positional _ v => v.Undelimited
  | named k v => k.Undelimited ∧ v.Undelimited

theorem index?_withValue (p : Param) (v : Text) : (p.withValue v).index? = p.index? := by
  cases p with
  | positional i v => rfl
  | named k v => rfl

theorem Undelimited.withValue {p : Param} {v : Text} (hp : p.Undelimited) (hv : v.Undelimited) :
    (p.withValue v).Undelimited := by
  cases p with
  | positional i v => exact hv
  | named k v => exact ⟨hp.1, hv⟩

end Param

namespace Template

def indices (ps : List Param) : List Nat :=
  ps.filterMap Param.index?

theorem length_indices (ps : List Param) : (indices ps).length = ps.countP (·.isPositional) := by
  induction ps with
  | nil => rfl
  | cons p ps ih =>
      cases p with
      | positional i v =>
          rw [List.countP_cons_of_pos rfl]
          exact congrArg (· + 1) ih
      | named k v =>
          rw [List.countP_cons_of_neg Bool.false_ne_true]
          exact ih

/-- Parameters that are read as they are printed. -/
structure Orderly (ps : List Param) : Prop where
  undelimited : forall p, p ∈ ps -> p.Undelimited
  numbered : exists count, indices ps = List.range' 1 count

theorem Orderly.indices_eq {ps : List Param} (h : Orderly ps) :
    indices ps = List.range' 1 (ps.countP (·.isPositional)) := by
  rcases h.numbered with ⟨count, hcount⟩
  rw [← length_indices, hcount, List.length_range']

/-!
# Reading what is printed
-/

/-- All of a text stands at the top level. -/
def atTop (t : Text) : List (Char × Bool) :=
  t.map fun ch => (ch, true)

theorem unmark_atTop (t : Text) : unmark (atTop t) = t := by
  rw [unmark, atTop, List.map_map]
  exact List.map_id t

theorem markFrom_nil {body : Text} (hbody : forall ch, ch ∈ body -> ch ≠ '\x7b' ∧ ch ≠ '[') (place : Nat) :
    markFrom [] place 0 0 body = atTop body := by
  induction body generalizing place with
  | nil => rfl
  | cons ch r ih =>
      rcases hbody ch List.mem_cons_self with ⟨hbrace, hbracket⟩
      rw [markFrom, ih fun d hd => hbody d (List.mem_cons_of_mem ch hd)]
      simp [Region.covers, hbrace, hbracket, atTop]

theorem not_mem_atTop {t : Text} {ch : Char} (h : ch ∉ t) : (ch, true) ∉ atTop t := by
  intro hmem
  rcases List.mem_map.mp hmem with ⟨d, hd, heq⟩
  exact h ((Prod.mk.inj heq).1 ▸ hd)

theorem paramsOf_content {ps : List Param} (hundelimited : forall p, p ∈ ps -> p.Undelimited) {index count : Nat}
    (hindices : indices ps = List.range' index count) : paramsOf index (ps.map fun p => atTop p.content) = ps := by
  -- Only positional parameters use up a number, so that the index is the one of the next of them.
  induction ps generalizing index count with
  | nil => rfl
  | cons p ps ih =>
      have hp := hundelimited p List.mem_cons_self
      have hps : forall q, q ∈ ps -> q.Undelimited := fun q hq => hundelimited q (List.mem_cons_of_mem p hq)
      cases p with
      | positional i v =>
          cases count with
          | zero => cases hindices
          | succ count =>
              rcases List.cons.inj hindices with ⟨rfl, hrest⟩
              have hvalue : ('=', true) ∉ atTop v := not_mem_atTop (Text.Undelimited.not_mem hp rfl)
              rw [List.map_cons, Param.content, paramsOf_positional hvalue, ih hps hrest, unmark_atTop]
      | named k v =>
          have happend : atTop (Param.named k v).content = atTop k ++ ('=', true) :: atTop v := List.map_append
          rw [List.map_cons, happend, paramsOf_named (not_mem_atTop (hp.1.not_mem rfl)), ih hps hindices, unmark_atTop,
            unmark_atTop]

/-- A template that is read as it is printed. -/
structure Printable (u : Template) : Prop where
  name : u.name.Undelimited
  params : Orderly u.params

theorem isDelimiter_of_mem_content {p : Param} (hp : p.Undelimited) {ch : Char} (hch : ch ∈ p.content) :
    ch = '=' ∨ isDelimiter ch = false := by
  cases p with
  | positional i v => exact Or.inr (hp ch hch)
  | named k v =>
      rcases List.mem_append.mp hch with hk | hrest
      · exact Or.inr (hp.1 ch hk)
      · rcases List.mem_cons.mp hrest with heq | hv
        · exact Or.inl heq
        · exact Or.inr (hp.2 ch hv)

theorem bar_not_mem_content {p : Param} (hp : p.Undelimited) : '|' ∉ p.content := by
  intro hbar
  rcases isDelimiter_of_mem_content hp hbar with heq | hplain
  · cases heq
  · cases hplain

variable {u : Template}

/-- Of the delimiters only bars and equals signs are printed between the braces. -/
theorem Printable.of_mem_body (h : u.Printable) {ch : Char} (hch : ch ∈ u.name ++ u.params.flatMap Param.render) :
    ch = '|' ∨ ch = '=' ∨ isDelimiter ch = false := by
  rcases List.mem_append.mp hch with hname | hparams
  · exact Or.inr (Or.inr (h.name ch hname))
  · rcases List.mem_flatMap.mp hparams with ⟨p, hp, hch⟩
    rw [p.render_eq] at hch
    rcases List.mem_cons.mp hch with heq | hcontent
    · exact Or.inl heq
    · exact Or.inr (isDelimiter_of_mem_content (h.params.undelimited p hp) hcontent)

theorem Printable.not_mem_body (h : u.Printable) {ch : Char} (hch : ch ≠ '|' ∧ ch ≠ '=' ∧ isDelimiter ch = true) :
    ch ∉ u.name ++ u.params.flatMap Param.render := by
  rcases hch with ⟨hbar, hequals, hdelimiter⟩
  intro hmem
  rcases h.of_mem_body hmem with heq | heq | hplain
  · exact hbar heq
  · exact hequals heq
  · rw [hplain] at hdelimiter
    cases hdelimiter

theorem Printable.mark_body (h : u.Printable) :
    mark (u.name ++ u.params.flatMap Param.render) =
      [('|', true)].intercalate (atTop u.name :: u.params.map fun p => atTop p.content) := by
  have hplain : forall ch, ch ∈ u.name ++ u.params.flatMap Param.render -> ch ≠ '\x7b' ∧ ch ≠ '[' := by
    intro ch hch
    constructor
    · exact ne_of_mem_of_not_mem hch (h.not_mem_body (by decide))
    · exact ne_of_mem_of_not_mem hch (h.not_mem_body (by decide))
  rw [mark, Region.hidden_eq_nil (h.not_mem_body (by decide)), markFrom_nil hplain,
    intercalate_cons_eq_flatMap, atTop, List.map_append, List.map_flatMap, List.flatMap_map]
  refine congrArg (atTop u.name ++ ·) (List.flatMap_congr fun p _ => ?_)
  rw [p.render_eq]
  rfl

theorem Printable.ofBody_eq (h : u.Printable) : ofBody (u.name ++ u.params.flatMap Param.render) = u := by
  have hbars : forall piece, piece ∈ atTop u.name :: u.params.map (fun p => atTop p.content) ->
      ('|', true) ∉ piece := by
    intro piece hpiece
    rcases List.mem_cons.mp hpiece with rfl | hpiece
    · exact not_mem_atTop (h.name.not_mem rfl)
    · rcases List.mem_map.mp hpiece with ⟨p, hp, rfl⟩
      exact not_mem_atTop (bar_not_mem_content (h.params.undelimited p hp))
  rw [ofBody, splitBars_eq_splitOn, h.mark_body, List.splitOn_intercalate _ hbars (List.cons_ne_nil _ _)]
  dsimp only
  rw [unmark_atTop, paramsOf_content h.params.undelimited h.params.indices_eq]

theorem Printable.parse?_render (h : u.Printable) : parse? u.render = some u := by
  refine parse?_eq_some_iff.mpr ⟨_, render_eq_inBraces u, ?_, h.ofBody_eq.symm⟩
  have hbraceless : forall ch, ch ∈ u.name ++ u.params.flatMap Param.render -> ch ≠ '\x7b' ∧ ch ≠ '\x7d' := by
    intro ch hch
    constructor
    · exact ne_of_mem_of_not_mem hch (h.not_mem_body (by decide))
    · exact ne_of_mem_of_not_mem hch (h.not_mem_body (by decide))
  rw [toClosing?_braceless hbraceless, toClosing?_last]
  exact congrArg some (Nat.add_comm 2 _)

/-!
# Edits of parameters
-/

variable {ps qs : List Param} {key value : Text}

theorem indices_cons (p : Param) (ps : List Param) : indices (p :: ps) = p.index?.toList ++ indices ps := by
  cases p with
  | positional i v => rfl
  | named k v => rfl

theorem indices_append (ps qs : List Param) : indices (ps ++ qs) = indices ps ++ indices qs :=
  List.filterMap_append

theorem Orderly.of_indices_eq (h : Orderly ps) (hundelimited : forall q, q ∈ qs -> q.Undelimited)
    (hindices : indices qs = indices ps) : Orderly qs :=
  ⟨hundelimited, hindices ▸ h.numbered⟩

theorem Orderly.cons_named (h : Orderly ps) (hkey : key.Undelimited) (hvalue : value.Undelimited) :
    Orderly (.named key value :: ps) :=
  h.of_indices_eq (List.forall_mem_cons.mpr ⟨⟨hkey, hvalue⟩, h.undelimited⟩) rfl

theorem Orderly.append_named (h : Orderly ps) (hkey : key.Undelimited) (hvalue : value.Undelimited) :
    Orderly (ps ++ [.named key value]) := by
  refine h.of_indices_eq (List.forall_mem_append.mpr ⟨h.undelimited, ?_⟩) ?_
  · exact List.forall_mem_singleton.mpr ⟨hkey, hvalue⟩
  · rw [indices_append]
    exact List.append_nil _

theorem undelimited_setFirst (hundelimited : forall p, p ∈ ps -> p.Undelimited) (hvalue : value.Undelimited) :
    forall p, p ∈ setFirst key value ps -> p.Undelimited := by
  induction ps with
  | nil => exact hundelimited
  | cons p ps ih =>
      rcases List.forall_mem_cons.mp hundelimited with ⟨hp, hps⟩
      rw [setFirst]
      split
      · exact List.forall_mem_cons.mpr ⟨hp.withValue hvalue, hps⟩
      · exact List.forall_mem_cons.mpr ⟨hp, ih hps⟩

theorem indices_setFirst (key value : Text) (ps : List Param) : indices (setFirst key value ps) = indices ps := by
  induction ps with
  | nil => rfl
  | cons p ps ih =>
      rw [setFirst]
      split
      · rw [indices_cons, p.index?_withValue, ← indices_cons]
      · rw [indices_cons, ih, ← indices_cons]

theorem Orderly.setFirst (h : Orderly ps) (key : Text) (hvalue : value.Undelimited) :
    Orderly (Template.setFirst key value ps) :=
  h.of_indices_eq (undelimited_setFirst h.undelimited hvalue) (indices_setFirst key value ps)

theorem answersTo_ofNumber {p : Param} {n : Nat} (hn : n < Text.numberBound) (hp : p.index? = some n) :
    p.answersTo (Text.ofNumber n) = true := by
  cases p with
  | positional i v =>
      rw [Param.answersTo, Text.trim_ofNumber, Text.readNumber?_ofNumber hn]
      exact beq_iff_eq.mpr hp.symm
  | named k v => cases hp

/-- A number that no parameter answers to lies behind all numbers there are. -/
theorem Orderly.countP_lt (h : Orderly ps) {n : Nat} (hpos : n ≠ 0) (hn : n < Text.numberBound)
    (hnone : ¬ ps.any (·.answersTo (Text.ofNumber n)) = true) : ps.countP (·.isPositional) < n := by
  refine Nat.lt_of_not_le fun hle => hnone ?_
  have hmem : n ∈ indices ps := by
    rw [h.indices_eq, List.mem_range'_1]
    omega
  rcases List.mem_filterMap.mp hmem with ⟨p, hp, hindex⟩
  exact List.any_eq_true.mpr ⟨p, hp, answersTo_ofNumber hn hindex⟩

theorem indices_map_positional (value : Text) (is : List Nat) : indices (is.map (Param.positional · value)) = is := by
  rw [indices, List.filterMap_map]
  exact List.filterMap_some

theorem Orderly.fill (h : Orderly ps) {n : Nat} (hn : ps.countP (·.isPositional) < n) (hvalue : value.Undelimited) :
    Orderly (ps ++ (List.range' (ps.countP (·.isPositional) + 1) (n - 1 - ps.countP (·.isPositional))).map
      (fun i => Param.positional i []) ++ [.positional n value]) := by
  constructor
  · refine List.forall_mem_append.mpr ⟨List.forall_mem_append.mpr ⟨h.undelimited, ?_⟩, ?_⟩
    · rintro p hp
      rcases List.mem_map.mp hp with ⟨i, _, rfl⟩
      exact nofun
    · exact List.forall_mem_singleton.mpr hvalue
  · rcases Nat.exists_eq_add_of_lt hn with ⟨missing, hmissing⟩
    have hsize : n - 1 - ps.countP (·.isPositional) = missing := by
      omega
    have hlast : indices [.positional n value] = List.range' (1 + (ps.countP (·.isPositional) + missing)) 1 := by
      rw [hmissing, Nat.add_comm 1]
      rfl
    exact ⟨_, by
      rw [indices_append, indices_append, h.indices_eq, indices_map_positional, hsize, hlast, Nat.add_comm _ 1,
        List.range'_append_1, List.range'_append_1]⟩

/-!
# Removing a parameter
-/

theorem undelimited_renumber {p : Param} {i : Nat} (hp : p.Undelimited) : (renumber i p).Undelimited := by
  cases p with
  | positional j v => exact hp
  | named k v => exact hp

theorem indices_map_renumber (i : Nat) (ps : List Param) :
    indices (ps.map (renumber i)) = (indices ps).map fun j => if i < j then j - 1 else j := by
  induction ps with
  | nil => rfl
  | cons p ps ih =>
      cases p with
      | positional j v => exact congrArg (_ :: ·) ih
      | named k v => exact ih

/-- Removing an index and moving up those behind it leaves no gap. -/
theorem exists_range'_of_removed {front back : List Nat} {i count : Nat}
    (h : front ++ i :: back = List.range' 1 count) :
    exists count', (front ++ back).map (fun j => if i < j then j - 1 else j) = List.range' 1 count' := by
  rcases List.range'_eq_append_iff.mp h.symm with ⟨size, _, hfront, hback⟩
  rw [Nat.mul_one] at hback
  cases hrest : count - size with
  | zero =>
      rw [hrest] at hback
      cases hback
  | succ rest =>
      rw [hrest] at hback
      rcases List.cons.inj hback with ⟨hi, rfl⟩
      -- What stands in front has smaller numbers and keeps them; what stands behind has larger ones.
      have hbefore : front.map (fun j => if i < j then j - 1 else j) = front := by
        refine (List.map_congr_left fun j hj => ?_).trans (List.map_id front)
        rw [hfront, List.mem_range'_1] at hj
        exact if_neg (by omega)
      have hbehind : (List.range' (1 + size + 1) rest).map (fun j => if i < j then j - 1 else j) =
          List.range' (1 + size) rest := by
        refine (List.map_congr_left fun j hj => ?_).trans (List.map_sub_range' (Nat.le_add_left 1 _) rest)
        rw [List.mem_range'_1] at hj
        exact if_pos (by omega)
      exact ⟨size + rest, by rw [List.map_append, hbefore, hbehind, hfront, List.range'_append_1]⟩

variable {front back : List Param}

theorem Orderly.remove_named {k v : Text} (h : Orderly (front ++ .named k v :: back)) : Orderly (front ++ back) := by
  rcases List.forall_mem_append.mp h.undelimited with ⟨hfront, hback⟩
  refine h.of_indices_eq (List.forall_mem_append.mpr ⟨hfront, (List.forall_mem_cons.mp hback).2⟩) ?_
  rw [indices_append, indices_append]
  rfl

theorem Orderly.remove_positional {i : Nat} {v : Text} (h : Orderly (front ++ .positional i v :: back)) :
    Orderly ((front ++ back).map (renumber i)) := by
  rcases List.forall_mem_append.mp h.undelimited with ⟨hfront, hback⟩
  rcases h.numbered with ⟨count, hcount⟩
  rw [indices_append] at hcount
  constructor
  · intro p hp
    rcases List.mem_map.mp hp with ⟨q, hq, rfl⟩
    exact undelimited_renumber (List.forall_mem_append.mpr ⟨hfront, (List.forall_mem_cons.mp hback).2⟩ q hq)
  · rw [indices_map_renumber, indices_append]
    exact exists_range'_of_removed hcount

/-- The parameter that is found is the first one that answers, and it is the one that is removed. -/
theorem exists_params_of_find? {p : Param} (h : u.find? key = some p) :
    exists front back, u.params = front ++ p :: back ∧ u.params.eraseP (·.answersTo key) = front ++ back ∧
      p.answersTo key = true ∧ forall q, q ∈ front -> ¬ q.answersTo key = true := by
  rcases List.find?_eq_some_iff_append.mp h with ⟨hanswers, front, back, heq, hbefore⟩
  have hnone : forall q, q ∈ front -> ¬ q.answersTo key = true := by
    intro q hq
    simpa using hbefore q hq
  refine ⟨front, back, heq, ?_, hanswers, hnone⟩
  rw [heq, List.eraseP_append_right _ hnone, List.eraseP_cons_of_pos hanswers]

theorem Printable.remove (h : u.Printable) (key : Text) : (u.remove key).Printable := by
  have hparams := h.params
  rw [Template.remove]
  cases hfound : u.find? key with
  | none =>
      have hkept : u.params.eraseP (·.answersTo key) = u.params :=
        List.eraseP_of_forall_not (List.find?_eq_none.mp hfound)
      rw [hkept]
      exact ⟨h.name, hparams⟩
  | some p =>
      rcases exists_params_of_find? hfound with ⟨front, back, heq, hkept, _⟩
      rw [heq] at hparams
      rw [hkept]
      cases p with
      | positional i v => exact ⟨h.name, hparams.remove_positional⟩
      | named k v => exact ⟨h.name, hparams.remove_named⟩

/-!
# Templates that edits build
-/

/-- What can be made of a new template when no text that is given holds a delimiter.  The number of a positional
parameter is a number that can be read. -/
inductive Built : Template -> Prop where
  | ofName {name : Text} (hname : name.Undelimited) : Built (ofName name)
  | setName {u : Template} {name : Text} (hname : name.Undelimited) : Built u -> Built (u.setName name)
  | set {u : Template} {key value : Text} (hkey : key.Undelimited) (hvalue : value.Undelimited) :
      Built u -> Built (u.set key value)
  | setAtFront {u : Template} {key value : Text} (hkey : key.Undelimited) (hvalue : value.Undelimited) :
      Built u -> Built (u.setAtFront key value)
  | setPositional {u : Template} {n : Nat} {value : Text} (hn : n < Text.numberBound) (hvalue : value.Undelimited) :
      Built u -> Built (u.setPositional n value)
  | remove {u : Template} (key : Text) : Built u -> Built (u.remove key)

theorem Printable.set (h : u.Printable) (hkey : key.Undelimited) (hvalue : value.Undelimited) :
    (u.set key value).Printable := by
  rw [Template.set]
  split
  · exact ⟨h.name, h.params.setFirst key hvalue⟩
  · exact ⟨h.name, h.params.append_named hkey hvalue⟩

theorem Printable.setAtFront (h : u.Printable) (hkey : key.Undelimited) (hvalue : value.Undelimited) :
    (u.setAtFront key value).Printable := by
  rw [Template.setAtFront]
  split
  · exact h.set hkey hvalue
  · exact ⟨h.name, h.params.cons_named hkey hvalue⟩

theorem Printable.setPositional (h : u.Printable) {n : Nat} (hn : n < Text.numberBound) (hvalue : value.Undelimited) :
    (u.setPositional n value).Printable := by
  rw [Template.setPositional]
  split
  · exact h
  · rename_i hpos
    dsimp only
    split
    · exact ⟨h.name, h.params.setFirst _ hvalue⟩
    · rename_i hnone
      exact ⟨h.name, h.params.fill (h.params.countP_lt hpos hn hnone) hvalue⟩

theorem Built.printable (h : u.Built) : u.Printable := by
  induction h with
  | ofName hname => exact ⟨hname, nofun, 0, rfl⟩
  | setName hname _ ih => exact ⟨hname, ih.params⟩
  | set hkey hvalue _ ih => exact ih.set hkey hvalue
  | setAtFront hkey hvalue _ ih => exact ih.setAtFront hkey hvalue
  | setPositional hn hvalue _ ih => exact ih.setPositional hn hvalue
  | remove key _ ih => exact ih.remove key

/-- A template that edits build is read as it is printed, and its positional parameters are numbered from one on in
the order of the list. -/
theorem Built.parse?_render_and_numbered (h : u.Built) :
    parse? u.render = some u ∧ indices u.params = List.range' 1 u.positionalCount :=
  ⟨h.printable.parse?_render, h.printable.params.indices_eq⟩

/-- A named parameter stands among positional ones and has the number of one of them; two of the positional ones were
filled in, and the first was removed. -/
def renumbered : Template :=
  ((((ofName "t").set "2" "x").setPositional 3 "c").setAtFront "k" "v").remove "1"

theorem parse?_render_and_numbered_renumbered :
    renumbered.Built ∧ parse? "\x7b\x7bt|k=v|2=x||c\x7d\x7d" = some renumbered ∧
      indices renumbered.params = [1, 2] := by
  have hset : ((ofName "t").set "2" "x").Built := .set (by decide) (by decide) (.ofName (by decide))
  have hfilled : (((ofName "t").set "2" "x").setPositional 3 "c").Built :=
    hset.setPositional (by decide) (by decide)
  have hbuilt : renumbered.Built := .remove "1" (hfilled.setAtFront (by decide) (by decide))
  have hrender : renumbered.render = "\x7b\x7bt|k=v|2=x||c\x7d\x7d" := by decide +kernel
  rcases hbuilt.parse?_render_and_numbered with ⟨hparse, hnumbered⟩
  rw [hrender] at hparse
  exact ⟨hbuilt, hparse, hnumbered⟩

end Template
end WikiEntry
