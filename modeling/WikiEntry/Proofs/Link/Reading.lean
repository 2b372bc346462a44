import WikiEntry.Proofs.Pattern.Greedy
import WikiEntry.Proofs.Text.Lines
import WikiEntry.Rule.Links

/-!
# What a link says

A link ends with the first two closing brackets.  What stands in front of its first bar is its target, and what stands
behind it is its label.  A reader sees the label, or the target if there is none, with the letters behind the brackets.
-/

namespace WikiEntry
namespace Links

/-!
# Texts within brackets
-/

/-- Every closing bracket is followed by something else, so that two that come behind the text are the first ones. -/
def staysOpen : Text -> Bool
  | [] => true
  | c :: r => (c ≠ ']' || r.head?.any (· ≠ ']')) && staysOpen r

theorem staysOpen_of_not_mem {t : Text} (ht : ']' ∉ t) : staysOpen t = true := by
  induction t with
  | nil => rfl
  | cons c r ih =>
      have hc : c ≠ ']' := fun h => ht (h ▸ List.mem_cons_self)
      rw [staysOpen, ih fun h => ht (List.mem_cons_of_mem c h)]
      simp [hc]

theorem staysOpen_append {t u : Text} (ht : staysOpen t = true) (hu : staysOpen u = true) :
    staysOpen (t ++ u) = true := by
  induction t with
  | nil => exact hu
  | cons c r ih =>
      rw [staysOpen, Bool.and_eq_true] at ht
      rw [List.cons_append, staysOpen, ih ht.2, Bool.and_true]
      cases r with
      | nil =>
          have hc : c ≠ ']' := by simpa using ht.1
          simp [hc]
      | cons d r => exact ht.1

theorem staysOpen_drop {t : Text} (ht : staysOpen t = true) (n : Nat) : staysOpen (t.drop n) = true := by
  induction t generalizing n with
  | nil => rw [List.drop_nil]; rfl
  | cons c r ih =>
      cases n with
      | zero => exact ht
      | succ n =>
          rw [staysOpen, Bool.and_eq_true] at ht
          exact ih ht.2 n

/-- Other letters may follow a piece of such a text. -/
theorem staysOpen_exchange {t u v : Text} (ht : staysOpen (t ++ u) = true) (hv : ']' ∉ v) (hne : v ≠ []) :
    staysOpen (t ++ v) = true := by
  induction t with
  | nil => exact staysOpen_of_not_mem hv
  | cons c r ih =>
      rw [List.cons_append, staysOpen, Bool.and_eq_true] at ht
      rw [List.cons_append, staysOpen, ih ht.2, Bool.and_true]
      cases r with
      | nil =>
          cases v with
          | nil => exact absurd rfl hne
          | cons d v =>
              have hd : d ≠ ']' := fun h => hv (h ▸ List.mem_cons_self)
              simp [hd]
      | cons d r => exact ht.1

theorem not_startsWith_closing {t : Text} (ht : staysOpen t = true) (hne : t ≠ []) (u : Text) :
    Text.startsWith (t ++ u) "]]" = false := by
  cases t with
  | nil => exact absurd rfl hne
  | cons c r =>
      rw [staysOpen, Bool.and_eq_true] at ht
      cases r with
      | nil =>
          have hc : c ≠ ']' := by simpa using ht.1
          simp [Text.startsWith, List.isPrefixOf, Ne.symm hc]
      | cons d r =>
          have hnext : c ≠ ']' ∨ d ≠ ']' := by simpa using ht.1
          rcases hnext with h | h <;> simp [Text.startsWith, List.isPrefixOf, Ne.symm h]

theorem splitOnce?_closing {t : Text} (ht : staysOpen t = true) (behind : Text) :
    (t ++ ("]]" ++ behind)).splitOnce? "]]" = some (t, behind) := by
  refine Text.splitOnce?_append (p := "]]") behind fun m hm => ?_
  rw [List.drop_append_of_le_length hm.le]
  exact not_startsWith_closing (staysOpen_drop ht m) (by simpa using hm) _

/-!
# Links as they are seen
-/

structure Link where
  target : Text
  /-- All that stands behind the first bar. -/
  label? : Option Text
  /-- The letters directly behind the closing brackets. -/
  letters : Text
  deriving DecidableEq, Repr

namespace Link

/-- The link that a text begins with. -/
def read? (t : Text) : Option Link :=
  (Text.after? "[[" t).bind fun r => (r.splitOnce? "]]").map fun (content, behind) =>
    let letters := behind.takeWhile isTrailLetter
    match content.splitOnce? "|" with
    | some (target, label) => ⟨target, some label, letters⟩
    | none => ⟨content, none, letters⟩

/-- The label, or the target if there is no label or a blank one. -/
def caption (l : Link) : Text :=
  (l.label?.filter fun label => !label.isBlank).getD l.target

/-- What a reader sees of a link. -/
def seen (l : Link) : Text :=
  l.caption ++ l.letters

theorem read?_bare {target : Text} (hbar : '|' ∉ target) (hopen : staysOpen target = true) (behind : Text) :
    read? ("[[" ++ (target ++ ("]]" ++ behind))) = some ⟨target, none, behind.takeWhile isTrailLetter⟩ := by
  have hafter : Text.after? "[[" ("[[" ++ (target ++ ("]]" ++ behind))) = some (target ++ ("]]" ++ behind)) :=
    Text.after?_eq_some_iff.mpr rfl
  have hsplit : target.splitOnce? "|" = none := Text.splitOnce?_singleton_eq_none hbar
  rw [read?, hafter, Option.bind_some, splitOnce?_closing hopen, Option.map_some]
  dsimp only
  rw [hsplit]

theorem read?_piped {target label : Text} (hbar : '|' ∉ target) (hopen : staysOpen (target ++ '|' :: label) = true)
    (behind : Text) :
    read? ("[[" ++ (target ++ '|' :: label ++ ("]]" ++ behind))) =
      some ⟨target, some label, behind.takeWhile isTrailLetter⟩ := by
  have hafter : Text.after? "[[" ("[[" ++ (target ++ '|' :: label ++ ("]]" ++ behind))) =
      some (target ++ '|' :: label ++ ("]]" ++ behind)) :=
    Text.after?_eq_some_iff.mpr rfl
  have hsplit : Text.splitOnce? (target ++ '|' :: label) "|" = some (target, label) :=
    Text.splitOnce?_singleton_append hbar label
  rw [read?, hafter, Option.bind_some, splitOnce?_closing hopen, Option.map_some]
  dsimp only
  rw [hsplit]

end Link

/-!
# Links that are found
-/

/-- The texts that may stand behind a bar. -/
def IsLabel (t : Text) : Prop :=
  '|' ∉ t ∧ staysOpen t = true

def label : Pattern :=
  .rounds (.maybeOne (.char ']') ++ .one (.noneOf [']', '|']))

/-- What the rounds of a repetition have in common is common to all that it reads. -/
theorem of_reads_loop {greedy atLeastOnce : Bool} {p : Pattern} {motive : Text -> Prop} {s x : ReadState} {w : Text}
    (h : Pattern.Reads (.loop greedy atLeastOnce p) s w x) (hnil : motive [])
    (hround : forall {s y : ReadState} {u v : Text}, Pattern.Reads p s u y -> motive v -> motive (u ++ v)) :
    motive w := by
  generalize hq : Pattern.loop greedy atLeastOnce p = q at h
  induction h generalizing atLeastOnce with
  | loopNone s => exact hnil
  | loopMore hp _ _ ih =>
      cases hq
      exact hround hp (ih rfl)
  | _ => cases hq

theorem isLabel_of_reads {s x : ReadState} {w : Text} (h : Pattern.Reads label s w x) : IsLabel w := by
  refine of_reads_loop h ⟨List.not_mem_nil, rfl⟩ fun hround hrest => ?_
  rcases hround.seq_inv with ⟨u, v, y, rfl, hbracket, hchar⟩
  rcases hchar.one_inv with ⟨c, rfl, hc, _⟩
  rw [CharSet.holds_noneOf] at hc
  have hc : c ≠ ']' ∧ c ≠ '|' := by simpa using hc
  have hpiece : IsLabel (u ++ [c]) := by
    cases hbracket with
    | run _ hset _ hmost =>
        have hlength := hmost 1 rfl
        match u, hset, hlength with
        | [], _, _ => exact ⟨by simpa using Ne.symm hc.2, staysOpen_of_not_mem (by simpa using Ne.symm hc.1)⟩
        | [d], hset, _ =>
            have hd : ']' = d := beq_iff_eq.mp (hset d List.mem_cons_self)
            rw [← hd]
            exact ⟨by simpa using Ne.symm hc.2, by simp [staysOpen, hc.1]⟩
  refine ⟨?_, staysOpen_append hpiece.2 hrest.2⟩
  rw [List.mem_append, not_or]
  exact ⟨hpiece.1, hrest.1⟩

/-- The labels of a link, of which the last one is the group. -/
theorem exists_labels {s x : ReadState} {w : Text} (h : Pattern.Reads (.rounds ("|" ++ .group 2 label)) s w x) :
    exists labels : List Text, w = labels.flatMap ('|' :: ·) ∧ (forall l, l ∈ labels -> IsLabel l) ∧
      x.groups.lookup 2 = (labels.getLast?.map fun l => ⟨x.place - l.length, x.place⟩).or (s.groups.lookup 2) ∧
      forall i, i ≠ 2 -> x.groups.lookup i = s.groups.lookup i := by
  generalize hq : Pattern.rounds ("|" ++ .group 2 label) = q at h
  induction h with
  | loopNone s => exact ⟨[], rfl, List.forall_mem_nil _, rfl, fun _ _ => rfl⟩
  | @loopMore _ _ _ s y x u v hround hlater _ ih =>
      cases hq
      rcases hround.seq_inv with ⟨bar, l, z, rfl, hbar, hgroup⟩
      rcases hbar.lit_inv with ⟨rfl, hgroups⟩
      rcases hgroup.group_inv with ⟨_, hlabel, _⟩
      rcases ih rfl with ⟨labels, rfl, hlabels, hlast, hothers⟩
      have hclosed := hgroup.group_groupless rfl
      refine ⟨l :: labels, rfl, List.forall_mem_cons.mpr ⟨isLabel_of_reads hlabel, hlabels⟩, ?_, fun i hi => ?_⟩
      · rw [hlast]
        cases labels with
        | nil =>
            have hplace : x.place = z.place + l.length := hlater.advances.2.trans hgroup.advances.2
            rw [hclosed, hplace, List.lookup_cons_self]
            show some _ = some (⟨z.place + l.length - l.length, z.place + l.length⟩ : Span)
            rw [Nat.add_sub_cancel]
        | cons l' labels =>
            rw [List.getLast?_cons_cons, List.getLast?_cons]
            rfl
      · rw [hothers i hi, hclosed, hgroups, List.lookup_cons, beq_false_of_ne hi]
  | _ => cases hq

theorem slice_of_drop_eq {t u v w : Text} {n place : Nat} (h : t.drop n = u ++ (v ++ w))
    (hplace : place = n + u.length) : t.slice ⟨place, place + v.length⟩ = v := by
  unfold Text.slice Span.size
  rw [hplace, ← List.drop_drop, h, List.drop_left, Nat.add_sub_cancel_left, List.take_left]

/-- The parts of a link that a match has read. -/
structure Says (t : Text) (m : Match) (target : Text) (labels : List Text) (trail : Text) : Prop where
  drop_eq : t.drop m.start =
    "[[" ++ (target ++ (labels.flatMap ('|' :: ·) ++ ("]]" ++ (trail ++ t.drop m.stop))))
  bracket_not_mem : ']' ∉ target
  bar_not_mem : '|' ∉ target
  isLabel : forall l, l ∈ labels -> IsLabel l
  text_target : m.text t 1 = target
  text?_label : m.text? t 2 = labels.getLast?
  text_trail : m.text t 3 = trail
  bracket_next : (t.drop m.stop).head?.all (· == '[') = true

theorem slice_label {t target : Text} {labels : List Text} {rest : Text} {n place : Nat}
    (h : t.drop n = "[[" ++ (target ++ (labels.flatMap ('|' :: ·) ++ rest)))
    (hplace : place = n + 2 + target.length + (labels.flatMap ('|' :: ·)).length) :
    (labels.getLast?.map fun l : Text => (⟨place - l.length, place⟩ : Span)).map t.slice = labels.getLast? := by
  rcases List.eq_nil_or_concat' labels with rfl | ⟨init, l, rfl⟩
  · rfl
  · have hflat : (init ++ [l]).flatMap ('|' :: ·) = init.flatMap ('|' :: ·) ++ '|' :: l := by simp
    rw [hflat, List.append_assoc] at h
    rw [hflat, List.length_append, List.length_cons] at hplace
    rw [List.getLast?_concat, Option.map_some, Option.map_some]
    have hword : t.drop n = ("[[" ++ target ++ init.flatMap ('|' :: ·) ++ "|") ++ (l ++ rest) := by
      rw [h]
      simp only [List.append_assoc]
      rfl
    have hstart : place - l.length = n + ("[[" ++ target ++ init.flatMap ('|' :: ·) ++ "|" : Text).length := by
      have htwo : ("[[" : Text).length = 2 := rfl
      have hone : ("|" : Text).length = 1 := rfl
      simp only [List.length_append]
      omega
    have hstop : place - l.length + l.length = place := by omega
    have hslice := slice_of_drop_eq hword hstart
    rw [hstop] at hslice
    rw [hslice]

theorem exists_says {t : Text} {m : Match} (hm : m ∈ link.matchList t)
    (hcolon : (t.slice m.span).startsWith "[[:" = false) :
    exists target labels trail, Says t m target labels trail := by
  rcases (Pattern.inOrder_matchList _ t).matched m hm with ⟨w, s, h⟩
  have hslice := h.slice_eq
  rcases h.reads.seq_inv with ⟨w₅, trail, s₅, hw₅, hreads, htrail⟩
  rcases hreads.seq_inv with ⟨w₄, closing, s₄, rfl, hreads, hclosing⟩
  rcases hreads.seq_inv with ⟨w₃, behind, s₃, rfl, hreads, hlabels⟩
  rcases hreads.seq_inv with ⟨w₂, target, s₂, rfl, hreads, htarget⟩
  rcases hreads.seq_inv with ⟨opening, colon, s₁, rfl, hopening, hcolons⟩
  rcases hopening.lit_inv with ⟨rfl, hgroups₁⟩
  rcases hclosing.lit_inv with ⟨rfl, hgroups₅⟩
  rcases exists_labels hlabels with ⟨labels, rfl, hall, hlast, hothers⟩
  have hnone : colon = [] := by
    cases colon with
    | nil => rfl
    | cons c colon =>
        have hc : ':' = c := beq_iff_eq.mp (hcolons.run_inv.1 c List.mem_cons_self)
        rw [hslice, hw₅, ← hc] at hcolon
        cases hcolon
  subst hnone
  rcases htarget.group_inv with ⟨_, htargetRun, _⟩
  have hchars := htargetRun.run_inv.1
  have hgroups₃ := htarget.group_groupless rfl
  have hgroups := htrail.group_groupless rfl
  have hgroups₂ : s₂.groups = [] := (hcolons.groups_eq rfl).trans hgroups₁
  have hplace₂ : s₂.place = m.start + 2 := hcolons.advances.2.trans hopening.advances.2
  have hplace₄ := hlabels.advances.2.trans (congrArg (· + _) htarget.advances.2)
  have hplace₅ := hclosing.advances.2
  have hstop : t.drop m.stop = s.cursor.rest := by
    rw [h.stop_eq, ← List.drop_drop, h.rest_eq, List.drop_left]
  have hdrop : t.drop m.start =
      "[[" ++ (target ++ (labels.flatMap ('|' :: ·) ++ ("]]" ++ (trail ++ t.drop m.stop)))) := by
    rw [h.rest_eq, hw₅, hstop]
    simp only [List.append_assoc, List.nil_append]
  refine ⟨target, labels, trail, hdrop, ?_, ?_, hall, ?_, ?_, ?_, ?_⟩
  · intro hmem
    have hch := hchars _ hmem
    rw [CharSet.holds_noneOf] at hch
    cases hch
  · intro hmem
    have hch := hchars _ hmem
    rw [CharSet.holds_noneOf] at hch
    cases hch
  · have hlookup : m.groups.lookup 1 = some ⟨s₂.place, s₂.place + target.length⟩ := by
      rw [h.groups_eq, hgroups, hgroups₅]
      show s₄.groups.lookup 1 = _
      rw [hothers 1 (by decide), hgroups₃]
      rfl
    rw [Match.text_of_lookup (by decide) hlookup]
    exact slice_of_drop_eq hdrop hplace₂
  · have hlookup : m.groups.lookup 2 = labels.getLast?.map fun l => ⟨s₄.place - l.length, s₄.place⟩ := by
      rw [h.groups_eq, hgroups, hgroups₅]
      show s₄.groups.lookup 2 = _
      rw [hlast, hgroups₃, hgroups₂]
      exact Option.or_none
    rw [Match.text?, Match.group?, if_neg (by decide), hlookup]
    exact slice_label hdrop (hplace₂ ▸ hplace₄)
  · have hlookup : m.groups.lookup 3 = some ⟨s₅.place, s₅.place + trail.length⟩ := by
      rw [h.groups_eq, hgroups]
      rfl
    rw [Match.text_of_lookup (by decide) hlookup]
    have hword : t.drop m.start =
        ("[[" ++ target ++ labels.flatMap ('|' :: ·) ++ "]]") ++ (trail ++ t.drop m.stop) := by
      rw [hdrop]
      simp only [List.append_assoc]
    refine slice_of_drop_eq hword ?_
    have htwo : ("[[" : Text).length = 2 := rfl
    simp only [List.length_append]
    omega
  · have hnext := Pattern.head?_drop_stop hm
    simpa [CharSet.holds_noneOf, beq_eq_decide] using hnext

/-- A bracket ends the letters behind a link. -/
theorem takeWhile_append_of_bracket {rest : Text} (hrest : rest.head?.all (· == '[') = true) (t : Text) :
    (t ++ rest).takeWhile isTrailLetter = t.takeWhile isTrailLetter := by
  have hnone : rest.takeWhile isTrailLetter = [] := by
    cases rest with
    | nil => rfl
    | cons c r =>
        have hc : c = '[' := by simpa using hrest
        rw [hc]
        exact List.takeWhile_cons_of_neg (by decide)
  rw [List.takeWhile_append, hnone, List.append_nil]
  split
  · rename_i hlength
    exact ((List.takeWhile_prefix _).eq_of_length hlength).symm
  · rfl

theorem flatMap_bar {labels : List Text} (hne : labels ≠ []) :
    labels.flatMap ('|' :: ·) = '|' :: Text.joinWith "|" labels := by
  induction labels with
  | nil => exact absurd rfl hne
  | cons l labels ih =>
      by_cases hlast : labels = []
      · rw [hlast]
        simp [Text.joinWith]
      · rw [List.flatMap_cons, ih hlast, Text.joinWith_cons hlast, List.append_assoc]
        rfl

theorem staysOpen_flatMap {labels : List Text} (h : forall l, l ∈ labels -> IsLabel l) :
    staysOpen (labels.flatMap ('|' :: ·)) = true := by
  induction labels with
  | nil => rfl
  | cons l labels ih =>
      rcases List.forall_mem_cons.mp h with ⟨hl, h⟩
      exact staysOpen_append (staysOpen_append (t := ['|']) (by decide) hl.2) (ih h)

/-- A match reads the link that the text begins with where the match does. -/
theorem Says.read?_eq {t target trail : Text} {m : Match} {labels : List Text} (h : Says t m target labels trail)
    (hne : labels ≠ []) :
    Link.read? (t.drop m.start) =
      some ⟨target, some (Text.joinWith "|" labels), trail.takeWhile isTrailLetter⟩ := by
  have hopen : staysOpen (target ++ '|' :: Text.joinWith "|" labels) = true := by
    rw [← flatMap_bar hne]
    exact staysOpen_append (staysOpen_of_not_mem h.bracket_not_mem) (staysOpen_flatMap h.isLabel)
  rw [h.drop_eq, flatMap_bar hne, ← List.append_assoc target, Link.read?_piped h.bar_not_mem hopen,
    takeWhile_append_of_bracket h.bracket_next]

end Links
end WikiEntry
