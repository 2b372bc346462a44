import WikiEntry.Proofs.Page.HeaderLines
import WikiEntry.Proofs.Page.TrailingLinks

/-!
# Pages with other headers

Where every section of a page is changed in the same way, one after the other, nothing but the sections changes.  A
change of headers alone leaves what stands around the headers, so that the page is printed, but for blanks, as the same
pieces with the new headers between them.
-/

namespace WikiEntry

namespace Page

/-- Changes the sections of a list, one after the other. -/
def modifyAll (f : Section -> Section) (p : Page) (ids : List Nat) : Page :=
  ids.foldl (fun p i => p.modify i f) p

section ModifyAll

variable {f g : Section -> Section} {p : Page} {ids : List Nat}

theorem modifyAll_nil (f : Section -> Section) (p : Page) : p.modifyAll f [] = p :=
  rfl

theorem modifyAll_cons (f : Section -> Section) (p : Page) (i : Nat) (ids : List Nat) :
    p.modifyAll f (i :: ids) = (p.modify i f).modifyAll f ids :=
  rfl

theorem modify_congr {i : Nat} (h : f (p.get i) = g (p.get i)) : p.modify i f = p.modify i g := by
  have hsections : p.sections.modify i f = p.sections.modify i g := by
    refine List.ext_getElem? fun j => ?_
    rw [List.getElem?_modify, List.getElem?_modify]
    cases hs : p.sections[j]? with
    | none => rfl
    | some s =>
        have hget : p.get j = s := by
          rw [get, List.getD_eq_getElem?_getD, hs]
          rfl
        by_cases hij : i = j
        · rw [hij, hget] at h
          simp [hij, h]
        · simp [hij]
  rw [modify, modify, hsections]

theorem modify_id (p : Page) (i : Nat) : p.modify i (fun s => s) = p := by
  have hsections : p.sections.modify i (fun s => s) = p.sections := List.modify_id i p.sections
  rw [modify, hsections]

/-- Nothing but the sections is changed. -/
theorem exists_sections_modifyAll (f : Section -> Section) (p : Page) (ids : List Nat) :
    exists sections, p.modifyAll f ids = { p with sections := sections } := by
  induction ids generalizing p with
  | nil => exact ⟨p.sections, rfl⟩
  | cons i ids ih => exact ih (p.modify i f)

theorem order_modifyAll (f : Section -> Section) (p : Page) (ids : List Nat) : (p.modifyAll f ids).order = p.order := by
  rcases exists_sections_modifyAll f p ids with ⟨sections, heq⟩
  rw [heq]

theorem get_modifyAll (hids : ids.Nodup) {j : Nat} (hj : j < p.sections.length) :
    (p.modifyAll f ids).get j = if j ∈ ids then f (p.get j) else p.get j := by
  induction ids generalizing p with
  | nil => rfl
  | cons i ids ih =>
      rcases List.nodup_cons.mp hids with ⟨hi, hids⟩
      have hlength : j < (p.modify i f).sections.length := by
        rw [modify, List.length_modify]
        exact hj
      refine (ih hids hlength).trans ?_
      rw [get_modify]
      by_cases hij : i = j
      · rw [if_neg (hij ▸ hi), if_pos ⟨hij, hj⟩, if_pos (hij ▸ List.mem_cons_self)]
      · rw [if_neg fun (h : i = j ∧ _) => hij h.1]
        simp only [List.mem_cons, Ne.symm hij, false_or]

theorem WellFormed.modifyAll (h : p.WellFormed) (hf : forall s, s.Sound -> (f s).Sound)
    (hl : forall s, (f s).level = s.level) (ids : List Nat) : (p.modifyAll f ids).WellFormed := by
  induction ids generalizing p with
  | nil => exact h
  | cons i ids ih => exact ih (h.modify i hf hl)

theorem splitTrailing_modifyAll {c : Config} (hf : forall s b, f { s with body := b } = { f s with body := b })
    (p : Page) (ids : List Nat) : splitTrailing c (p.modifyAll f ids) = (splitTrailing c p).modifyAll f ids := by
  induction ids generalizing p with
  | nil => rw [modifyAll_nil, modifyAll_nil]
  | cons i ids ih =>
      have hfirst : splitTrailing c (p.modify i f) = (splitTrailing c p).modify i f := splitTrailing_modify hf i
      rw [modifyAll_cons, ih, hfirst, modifyAll_cons]

/-- What a change keeps of every section stays. -/
theorem get_modifyAll_congr {α : Type} {g : Section -> α} (hg : forall s, g (f s) = g s) (p : Page) (ids : List Nat)
    (j : Nat) : g ((p.modifyAll f ids).get j) = g (p.get j) := by
  induction ids generalizing p with
  | nil => rfl
  | cons i ids ih =>
      refine (ih (p.modify i f)).trans ?_
      rw [get_modify]
      split
      · exact hg _
      · rfl

/-- What stands around the headers stays. -/
theorem around_modifyAll (hf : forall s raw, (f s).around raw = s.around raw) (p : Page) (ids : List Nat)
    (raws : Nat -> Text) : (p.modifyAll f ids).around raws = p.around raws := by
  have hsections := fun i => get_modifyAll_congr (g := (·.around (raws i))) (fun s => hf s (raws i)) p ids i
  rcases exists_sections_modifyAll f p ids with ⟨sections, heq⟩
  rw [heq] at hsections ⊢
  exact congrArg (p.front ++ Text.joinWith "\n" ·) (List.map_congr_left fun i _ => hsections i)

end ModifyAll

theorem unblanked_render_of_blankIsEmpty {p : Page} (h : forall i, i ∈ p.order -> (p.get i).BlankIsEmpty)
    (spaces : Nat -> Nat) : (p.renderSpaced spaces).unblanked = (p.around p.header).unblanked :=
  unblanked_around fun i hi => (h i hi).unblanked_between (spaces i)

/-- A page is printed as pieces with the headers between them. -/
theorem exists_pieces_around (p : Page) :
    exists (first : Text) (before behind : Nat -> Text), forall raws : Nat -> Text, (p.around raws).unblanked =
      (first ++ p.order.flatMap fun i => before i ++ raws i ++ behind i).unblanked := by
  have hjoin : forall ls : List Text, (Text.joinWith "\n" ls).unblanked = ls.flatMap Text.unblanked := by
    intro ls
    induction ls with
    | nil => rfl
    | cons l ls ih =>
        by_cases hls : ls = []
        · rw [hls]
          exact (List.append_nil _).symm
        · have hnewline : Text.unblanked "\n" = [] := by decide
          rw [Text.joinWith_cons hls, Text.unblanked_append, Text.unblanked_append, hnewline, ih, List.append_nil,
            List.flatMap_cons]
  refine ⟨p.front, fun i => (p.get i).line.before ++ (p.get i).line.signsOf, fun i => (p.get i).line.signsOf ++
    (p.get i).line.after ++ (if (p.get i).intro.isEmpty then [] else ['\n']) ++ (p.get i).body.render, fun raws => ?_⟩
  rw [around, Text.unblanked_append, Text.unblanked_append, hjoin, List.flatMap_map]
  refine congrArg (p.front.unblanked ++ ·) (Eq.trans ?_ List.filter_flatMap.symm)
  refine List.flatMap_congr fun i _ => ?_
  simp only [Section.around, HeaderLine.around, List.append_assoc]
  rfl

theorem trailingContent_readWhole {c : Config} {title t : Text} {q : Page} (h : readWhole c title t = .ok q) : q.trailingContent = [] := by
  rcases readWhole_eq_ok h with ⟨_, rfl⟩ | ⟨_, _, rfl⟩
  · rfl
  · rfl

theorem header_splitTrailing (c : Config) (q : Page) {i : Nat} (hi : i ∈ q.order) :
    (splitTrailing c q).header i = q.header i := by
  have hheadings := headings_splitTrailing c q
  rw [headings, headings, order_splitTrailing] at hheadings
  exact (Prod.mk.inj (List.map_inj_left.mp hheadings i hi)).2

end Page
end WikiEntry
