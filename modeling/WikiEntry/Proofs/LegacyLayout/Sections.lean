import WikiEntry.Proofs.LegacyLayout.Names
import WikiEntry.Proofs.Section.RoundTrip
import WikiEntry.Proofs.Template.RoundTrip

/-!
# Current templates and sections

A template is current if its name and its parameters are, and a section if its header line and its body are.  Reading
makes them out of current texts, they are printed as such, and changes that bring in current texts keep them current.
-/

namespace WikiEntry
namespace LegacyLayout

/-!
# Templates
-/

theorem isCurrent_append_flatMap_render {a : Text} {ps : List Param} {behind : Text} :
    IsCurrent (a ++ (ps.flatMap Param.render ++ '\x7d' :: behind)) <->
      IsCurrent a ∧ (forall p, p ∈ ps -> IsCurrent p.render) ∧ IsCurrent behind := by
  induction ps generalizing a with
  | nil => simp [isCurrent_append_iff (c := '\x7d') (by decide)]
  | cons p ps ih =>
      have hbar : forall v : Text, IsCurrent (a ++ ('|' :: v ++ ps.flatMap Param.render ++ '\x7d' :: behind)) <->
          IsCurrent a ∧ (IsCurrent ('|' :: v) ∧ forall q, q ∈ ps -> IsCurrent q.render) ∧ IsCurrent behind := by
        intro v
        rw [List.cons_append, List.cons_append, isCurrent_append_iff (by decide), List.append_assoc, ih,
          isCurrent_cons_iff (by decide), and_assoc]
      rw [List.flatMap_cons, List.forall_mem_cons]
      cases p with
      | positional i v => exact hbar v
      | named k v => exact hbar (k ++ '=' :: v)

theorem isCurrent_render_iff {u : Template} :
    IsCurrent u.render <-> IsCurrent ("\x7b\x7b".toList ++ u.name) ∧ forall p, p ∈ u.params -> IsCurrent p.render := by
  have hclose : IsCurrent ['\x7d'] := rfl
  have hrender : u.render = ("\x7b\x7b".toList ++ u.name) ++ (u.params.flatMap Param.render ++ '\x7d' :: ['\x7d']) := by
    rw [Template.render, List.append_assoc ("\x7b\x7b".toList ++ u.name)]
    rfl
  rw [hrender, isCurrent_append_flatMap_render]
  simp only [hclose, and_true]

theorem IsCurrent.value {p : Param} (h : IsCurrent p.render) : IsCurrent p.value := by
  cases p with
  | positional i v => exact (isCurrent_cons_iff (by decide)).mp h
  | named k v =>
      have hnamed : IsCurrent ('|' :: k ++ '=' :: v) := h
      exact ((isCurrent_append_iff (by decide)).mp hnamed).2

theorem IsCurrent.withValue {p : Param} {v : Text} (h : IsCurrent p.render) (hv : IsCurrent v) :
    IsCurrent (p.withValue v).render := by
  cases p with
  | positional i v' => exact (isCurrent_cons_iff (by decide)).mpr hv
  | named k v' =>
      have hnamed : IsCurrent ('|' :: k ++ '=' :: v') := h
      show IsCurrent ('|' :: k ++ '=' :: v)
      exact (isCurrent_append_iff (by decide)).mpr ⟨((isCurrent_append_iff (by decide)).mp hnamed).1, hv⟩

theorem isCurrent_get? {u : Template} {key v : Text} (h : forall p, p ∈ u.params -> IsCurrent p.render)
    (hv : u.get? key = some v) : IsCurrent v := by
  rcases Option.map_eq_some_iff.mp hv with ⟨p, hp, rfl⟩
  exact (h p (List.mem_of_find?_eq_some hp)).value.trim

theorem isCurrent_remove {u : Template} (h : IsCurrent u.render) (key : Text) : IsCurrent (u.remove key).render := by
  rcases isCurrent_render_iff.mp h with ⟨hname, hparams⟩
  have hkept : forall p, p ∈ u.params.eraseP (·.answersTo key) -> IsCurrent p.render := fun p hp =>
    hparams p (List.mem_of_mem_eraseP hp)
  have hrenumbered : forall i p, p ∈ (u.params.eraseP (·.answersTo key)).map (Template.renumber i) -> IsCurrent p.render := by
    intro i p hp
    rcases List.mem_map.mp hp with ⟨q, hq, rfl⟩
    have hcurrent := hkept q hq
    cases q with
    | positional j v => exact hcurrent
    | named k v => exact hcurrent
  rw [isCurrent_render_iff, Template.remove]
  split
  · exact ⟨hname, hrenumbered _⟩
  · exact ⟨hname, hkept⟩

theorem isCurrent_set {u : Template} {key value : Text} (h : IsCurrent u.render) (hkey : IsCurrent key)
    (hvalue : IsCurrent value) : IsCurrent (u.set key value).render := by
  rcases isCurrent_render_iff.mp h with ⟨hname, hparams⟩
  have hfirst : forall ps : List Param, (forall p, p ∈ ps -> IsCurrent p.render) ->
      forall p, p ∈ Template.setFirst key value ps -> IsCurrent p.render := by
    intro ps hps
    induction ps with
    | nil => exact List.forall_mem_nil _
    | cons q ps ih =>
        rcases List.forall_mem_cons.mp hps with ⟨hq, hps⟩
        rw [Template.setFirst]
        split
        · exact List.forall_mem_cons.mpr ⟨hq.withValue hvalue, hps⟩
        · exact List.forall_mem_cons.mpr ⟨hq, ih hps⟩
  rw [isCurrent_render_iff, Template.set]
  split
  · exact ⟨hname, hfirst u.params hparams⟩
  · refine ⟨hname, fun p hp => ?_⟩
    rcases List.mem_append.mp hp with hp | hp
    · exact hparams p hp
    · rw [List.mem_singleton.mp hp]
      show IsCurrent ('|' :: key ++ '=' :: value)
      exact (isCurrent_append_iff (by decide)).mpr ⟨(isCurrent_cons_iff (by decide)).mpr hkey, hvalue⟩

/-!
# Bodies
-/

theorem isCurrent_ofText {t : Text} (h : IsCurrent t) : IsCurrent (Body.ofText t).text := by
  rw [Body.ofText]
  split
  · rfl
  · exact (h.trimRightBy isBlank_of_eq_newline).trimLeftBy _

theorem isCurrent_body_render {b : Body} (h : IsCurrent b.text) : IsCurrent b.render := by
  rw [Body.render, List.append_assoc, isCurrent_replicate_append (by decide), isCurrent_append_replicate (by decide)]
  exact h

/-!
# Sections
-/

/-- Every text of a section is current, and a sign stands on either side of its header. -/
structure CurrentSection (s : Section) : Prop where
  one_le_level : 1 ≤ s.line.level
  before : IsCurrent s.line.before
  header : IsCurrent s.line.header
  after : IsCurrent s.line.after
  body : IsCurrent s.body.text
  language : forall h, s.language? = some h -> IsCurrent h.render

theorem currentSection_default : CurrentSection default where
  one_le_level := Nat.le_refl 1
  before := rfl
  header := rfl
  after := rfl
  body := rfl
  language := nofun

/-- What stands between signs may be cut out and put in. -/
theorem isCurrent_around_iff {h : HeaderLine} {raw : Text} (hlevel : 1 ≤ h.level) :
    IsCurrent (h.around raw) <-> IsCurrent h.before ∧ IsCurrent raw ∧ IsCurrent h.after := by
  rcases Nat.exists_eq_add_of_le' hlevel with ⟨n, hn⟩
  have hsigns : h.signsOf = '=' :: List.replicate n '=' := by
    rw [HeaderLine.signsOf, hn, List.replicate_succ]
  have haround : h.around raw =
      h.before ++ '=' :: (List.replicate n '=' ++ (raw ++ '=' :: (List.replicate n '=' ++ h.after))) := by
    simp [HeaderLine.around, hsigns]
  rw [haround, isCurrent_append_iff (by decide), isCurrent_replicate_append (by decide), isCurrent_append_iff (by decide),
    isCurrent_replicate_append (by decide)]

theorem isCurrent_format_render {header : Text} (h : IsCurrent header) (format : HeaderFormat) :
    IsCurrent (format.render header) := by
  have hspaces : forall n, squeeze (List.replicate n ' ') = [] := by
    intro n
    refine List.filter_eq_nil_iff.mpr fun c hc => ?_
    rw [List.eq_of_mem_replicate hc]
    decide
  cases format with
  | padded lead trail =>
      rw [IsCurrent, HeaderFormat.render, squeeze_append, squeeze_append, hspaces, hspaces, List.nil_append,
        List.append_nil]
      exact h
  | blank => rfl

theorem CurrentSection.render {s : Section} (h : CurrentSection s) : IsCurrent s.render := by
  have hline : IsCurrent (s.line.around (s.line.format.render s.line.header)) :=
    (isCurrent_around_iff h.one_le_level).mpr ⟨h.before, isCurrent_format_render h.header _, h.after⟩
  show IsCurrent (s.line.around (s.line.format.render s.line.header) ++ (if s.intro.isEmpty then [] else ['\n']) ++ s.body.render)
  split
  · rename_i hempty
    have hnil : s.body.text = [] := List.isEmpty_iff.mp hempty
    rw [List.append_nil, Body.render, hnil, List.append_nil, List.replicate_append_replicate,
      isCurrent_append_replicate (by decide)]
    exact hline
  · rw [List.append_assoc, List.singleton_append, isCurrent_append_iff (by decide)]
    exact ⟨hline, isCurrent_body_render h.body⟩

/-!
# Reading sections
-/

theorem isCurrent_of_read_language {c : Config} {header : Text} {h : LanguageHeader}
    (hread : LanguageHeader.read c header = .ok (some h)) (hheader : IsCurrent header) : IsCurrent h.render := by
  rw [LanguageHeader.read] at hread
  generalize LanguageHeader.pattern.find? header = found at hread
  cases hparse : Template.parse? header with
  | none =>
      rw [hparse] at hread
      cases found <;> cases hread
  | some template =>
      rcases Template.parse?_eq_some_iff.mp hparse with ⟨body, hbody, _, hofBody⟩
      rw [hparse] at hread
      cases found with
      | none => cases hread
      | some m =>
          dsimp only at hread
          split at hread
          · cases hread
          · rw [← Option.some.inj (Except.ok.inj hread)]
            show IsCurrent template.render
            rwa [hofBody, Template.render_ofBody, ← hbody]

theorem isCurrent_headAndBody {t : Text} (h : IsCurrent t) :
    IsCurrent (Section.headAndBody t).1 ∧ IsCurrent (Section.headAndBody t).2.text := by
  rw [Section.headAndBody]
  split
  · rename_i first rest hsplit
    have heq : t = first ++ '\n' :: rest := by
      rw [Text.eq_of_splitOnce? hsplit, List.append_assoc]
      rfl
    rw [heq, isCurrent_append_iff (by decide)] at h
    exact ⟨h.1, isCurrent_ofText h.2⟩
  · exact ⟨h, rfl⟩

theorem currentSection_of_read {c : Config} {t : Text} {s : Section} (hread : Section.read c t = .ok s)
    (ht : IsCurrent t) : CurrentSection s := by
  rcases isCurrent_headAndBody ht with ⟨hhead, hbody⟩
  rcases exists_of_bind_eq_ok hread with ⟨line, hline, hread⟩
  rcases Section.exists_ofLevel?_of_read hline with ⟨level, _, hlevel⟩
  rcases HeaderLine.eq_around_of_ofLevel? hlevel with ⟨raw, heq, _, _, hheader, _⟩
  have hone : 1 ≤ line.level := by
    have hmem := Section.level_mem_levels hline
    simp only [HeaderLine.levels, List.mem_cons, List.not_mem_nil, or_false] at hmem
    omega
  rw [heq, isCurrent_around_iff hone] at hhead
  have hcurrent : IsCurrent line.header := hheader ▸ hhead.2.1.trim
  by_cases htwo : line.level = 2
  · simp only [if_pos htwo] at hread
    rcases exists_of_bind_eq_ok hread with ⟨language, hlanguage, hread⟩
    cases hread
    refine ⟨hone, hhead.1, hcurrent, hhead.2.2, hbody, ?_⟩
    rintro h rfl
    exact isCurrent_of_read_language hlanguage hcurrent
  · simp only [if_neg htwo] at hread
    cases hread
    exact ⟨hone, hhead.1, hcurrent, hhead.2.2, hbody, fun _ hnone => by cases hnone⟩

/-!
# Changing sections
-/

theorem currentSection_ofHeader {header : Text} {level : Nat} {s : Section}
    (h : Section.ofHeader header level = .ok s) (hheader : IsCurrent header) : CurrentSection s := by
  rcases exists_of_bind_eq_ok h with ⟨_, hlevel, h⟩
  cases h
  exact ⟨(Section.checkLevel_eq_ok_iff.mp hlevel).1, rfl, hheader.trim, rfl, rfl, nofun⟩

theorem CurrentSection.withBody {s : Section} (h : CurrentSection s) {b : Body} (hb : IsCurrent b.text) :
    CurrentSection { s with body := b } :=
  ⟨h.one_le_level, h.before, h.header, h.after, hb, h.language⟩

theorem CurrentSection.setIntro {s : Section} (h : CurrentSection s) {t : Text} (ht : IsCurrent t) :
    CurrentSection (s.setIntro t) :=
  h.withBody ht.trim

theorem CurrentSection.setTrailing {s : Section} (h : CurrentSection s) (n : Nat) : CurrentSection (s.setTrailing n) :=
  h.withBody h.body

theorem currentSection_of_setLevel {s s' : Section} {level : Nat} (hs : CurrentSection s)
    (h : s.setLevel level = .ok s') : CurrentSection s' := by
  rcases exists_of_bind_eq_ok h with ⟨_, hlevel, h⟩
  cases h
  refine ⟨(Section.checkLevel_eq_ok_iff.mp hlevel).1, hs.before, hs.header, hs.after, hs.body, ?_⟩
  intro language hlanguage
  dsimp only at hlanguage
  split at hlanguage
  · exact hs.language language hlanguage
  · cases hlanguage

theorem CurrentSection.setHeader {s : Section} (h : CurrentSection s) (c : Config) {header : Text}
    (hheader : IsCurrent header) : CurrentSection (s.setHeader c header) := by
  refine ⟨h.one_le_level, h.before, hheader.trim, h.after, h.body, ?_⟩
  intro language hlanguage
  simp only [Section.setHeader] at hlanguage
  split at hlanguage
  · split at hlanguage
    · rename_i hread
      rw [hlanguage] at hread
      exact isCurrent_of_read_language hread hheader.trim
    · cases hlanguage
  · cases hlanguage

theorem CurrentSection.removeLanguageParam {s : Section} (h : CurrentSection s) (key : Text) :
    CurrentSection (s.removeLanguageParam key) := by
  rw [Section.removeLanguageParam]
  split
  · rw [Section.updateLanguage]
    split
    · rename_i language hlanguage
      have hremoved : IsCurrent (language.removeParam key).render := by
        rw [LanguageHeader.removeParam]
        split
        · exact isCurrent_remove (h.language language hlanguage) key
        · exact h.language language hlanguage
      refine ⟨h.one_le_level, h.before, hremoved, h.after, h.body, ?_⟩
      intro language' hlanguage'
      rwa [← Option.some.inj hlanguage']
    · exact h
  · exact h

end LegacyLayout
end WikiEntry
