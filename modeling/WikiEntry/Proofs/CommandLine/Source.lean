import WikiEntry.CommandLine.Run
import WikiEntry.Proofs.Store.PageFolder
import WikiEntry.Proofs.Text.Occurrences
import WikiEntry.Proofs.Text.Trimming

/-!
# The file that a run works on

A file with the ending of pages gives the title of its page, and the page is then looked for under its title.  The name of
the file comes back just if it holds nothing that a title or the name of a file does not show; then the page is read from
that file and written to it.
-/

namespace WikiEntry

/-!
# Names and endings
-/

namespace Path

variable {p : Path} {name ending : Text}

theorem eq_of_splitName (h : (splitName name).2 = some ending) : name = (splitName name).1 ++ '.' :: ending := by
  unfold splitName at h ⊢
  split at h
  · cases h
  · cases h
  · rename_i n _ hfind
    have hstands := (Text.of_findLast? (List.cons_ne_nil _ _) hfind).1
    have hdot : name[n]? = some '.' := ((Text.startsWith_drop_cons name [] '.' n).mp hstands).1
    rcases List.getElem?_eq_some_iff.mp hdot with ⟨hlt, hget⟩
    have hdrop : name.drop n = '.' :: name.drop (n + 1) := by
      rw [List.drop_eq_getElem_cons hlt, hget]
    rw [← Option.some.inj h, ← hdrop]
    exact (List.take_append_drop n name).symm

/-- A path with an ending leads to an entry of its folder, whose name is the stem with the ending. -/
theorem exists_stem (h : p.ending? = some ending) :
    exists stem, p.stem? = some stem ∧ p.steps = p.parent.steps ++ [stem ++ '.' :: ending] := by
  rcases Option.bind_eq_some_iff.mp h with ⟨name, hname, hending⟩
  refine ⟨(splitName name).1, by rw [stem?, hname, Option.map_some], ?_⟩
  rw [← eq_of_splitName hending]
  rcases List.getLast?_eq_some_iff.mp (Option.filter_eq_some_iff.mp hname).1 with ⟨steps, hsteps⟩
  rw [parent, hsteps, List.dropLast_concat]

theorem child_parent_eq_iff {other : Text} (hsteps : p.steps = p.parent.steps ++ [name]) (hfile : p.toFolder = false) :
    p.parent.child other = p <-> other = name := by
  constructor
  · intro h
    have hchild : p.parent.steps ++ [other] = p.parent.steps ++ [name] := (congrArg Path.steps h).trans hsteps
    exact (List.cons.inj (List.append_cancel_left hchild)).1
  · rintro rfl
    cases p with
    | mk absolute steps toFolder =>
        cases hfile
        exact congrArg (Path.mk absolute · false) hsteps.symm

end Path

/-!
# Titles and names
-/

namespace CommandLine

variable {files : FileTree} {p : Path} {f : StoredFile} {stem : Text} {c : Char}

/-- What a character of the name of a file is in a title. -/
def titleChar (c : Char) : Char :=
  if c = '_' then ' ' else c

/-- A character that is not trimmed off a title. -/
def endsTitle (c : Char) : Bool :=
  c ≠ '_' && !Chars.isBlank c

/-- A name that its title gives back: nothing in it becomes an underscore, and nothing is trimmed off at its ends. -/
structure IsTitleName (stem : Text) : Prop where
  shown : forall c, c ∈ stem -> c ∉ ['/', '\\', ':', ' ']
  first : stem.head?.all endsTitle = true
  last : stem.getLast?.all endsTitle = true

theorem isBlank_titleChar (c : Char) : (!Chars.isBlank (titleChar c)) = endsTitle c := by
  unfold titleChar endsTitle
  by_cases h : c = '_'
  · rw [if_pos h, h]
    decide
  · rw [if_neg h, decide_eq_true h, Bool.true_and]

theorem nameChar_titleChar_eq_iff : PageFolder.nameChar (titleChar c) = c <-> c ∉ ['/', '\\', ':', ' '] := by
  simp only [List.mem_cons, List.not_mem_nil, or_false]
  by_cases h : c = '_'
  · subst h
    decide
  · rw [titleChar, if_neg h, PageFolder.nameChar]
    by_cases hc : c = '/' ∨ c = '\\' ∨ c = ':' ∨ c = ' '
    · rw [if_pos hc]
      exact iff_of_false (fun heq => h heq.symm) (not_not_intro hc)
    · rw [if_neg hc]
      exact iff_of_true rfl hc

theorem trim_title_eq_self_iff (stem : Text) :
    Text.trim (stem.map titleChar) = stem.map titleChar <->
      stem.head?.all endsTitle = true ∧ stem.getLast?.all endsTitle = true := by
  rw [Text.trim, Text.trimBy_eq_self_iff, List.head?_map, List.getLast?_map, Option.all_map, Option.all_map]
  simp only [isBlank_titleChar]

theorem fileName_title_eq_iff (stem : Text) :
    PageFolder.fileName (stem.map titleChar) = stem ++ ".wiki" <-> IsTitleName stem := by
  rw [PageFolder.fileName, List.append_cancel_right_eq]
  constructor
  · intro h
    have htrim : Text.trim (stem.map titleChar) = stem.map titleChar := by
      rcases Text.exists_append_trim (stem.map titleChar) with ⟨front, back, heq, _, _⟩
      have hlength := congrArg List.length h
      have hlength' := congrArg List.length heq
      simp only [List.length_append, List.length_map] at hlength hlength'
      rw [List.eq_nil_of_length_eq_zero (show front.length = 0 by omega),
        List.eq_nil_of_length_eq_zero (show back.length = 0 by omega), List.nil_append, List.append_nil] at heq
      exact heq.symm
    rw [htrim, List.map_map] at h
    have hends := (trim_title_eq_self_iff stem).mp htrim
    refine ⟨fun c hc => nameChar_titleChar_eq_iff.mp ?_, hends.1, hends.2⟩
    exact List.map_inj_left.mp (h.trans (List.map_id stem).symm) c hc
  · intro h
    rw [(trim_title_eq_self_iff stem).mpr ⟨h.first, h.last⟩, List.map_map]
    exact (List.map_congr_left fun c hc => nameChar_titleChar_eq_iff.mpr (h.shown c hc)).trans (List.map_id stem)

/-!
# Reading and writing
-/

theorem load_of_pathOf (hwiki : p.ending? = some "wiki".toList) (hread : files.read p = .ok f)
    (hpath : PageFolder.pathOf ⟨p.parent⟩ (titleOf p) = p) :
    load files p (titleOf p) = .ok (.page ⟨p.parent⟩ f.written, f.content) := by
  have hfetch : PageFolder.fetch ⟨p.parent⟩ files (titleOf p) = .ok ⟨titleOf p, f.content, f.written⟩ := by
    rw [PageFolder.fetch, hpath, hread]
  rw [load, if_pos ⟨hwiki, rfl⟩]
  dsimp only
  rw [hfetch]
  rfl

/-- A page that was read from its file has not changed since then, so that it is written. -/
theorem save_of_pathOf (hread : files.read p = .ok f) (hpath : PageFolder.pathOf ⟨p.parent⟩ (titleOf p) = p)
    (text : Text) (now : Nat) :
    save files (.page ⟨p.parent⟩ f.written) (titleOf p) text now = (files.write p text now).mapError .storage := by
  have hrevision : PageFolder.revision files p now = f.written := by rw [PageFolder.revision, hread]
  rw [save, PageFolder.submit, hpath, hrevision, decide_eq_false (Nat.lt_irrefl f.written), Bool.and_false]
  cases files.write p text now with
  | error e => rfl
  | ok files => rfl

/-- A readable file with the ending of pages is the file that is read and written for its title just if its name is what
the title gives back. -/
theorem load_and_save_reach_file_iff (hwiki : p.ending? = some "wiki".toList) (hread : files.read p = .ok f) :
    exists stem, p.stem? = some stem ∧ (PageFolder.pathOf ⟨p.parent⟩ (titleOf p) = p <-> IsTitleName stem) ∧
      (IsTitleName stem ->
        load files p (titleOf p) = .ok (.page ⟨p.parent⟩ f.written, f.content) ∧
          forall text now, save files (.page ⟨p.parent⟩ f.written) (titleOf p) text now =
            (files.write p text now).mapError .storage) := by
  rcases Path.exists_stem hwiki with ⟨stem, hstem, hsteps⟩
  rcases FileTree.exists_of_read hread with ⟨_, _, _, hfile⟩
  have htitle : titleOf p = stem.map titleChar := by
    rw [titleOf, hstem]
    rfl
  have hiff : PageFolder.pathOf ⟨p.parent⟩ (titleOf p) = p <-> IsTitleName stem := by
    rw [PageFolder.pathOf, Path.child_parent_eq_iff hsteps hfile, htitle]
    exact fileName_title_eq_iff stem
  refine ⟨stem, hstem, hiff, fun hname => ?_⟩
  have hpath := hiff.mpr hname
  exact ⟨load_of_pathOf hwiki hread hpath, save_of_pathOf hread hpath⟩

/-- A page in a folder below. -/
def folderWithEntry : FileTree :=
  ⟨[(⟨false, ["d".toList, "a_b.c.wiki".toList], false⟩, ⟨"x".toList, 1⟩)]⟩

theorem load_and_save_reach_file_iff_folderWithEntry :
    Path.ending? (.read "./d/a_b.c.wiki") = some "wiki".toList ∧
      folderWithEntry.read (.read "./d/a_b.c.wiki") = .ok ⟨"x".toList, 1⟩ ∧
      exists stem, Path.stem? (.read "./d/a_b.c.wiki") = some stem ∧
        (PageFolder.pathOf ⟨Path.parent (.read "./d/a_b.c.wiki")⟩ (titleOf (.read "./d/a_b.c.wiki")) =
          .read "./d/a_b.c.wiki" <-> IsTitleName stem) ∧
        (IsTitleName stem ->
          load folderWithEntry (.read "./d/a_b.c.wiki") (titleOf (.read "./d/a_b.c.wiki")) =
            .ok (.page ⟨Path.parent (.read "./d/a_b.c.wiki")⟩ 1, "x".toList) ∧
          forall text now,
            save folderWithEntry (.page ⟨Path.parent (.read "./d/a_b.c.wiki")⟩ 1)
              (titleOf (.read "./d/a_b.c.wiki")) text now =
                (folderWithEntry.write (.read "./d/a_b.c.wiki") text now).mapError .storage) := by
  have hwiki : Path.ending? (.read "./d/a_b.c.wiki") = some "wiki".toList := by decide +kernel
  have hread : folderWithEntry.read (.read "./d/a_b.c.wiki") = .ok ⟨"x".toList, 1⟩ := by decide +kernel
  exact ⟨hwiki, hread, load_and_save_reach_file_iff hwiki hread⟩

/-- A file with a space in its name. -/
def folderWithSpacedName : FileTree :=
  ⟨[(⟨false, ["a b.wiki".toList], false⟩, ⟨"x".toList, 1⟩)]⟩

/-- It is not found under its title. -/
theorem not_forall_load_reaches_file :
    ¬ forall (files : FileTree) (p : Path) (f : StoredFile), p.ending? = some "wiki".toList -> files.read p = .ok f ->
      PageFolder.pathOf ⟨p.parent⟩ (titleOf p) = p ∧
        exists source, load files p (titleOf p) = .ok (source, f.content) := by
  intro h
  have hwiki : Path.ending? (.read "a b.wiki") = some "wiki".toList := by decide +kernel
  have hread : folderWithSpacedName.read (.read "a b.wiki") = .ok ⟨"x".toList, 1⟩ := by decide +kernel
  rcases (h _ _ _ hwiki hread).2 with ⟨source, hload⟩
  have hfails : load folderWithSpacedName (.read "a b.wiki") (titleOf (.read "a b.wiki")) =
      .error (.storage .notFound) := by decide +kernel
  rw [hfails] at hload
  cases hload

end CommandLine
end WikiEntry
