import WikiEntry.Proofs.Page.PartsRead

/-!
# Rearranged pages

Moving sections and taking them out leaves the texts of a page alone.  What the rearranged page is printed as is then
read with the same levels and headers, unless an ignored region reaches from one part of the text into another.
-/

namespace WikiEntry

namespace TreeChange

/-- A change that only moves sections or takes them out. -/
def rearranges : TreeChange -> Bool
  | appendSections _ | appendChildren _ _ | prependChildren _ _ | insertAfter _ _ | detach _ | detachAlone _ => true
  | sortChildren _ _ | sortByRank _ _ | sortLanguage _ _ | sortLanguages | removeLanguage _ | setReferences _ => true
  | create _ | setLevel _ _ | shiftLevels _ _ | normalizeLevels | addLanguage _ _ => false

end TreeChange

namespace Page

/-- The pages that a page can be rearranged to. -/
inductive Rearranged (p : Page) : Page -> Prop where
  | refl : Rearranged p p
  | change {q : Page} (x : TreeChange) :
      Rearranged p q -> x.rearranges = true -> x.Applies q -> (x.run q).fault? = none -> Rearranged p (x.run q).page

/-!
# What is left alone
-/

/-- The pages have the same texts: only the order of the sections may differ. -/
structure SameTexts (p q : Page) : Prop where
  body : q.body = p.body
  trailingContent : q.trailingContent = p.trailingContent
  sections : q.sections = p.sections

namespace SameTexts

theorem refl (p : Page) : SameTexts p p :=
  ⟨rfl, rfl, rfl⟩

theorem trans {p q r : Page} (h : SameTexts p q) (h' : SameTexts q r) : SameTexts p r :=
  ⟨h'.body.trans h.body, h'.trailingContent.trans h.trailingContent, h'.sections.trans h.sections⟩

theorem setOrder (p : Page) (order : List Nat) : SameTexts p (p.setOrder order) :=
  ⟨rfl, rfl, rfl⟩

theorem appendSections (p : Page) (ids : List Nat) : SameTexts p (p.appendSections ids) := by
  unfold Page.appendSections
  split
  · exact refl p
  · exact setOrder p _

theorem moveBehind (p : Page) (ids : List Nat) (refused? : Option TreeFault) (anchor? : Page -> Option Nat)
    (f : TreeFault) : SameTexts p (p.moveBehind ids refused? anchor? f).page := by
  unfold Page.moveBehind
  split
  · exact refl p
  · split
    · exact refl p
    · simp only [Page.insertBehind]
      split
      · exact ⟨rfl, rfl, rfl⟩
      · exact setOrder p _

theorem reorder (p : Page) (parent? : Option Nat) (ids : List Nat) : SameTexts p (p.reorder parent? ids) := by
  unfold Page.reorder
  dsimp only
  split
  · split
    · exact refl p
    · exact setOrder p _
  · exact setOrder p _

theorem sortChildren (p : Page) (parent? : Option Nat) (cmp : Section -> Section -> Ordering) :
    SameTexts p (p.sortChildren parent? cmp) := by
  unfold Page.sortChildren
  extract_lets children sorted
  split
  · exact refl p
  · exact reorder p parent? sorted

theorem sortByRank (c : Config) (p : Page) (parent : Nat) : SameTexts p (p.sortByRank c parent) := by
  unfold Page.sortByRank
  split
  · exact refl p
  · exact sortChildren p _ _

theorem foldl_sortByRank (c : Config) (p : Page) (ids : List Nat) : SameTexts p (ids.foldl (Page.sortByRank c) p) := by
  induction ids generalizing p with
  | nil => exact refl p
  | cons i ids ih => exact (sortByRank c p i).trans (ih _)

theorem sortLanguage (c : Config) (p : Page) (i : Nat) : SameTexts p (p.sortLanguage c i) := by
  unfold Page.sortLanguage
  split
  · split
    · exact refl p
    · exact foldl_sortByRank c p _
  · exact sortByRank c p i

theorem sortLanguagesBy (collate : Text -> Text -> Ordering) (p : Page) : SameTexts p (p.sortLanguagesBy collate) := by
  unfold Page.sortLanguagesBy
  dsimp only
  split
  · exact refl p
  · exact setOrder p _

theorem removeLanguage (p : Page) (code : Text) : SameTexts p (p.removeLanguage code) := by
  unfold Page.removeLanguage
  split
  · exact setOrder p _
  · exact refl p

/-- Parts that can be read alone can be so in any order. -/
theorem partsRead {c : Config} {p q : Page} (h : SameTexts p q) (hparts : p.PartsRead c) : q.PartsRead c where
  front := by
    rw [front, intro, h.body]
    exact hparts.front
  trailing := by
    rw [h.trailingContent]
    exact hparts.trailing
  sections := by
    rw [h.sections]
    exact hparts.sections

end SameTexts

theorem sameTexts_of_step (p : Page) {x : TreeChange} (hx : x.rearranges = true) : SameTexts p (x.run p).page := by
  cases x with
  | create s => cases hx
  | appendSections ids => exact .appendSections p ids
  | appendChildren parent ids => exact .moveBehind p ids _ _ _
  | prependChildren parent ids => exact .moveBehind p ids _ _ _
  | insertAfter target ids => exact .moveBehind p ids _ _ _
  | detach i => exact .setOrder p _
  | detachAlone i => exact .setOrder p _
  | setLevel i level => cases hx
  | shiftLevels i shift => cases hx
  | normalizeLevels => cases hx
  | sortChildren parent? cmp => exact .sortChildren p parent? cmp
  | sortByRank c parent => exact .sortByRank c p parent
  | sortLanguage c i => exact .sortLanguage c p i
  | sortLanguages => exact .sortLanguagesBy Text.collate p
  | addLanguage c code => cases hx
  | removeLanguage code => exact .removeLanguage p code
  | setReferences i => exact .setOrder p _

theorem Rearranged.sameTexts {p q : Page} (h : p.Rearranged q) : SameTexts p q := by
  induction h with
  | refl => exact .refl p
  | change x _ hx _ _ ih => exact ih.trans (sameTexts_of_step _ hx)

theorem Rearranged.wellFormed {p q : Page} (h : p.Rearranged q) (hp : p.WellFormed) : q.WellFormed := by
  induction h with
  | refl => exact hp
  | change x _ _ happlies hok ih => exact wellFormed_of_step ih happlies hok

/-- A page that is printed as the text it was read from is, however it is rearranged, printed as a text that is read
with the same levels and headers, if ignored regions stay in the parts that they begin in. -/
theorem Rearranged.exists_read_render_headings {c : Config} {title t : Text} {p q : Page}
    (hread : read c title t = .ok p) (hprinted : p.render = Region.sanitizeBlanks t) (hregions : p.KeepsRegions)
    (hrearranged : p.Rearranged q) (hregions' : q.KeepsRegions)
    (hsanitized : Region.sanitizeBlanks q.render = q.render) :
    exists r, read c title q.render = .ok r ∧ r.headings = q.headings :=
  (hrearranged.wellFormed (wellFormed_read hread)).exists_read_render
    (hrearranged.sameTexts.partsRead (partsRead_of_read hread hprinted hregions)) hregions' hsanitized

/-!
# Comments that are moved
-/

/-- The pieces of a text that is sanitized already and whose ignored regions are known. -/
theorem chunks_of_ignored {t : Text} {regions : List Span} {cut : List Text} (hsanitized : Region.sanitizeBlanks t = t)
    (hignored : Region.ignored t = regions)
    (hcut : cutAt t 0 ((t.placedLines.filter fun x => beginsSection regions x.1 x.2).map Prod.fst) = [] :: cut) :
    chunks (Region.sanitizeBlanks t) = ([], cut) := by
  rw [hsanitized, chunks, headerPlaces, hignored, hcut]

/-- A line in a comment that would begin a section elsewhere. -/
def entryWithCommentedHeader : Text :=
  "==b==\n<!-- ==x== -->\n==a==\ny"

def entryWithCommentedHeaderMoved : Text :=
  "==a==\ny\n==b==\n<!-- ==x== -->"

theorem exists_read_render_headings_entryWithCommentedHeader :
    exists p q, read .builtin "e" entryWithCommentedHeader = .ok p ∧ p.Rearranged q ∧
      q.render = entryWithCommentedHeaderMoved ∧
        exists r, read .builtin "e" q.render = .ok r ∧ r.headings = q.headings := by
  have hignored : Region.ignored entryWithCommentedHeader = [⟨6, 20⟩] :=
    Region.ignored_eq_mergeSorted [⟨6, 20⟩] (by decide +kernel) (by decide)
  have hignored' : Region.ignored entryWithCommentedHeaderMoved = [⟨14, 28⟩] :=
    Region.ignored_eq_mergeSorted [⟨14, 28⟩] (by decide +kernel) (by decide)
  have hfirst : Region.ignored "==b==\n<!-- ==x== -->" = [⟨6, 20⟩] :=
    Region.ignored_eq_mergeSorted [⟨6, 20⟩] (by decide +kernel) (by decide)
  have hsecond : Region.ignored "==a==\ny" = [] :=
    Region.ignored_eq_mergeSorted [] (by decide +kernel) (by decide)
  have hsanitized : Region.sanitizeBlanks entryWithCommentedHeader = entryWithCommentedHeader :=
    Region.sanitizeBlanks_eq_self hignored (by decide +kernel) (by decide +kernel) (by decide +kernel)
  have hsanitized' : Region.sanitizeBlanks entryWithCommentedHeaderMoved = entryWithCommentedHeaderMoved :=
    Region.sanitizeBlanks_eq_self hignored' (by decide +kernel) (by decide +kernel) (by decide +kernel)
  have hchunks : chunks (Region.sanitizeBlanks entryWithCommentedHeader) =
      ([], Text.listOf ["==b==\n<!-- ==x== -->\n", "==a==\ny"]) :=
    chunks_of_ignored hsanitized hignored (by decide +kernel)
  have hfacts : (read .builtin "e" entryWithCommentedHeader).map (fun p => (p.render, p.parts, p.sections.length,
      (p.appendSections [0]).render, (p.appendSections [0]).parts)) =
      .ok (entryWithCommentedHeader, Text.listOf ["==b==\n<!-- ==x== -->", "==a==\ny"], 2,
        entryWithCommentedHeaderMoved, Text.listOf ["==a==\ny", "==b==\n<!-- ==x== -->"]) := by
    rw [read_of_chunks (by unfold entryWithCommentedHeader; decide) hchunks]
    decide +kernel
  rcases exists_of_map_eq_ok hfacts with ⟨p, hread, hfacts⟩
  rcases Prod.mk.inj hfacts with ⟨hrender, hfacts⟩
  rcases Prod.mk.inj hfacts with ⟨hparts, hfacts⟩
  rcases Prod.mk.inj hfacts with ⟨hlength, hfacts⟩
  rcases Prod.mk.inj hfacts with ⟨hrender', hparts'⟩
  have hregions : p.KeepsRegions := by
    rw [KeepsRegions, hrender, hparts, hignored]
    refine ⟨?_, ?_, trivial⟩
    · rw [hfirst]
      decide +kernel
    · rw [hsecond]
      decide +kernel
  have hregions' : (p.appendSections [0]).KeepsRegions := by
    rw [KeepsRegions, hrender', hparts', hignored']
    refine ⟨?_, ?_, trivial⟩
    · rw [hsecond]
      decide +kernel
    · rw [hfirst]
      decide +kernel
  have hrearranged : p.Rearranged (p.appendSections [0]) :=
    .change (.appendSections [0]) .refl rfl ⟨by simp [TreeChange.named, hlength], nofun⟩ rfl
  exact ⟨p, p.appendSections [0], hread, hrearranged, hrender', hrearranged.exists_read_render_headings hread
    (hrender.trans hsanitized.symm) hregions hregions' (by rw [hrender', hsanitized'])⟩

/-- A comment that is never closed takes in what is put behind it. -/
def entryWithOpenComment : Text :=
  "==b==\nx\n==a==\n<!-- open"

def entryWithOpenCommentMoved : Text :=
  "==a==\n<!-- open\n==b==\nx"

theorem not_forall_exists_read_render_headings :
    ¬ forall (c : Config) (title t : Text) (p q : Page), read c title t = .ok p -> p.Rearranged q ->
      exists r, read c title q.render = .ok r ∧ r.headings = q.headings := by
  intro h
  have hignored : Region.ignored entryWithOpenComment = [⟨14, 23⟩] :=
    Region.ignored_eq_mergeSorted [⟨14, 23⟩] (by decide +kernel) (by decide)
  have hignored' : Region.ignored entryWithOpenCommentMoved = [⟨6, 23⟩] :=
    Region.ignored_eq_mergeSorted [⟨6, 23⟩] (by decide +kernel) (by decide)
  have hsanitized : Region.sanitizeBlanks entryWithOpenComment = entryWithOpenComment :=
    Region.sanitizeBlanks_eq_self hignored (by decide +kernel) (by decide +kernel) (by decide +kernel)
  have hsanitized' : Region.sanitizeBlanks entryWithOpenCommentMoved = entryWithOpenCommentMoved :=
    Region.sanitizeBlanks_eq_self hignored' (by decide +kernel) (by decide +kernel) (by decide +kernel)
  have hchunks : chunks (Region.sanitizeBlanks entryWithOpenComment) =
      ([], Text.listOf ["==b==\nx\n", "==a==\n<!-- open"]) :=
    chunks_of_ignored hsanitized hignored (by decide +kernel)
  have hchunks' : chunks (Region.sanitizeBlanks entryWithOpenCommentMoved) = ([], [entryWithOpenCommentMoved]) :=
    chunks_of_ignored hsanitized' hignored' (by decide +kernel)
  have hfacts : (read .builtin "e" entryWithOpenComment).map (fun p => (p.sections.length,
      (p.appendSections [0]).render, (p.appendSections [0]).headings)) =
      .ok (2, entryWithOpenCommentMoved, [(2, "a".toList), (2, "b".toList)]) := by
    rw [read_of_chunks (by unfold entryWithOpenComment; decide) hchunks]
    decide +kernel
  have hheadings : (read .builtin "e" entryWithOpenCommentMoved).map headings = .ok [(2, "a".toList)] := by
    rw [read_of_chunks (by unfold entryWithOpenCommentMoved; decide) hchunks']
    decide +kernel
  rcases exists_of_map_eq_ok hfacts with ⟨p, hread, hfacts⟩
  rcases Prod.mk.inj hfacts with ⟨hlength, hfacts⟩
  rcases Prod.mk.inj hfacts with ⟨hrender, hmoved⟩
  have hrearranged : p.Rearranged (p.appendSections [0]) :=
    .change (.appendSections [0]) .refl rfl ⟨by simp [TreeChange.named, hlength], nofun⟩ rfl
  rcases h .builtin "e" entryWithOpenComment p _ hread hrearranged with ⟨r, hr, hsame⟩
  rw [hrender] at hr
  rw [hr] at hheadings
  have hone : r.headings = [(2, "a".toList)] := Except.ok.inj hheadings
  rw [hone, hmoved] at hsame
  exact absurd hsame (by decide)

end Page
end WikiEntry
