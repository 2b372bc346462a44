import WikiEntry.Rule.Marks

/-!
# Superfluous sections

Sections go that hold nothing, that are not expected where they stand, or that only wrap others.  What is
invisible in them moves to the section before them.
-/

namespace WikiEntry
namespace SuperfluousSections

def addIntro (p : Page) (i : Nat) (t : Text) : Page :=
  p.modify i fun s => s.setIntro (s.intro ++ "\n" ++ t)

/-!
# Sections of pronunciation
-/

def bannerLine : Pattern :=
  .whole (.many (.oneOf [' ', ':', ';', '*', '#']) ++ "\x7b\x7b" ++ .spaces ++ .anyText Marks.banners
    ++ .spaces ++ .maybe ("|" ++ .restOfLine) ++ "\x7d\x7d"
    ++ .rounds (.spaces ++ "<!--" ++ .few1 .inLine ++ "-->"))

def bannersFirst (t : Text) : Text :=
  let (banners, rest) := t.lines.partition bannerLine.matchesIn
  Text.joinWith "\n" (banners ++ rest)

/-- Puts the text of a section of pronunciation in front of the text of the language or etymology above
it, unless something lies below the section. -/
def foldPronunciation (p : Page) (i : Nat) : Page :=
  match p.parent? i with
  | none => p
  | some parent =>
      if !(p.children i).isEmpty then p
      else if p.isLanguage parent || Marks.etymologyHeader.matchesIn (p.header parent) then
        let intro := bannersFirst ((p.get i).intro ++ "\n" ++ (p.get parent).intro)
        (p.modify parent (·.setIntro intro)).detachAlone i
      else p

/-!
# Empty sections
-/

/-- A standard section in which nothing is seen; etymologies are kept. -/
def isEmptySection (c : Config) (p : Page) (i : Nat) : Bool :=
  let header := p.strippedHeader i
  !header.startsWith "Etimología" && (p.children i).isEmpty && c.isStandardHeader header
    && Marks.isInvisible (p.get i).intro

/-- Takes an empty section out; what is in it moves to the section before, if there is one. -/
def removeEmpty (c : Config) (p : Page) (i : Nat) : Option Page :=
  let intro := (p.get i).intro
  if !isEmptySection c p i then none
  else if intro.isEmpty then some (p.detachAlone i)
  else (p.previous? i).map fun previous => (addIntro p previous intro).detachAlone i

/-- Takes out all empty sections, and lists their headers. -/
def removeAllEmpty (c : Config) (p : Page) : Page × List Text :=
  p.order.foldl
    (fun (p, removed) i =>
      match removeEmpty c p i with
      | some q => (q, addOnce removed (p.strippedHeader i))
      | none => (p, removed))
    (p, [])

/-!
# Wrapping sections
-/

def isSpanish (p : Page) (i : Nat) : Bool :=
  (p.get i).language?.any (·.hasCode "es")

def foreignTranslations : Pattern :=
  .whole "Traducción"

/-- The sections of translations of foreign words that only wrap other sections. -/
def wrappers (p : Page) : List Nat :=
  ((p.languages.filter fun i => !isSpanish p i).flatMap (p.findBelow · foreignTranslations)).filter fun i =>
    Marks.isInvisible (p.get i).intro && !(p.children i).isEmpty

/-- Takes a section out, and raises what lies below it. -/
def unwrap (p : Page) (i : Nat) : Except EntryError Page := do
  let intro := (p.get i).intro
  let p := match p.previous? i with
    | some previous => if intro.isEmpty then p else addIntro p previous intro
    | none => p
  let p ← (p.shiftLevels i (-1)).toExcept
  return p.detachAlone i

/-!
# Misplaced sections
-/

def translationsHeader : Pattern :=
  .whole ("Traducci" ++ .alt "ón" "ones")

def translationsFrame : Pattern :=
  "\x7b\x7btrad-" ++ .anyText (Text.listOf ["arriba", "centro", "abajo"]) ++ .many (.char '|') ++ "\x7d\x7d"

def soleEtymologyHeader : Pattern :=
  .whole "Etimología"

/-- An etymology template that says nothing but its language. -/
def bareEtymology : Pattern :=
  let code : CharSet := .anyOf [.word, .char '-']
  "\x7b\x7betimología" ++ .maybeOne (.char '2') ++ .maybe ("|leng=" ++ .few1 code) ++ .many (.char '|')
    ++ "\x7d\x7d" ++ .maybeOne (.char '.')

/-- Nothing but occurrences of a pattern and clear templates is seen in a text. -/
def holdsOnly (p : Pattern) (t : Text) : Bool :=
  ((p.replaceAll (Region.stripHidden t) []).replace "\x7b\x7bclear\x7d\x7d" []).isBlank

/-- The sections without children below some languages that have a header and hold only a pattern. -/
def hollow (p : Page) (languages : List Nat) (header content : Pattern) : List Nat :=
  (languages.flatMap (p.findBelow · header)).filter fun i =>
    (p.children i).isEmpty && holdsOnly content (p.get i).intro

/-- Takes out the hollow sections of the languages of which `unexpected` holds. -/
def removeHollow (p : Page) (languages : List Nat) (unexpected : Page → Nat → Bool)
    (header content : Pattern) : Page × Bool :=
  let ids := hollow p (languages.filter (unexpected p)) header content
  (ids.foldl Page.detachAlone p, !ids.isEmpty)

/-- Whether a language has no word of its own, but forms or pointers only. -/
def lacksWord (c : Config) (p : Page) (i : Nat) : Bool :=
  Marks.hasOnlyForms c p i || Marks.isReduced c p i

/-- Takes out hollow translations of foreign words and hollow etymologies of titles of several words, and
both where there is no word, and names what was taken out. -/
def removeMisplaced (x : Context) (p : Page) : Page × List Text :=
  let languages := p.languages.filter fun i => !(p.children i).isEmpty
  let (p, translations) := removeHollow p languages
    (fun p i => !isSpanish p i || lacksWord x.config p i) translationsHeader translationsFrame
  let (p, etymologies) := removeHollow p languages
    (fun p i => x.title.contains ' ' || lacksWord x.config p i) soleEtymologyHeader bareEtymology
  let removed : List (Bool × Text) := [(translations, "Traducciones"), (etymologies, "Etimología")]
  (p, (removed.filter Prod.fst).map Prod.snd)

end SuperfluousSections

namespace Rule

open SuperfluousSections in
def translationWrappers : Rule where
  name := "pull_up_foreign_translations_sections"
  run x t := do
    let p ← x.read t
    let p ← (wrappers p).foldlM unwrap p
    return Outcome.ofPage? t p "subiendo subsecciones de \"Traducción\""

open SuperfluousSections in
def pronunciation : Rule where
  name := "remove_pron_graf_section"
  run x t :=
    x.onCurrentPage t fun p =>
      let p := (p.findSections Marks.pronunciationHeader).foldl foldPronunciation p
      .ok (Outcome.ofPage? t p "eliminando títulos de pronunciación")

open SuperfluousSections in
def emptySections : Rule where
  name := "delete_empty_sections"
  run x t := do
    let p ← x.read t
    if p.languages.isEmpty then return none
    let (p, removed) := removeAllEmpty x.config p
    return if removed.isEmpty then none
      else Outcome.ofPage? t p ("eliminando secciones vacías: " ++ Text.joinWith ", " removed)

open SuperfluousSections in
def misplacedSections : Rule where
  name := "delete_wrong_sections"
  run x t :=
    x.onCurrentPage t fun p =>
      let (p, removed) := removeMisplaced x p
      .ok (if removed.isEmpty then none
        else Outcome.ofPage? t p ("eliminando secciones: " ++ Text.joinWith ", " removed))

end Rule
end WikiEntry
