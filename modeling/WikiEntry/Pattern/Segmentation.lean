import WikiEntry.Pattern.Property

/-!
# Sets of characters by their part in segmentation

Text is cut into what readers take for characters, into words and into sentences by rules about classes of
characters.  Each of the three divisions has a table here: the names of a class, the short one first, and its
characters, which follow from categories, scripts and properties but for a few that are listed.  The class of
all characters without a part of their own has no entry.
-/

namespace WikiEntry
namespace CharSet

abbrev Derived : Type :=
  List (List String × (Unit → CharSet))

/-- The set of a table of derived sets under one of its names. -/
def derived? (table : Derived) (key : Text) : Option CharSet :=
  (row? table key).map fun set => set ()

def spacingMarks : CharSet :=
  category "Mc"

/-- The marks and formats that go with the character before them in a word or a sentence. -/
def extendsWord : CharSet :=
  union extendsGrapheme spacingMarks

/-!
# Characters as readers see them
-/

/-- The first code points of syllables that are not closed by a consonant, and those of the closed ones. -/
def openSyllables : CharSet :=
  within ((List.range 399).map fun i => (0xAC00 + 28 * i, 0xAC00 + 28 * i))

def syllables : CharSet :=
  listed "AC00-D7A3"

/-- The characters that stand at the front of a cluster. -/
def prepended : CharSet :=
  union (property "PCM") (listed "D4E 111C2-111C3 113D1 1193F 11941 11A3A 11A84-11A89 11D46 11F02")

/-- Controls, formats and unassigned code points without a glyph, which stand alone. -/
def controls : CharSet :=
  difference
    (anyOf [inter unassigned (property "DI"), category "Zl", category "Zp", category "Cc", category "Cf"])
    (anyOf [listed "A D 200C-200D", property "PCM", extendsGrapheme])

def graphemeParts : Derived :=
  [(["CR"], fun _ => char '\r'),
   (["LF"], fun _ => char '\n'),
   (["CN", "Control"], fun _ => controls),
   (["EX", "Extend"], fun _ => union extendsGrapheme (property "EMod")),
   (["ZWJ"], fun _ => char '\u200d'),
   (["RI", "Regional_Indicator"], fun _ => property "RI"),
   (["PP", "Prepend"], fun _ => prepended),
   (["SM", "SpacingMark"], fun _ =>
     difference (union spacingMarks (listed "E33 EB3"))
       (union extendsGrapheme
         (listed "102B-102C 1038 1062-1064 1067-106D 1083 1087-108C 108F 109A-109C 1A61 1A63-1A64 AA7B AA7D
           11720-11721 16D63 16D67-16D6A"))),
   (["L"], fun _ => listed "1100-115F A960-A97C"),
   (["V"], fun _ => listed "1160-11A7 D7B0-D7C6 16D63 16D67-16D6A"),
   (["T"], fun _ => listed "11A8-11FF D7CB-D7FB"),
   (["LV"], fun _ => openSyllables),
   (["LVT"], fun _ => difference syllables openSyllables)]

/-!
# Words
-/

/-- The signs of numbers that stand before their digits and count as digits themselves. -/
def numberSigns : CharSet :=
  listed "600-605 6DD 890-891 8E2 110BD 110CD"

def katakana : CharSet :=
  difference (union ((script? (nameKey "Kana".toList)).getD empty) (listed "3031-3035 309B-309C 30A0 30FC FF70"))
    extendsWord

def hebrewLetters : CharSet :=
  inter ((script? (nameKey "Hebr".toList)).getD empty) (category "Lo")

def unspacedScripts : CharSet :=
  anyOf
    (["Hira", "Thai", "Laoo", "Mymr", "Khmr", "Tale", "Talu", "Lana", "Tavt", "Ahom"].map fun name =>
      (script? (nameKey name.toList)).getD empty)

def wordLetters : CharSet :=
  difference
    (union alphabetic
      (listed "B8 2C2-2C5 2D2-2D7 2DE-2DF 2E5-2EB 2ED 2EF-2FF 55A-55C 55E 58A 5F3 70F A708-A716 A720-A721
        A789-A78A AB5B"))
    (anyOf [property "Ideo", katakana, hebrewLetters, unspacedScripts, extendsWord])

def wordParts : Derived :=
  [(["CR"], fun _ => char '\r'),
   (["LF"], fun _ => char '\n'),
   (["NL", "Newline"], fun _ => listed "B-C 85 2028-2029"),
   (["Extend"], fun _ => union extendsWord (property "EMod")),
   (["ZWJ"], fun _ => char '\u200d'),
   (["RI", "Regional_Indicator"], fun _ => property "RI"),
   (["FO", "Format"], fun _ =>
     difference (category "Cf") (anyOf [listed "200B-200D", property "PCM", extendsWord])),
   (["KA", "Katakana"], fun _ => katakana),
   (["HL", "Hebrew_Letter"], fun _ => hebrewLetters),
   (["LE", "ALetter"], fun _ => wordLetters),
   (["SQ", "Single_Quote"], fun _ => char '\''),
   (["DQ", "Double_Quote"], fun _ => char '"'),
   (["MB", "MidNumLet"], fun _ => listed "2E 2018-2019 2024 FE52 FF07 FF0E"),
   (["ML", "MidLetter"], fun _ => listed "3A B7 387 55F 5F4 2027 FE13 FE55 FF1A"),
   (["MN", "MidNum"], fun _ =>
     listed "2C 3B 37E 589 60C-60D 66C 7F8 2044 FE10 FE14 FE50 FE54 FF0C FF1B"),
   (["NU", "Numeric"], fun _ => anyOf [category "Nd", numberSigns, listed "66B 19DA"]),
   (["EX", "ExtendNumLet"], fun _ => union (category "Pc") (char '\u202f')),
   (["WSegSpace"], fun _ => difference (category "Zs") (listed "A0 2007 202F"))]

/-!
# Sentences
-/

def smallLetters : CharSet :=
  difference lowercase (union extendsGrapheme (listed "10D0-10FA 10FD-10FF"))

def capitalLetters : CharSet :=
  difference (union (category "Lt") uppercase) (listed "1C90-1CBA 1CBD-1CBF")

/-- Points that end a sentence or an abbreviation. -/
def points : CharSet :=
  listed "2E 2024 FE52 FF0E"

def sentenceEnds : CharSet :=
  difference (property "STerm") points

def sentenceParts : Derived :=
  [(["CR"], fun _ => char '\r'),
   (["LF"], fun _ => char '\n'),
   (["SE", "Sep"], fun _ => listed "85 2028-2029"),
   (["EX", "Extend"], fun _ => union extendsWord (char '\u200d')),
   (["FO", "Format"], fun _ =>
     difference (category "Cf") (anyOf [listed "200C-200D", numberSigns, extendsWord])),
   (["SP", "Sp"], fun _ => difference (property "WSpace") (listed "A D 85 2028-2029")),
   (["LO", "Lower"], fun _ => smallLetters),
   (["UP", "Upper"], fun _ => capitalLetters),
   (["LE", "OLetter"], fun _ =>
     difference (union alphabetic (char '\u05f3')) (anyOf [smallLetters, capitalLetters, extendsWord])),
   (["NU", "Numeric"], fun _ => anyOf [category "Nd", numberSigns, listed "66B-66C 19DA"]),
   (["AT", "ATerm"], fun _ => points),
   (["SC", "SContinue"], fun _ =>
     listed "2C-2D 3A-3B 37E 55D 60C-60D 7F8 1802 1808 2013-2014 3001 FE10-FE11 FE13-FE14 FE31-FE32 FE50-FE51
       FE54-FE55 FE58 FE63 FF0C-FF0D FF1A-FF1B FF64"),
   (["ST", "STerm"], fun _ => sentenceEnds),
   (["CL", "Close"], fun _ =>
     difference
       (anyOf (listed "22 27 275B-2760 2E00-2E01 2E06-2E08 2E0B 1F676-1F678"
         :: ["Ps", "Pe", "Pi", "Pf"].map category))
       (union points sentenceEnds))]

end CharSet
end WikiEntry
