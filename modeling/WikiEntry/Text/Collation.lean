import WikiEntry.Text.Case

/-!
# The order of names

Names are compared as in a Spanish dictionary.  First the letters count, without their accents and in any
case, with ñ as a letter of its own after n; blanks and punctuation come before digits and digits before
letters.  Where the letters are the same, the accents decide.

A text is taken apart into glyphs, a letter with its accents each, so that it does not matter whether a letter
and its accents are written as one character or as several.
-/

namespace WikiEntry
namespace Collation

/-!
# Accents
-/

/-- The accents in their order.  Some accents count as one. -/
def accents : List (List Nat) :=
  [[0x332], [0x313], [0x314], [0x301], [0x300], [0x306], [0x302], [0x30c], [0x30a], [0x342], [0x308],
   [0x344], [0x30b], [0x303], [0x307], [0x338], [0x327], [0x328], [0x304],
   [0x30d, 0x30e, 0x312, 0x315, 0x31a, 0x33d, 0x33e, 0x33f, 0x346, 0x34a, 0x34b, 0x34c, 0x350, 0x351,
    0x352, 0x357, 0x35b, 0x35d, 0x35e],
   [0x316, 0x317, 0x318, 0x319, 0x31c, 0x31d, 0x31e, 0x31f, 0x320, 0x329, 0x32a, 0x32b, 0x32c, 0x32f,
    0x333, 0x33a, 0x33b, 0x33c, 0x347, 0x348, 0x349, 0x34d, 0x34e, 0x353, 0x354, 0x355, 0x356, 0x359,
    0x35a, 0x35c, 0x35f, 0x362],
   [0x336, 0x337], [0x335], [0x305], [0x309], [0x30f], [0x310], [0x311], [0x31b], [0x321], [0x322],
   [0x323], [0x324], [0x325], [0x326], [0x32d], [0x32e], [0x330], [0x331], [0x334], [0x339], [0x345],
   [0x358], [0x360], [0x361]]

def isAccent (c : Char) : Bool :=
  0x300 ≤ c.toNat && c.toNat < 0x363

/-- The weight of an accent; the letter itself has weight zero. -/
def accentWeight (c : Char) : Nat :=
  accents.findIdx (·.contains c.toNat) + 1

/-- The weight of being a variant of a letter, which is more than any accent. -/
def variantWeight : Nat :=
  accents.length + 2

/-- Where an accent stands on its letter: accents in different positions may be written in any order. -/
def position (c : Char) : Nat :=
  let n := c.toNat
  let within (ranges : List (Nat × Nat)) : Bool := ranges.any fun r => r.1 ≤ n && n ≤ r.2
  if within [(0x334, 0x338)] then 1
  else if within [(0x321, 0x322), (0x327, 0x328)] then 202
  else if n = 0x31b then 216
  else if within [(0x316, 0x319), (0x31c, 0x320), (0x323, 0x326), (0x329, 0x333), (0x339, 0x33c),
      (0x347, 0x349), (0x34d, 0x34e), (0x353, 0x356), (0x359, 0x35a)] then 220
  else if n = 0x315 || n = 0x31a || n = 0x358 then 232
  else if n = 0x35c || n = 0x35f || n = 0x362 then 233
  else if within [(0x35d, 0x35e), (0x360, 0x361)] then 234
  else if n = 0x345 then 240
  else 230

/-- Letters that are written with their accent: the accent, the letters with it, and those without it. -/
def accented : List (Char × Text × Text) :=
  [('\u0301', "áéíóúýćĺńŕśźǘǵǻǽǿḉḗḯḱḿṍṓṕṹẃấắếốớứ", "aeiouyclnrszügåæøçēïkmõōpũwâăêôơư"),
   ('\u0300', "àèìòùǜǹḕṑẁầằềồờừỳ", "aeiouünēōwâăêôơưy"),
   ('\u0306', "ăĕğĭŏŭḝặ", "aegiouȩạ"),
   ('\u0302', "âêîôûĉĝĥĵŝŵŷẑậệộ", "aeioucghjswyzạẹọ"),
   ('\u030c', "čďěľňřšťžǎǐǒǔǚǧǩǯǰȟ", "cdelnrstzaiouügkʒjh"),
   ('\u030a', "åůẘẙ", "auwy"),
   ('\u0308', "äëïöüÿḧṏṻẅẍẗ", "aeiouyhõūwxt"),
   ('\u030b', "őű", "ou"),
   ('\u0303', "ãñõĩũṽẫẵẽễỗỡữỹ", "anoiuvâăeêôơưy"),
   ('\u0307', "ċėġżȧȯḃḋḟḣṁṅṗṙṡṥṧṩṫẇẋẏẛ", "cegzaobdfhmnprsśšṣtwxyſ"),
   ('\u0338', "ø", "o"),
   ('\u0327', "çģķļņŗşţȩḑḩ", "cgklnrstedh"),
   ('\u0328', "ąęįųǫ", "aeiuo"),
   ('\u0304', "āēīōūǖǟǡǣǭȫȭȱȳḡḹṝ", "aeiouüäȧæǫöõȯygḷṛ"),
   ('\u0335', "đħł", "dhl"),
   ('\u0309', "ảẩẳẻểỉỏổởủửỷ", "aâăeêioôơuưy"),
   ('\u030f', "ȁȅȉȍȑȕ", "aeioru"),
   ('\u0311', "ȃȇȋȏȓȗ", "aeioru"),
   ('\u031b', "ơư", "ou"),
   ('\u0323', "ḅḍḥḳḷṃṇṛṣṭṿẉẓạẹịọợụựỵ", "bdhklmnrstvwzaeioơuưy"),
   ('\u0324', "ṳ", "u"),
   ('\u0325', "ḁ", "a"),
   ('\u0326', "șț", "st"),
   ('\u032d', "ḓḙḽṋṱṷ", "delntu"),
   ('\u032e', "ḫ", "h"),
   ('\u0330', "ḛḭṵ", "eiu"),
   ('\u0331', "ḇḏḵḻṉṟṯẕẖ", "bdklnrtzh")]

/-- The letter and the accent of a letter that is written with its accent. -/
def unaccent? (c : Char) : Option (Char × Char) :=
  accented.findSome? fun (accent, letters, plain) => ((letters.zip plain).lookup c).map (·, accent)

/-!
# Letters
-/

/-- Blanks and punctuation in the order in which they are sorted. -/
def punctuation : Text :=
  "\t\n\x0b\x0c\r\u2028\u2029 ‾_‗-‐‒–—―⁓,;⁏:!¡?¿‽.·'‘’‚‛‹›\"“”„‟«»()[]\x7b\x7d⁅⁆‖§¶⁋@*/\\&⁊#%‰‱†‡•‣‧′‸※‿⁔⁀"
    ++ "\x60´^¯¨¸°©®+±÷×<=>¬|¦~−¤¢$£¥₠₡₢₣₤₥₦₩₪₫€₭₮₯₰₱₲₳₴₵₶₷₸₹₺₻₼₽₾₿"

def letters : Text :=
  "0123456789abƀƃcȼƈdƌȡeɇǝfƒgǥƣhƕiıjȷɉkƙlƚȴƛmnñƞȵŋoȣpƥqɋĸrɍsȿƪtŧƫƭȶuvwxyɏƴȝzƶȥɀƹƺþƿ"

/-- Characters that are sorted as others. -/
def alike : List (Char × Text) :=
  [('\u00a0', " "), ('\u202f', " "), ('\u205f', " "), ('\u2011', "‐"), ('…', "..."), ('ª', "a"), ('º', "o"),
   ('¹', "1"), ('²', "2"), ('³', "3"), ('µ', "μ"), ('ĳ', "ij"), ('ǉ', "lj"), ('ǌ', "nj"), ('ǳ', "dz"),
   ('ǆ', "dž"), ('\u0340', "\u0300"), ('\u0341', "\u0301"), ('\u0343', "\u0313")]

/-- Ligatures and old forms, which are variants of other letters. -/
def variants : List (Char × Text) :=
  [('æ', "ae"), ('œ', "oe"), ('ß', "ss"), ('ð', "d"), ('ŀ', "l"), ('ſ', "s")]

def order : Text :=
  punctuation ++ letters

/-- The weight of a letter; characters that are not in the tables come last, by their code points. -/
def letterWeight (c : Char) : Nat :=
  match order.idxOf? c with
  | some n => n
  | none => order.length + c.toNat

/-- Characters that do not count: controls, joiners and the soft hyphen. -/
def isIgnored (c : Char) : Bool :=
  let n := c.toNat
  n < 0x9 || (0xe ≤ n && n < 0x20) || (0x7f ≤ n && n < 0xa0) || n = 0xad || n = 0x34f
    || (0x200b ≤ n && n < 0x2010) || (0x2060 ≤ n && n < 0x2070) || n = 0xfeff

/-!
# Glyphs
-/

structure Glyph where
  letter : Option Char
  isVariant : Bool
  accents : Text
  deriving DecidableEq, Repr

namespace Glyph

/-- Adds what a character without a decomposition stands for to the glyphs so far, the last one first. -/
def add (glyphs : List Glyph) (c : Char) : List Glyph :=
  if isIgnored c then glyphs
  else if isAccent c then
    match glyphs with
    | g :: rest => { g with accents := g.accents ++ [c] } :: rest
    | [] => [⟨none, false, [c]⟩]
  else ⟨some c, false, []⟩ :: glyphs

/-- Adds what a character stands for, taking apart at most `depth` accents. -/
def decompose : (depth : Nat) → List Glyph → Char → List Glyph
  | 0, glyphs, c => add glyphs c
  | depth + 1, glyphs, c =>
      match variants.lookup c with
      | some (first :: rest) => rest.foldl add (⟨some first, true, []⟩ :: glyphs)
      | _ =>
          match alike.lookup c with
          | some t => t.foldl (decompose depth) glyphs
          | none =>
              match unaccent? c with
              | some (letter, accent) => add (decompose depth glyphs letter) accent
              | none => add glyphs c

/-- The accents of a glyph in the order of their positions; a tilde makes an n another letter. -/
def settle (g : Glyph) : Glyph :=
  let accents := g.accents.mergeSort fun a b => position a ≤ position b
  if g.letter = some 'n' && !g.isVariant && accents.find? (position · = 230) = some '\u0303' then
    ⟨some 'ñ', false, accents.erase '\u0303'⟩
  else { g with accents := accents }

def accentWeights (g : Glyph) : List Nat :=
  g.letter.toList.map (fun _ => 0) ++ (if g.isVariant then [variantWeight] else [])
    ++ g.accents.map accentWeight

end Glyph

/-- The glyphs of a text; no letter of the tables has more than three accents. -/
def glyphs (t : Text) : List Glyph :=
  ((t.lower.foldl (Glyph.decompose 4) []).map Glyph.settle).reverse

/-!
# Keys
-/

/-- The weights of letters, and those of accents. -/
structure Key where
  letters : List Nat
  accents : List Nat
  deriving DecidableEq, Repr

def key (t : Text) : Key :=
  let glyphs := glyphs t
  ⟨(glyphs.filterMap Glyph.letter).map letterWeight, glyphs.flatMap Glyph.accentWeights⟩

def compareWeights : List Nat → List Nat → Ordering
  | [], [] => .eq
  | [], _ :: _ => .lt
  | _ :: _, [] => .gt
  | a :: as, b :: bs => (compare a b).then (compareWeights as bs)

def Key.compare (a b : Key) : Ordering :=
  (compareWeights a.letters b.letters).then (compareWeights a.accents b.accents)

end Collation

namespace Text

/-- The order of two names in a Spanish dictionary. -/
def collate (s t : Text) : Ordering :=
  (Collation.key s).compare (Collation.key t)

/-- The order of two texts by the code points of their characters. -/
def compareChars : Text → Text → Ordering
  | [], [] => .eq
  | [], _ :: _ => .lt
  | _ :: _, [] => .gt
  | a :: s, b :: t => (compare a.toNat b.toNat).then (compareChars s t)

end Text
end WikiEntry
