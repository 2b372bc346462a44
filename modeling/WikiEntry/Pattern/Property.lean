import WikiEntry.Pattern.CharSet
import WikiEntry.Text.Age
import WikiEntry.Text.GeneralCategory
import WikiEntry.Text.Property
import WikiEntry.Text.Script

/-!
# Sets of characters by property

The sets of the characters with a general category, a script, an age, or a property that a character has or has
not, each under its names.  Names are compared by their letters and digits alone, in any case, and without an
"is" in front.
-/

namespace WikiEntry
namespace CharSet

/-!
# Names
-/

/-- The letters and digits of a name in lower case.  Nothing is left out of "isc", which is a name of its own. -/
def nameKey (name : Text) : Text :=
  let bare :=
    match name with
    | c :: d :: r => if c.toLower = 'i' ∧ d.toLower = 's' then r else name
    | _ => name
  let key := (bare.filter fun c => c.toNat < 128 && c ≠ ' ' && c ≠ '_' && c ≠ '-').map Char.toLower
  if key = ['c'] && bare.length < name.length then ['i', 's', 'c'] else key

/-- Whether a key is that of one of some names. -/
def isNamed (key : Text) (names : List String) : Bool :=
  names.any fun name => nameKey name.toList = key

/-- The entry of a table under one of its names. -/
def row? {α : Type} (table : List (List String × α)) (key : Text) : Option α :=
  (table.find? fun row => isNamed key row.1).map Prod.snd

def listed (table : String) : CharSet :=
  within (Chars.readRanges table)

/-!
# General categories
-/

/-- The members of a category by its short name. -/
def category (name : String) : CharSet :=
  match Chars.categories.find? fun row => row.1.contains name with
  | some row => listed row.2
  | none => empty

def assigned : CharSet :=
  anyOf (Chars.categories.map fun row => listed row.2)

def unassigned : CharSet :=
  complement assigned

def category? (key : Text) : Option CharSet :=
  if isNamed key ["Any"] then some all
  else if isNamed key ["Assigned"] then some assigned
  else if isNamed key ["ASCII"] then some (range '\x00' '\x7f')
  else if isNamed key Chars.unassignedNames then some unassigned
  else
    match row? Chars.categories key with
    | some table => some (listed table)
    | none =>
        (row? Chars.categoryGroups key).map fun members =>
          anyOf (members.map fun name => if name = "Cn" then unassigned else category name)

def letters : CharSet :=
  anyOf (["Lu", "Ll", "Lt", "Lm", "Lo", "Nl"].map category)

/-!
# Scripts
-/

def script? (key : Text) : Option CharSet :=
  (row? Chars.scripts key).map listed

/-- The characters used with a script: those of the script that are not shared, and those that are shared
with it. -/
def scriptExtension? (key : Text) : Option CharSet :=
  (Chars.scripts.find? fun row => isNamed key row.1).map fun (names, table) =>
    let shared := Chars.sharedScripts.map fun row => listed row.2
    let withScript := (Chars.sharedScripts.filter fun row => names.any row.1.contains).map fun row => listed row.2
    union (difference (listed table) (anyOf shared)) (anyOf withScript)

/-!
# Ages
-/

/-- The names of a version: its number, and the number after a letter. -/
def isVersion (key : Text) (number : String) : Bool :=
  key = number.toList || key = 'v' :: number.toList.filter (· ≠ '.')

/-- The characters of a version and of all versions before it. -/
def age? (key : Text) : Option CharSet :=
  if Chars.ages.any fun row => isVersion key row.1 then
    let earlier := Chars.ages.takeWhile fun row => !isVersion key row.1
    let latest := Chars.ages.filter fun row => isVersion key row.1
    some (anyOf ((earlier ++ latest).map fun row => listed row.2))
  else none

/-!
# Properties that a character has or has not
-/

def changed (runs : List Chars.CaseRun) (special : List (Nat × List Nat)) : CharSet :=
  let points (r : Chars.CaseRun) : List (Nat × Nat) :=
    if r.stride = 1 then [(r.first, r.last)]
    else (List.range ((r.last - r.first) / r.stride + 1)).map fun i =>
      (r.first + i * r.stride, r.first + i * r.stride)
  within (runs.flatMap points ++ special.map fun x => (x.1, x.1))

def property (name : String) : CharSet :=
  ((row? Chars.listedProperties (nameKey name.toList)).map listed).getD empty

def alphabetic : CharSet :=
  within Chars.alphabeticRanges

def lowercase : CharSet :=
  union (category "Ll") (property "OLower")

def uppercase : CharSet :=
  union (category "Lu") (property "OUpper")

def lowered : CharSet :=
  changed Chars.lowerRuns Chars.lowerSpecial

def uppered : CharSet :=
  changed Chars.upperRuns Chars.upperSpecial

/-- The characters that title case changes: those that upper case changes, but for digraphs and Georgian
letters. -/
def titled : CharSet :=
  symmetricDifference uppered
    (listed "1C4-1C5 1C7-1C8 1CA-1CB 1F1-1F2 10D0-10FA 10FD-10FF 1F88-1F8F 1F98-1F9F 1FA8-1FAF 1FBC 1FCC 1FFC")

/-- The characters that full case folding changes: those that lower case changes, small letters that are
folded to others, and no Cherokee capitals. -/
def folded : CharSet :=
  symmetricDifference lowered
    (listed "B5 DF 149 17F 345 3C2 3D0-3D1 3D5-3D6 3F0-3F1 3F5 587 13A0-13F5 13F8-13FD 1C80-1C88 1E9A-1E9B
      1F80-1F87 1F90-1F97 1FA0-1FA7 1FB2-1FB4 1FB7 1FC2-1FC4 1FC7 1FF2-1FF4 1FF7 AB70-ABBF FB00-FB06 FB13-FB17")

def extendsGrapheme : CharSet :=
  anyOf [category "Mn", category "Me", property "OGr_Ext"]

def startsName : CharSet :=
  difference (union letters (property "OIDS")) (union (property "Pat_Syn") (property "Pat_WS"))

def continuesName : CharSet :=
  anyOf (startsName :: property "OIDC" :: ["Mn", "Mc", "Nd", "Pc"].map category)

/-- The characters whose compatible forms begin no name. -/
def brokenAtStart : CharSet :=
  listed "37A E33 EB3 309B-309C FC5E-FC63 FDFA-FDFB FE70 FE72 FE74 FE76 FE78 FE7A FE7C FE7E FF9E-FF9F"

/-- The characters whose compatible forms go on with no name. -/
def brokenWithin : CharSet :=
  listed "37A 309B-309C FC5E-FC63 FDFA-FDFB FE70 FE72 FE74 FE76 FE78 FE7A FE7C FE7E"

/-- The properties that follow from tables: their names, the short one first, and their characters. -/
def derivedProperties : List (List String × (Unit → CharSet)) :=
  [(["Alpha", "Alphabetic"], fun _ => alphabetic),
   (["OAlpha", "Other_Alphabetic"], fun _ => difference alphabetic letters),
   (["Lower", "Lowercase"], fun _ => lowercase),
   (["Upper", "Uppercase"], fun _ => uppercase),
   (["Cased"], fun _ => within Chars.casedRanges),
   (["CI", "Case_Ignorable"], fun _ => within Chars.caseIgnorableRanges),
   (["CWL", "Changes_When_Lowercased"], fun _ => lowered),
   (["CWU", "Changes_When_Uppercased"], fun _ => uppered),
   (["CWT", "Changes_When_Titlecased"], fun _ => titled),
   (["CWCF", "Changes_When_Casefolded"], fun _ => folded),
   (["CWCM", "Changes_When_Casemapped"], fun _ => anyOf [lowered, uppered, titled]),
   (["Math"], fun _ => union (category "Sm") (property "OMath")),
   (["Gr_Ext", "Grapheme_Extend"], fun _ => extendsGrapheme),
   (["Gr_Base", "Grapheme_Base"], fun _ =>
     difference assigned (anyOf (extendsGrapheme :: ["Cc", "Cf", "Co", "Zl", "Zp"].map category))),
   (["IDS", "ID_Start"], fun _ => startsName),
   (["IDC", "ID_Continue"], fun _ => continuesName),
   (["XIDS", "XID_Start"], fun _ => difference startsName brokenAtStart),
   (["XIDC", "XID_Continue"], fun _ => difference continuesName brokenWithin)]

def property? (key : Text) : Option CharSet :=
  match row? Chars.listedProperties key with
  | some table => some (listed table)
  | none => (row? derivedProperties key).map fun set => set ()

end CharSet
end WikiEntry
