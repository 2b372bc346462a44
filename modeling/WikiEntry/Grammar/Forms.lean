import WikiEntry.Grammar.Descriptor

/-!
# The forms of a descriptor

Every simple descriptor has an entry with its kind, its singular and the forms that do not follow from the
singular; the other forms are derived.  A compound descriptor takes its forms from its two members.
-/

namespace WikiEntry

inductive Gender where
  | masculine
  | feminine
  deriving DecidableEq, Repr

/-- Nouns may head a category; qualifiers only follow one. -/
inductive WordKind where
  | noun (g : Gender)
  | qualifier
  | invariant
  deriving DecidableEq, Repr

structure Forms where
  kind : WordKind
  singular : Text
  plural? : Option Text := none
  masculine? : Option Text := none
  feminine? : Option Text := none
  masculinePlural? : Option Text := none
  femininePlural? : Option Text := none
  aliases : List Text := []

namespace Forms

def plural (f : Forms) : Text :=
  if f.kind = .invariant then f.singular else f.plural?.getD (f.singular ++ "s")

def masculine (f : Forms) : Text :=
  if f.kind = .invariant then f.singular else f.masculine?.getD f.singular

def feminine (f : Forms) : Text :=
  if f.kind = .invariant then f.singular else f.feminine?.getD f.masculine

def masculinePlural (f : Forms) : Text :=
  if f.kind = .invariant then f.singular
  else f.masculinePlural?.getD (f.masculine?.elim f.plural (· ++ "s"))

def femininePlural (f : Forms) : Text :=
  if f.kind = .invariant then f.singular
  else f.femininePlural?.getD (f.feminine?.elim f.masculinePlural (· ++ "s"))

end Forms

inductive LexicalEntry where
  | simple (forms : Forms)
  | compound (first second : Descriptor)

/-!
# The lexicon
-/

namespace Descriptor

def entry : Descriptor → LexicalEntry
  | abbreviation =>
      .simple
        { kind := .noun .feminine, singular := "abreviatura",
          masculine? := some "de abreviatura" }
  | adjective =>
      .simple
        { kind := .noun .masculine, singular := "adjetivo", feminine? := some "adjetiva",
          aliases := ["adjetivos"] }
  | numeralAdjective => .compound .adjective .numeral
  | possessiveAdjective => .compound .adjective .possessive
  | adverb =>
      .simple
        { kind := .noun .masculine, singular := "adverbio", masculine? := some "adverbial",
          masculinePlural? := some "adverbiales", aliases := ["adverbios"] }
  | affix => .simple { kind := .noun .masculine, singular := "afijo", feminine? := some "afija" }
  | ambiguous =>
      .simple { kind := .qualifier, singular := "ambiguo", feminine? := some "ambigua" }
  | animate => .simple { kind := .qualifier, singular := "animado", feminine? := some "animada" }
  | article =>
      .simple
        { kind := .noun .masculine, singular := "artículo", masculine? := some "de artículo",
          aliases := ["artículos", "articulos", "articulo"] }
  | auxiliary =>
      .simple { kind := .qualifier, singular := "auxiliar", plural? := some "auxiliares" }
  | cardinal =>
      .simple { kind := .qualifier, singular := "cardinal", plural? := some "cardinales" }
  | collective =>
      .simple { kind := .qualifier, singular := "colectivo", feminine? := some "colectiva" }
  | comparative =>
      .simple { kind := .qualifier, singular := "comparativo", feminine? := some "comparativa" }
  | common => .simple { kind := .qualifier, singular := "común", plural? := some "comunes" }
  | conjunction =>
      .simple
        { kind := .noun .feminine, singular := "conjunción", plural? := some "conjunciones",
          masculine? := some "conjuntivo", feminine? := some "conjuntiva" }
  | copulative =>
      .simple { kind := .qualifier, singular := "copulativo", feminine? := some "copulativa" }
  | ofAblative => .simple { kind := .invariant, singular := "de ablativo" }
  | ofAccusative => .simple { kind := .invariant, singular := "de acusativo" }
  | ofAccusativeOrAblative =>
      .simple { kind := .invariant, singular := "de acusativo o ablativo" }
  | ofAffirmation => .simple { kind := .invariant, singular := "de afirmación" }
  | ofQuantity => .simple { kind := .invariant, singular := "de cantidad" }
  | ofDative => .simple { kind := .invariant, singular := "de dativo" }
  | ofDoubt => .simple { kind := .invariant, singular := "de duda" }
  | ofGenitive => .simple { kind := .invariant, singular := "de genitivo" }
  | ofIndicative => .simple { kind := .invariant, singular := "de indicativo" }
  | ofPlace => .simple { kind := .invariant, singular := "de lugar" }
  | ofMood => .simple { kind := .invariant, singular := "de modo" }
  | ofNegation => .simple { kind := .invariant, singular := "de negación" }
  | ofSequence => .simple { kind := .invariant, singular := "de orden" }
  | ofTime => .simple { kind := .invariant, singular := "de tiempo" }
  | defective =>
      .simple { kind := .qualifier, singular := "defectivo", feminine? := some "defectiva" }
  | demonstrative =>
      .simple { kind := .qualifier, singular := "demostrativo", feminine? := some "demostrativa" }
  | determinate =>
      .simple { kind := .qualifier, singular := "determinado", feminine? := some "determinada" }
  | dual => .simple { kind := .qualifier, singular := "dual", plural? := some "duales" }
  | digraph =>
      .simple { kind := .noun .masculine, singular := "dígrafo", masculine? := some "de dígrafo" }
  | exclamative =>
      .simple { kind := .qualifier, singular := "exclamativo", feminine? := some "exclamativa" }
  | feminine =>
      .simple { kind := .qualifier, singular := "femenino", feminine? := some "femenina" }
  | verbForm =>
      .simple
        { kind := .noun .feminine, singular := "forma verbal", plural? := some "formas verbales",
          masculine? := some "de forma verbal", masculinePlural? := some "de formas verbales" }
  | imperfective =>
      .simple { kind := .qualifier, singular := "imperfectivo", feminine? := some "imperfectiva" }
  | impersonal =>
      .simple { kind := .qualifier, singular := "impersonal", plural? := some "impersonales" }
  | inanimate =>
      .simple { kind := .qualifier, singular := "inanimado", feminine? := some "inanimada" }
  | indeclinable => .simple { kind := .qualifier, singular := "indeclinable" }
  | indefinite =>
      .simple { kind := .qualifier, singular := "indefinido", feminine? := some "indefinida" }
  | indeterminate =>
      .simple
        { kind := .qualifier, singular := "indeterminado", feminine? := some "indeterminada" }
  | infixMorpheme =>
      .simple { kind := .noun .masculine, singular := "infijo", feminine? := some "infija" }
  | initialism =>
      .simple
        { kind := .noun .masculine, singular := "inicialismo",
          masculine? := some "de inicialismo" }
  | interjection =>
      .simple
        { kind := .noun .feminine, singular := "interjección", plural? := some "interjecciones",
          masculine? := some "interjectivo", feminine? := some "interjectiva" }
  | interrogative =>
      .simple
        { kind := .qualifier, singular := "interrogativo", feminine? := some "interrogativa" }
  | intransitive =>
      .simple { kind := .qualifier, singular := "intransitivo", feminine? := some "intransitiva" }
  | letter =>
      .simple { kind := .noun .feminine, singular := "letra", masculine? := some "de letra" }
  | phrase =>
      .simple
        { kind := .noun .feminine, singular := "locución", plural? := some "locuciones",
          masculine? := some "locutivo", feminine? := some "locutiva" }
  | masculine =>
      .simple { kind := .qualifier, singular := "masculino", feminine? := some "masculina" }
  | modal => .simple { kind := .qualifier, singular := "modal", plural? := some "modales" }
  | neuter => .simple { kind := .qualifier, singular := "neutro", feminine? := some "neutra" }
  | numeral =>
      .simple { kind := .noun .masculine, singular := "numeral", plural? := some "numerales" }
  | ordinal => .simple { kind := .qualifier, singular := "ordinal", plural? := some "ordinales" }
  | particle =>
      .simple
        { kind := .noun .feminine, singular := "partícula", masculine? := some "de partícula",
          masculinePlural? := some "de partículas" }
  | personal =>
      .simple { kind := .qualifier, singular := "personal", plural? := some "personales" }
  | plural => .simple { kind := .qualifier, singular := "plural", plural? := some "plurales" }
  | possessive =>
      .simple
        { kind := .qualifier, singular := "posesivo", feminine? := some "posesiva",
          aliases := ["posesivos"] }
  | postposition =>
      .simple
        { kind := .noun .feminine, singular := "postposición", plural? := some "postposiciones",
          masculine? := some "postpositivo", feminine? := some "postpositiva" }
  | prefixMorpheme =>
      .simple { kind := .noun .masculine, singular := "prefijo", feminine? := some "prefija" }
  | preposition =>
      .simple
        { kind := .noun .feminine, singular := "preposición", plural? := some "preposiciones",
          masculine? := some "prepositivo", feminine? := some "prepositiva",
          aliases := ["preposicion", "preposiciones"] }
  | pronoun =>
      .simple
        { kind := .noun .masculine, singular := "pronombre", masculine? := some "pronominal",
          masculinePlural? := some "pronominales", aliases := ["pronombres", "pronominal"] }
  | possessivePronoun => .compound .pronoun .possessive
  | proper => .simple { kind := .qualifier, singular := "propio", feminine? := some "propia" }
  | proverb =>
      .simple
        { kind := .noun .masculine, singular := "refrán", plural? := some "refranes",
          masculine? := some "de refrán", masculinePlural? := some "de refrán" }
  | relative =>
      .simple { kind := .qualifier, singular := "relativo", feminine? := some "relativa" }
  | acronym =>
      .simple
        { kind := .noun .feminine, singular := "sigla", masculine? := some "de sigla",
          masculinePlural? := some "de siglas" }
  | singular =>
      .simple { kind := .qualifier, singular := "singular", plural? := some "singulares" }
  | suffixMorpheme =>
      .simple { kind := .noun .masculine, singular := "sufijo", feminine? := some "sufija" }
  | flexiveSuffix =>
      .simple
        { kind := .noun .masculine, singular := "sufijo flexivo",
          plural? := some "sufijos flexivos", feminine? := some "sufija flexiva",
          femininePlural? := some "sufijas flexivas" }
  | noun =>
      .simple
        { kind := .noun .masculine, singular := "sustantivo", feminine? := some "sustantiva",
          aliases := ["sustantivos"] }
  | properNoun =>
      .simple
        { kind := .noun .masculine, singular := "sustantivo propio",
          plural? := some "sustantivos propios", feminine? := some "sustantiva propia",
          femininePlural? := some "sustantivas propias" }
  | transitive =>
      .simple { kind := .qualifier, singular := "transitivo", feminine? := some "transitiva" }
  | verb =>
      .simple
        { kind := .noun .masculine, singular := "verbo", masculine? := some "verbal",
          masculinePlural? := some "verbales", aliases := ["verbos"] }

/-!
# Looking forms up
-/

/-- A form of a simple descriptor; the members of compounds are simple. -/
def simpleForm (form : Forms → Text) (d : Descriptor) : Text :=
  match d.entry with
  | .simple f => form f
  | .compound _ _ => []

def form (form : Forms → Text) (d : Descriptor) : Text :=
  match d.entry with
  | .simple f => form f
  | .compound a b => simpleForm form a ++ " " ++ simpleForm form b

def singularForm (d : Descriptor) : Text :=
  d.form Forms.singular

def pluralForm (d : Descriptor) : Text :=
  d.form Forms.plural

def adjectiveForm (d : Descriptor) (g : Gender) (inPlural : Bool) : Text :=
  match g, inPlural with
  | .masculine, false => d.form Forms.masculine
  | .feminine, false => d.form Forms.feminine
  | .masculine, true => d.form Forms.masculinePlural
  | .feminine, true => d.form Forms.femininePlural

def aliases (d : Descriptor) : List Text :=
  match d.entry with
  | .simple f => f.aliases
  | .compound _ _ => []

def members? (d : Descriptor) : Option (Descriptor × Descriptor) :=
  match d.entry with
  | .simple _ => none
  | .compound a b => some (a, b)

def isMasculineNoun (d : Descriptor) : Bool :=
  match d.entry with
  | .simple f => f.kind = .noun .masculine
  | .compound _ _ => false

/-- The gender that the qualifiers of `d` agree with; a compound has the gender of its first member. -/
def gender (d : Descriptor) : Gender :=
  let head := match d.entry with
    | .simple _ => d
    | .compound a _ => a
  if head.isMasculineNoun then .masculine else .feminine

/-- Nouns and compounds may head a category. -/
def isHead (d : Descriptor) : Bool :=
  match d.entry with
  | .simple f =>
      match f.kind with
      | .noun _ => true
      | .qualifier | .invariant => false
  | .compound _ _ => true

/-- The first descriptor with the given singular or alias. -/
def ofForm (form : Text) : Except EntryError Descriptor :=
  match all.find? fun d => d.singularForm == form || d.aliases.contains form with
  | some d => .ok d
  | none => .error (.unknownDescriptor form)

end Descriptor
end WikiEntry
