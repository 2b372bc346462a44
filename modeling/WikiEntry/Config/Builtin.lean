import WikiEntry.Config.Settings
import WikiEntry.Grammar.Descriptor

/-!
# Built-in tables

The tables that are used where no file overrides them.
-/

namespace WikiEntry
namespace Builtin

def languages : List (Text × Text) :=
  Text.pairs
    [("es", "español"), ("trans", "translingüístico"), ("af", "afrikáans"), ("ain", "ainu"),
     ("ay", "aimara"), ("an", "aragonés"), ("ar", "árabe"), ("ast", "asturiano"),
     ("be", "bielorruso"), ("bg", "búlgaro"), ("br", "bretón"), ("ca", "catalán"),
     ("co", "corso"), ("cs", "checo"), ("cy", "galés"), ("da", "danés"), ("de", "alemán"),
     ("el", "griego"), ("en", "inglés"), ("eo", "esperanto"), ("et", "estonio"), ("eu", "vasco"),
     ("fa", "persa"), ("fi", "finés"), ("fr", "francés"), ("ga", "irlandés"), ("gl", "gallego"),
     ("gn", "guaraní"), ("grc", "griego antiguo"), ("he", "hebreo"), ("hi", "hindi"),
     ("hr", "croata"), ("hu", "húngaro"), ("hy", "armenio"), ("id", "indonesio"),
     ("is", "islandés"), ("it", "italiano"), ("ja", "japonés"), ("ka", "georgiano"),
     ("ko", "coreano"), ("la", "latín"), ("lad", "judeoespañol"), ("lt", "lituano"),
     ("lv", "letón"), ("mk", "macedonio"), ("mt", "maltés"), ("nah", "náhuatl clásico"),
     ("nap", "napolitano"), ("nl", "neerlandés"), ("no", "noruego"), ("oc", "occitano"),
     ("pl", "polaco"), ("pt", "portugués"), ("qu", "quechua"), ("ro", "rumano"), ("ru", "ruso"),
     ("sa", "sánscrito"), ("sc", "sardo"), ("scn", "siciliano"), ("sk", "eslovaco"),
     ("sl", "esloveno"), ("sq", "albanés"), ("sr", "serbio"), ("sv", "sueco"), ("sw", "suajili"),
     ("th", "tailandés"), ("tr", "turco"), ("uk", "ucraniano"), ("vec", "véneto"),
     ("vi", "vietnamita"), ("zh", "chino")]

/-- The codes of the sister projects to which an entry may link at its end. -/
def interwiki : List Text :=
  Text.listOf
    ["af", "an", "ar", "ast", "ay", "be", "bg", "br", "ca", "co", "cs", "cy", "da", "de", "el",
     "en", "eo", "et", "eu", "fa", "fi", "fr", "ga", "gl", "gn", "he", "hi", "hr", "hu", "hy",
     "id", "is", "it", "ja", "ka", "ko", "la", "lt", "lv", "mk", "mt", "nah", "nl", "no", "oc",
     "pl", "pt", "qu", "ro", "ru", "sa", "sc", "scn", "sk", "sl", "sq", "sr", "sv", "sw", "th",
     "tr", "uk", "vec", "vi", "zh", "simple"]

/-- Other names of templates, with the name that is used instead. -/
def redirects : List (Text × Text) :=
  Text.pairs
    [("Pronunciación", "pronunciación"), ("pronunciacion", "pronunciación"),
     ("etimologia", "etimología"), ("Etimología", "etimología"),
     ("trad-arriba-es", "trad-arriba"), ("Trad-arriba", "trad-arriba"),
     ("Trad-centro", "trad-centro"), ("Trad-abajo", "trad-abajo"), ("sinonimo", "sinónimo"),
     ("sinónimos", "sinónimo"), ("antonimo", "antónimo"), ("antónimos", "antónimo"),
     ("hiperonimo", "hiperónimo"), ("hiponimo", "hipónimo"), ("derivados", "derivado"),
     ("relacionados", "relacionado"), ("homófonos", "homófono"), ("Clear", "clear"),
     ("referencias", "referencias"), ("listaref", "listaref"), ("tit ref", "título referencias"),
     ("EN", "EN-ES"), ("FR", "FR-ES"), ("DE", "DE-ES"), ("IT", "IT-ES"), ("PT", "PT-ES"),
     ("LA", "LA-ES"), ("CA", "CA-ES"), ("GL", "GL-ES")]

def compounds : List (Text × Descriptor × Descriptor) :=
  Text.keyed
    [("adjetivo cardinal", .adjective, .cardinal), ("adjetivo numeral", .adjective, .numeral),
     ("adjetivo ordinal", .adjective, .ordinal), ("adjetivo posesivo", .adjective, .possessive),
     ("adverbio de afirmación", .adverb, .ofAffirmation),
     ("adverbio de cantidad", .adverb, .ofQuantity), ("adverbio de duda", .adverb, .ofDoubt),
     ("adverbio de lugar", .adverb, .ofPlace), ("adverbio de modo", .adverb, .ofMood),
     ("adverbio de negación", .adverb, .ofNegation), ("adverbio de orden", .adverb, .ofSequence),
     ("adverbio de tiempo", .adverb, .ofTime),
     ("adverbio interrogativo", .adverb, .interrogative),
     ("adverbio relativo", .adverb, .relative), ("artículo determinado", .article, .determinate),
     ("artículo indeterminado", .article, .indeterminate),
     ("locución adjetiva", .phrase, .adjective), ("locución adverbial", .phrase, .adverb),
     ("locución conjuntiva", .phrase, .conjunction),
     ("locución interjectiva", .phrase, .interjection),
     ("locución prepositiva", .phrase, .preposition), ("locución sustantiva", .phrase, .noun),
     ("locución verbal", .phrase, .verb), ("preposición de ablativo", .preposition, .ofAblative),
     ("preposición de acusativo", .preposition, .ofAccusative),
     ("preposición de acusativo o ablativo", .preposition, .ofAccusativeOrAblative),
     ("preposición de genitivo", .preposition, .ofGenitive),
     ("pronombre interrogativo", .pronoun, .interrogative),
     ("pronombre personal", .pronoun, .personal), ("pronombre relativo", .pronoun, .relative),
     ("sustantivo ambiguo", .noun, .ambiguous), ("sustantivo animado", .noun, .animate),
     ("sustantivo común", .noun, .common), ("sustantivo femenino", .noun, .feminine),
     ("sustantivo inanimado", .noun, .inanimate), ("sustantivo masculino", .noun, .masculine),
     ("sustantivo neutro", .noun, .neuter), ("sustantivo propio", .noun, .proper),
     ("verbo impersonal", .verb, .impersonal), ("verbo intransitivo", .verb, .intransitive),
     ("verbo pronominal", .verb, .pronoun), ("verbo transitivo", .verb, .transitive)]

/-- The comments that entry forms leave behind. -/
def comments : List Text :=
  Text.listOf
    ["<!--( *?|\\n*?)-->",
     "<!-- ?si hay términos que se diferencian .*?-->",
     "<!-- ?(en|EN) para inglés,.*?-->",
     "<!---? ?Añádela en el Alfabeto Fonético Internacional.*?-->",
     "<!---? ?Añade la pronunciación en el Alfabeto Fonético Internacional.*?-->",
     "<!-- ?A[ñn]ádela con el siguiente patrón.*?-->",
     "<!-- ?Añade la etimología con el siguiente patrón.*?-->",
     "<!-- ?(y/)?o femenino\\|es\\\x7d\\\x7d.*?-->",
     "<!-- ?o (femenino|masculino)s?(\\]\\])?(===)? ?-->",
     "<!-- ?o \\\x7b\\\x7badverbio de tiempo\\|es\\\x7d\\\x7d.*?-->",
     "<!-- ?(o )?intransitivo.*?-->",
     "<!-- ?¿flexión\\?: mira en Categoría:.*?-->",
     "(?s)<!-- ?Escoge la plantilla adecuada .*?-->",
     "(?s)<!-- ?Utiliza cualquiera de las siguientes plantillas .*?-->",
     "<!-- ?explicación de lo que significa la palabra -->",
     "<!-- ?(; )?si pertenece a un campo semántico .*?-->",
     "<!-- ?(;2: )?si hay más acepciones.*?-->",
     "<!-- ?si hay más que una acepción,.*?-->",
     "(?s)<!-- ?puedes incluir uno o más de los siguientes campos .*?-->",
     "<!-- ?\\\x7b\\\x7bámbito(\\|leng=[a-z-]*?)?\\|<ÁMBITO 1>\\|<ÁMBITO2>\\\x7d\\\x7d.*?-->",
     "<!-- ?\\\x7b\\\x7buso(\\|leng=[a-z-]*?)?\\|\\\x7d\\\x7d.*?-->",
     "<!-- ?\\\x7b\\\x7bsinónimo(\\|leng=[a-z-]*?)?\\|<(SINÓNIMO )?1>\\|<(SINÓNIMO )?2>\\\x7d\\\x7d.*?-->",
     "<!-- ?\\\x7b\\\x7bantónimo(\\|leng=[a-z-]*?)?\\|<(ANTÓNIMO )?1>\\|<(ANTÓNIMO )?2>\\\x7d\\\x7d.*?-->",
     "<!-- ?\\\x7b\\\x7bhipónimo(\\|leng=[a-z-]*?)?\\|<(HIPÓNIMO )?1>\\|<(HIPÓNIMO )?2>\\\x7d\\\x7d.*?-->",
     "<!-- ?\\\x7b\\\x7bhiperónimo(\\|leng=[a-z-]*?)?\\|<(HIPERÓNIMO )?1>\\|<(HIPERÓNIMO )?2>\\\x7d\\\x7d.*?-->",
     "<!-- ?\\\x7b\\\x7brelacionado(\\|leng=[a-z-]*?)?\\|<1>\\|<2>\\\x7d\\\x7d.*?-->",
     "<!-- ?\\\x7b\\\x7bejemplo\\|<oración.*?-->",
     "<!-- ?\\\x7b\\\x7bejemplo\\\x7d\\\x7d ?-->",
     "<!-- ?aquí pones una explicaci[óo]n .*?-->",
     "<!-- ?aquí escribes una explicaci[óo]n .*?-->",
     "<!-- ?si tienes información adicional.*?-->",
     "(?s)<!-- ?Puedes también incluir las siguientes secciones.*?-->",
     "<!-- ?\\\x7b\\\x7betimología\\|IDIOMA.*?-->",
     "<!-- ?posiblemente desees incluir una imagen.*?-->",
     "<!-- ?si se trata de un país.*?-->",
     "(?s)<!-- ?puedes también incluir locuciones.*?-->",
     "(?s)<!-- ?Incluir la plantilla de conjugación aquí.*?-->",
     "(?s)<!-- ?otra sección opcional para enlaces externos.*?-->",
     "<!-- ?¿flexión?: mira en .*?-->",
     "<!-- ?\\\x7b\\\x7binflect.sust.sg-pl\\|AQUÍ EL SINGULAR.*?-->",
     "<!---? ?\\\x7b\\\x7bpronunciación(\\|leng=.*?)?\\|?(\\[ ?(ˈ|eˈxem.plo) ?\\])?\\\x7d\\\x7d.*?-->",
     "<!-- ?\\\x7b\\\x7bpronunciación\\|(\\[?.+?\\]?| ˈ )\\\x7d\\\x7d \\|-\\|c=.+?\\|s=.+?(\\\x7d\\\x7d|\\|) *?-->",
     "<!-- ?en general, no se indica la etimología .*?-->",
     "<!-- ?si vas a insertar una nueva sección de etimología o de idioma.*?-->",
     "<!-- ?si se trata de un país,? por favor,? pon.*?-->",
     "<!-- *?apellidos .*?-->",
     "<!-- *?antropónimos .*?-->",
     "<!-- *?apéndice .*?-->",
     "<!-- ?(primera|segunda) locución ?-->",
     "<!---*\\s*(== ?Traducciones ?==)?(\\\x7b\\\x7btrad-(arriba|centro|abajo)\\\x7d\\\x7d|\\* ?\\\x7b\\\x7b\\w+\\\x7d\\\x7d: \\\x7b\\\x7btrad\\|\\w+\\|?\\\x7d\\\x7d|\\s*)+-*?-->",
     "<!---*\\s*== ?Locuciones ?==(\\* ?\\[\\[\\]\\][^\\n-]*?|\\s*)+-*?-->",
     "<!-- *?tipo de palabra, por ejemplo .*?-->"]

def settings : Settings where
  maxTemplateDepth := 2
  headSections :=
    Text.listOf
      ["Pronunciación y escritura", "Notación", "Etimología"]
  bottomSections :=
    Text.listOf
      ["Locuciones", "Refranes", "Conjugación", "Evidencias", "Otras formas",
       "Información adicional", "Véase también", "Traducciones"]
  sectionTemplates :=
    Text.listOf
      ["abreviatura", "adjetivo", "adjetivo cardinal", "adjetivo numeral", "adjetivo ordinal",
       "adjetivo posesivo", "adverbio", "adverbio de afirmación", "adverbio de cantidad",
       "adverbio de duda", "adverbio de lugar", "adverbio de modo", "adverbio de negación",
       "adverbio de orden", "adverbio de tiempo", "adverbio interrogativo", "adverbio relativo",
       "afijo", "artículo", "artículo determinado", "artículo indeterminado", "conjunción",
       "dígrafo", "interjección", "letra", "locución", "locución adjetiva", "locución adverbial",
       "locución conjuntiva", "locución interjectiva", "locución prepositiva",
       "locución sustantiva", "locución verbal", "numeral", "onomatopeya", "partícula",
       "postposición", "prefijo", "preposición", "preposición de ablativo",
       "preposición de acusativo", "preposición de acusativo o ablativo",
       "preposición de genitivo", "pronombre", "pronombre interrogativo", "pronombre personal",
       "pronombre relativo", "refrán", "sigla", "sufijo", "sufijo flexivo", "sustantivo",
       "sustantivo ambiguo", "sustantivo animado", "sustantivo femenino",
       "sustantivo femenino y masculino", "sustantivo inanimado", "sustantivo masculino",
       "sustantivo neutro", "sustantivo propio", "sustantivo común", "verbo", "verbo impersonal",
       "verbo intransitivo", "verbo pronominal", "verbo transitivo"]
  languageParamTemplates :=
    Text.listOf
      ["etimología", "etimología2", "transliteración", "homófono", "grafía alternativa",
       "variantes", "parónimo", "sinónimo", "antónimo", "hiperónimo", "hipónimo", "uso", "ámbito",
       "apellido", "doble conjugación", "derivad", "grafía", "pron-graf", "rima", "relacionado",
       "pronunciación", "diacrítico", "ampliable", "variante", "variante obsoleta",
       "grafía obsoleta", "grafía rara", "sustantivo de verbo", "sustantivo de adjetivo",
       "antropónimo masculino", "antropónimo femenino", "adjetivo de padecimiento",
       "adjetivo de sustantivo", "adjetivo de verbo", "adverbio de adjetivo",
       "adverbio de sustantivo", "merónimo", "holónimo", "datación", "cohipónimo"]
  inflectedFormTemplates :=
    Text.listOf
      ["forma sustantivo", "forma sustantivo plural", "forma adjetivo", "forma adjetivo 2",
       "forma verbo", "forma verbo-en", "forma verbal arcaica-en", "forma participio",
       "forma pronombre", "forma sufijo", "gerundio", "participio", "infinitivo", "supino",
       "plural", "f.s.p", "f.adj2", "f.v", "fv-en", "fvarc-en", "f.part", "f.suf"]

end Builtin
end WikiEntry
