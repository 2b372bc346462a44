import WikiEntry.Text.Blank
import WikiEntry.Error

/-!
# Grammatical descriptors

The closed list of descriptors that the headings of an entry are made of, each with the identifier under
which configuration files know it.
-/

namespace WikiEntry

inductive Descriptor where
  | abbreviation
  | adjective
  | numeralAdjective
  | possessiveAdjective
  | adverb
  | affix
  | ambiguous
  | animate
  | article
  | auxiliary
  | cardinal
  | collective
  | comparative
  | common
  | conjunction
  | copulative
  | ofAblative
  | ofAccusative
  | ofAccusativeOrAblative
  | ofAffirmation
  | ofQuantity
  | ofDative
  | ofDoubt
  | ofGenitive
  | ofIndicative
  | ofPlace
  | ofMood
  | ofNegation
  | ofSequence
  | ofTime
  | defective
  | demonstrative
  | determinate
  | dual
  | digraph
  | exclamative
  | feminine
  | verbForm
  | imperfective
  | impersonal
  | inanimate
  | indeclinable
  | indefinite
  | indeterminate
  | infixMorpheme
  | initialism
  | interjection
  | interrogative
  | intransitive
  | letter
  | phrase
  | masculine
  | modal
  | neuter
  | numeral
  | ordinal
  | particle
  | personal
  | plural
  | possessive
  | postposition
  | prefixMorpheme
  | preposition
  | pronoun
  | possessivePronoun
  | proper
  | proverb
  | relative
  | acronym
  | singular
  | suffixMorpheme
  | flexiveSuffix
  | noun
  | properNoun
  | transitive
  | verb
  deriving DecidableEq, Repr

namespace Descriptor

/-- All descriptors, in the order in which they are searched. -/
def all : List Descriptor :=
  [.abbreviation, .adjective, .numeralAdjective, .possessiveAdjective, .adverb, .affix,
   .ambiguous, .animate, .article, .auxiliary, .cardinal, .collective, .comparative, .common,
   .conjunction, .copulative, .ofAblative, .ofAccusative, .ofAccusativeOrAblative,
   .ofAffirmation, .ofQuantity, .ofDative, .ofDoubt, .ofGenitive, .ofIndicative, .ofPlace,
   .ofMood, .ofNegation, .ofSequence, .ofTime, .defective, .demonstrative, .determinate, .dual,
   .digraph, .exclamative, .feminine, .verbForm, .imperfective, .impersonal, .inanimate,
   .indeclinable, .indefinite, .indeterminate, .infixMorpheme, .initialism, .interjection,
   .interrogative, .intransitive, .letter, .phrase, .masculine, .modal, .neuter, .numeral,
   .ordinal, .particle, .personal, .plural, .possessive, .postposition, .prefixMorpheme,
   .preposition, .pronoun, .possessivePronoun, .proper, .proverb, .relative, .acronym,
   .singular, .suffixMorpheme, .flexiveSuffix, .noun, .properNoun, .transitive, .verb]

theorem mem_all (d : Descriptor) : d ∈ all := by
  cases d <;> decide

/-- The identifier of a descriptor in configuration files. -/
def name : Descriptor → Text
  | abbreviation => "ABBREVIATION"
  | adjective => "ADJECTIVE"
  | numeralAdjective => "NUMERAL_ADJECTIVE"
  | possessiveAdjective => "POSSESSIVE_ADJECTIVE"
  | adverb => "ADVERB"
  | affix => "AFFIX"
  | ambiguous => "AMBIGUOUS"
  | animate => "ANIMATE"
  | article => "ARTICLE"
  | auxiliary => "AUXILIARY"
  | cardinal => "CARDINAL"
  | collective => "COLLECTIVE"
  | comparative => "COMPARATIVE"
  | common => "COMMON"
  | conjunction => "CONJUNCTION"
  | copulative => "COPULATIVE"
  | ofAblative => "OF_ABLATIVE"
  | ofAccusative => "OF_ACCUSATIVE"
  | ofAccusativeOrAblative => "OF_ACCUSATIVE_OR_ABLATIVE"
  | ofAffirmation => "OF_AFFIRMATION"
  | ofQuantity => "OF_QUANTITY"
  | ofDative => "OF_DATIVE"
  | ofDoubt => "OF_DOUBT"
  | ofGenitive => "OF_GENITIVE"
  | ofIndicative => "OF_INDICATIVE"
  | ofPlace => "OF_PLACE"
  | ofMood => "OF_MOOD"
  | ofNegation => "OF_NEGATION"
  | ofSequence => "OF_SEQUENCE"
  | ofTime => "OF_TIME"
  | defective => "DEFECTIVE"
  | demonstrative => "DEMONSTRATIVE"
  | determinate => "DETERMINATE"
  | dual => "DUAL"
  | digraph => "DIGRAPH"
  | exclamative => "EXCLAMATIVE"
  | feminine => "FEMININE"
  | verbForm => "VERB_FORM"
  | imperfective => "IMPERFECTIVE"
  | impersonal => "IMPERSONAL"
  | inanimate => "INANIMATE"
  | indeclinable => "INDECLINABLE"
  | indefinite => "INDEFINITE"
  | indeterminate => "INDETERMINATE"
  | infixMorpheme => "INFIX"
  | initialism => "INITIALISM"
  | interjection => "INTERJECTION"
  | interrogative => "INTERROGATIVE"
  | intransitive => "INTRANSITIVE"
  | letter => "LETTER"
  | phrase => "PHRASE"
  | masculine => "MASCULINE"
  | modal => "MODAL"
  | neuter => "NEUTER"
  | numeral => "NUMERAL"
  | ordinal => "ORDINAL"
  | particle => "PARTICLE"
  | personal => "PERSONAL"
  | plural => "PLURAL"
  | possessive => "POSSESSIVE"
  | postposition => "POSTPOSITION"
  | prefixMorpheme => "PREFIX"
  | preposition => "PREPOSITION"
  | pronoun => "PRONOUN"
  | possessivePronoun => "POSSESSIVE_PRONOUN"
  | proper => "PROPER"
  | proverb => "PROVERB"
  | relative => "RELATIVE"
  | acronym => "ACRONYM"
  | singular => "SINGULAR"
  | suffixMorpheme => "SUFFIX"
  | flexiveSuffix => "FLEXIVE_SUFFIX"
  | noun => "NOUN"
  | properNoun => "PROPER_NOUN"
  | transitive => "TRANSITIVE"
  | verb => "VERB"

/-- The descriptor with the given identifier, blanks around it aside. -/
def ofName (name : Text) : Except EntryError Descriptor :=
  match all.find? fun d => d.name == name.trim with
  | some d => .ok d
  | none => .error (.unknownDescriptor name.trim)

end Descriptor
end WikiEntry
