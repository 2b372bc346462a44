import WikiEntry.Text.Blank

/-!
# Faults

What can go wrong with a page, its sections, the configuration or the storage, by cause.  The wording of all
faults is in `EntryError.message`.  A fault of the page itself is fatal: it ends the processing of the
page.
-/

namespace WikiEntry

/-- The text of a page does not form sections. -/
inductive StructureFault where
  | notAHeader (line : Text)
  | languageWithoutCode (header : Text)
  | mixedInflection (header language : Text)
  | described (t : Text)
  deriving DecidableEq, Repr

/-- A change of the section tree that would break an invariant. -/
inductive TreeFault where
  | levelOutOfRange (level : Nat)
  | notDeeper (level parentLevel : Nat)
  | notSameLevel (level targetLevel : Nat)
  | parentDetached
  | targetDetached
  | shiftTooFar (shift : Int)
  | languageShifted
  | shiftedOutOfRange (shift : Int)
  | described (t : Text)
  deriving DecidableEq, Repr

inductive Bracket where
  | curly
  | square
  deriving DecidableEq, Repr

/-- Opening and closing brackets of a piece of text do not pair up. -/
inductive BracketFault where
  | unpaired (bracket : Bracket) (place : Text)
  | described (t : Text)
  deriving DecidableEq, Repr

inductive ConfigFault where
  | unknownDescriptor (name : Text)
  | commentPattern
  | settings
  | described (t : Text)
  deriving DecidableEq, Repr

inductive StorageFault where
  | notFound
  | notADirectory
  | isADirectory
  | nameTooLong
  | nullInName
  | noSuchPage (title : Text)
  | changedMeanwhile (title : Text)
  | described (t : Text)
  deriving DecidableEq, Repr

inductive EntryError where
  | structural (f : StructureFault)
  | invariant (f : TreeFault)
  | templatesTooDeep (depth limit : Nat)
  | unbalanced (f : BracketFault)
  | unknownDescriptor (name : Text)
  | config (f : ConfigFault)
  | storage (f : StorageFault)
  deriving DecidableEq, Repr

/-!
# Wording
-/

def ofInteger (n : Int) : Text :=
  if n < 0 then '-' :: Text.ofNumber n.natAbs else Text.ofNumber n.natAbs

namespace StructureFault

def message : StructureFault → Text
  | notAHeader line => "Not a section header: " ++ line
  | languageWithoutCode header => "Language header without code: " ++ header
  | mixedInflection header language =>
      "Inflected-form section mixed with \"" ++ header ++ "\" in " ++ language
  | described t => t

end StructureFault

namespace TreeFault

def message : TreeFault → Text
  | levelOutOfRange level => "Invalid section level: " ++ Text.ofNumber level
  | notDeeper level parentLevel =>
      "Invalid level of inserted section: " ++ Text.ofNumber level ++ " (must be > "
        ++ Text.ofNumber parentLevel ++ ")"
  | notSameLevel level targetLevel =>
      "Invalid level of inserted section: " ++ Text.ofNumber level ++ " (must be == "
        ++ Text.ofNumber targetLevel ++ ")"
  | parentDetached => "Parent section is detached"
  | targetDetached => "Target section is detached"
  | shiftTooFar shift => "Level diff out of range: " ++ ofInteger shift
  | languageShifted => "Language sections must stay at level 2"
  | shiftedOutOfRange shift => "New level out of accepted range (diff " ++ ofInteger shift ++ ")"
  | described t => t

end TreeFault

namespace BracketFault

def message : BracketFault → Text
  | unpaired .curly place => "Unpaired curly brackets in " ++ place
  | unpaired .square place => "Unpaired square brackets in " ++ place
  | described t => t

end BracketFault

namespace ConfigFault

def message : ConfigFault → Text
  | unknownDescriptor name => "Unknown descriptor: " ++ name
  | commentPattern => "Invalid comment pattern"
  | settings => "Failed to parse settings"
  | described t => t

end ConfigFault

namespace StorageFault

def message : StorageFault → Text
  | notFound => "No such file or directory (os error 2)"
  | notADirectory => "Not a directory (os error 20)"
  | isADirectory => "Is a directory (os error 21)"
  | nameTooLong => "File name too long (os error 36)"
  | nullInName => "file name contained an unexpected NUL byte"
  | noSuchPage title => "Page not found: " ++ title
  | changedMeanwhile title => title ++ " changed while it was being processed"
  | described t => t

end StorageFault

namespace EntryError

def message : EntryError → Text
  | structural f => "Structural error: " ++ f.message
  | invariant f => "Invariant violation: " ++ f.message
  | templatesTooDeep depth limit =>
      "Maximum template depth exceeded: " ++ Text.ofNumber depth ++ " (limit " ++ Text.ofNumber limit
        ++ ")"
  | unbalanced f => "Unbalanced delimiters: " ++ f.message
  | unknownDescriptor name => "Unknown descriptor: " ++ name
  | config f => "Configuration error: " ++ f.message
  | storage f => "I/O error: " ++ f.message

def isFatal : EntryError → Bool
  | structural _ | invariant _ | templatesTooDeep _ _ | unbalanced _ => true
  | unknownDescriptor _ | config _ | storage _ => false

end EntryError
end WikiEntry
