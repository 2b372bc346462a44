import WikiEntry.Region.Scan

/-!
# Ignored regions

Region lists are merged into one sorted list of disjoint regions that covers the same places.  The standard
ignored regions are comments and the elements whose content is shown as it is; markup adds templates,
tables and footnotes.
-/

namespace WikiEntry
namespace Region

/-!
# Merging
-/

/-- By the beginning, and a longer region first. -/
def before (a b : Span) : Bool :=
  a.start < b.start || (a.start == b.start && b.stop ≤ a.stop)

/-- Merges the sorted regions after `last` into it as long as they overlap it. -/
def mergeFrom (last : Span) : List Span → List Span
  | [] => [last]
  | s :: rest =>
      if s.start < last.stop then mergeFrom ⟨last.start, max last.stop s.stop⟩ rest
      else last :: mergeFrom s rest

def mergeSorted : List Span → List Span
  | [] => []
  | s :: rest => mergeFrom s rest

/-- The disjoint regions that cover what the lists cover; regions that only touch stay apart. -/
def combine (lists : List (List Span)) : List Span :=
  mergeSorted (lists.flatten.mergeSort before)

def covers (regions : List Span) (place : Nat) : Bool :=
  regions.any (·.holds place)

/-!
# The families of regions
-/

/-- Comments and unparsed elements, where no text is ever searched. -/
def hidden (t : Text) : List Span :=
  combine [comments t, elements .nowiki t]

def ignored (t : Text) : List Span :=
  combine [comments t, elements .nowiki t, elements .pre t, elements .code t]

def templates (t : Text) : List Span :=
  nested ['\x7b', '\x7b'] ['\x7d', '\x7d'] t

def tables (t : Text) : List Span :=
  nested ['\x7b', '|'] ['|', '\x7d'] t

def markup (t : Text) : List Span :=
  combine [ignored t, templates t, tables t, elements .ref t]

/-!
# Looking past the hidden regions
-/

/-- The place of the first occurrence of `target` from `start` on that begins in none of the regions, the
search going on behind each occurrence inside a region.  `rounds` bounds the occurrences. -/
def findOutsideFrom? (regions : List Span) (t target : Text) : (rounds : Nat) → (start : Nat) → Option Nat
  | 0, _ => none
  | rounds + 1, start =>
      match t.findFrom? target start with
      | none => none
      | some place =>
          if covers regions place then
            findOutsideFrom? regions t target rounds (place + max target.length 1)
          else some place

/-- The place of the first occurrence of `target` from `start` on outside comments and unparsed text. -/
def findOutside? (t target : Text) (start : Nat) : Option Nat :=
  findOutsideFrom? (hidden t) t target (t.length + 2) start

/-- Everything outside the regions, which are sorted and disjoint; `place` is where `rest` begins. -/
def cutFrom (place : Nat) (rest : Text) : List Span → Text
  | [] => rest
  | s :: regions => rest.take (s.start - place) ++ cutFrom s.stop (rest.drop (s.stop - place)) regions

def stripHidden (t : Text) : Text :=
  cutFrom 0 t (hidden t)

end Region
end WikiEntry
