import WikiEntry.Text.Basic

/-!
# Byte offsets

A place in a text counts characters; in a file it is the number of bytes of the UTF-8 form before it.
-/

namespace WikiEntry
namespace Text

def byteSize (t : Text) : Nat :=
  t.foldr (fun c size => c.utf8Size + size) 0

def byteOffset (t : Text) (place : Nat) : Nat :=
  byteSize (t.take place)

/-- The first place at or after a byte offset; offsets behind the end keep their distance to it. -/
def placeOfByte : Text → Nat → Nat
  | _, 0 => 0
  | [], n => n
  | c :: r, n => placeOfByte r (n - c.utf8Size) + 1

theorem byteSize_append (s t : Text) : byteSize (s ++ t) = byteSize s + byteSize t := by
  induction s with
  | nil => exact (Nat.zero_add _).symm
  | cons c s ih => exact (congrArg (c.utf8Size + ·) ih).trans (Nat.add_assoc _ _ _).symm

theorem placeOfByte_byteOffset (t : Text) {place : Nat} (h : place ≤ t.length) :
    placeOfByte t (byteOffset t place) = place := by
  induction t generalizing place with
  | nil =>
      have : place = 0 := by simpa using h
      subst this
      rfl
  | cons c r ih =>
      cases place with
      | zero => rfl
      | succ n =>
          have hsize : byteOffset (c :: r) (n + 1) = c.utf8Size + byteOffset r n := rfl
          have hpos : 0 < c.utf8Size := Char.utf8Size_pos c
          have hne : c.utf8Size + byteOffset r n ≠ 0 := by omega
          rw [hsize]
          obtain ⟨m, hm⟩ : ∃ m, c.utf8Size + byteOffset r n = m + 1 := Nat.exists_eq_succ_of_ne_zero hne
          rw [hm, placeOfByte, ← hm, Nat.add_sub_cancel_left, ih (by simpa using h)]
          simp

end Text
end WikiEntry
