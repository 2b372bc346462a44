import WikiEntry.Page.Read
import WikiEntry.Proofs.Text.Pieces

/-!
# Cutting a text into sections

The text is cut in front of lines only, so that every piece but the last ends with a newline.  With the newlines
that end them taken away, the pieces of the sections joined by newlines are what they were cut from.
-/

namespace WikiEntry
namespace Page

/-!
# Places where lines begin
-/

/-- The place is 0 or directly behind a newline. -/
def BeginsLine (t : Text) (place : Nat) : Prop :=
  place = 0 ∨ exists u v, t = u ++ '\n' :: v ∧ place = u.length + 1

theorem beginsLine_of_mem_placesFrom {t u : Text} {lines : List Text} {n : Nat} {l : Text}
    (ht : t = u ++ Text.joinWith "\n" lines) (hu : BeginsLine t u.length)
    (hmem : (n, l) ∈ Text.placesFrom u.length lines) : BeginsLine t n := by
  induction lines generalizing u with
  | nil => cases hmem
  | cons line lines ih =>
      rcases List.mem_cons.mp hmem with heq | hmem
      · cases heq
        exact hu
      · have hlines : lines ≠ [] := by
          rintro rfl
          cases hmem
        rw [Text.joinWith_cons hlines] at ht
        have hlength : (u ++ line ++ ['\n']).length = u.length + line.length + 1 := by
          rw [List.length_append, List.length_append, List.length_singleton]
        have hnext : BeginsLine t (u ++ line ++ ['\n']).length := by
          refine Or.inr ⟨u ++ line, Text.joinWith "\n" lines, ?_, List.length_append⟩
          rw [ht]
          simp
        exact ih (u := u ++ line ++ ['\n']) (by rw [ht]; simp) hnext (by rwa [hlength])

theorem pairwise_placesFrom (place : Nat) (lines : List Text) :
    ((Text.placesFrom place lines).map Prod.fst).Pairwise (· < ·) ∧
      forall n, n ∈ (Text.placesFrom place lines).map Prod.fst -> place ≤ n := by
  induction lines generalizing place with
  | nil => exact ⟨List.Pairwise.nil, fun n hn => by cases hn⟩
  | cons line lines ih =>
      rcases ih (place + line.length + 1) with ⟨hpairwise, hle⟩
      refine ⟨List.Pairwise.cons (fun n hn => ?_) hpairwise, fun n hn => ?_⟩
      · have := hle n hn
        omega
      · rcases List.mem_cons.mp hn with rfl | hn
        · exact Nat.le_refl _
        · have := hle n hn
          omega

theorem pairwise_headerPlaces (t : Text) : (headerPlaces t).Pairwise (· < ·) :=
  (pairwise_placesFrom 0 _).1.sublist (List.filter_sublist.map Prod.fst)

theorem beginsLine_of_mem_headerPlaces {t : Text} {n : Nat} (hn : n ∈ headerPlaces t) : BeginsLine t n := by
  rcases List.mem_map.mp hn with ⟨⟨n', line⟩, hmem, rfl⟩
  have hlines : (n', line) ∈ Text.placesFrom ([] : Text).length (t.splitOn ['\n']) := (List.mem_filter.mp hmem).1
  exact beginsLine_of_mem_placesFrom (Text.joinWith_splitOn (by decide)).symm (Or.inl rfl) hlines

/-!
# Pieces
-/

def EndsLine (t : Text) : Prop :=
  exists u, t = u ++ ['\n']

theorem dropNewline_append (u : Text) : dropNewline (u ++ ['\n']) = u := by
  have hbefore : Text.before? "\n" (u ++ ['\n']) = some u := Text.before?_eq_some_iff.mpr rfl
  rw [dropNewline, hbefore, Option.getD_some]

theorem endsLine_slice {t : Text} {place next : Nat} (hlt : place < next) (hnext : BeginsLine t next) :
    EndsLine (t.slice ⟨place, next⟩) := by
  rcases hnext with rfl | ⟨u, v, rfl, rfl⟩
  · omega
  · refine ⟨u.drop place, ?_⟩
    have hlength : u.length + 1 - place = (u.drop place ++ ['\n']).length := by
      rw [List.length_append, List.length_drop, List.length_singleton]
      omega
    have hle : place ≤ u.length := Nat.lt_succ_iff.mp hlt
    rw [Text.slice, Span.size, List.drop_append_of_le_length hle, List.append_cons]
    show (u.drop place ++ ['\n'] ++ v).take (u.length + 1 - place) = u.drop place ++ ['\n']
    rw [hlength, List.take_left]

theorem cutAt_ne_nil (t : Text) (place : Nat) (places : List Nat) : cutAt t place places ≠ [] := by
  cases places with
  | nil => exact List.cons_ne_nil _ _
  | cons next places => exact List.cons_ne_nil _ _

theorem flatten_cutAt {t : Text} (place : Nat) {places : List Nat} (hplaces : places.Pairwise (· < ·))
    (hle : forall n, n ∈ places -> place ≤ n) : (cutAt t place places).flatten = t.drop place := by
  induction places generalizing place with
  | nil => exact List.append_nil _
  | cons next places ih =>
      have hnext : place ≤ next := hle next List.mem_cons_self
      rcases List.pairwise_cons.mp hplaces with ⟨hlt, hplaces⟩
      rw [cutAt, List.flatten_cons, ih next hplaces fun n hn => Nat.le_of_lt (hlt n hn), Text.slice, Span.size]
      have hdrop : t.drop next = (t.drop place).drop (next - place) := by
        rw [List.drop_drop, Nat.add_sub_cancel' hnext]
      rw [hdrop]
      exact List.take_append_drop _ _

theorem endsLine_of_mem_cutAt {t : Text} {place : Nat} {places : List Nat} (hplaces : places.Pairwise (· < ·))
    (hlt : forall n, n ∈ places -> place < n) (hbegins : forall n, n ∈ places -> BeginsLine t n) {piece : Text}
    (hpiece : piece ∈ (cutAt t place places).dropLast) : EndsLine piece := by
  induction places generalizing place with
  | nil => cases hpiece
  | cons next places ih =>
      rcases List.pairwise_cons.mp hplaces with ⟨hnext, hplaces⟩
      rw [cutAt, List.dropLast_cons_of_ne_nil (cutAt_ne_nil t next places)] at hpiece
      rcases List.mem_cons.mp hpiece with rfl | hpiece
      · exact endsLine_slice (hlt next List.mem_cons_self) (hbegins next List.mem_cons_self)
      · exact ih hplaces hnext (fun n hn => hbegins n (List.mem_cons_of_mem next hn)) hpiece

/-- The pieces of a text: the front, which ends a line if sections follow, and the sections, of which all but the last
end a line. -/
structure Cut (t front : Text) (sections : List Text) : Prop where
  append_flatten : front ++ sections.flatten = t
  front_endsLine : sections ≠ [] -> front = [] ∨ EndsLine front
  endsLine : forall piece, piece ∈ sections.dropLast -> EndsLine piece

theorem cut_chunks (t : Text) : Cut t (chunks t).1 (chunks t).2 := by
  have hbegins : forall n, n ∈ headerPlaces t -> BeginsLine t n := fun n => beginsLine_of_mem_headerPlaces
  have hplaces := pairwise_headerPlaces t
  unfold chunks
  generalize headerPlaces t = places at hbegins hplaces
  cases places with
  | nil => exact ⟨List.append_nil t, fun h => absurd rfl h, fun _ h => by cases h⟩
  | cons n places =>
      rcases List.pairwise_cons.mp hplaces with ⟨hlt, hplaces⟩
      refine ⟨?_, fun _ => ?_, fun piece hpiece => ?_⟩
      · exact flatten_cutAt 0 (List.pairwise_cons.mpr ⟨hlt, hplaces⟩) fun n _ => Nat.zero_le n
      · cases n with
        | zero => exact Or.inl rfl
        | succ n => exact Or.inr (endsLine_slice (Nat.zero_lt_succ n) (hbegins (n + 1) List.mem_cons_self))
      · exact endsLine_of_mem_cutAt hplaces hlt (fun m hm => hbegins m (List.mem_cons_of_mem n hm)) hpiece

theorem length_dropNewlines (pieces : List Text) : (dropNewlines pieces).length = pieces.length := by
  induction pieces with
  | nil => rfl
  | cons piece pieces ih =>
      cases pieces with
      | nil => rfl
      | cons next pieces =>
          show (dropNewlines (next :: pieces)).length + 1 = (next :: pieces).length + 1
          rw [ih]

/-- Without the newlines that end all pieces but the last, the pieces are joined by newlines. -/
theorem joinWith_dropNewlines {pieces : List Text} (hpieces : forall piece, piece ∈ pieces.dropLast -> EndsLine piece) :
    Text.joinWith "\n" (dropNewlines pieces) = pieces.flatten := by
  induction pieces with
  | nil => rfl
  | cons piece pieces ih =>
      cases pieces with
      | nil => exact (List.append_nil piece).symm
      | cons next pieces =>
          rcases hpieces piece List.mem_cons_self with ⟨u, rfl⟩
          have hne : dropNewlines (next :: pieces) ≠ [] := by
            rw [← List.length_pos_iff, length_dropNewlines]
            exact Nat.zero_lt_succ _
          rw [dropNewlines, dropNewline_append, Text.joinWith_cons hne,
            ih fun piece hpiece => hpieces piece (List.mem_cons_of_mem _ hpiece)]
          · rfl
          · exact fun h => by cases h

end Page
end WikiEntry
