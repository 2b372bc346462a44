import WikiEntry.Error

/-!
# Steps that may fail

A step after another one is reached only if the first one does not fail, and a step for every element of a list
only if none of them does.
-/

namespace WikiEntry

theorem exists_of_bind_eq_ok {ε α β : Type} {x : Except ε α} {f : α -> Except ε β} {b : β} (h : x >>= f = .ok b) :
    exists a, x = .ok a ∧ f a = .ok b := by
  cases x with
  | error e => cases h
  | ok a => exact ⟨a, rfl, h⟩

theorem exists_of_map_eq_ok {α β : Type} {x : Except EntryError α} {f : α -> β} {b : β} (h : x.map f = .ok b) :
    exists a, x = .ok a ∧ f a = b := by
  cases x with
  | error e => cases h
  | ok a => exact ⟨a, rfl, Except.ok.inj h⟩

theorem map_eq_of_mapM_eq_ok {α β : Type} {f : α -> Except EntryError β} {xs : List α} {ys : List β}
    (h : xs.mapM f = .ok ys) : xs.map f = ys.map .ok := by
  induction xs generalizing ys with
  | nil =>
      cases h
      rfl
  | cons x xs ih =>
      rw [List.mapM_cons] at h
      rcases exists_of_bind_eq_ok h with ⟨y, hy, h⟩
      rcases exists_of_bind_eq_ok h with ⟨ys', hys, h⟩
      cases h
      rw [List.map_cons, List.map_cons, hy, ih hys]

theorem exists_of_mem_of_mapM_eq_ok {α β : Type} {f : α -> Except EntryError β} {xs : List α} {ys : List β}
    (h : xs.mapM f = .ok ys) {y : β} (hy : y ∈ ys) : exists x, x ∈ xs ∧ f x = .ok y := by
  have hmem : Except.ok y ∈ ys.map (Except.ok (ε := EntryError)) := List.mem_map_of_mem hy
  rw [← map_eq_of_mapM_eq_ok h] at hmem
  exact List.mem_map.mp hmem

/-- What every step keeps, where it is told which steps are still to come, holds at the end. -/
theorem of_foldlM_eq_ok {α β : Type} {f : β -> α -> Except EntryError β} {motive : List α -> β -> Prop}
    (hstep : forall x xs b c, motive (x :: xs) b -> f b x = .ok c -> motive xs c) {xs : List α} {b c : β}
    (hb : motive xs b) (hc : xs.foldlM f b = .ok c) : motive [] c := by
  induction xs generalizing b with
  | nil =>
      cases hc
      exact hb
  | cons x xs ih =>
      rw [List.foldlM_cons] at hc
      rcases exists_of_bind_eq_ok hc with ⟨d, hd, hc⟩
      exact ih (hstep x xs b d hb hd) hc

theorem error_of_bind_eq_error {α β : Type} {x : Except EntryError α} {f : α -> Except EntryError β} {e : EntryError}
    (h : x >>= f = .error e) : x = .error e ∨ exists a, x = .ok a ∧ f a = .error e := by
  cases x with
  | error e' =>
      cases h
      exact Or.inl rfl
  | ok a => exact Or.inr ⟨a, rfl, h⟩

theorem exists_of_mapM_eq_error {α β : Type} {f : α -> Except EntryError β} {xs : List α} {e : EntryError}
    (h : xs.mapM f = .error e) : exists x, x ∈ xs ∧ f x = .error e := by
  induction xs with
  | nil => cases h
  | cons x xs ih =>
      rw [List.mapM_cons] at h
      rcases error_of_bind_eq_error h with hx | ⟨y, _, h⟩
      · exact ⟨x, List.mem_cons_self, hx⟩
      · rcases error_of_bind_eq_error h with hxs | ⟨ys, _, h⟩
        · rcases ih hxs with ⟨z, hz, hfail⟩
          exact ⟨z, List.mem_cons_of_mem x hz, hfail⟩
        · cases h

theorem exists_mapM_eq_error {α β : Type} {f : α -> Except EntryError β} {xs : List α} {x : α} {e : EntryError}
    (hx : x ∈ xs) (he : f x = .error e) : exists e', xs.mapM f = .error e' := by
  cases h : xs.mapM f with
  | error e' => exact ⟨e', rfl⟩
  | ok ys =>
      have hmem : f x ∈ ys.map (Except.ok (ε := EntryError)) := by
        rw [← map_eq_of_mapM_eq_ok h]
        exact List.mem_map_of_mem hx
      rcases List.mem_map.mp hmem with ⟨y, _, hy⟩
      rw [he] at hy
      cases hy

end WikiEntry
