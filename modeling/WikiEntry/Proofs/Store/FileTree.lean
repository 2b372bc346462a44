import WikiEntry.Proofs.Error
import WikiEntry.Store.FileTree

/-!
# Writing one file

A file is written into a folder that was there before, and nothing else changes: what leads to a folder still leads to
it, and all other entries of that folder are read as before.
-/

namespace WikiEntry
namespace FileTree

variable {t t' : FileTree} {d p q place : Path} {f : StoredFile} {files : List (Path × StoredFile)} {name other content : Text}
  {now : Nat}

/-!
# Files and folders
-/

theorem lookup_put (files : List (Path × StoredFile)) (p q : Path) (f : StoredFile) :
    (put files p f).lookup q = if q = p then some f else files.lookup q := by
  have hself : forall p : Path, (p == p) = true := fun p => beq_iff_eq.mpr rfl
  induction files with
  | nil =>
      rw [put, List.lookup_cons]
      by_cases h : q = p
      · rw [h, hself, if_pos rfl]
      · rw [beq_false_of_ne h, if_neg h]
  | cons x files ih =>
      rw [put]
      by_cases hx : x.1 = p
      · rw [if_pos hx, List.lookup_cons, List.lookup_cons, hx]
        by_cases h : q = p
        · rw [h, hself, if_pos rfl]
        · rw [beq_false_of_ne h, if_neg h]
      · rw [if_neg hx, List.lookup_cons, List.lookup_cons, ih]
        by_cases h : q = p
        · rw [if_pos h, if_pos h, h, beq_false_of_ne (Ne.symm hx)]
        · rw [if_neg h, if_neg h]

theorem any_put (files : List (Path × StoredFile)) (p : Path) (f : StoredFile) (g : Path -> Bool) :
    (put files p f).any (fun x => g x.1) = (files.any (fun x => g x.1) || g p) := by
  induction files with
  | nil => simp [put]
  | cons x files ih =>
      rw [put]
      by_cases hx : x.1 = p
      · rw [if_pos hx, List.any_cons, List.any_cons, hx]
        cases g p <;> simp
      · rw [if_neg hx, List.any_cons, List.any_cons, ih, Bool.or_assoc]

/-- A path leads strictly below another one. -/
def isBelow (q p : Path) : Bool :=
  p.absolute == q.absolute && q.steps.isPrefixOf p.steps && q != p

theorem isFolder_put (files : List (Path × StoredFile)) (p q : Path) (f : StoredFile) :
    isFolder ⟨put files p f⟩ q = (isFolder ⟨files⟩ q || isBelow q p) := by
  have hany := any_put files p f (isBelow q)
  simp only [isFolder]
  rw [Bool.or_assoc]
  exact congrArg (q.steps.all Path.goesUp || ·) hany

/-- Entries of one folder do not lead below each other. -/
theorem isBelow_child (d : Path) (name other : Text) : isBelow (d.child other) (d.child name) = false := by
  refine Bool.eq_false_iff.mpr fun h => ?_
  rw [isBelow, Bool.and_eq_true, Bool.and_eq_true, List.isPrefixOf_iff_prefix] at h
  rcases h with ⟨⟨_, hsteps⟩, hne⟩
  have heq : d.steps ++ [other] = d.steps ++ [name] := hsteps.eq_of_length (by simp [Path.child])
  have hname := List.append_cancel_left heq
  rw [(List.cons.inj hname).1] at hne
  simp at hne

theorem node?_eq_folder_iff : t.node? q = some .folder <-> t.files.lookup q = none ∧ t.isFolder q = true := by
  rw [node?]
  cases t.files.lookup q with
  | some f => simp
  | none => simp

/-- What was a folder is still one, unless it were the file itself. -/
theorem node?_put_of_folder (hp : t.node? p ≠ some .folder) (hq : t.node? q = some .folder) :
    node? ⟨put t.files p f⟩ q = some .folder := by
  have hne : q ≠ p := by
    rintro rfl
    exact hp hq
  rcases node?_eq_folder_iff.mp hq with ⟨hlookup, hfolder⟩
  refine node?_eq_folder_iff.mpr ⟨?_, ?_⟩
  · rw [lookup_put, if_neg hne]
    exact hlookup
  · rw [isFolder_put]
    exact Bool.or_eq_true_iff.mpr (Or.inl hfolder)

theorem node?_put_child (t : FileTree) (d : Path) (name other : Text) (f : StoredFile) :
    node? ⟨put t.files (d.child name) f⟩ (d.child other) =
      if other = name then some (.file f) else t.node? (d.child other) := by
  have hiff : d.child other = d.child name <-> other = name := by
    constructor
    · intro h
      have hsteps : d.steps ++ [other] = d.steps ++ [name] := congrArg Path.steps h
      exact (List.cons.inj (List.append_cancel_left hsteps)).1
    · rintro rfl
      rfl
  rw [node?, lookup_put, isFolder_put, isBelow_child, Bool.or_false]
  by_cases h : other = name
  · rw [if_pos (hiff.mpr h), if_pos h]
  · rw [if_neg (fun heq => h (hiff.mp heq)), if_neg h]
    rfl

/-!
# Following paths
-/

/-- One step into an entry of a folder. -/
def enter (t : FileTree) (d : Path) (name : Text) : Except StorageFault Path :=
  match t.node? d with
  | none => .error .notFound
  | some (.file _) => .error .notADirectory
  | some .folder => if nameLimit < name.byteSize then .error .nameTooLong else .ok (d.child name)

theorem of_enter (h : t.enter d name = .ok q) : t.node? d = some .folder ∧ q = d.child name := by
  unfold enter at h
  split at h
  · cases h
  · cases h
  · rename_i hfolder
    split at h
    · cases h
    · exact ⟨hfolder, (Except.ok.inj h).symm⟩

theorem follow_concat (hname : Path.goesUp name = false) (t : FileTree) (p : Path) (steps : List Text) :
    t.follow p (steps ++ [name]) = t.follow p steps >>= fun d => t.enter d name := by
  induction steps generalizing p with
  | nil =>
      show t.follow p [name] = t.enter p name
      rw [follow, enter]
      cases t.node? p with
      | none => rfl
      | some node =>
          cases node with
          | file f => rfl
          | folder =>
              dsimp only
              rw [if_neg (by simp [hname])]
              rfl
  | cons step steps ih =>
      rw [List.cons_append, follow, follow]
      split
      · rfl
      · rfl
      · split
        · exact ih _
        · split
          · rfl
          · exact ih _

/-- The way through folders stays the same while they stay folders. -/
theorem follow_eq_of_folders (hfolders : forall q, t.node? q = some .folder -> t'.node? q = some .folder)
    {steps : List Text} (h : t.follow p steps = .ok d) : t'.follow p steps = .ok d := by
  induction steps generalizing p with
  | nil => exact h
  | cons step steps ih =>
      rw [follow] at h ⊢
      cases hnode : t.node? p with
      | none =>
          rw [hnode] at h
          cases h
      | some node =>
          cases node with
          | file f =>
              rw [hnode] at h
              cases h
          | folder =>
              rw [hnode] at h
              rw [hfolders p hnode]
              dsimp only at h ⊢
              split at h
              · rename_i hup
                rw [if_pos hup]
                exact ih h
              · rename_i hup
                rw [if_neg hup]
                split at h
                · cases h
                · rename_i hlong
                  rw [if_neg hlong]
                  exact ih h

/-- The folder that a path leads to, and the entry in it. -/
theorem resolve_child (hname : Path.goesUp name = false) (t : FileTree) (d : Path) :
    t.resolve (d.child name) =
      if d.steps.any (·.contains '\x00') || name.contains '\x00' then .error .nullInName
      else t.follow ⟨d.absolute, [], false⟩ d.steps >>= fun d => t.enter d name := by
  have hne : (d.child name == {}) = false := by
    refine beq_false_of_ne fun h => ?_
    have hsteps : d.steps ++ [name] = [] := congrArg Path.steps h
    exact List.concat_ne_nil _ _ hsteps
  rw [resolve, hne, ← follow_concat hname]
  simp only [Path.child, List.any_append, List.any_cons, List.any_nil, Bool.or_false]
  rfl

/-- Where an entry of a folder stands: behind the way to the folder. -/
structure Leads (t : FileTree) (d place : Path) : Prop where
  nameable : d.steps.any (·.contains '\x00') = false
  way : t.follow ⟨d.absolute, [], false⟩ d.steps = .ok place
  folder : t.node? place = some .folder

theorem Leads.resolve_child (h : t.Leads d place) (hname : Path.goesUp name = false) :
    t.resolve (d.child name) =
      if name.contains '\x00' then .error .nullInName
      else if nameLimit < name.byteSize then .error .nameTooLong else .ok (place.child name) := by
  rw [FileTree.resolve_child hname, h.nameable, Bool.false_or, h.way]
  show (if name.contains '\x00' then .error .nullInName else t.enter place name) = _
  rw [enter, h.folder]

theorem exists_leads (hname : Path.goesUp name = false) (h : t.resolve (d.child name) = .ok q) :
    exists place, t.Leads d place ∧ q = place.child name := by
  rw [resolve_child hname] at h
  split at h
  · cases h
  · rename_i hnull
    rw [Bool.not_eq_true, Bool.or_eq_false_iff] at hnull
    rcases exists_of_bind_eq_ok h with ⟨place, hway, henter⟩
    rcases of_enter henter with ⟨hfolder, hq⟩
    exact ⟨place, ⟨hnull.1, hway, hfolder⟩, hq⟩

/-!
# Reading what was written
-/

theorem exists_of_write (h : t.write p content now = .ok t') :
    exists q, t.resolve p = .ok q ∧ t.node? q ≠ some .folder ∧ t' = ⟨put t.files q ⟨content, now⟩⟩ := by
  rcases exists_of_bind_eq_ok h with ⟨q, hq, h⟩
  refine ⟨q, hq, ?_⟩
  split at h
  · cases h
  · rename_i hnode
    exact ⟨hnode, (Except.ok.inj h).symm⟩

theorem exists_of_read (h : t.read p = .ok f) :
    exists q, t.resolve p = .ok q ∧ t.node? q = some (.file f) ∧ p.toFolder = false := by
  rcases exists_of_bind_eq_ok h with ⟨q, hq, h⟩
  refine ⟨q, hq, ?_⟩
  split at h
  · rename_i hnode
    split at h
    · cases h
    · rename_i hfile
      cases h
      exact ⟨hnode, Bool.eq_false_iff.mpr hfile⟩
  · cases h
  · cases h

/-- What is read behind a way depends on what stands there alone. -/
theorem read_congr (hp : t'.resolve p = t.resolve p)
    (hnode : forall q, t.resolve p = .ok q -> t'.node? q = t.node? q) : t'.read p = t.read p := by
  rw [read, read, hp]
  cases hq : t.resolve p with
  | error e => rfl
  | ok q =>
      simp only [bind, Except.bind, hnode q hq]

theorem read_of_file (hp : t.resolve p = .ok q) (hfile : p.toFolder = false) (hq : t.node? q = some (.file f)) :
    t.read p = .ok f := by
  rw [read, hp]
  simp only [bind, Except.bind, hq, hfile]
  rfl

/-- Writing an entry of a folder changes what is read there, and no other entry. -/
theorem read_write_child (hname : Path.goesUp name = false) (hother : Path.goesUp other = false)
    (h : t.write (d.child name) content now = .ok t') :
    t'.read (d.child other) = if other = name then .ok ⟨content, now⟩ else t.read (d.child other) := by
  rcases exists_of_write h with ⟨q, hresolve, hnode, rfl⟩
  rcases exists_leads hname hresolve with ⟨place, hleads, rfl⟩
  have hfolders := fun q hq => node?_put_of_folder (q := q) (f := ⟨content, now⟩) hnode hq
  have hkept : Leads ⟨put t.files (place.child name) ⟨content, now⟩⟩ d place :=
    ⟨hleads.nameable, follow_eq_of_folders hfolders hleads.way, hfolders place hleads.folder⟩
  by_cases heq : other = name
  · rw [if_pos heq, heq]
    refine read_of_file ((hkept.resolve_child hname).trans ?_) rfl ((node?_put_child t place name name _).trans (if_pos rfl))
    rw [← hleads.resolve_child hname]
    exact hresolve
  · rw [if_neg heq]
    refine read_congr ((hkept.resolve_child hother).trans (hleads.resolve_child hother).symm) fun q hq => ?_
    rcases exists_leads hother hq with ⟨place', hleads', rfl⟩
    rw [← Except.ok.inj (hleads.way.symm.trans hleads'.way)]
    exact (node?_put_child t place name other _).trans (if_neg heq)

end FileTree
end WikiEntry
