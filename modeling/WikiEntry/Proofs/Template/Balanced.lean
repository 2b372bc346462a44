import WikiEntry.Proofs.Template.Nesting

/-!
# Pieces with paired braces

A piece of a text whose braces pair up can be exchanged for another one of the same length without a change to what
stands around it: every template outside is closed where it was before.  What is found in such pieces does not
count if they are hidden, so that texts which differ in hidden pieces with paired braces alone have the same
templates.
-/

namespace WikiEntry
namespace Template

/-- How many templates are open behind a text, if `depth` are open in front of it; `none` if it closes more. -/
def depthBehind? : (depth : Nat) -> Text -> Option Nat
  | depth, [] => some depth
  | depth, '\x7b' :: '\x7b' :: r => depthBehind? (depth + 1) r
  | depth, '\x7d' :: '\x7d' :: r => if depth = 0 then none else depthBehind? (depth - 1) r
  | depth, _ :: r => depthBehind? depth r

/-- The text closes what it opens, and nothing else. -/
def Balanced (w : Text) : Prop :=
  depthBehind? 0 w = some 0

instance (w : Text) : Decidable (Balanced w) :=
  inferInstanceAs (Decidable (_ = _))

/-- Braces in front of the text do not join braces in it. -/
def BeginsPlain (t : Text) : Prop :=
  t.head? ≠ some '\x7b' ∧ t.head? ≠ some '\x7d'

theorem beginsPlain_dash (t : Text) : BeginsPlain ('-' :: t) := by
  constructor
  · exact fun h => absurd (Option.some.inj h) (by decide)
  · exact fun h => absurd (Option.some.inj h) (by decide)

/-!
# Depths
-/

theorem depthBehind?_opening (depth : Nat) (r : Text) :
    depthBehind? depth ('\x7b' :: '\x7b' :: r) = depthBehind? (depth + 1) r := by
  rw [depthBehind?]

theorem depthBehind?_closing (depth : Nat) (r : Text) :
    depthBehind? depth ('\x7d' :: '\x7d' :: r) = if depth = 0 then none else depthBehind? (depth - 1) r := by
  rw [depthBehind?]

theorem depthBehind?_plain {ch : Char} {r : Text} (hopen : ch = '\x7b' -> r.head? ≠ some '\x7b')
    (hclose : ch = '\x7d' -> r.head? ≠ some '\x7d') (depth : Nat) : depthBehind? depth (ch :: r) = depthBehind? depth r := by
  rw [depthBehind?]
  · rintro r' rfl rfl
    exact hopen rfl rfl
  · rintro r' rfl rfl
    exact hclose rfl rfl

/-- A plain character stays plain when more text follows that does not begin with a brace. -/
theorem head?_append_ne {r v : Text} {a : Char} (hr : r.head? ≠ some a) (hv : v.head? ≠ some a) :
    (r ++ v).head? ≠ some a := by
  cases r with
  | nil => exact hv
  | cons ch r => exact hr

/-- The templates that are open in front of a text are closed behind it, if it closes none of them. -/
theorem toClosing?_behind {w v : Text} {depth more behind : Nat} (hdepth : 1 ≤ depth) (hv : BeginsPlain v)
    (h : depthBehind? more w = some behind) :
    toClosing? (depth + more) (w ++ v) = (toClosing? (depth + behind) v).map (· + w.length) := by
  induction w using delimiter_induction generalizing more with
  | nil =>
      cases h
      simp
  | opening r ih =>
      rw [depthBehind?_opening] at h
      rw [List.cons_append, List.cons_append, toClosing?_opening, Nat.add_assoc, ih h]
      simp [Function.comp_def, Nat.add_assoc]
  | closing r ih =>
      rw [depthBehind?_closing] at h
      split at h
      · cases h
      · rename_i hmore
        have hless : depth + more - 1 = depth + (more - 1) := by omega
        rw [List.cons_append, List.cons_append, toClosing?_closing (by omega), hless, ih h]
        simp [Function.comp_def, Nat.add_assoc]
  | plain ch r hopen hclose ih =>
      rw [depthBehind?_plain hopen hclose] at h
      rw [List.cons_append, toClosing?_plain (fun hch => head?_append_ne (hopen hch) hv.1)
        (fun hch => head?_append_ne (hclose hch) hv.2), ih h]
      simp [Function.comp_def, Nat.add_assoc]

/-- A text that ends with nothing open closes the templates that were open in front of it. -/
theorem exists_closing_of_depthBehind? {w : Text} {depth : Nat} (hdepth : 1 ≤ depth) (h : depthBehind? depth w = some 0) :
    exists n, toClosing? depth w = some n ∧ Balanced (w.drop n) := by
  induction w using delimiter_induction generalizing depth with
  | nil =>
      cases h
      exact absurd hdepth (by decide)
  | opening r ih =>
      rw [depthBehind?_opening] at h
      rcases ih (Nat.le_add_left 1 depth) h with ⟨n, hn, hbalanced⟩
      exact ⟨n + 2, by rw [toClosing?_opening, hn]; rfl, hbalanced⟩
  | closing r ih =>
      rw [depthBehind?_closing, if_neg (by omega)] at h
      by_cases hone : depth = 1
      · rw [hone] at h ⊢
        exact ⟨2, toClosing?_last r, h⟩
      · rcases ih (by omega) h with ⟨n, hn, hbalanced⟩
        exact ⟨n + 2, by rw [toClosing?_closing hone, hn]; rfl, hbalanced⟩
  | plain ch r hopen hclose ih =>
      rw [depthBehind?_plain hopen hclose] at h
      rcases ih hdepth h with ⟨n, hn, hbalanced⟩
      exact ⟨n + 1, by rw [toClosing?_plain hopen hclose, hn]; rfl, hbalanced⟩

theorem Balanced.of_cons {ch : Char} {r : Text} (h : Balanced (ch :: r))
    (hopen : ch = '\x7b' -> r.head? ≠ some '\x7b') : Balanced r := by
  have hclose : ch = '\x7d' -> r.head? ≠ some '\x7d' := by
    intro hch hhead
    rcases List.head?_eq_some_iff.mp hhead with ⟨r', rfl⟩
    rw [hch, Balanced, depthBehind?_closing, if_pos rfl] at h
    cases h
  rwa [Balanced, depthBehind?_plain hopen hclose] at h

/-!
# Outermost templates
-/

/-- Outside of templates it does not matter where the last one began. -/
theorem regionsFrom_start (place start start' : Nat) (t : Text) :
    regionsFrom place 0 start t = regionsFrom place 0 start' t := by
  induction t using region_induction generalizing place with
  | nil => rfl
  | unclosed r hclosing => rw [regionsFrom_unclosed hclosing, regionsFrom_unclosed hclosing]
  | closed r n hclosing ih => rw [regionsFrom_closed hclosing, regionsFrom_closed hclosing]
  | plain ch r hopen ih =>
      rw [regionsFrom_plain place 0 start hopen (absurd · (by decide)),
        regionsFrom_plain place 0 start' hopen (absurd · (by decide)), ih]

/-- The templates of a balanced piece lie in it, and the scan goes on behind it as if it had not been there. -/
theorem exists_regionsFrom_balanced {w v : Text} (hw : Balanced w) (hv : BeginsPlain v) (place start : Nat) :
    exists inside : List Span, (forall s, s ∈ inside -> place ≤ s.start ∧ s.start < place + w.length) ∧
      regionsFrom place 0 start (w ++ v) = inside ++ regionsFrom (place + w.length) 0 start v := by
  induction w using region_induction generalizing place start with
  | nil => exact ⟨[], nofun, rfl⟩
  | unclosed r hclosing =>
      rcases exists_closing_of_depthBehind? (Nat.le_refl 1) hw with ⟨n, hn, _⟩
      rw [hclosing] at hn
      cases hn
  | closed r n hclosing ih =>
      rcases exists_closing_of_depthBehind? (Nat.le_refl 1) hw with ⟨m, hm, hrest⟩
      rw [hclosing] at hm
      cases hm
      have hbounds := toClosing?_bounds hclosing
      rcases ih hrest (place + 2 + n) place with ⟨inside, hinside, heq⟩
      have hlength : place + 2 + n + (r.drop n).length = place + ('\x7b' :: '\x7b' :: r).length := by
        simp only [List.length_cons, List.length_drop]
        omega
      refine ⟨⟨place, place + 2 + n⟩ :: inside, ?_, ?_⟩
      · intro s hs
        rcases List.mem_cons.mp hs with rfl | hs
        · simp
        · have hs := hinside s hs
          rw [hlength] at hs
          omega
      · rw [List.cons_append, List.cons_append, regionsFrom_closed (toClosing?_append hclosing v),
          List.drop_append_of_le_length hbounds.2, heq, hlength, regionsFrom_start _ place start]
        rfl
  | plain ch r hopen ih =>
      rcases ih (hw.of_cons hopen) (place + 1) start with ⟨inside, hinside, heq⟩
      have hlength : place + 1 + r.length = place + (ch :: r).length := by
        simp only [List.length_cons]
        omega
      refine ⟨inside, ?_, ?_⟩
      · intro s hs
        have hs := hinside s hs
        rw [hlength] at hs
        omega
      · rw [List.cons_append, regionsFrom_plain place 0 start (fun hch => head?_append_ne (hopen hch) hv.1)
          (absurd · (by decide)), heq, hlength]

/-!
# Exchanging pieces
-/

/-- A piece between two dashes. -/
def dashed (w : Text) : Text :=
  '-' :: (w ++ ['-'])

theorem length_dashed (w : Text) : (dashed w).length = w.length + 2 := by
  simp [dashed]

theorem dashed_append (w t : Text) : dashed w ++ t = '-' :: (w ++ '-' :: t) := by
  simp [dashed]

/-- The texts, which begin at `place`, differ only in balanced pieces between dashes, all of which are hidden. -/
inductive Alike (hidden : List Span) : (place : Nat) -> Text -> Text -> Prop where
  | nil (place : Nat) : Alike hidden place [] []
  | same {place : Nat} {t u : Text} (ch : Char) (h : Alike hidden (place + 1) t u) :
      Alike hidden place (ch :: t) (ch :: u)
  | piece {place : Nat} {w w' t u : Text} (hlength : w'.length = w.length) (hw : Balanced w) (hw' : Balanced w')
      (hhidden : forall n, place < n -> n ≤ place + w.length -> Region.covers hidden n = true)
      (h : Alike hidden (place + (w.length + 2)) t u) : Alike hidden place (dashed w ++ t) (dashed w' ++ u)

variable {hidden : List Span} {place : Nat} {t u : Text}

theorem Alike.refl (hidden : List Span) (place : Nat) (t : Text) : Alike hidden place t t := by
  induction t generalizing place with
  | nil => exact .nil place
  | cons ch t ih => exact .same ch (ih (place + 1))

theorem Alike.head?_eq (h : Alike hidden place t u) : u.head? = t.head? := by
  cases h with
  | nil place => rfl
  | same ch h => rfl
  | piece hlength hw hw' hhidden h => rfl

theorem Alike.append {front : Text} (h : Alike hidden (place + front.length) t u) :
    Alike hidden place (front ++ t) (front ++ u) := by
  induction front generalizing place with
  | nil => exact h
  | cons ch front ih =>
      refine .same ch (ih ?_)
      rw [List.length_cons] at h
      rwa [Nat.add_assoc, Nat.add_comm 1]

/-- Behind the same two braces, texts are alike. -/
theorem Alike.of_brace {a : Char} (ha : a ≠ '-') (h : Alike hidden place (a :: t) u) :
    exists u', u = a :: u' ∧ Alike hidden (place + 1) t u' := by
  generalize heq : a :: t = t' at h
  cases h with
  | nil place => cases heq
  | same ch h =>
      cases heq
      exact ⟨_, rfl, h⟩
  | piece hlength hw hw' hhidden h =>
      cases heq
      exact absurd rfl ha

theorem toClosing?_dashed {w : Text} (hw : Balanced w) {depth : Nat} (hdepth : 1 ≤ depth) (t : Text) :
    toClosing? depth (dashed w ++ t) = (toClosing? depth t).map (· + (w.length + 2)) := by
  have hdash : forall r : Text, toClosing? depth ('-' :: r) = (toClosing? depth r).map (· + 1) := fun r =>
    toClosing?_plain (absurd · (by decide)) (absurd · (by decide)) depth
  have hskip := toClosing?_behind hdepth (beginsPlain_dash t) hw
  rw [Nat.add_zero] at hskip
  rw [dashed_append, hdash, hskip, hdash]
  simp [Function.comp_def, Nat.add_assoc, Nat.add_comm 1]

theorem exists_regionsFrom_dashed {w : Text} (hw : Balanced w) (place start : Nat) (t : Text) :
    exists inside : List Span, (forall s, s ∈ inside -> place < s.start ∧ s.start ≤ place + w.length) ∧
      regionsFrom place 0 start (dashed w ++ t) = inside ++ regionsFrom (place + (w.length + 2)) 0 start t := by
  have hdash : forall (place : Nat) (r : Text), regionsFrom place 0 start ('-' :: r) = regionsFrom (place + 1) 0 start r :=
    fun place r => regionsFrom_plain place 0 start (absurd · (by decide)) (absurd · (by decide))
  rcases exists_regionsFrom_balanced hw (beginsPlain_dash t) (place + 1) start with ⟨inside, hinside, heq⟩
  have hplace : place + 1 + w.length + 1 = place + (w.length + 2) := by omega
  refine ⟨inside, ?_, ?_⟩
  · intro s hs
    have hs := hinside s hs
    omega
  · rw [dashed_append, hdash, heq, hdash, hplace]

theorem Alike.length_eq (h : Alike hidden place t u) : u.length = t.length := by
  induction h with
  | nil place => rfl
  | same ch h ih => rw [List.length_cons, List.length_cons, ih]
  | piece hlength hw hw' hhidden h ih =>
      rw [List.length_append, List.length_append, length_dashed, length_dashed, hlength, ih]

/-- Where the templates of one text are closed, those of the other are closed too, and what lies in front of that and
behind it is alike. -/
structure ClosedAlike (hidden : List Span) (place depth : Nat) (t u : Text) : Prop where
  closing : toClosing? depth u = toClosing? depth t
  inside : forall n, toClosing? depth t = some n -> Alike hidden place (t.take (n - 2)) (u.take (n - 2))
  behind : forall n, toClosing? depth t = some n -> Alike hidden (place + n) (t.drop n) (u.drop n)

/-- What is skipped in front of the texts may be put back. -/
theorem ClosedAlike.of_behind {depth depth' : Nat} (front : Text) {front' : Text} (hlength : front'.length = front.length)
    (hfront : forall {t u}, Alike hidden (place + front.length) t u -> Alike hidden place (front ++ t) (front' ++ u))
    (ht : toClosing? depth (front ++ t) = (toClosing? depth' t).map (· + front.length))
    (hu : toClosing? depth (front' ++ u) = (toClosing? depth' u).map (· + front.length))
    (h : ClosedAlike hidden (place + front.length) depth' t u) :
    ClosedAlike hidden place depth (front ++ t) (front' ++ u) := by
  constructor
  · rw [ht, hu, h.closing]
  · intro n hn
    rw [ht] at hn
    rcases Option.map_eq_some_iff.mp hn with ⟨m, hm, rfl⟩
    have hcut : m + front.length - 2 = front.length + (m - 2) := by
      have := (toClosing?_bounds hm).1
      omega
    have hcut' : m + front.length - 2 = front'.length + (m - 2) := by
      rw [hcut, hlength]
    have hinside := hfront (h.inside m hm)
    rwa [← List.take_length_add_append, ← List.take_length_add_append, ← hcut, ← hcut'] at hinside
  · intro n hn
    rw [ht] at hn
    rcases Option.map_eq_some_iff.mp hn with ⟨m, hm, rfl⟩
    have hbehind := h.behind m hm
    rw [Nat.add_comm m, List.drop_length_add_append, ← hlength, List.drop_length_add_append, hlength, ← Nat.add_assoc]
    exact hbehind

theorem Alike.closed (h : Alike hidden place t u) {depth : Nat} (hdepth : 1 ≤ depth) :
    ClosedAlike hidden place depth t u := by
  induction hsize : t.length using Nat.strongRecOn generalizing place t u depth with
  | ind size ih =>
      cases h with
      | nil place => exact ⟨rfl, nofun, nofun⟩
      | @piece place w w' t u hlength hw hw' hhidden h =>
          have hshorter : t.length < size := by
            rw [← hsize, List.length_append, length_dashed]
            omega
          have hdashes : (dashed w').length = (dashed w).length := by
            rw [length_dashed, length_dashed, hlength]
          rw [← length_dashed] at h
          refine ClosedAlike.of_behind (dashed w) hdashes (fun h => ?_) ?_ ?_ (ih _ hshorter h hdepth rfl)
          · rw [length_dashed] at h
            exact .piece hlength hw hw' hhidden h
          · rw [length_dashed]
            exact toClosing?_dashed hw hdepth t
          · rw [length_dashed, ← hlength]
            exact toClosing?_dashed hw' hdepth u
      | @same place t u ch h =>
          rw [List.length_cons] at hsize
          by_cases hopen : ch = '\x7b' ∧ t.head? = some '\x7b'
          · rcases hopen with ⟨rfl, hhead⟩
            rcases List.head?_eq_some_iff.mp hhead with ⟨t, rfl⟩
            rcases h.of_brace (by decide) with ⟨u, rfl, hrest⟩
            rw [List.length_cons] at hsize
            exact ClosedAlike.of_behind ['\x7b', '\x7b'] rfl Alike.append (toClosing?_opening depth t)
              (toClosing?_opening depth u) (ih _ (by omega) hrest (Nat.le_add_left 1 depth) rfl)
          · by_cases hclose : ch = '\x7d' ∧ t.head? = some '\x7d'
            · rcases hclose with ⟨rfl, hhead⟩
              rcases List.head?_eq_some_iff.mp hhead with ⟨t, rfl⟩
              rcases h.of_brace (by decide) with ⟨u, rfl, hrest⟩
              rw [List.length_cons] at hsize
              by_cases hone : depth = 1
              · subst hone
                refine ⟨?_, ?_, ?_⟩
                · rw [toClosing?_last, toClosing?_last]
                · intro n hn
                  rw [toClosing?_last] at hn
                  cases hn
                  exact .nil place
                · intro n hn
                  rw [toClosing?_last] at hn
                  cases hn
                  exact hrest
              · exact ClosedAlike.of_behind ['\x7d', '\x7d'] rfl Alike.append (toClosing?_closing hone t)
                  (toClosing?_closing hone u) (ih _ (by omega) hrest (by omega) rfl)
            · have hplain : (ch = '\x7b' -> t.head? ≠ some '\x7b') ∧ (ch = '\x7d' -> t.head? ≠ some '\x7d') :=
                ⟨fun hch hhead => hopen ⟨hch, hhead⟩, fun hch hhead => hclose ⟨hch, hhead⟩⟩
              have ht := toClosing?_plain hplain.1 hplain.2 depth
              have hu := toClosing?_plain (h.head?_eq ▸ hplain.1) (h.head?_eq ▸ hplain.2) depth
              exact ClosedAlike.of_behind [ch] rfl Alike.append ht hu (ih _ (by omega) h hdepth rfl)

/-!
# The same templates
-/

variable {levels offset start : Nat} {T U : Text}

/-- Alike texts begin with the same character. -/
theorem Alike.startsWith_singleton (h : Alike hidden place t u) (a : Char) :
    Text.startsWith u [a] = Text.startsWith t [a] := by
  cases h with
  | nil place => rfl
  | same ch h => rfl
  | piece hlength hw hw' hhidden h => rfl

theorem startsWith_three_iff (a : Char) (t : Text) :
    Text.startsWith (a :: a :: t) [a, a, a] = Text.startsWith t [a] := by
  simp [Text.startsWith]

/-- The same templates begin in outermost regions at the same place, if the texts inside have the same ones. -/
theorem Alike.spansOfRegion_eq {n : Nat} (hT : T.drop place = '\x7b' :: '\x7b' :: t)
    (hU : U.drop place = '\x7b' :: '\x7b' :: u) (hn : toClosing? 1 t = some n)
    (h : Alike hidden (offset + place + 2) t u)
    (hinside : forall {offset t u}, Alike hidden offset t u ->
      spansFrom hidden levels offset u = spansFrom hidden levels offset t) :
    spansOfRegion hidden levels offset U ⟨place, place + 2 + n⟩ =
      spansOfRegion hidden levels offset T ⟨place, place + 2 + n⟩ := by
  have hclosed := h.closed (Nat.le_refl 1)
  have hTbehind : T.drop (place + 2 + n) = t.drop n := by
    rw [← List.drop_drop, ← List.drop_drop, hT]
    rfl
  have hUbehind : U.drop (place + 2 + n) = u.drop n := by
    rw [← List.drop_drop, ← List.drop_drop, hU]
    rfl
  have hsize : place + 2 + n - 2 - (place + 2) = n - 2 := by omega
  have hTinside : T.slice ⟨place + 2, place + 2 + n - 2⟩ = t.take (n - 2) := by
    rw [Text.slice, Span.size, hsize, ← List.drop_drop, hT]
    rfl
  have hUinside : U.slice ⟨place + 2, place + 2 + n - 2⟩ = u.take (n - 2) := by
    rw [Text.slice, Span.size, hsize, ← List.drop_drop, hU]
    rfl
  have hbraces : Text.startsWith u "\x7b" = Text.startsWith t "\x7b" := h.startsWith_singleton '\x7b'
  have hbehind : Text.startsWith (u.drop n) "\x7d" = Text.startsWith (t.drop n) "\x7d" :=
    (hclosed.behind n hn).startsWith_singleton '\x7d'
  have hfront : Text.startsWith ('\x7b' :: '\x7b' :: u) "\x7b\x7b\x7b" =
      Text.startsWith ('\x7b' :: '\x7b' :: t) "\x7b\x7b\x7b" := by
    rw [show (("\x7b\x7b\x7b" : String) : Text) = ['\x7b', '\x7b', '\x7b'] from rfl, startsWith_three_iff,
      startsWith_three_iff]
    exact hbraces
  simp only [spansOfRegion, hT, hU, hTbehind, hUbehind, hTinside, hUinside, hfront, hbehind,
    hinside (hclosed.inside n hn)]

/-- What begins in a hidden piece does not count. -/
theorem flatMap_spansOfRegion_dashed {w : Text} (hw : Balanced w)
    (hhidden : forall n, offset + place < n -> n ≤ offset + place + w.length -> Region.covers hidden n = true) (t T : Text) :
    (regionsFrom place 0 start (dashed w ++ t)).flatMap (spansOfRegion hidden levels offset T) =
      (regionsFrom (place + (w.length + 2)) 0 start t).flatMap (spansOfRegion hidden levels offset T) := by
  rcases exists_regionsFrom_dashed hw place start t with ⟨found, hfound, ht⟩
  have hnone : found.flatMap (spansOfRegion hidden levels offset T) = [] := by
    rw [List.flatMap_eq_nil_iff]
    intro s hs
    rcases hfound s hs with ⟨hfirst, hlast⟩
    rw [spansOfRegion, if_pos (hhidden _ (by omega) (by omega))]
  rw [ht, List.flatMap_append, hnone, List.nil_append]

theorem Alike.flatMap_eq (hT : T.drop place = t) (hU : U.drop place = u) (h : Alike hidden (offset + place) t u)
    (hinside : forall {offset t u}, Alike hidden offset t u ->
      spansFrom hidden levels offset u = spansFrom hidden levels offset t) :
    (regionsFrom place 0 start u).flatMap (spansOfRegion hidden levels offset U) =
      (regionsFrom place 0 start t).flatMap (spansOfRegion hidden levels offset T) := by
  induction hsize : t.length using Nat.strongRecOn generalizing place start t u with
  | ind size ih =>
      generalize hat : offset + place = at' at h
      cases h with
      | nil place' => rfl
      | @piece _ w w' t u hlength hw hw' hhidden h =>
          subst hat
          have hshorter : t.length < size := by
            rw [← hsize, List.length_append, length_dashed]
            omega
          have hTrest : T.drop (place + (w.length + 2)) = t := by
            rw [← List.drop_drop, hT, ← length_dashed, List.drop_left]
          have hUrest : U.drop (place + (w.length + 2)) = u := by
            rw [← List.drop_drop, hU, ← hlength, ← length_dashed, List.drop_left]
          have hhidden' : forall n, offset + place < n -> n ≤ offset + place + w'.length ->
              Region.covers hidden n = true := by
            rwa [hlength]
          rw [flatMap_spansOfRegion_dashed hw hhidden, flatMap_spansOfRegion_dashed hw' hhidden', hlength]
          exact ih _ hshorter hTrest hUrest (by rwa [Nat.add_assoc] at h) rfl
      | @same _ t u ch h =>
          subst hat
          have hTrest : T.drop (place + 1) = t := by
            rw [← List.drop_drop, hT]
            rfl
          have hUrest : U.drop (place + 1) = u := by
            rw [← List.drop_drop, hU]
            rfl
          rw [List.length_cons] at hsize
          by_cases hopen : ch = '\x7b' ∧ t.head? = some '\x7b'
          · rcases hopen with ⟨rfl, hhead⟩
            rcases List.head?_eq_some_iff.mp hhead with ⟨t, rfl⟩
            rcases h.of_brace (by decide) with ⟨u, rfl, hrest⟩
            have hclosed := hrest.closed (Nat.le_refl 1)
            cases hn : toClosing? 1 t with
            | none =>
                have hn' : toClosing? 1 u = none := hclosed.closing.trans hn
                rw [regionsFrom_unclosed hn, regionsFrom_unclosed hn']
                rfl
            | some n =>
                have hn' : toClosing? 1 u = some n := hclosed.closing.trans hn
                rw [regionsFrom_closed hn, regionsFrom_closed hn', List.flatMap_cons, List.flatMap_cons,
                  hrest.spansOfRegion_eq hT hU hn hinside]
                refine congrArg _ (ih _ ?_ ?_ ?_ ?_ rfl)
                · rw [List.length_cons] at hsize
                  rw [List.length_drop]
                  omega
                · rw [← List.drop_drop, ← List.drop_drop, hT]
                  rfl
                · rw [← List.drop_drop, ← List.drop_drop, hU]
                  rfl
                · have hbehind := hclosed.behind n hn
                  rwa [show offset + place + 1 + 1 + n = offset + (place + 2 + n) by omega] at hbehind
          · have hplain : ch = '\x7b' -> t.head? ≠ some '\x7b' := fun hch hhead => hopen ⟨hch, hhead⟩
            rw [regionsFrom_plain place 0 start hplain (absurd · (by decide)),
              regionsFrom_plain place 0 start (h.head?_eq ▸ hplain) (absurd · (by decide))]
            exact ih _ (by omega) hTrest hUrest h rfl

theorem Alike.spansFrom_eq (h : Alike hidden offset t u) (levels : Nat) :
    spansFrom hidden levels offset u = spansFrom hidden levels offset t := by
  induction levels generalizing offset t u with
  | zero => rfl
  | succ levels ih =>
      rw [spansFrom_succ, spansFrom_succ, templates_eq, templates_eq]
      exact Alike.flatMap_eq (List.drop_zero) (List.drop_zero) h fun h => ih h

/-- Texts that hide the same places, and differ only in balanced pieces there, have the same templates. -/
theorem spans_eq_of_alike (hhidden : Region.hidden u = Region.hidden t) (h : Alike (Region.hidden t) 0 t u) :
    spans u = spans t := by
  rw [spans, spans, hhidden, h.length_eq]
  exact h.spansFrom_eq _

end Template
end WikiEntry
