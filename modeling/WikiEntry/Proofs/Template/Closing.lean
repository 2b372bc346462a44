import WikiEntry.Proofs.Text.Occurrences
import WikiEntry.Template.Find

/-!
# Where templates are closed

An opening is closed where the delimiters behind it pair up.  The templates that are found in a text, at any depth,
are openings with the place where they are closed: looking at the inside of a template alone changes nothing, since
the inside holds whole pairs only.
-/

namespace WikiEntry
namespace Template

/-- How many characters there are up to the end of the delimiter that closes the outermost of `depth` templates. -/
def toClosing? : (depth : Nat) -> Text -> Option Nat
  | _, [] => none
  | depth, '\x7b' :: '\x7b' :: r => (toClosing? (depth + 1) r).map (· + 2)
  | depth, '\x7d' :: '\x7d' :: r => if depth = 1 then some 2 else (toClosing? (depth - 1) r).map (· + 2)
  | depth, _ :: r => (toClosing? depth r).map (· + 1)

/-!
# Counting to the closing
-/

theorem toClosing?_opening (depth : Nat) (r : Text) :
    toClosing? depth ('\x7b' :: '\x7b' :: r) = (toClosing? (depth + 1) r).map (· + 2) := by
  rw [toClosing?]

theorem toClosing?_last (r : Text) : toClosing? 1 ('\x7d' :: '\x7d' :: r) = some 2 := by
  rw [toClosing?, if_pos rfl]

theorem toClosing?_closing {depth : Nat} (hdepth : depth ≠ 1) (r : Text) :
    toClosing? depth ('\x7d' :: '\x7d' :: r) = (toClosing? (depth - 1) r).map (· + 2) := by
  rw [toClosing?, if_neg hdepth]

theorem toClosing?_plain {ch : Char} {r : Text} (hopen : ch = '\x7b' -> r.head? ≠ some '\x7b')
    (hclose : ch = '\x7d' -> r.head? ≠ some '\x7d') (depth : Nat) :
    toClosing? depth (ch :: r) = (toClosing? depth r).map (· + 1) := by
  rw [toClosing?]
  · rintro r' rfl rfl
    exact hopen rfl rfl
  · rintro r' rfl rfl
    exact hclose rfl rfl

/-- A text is read delimiter by delimiter; other characters are read one by one. -/
@[elab_as_elim]
theorem delimiter_induction {motive : Text -> Prop} (nil : motive [])
    (opening : forall r, motive r -> motive ('\x7b' :: '\x7b' :: r))
    (closing : forall r, motive r -> motive ('\x7d' :: '\x7d' :: r))
    (plain : forall ch r, (ch = '\x7b' -> r.head? ≠ some '\x7b') -> (ch = '\x7d' -> r.head? ≠ some '\x7d') ->
      motive r -> motive (ch :: r)) (t : Text) : motive t := by
  induction hsize : t.length using Nat.strongRecOn generalizing t with
  | ind size ih =>
      match t with
      | [] => exact nil
      | [ch] => exact plain ch [] nofun nofun nil
      | ch :: d :: r =>
          simp only [List.length_cons] at hsize
          have hrest : motive r := ih r.length (by omega) r rfl
          have htail : motive (d :: r) := ih (d :: r).length (by simp only [List.length_cons]; omega) (d :: r) rfl
          by_cases hopen : ch = '\x7b' ∧ d = '\x7b'
          · rw [hopen.1, hopen.2]
            exact opening r hrest
          · by_cases hclose : ch = '\x7d' ∧ d = '\x7d'
            · rw [hclose.1, hclose.2]
              exact closing r hrest
            · refine plain ch (d :: r) ?_ ?_ htail
              · intro hch hd
                exact hopen ⟨hch, Option.some.inj hd⟩
              · intro hch hd
                exact hclose ⟨hch, Option.some.inj hd⟩

theorem toClosing?_bounds {depth : Nat} {t : Text} {n : Nat} (h : toClosing? depth t = some n) :
    2 ≤ n ∧ n ≤ t.length := by
  induction t using delimiter_induction generalizing depth n with
  | nil => cases h
  | opening r ih =>
      rw [toClosing?_opening] at h
      rcases Option.map_eq_some_iff.mp h with ⟨m, hm, rfl⟩
      have := ih hm
      simp only [List.length_cons]
      omega
  | closing r ih =>
      by_cases hdepth : depth = 1
      · rw [hdepth, toClosing?_last] at h
        cases h
        simp
      · rw [toClosing?_closing hdepth] at h
        rcases Option.map_eq_some_iff.mp h with ⟨m, hm, rfl⟩
        have := ih hm
        simp only [List.length_cons]
        omega
  | plain ch r hopen hclose ih =>
      rw [toClosing?_plain hopen hclose] at h
      rcases Option.map_eq_some_iff.mp h with ⟨m, hm, rfl⟩
      have := ih hm
      simp only [List.length_cons]
      omega

theorem exists_take_of_toClosing? {depth : Nat} {t : Text} {n : Nat} (h : toClosing? depth t = some n) :
    exists inside, t.take n = inside ++ ['\x7d', '\x7d'] := by
  induction t using delimiter_induction generalizing depth n with
  | nil => cases h
  | opening r ih =>
      rw [toClosing?_opening] at h
      rcases Option.map_eq_some_iff.mp h with ⟨m, hm, rfl⟩
      rcases ih hm with ⟨inside, heq⟩
      exact ⟨'\x7b' :: '\x7b' :: inside, by simp [heq]⟩
  | closing r ih =>
      by_cases hdepth : depth = 1
      · rw [hdepth, toClosing?_last] at h
        cases h
        exact ⟨[], rfl⟩
      · rw [toClosing?_closing hdepth] at h
        rcases Option.map_eq_some_iff.mp h with ⟨m, hm, rfl⟩
        rcases ih hm with ⟨inside, heq⟩
        exact ⟨'\x7d' :: '\x7d' :: inside, by simp [heq]⟩
  | plain ch r hopen hclose ih =>
      rw [toClosing?_plain hopen hclose] at h
      rcases Option.map_eq_some_iff.mp h with ⟨m, hm, rfl⟩
      rcases ih hm with ⟨inside, heq⟩
      exact ⟨ch :: inside, by simp [heq]⟩

theorem getLast?_take_of_toClosing? {depth : Nat} {t : Text} {n : Nat} (h : toClosing? depth t = some n) :
    (t.take n).getLast? = some '\x7d' := by
  rcases exists_take_of_toClosing? h with ⟨inside, heq⟩
  rw [heq, List.getLast?_append]
  rfl

/-- More text behind the closing changes nothing. -/
theorem toClosing?_append {depth : Nat} {t : Text} {n : Nat} (h : toClosing? depth t = some n) (u : Text) :
    toClosing? depth (t ++ u) = some n := by
  induction t using delimiter_induction generalizing depth n with
  | nil => cases h
  | opening r ih =>
      rw [toClosing?_opening] at h
      rcases Option.map_eq_some_iff.mp h with ⟨m, hm, rfl⟩
      rw [List.cons_append, List.cons_append, toClosing?_opening, ih hm]
      rfl
  | closing r ih =>
      rw [List.cons_append, List.cons_append]
      by_cases hdepth : depth = 1
      · rw [hdepth, toClosing?_last] at h ⊢
        exact h
      · rw [toClosing?_closing hdepth] at h ⊢
        rcases Option.map_eq_some_iff.mp h with ⟨m, hm, rfl⟩
        rw [ih hm]
        rfl
  | plain ch r hopen hclose ih =>
      rw [toClosing?_plain hopen hclose] at h
      rcases Option.map_eq_some_iff.mp h with ⟨m, hm, rfl⟩
      have hne : r ≠ [] := by
        rintro rfl
        cases hm
      rw [List.cons_append, toClosing?_plain, ih hm]
      · rfl
      · rw [List.head?_append_of_ne_nil _ hne]
        exact hopen
      · rw [List.head?_append_of_ne_nil _ hne]
        exact hclose

/-- Nothing behind the closing is looked at. -/
theorem toClosing?_take {depth : Nat} {t : Text} {n : Nat} (h : toClosing? depth t = some n) :
    toClosing? depth (t.take n) = some n := by
  induction t using delimiter_induction generalizing depth n with
  | nil => cases h
  | opening r ih =>
      rw [toClosing?_opening] at h
      rcases Option.map_eq_some_iff.mp h with ⟨m, hm, rfl⟩
      rw [List.take_succ_cons, List.take_succ_cons, toClosing?_opening, ih hm]
      rfl
  | closing r ih =>
      by_cases hdepth : depth = 1
      · rw [hdepth, toClosing?_last] at h
        cases h
        rw [hdepth]
        exact toClosing?_last []
      · rw [toClosing?_closing hdepth] at h
        rcases Option.map_eq_some_iff.mp h with ⟨m, hm, rfl⟩
        rw [List.take_succ_cons, List.take_succ_cons, toClosing?_closing hdepth, ih hm]
        rfl
  | plain ch r hopen hclose ih =>
      rw [toClosing?_plain hopen hclose] at h
      rcases Option.map_eq_some_iff.mp h with ⟨m, hm, rfl⟩
      have hhead : (r.take m).head? = r.head? := by
        rw [List.head?_take, if_neg (Nat.ne_zero_of_lt (toClosing?_bounds hm).1)]
      rw [List.take_succ_cons, toClosing?_plain, ih hm]
      · rfl
      · rw [hhead]
        exact hopen
      · rw [hhead]
        exact hclose

/-- Inner templates are closed before outer ones. -/
theorem toClosing?_add {depth more : Nat} (hdepth : 1 ≤ depth) (hmore : 1 ≤ more) (t : Text) :
    toClosing? (depth + more) t =
      (toClosing? more t).bind fun n => (toClosing? depth (t.drop n)).map (· + n) := by
  induction t using delimiter_induction generalizing more with
  | nil => rfl
  | opening r ih =>
      rw [toClosing?_opening, toClosing?_opening, Nat.add_assoc, ih (by omega)]
      cases toClosing? (more + 1) r with
      | none => rfl
      | some n => simp [Function.comp_def, Nat.add_assoc]
  | closing r ih =>
      rw [toClosing?_closing (by omega)]
      by_cases hlast : more = 1
      · rw [hlast, toClosing?_last]
        rfl
      · rw [toClosing?_closing hlast, Nat.add_sub_assoc hmore, ih (by omega)]
        cases toClosing? (more - 1) r with
        | none => rfl
        | some n => simp [Function.comp_def, Nat.add_assoc]
  | plain ch r hopen hclose ih =>
      rw [toClosing?_plain hopen hclose, toClosing?_plain hopen hclose, ih hmore]
      cases toClosing? more r with
      | none => rfl
      | some n => simp [Function.comp_def, Nat.add_assoc]

/-- A whole template is skipped. -/
theorem toClosing?_template {depth n : Nat} {r : Text} (hdepth : 1 ≤ depth) (hn : toClosing? 1 r = some n) :
    toClosing? depth ('\x7b' :: '\x7b' :: r) = (toClosing? depth (r.drop n)).map (· + (n + 2)) := by
  rw [toClosing?_opening, toClosing?_add hdepth le_rfl, hn]
  simp [Function.comp_def, Nat.add_assoc]

/-- Characters other than braces are skipped. -/
theorem toClosing?_braceless {front : Text} (hfront : forall ch, ch ∈ front -> ch ≠ '\x7b' ∧ ch ≠ '\x7d') (depth : Nat)
    (t : Text) : toClosing? depth (front ++ t) = (toClosing? depth t).map (· + front.length) := by
  induction front with
  | nil => simp
  | cons ch front ih =>
      rcases hfront ch List.mem_cons_self with ⟨hopen, hclose⟩
      rw [List.cons_append, toClosing?_plain (absurd · hopen) (absurd · hclose),
        ih fun d hd => hfront d (List.mem_cons_of_mem ch hd)]
      simp [Function.comp_def, Nat.add_assoc]

theorem toClosing?_replicate (depth n : Nat) (t : Text) :
    toClosing? depth (List.replicate n '-' ++ t) = (toClosing? depth t).map (· + n) := by
  have hfront : forall ch, ch ∈ List.replicate n '-' -> ch ≠ '\x7b' ∧ ch ≠ '\x7d' := by
    intro ch hch
    rw [List.eq_of_mem_replicate hch]
    decide
  rw [toClosing?_braceless hfront, List.length_replicate]

/-- What stands in front of two texts is read in the same way unless a delimiter could reach into them. -/
theorem toClosing?_congr {t u v : Text} (hlast : t.getLast? ≠ some '\x7b') (hu : u.head? ≠ some '\x7d')
    (hv : v.head? ≠ some '\x7d') (h : forall depth, 1 ≤ depth -> toClosing? depth u = toClosing? depth v)
    {depth : Nat} (hdepth : 1 ≤ depth) : toClosing? depth (t ++ u) = toClosing? depth (t ++ v) := by
  induction t using delimiter_induction generalizing depth with
  | nil => exact h depth hdepth
  | opening r ih =>
      have hrest : r.getLast? ≠ some '\x7b' := by
        intro hr
        exact hlast (by simp [List.getLast?_cons, hr])
      simp only [List.cons_append, toClosing?_opening, ih hrest (Nat.le_add_left 1 depth)]
  | closing r ih =>
      have hrest : r.getLast? ≠ some '\x7b' := by
        intro hr
        exact hlast (by simp [List.getLast?_cons, hr])
      simp only [List.cons_append]
      by_cases hone : depth = 1
      · rw [hone, toClosing?_last, toClosing?_last]
      · rw [toClosing?_closing hone, toClosing?_closing hone, ih hrest (by omega)]
  | plain ch r hopen hclose ih =>
      cases r with
      | nil =>
          have hch : ch ≠ '\x7b' := fun hch => hlast (by rw [hch]; rfl)
          rw [List.singleton_append, List.singleton_append, toClosing?_plain (absurd · hch) (fun _ => hu),
            toClosing?_plain (absurd · hch) (fun _ => hv), h depth hdepth]
      | cons d r =>
          have hrest : (d :: r).getLast? ≠ some '\x7b' := by
            rwa [List.getLast?_cons_cons] at hlast
          show toClosing? depth (ch :: (d :: r ++ u)) = toClosing? depth (ch :: (d :: r ++ v))
          rw [toClosing?_plain (r := d :: r ++ u) hopen hclose, toClosing?_plain (r := d :: r ++ v) hopen hclose,
            ih hrest hdepth]

/-- The scan for templates from `place` on. -/
def regionsFrom (place depth start : Nat) (t : Text) : List Span :=
  Region.nestedFrom ['\x7b', '\x7b'] ['\x7d', '\x7d'] place depth start 0 t

theorem templates_eq (t : Text) : Region.templates t = regionsFrom 0 0 0 t :=
  rfl

theorem regionsFrom_opening (place depth start : Nat) (r : Text) :
    regionsFrom place depth start ('\x7b' :: '\x7b' :: r) =
      regionsFrom (place + 2) (depth + 1) (if depth = 0 then place else start) r := by
  simp [regionsFrom, Region.nestedFrom]

theorem regionsFrom_last (place start : Nat) (r : Text) :
    regionsFrom place 1 start ('\x7d' :: '\x7d' :: r) = ⟨start, place + 2⟩ :: regionsFrom (place + 2) 0 start r := by
  simp [regionsFrom, Region.nestedFrom]

theorem regionsFrom_closing (place start : Nat) {depth : Nat} (hdepth : 1 < depth) (r : Text) :
    regionsFrom place depth start ('\x7d' :: '\x7d' :: r) = regionsFrom (place + 2) (depth - 1) start r := by
  have hpos : 0 < depth := by omega
  have hone : depth ≠ 1 := by omega
  simp [regionsFrom, Region.nestedFrom, hpos, hone]

theorem regionsFrom_plain (place depth start : Nat) {ch : Char} {r : Text}
    (hopen : ch = '\x7b' -> r.head? ≠ some '\x7b') (hclose : 0 < depth -> ch = '\x7d' -> r.head? ≠ some '\x7d') :
    regionsFrom place depth start (ch :: r) = regionsFrom (place + 1) depth start r := by
  have hbraces : forall d : Char, [d, d].isPrefixOf (ch :: r) = true <-> ch = d ∧ r.head? = some d := by
    intro d
    cases r with
    | nil => simp
    | cons e r => simp [eq_comm (a := d)]
  rw [regionsFrom, Region.nestedFrom, if_neg, if_neg]
  · rfl
  · rintro ⟨hdepth, h⟩
    rw [hbraces] at h
    exact hclose hdepth h.1 h.2
  · rw [hbraces]
    exact fun h => hopen h.1 h.2

/-- Inside a template the scan goes to where it is closed. -/
theorem regionsFrom_inside {depth : Nat} (hdepth : 1 ≤ depth) (place start : Nat) (t : Text) :
    regionsFrom place depth start t =
      match toClosing? depth t with
      | none => []
      | some n => ⟨start, place + n⟩ :: regionsFrom (place + n) 0 start (t.drop n) := by
  induction t using delimiter_induction generalizing depth place with
  | nil => rfl
  | opening r ih =>
      rw [regionsFrom_opening, if_neg (by omega), ih (Nat.le_add_left 1 depth), toClosing?_opening]
      cases toClosing? (depth + 1) r with
      | none => rfl
      | some n => simp [Nat.add_assoc, Nat.add_comm 2 n]
  | closing r ih =>
      by_cases hone : depth = 1
      · rw [hone, regionsFrom_last, toClosing?_last]
        rfl
      · rw [regionsFrom_closing place start (by omega), ih (by omega), toClosing?_closing hone]
        cases toClosing? (depth - 1) r with
        | none => rfl
        | some n => simp [Nat.add_assoc, Nat.add_comm 2 n]
  | plain ch r hopen hclose ih =>
      rw [regionsFrom_plain place depth start hopen (fun _ => hclose), ih hdepth, toClosing?_plain hopen hclose]
      cases toClosing? depth r with
      | none => rfl
      | some n => simp [Nat.add_assoc, Nat.add_comm 1 n]

/-- An opening of `t` behind `before`: what stands after it, and how long it takes to the closing. -/
structure OpensBehind (t before rest : Text) (size : Nat) : Prop where
  eq_append : t = before ++ '\x7b' :: '\x7b' :: rest
  closing : toClosing? 1 rest = some size

/-- Outside of templates a text is read template by template; other characters are read one by one, and nothing is
found behind an opening that is never closed. -/
@[elab_as_elim]
theorem region_induction {motive : Text -> Prop} (nil : motive [])
    (unclosed : forall r, toClosing? 1 r = none -> motive ('\x7b' :: '\x7b' :: r))
    (closed : forall r n, toClosing? 1 r = some n -> motive (r.drop n) -> motive ('\x7b' :: '\x7b' :: r))
    (plain : forall ch r, (ch = '\x7b' -> r.head? ≠ some '\x7b') -> motive r -> motive (ch :: r)) (t : Text) :
    motive t := by
  induction hsize : t.length using Nat.strongRecOn generalizing t with
  | ind size ih =>
      cases t with
      | nil => exact nil
      | cons ch r =>
          rw [List.length_cons] at hsize
          by_cases hopen : ch = '\x7b' ∧ r.head? = some '\x7b'
          · rcases hopen with ⟨rfl, hhead⟩
            rcases List.head?_eq_some_iff.mp hhead with ⟨r, rfl⟩
            cases hclosing : toClosing? 1 r with
            | none => exact unclosed r hclosing
            | some n =>
                have hshorter : (r.drop n).length < size := by
                  rw [List.length_cons] at hsize
                  rw [List.length_drop]
                  omega
                exact closed r n hclosing (ih _ hshorter _ rfl)
          · exact plain ch r (fun hch hhead => hopen ⟨hch, hhead⟩) (ih _ (by omega) _ rfl)

theorem regionsFrom_unclosed {r : Text} (h : toClosing? 1 r = none) (place start : Nat) :
    regionsFrom place 0 start ('\x7b' :: '\x7b' :: r) = [] := by
  rw [regionsFrom_opening, regionsFrom_inside (Nat.le_refl 1), h]

theorem regionsFrom_closed {r : Text} {n : Nat} (h : toClosing? 1 r = some n) (place start : Nat) :
    regionsFrom place 0 start ('\x7b' :: '\x7b' :: r) =
      ⟨place, place + 2 + n⟩ :: regionsFrom (place + 2 + n) 0 place (r.drop n) := by
  rw [regionsFrom_opening, if_pos rfl, regionsFrom_inside (Nat.le_refl 1), h]

/-- The regions are openings with their closings, and no brace stands in front of them. -/
theorem exists_of_mem_regionsFrom {place start : Nat} {t : Text} {s : Span} (hs : s ∈ regionsFrom place 0 start t) :
    exists before rest size, OpensBehind t before rest size ∧ before.getLast? ≠ some '\x7b' ∧
      s = ⟨place + before.length, place + before.length + 2 + size⟩ := by
  induction t using region_induction generalizing place start with
  | nil => cases hs
  | unclosed r hclosing =>
      rw [regionsFrom_unclosed hclosing] at hs
      cases hs
  | closed r n hclosing ih =>
      rw [regionsFrom_closed hclosing] at hs
      rcases List.mem_cons.mp hs with rfl | hs
      · exact ⟨[], r, n, ⟨rfl, hclosing⟩, nofun, rfl⟩
      · have hbounds := toClosing?_bounds hclosing
        rcases ih hs with ⟨before, rest, size, hopens, hlast, rfl⟩
        have htake := getLast?_take_of_toClosing? hclosing
        refine ⟨'\x7b' :: '\x7b' :: (r.take n ++ before), rest, size, ⟨?_, hopens.closing⟩, ?_, ?_⟩
        · rw [List.cons_append, List.cons_append, List.append_assoc, ← hopens.eq_append, List.take_append_drop]
        · cases hbefore : before.getLast? with
          | none => simp [List.getLast?_cons, List.getLast?_append, hbefore, htake]
          | some ch =>
              rw [hbefore] at hlast
              simpa [List.getLast?_cons, List.getLast?_append, hbefore] using hlast
        · simp only [List.length_cons, List.length_append, List.length_take, Nat.min_eq_left hbounds.2,
            Span.mk.injEq]
          omega
  | plain ch r hopen ih =>
      rw [regionsFrom_plain place 0 start hopen (absurd · (by decide))] at hs
      rcases ih hs with ⟨before, rest, size, hopens, hlast, rfl⟩
      refine ⟨ch :: before, rest, size, ⟨?_, hopens.closing⟩, ?_, ?_⟩
      · rw [hopens.eq_append]
        rfl
      · cases before with
        | nil =>
            intro hch
            refine hopen (Option.some.inj hch) ?_
            rw [hopens.eq_append]
            rfl
        | cons d before => rwa [List.getLast?_cons_cons]
      · simp only [List.length_cons, Span.mk.injEq]
        omega

/-- The regions stand one behind the other. -/
theorem pairwise_regionsFrom (place start : Nat) (t : Text) :
    (regionsFrom place 0 start t).Pairwise fun s s' => s.stop ≤ s'.start := by
  induction t using region_induction generalizing place start with
  | nil => exact List.Pairwise.nil
  | unclosed r hclosing =>
      rw [regionsFrom_unclosed hclosing]
      exact List.Pairwise.nil
  | closed r n hclosing ih =>
      rw [regionsFrom_closed hclosing]
      refine List.pairwise_cons.mpr ⟨?_, ih _ _⟩
      intro s hs
      rcases exists_of_mem_regionsFrom hs with ⟨before, rest, size, _, _, rfl⟩
      exact Nat.le_add_right _ _
  | plain ch r hopen ih =>
      rw [regionsFrom_plain place 0 start hopen (absurd · (by decide))]
      exact ih _ _

/-!
# One level of nesting
-/

/-- The templates that begin in one of the outermost regions. -/
def spansOfRegion (hidden : List Span) (levels offset : Nat) (t : Text) (region : Span) : List Span :=
  if Region.covers hidden (offset + region.start) then []
  else if Text.startsWith (t.drop region.start) "\x7b\x7b\x7b" && Text.startsWith (t.drop region.stop) "\x7d" then []
  else
    region.shift offset
      :: spansFrom hidden levels (offset + region.start + 2) (t.slice ⟨region.start + 2, region.stop - 2⟩)

theorem spansFrom_succ (hidden : List Span) (levels offset : Nat) (t : Text) :
    spansFrom hidden (levels + 1) offset t = (Region.templates t).flatMap (spansOfRegion hidden levels offset t) :=
  rfl

theorem spansOfRegion_cases (hidden : List Span) (levels offset : Nat) (t : Text) (region : Span) :
    spansOfRegion hidden levels offset t region = [] ∨
      Region.covers hidden (offset + region.start) = false ∧
        spansOfRegion hidden levels offset t region = region.shift offset ::
          spansFrom hidden levels (offset + region.start + 2) (t.slice ⟨region.start + 2, region.stop - 2⟩) := by
  unfold spansOfRegion
  split
  · exact Or.inl rfl
  · rename_i hcovers
    split
    · exact Or.inl rfl
    · exact Or.inr ⟨Bool.eq_false_iff.mpr hcovers, rfl⟩

theorem eq_or_mem_of_mem_spansOfRegion {hidden : List Span} {levels offset : Nat} {t : Text} {region s : Span}
    (hs : s ∈ spansOfRegion hidden levels offset t region) :
    Region.covers hidden (offset + region.start) = false ∧ (s = region.shift offset ∨
      s ∈ spansFrom hidden levels (offset + region.start + 2) (t.slice ⟨region.start + 2, region.stop - 2⟩)) := by
  rcases spansOfRegion_cases hidden levels offset t region with hnone | ⟨hcovers, hsome⟩
  · rw [hnone] at hs
    cases hs
  · rw [hsome] at hs
    exact ⟨hcovers, List.mem_cons.mp hs⟩

/-!
# Templates at any depth
-/

/-- A brace in front of an opening belongs to another opening. -/
def BehindWholeBraces (before : Text) : Prop :=
  before.getLast? = some '\x7b' -> exists front, before = front ++ ['\x7b', '\x7b']

theorem BehindWholeBraces.append {front before : Text} (hfront : BehindWholeBraces front)
    (hbefore : before.getLast? ≠ some '\x7b') : BehindWholeBraces (front ++ before) := by
  intro hlast
  cases hcase : before.getLast? with
  | none =>
      rw [List.getLast?_eq_none_iff.mp hcase, List.append_nil] at hlast ⊢
      exact hfront hlast
  | some ch =>
      rw [List.getLast?_append, hcase] at hlast
      rw [hcase] at hbefore
      exact absurd hlast hbefore

theorem exists_of_mem_spansFrom {hidden : List Span} {levels : Nat} {u front t behind : Text} {s : Span}
    (hu : u = front ++ t ++ behind) (hfront : BehindWholeBraces front)
    (hs : s ∈ spansFrom hidden levels front.length t) :
    exists before rest size, OpensBehind u before rest size ∧ BehindWholeBraces before ∧
      s = ⟨before.length, before.length + 2 + size⟩ := by
  induction levels generalizing front t behind with
  | zero => cases hs
  | succ levels ih =>
      rw [spansFrom_succ] at hs
      rcases List.mem_flatMap.mp hs with ⟨region, hregion, hs⟩
      rcases exists_of_mem_regionsFrom hregion with ⟨before, rest, size, hopens, hlast, rfl⟩
      have hs := (eq_or_mem_of_mem_spansOfRegion hs).2
      simp only [Nat.zero_add] at hs
      have hwhole := hfront.append hlast
      have ht := hopens.eq_append
      have hbounds := toClosing?_bounds hopens.closing
      rcases hs with rfl | hs
      · refine ⟨front ++ before, rest ++ behind, size, ⟨?_, toClosing?_append hopens.closing _⟩, hwhole, ?_⟩
        · rw [hu, ht]
          simp
        · simp only [Span.shift, List.length_append, Span.mk.injEq]
          omega
      · have hinside : t.slice ⟨before.length + 2, before.length + 2 + size - 2⟩ = rest.take (size - 2) := by
          have hsize : before.length + 2 + size - 2 - (before.length + 2) = size - 2 := by omega
          rw [Text.slice, Span.size, hsize, ht, ← List.drop_drop, List.drop_left]
          rfl
        have hlength : front.length + before.length + 2 = (front ++ before ++ ['\x7b', '\x7b']).length := by
          simp [Nat.add_assoc]
        rw [hinside, hlength] at hs
        have heq : u = front ++ before ++ ['\x7b', '\x7b'] ++ rest.take (size - 2) ++
            (rest.drop (size - 2) ++ behind) := by
          rw [hu, ht, List.append_assoc _ (rest.take _), ← List.append_assoc (rest.take _), List.take_append_drop]
          simp
        exact ih heq (fun _ => ⟨_, rfl⟩) hs

/-- Every template of a text is an opening with its closing. -/
theorem exists_of_mem_spans {t : Text} {s : Span} (hs : s ∈ spans t) :
    exists before rest size, OpensBehind t before rest size ∧ BehindWholeBraces before ∧
      s = ⟨before.length, before.length + 2 + size⟩ := by
  have ht : t = [] ++ t ++ [] := by
    rw [List.nil_append, List.append_nil]
  exact exists_of_mem_spansFrom ht nofun hs

/-!
# Openings by their places
-/

/-- Two braces stand at `place`, and none in front of them. -/
def OpensAt (t : Text) (place : Nat) : Prop :=
  Text.startsWith (t.drop place) ['\x7b', '\x7b'] = true ∧ (t.take place).getLast? ≠ some '\x7b'

instance (t : Text) (place : Nat) : Decidable (OpensAt t place) :=
  inferInstanceAs (Decidable (_ ∧ _))

/-- The end of the template that begins at `place`. -/
def stopOf? (t : Text) (place : Nat) : Option Nat :=
  (toClosing? 1 (t.drop (place + 2))).map (· + (place + 2))

theorem OpensAt.drop_eq {t : Text} {place : Nat} (h : OpensAt t place) :
    t.drop place = '\x7b' :: '\x7b' :: t.drop (place + 2) := by
  rcases List.isPrefixOf_iff_prefix.mp h.1 with ⟨rest, hrest⟩
  rw [← List.drop_drop, ← hrest]
  rfl

theorem opensAt_iff {t : Text} {place : Nat} :
    OpensAt t place <-> t[place]? = some '\x7b' ∧ t[place + 1]? = some '\x7b' ∧
      (place ≠ 0 -> t[place - 1]? ≠ some '\x7b') := by
  rw [OpensAt, Text.startsWith_drop_cons, Text.startsWith_drop_cons, and_assoc, and_assoc]
  refine and_congr_right fun hfirst => and_congr_right fun _ => ?_
  have hplace : place < t.length := (List.getElem?_eq_some_iff.mp hfirst).1
  simp only [Text.startsWith_drop_nil, true_and]
  cases place with
  | zero => simp
  | succ n => simp [List.getLast?_take, List.getElem?_eq_getElem (Nat.lt_of_succ_lt hplace)]

end Template
end WikiEntry
