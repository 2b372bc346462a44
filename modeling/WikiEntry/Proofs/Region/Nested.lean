import WikiEntry.Proofs.Pattern.Matched
import WikiEntry.Region.Union

/-!
# Nested regions in parts of a text

The scan reads delimiter by delimiter, and a delimiter counts only where the scan has come to its first character.  So a
text can be scanned in two parts where nothing is open between them and no delimiter lies across; and a region that was
found is found again in the text it covers.
-/

namespace WikiEntry
namespace Region

/-- How many delimiters are open at the end of a text that is read inside `depth` open ones, as they are counted in the
scan for nested regions. -/
def depthFrom (opening closing : Text) (depth skip : Nat) : Text -> Nat
  | [] => depth
  | c :: r =>
      match skip with
      | skip + 1 => depthFrom opening closing depth skip r
      | 0 =>
          if opening.isPrefixOf (c :: r) then depthFrom opening closing (depth + 1) (opening.length - 1) r
          else if 0 < depth ∧ closing.isPrefixOf (c :: r) then
            if depth = 1 ∨ closing.isEmpty then depthFrom opening closing 0 (closing.length - 1) r
            else depthFrom opening closing (depth - 1) (closing.length - 1) r
          else depthFrom opening closing depth 0 r

/-- The depth at the end of a text. -/
def depthAfter (opening closing t : Text) : Nat :=
  depthFrom opening closing 0 0 t

/-- No occurrence of `w` begins in `a` and ends in `b`. -/
def Apart (w a b : Text) : Prop :=
  forall q, q < a.length -> a.length < q + w.length -> Text.startsWith ((a ++ b).drop q) w = false

instance (w a b : Text) : Decidable (Apart w a b) :=
  inferInstanceAs (Decidable (forall q, q < a.length -> a.length < q + w.length ->
    Text.startsWith ((a ++ b).drop q) w = false))

/-- A text read inside `depth` open delimiters whose last character is the end of the region. -/
def Closes (opening closing : Text) (depth : Nat) (t : Text) : Prop :=
  forall place start, nestedFrom opening closing place depth start 0 t = [⟨start, place + t.length⟩]

variable {opening closing t r : Text} {c : Char} {place depth start : Nat}

/-!
# One step of the scan
-/

theorem nestedFrom_skip (opening closing : Text) (place depth start n : Nat) (t : Text) :
    nestedFrom opening closing place depth start n t =
      nestedFrom opening closing (place + n) depth start 0 (t.drop n) := by
  induction n generalizing place t with
  | zero => rfl
  | succ n ih =>
      cases t with
      | nil => rfl
      | cons c r =>
          rw [nestedFrom, ih, List.drop_succ_cons, Nat.add_right_comm]
          rfl

theorem depthFrom_skip (opening closing : Text) (depth n : Nat) (t : Text) :
    depthFrom opening closing depth n t = depthFrom opening closing depth 0 (t.drop n) := by
  induction n generalizing t with
  | zero => rfl
  | succ n ih =>
      cases t with
      | nil => rfl
      | cons c r => rw [depthFrom, ih, List.drop_succ_cons]

theorem nestedFrom_opening (hopening : opening ≠ []) (closing : Text) (place depth start : Nat) (r : Text) :
    nestedFrom opening closing place depth start 0 (opening ++ r) =
      nestedFrom opening closing (place + opening.length) (depth + 1) (if depth = 0 then place else start) 0 r := by
  rcases List.exists_cons_of_ne_nil hopening with ⟨c, w, rfl⟩
  have hopens : (c :: w).isPrefixOf (c :: (w ++ r)) = true :=
    List.isPrefixOf_iff_prefix.mpr (List.prefix_append (c :: w) r)
  rw [List.cons_append, nestedFrom, if_pos hopens, nestedFrom_skip, List.length_cons, Nat.add_sub_cancel, List.drop_left, Nat.add_assoc, Nat.add_comm 1]

theorem depthFrom_opening (hopening : opening ≠ []) (closing : Text) (depth : Nat) (r : Text) :
    depthFrom opening closing depth 0 (opening ++ r) = depthFrom opening closing (depth + 1) 0 r := by
  rcases List.exists_cons_of_ne_nil hopening with ⟨c, w, rfl⟩
  have hopens : (c :: w).isPrefixOf (c :: (w ++ r)) = true :=
    List.isPrefixOf_iff_prefix.mpr (List.prefix_append (c :: w) r)
  rw [List.cons_append, depthFrom, if_pos hopens, depthFrom_skip, List.length_cons, Nat.add_sub_cancel, List.drop_left]

theorem nestedFrom_closing (hclosing : closing ≠ []) (hno : ¬ opening <+: closing ++ r) (place depth start : Nat) :
    nestedFrom opening closing place (depth + 1) start 0 (closing ++ r) =
      (if depth = 0 then [⟨start, place + closing.length⟩] else []) ++
        nestedFrom opening closing (place + closing.length) depth start 0 r := by
  rcases List.exists_cons_of_ne_nil hclosing with ⟨c, w, rfl⟩
  rw [← List.isPrefixOf_iff_prefix, List.cons_append] at hno
  have hcloses : (c :: w).isPrefixOf (c :: (w ++ r)) = true :=
    List.isPrefixOf_iff_prefix.mpr (List.prefix_append (c :: w) r)
  have hskip : forall depth, nestedFrom opening (c :: w) (place + 1) depth start ((c :: w).length - 1) (w ++ r) =
      nestedFrom opening (c :: w) (place + (c :: w).length) depth start 0 r := by
    intro depth
    rw [nestedFrom_skip, List.length_cons, Nat.add_sub_cancel, List.drop_left, Nat.add_assoc, Nat.add_comm 1]
  rw [List.cons_append, nestedFrom, if_neg hno, if_pos ⟨Nat.succ_pos depth, hcloses⟩, hskip, hskip]
  by_cases hdepth : depth = 0
  · simp [hdepth]
  · simp [hdepth]

theorem depthFrom_closing (hclosing : closing ≠ []) (hno : ¬ opening <+: closing ++ r) (depth : Nat) :
    depthFrom opening closing (depth + 1) 0 (closing ++ r) = depthFrom opening closing depth 0 r := by
  rcases List.exists_cons_of_ne_nil hclosing with ⟨c, w, rfl⟩
  rw [← List.isPrefixOf_iff_prefix, List.cons_append] at hno
  have hcloses : (c :: w).isPrefixOf (c :: (w ++ r)) = true :=
    List.isPrefixOf_iff_prefix.mpr (List.prefix_append (c :: w) r)
  have hskip : forall depth, depthFrom opening (c :: w) depth ((c :: w).length - 1) (w ++ r) =
      depthFrom opening (c :: w) depth 0 r := by
    intro depth
    rw [depthFrom_skip, List.length_cons, Nat.add_sub_cancel, List.drop_left]
  rw [List.cons_append, depthFrom, if_neg hno, if_pos ⟨Nat.succ_pos depth, hcloses⟩, hskip, hskip]
  by_cases hdepth : depth = 0
  · simp [hdepth]
  · simp [hdepth]

theorem nestedFrom_plain (hopen : ¬ opening <+: c :: r) (hclose : 0 < depth -> ¬ closing <+: c :: r)
    (place start : Nat) :
    nestedFrom opening closing place depth start 0 (c :: r) =
      nestedFrom opening closing (place + 1) depth start 0 r := by
  rw [← List.isPrefixOf_iff_prefix] at hopen hclose
  rw [nestedFrom, if_neg hopen, if_neg fun h => hclose h.1 h.2]

theorem depthFrom_plain (hopen : ¬ opening <+: c :: r) (hclose : 0 < depth -> ¬ closing <+: c :: r) :
    depthFrom opening closing depth 0 (c :: r) = depthFrom opening closing depth 0 r := by
  rw [← List.isPrefixOf_iff_prefix] at hopen hclose
  rw [depthFrom, if_neg hopen, if_neg fun h => hclose h.1 h.2]

/-- A text is read delimiter by delimiter, and character by character where there is none; a closing delimiter counts
only inside an open one. -/
@[elab_as_elim]
theorem scan_induction (hopening : opening ≠ []) (hclosing : closing ≠ []) {motive : Nat -> Text -> Prop}
    (nil : forall depth, motive depth [])
    (opens : forall depth r, motive (depth + 1) r -> motive depth (opening ++ r))
    (closes : forall depth r, ¬ opening <+: closing ++ r -> motive depth r -> motive (depth + 1) (closing ++ r))
    (plain : forall depth c r, ¬ opening <+: c :: r -> (0 < depth -> ¬ closing <+: c :: r) -> motive depth r ->
      motive depth (c :: r))
    (depth : Nat) (t : Text) : motive depth t := by
  induction hsize : t.length using Nat.strongRecOn generalizing depth t with
  | ind size ih =>
      have hshorter : forall {w r : Text}, w ≠ [] -> t = w ++ r -> r.length < size := by
        rintro w r hw rfl
        rw [← hsize, List.length_append]
        exact Nat.lt_add_of_pos_left (List.length_pos_iff.mpr hw)
      by_cases hopen : opening <+: t
      · rcases hopen with ⟨r, hr⟩
        rw [← hr]
        exact opens depth r (ih _ (hshorter hopening hr.symm) _ r rfl)
      by_cases hclose : 0 < depth ∧ closing <+: t
      · rcases hclose with ⟨hdepth, r, hr⟩
        obtain ⟨depth, rfl⟩ := Nat.exists_eq_add_one.mpr hdepth
        rw [← hr] at hopen ⊢
        exact closes depth r hopen (ih _ (hshorter hclosing hr.symm) _ r rfl)
      cases t with
      | nil => exact nil depth
      | cons c r =>
          exact plain depth c r hopen (fun hdepth h => hclose ⟨hdepth, h⟩)
            (ih _ (hshorter (List.cons_ne_nil c []) rfl) _ r rfl)

/-!
# The places of regions
-/

/-- Outside of regions it does not matter where the last one began. -/
theorem nestedFrom_zero (hopening : opening ≠ []) (hclosing : closing ≠ []) (place start start' : Nat) (t : Text) :
    nestedFrom opening closing place 0 start 0 t = nestedFrom opening closing place 0 start' 0 t := by
  suffices h : forall depth, depth = 0 -> forall place, nestedFrom opening closing place depth start 0 t =
      nestedFrom opening closing place depth start' 0 t from h 0 rfl place
  intro depth
  induction depth, t using scan_induction hopening hclosing with
  | nil depth => exact fun _ _ => rfl
  | opens depth r _ =>
      rintro rfl place
      rw [nestedFrom_opening hopening, nestedFrom_opening hopening, if_pos rfl, if_pos rfl]
  | closes depth r _ _ => exact fun h => absurd h (Nat.succ_ne_zero depth)
  | plain depth c r hopen hclose ih =>
      intro hdepth place
      rw [nestedFrom_plain hopen hclose, nestedFrom_plain hopen hclose, ih hdepth]

theorem nestedFrom_shift (hopening : opening ≠ []) (hclosing : closing ≠ []) (n place depth start : Nat) (t : Text) :
    nestedFrom opening closing (place + n) depth (start + n) 0 t =
      (nestedFrom opening closing place depth start 0 t).map (·.shift n) := by
  induction depth, t using scan_induction hopening hclosing generalizing place start with
  | nil depth => rfl
  | opens depth r ih =>
      have hstart : (if depth = 0 then place + n else start + n) = (if depth = 0 then place else start) + n :=
        (apply_ite (· + n) _ _ _).symm
      rw [nestedFrom_opening hopening, nestedFrom_opening hopening, hstart, Nat.add_right_comm, ih]
  | closes depth r hno ih =>
      rw [nestedFrom_closing hclosing hno, nestedFrom_closing hclosing hno, Nat.add_right_comm, ih, List.map_append]
      split
      · rfl
      · rfl
  | plain depth c r hopen hclose ih =>
      rw [nestedFrom_plain hopen hclose, nestedFrom_plain hopen hclose, Nat.add_right_comm, ih]

/-!
# Two texts one behind the other
-/

theorem Apart.of_append {w u a b : Text} (h : Apart w (u ++ a) b) : Apart w a b := by
  intro q hq hacross
  have hbehind := h (u.length + q) (by rw [List.length_append]; omega) (by rw [List.length_append]; omega)
  rwa [List.append_assoc, ← List.drop_drop, List.drop_left] at hbehind

theorem Apart.prefix_iff {w a b : Text} (h : Apart w a b) (ha : a ≠ []) : w <+: a ++ b <-> w <+: a := by
  refine ⟨fun hbegins => ?_, fun hbegins => hbegins.trans (List.prefix_append a b)⟩
  refine List.prefix_of_prefix_length_le hbegins (List.prefix_append a b) (Nat.le_of_not_lt fun hlonger => ?_)
  have hno := h 0 (List.length_pos_iff.mpr ha) (by rwa [Nat.zero_add])
  exact Bool.eq_false_iff.mp hno (List.isPrefixOf_iff_prefix.mpr hbegins)

/-- Where nothing is open at the end of the first text, the scan begins anew with the second. -/
theorem nestedFrom_append {a b : Text} (hopening : opening ≠ []) (hclosing : closing ≠ [])
    (hclosed : depthFrom opening closing depth 0 a = 0) (hopens : Apart opening a b) (hcloses : Apart closing a b)
    (place start : Nat) :
    nestedFrom opening closing place depth start 0 (a ++ b) =
      nestedFrom opening closing place depth start 0 a ++ nestedFrom opening closing (place + a.length) 0 0 0 b := by
  induction depth, a using scan_induction hopening hclosing generalizing place start with
  | nil depth =>
      obtain rfl : depth = 0 := hclosed
      exact nestedFrom_zero hopening hclosing place start 0 b
  | opens depth r ih =>
      rw [depthFrom_opening hopening] at hclosed
      rw [List.append_assoc, nestedFrom_opening hopening, nestedFrom_opening hopening,
        ih hclosed hopens.of_append hcloses.of_append, List.length_append, Nat.add_assoc]
  | closes depth r hno ih =>
      rw [depthFrom_closing hclosing hno] at hclosed
      have hne : closing ++ r ≠ [] := List.append_ne_nil_of_left_ne_nil hclosing r
      have hno' := mt (hopens.prefix_iff hne).mp hno
      rw [List.append_assoc] at hno' ⊢
      rw [nestedFrom_closing hclosing hno', nestedFrom_closing hclosing hno,
        ih hclosed hopens.of_append hcloses.of_append, List.length_append, Nat.add_assoc, List.append_assoc]
  | plain depth c r hopen hclose ih =>
      rw [depthFrom_plain hopen hclose] at hclosed
      have hne : c :: r ≠ [] := List.cons_ne_nil c r
      have hopen' := mt (hopens.prefix_iff hne).mp hopen
      have hclose' := fun hdepth => mt (hcloses.prefix_iff hne).mp (hclose hdepth)
      rw [List.cons_append] at hopen' hclose' ⊢
      rw [nestedFrom_plain hopen' hclose', nestedFrom_plain hopen hclose,
        ih hclosed (Apart.of_append (u := [c]) hopens) (Apart.of_append (u := [c]) hcloses), List.length_cons,
        Nat.add_assoc, Nat.add_comm 1]

theorem nested_append {a b : Text} (hopening : opening ≠ []) (hclosing : closing ≠ [])
    (hclosed : depthAfter opening closing a = 0) (hopens : Apart opening a b) (hcloses : Apart closing a b) :
    nested opening closing (a ++ b) = nested opening closing a ++ (nested opening closing b).map (·.shift a.length) := by
  unfold nested
  rw [nestedFrom_append hopening hclosing hclosed hopens hcloses, ← nestedFrom_shift hopening hclosing,
    nestedFrom_zero hopening hclosing (0 + a.length) 0 (0 + a.length)]

/-!
# The text of a region
-/

theorem Closes.opens {v : Text} (h : Closes opening closing (depth + 1) v) (hopening : opening ≠ [])
    (hdepth : depth ≠ 0) : Closes opening closing depth (opening ++ v) := by
  intro place start
  rw [nestedFrom_opening hopening, if_neg hdepth, h, List.length_append, Nat.add_assoc]

theorem Closes.closes {v : Text} (h : Closes opening closing depth v) (hclosing : closing ≠ []) (hdepth : depth ≠ 0)
    (hno : ¬ opening <+: closing ++ v) : Closes opening closing (depth + 1) (closing ++ v) := by
  intro place start
  rw [nestedFrom_closing hclosing hno, if_neg hdepth, h, List.length_append, Nat.add_assoc, List.nil_append]

theorem closes_closing (hclosing : closing ≠ []) (hno : ¬ opening <+: closing) : Closes opening closing 1 closing := by
  intro place start
  have hread := nestedFrom_closing (r := []) hclosing (by rwa [List.append_nil]) place 0 start
  rwa [List.append_nil, if_pos rfl] at hread

theorem Closes.plain {v : Text} (h : Closes opening closing depth v) (hopen : ¬ opening <+: c :: v)
    (hclose : 0 < depth -> ¬ closing <+: c :: v) : Closes opening closing depth (c :: v) := by
  intro place start
  rw [nestedFrom_plain hopen hclose, h, List.length_cons, Nat.add_assoc, Nat.add_comm 1]

/-- A region is closed by the text it covers, or it was open from the beginning and is closed by the text up to its
end. -/
theorem exists_of_mem_nestedFrom (hopening : opening ≠ []) (hclosing : closing ≠ []) {s : Span}
    (hs : s ∈ nestedFrom opening closing place depth start 0 t) :
    (exists u v w, t = u ++ (v ++ w) ∧ s = ⟨place + u.length, place + u.length + v.length⟩ ∧
      nested opening closing v = [⟨0, v.length⟩]) ∨
    (depth ≠ 0 ∧ exists v w, t = v ++ w ∧ s = ⟨start, place + v.length⟩ ∧ Closes opening closing depth v) := by
  induction depth, t using scan_induction hopening hclosing generalizing place start with
  | nil depth => cases hs
  | opens depth r ih =>
      rw [nestedFrom_opening hopening] at hs
      rcases ih hs with ⟨u, v, w, rfl, rfl, hv⟩ | ⟨_, v, w, rfl, rfl, hv⟩
      · refine .inl ⟨opening ++ u, v, w, by rw [List.append_assoc], ?_, hv⟩
        rw [List.length_append, Nat.add_assoc place]
      by_cases hdepth : depth = 0
      · refine .inl ⟨[], opening ++ v, w, by rw [List.nil_append, List.append_assoc], ?_, ?_⟩
        · rw [if_pos hdepth, List.length_append, Nat.add_assoc place]
          rfl
        · subst hdepth
          rw [nested, nestedFrom_opening hopening, if_pos rfl, hv, List.length_append, Nat.zero_add]
      · refine .inr ⟨hdepth, opening ++ v, w, by rw [List.append_assoc], ?_, hv.opens hopening hdepth⟩
        rw [if_neg hdepth, List.length_append, Nat.add_assoc place]
  | closes depth r hno ih =>
      rw [nestedFrom_closing hclosing hno] at hs
      rcases List.mem_append.mp hs with hs | hs
      · split at hs
        · rename_i hdepth
          rw [hdepth]
          refine .inr ⟨Nat.one_ne_zero, closing, r, rfl, List.mem_singleton.mp hs, closes_closing hclosing ?_⟩
          exact fun h => hno (h.trans (List.prefix_append closing r))
        · cases hs
      · rcases ih hs with ⟨u, v, w, rfl, rfl, hv⟩ | ⟨hdepth, v, w, rfl, rfl, hv⟩
        · refine .inl ⟨closing ++ u, v, w, by rw [List.append_assoc], ?_, hv⟩
          rw [List.length_append, Nat.add_assoc place]
        · rw [← List.append_assoc] at hno
          refine .inr ⟨Nat.succ_ne_zero depth, closing ++ v, w, by rw [List.append_assoc], ?_,
            hv.closes hclosing hdepth fun h => hno (h.trans (List.prefix_append _ w))⟩
          rw [List.length_append, Nat.add_assoc place]
  | plain depth c r hopen hclose ih =>
      rw [nestedFrom_plain hopen hclose] at hs
      rcases ih hs with ⟨u, v, w, rfl, rfl, hv⟩ | ⟨hdepth, v, w, rfl, rfl, hv⟩
      · refine .inl ⟨c :: u, v, w, rfl, ?_, hv⟩
        rw [List.length_cons, Nat.add_assoc place, Nat.add_comm 1]
      · rw [← List.cons_append] at hopen hclose
        refine .inr ⟨hdepth, c :: v, w, rfl, ?_, hv.plain (fun h => hopen (h.trans (List.prefix_append _ w)))
          fun hpos h => hclose hpos (h.trans (List.prefix_append _ w))⟩
        rw [List.length_cons, Nat.add_assoc place, Nat.add_comm 1]

theorem nested_slice (hopening : opening ≠ []) (hclosing : closing ≠ []) {s : Span} (hs : s ∈ nested opening closing t) :
    nested opening closing (t.slice s) = [⟨0, s.size⟩] := by
  rcases exists_of_mem_nestedFrom hopening hclosing hs with ⟨u, v, w, ht, rfl, hv⟩ | ⟨hdepth, _⟩
  · rw [Text.slice_of_eq_append ht (Nat.zero_add u.length), hv, Span.size, Nat.add_sub_cancel_left]
  · exact absurd rfl hdepth

/-- For templates and for tables: the regions of a text whose first part leaves nothing open, with no delimiter across
its end, are those of the two parts; and the text of a region is one region from its beginning to its end. -/
theorem templates_and_tables_of_parts :
    (forall a b, depthAfter ['\x7b', '\x7b'] ['\x7d', '\x7d'] a = 0 -> Apart ['\x7b', '\x7b'] a b ->
        Apart ['\x7d', '\x7d'] a b -> templates (a ++ b) = templates a ++ (templates b).map (·.shift a.length)) ∧
      (forall t s, s ∈ templates t -> templates (t.slice s) = [⟨0, s.size⟩]) ∧
      (forall a b, depthAfter ['\x7b', '|'] ['|', '\x7d'] a = 0 -> Apart ['\x7b', '|'] a b ->
        Apart ['|', '\x7d'] a b -> tables (a ++ b) = tables a ++ (tables b).map (·.shift a.length)) ∧
      forall t s, s ∈ tables t -> tables (t.slice s) = [⟨0, s.size⟩] := by
  have hne : forall c d : Char, [c, d] ≠ [] := fun c d => List.cons_ne_nil c [d]
  exact ⟨fun a b => nested_append (hne _ _) (hne _ _), fun t s => nested_slice (hne _ _) (hne _ _),
    fun a b => nested_append (hne _ _) (hne _ _), fun t s => nested_slice (hne _ _) (hne _ _)⟩

def nestedTemplates : Text :=
  "\x7b\x7ba|\x7b\x7bb\x7d\x7d\x7d\x7d"

def nestedTables : Text :=
  "\x7b|a\x7b|b|\x7d|\x7d"

theorem templates_and_tables_of_parts_twice :
    templates (nestedTemplates ++ nestedTemplates) =
        templates nestedTemplates ++ (templates nestedTemplates).map (·.shift nestedTemplates.length) ∧
      templates (nestedTemplates.slice ⟨0, 11⟩) = [⟨0, 11⟩] ∧
      tables (nestedTables ++ nestedTables) =
        tables nestedTables ++ (tables nestedTables).map (·.shift nestedTables.length) ∧
      tables (nestedTables.slice ⟨0, 10⟩) = [⟨0, 10⟩] := by
  rcases templates_and_tables_of_parts with ⟨htemplates, htemplate, htables, htable⟩
  refine ⟨?_, htemplate nestedTemplates ⟨0, 11⟩ (by decide +kernel), ?_,
    htable nestedTables ⟨0, 10⟩ (by decide +kernel)⟩
  · exact htemplates nestedTemplates nestedTemplates (by decide +kernel) (by decide +kernel) (by decide +kernel)
  · exact htables nestedTables nestedTables (by decide +kernel) (by decide +kernel) (by decide +kernel)

end Region
end WikiEntry
