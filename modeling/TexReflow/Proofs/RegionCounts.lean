import Mathlib.Order.Bounds.Basic
import TexReflow.Proofs.Balance

/-!
# Regions by counting

A line opens its region before it closes one. With its own opening mark counted and its own closing
mark not, a line lies inside a region exactly if more regions have been opened than closed. So a
scan can be told from two counts: where it fails, which lines lie inside, and how many regions stay
open.
-/

namespace TexReflow.Region

theorem markCount_take_succ (p : Option Pattern) {cs : List Text} {i : Nat} {c : Text}
    (hc : cs[i]? = some c) :
    markCount p (cs.take (i + 1)) = markCount p (cs.take i) + (Pattern.marks p c).toNat := by
  rw [List.take_add_one, hc, markCount, List.countP_append, ← markCount, ← markCount]
  exact congrArg _ ((markCount_cons p c []).trans (Nat.zero_add _))

/-- How many of the first `i` contents have an opening mark. -/
def openings (m : Markers) (cs : List Text) (i : Nat) : Nat := markCount m.opening (cs.take i)

/-- How many of the first `i` contents have a closing mark. -/
def closings (m : Markers) (cs : List Text) (i : Nat) : Nat := markCount m.closing (cs.take i)

section Counts

variable (m : Markers) (c : Text) (cs : List Text)

@[simp] theorem openings_zero : openings m cs 0 = 0 := rfl

@[simp] theorem closings_zero : closings m cs 0 = 0 := rfl

theorem openings_cons (i : Nat) :
    openings m (c :: cs) (i + 1) = openings m cs i + (Pattern.marks m.opening c).toNat :=
  markCount_cons m.opening c (cs.take i)

theorem closings_cons (i : Nat) :
    closings m (c :: cs) (i + 1) = closings m cs i + (Pattern.marks m.closing c).toNat :=
  markCount_cons m.closing c (cs.take i)

variable {m c cs}

theorem openings_succ {i : Nat} (hc : cs[i]? = some c) :
    openings m cs (i + 1) = openings m cs i + (Pattern.marks m.opening c).toNat :=
  markCount_take_succ m.opening hc

theorem closings_succ {i : Nat} (hc : cs[i]? = some c) :
    closings m cs (i + 1) = closings m cs i + (Pattern.marks m.closing c).toNat :=
  markCount_take_succ m.closing hc

end Counts

/-- A scan that fails does so here, or on the lines behind. -/
theorem scanFrom_cons_eq_error {m : Markers} {depth line : Nat} {c : Text} {cs : List Text}
    {u : Unbalanced} (h : scanFrom m depth line (c :: cs) = .error u) :
    depth + (Pattern.marks m.opening c).toNat < (Pattern.marks m.closing c).toNat ∧
        u = ⟨line, c⟩ ∨
      ∃ left, depth + (Pattern.marks m.opening c).toNat =
          left + (Pattern.marks m.closing c).toNat ∧
        scanFrom m left (line + 1) cs = .error u := by
  rw [scanFrom_cons] at h
  split at h
  next hlt =>
    cases h
    exact .inl ⟨hlt, rfl⟩
  next hle =>
    obtain ⟨left, hleft⟩ := Nat.exists_eq_add_of_le' (Nat.le_of_not_lt hle)
    rw [hleft, Nat.add_sub_cancel] at h
    refine .inr ⟨left, hleft, ?_⟩
    cases hrest : scanFrom m left (line + 1) cs with
    | ok s => cases hrest ▸ h
    | error v =>
        cases hrest ▸ h
        rfl

/-- A scan fails at the first line up to which too many regions are closed. -/
theorem scanFrom_error {m : Markers} {depth line : Nat} {cs : List Text} {u : Unbalanced}
    (h : scanFrom m depth line cs = .error u) :
    ∃ i, IsLeast {k | depth + openings m cs k < closings m cs k} (i + 1) ∧ u.line = line + i ∧
      cs[i]? = some u.content := by
  induction cs generalizing depth line with
  | nil => cases h
  | cons c cs ih =>
      rcases scanFrom_cons_eq_error h with ⟨hlt, rfl⟩ | ⟨left, hleft, hrest⟩
      · refine ⟨0, ⟨?_, ?_⟩, rfl, rfl⟩
        · show depth + openings m (c :: cs) 1 < closings m (c :: cs) 1
          rw [openings_cons, closings_cons]
          simpa using hlt
        · intro k hk
          exact Nat.one_le_iff_ne_zero.mpr (by rintro rfl; simp at hk)
      · obtain ⟨i, ⟨hover, hleast⟩, hline, hcontent⟩ := ih hrest
        -- Counts from here on and counts from the next line on differ by the marks of this line.
        have hover_iff (k : Nat) :
            depth + openings m (c :: cs) (k + 1) < closings m (c :: cs) (k + 1) ↔
              left + openings m cs k < closings m cs k := by
          rw [openings_cons, closings_cons]
          omega
        refine ⟨i + 1, ⟨(hover_iff (i + 1)).mpr hover, ?_⟩, by omega, hcontent⟩
        intro k hk
        cases k with
        | zero => simp at hk
        | succ k => exact Nat.succ_le_succ (hleast ((hover_iff k).mp hk))

/-- Which lines lie inside a region, and how many regions are open at the end. -/
theorem scanFrom_counts {m : Markers} {depth line : Nat} {cs : List Text} {s : Scan}
    (h : scanFrom m depth line cs = .ok s) :
    (∀ i < cs.length,
      s.mask[i]? = some (decide (closings m cs i < depth + openings m cs (i + 1)))) ∧
      s.depth + closings m cs cs.length = depth + openings m cs cs.length := by
  induction cs generalizing depth line s with
  | nil =>
      cases h
      exact ⟨nofun, rfl⟩
  | cons c cs ih =>
      obtain ⟨left, s', hleft, hs', rfl⟩ := scanFrom_cons_eq_ok_iff.mp h
      obtain ⟨hmask, hdepth⟩ := ih hs'
      refine ⟨?_, ?_⟩
      · intro i hi
        cases i with
        | zero =>
            rw [openings_cons]
            simp [Nat.pos_iff_ne_zero, bne, Bool.beq_eq_decide_eq]
        | succ i =>
            rw [openings_cons, closings_cons, List.getElem?_cons_succ,
              hmask i (Nat.lt_of_succ_lt_succ hi), Option.some_inj, decide_eq_decide]
            omega
      · change s'.depth + _ = _
        rw [List.length_cons, openings_cons, closings_cons]
        omega

/-- The lines from `first` to `last` lie inside a region, and the lines next to them do not. -/
structure Scan.Run (s : Scan) (first last : Nat) : Prop where
  le : first ≤ last
  inside : ∀ i ≤ last, first ≤ i → s.mask[i]? = some true
  before : first = 0 ∨ s.mask[first - 1]? = some false
  behind : s.mask[last + 1]? ≠ some true

section Inside

variable {m : Markers} {cs : List Text} {s : Scan}

theorem closings_le_openings (h : scan m cs = .ok s) (i : Nat) :
    closings m cs i ≤ openings m cs i := by
  have hopen := (exists_scanFrom_eq_ok_iff m 0 1 cs).mp ⟨s, h⟩ i
  rwa [Nat.zero_add] at hopen

theorem mask_eq_some_iff (h : scan m cs = .ok s) {i : Nat} {inside : Bool} :
    s.mask[i]? = some inside ↔
      i < cs.length ∧ inside = decide (closings m cs i < openings m cs (i + 1)) := by
  by_cases hi : i < cs.length
  · rw [(scanFrom_counts h).1 i hi, Nat.zero_add, Option.some_inj]
    simp [hi, eq_comm]
  · rw [List.getElem?_eq_none (by rw [scan_mask_length h]; omega)]
    simp [hi]

/-- A line with a mark lies inside. -/
theorem mask_of_marks (h : scan m cs = .ok s) {i : Nat} {c : Text} (hc : cs[i]? = some c)
    (hmarks : Pattern.marks m.opening c = true ∨ Pattern.marks m.closing c = true) :
    s.mask[i]? = some true := by
  have hi : i < cs.length := (List.getElem?_eq_some_iff.mp hc).1
  have hhere := closings_le_openings h i
  have hbehind := closings_le_openings h (i + 1)
  rw [openings_succ hc, closings_succ hc] at hbehind
  rw [mask_eq_some_iff h, openings_succ hc]
  refine ⟨hi, (decide_eq_true ?_).symm⟩
  rcases hmarks with hmark | hmark
  · rw [hmark, Bool.toNat_true]
    omega
  · rw [hmark, Bool.toNat_true] at hbehind
    omega

/-- Regions end at a line with a closing mark. -/
theorem marks_of_run (h : scan m cs = .ok s) {first last : Nat} (hrun : s.Run first last)
    (hlast : last + 1 < cs.length) :
    ∃ c, cs[last]? = some c ∧ Pattern.marks m.closing c = true := by
  have hc := List.getElem?_eq_getElem (Nat.lt_of_succ_lt hlast)
  have hd := List.getElem?_eq_getElem hlast
  refine ⟨_, hc, ?_⟩
  have hin := ((mask_eq_some_iff h).mp (hrun.inside last (Nat.le_refl last) hrun.le)).2
  have hout : ¬closings m cs (last + 1) < openings m cs (last + 1 + 1) := by
    intro hlt
    exact hrun.behind ((mask_eq_some_iff h).mpr ⟨hlast, (decide_eq_true hlt).symm⟩)
  rw [closings_succ hc, openings_succ hd] at hout
  have hlt := of_decide_eq_true hin.symm
  by_contra hmark
  rw [Bool.not_eq_true] at hmark
  rw [hmark, Bool.toNat_false] at hout
  omega

end Inside

/-- A scan in closed form. It fails at the first line up to which more regions are closed than
opened. Otherwise a line lies inside if, with its own opening mark, more regions are opened than
closed before it; so each line with a mark lies inside, and lines inside end at a closing mark or
with the last line. -/
theorem scan_counts (m : Markers) (cs : List Text) :
    ((∃ u, scan m cs = .error u) ↔ ∃ i ≤ cs.length, openings m cs i < closings m cs i) ∧
      (∀ u, scan m cs = .error u →
        IsLeast {i | openings m cs i < closings m cs i} u.line ∧
          cs[u.line - 1]? = some u.content) ∧
      ∀ s, scan m cs = .ok s →
        s.mask.length = cs.length ∧
        (∀ i < cs.length, s.mask[i]? = some true ↔ closings m cs i < openings m cs (i + 1)) ∧
        (∀ (i : Nat) (c : Text), cs[i]? = some c →
          Pattern.marks m.opening c = true ∨ Pattern.marks m.closing c = true →
            s.mask[i]? = some true) ∧
        s.depth + closings m cs cs.length = openings m cs cs.length ∧
        ∀ first last, s.Run first last → last + 1 < cs.length →
          ∃ c, cs[last]? = some c ∧ Pattern.marks m.closing c = true := by
  have herror {u : Unbalanced} (h : scan m cs = .error u) :
      IsLeast {i | openings m cs i < closings m cs i} u.line ∧
        cs[u.line - 1]? = some u.content := by
    obtain ⟨i, hleast, hline, hcontent⟩ := scanFrom_error h
    simp only [Nat.zero_add] at hleast
    rw [hline, Nat.add_comm 1 i, Nat.add_sub_cancel]
    exact ⟨hleast, hcontent⟩
  refine ⟨⟨?_, ?_⟩, fun u => herror, ?_⟩
  · rintro ⟨u, hu⟩
    obtain ⟨⟨hover, -⟩, hcontent⟩ := herror hu
    have hline := (List.getElem?_eq_some_iff.mp hcontent).1
    exact ⟨u.line, by omega, hover⟩
  · rintro ⟨i, -, hover⟩
    cases hs : scan m cs with
    | error u => exact ⟨u, rfl⟩
    | ok s => exact absurd hover (Nat.not_lt.mpr (closings_le_openings hs i))
  · intro s hs
    refine ⟨scan_mask_length hs, ?_, fun i c => mask_of_marks hs, ?_, fun _ _ => marks_of_run hs⟩
    · intro i hi
      rw [mask_eq_some_iff hs]
      simp [hi]
    · simpa using (scanFrom_counts hs).2

/-- The third line opens a region and closes one, inside of another; the last region stays open.
With one opening mark less the fourth line closes a region that is not open. -/
theorem scan_counts_nested :
    let letter (c : Char) : Pattern := ⟨[c], .one ⟨[.single c], false, false⟩⟩
    let m : Markers := ⟨some (letter 'b'), some (letter 'e')⟩
    let cs := ["b", "x", "be", "e", "y", "b"].map String.toList
    let s : Scan := ⟨[true, true, true, true, false, true], 1⟩
    let ds := ["y", "x", "be", "e", "y", "b"].map String.toList
    let u : Unbalanced := ⟨4, ['e']⟩
    scan m cs = .ok s ∧ s.Run 0 3 ∧ closings m cs 3 < openings m cs 4 ∧
      s.mask[2]? = some true ∧
      s.depth + closings m cs 6 = openings m cs 6 ∧
      (∃ c, cs[3]? = some c ∧ Pattern.marks m.closing c = true) ∧
      scan m ds = .error u ∧ IsLeast {i | openings m ds i < closings m ds i} 4 := by
  intro letter m cs s ds u
  have hs : scan m cs = .ok s := by decide +kernel
  have hu : scan m ds = .error u := by decide +kernel
  have hrun : s.Run 0 3 := ⟨by decide, by decide, by decide, by decide⟩
  obtain ⟨-, -, hcounts⟩ := scan_counts m cs
  obtain ⟨-, hmask, hmarked, hdepth, hend⟩ := hcounts s hs
  have hboth : Pattern.marks m.opening "be".toList = true := by decide +kernel
  exact ⟨hs, hrun, (hmask 3 (by decide)).mp rfl, hmarked 2 _ rfl (.inl hboth), hdepth,
    hend 0 3 hrun (by decide), hu, ((scan_counts m ds).2.1 u hu).1⟩

end TexReflow.Region
