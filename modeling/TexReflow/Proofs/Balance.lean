import TexReflow.Proofs.Passes

/-!
# Balanced marks

A scan counts the regions that are open. It fails exactly if, up to some line, there are more lines
with a closing mark than lines with an opening one.
-/

namespace TexReflow.Region

/-- The number of contents that a pattern marks. -/
def markCount (p : Option Pattern) (cs : List Text) : Nat := cs.countP (Pattern.marks p)

theorem markCount_cons (p : Option Pattern) (c : Text) (cs : List Text) :
    markCount p (c :: cs) = markCount p cs + (Pattern.marks p c).toNat := by
  rw [markCount, List.countP_cons]
  cases Pattern.marks p c <;> rfl

/-- With some regions open, that many closing marks more are allowed. -/
theorem exists_scanFrom_eq_ok_iff (m : Markers) (depth line : Nat) (cs : List Text) :
    (∃ s, scanFrom m depth line cs = .ok s) ↔
      ∀ n : Nat, markCount m.closing (cs.take n) ≤ depth + markCount m.opening (cs.take n) := by
  induction cs generalizing depth line with
  | nil => simp [scanFrom, markCount]
  | cons c cs ih =>
      constructor
      · intro h n
        obtain ⟨s, hs⟩ := h
        obtain ⟨left, s', hleft, hs', -⟩ := scanFrom_cons_eq_ok_iff.mp hs
        have hrest := (ih left (line + 1)).mp ⟨s', hs'⟩
        cases n with
        | zero => exact Nat.zero_le _
        | succ n =>
            have hn := hrest n
            rw [List.take_succ_cons, markCount_cons, markCount_cons]
            omega
      · intro h
        have hfirst := h 1
        rw [List.take_succ_cons, List.take_zero, markCount_cons, markCount_cons] at hfirst
        simp only [markCount, List.countP_nil, Nat.zero_add] at hfirst
        obtain ⟨left, hleft⟩ := Nat.exists_eq_add_of_le' hfirst
        have hrest (n : Nat) : markCount m.closing (cs.take n) ≤
            left + markCount m.opening (cs.take n) := by
          have hn := h (n + 1)
          rw [List.take_succ_cons, markCount_cons, markCount_cons] at hn
          omega
        obtain ⟨s', hs'⟩ := (ih left (line + 1)).mpr hrest
        exact ⟨_, scanFrom_cons_eq_ok_iff.mpr ⟨left, s', hleft, hs', rfl⟩⟩

end TexReflow.Region
