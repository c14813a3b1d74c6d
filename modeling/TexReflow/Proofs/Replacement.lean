import TexReflow.Proofs.Breaks

/-!
# Replacement

Putting a text in the place of each occurrence of another one. Occurrences are found from the left
and do not overlap, so that a text is either an occurrence with the rest behind it or a character
that stays with the rest behind it. Proofs about a replacement go by this division.
-/

namespace TexReflow.Text

/-- Every occurrence of `old`, found from the left and without overlap, becomes `new`. -/
def replace (old new t : Text) : Text := new.intercalate (splitOn old t)

variable {old : Text} (new : Text)

private theorem splitFrom_length_append (old a t : Text) :
    splitFrom old a.length (a ++ t) = splitFrom old 0 t := by
  induction a with
  | nil => rfl
  | cons c a ih => exact ih

theorem replace_append (hold : old ≠ []) (t : Text) :
    replace old new (old ++ t) = new ++ replace old new t := by
  cases old with
  | nil => exact absurd rfl hold
  | cons c old =>
      have hprefix : (c :: old).isPrefixOf (c :: (old ++ t)) = true :=
        List.isPrefixOf_iff_prefix.mpr (List.prefix_append (c :: old) t)
      rw [replace, splitOn, List.cons_append, splitFrom, if_pos hprefix, List.length_cons,
        Nat.add_sub_cancel, splitFrom_length_append,
        List.intercalate_cons_of_ne_nil (splitFrom_ne_nil _ _ _), List.nil_append]
      rfl

theorem replace_cons {c : Char} {t : Text} (h : ¬old <+: c :: t) :
    replace old new (c :: t) = c :: replace old new t := by
  rw [replace, splitOn, splitFrom, if_neg (by rwa [List.isPrefixOf_iff_prefix]),
    intercalate_consHead new c (splitFrom_ne_nil _ _ _)]
  rfl

/-- Induction along the occurrences that are replaced. -/
theorem replace_induction {motive : Text → Prop} (hold : old ≠ []) (nil : motive [])
    (occurrence : ∀ t, motive t → motive (old ++ t))
    (other : ∀ c t, ¬old <+: c :: t → motive t → motive (c :: t)) (t : Text) : motive t := by
  induction hn : t.length using Nat.strong_induction_on generalizing t with
  | _ n ih =>
      subst hn
      by_cases h : old <+: t
      · obtain ⟨u, rfl⟩ := h
        have hpos := List.length_pos_iff.mpr hold
        exact occurrence u (ih u.length (by simpa using hpos) u rfl)
      · cases t with
        | nil => exact nil
        | cons c t => exact other c t h (ih t.length (by simp) t rfl)

end TexReflow.Text
