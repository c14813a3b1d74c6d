import Mathlib.Logic.Function.Iterate
import TexReflow.Proofs.Replacement

/-!
# Single spaces

Two spaces side by side can be replaced by one, round after round, until there are none. A round
takes about half of each longer run of spaces away and does not change the single-space form. It
makes the text shorter, so the rounds end, and they end in that form.
-/

namespace TexReflow.Text

/-- One round: pairs of spaces, found from the left, become single ones. -/
def shrink (t : Text) : Text := replace [' ', ' '] [' '] t

theorem shrink_pair (t : Text) : shrink (' ' :: ' ' :: t) = ' ' :: shrink t :=
  replace_append [' '] (by simp) t

theorem shrink_cons {c : Char} {t : Text} (h : ¬[' ', ' '] <+: c :: t) :
    shrink (c :: t) = c :: shrink t := replace_cons [' '] h

theorem shrink_induction {motive : Text → Prop} (nil : motive [])
    (pair : ∀ t, motive t → motive (' ' :: ' ' :: t))
    (other : ∀ c t, ¬[' ', ' '] <+: c :: t → motive t → motive (c :: t)) (t : Text) : motive t :=
  replace_induction (by simp) nil pair other t

theorem head_shrink (t : Text) : (shrink t).head? = t.head? := by
  induction t using shrink_induction with
  | nil => rfl
  | pair t _ => rw [shrink_pair]; rfl
  | other c t h _ => rw [shrink_cons h]; rfl

/-- A character is left out if it is a space before another one. -/
theorem collapse_cons (c : Char) (t : Text) :
    collapse (c :: t) = if c = ' ' ∧ t.head? = some ' ' then collapse t else c :: collapse t := by
  cases t with
  | nil => simp [collapse]
  | cons d t => simp [collapse]

/-- What a character before a text becomes depends on the first character of the text only. -/
theorem collapse_cons_congr (c : Char) {t u : Text} (hhead : t.head? = u.head?)
    (h : collapse t = collapse u) : collapse (c :: t) = collapse (c :: u) := by
  rw [collapse_cons, collapse_cons, hhead, h]

/-- A round keeps the single-space form. -/
theorem collapse_shrink (t : Text) : collapse (shrink t) = collapse t := by
  induction t using shrink_induction with
  | nil => rfl
  | pair t ih =>
      rw [shrink_pair, collapse_cons_congr ' ' (head_shrink t) ih]
      rfl
  | other c t h ih => rw [shrink_cons h, collapse_cons_congr c (head_shrink t) ih]

theorem length_shrink_le (t : Text) : (shrink t).length ≤ t.length := by
  induction t using shrink_induction with
  | nil => exact Nat.le_refl _
  | pair t ih =>
      rw [shrink_pair]
      simp only [List.length_cons]
      omega
  | other c t h ih =>
      rw [shrink_cons h]
      exact Nat.succ_le_succ ih

/-- A round that has something to do makes the text shorter. -/
theorem length_shrink_lt {t : Text} (h : [' ', ' '] <:+: t) : (shrink t).length < t.length := by
  induction t using shrink_induction with
  | nil => simp at h
  | pair t _ =>
      have hle := length_shrink_le t
      rw [shrink_pair]
      simp only [List.length_cons]
      omega
  | other c t hnot ih =>
      rw [shrink_cons hnot]
      exact Nat.succ_lt_succ (ih ((List.infix_cons_iff.mp h).resolve_left hnot))

theorem collapse_eq_self {t : Text} (h : ¬[' ', ' '] <:+: t) : collapse t = t := by
  fun_induction collapse t with
  | case1 => rfl
  | case2 c => rfl
  | case3 c d t hcd ih =>
      obtain ⟨rfl, rfl⟩ := hcd
      exact absurd (List.prefix_append [' ', ' '] t).isInfix h
  | case4 c d t hcd ih =>
      rw [ih]
      intro hinfix
      exact h (List.infix_cons hinfix)

/-- Rounds are made as long as there are two spaces side by side. They end, and what they leave is
the single-space form. -/
theorem exists_rounds (t : Text) :
    ∃ n, (∀ m < n, [' ', ' '] <:+: shrink^[m] t) ∧ ¬[' ', ' '] <:+: shrink^[n] t ∧
      shrink^[n] t = collapse t := by
  induction hn : t.length using Nat.strong_induction_on generalizing t with
  | _ length ih =>
      subst hn
      by_cases h : [' ', ' '] <:+: t
      · obtain ⟨n, hmore, hend, hlast⟩ := ih _ (length_shrink_lt h) (shrink t) rfl
        refine ⟨n + 1, ?_, hend, hlast.trans (collapse_shrink t)⟩
        intro m hm
        cases m with
        | zero => exact h
        | succ m => exact hmore m (Nat.lt_of_succ_lt_succ hm)
      · exact ⟨0, nofun, h, (collapse_eq_self h).symm⟩

/-- The second text is the first one with a single space for each run of spaces. A run ends before
another character or at the end of the text; all other characters are kept. -/
inductive SingleSpaced : Text → Text → Prop
  | nil : SingleSpaced [] []
  | other {c : Char} {t u : Text} (hc : c ≠ ' ') (h : SingleSpaced t u) :
      SingleSpaced (c :: t) (c :: u)
  | run {t u : Text} (n : Nat) (ht : t.head? ≠ some ' ') (h : SingleSpaced t u) :
      SingleSpaced (List.replicate (n + 1) ' ' ++ t) (' ' :: u)

/-- A space before a run makes the run longer. -/
theorem SingleSpaced.cons_space {t u : Text} (h : SingleSpaced t u) (ht : t.head? = some ' ') :
    SingleSpaced (' ' :: t) u := by
  cases h with
  | nil => cases ht
  | other hc _ => exact absurd (Option.some.inj ht) hc
  | run n hend h => exact .run (n + 1) hend h

theorem singleSpaced_collapse (t : Text) : SingleSpaced t (collapse t) := by
  induction t with
  | nil => exact .nil
  | cons c t ih =>
      rw [collapse_cons]
      split
      next h =>
        rw [h.1]
        exact ih.cons_space h.2
      next h =>
        by_cases hc : c = ' '
        · subst hc
          exact .run 0 (fun ht => h ⟨rfl, ht⟩) ih
        · exact .other hc ih

theorem collapse_replicate_append {t : Text} (ht : t.head? ≠ some ' ') (n : Nat) :
    collapse (List.replicate (n + 1) ' ' ++ t) = ' ' :: collapse t := by
  induction n with
  | zero =>
      rw [List.replicate_one, List.singleton_append, collapse_cons, if_neg (fun h => ht h.2)]
  | succ n ih =>
      have hnext : (List.replicate (n + 1) ' ' ++ t).head? = some ' ' := by
        rw [List.replicate_succ]
        rfl
      rw [List.replicate_succ, List.cons_append, collapse_cons, if_pos ⟨rfl, hnext⟩, ih]

theorem singleSpaced_iff {t u : Text} : SingleSpaced t u ↔ u = collapse t := by
  constructor
  · intro h
    induction h with
    | nil => rfl
    | other hc _ ih => rw [collapse_cons, if_neg (fun h => hc h.1), ih]
    | run n ht _ ih => rw [collapse_replicate_append ht, ih]
  · rintro rfl
    exact singleSpaced_collapse t

private theorem head_collapse_append (a b : Text) : (collapse a ++ b).head? = (a ++ b).head? := by
  rw [List.head?_append, List.head?_append, head_collapse]

theorem collapse_append_left (a b : Text) : collapse (collapse a ++ b) = collapse (a ++ b) := by
  fun_induction collapse a with
  | case1 => rfl
  | case2 c => rfl
  | case3 c d a h ih =>
      rw [ih, List.cons_append, List.cons_append, List.cons_append, collapse.eq_3, if_pos h]
  | case4 c d a h ih => exact collapse_cons_congr c (head_collapse_append (d :: a) b) ih

theorem collapse_append_right (a b : Text) : collapse (a ++ collapse b) = collapse (a ++ b) := by
  induction a with
  | nil => exact collapse_collapse b
  | cons c a ih =>
      have hhead : (a ++ collapse b).head? = (a ++ b).head? := by
        rw [List.head?_append, List.head?_append, head_collapse]
      exact collapse_cons_congr c hhead ih

/-- Rounds that replace pairs of spaces end, and what they leave is the text with one space for each
run of spaces. It has no two spaces side by side and is left alone from then on, and parts of a text
may be collapsed before they are put together. -/
theorem collapse_rounds (t : Text) :
    (∃ n, (∀ m < n, [' ', ' '] <:+: shrink^[m] t) ∧ ¬[' ', ' '] <:+: shrink^[n] t ∧
      shrink^[n] t = collapse t) ∧
    (∀ u, SingleSpaced t u ↔ u = collapse t) ∧ ¬[' ', ' '] <:+: collapse t ∧
    collapse (collapse t) = collapse t ∧
    ∀ b, collapse (t ++ b) = collapse (collapse t ++ collapse b) := by
  obtain ⟨n, hmore, hend, hlast⟩ := exists_rounds t
  refine ⟨⟨n, hmore, hend, hlast⟩, fun u => singleSpaced_iff, hlast ▸ hend, collapse_collapse t, ?_⟩
  intro b
  rw [collapse_append_right, collapse_append_left]

end TexReflow.Text
