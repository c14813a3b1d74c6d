import Mathlib.Data.List.Chain
import TexReflow.Proofs.BracketGroups
import TexReflow.Proofs.Breaks

/-!
# Runs of arguments

The arguments of a macro are groups one behind the other. There is one way only from group to group,
and the run stops where no group opens. A position may count from the end of the text; what is read
from there goes on at the start of the text, and the run passes over to positions that count from
the start.
-/

namespace TexReflow.Macro

/-- Groups are taken from the start of a text as long as one opens there. -/
theorem group_induction {p : Text → Prop} (hnone : ∀ t, groupLength? t = none → p t)
    (hsome : ∀ t n, groupLength? t = some n → p (t.drop n) → p t) (t : Text) : p t := by
  induction h : t.length using Nat.strongRecOn generalizing t with
  | ind k ih =>
      cases hgroup : groupLength? t with
      | none => exact hnone t hgroup
      | some n =>
          obtain ⟨hpos, hle⟩ := groupLength?_bounds hgroup
          refine hsome t n hgroup (ih _ ?_ (t.drop n) rfl)
          rw [List.length_drop]
          omega

theorem argumentsFrom_eq {skip : Nat} {t : Text} (h : skip ≤ t.length) :
    argumentsFrom skip t = skip + argumentsLength (t.drop skip) := by
  induction t generalizing skip with
  | nil =>
      cases Nat.le_zero.mp h
      rfl
  | cons c t ih =>
      cases skip with
      | zero => rw [List.drop_zero, Nat.zero_add, argumentsLength]
      | succ skip =>
          rw [argumentsFrom, ih (Nat.le_of_succ_le_succ h), List.drop_succ_cons]
          omega

theorem argumentsLength_of_none {t : Text} (h : groupLength? t = none) : argumentsLength t = 0 := by
  cases t with
  | nil => rfl
  | cons c t => rw [argumentsLength, argumentsFrom, h]

/-- The first argument is a group, and the others follow it. -/
theorem argumentsLength_of_some {t : Text} {n : Nat} (h : groupLength? t = some n) :
    argumentsLength t = n + argumentsLength (t.drop n) := by
  obtain ⟨hpos, hle⟩ := groupLength?_bounds h
  cases t with
  | nil => cases h
  | cons c t =>
      cases n with
      | zero => cases hpos
      | succ n =>
          rw [argumentsLength, argumentsFrom, h]
          show argumentsFrom n t + 1 = _
          rw [argumentsFrom_eq (Nat.le_of_succ_le_succ hle), List.drop_succ_cons]
          omega

theorem groupLength?_drop_arguments (t : Text) :
    groupLength? (t.drop (argumentsLength t)) = none := by
  induction t using group_induction with
  | hnone t h => rw [argumentsLength_of_none h, List.drop_zero, h]
  | hsome t n h ih => rw [argumentsLength_of_some h, ← List.drop_drop, ih]

theorem readFrom?_eq_none_iff {t : Text} {pos : Int} :
    readFrom? t pos = none ↔ pos < -(t.length : Int) := by
  rw [readFrom?]
  split
  · simp only [reduceCtorEq, false_iff]
    omega
  · split <;> simp_all

/-- From a later position the same text is read, less what lies between. -/
theorem readFrom?_add {t u : Text} {pos : Int} (h : readFrom? t pos = some u) (n : Nat) :
    readFrom? t (pos + n) = some (u.drop n) := by
  rw [readFrom?] at h
  split at h
  next hpos =>
    cases h
    rw [readFrom?, if_pos (by omega), List.drop_drop]
    congr 2
    omega
  next hneg =>
    split at h
    · cases h
    next hin =>
      cases h
      rw [List.drop_append, List.drop_drop, List.length_drop, readFrom?]
      split
      next hpos =>
        have hpassed : t.drop (t.length - (-pos).toNat + n) = [] :=
          List.drop_eq_nil_of_le (by omega)
        rw [hpassed, List.nil_append]
        congr 2
        omega
      next =>
        rw [if_neg (by omega)]
        congr 2
        · congr 1
          omega
        · rw [show n - (t.length - (t.length - (-pos).toNat)) = 0 by omega, List.drop_zero]

/-- Nothing is read behind the end of the text. -/
theorem add_length_le_of_read {t u : Text} {pos : Int} (h : readFrom? t pos = some u) :
    pos + u.length ≤ max pos t.length := by
  rw [readFrom?] at h
  split at h
  next hpos =>
    cases h
    rw [List.length_drop]
    omega
  next hneg =>
    split at h
    · cases h
    · cases h
      rw [List.length_append, List.length_drop]
      omega

/-- The position `q` is behind the group that opens at `p`. -/
def Follows (t : Text) (p q : Int) : Prop := p < q ∧ groupEnd t p = .ok (some q)

theorem follows_of_group {t u : Text} {pos : Int} (h : readFrom? t pos = some u) {n : Nat}
    (hn : groupLength? u = some n) : Follows t pos (pos + n) := by
  have hpos := (groupLength?_bounds hn).1
  refine ⟨by omega, ?_⟩
  rw [groupEnd_of_read h, hn, Option.map_some]

/-- The groups of a run of arguments lead from its start to its end. -/
theorem exists_chain {t u : Text} {pos : Int} (h : readFrom? t pos = some u) :
    ∃ ps, (pos :: ps).IsChain (Follows t) ∧
      (pos :: ps).getLast? = some (pos + argumentsLength u) := by
  induction u using group_induction generalizing pos with
  | hnone u hu => exact ⟨[], .singleton pos, by simp [argumentsLength_of_none hu]⟩
  | hsome u n hn ih =>
      obtain ⟨ps, hchain, hlast⟩ := ih (readFrom?_add h n)
      refine ⟨(pos + n) :: ps, .cons_cons (follows_of_group h hn) hchain, ?_⟩
      rw [List.getLast?_cons_cons, hlast, argumentsLength_of_some hn, Int.natCast_add,
        Int.add_assoc]

/-- A run of groups that stops where none opens is determined by its start. -/
theorem chain_unique {t : Text} {pos r : Int} {ps qs : List Int} (hr : groupEnd t r = .ok none)
    (hps : (pos :: ps).IsChain (Follows t)) (hpr : (pos :: ps).getLast? = some r)
    (hqs : (pos :: qs).IsChain (Follows t)) (hqr : (pos :: qs).getLast? = some r) : ps = qs := by
  have hstop {q : Int} : ¬Follows t r q := by
    rintro ⟨-, hq⟩
    rw [hr] at hq
    cases hq
  induction ps generalizing pos qs with
  | nil =>
      cases hpr
      cases qs with
      | nil => rfl
      | cons q qs => exact absurd (List.isChain_cons_cons.mp hqs).1 hstop
  | cons p ps ih =>
      obtain ⟨hp, hps⟩ := List.isChain_cons_cons.mp hps
      cases qs with
      | nil =>
          cases hqr
          exact absurd hp hstop
      | cons q qs =>
          obtain ⟨hq, hqs⟩ := List.isChain_cons_cons.mp hqs
          have hpq : p = q := by simpa [hp.2] using hq.2
          subst hpq
          rw [List.getLast?_cons_cons] at hpr hqr
          rw [ih hps hpr hqs hqr]

/-- A run of arguments ends for every position that stands for a place of the text, also one counted
from the end. It goes from group to group, in the only way there is, up to a place where none opens,
and from there on it is empty. A position before the start fails at once, and no later one does. -/
theorem argumentsEnd_chain (t : Text) (pos : Int) :
    (pos < -(t.length : Int) →
      groupEnd t pos = .error .beforeStart ∧ argumentsEnd t pos = .error .beforeStart) ∧
      (-(t.length : Int) ≤ pos →
        ∃ r, argumentsEnd t pos = .ok r ∧ pos ≤ r ∧ r ≤ max pos t.length ∧
          groupEnd t r = .ok none ∧
          (∃! ps, (pos :: ps).IsChain (Follows t) ∧ (pos :: ps).getLast? = some r) ∧
          (∀ p, pos ≤ p → ∃ stop, groupEnd t p = .ok stop) ∧
          argumentsEnd t r = .ok r) := by
  refine ⟨?_, ?_⟩
  · intro hpos
    rw [groupEnd, argumentsEnd, readFrom?_eq_none_iff.mpr hpos]
    exact ⟨rfl, rfl⟩
  · intro hpos
    have hread {p : Int} (hp : pos ≤ p) : ∃ u, readFrom? t p = some u := by
      rw [← Option.ne_none_iff_exists']
      intro hnone
      have hlt := readFrom?_eq_none_iff.mp hnone
      omega
    obtain ⟨u, hu⟩ := hread (Int.le_refl pos)
    have hrest := readFrom?_add hu (argumentsLength u)
    have hstop : groupEnd t (pos + argumentsLength u) = .ok none := by
      rw [groupEnd_of_read hrest, groupLength?_drop_arguments, Option.map_none]
    refine ⟨pos + argumentsLength u, by rw [argumentsEnd, hu], by omega, ?_, hstop, ?_, ?_, ?_⟩
    · have hlen := argumentsLength_le u
      have hmax := add_length_le_of_read hu
      omega
    · obtain ⟨ps, hchain, hlast⟩ := exists_chain hu
      refine ⟨ps, ⟨hchain, hlast⟩, ?_⟩
      rintro qs ⟨hqs, hqlast⟩
      exact chain_unique hstop hqs hqlast hchain hlast
    · intro p hp
      obtain ⟨v, hv⟩ := hread hp
      exact ⟨_, groupEnd_of_read hv⟩
    · rw [argumentsEnd, hrest]
      simp [argumentsLength_of_none (groupLength?_drop_arguments u)]

/-- From the last character on, the text is read from its start: the group that opens there is
closed by the second character, and the curly group behind it is the last argument. -/
theorem argumentsEnd_chain_wrapped :
    let t := "a]{b}[".toList
    argumentsEnd t (-1) = .ok 5 ∧ groupEnd t 5 = .ok none ∧
      (∃! ps, ((-1) :: ps).IsChain (Follows t) ∧ ((-1) :: ps).getLast? = some 5) ∧
      [-1, 2, 5].IsChain (Follows t) ∧ argumentsEnd t (-7) = .error .beforeStart := by
  intro t
  obtain ⟨r, hr, -, -, hstop, hchain, -⟩ := (argumentsEnd_chain t (-1)).2 (by decide)
  have hfive : argumentsEnd t (-1) = .ok 5 := by decide
  rw [hfive] at hr
  cases hr
  refine ⟨hfive, hstop, hchain, ?_, ((argumentsEnd_chain t (-7)).1 (by decide)).2⟩
  exact .cons_cons ⟨by decide, by decide⟩ (.cons_cons ⟨by decide, by decide⟩ (.singleton 5))

end TexReflow.Macro
