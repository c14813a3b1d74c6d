import Mathlib.Data.List.TakeWhile
import TexReflow.Text.Basic

/-!
# Spacing

Trimming takes white space from the two ends of a text and nothing else, and collapsing keeps the
first of several spaces. Both leave a text alone that has the form they produce, and collapsing
keeps the trimmed form.
-/

namespace TexReflow.Text

@[simp] theorem isBlank_nil : isBlank [] = true := rfl

@[simp] theorem isBlank_cons (c : Char) (t : Text) :
    isBlank (c :: t) = (isSpace c && isBlank t) := rfl

@[simp] theorem isBlank_append (a b : Text) : isBlank (a ++ b) = (isBlank a && isBlank b) :=
  List.all_append

@[simp] theorem isBlank_reverse (t : Text) : isBlank t.reverse = isBlank t := List.all_reverse

private theorem dropWhile_isBlank_append {a : Text} (ha : a.isBlank = true) (t : Text) :
    (a ++ t).dropWhile isSpace = t.dropWhile isSpace :=
  List.dropWhile_append_of_pos (List.all_eq_true.mp ha)

private theorem exists_dropWhile (t : Text) :
    ∃ a : Text, a.isBlank = true ∧ t = a ++ t.dropWhile isSpace := by
  refine ⟨t.takeWhile isSpace, ?_, List.takeWhile_append_dropWhile.symm⟩
  exact List.all_eq_true.mpr fun c hc => List.mem_takeWhile_imp hc

/-- Trimming removes blank texts at the two ends. -/
theorem exists_trim (t : Text) :
    ∃ a b : Text, a.isBlank = true ∧ b.isBlank = true ∧ t = a ++ t.trim ++ b := by
  obtain ⟨a, ha, hleft⟩ := exists_dropWhile t
  obtain ⟨b, hb, hright⟩ := exists_dropWhile t.trimLeft.reverse
  refine ⟨a, b.reverse, ha, by rwa [isBlank_reverse], ?_⟩
  have hmid : t.trimLeft = t.trim ++ b.reverse := by
    rw [trim, trimRight, ← List.reverse_append, ← hright, List.reverse_reverse]
  rw [List.append_assoc, ← hmid]
  exact hleft

/-- A text is trimmed if white space stands at neither end. -/
theorem trim_eq_self {t : Text} (hhead : ∀ c ∈ t.head?, isSpace c = false)
    (hlast : ∀ c ∈ t.getLast?, isSpace c = false) : t.trim = t := by
  have hkeep {u : Text} (hu : ∀ c ∈ u.head?, isSpace c = false) : u.dropWhile isSpace = u := by
    cases u with
    | nil => rfl
    | cons c u =>
        have hc : isSpace c = false := hu c (by simp)
        exact List.dropWhile_cons_of_neg (by simp [hc])
  have hleft : t.trimLeft = t := hkeep hhead
  have hright : t.reverse.dropWhile isSpace = t.reverse := hkeep (by rwa [List.head?_reverse])
  rw [trim, hleft, trimRight, hright, List.reverse_reverse]

theorem head_trim (t : Text) : ∀ c ∈ t.trim.head?, isSpace c = false := by
  intro c hc
  have hleft : c ∈ t.trimLeft.head? := by
    obtain ⟨b, -, hb⟩ := exists_dropWhile t.trimLeft.reverse
    have hmid : t.trimLeft = t.trim ++ b.reverse := by
      rw [trim, trimRight, ← List.reverse_append, ← hb, List.reverse_reverse]
    rw [hmid, List.head?_append, Option.mem_def.mp hc]
    rfl
  have hnot := List.head?_dropWhile_not isSpace t
  rw [show t.dropWhile isSpace = t.trimLeft from rfl, Option.mem_def.mp hleft] at hnot
  simpa using hnot

theorem getLast_trim (t : Text) : ∀ c ∈ t.trim.getLast?, isSpace c = false := by
  intro c hc
  have hnot := List.head?_dropWhile_not isSpace t.trimLeft.reverse
  rw [trim, trimRight, List.getLast?_reverse] at hc
  rw [Option.mem_def.mp hc] at hnot
  simpa using hnot

@[simp] theorem trim_trim (t : Text) : t.trim.trim = t.trim :=
  trim_eq_self (head_trim t) (getLast_trim t)

theorem trim_eq_nil_iff (t : Text) : t.trim = [] ↔ t.isBlank = true := by
  constructor
  · intro h
    obtain ⟨a, b, ha, hb, ht⟩ := exists_trim t
    rw [ht, h]
    simp [ha, hb]
  · intro h
    have hleft : t.trimLeft = [] := by
      rw [trimLeft, List.dropWhile_eq_nil_iff]
      exact List.all_eq_true.mp h
    rw [trim, hleft]
    rfl

@[simp] theorem isEmpty_trim (t : Text) : t.trim.isEmpty = t.isBlank := by
  rw [Bool.eq_iff_iff, List.isEmpty_iff, trim_eq_nil_iff]

@[simp] theorem isBlank_trim (t : Text) : t.trim.isBlank = t.isBlank := by
  obtain ⟨a, b, ha, hb, ht⟩ := exists_trim t
  have hall : t.isBlank = (a ++ t.trim ++ b).isBlank := congrArg isBlank ht
  rw [hall]
  simp [ha, hb]

theorem mem_of_mem_trim {t : Text} {c : Char} (h : c ∈ t.trim) : c ∈ t := by
  obtain ⟨a, b, -, -, ht⟩ := exists_trim t
  rw [ht]
  simp [h]

private theorem dropWhile_append_of_not_blank {t : Text} (ht : t.isBlank = false) (u : Text) :
    (t ++ u).dropWhile isSpace = t.dropWhile isSpace ++ u := by
  have hne : (t.dropWhile isSpace).isEmpty = false := by
    rw [Bool.eq_false_iff]
    intro hempty
    rw [List.isEmpty_iff, List.dropWhile_eq_nil_iff] at hempty
    rw [isBlank, List.all_eq_true.mpr hempty] at ht
    cases ht
  rw [List.dropWhile_append, hne]
  rfl

/-- White space at the ends does not count. -/
theorem trim_append_blank {a b : Text} (ha : a.isBlank = true) (hb : b.isBlank = true) (t : Text) :
    (a ++ t ++ b).trim = t.trim := by
  by_cases ht : t.isBlank = true
  · rw [(trim_eq_nil_iff t).mpr ht]
    exact (trim_eq_nil_iff _).mpr (by simp [ha, hb, ht])
  · have hleft : (a ++ t ++ b).trimLeft = t.trimLeft ++ b := by
      rw [trimLeft, List.append_assoc, dropWhile_isBlank_append ha,
        dropWhile_append_of_not_blank (by simpa using ht)]
      rfl
    rw [trim, trim, hleft, trimRight, trimRight, List.reverse_append,
      dropWhile_isBlank_append (by rwa [isBlank_reverse])]

/-- Without white space at its end a text is trimmed at its start only. -/
theorem exists_trim_left {t : Text} (ht : ∀ c ∈ t.getLast?, isSpace c = false) :
    ∃ a : Text, a.isBlank = true ∧ t = a ++ t.trim := by
  obtain ⟨a, b, ha, hb, hab⟩ := exists_trim t
  have hnil : b = [] := by
    cases hlast : b.getLast? with
    | none => exact List.getLast?_eq_none_iff.mp hlast
    | some c =>
        have hc : isSpace c = true := List.all_eq_true.mp hb c (List.mem_of_getLast? hlast)
        rw [ht c (by rw [hab, List.getLast?_append, hlast]; rfl)] at hc
        cases hc
  rw [hnil, List.append_nil] at hab
  exact ⟨a, ha, hab⟩

/-- Without white space at its start a text is trimmed at its end only. -/
theorem exists_trim_right {t : Text} (ht : ∀ c ∈ t.head?, isSpace c = false) :
    ∃ b : Text, b.isBlank = true ∧ t = t.trim ++ b := by
  obtain ⟨a, b, ha, hb, hab⟩ := exists_trim t
  have hnil : a = [] := by
    cases a with
    | nil => rfl
    | cons c a =>
        rw [isBlank_cons, Bool.and_eq_true] at ha
        rw [ht c (by rw [hab]; rfl)] at ha
        cases ha.1
  rw [hnil, List.nil_append] at hab
  exact ⟨b, hb, hab⟩

/-- A text without white space at its end may be trimmed before another one is put behind it. -/
theorem trim_trim_append {t : Text} (ht : ∀ c ∈ t.getLast?, isSpace c = false) (u : Text) :
    (t.trim ++ u).trim = (t ++ u).trim := by
  obtain ⟨a, ha, hat⟩ := exists_trim_left ht
  have hall : t ++ u = a ++ (t.trim ++ u) ++ [] := by
    rw [List.append_nil, ← List.append_assoc, ← hat]
  rw [hall, trim_append_blank ha isBlank_nil]

/-- A text without white space at its start may be trimmed before it is put behind another one. -/
theorem trim_append_trim {t : Text} (ht : ∀ c ∈ t.head?, isSpace c = false) (u : Text) :
    (u ++ t.trim).trim = (u ++ t).trim := by
  obtain ⟨b, hb, htb⟩ := exists_trim_right ht
  have hall : u ++ t = [] ++ (u ++ t.trim) ++ b := by
    rw [List.nil_append, List.append_assoc, ← htb]
  rw [hall, trim_append_blank isBlank_nil hb]

/-- What stands between texts that are not blank is not trimmed away. -/
theorem mem_trim_append_cons {a b : Text} (ha : a.isBlank = false) (hb : b.isBlank = false)
    (c : Char) : c ∈ (a ++ c :: b).trim := by
  rw [trim, trimLeft, dropWhile_append_of_not_blank ha, trimRight, List.append_cons,
    List.reverse_append, dropWhile_append_of_not_blank (by rwa [isBlank_reverse])]
  simp

theorem mem_of_mem_collapse {t : Text} {c : Char} (h : c ∈ t.collapse) : c ∈ t := by
  fun_induction collapse t with
  | case1 => exact h
  | case2 d => exact h
  | case3 d e t hde ih => exact List.mem_cons_of_mem _ (ih h)
  | case4 d e t hde ih =>
      rcases List.mem_cons.mp h with rfl | h
      · exact List.mem_cons_self
      · exact List.mem_cons_of_mem _ (ih h)

theorem head_collapse (t : Text) : t.collapse.head? = t.head? := by
  fun_induction collapse t with
  | case1 => rfl
  | case2 c => rfl
  | case3 c d t h ih => rw [ih, h.1, h.2]; rfl
  | case4 c d t h ih => rfl

theorem getLast_collapse (t : Text) : t.collapse.getLast? = t.getLast? := by
  fun_induction collapse t with
  | case1 => rfl
  | case2 c => rfl
  | case3 c d t h ih => rw [ih, List.getLast?_cons_cons]
  | case4 c d t h ih =>
      rw [List.getLast?_cons, ih, List.getLast?_cons_cons, List.getLast?_cons]
      rfl

/-- Collapsing keeps a text trimmed. -/
theorem trim_collapse {t : Text} (h : t.trim = t) : t.collapse.trim = t.collapse := by
  apply trim_eq_self
  · rw [head_collapse, ← h]
    exact head_trim t
  · rw [getLast_collapse, ← h]
    exact getLast_trim t

@[simp] theorem isBlank_collapse (t : Text) : t.collapse.isBlank = t.isBlank := by
  fun_induction collapse t with
  | case1 => rfl
  | case2 c => rfl
  | case3 c d t h ih =>
      have hc : isSpace c = true := by rw [h.1]; rfl
      rw [ih, isBlank_cons c, hc, Bool.true_and]
  | case4 c d t h ih => rw [isBlank_cons c, isBlank_cons c, ih]

@[simp] theorem collapse_collapse (t : Text) : t.collapse.collapse = t.collapse := by
  fun_induction collapse t with
  | case1 => rfl
  | case2 c => rfl
  | case3 c d t h ih => exact ih
  | case4 c d t h ih =>
      -- What follows is not empty and starts with `d`, so the two heads are compared again.
      obtain ⟨u, hu⟩ : ∃ u, collapse (d :: t) = d :: u := by
        have hhead := head_collapse (d :: t)
        cases hcol : collapse (d :: t) with
        | nil => rw [hcol] at hhead; cases hhead
        | cons e u =>
            rw [hcol] at hhead
            exact ⟨u, by rw [Option.some.inj hhead]⟩
      rw [hu] at ih ⊢
      rw [collapse, if_neg h, ih]

end TexReflow.Text
