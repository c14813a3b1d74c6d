import TexReflow.Proofs.Spacing

/-!
# Words

The words of a text are the maximal runs of characters other than white space. Trimming, collapsing
and cutting at white space keep the words; white space put into a text can only cut them.
-/

namespace TexReflow

/-- The maximal runs of elements between those that satisfy `p`. -/
def runs {α : Type} (p : α → Bool) (xs : List α) : List (List α) :=
  (xs.splitOnP p).filter (!·.isEmpty)

@[simp] theorem runs_nil {α : Type} (p : α → Bool) : runs p ([] : List α) = [] := by
  simp [runs, List.splitOnP_nil]

theorem runs_append_cons {α : Type} {p : α → Bool} (xs ys : List α) {s : α} (hs : p s = true) :
    runs p (xs ++ s :: ys) = runs p xs ++ runs p ys := by
  rw [runs, List.splitOnP_append_cons xs ys hs, List.filter_append]
  rfl

theorem runs_cons {α : Type} {p : α → Bool} (ys : List α) {s : α} (hs : p s = true) :
    runs p (s :: ys) = runs p ys := by
  have h := runs_append_cons [] ys hs
  rwa [runs_nil, List.nil_append, List.nil_append] at h

theorem runs_of_forall {α : Type} {p : α → Bool} {xs : List α} (hne : xs ≠ [])
    (h : ∀ x ∈ xs, p x = false) : runs p xs = [xs] := by
  rw [runs, List.splitOnP_eq_singleton h]
  simp [hne]

/-- Each of the first words is the concatenation of one or more of the second words. Those are
taken in order, and all of them are used. -/
inductive CutInto : List Text → List Text → Prop
  | nil : CutInto [] []
  | cons (g : List Text) {ws us : List Text} (hg : g ≠ []) (h : CutInto ws us) :
      CutInto (g.flatten :: ws) (g ++ us)

namespace CutInto

theorem refl (ws : List Text) : CutInto ws ws := by
  induction ws with
  | nil => exact .nil
  | cons w ws ih =>
      have h := cons [w] (by simp) ih
      rwa [List.flatten_singleton] at h

theorem append {ws us ws' us' : List Text} (h : CutInto ws us) (h' : CutInto ws' us') :
    CutInto (ws ++ ws') (us ++ us') := by
  induction h with
  | nil => exact h'
  | cons g hg _ ih =>
      rw [List.append_assoc]
      exact cons g hg ih

theorem flatten_eq {ws us : List Text} (h : CutInto ws us) : ws.flatten = us.flatten := by
  induction h with
  | nil => rfl
  | cons g _ _ ih => rw [List.flatten_cons, List.flatten_append, ih]

theorem eq_nil_iff {ws us : List Text} (h : CutInto ws us) : ws = [] ↔ us = [] := by
  cases h with
  | nil => exact Iff.rfl
  | cons g hg _ => simp [hg]

theorem exists_append {ws ws' us : List Text} (h : CutInto (ws ++ ws') us) :
    ∃ u v, us = u ++ v ∧ CutInto ws u ∧ CutInto ws' v := by
  induction ws generalizing us with
  | nil => exact ⟨[], us, rfl, .nil, h⟩
  | cons w ws ih =>
      cases h with
      | cons g hg hrest =>
          obtain ⟨u, v, rfl, hu, hv⟩ := ih hrest
          exact ⟨g ++ u, v, (List.append_assoc g u v).symm, cons g hg hu, hv⟩

theorem trans {ws us vs : List Text} (h : CutInto ws us) (h' : CutInto us vs) :
    CutInto ws vs := by
  induction h generalizing vs with
  | nil => exact h'
  | cons g hg _ ih =>
      obtain ⟨u, v, rfl, hu, hv⟩ := exists_append h'
      rw [flatten_eq hu]
      exact cons u (fun hnil => hg (hu.eq_nil_iff.mpr hnil)) (ih hv)

end CutInto

namespace Text

/-- The words of a text. -/
def words (t : Text) : List Text := runs isSpace t

@[simp] theorem words_nil : words [] = [] := runs_nil isSpace

theorem words_append_cons (a b : Text) {c : Char} (hc : isSpace c = true) :
    words (a ++ c :: b) = words a ++ words b := runs_append_cons a b hc

theorem words_cons (b : Text) {c : Char} (hc : isSpace c = true) : words (c :: b) = words b :=
  runs_cons b hc

theorem words_blank_append {w : Text} (hw : w.isBlank = true) (t : Text) :
    words (w ++ t) = words t := by
  induction w with
  | nil => rfl
  | cons c w ih =>
      rw [isBlank_cons, Bool.and_eq_true] at hw
      rw [List.cons_append, words_cons _ hw.1, ih hw.2]

theorem words_of_blank {w : Text} (hw : w.isBlank = true) : words w = [] := by
  have h := words_blank_append hw []
  rwa [List.append_nil, words_nil] at h

/-- White space between two texts separates their words. -/
theorem words_append_gap (a b : Text) {gap : Text} (hne : gap ≠ []) (hg : gap.isBlank = true) :
    words (a ++ (gap ++ b)) = words a ++ words b := by
  cases gap with
  | nil => exact absurd rfl hne
  | cons c gap =>
      rw [isBlank_cons, Bool.and_eq_true] at hg
      rw [List.cons_append, words_append_cons a _ hg.1, words_blank_append hg.2]

theorem words_append_blank (a : Text) {w : Text} (hw : w.isBlank = true) :
    words (a ++ w) = words a := by
  cases w with
  | nil => rw [List.append_nil]
  | cons c w =>
      have h := words_append_gap a [] (List.cons_ne_nil c w) hw
      rwa [List.append_nil, words_nil, List.append_nil] at h

@[simp] theorem words_trim (t : Text) : words t.trim = words t := by
  obtain ⟨a, b, ha, hb, ht⟩ := exists_trim t
  have h : words (a ++ t.trim ++ b) = words t.trim := by
    rw [words_append_blank _ hb, words_blank_append ha]
  rw [← h, ← ht]

private theorem words_append_collapse (a t : Text) : words (a ++ t.collapse) = words (a ++ t) := by
  -- The text before is any one, so that a character kept can be moved into it.
  fun_induction collapse t generalizing a with
  | case1 => rfl
  | case2 c => rfl
  | case3 c d t h ih =>
      have hd : isSpace d = true := by rw [h.2]; rfl
      have hc : isSpace c = true := by rw [h.1]; rfl
      rw [ih, words_append_cons a _ hc, words_append_cons a _ hd, words_cons _ hd]
  | case4 c d t h ih =>
      have hstep := ih (a ++ [c])
      rwa [List.append_assoc, List.append_assoc] at hstep

@[simp] theorem words_collapse (t : Text) : words t.collapse = words t :=
  words_append_collapse [] t

/-- A text without white space, or one cut at its first white space. -/
private theorem letters_or_space (t : Text) :
    (∀ c ∈ t, isSpace c = false) ∨
      ∃ x c r, t = x ++ c :: r ∧ isSpace c = true ∧ ∀ d ∈ x, isSpace d = false := by
  induction t with
  | nil => exact .inl (by simp)
  | cons c t ih =>
      by_cases hc : isSpace c = true
      · exact .inr ⟨[], c, t, rfl, hc, by simp⟩
      · rw [Bool.not_eq_true] at hc
        rcases ih with hall | ⟨x, d, r, rfl, hd, hx⟩
        · exact .inl (by simpa [hc] using hall)
        · exact .inr ⟨c :: x, d, r, rfl, hd, by simpa [hc] using hx⟩

private theorem words_letters_append {a b : Text} (ha : ∀ c ∈ a, isSpace c = false)
    (hb : ∀ c ∈ b, isSpace c = false) : CutInto (words (a ++ b)) (words a ++ words b) := by
  by_cases hane : a = []
  · subst hane
    exact .refl _
  by_cases hbne : b = []
  · subst hbne
    rw [List.append_nil, words_nil, List.append_nil]
    exact .refl _
  · have hab : ∀ c ∈ a ++ b, isSpace c = false := by
      intro c hc
      exact (List.mem_append.mp hc).elim (ha c) (hb c)
    rw [words, runs_of_forall (by simp [hane]) hab, words, runs_of_forall hane ha, words,
      runs_of_forall hbne hb]
    have h := CutInto.cons [a, b] (by simp) .nil
    rwa [List.flatten_cons, List.flatten_singleton, List.append_nil] at h

/-- A cut between two texts can only cut a word. -/
theorem words_append (a b : Text) : CutInto (words (a ++ b)) (words a ++ words b) := by
  rcases letters_or_space a with ha | ⟨x, c, r, rfl, hc, -⟩
  · rcases letters_or_space b with hb | ⟨y, d, s, rfl, hd, hy⟩
    · exact words_letters_append ha hb
    · have h := (words_letters_append ha hy).append (.refl (words s))
      rwa [← List.append_assoc, words_append_cons _ s hd, words_append_cons _ s hd,
        ← List.append_assoc]
  · have h := (CutInto.refl (words x)).append (words_append r b)
    rwa [List.append_assoc, List.cons_append, words_append_cons x _ hc, words_append_cons x _ hc,
      List.append_assoc]
termination_by a.length
decreasing_by
  subst_vars
  simp only [List.length_append, List.length_cons]
  omega

/-- A text is blank when it has no words. -/
theorem words_eq_nil_iff (t : Text) : words t = [] ↔ t.isBlank = true := by
  constructor
  · intro h
    rcases letters_or_space t with hall | ⟨x, c, r, rfl, hc, hx⟩
    · by_cases hne : t = []
      · subst hne
        rfl
      · rw [words, runs_of_forall hne hall] at h
        cases h
    · rw [words_append_cons x r hc, List.append_eq_nil_iff] at h
      by_cases hne : x = []
      · subst hne
        rw [List.nil_append, isBlank_cons, hc, (words_eq_nil_iff r).mp h.2]
        rfl
      · rw [words, runs_of_forall hne hx] at h
        cases h.1
  · exact words_of_blank
termination_by t.length
decreasing_by
  subst_vars
  simp only [List.length_append, List.length_cons]
  omega

end Text

end TexReflow
