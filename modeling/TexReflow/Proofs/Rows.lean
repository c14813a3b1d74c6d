import TexReflow.Text.Rows

/-!
# Rows and breaks

No row holds a break, and rows without breaks are read back as they are, whichever break they are
written with. Behind a line feed rows start afresh, so that texts can be put together with one.
-/

namespace TexReflow.Text

private theorem forall_consHead {P : Char → Prop} {c : Char} {rs : List Text} (hc : P c)
    (hrs : ∀ r ∈ rs, ∀ d ∈ r, P d) : ∀ r ∈ consHead c rs, ∀ d ∈ r, P d := by
  cases rs with
  | nil => simpa [consHead] using hc
  | cons r rs =>
      rw [consHead, List.forall_mem_cons] at *
      exact ⟨List.forall_mem_cons.mpr ⟨hc, hrs.1⟩, hrs.2⟩

theorem not_isBreak_of_mem_rowsBy (isBreak : Char → Bool) (t : Text) :
    ∀ r ∈ rowsBy isBreak t, ∀ c ∈ r, isBreak c = false := by
  fun_induction rowsBy isBreak t with
  | case1 => simp
  | case2 t ih => simpa using ih
  | case3 c t _ hc ih => simpa using ih
  | case4 c t _ hc ih => exact forall_consHead (by simpa using hc) ih

/-- What holds of the characters of a text holds of those of its rows. -/
theorem forall_rowsBy {P : Char → Prop} (isBreak : Char → Bool) {t : Text} (h : ∀ c ∈ t, P c) :
    ∀ r ∈ rowsBy isBreak t, ∀ c ∈ r, P c := by
  fun_induction rowsBy isBreak t with
  | case1 => simp
  | case2 t ih => simpa using ih fun c hc => h c (by simp [hc])
  | case3 c t _ _ ih => simpa using ih (List.forall_mem_cons.mp h).2
  | case4 c t _ _ ih =>
      obtain ⟨hc, ht⟩ := List.forall_mem_cons.mp h
      exact forall_consHead hc (ih ht)

section

variable {isBreak : Char → Bool}

/-- A character that starts no pair of carriage return and line feed is looked at alone. -/
theorem rowsBy_cons {c : Char} {t : Text} (h : c = '\r' → t.head? ≠ some '\n') :
    rowsBy isBreak (c :: t) =
      if isBreak c then [] :: rowsBy isBreak t else consHead c (rowsBy isBreak t) := by
  rw [rowsBy]
  intro u hc ht
  exact h hc (by rw [ht]; rfl)

private theorem consHead_append (c : Char) {rs : List Text} (hrs : rs ≠ []) (ss : List Text) :
    consHead c (rs ++ ss) = consHead c rs ++ ss := by
  cases rs with
  | nil => exact absurd rfl hrs
  | cons r rs => rfl

private theorem consHead_ne_nil (c : Char) (rs : List Text) : consHead c rs ≠ [] := by
  cases rs <;> simp [consHead]

theorem rowsBy_ne_nil {t : Text} (ht : t ≠ []) : rowsBy isBreak t ≠ [] := by
  fun_cases rowsBy isBreak t with
  | case1 => exact absurd rfl ht
  | case2 t => exact List.cons_ne_nil _ _
  | case3 c t _ hc => exact List.cons_ne_nil _ _
  | case4 c t _ hc => exact consHead_ne_nil c _

private theorem rowsBy_lineFeed (hfeed : isBreak '\n' = true) (t : Text) :
    rowsBy isBreak ('\n' :: t) = [] :: rowsBy isBreak t := by
  have hreturn : '\n' = '\r' → t.head? ≠ some '\n' := fun h => absurd h (by decide)
  rw [rowsBy_cons hreturn, if_pos hfeed]

/-- What follows a line feed does not change how a text before it is taken apart, unless the text
ends in a carriage return. -/
private theorem rowsBy_cons_append {c : Char} {t : Text}
    (hpair : ∀ u, c = '\r' → t = '\n' :: u → False) (hlast : ¬(c = '\r' ∧ t = [])) (u : Text) :
    rowsBy isBreak (c :: (t ++ u)) = if isBreak c then [] :: rowsBy isBreak (t ++ u)
      else consHead c (rowsBy isBreak (t ++ u)) := by
  apply rowsBy_cons
  intro hc
  cases t with
  | nil => exact absurd ⟨hc, rfl⟩ hlast
  | cons d t =>
      intro hd
      exact hpair t hc (by rw [Option.some.inj hd])

/-- Behind a line feed rows start afresh. -/
theorem rowsBy_append_cons_lineFeed (hfeed : isBreak '\n' = true) (a b : Text) :
    rowsBy isBreak (a ++ '\n' :: b) = rowsBy isBreak (a ++ ['\n']) ++ rowsBy isBreak b := by
  fun_induction rowsBy isBreak a with
  | case1 =>
      rw [List.nil_append, List.nil_append, rowsBy_lineFeed hfeed, rowsBy_lineFeed hfeed]
      rfl
  | case2 t ih => simp only [List.cons_append, rowsBy, ih]
  | case3 c t hpair hc ih =>
      by_cases hlast : c = '\r' ∧ t = []
      · rw [hlast.1, hlast.2]
        simp [rowsBy]
      · rw [List.cons_append, List.cons_append, rowsBy_cons_append hpair hlast,
          rowsBy_cons_append hpair hlast, if_pos hc, if_pos hc, ih, List.cons_append]
  | case4 c t hpair hc ih =>
      by_cases hlast : c = '\r' ∧ t = []
      · rw [hlast.1, hlast.2]
        simp [rowsBy]
      · rw [List.cons_append, List.cons_append, rowsBy_cons_append hpair hlast,
          rowsBy_cons_append hpair hlast, if_neg hc, if_neg hc, ih,
          consHead_append c (rowsBy_ne_nil (by simp))]

/-- A line feed behind a text closes its last row, or it adds an empty row. -/
theorem rowsBy_append_lineFeed (hfeed : isBreak '\n' = true) (hreturn : isBreak '\r' = true)
    (a : Text) :
    rowsBy isBreak (a ++ ['\n']) = rowsBy isBreak a ∨
      rowsBy isBreak (a ++ ['\n']) = rowsBy isBreak a ++ [[]] := by
  fun_induction rowsBy isBreak a with
  | case1 => exact .inr (rowsBy_lineFeed hfeed [])
  | case2 t ih =>
      simp only [List.cons_append, rowsBy, List.cons.injEq, true_and]
      exact ih
  | case3 c t hpair hc ih =>
      by_cases hlast : c = '\r' ∧ t = []
      · rw [hlast.1, hlast.2]
        simp [rowsBy]
      · rw [List.cons_append, rowsBy_cons_append hpair hlast, if_pos hc]
        exact ih.imp (congrArg _) (congrArg _)
  | case4 c t hpair hc ih =>
      have hlast : ¬(c = '\r' ∧ t = []) := by
        intro h
        rw [h.1] at hc
        exact hc hreturn
      rw [List.cons_append, rowsBy_cons_append hpair hlast, if_neg hc]
      rcases ih with ih | ih
      · exact .inl (by rw [ih])
      · rw [ih]
        by_cases hnil : rowsBy isBreak t = []
        · rw [hnil]
          exact .inl rfl
        · exact .inr (consHead_append c hnil [[]])

end

theorem lines_append_lineFeed (t : Text) :
    (t ++ ['\n']).lines = t.lines ∨ (t ++ ['\n']).lines = t.lines ++ [[]] :=
  rowsBy_append_lineFeed rfl rfl t

/-- The breaks that a row can be closed with. -/
def rowBreaks : List Text := [['\n'], ['\r'], ['\r', '\n']]

/-- A break closes a row without breaks. Only a carriage return depends on what follows. -/
private theorem rows_append_break {newline : Text} (hnewline : newline ∈ rowBreaks) {r t : Text}
    (hr : ∀ c ∈ r, isRowBreak c = false) (ht : newline = ['\r'] → t.head? ≠ some '\n') :
    rows (r ++ (newline ++ t)) = r :: rows t := by
  induction r with
  | nil =>
      simp only [rowBreaks, List.mem_cons, List.not_mem_nil, or_false] at hnewline
      rcases hnewline with rfl | rfl | rfl
      · rfl
      · exact rowsBy_cons fun _ => ht rfl
      · rfl
  | cons c r ih =>
      obtain ⟨hc, hr⟩ := List.forall_mem_cons.mp hr
      have hreturn : c = '\r' → (r ++ (newline ++ t)).head? ≠ some '\n' := by
        intro h
        subst h
        cases hc
      rw [List.cons_append, rows, rowsBy_cons hreturn, hc, if_neg (by simp), ← rows, ih hr]
      rfl

private theorem head_unrows_return {rs : List Text} (h : ∀ r ∈ rs, ∀ c ∈ r, isRowBreak c = false) :
    (unrows ['\r'] rs).head? ≠ some '\n' := by
  intro hhead
  cases rs with
  | nil => cases hhead
  | cons r rs =>
      cases r with
      | nil => cases hhead
      | cons c r =>
          cases hhead
          cases h _ List.mem_cons_self _ List.mem_cons_self

/-- Rows that are written with breaks behind them are read back. -/
theorem rows_unrows {newline : Text} (hnewline : newline ∈ rowBreaks) {rs : List Text}
    (h : ∀ r ∈ rs, ∀ c ∈ r, isRowBreak c = false) : rows (unrows newline rs) = rs := by
  induction rs with
  | nil => rfl
  | cons r rs ih =>
      obtain ⟨hr, hrs⟩ := List.forall_mem_cons.mp h
      have hreturn : newline = ['\r'] → (unrows newline rs).head? ≠ some '\n' := by
        rintro rfl
        exact head_unrows_return hrs
      rw [unrows, List.flatMap_cons, List.append_assoc, ← unrows,
        rows_append_break hnewline hr hreturn, ih hrs]

end TexReflow.Text
