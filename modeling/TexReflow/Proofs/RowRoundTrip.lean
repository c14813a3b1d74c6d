import TexReflow.Line
import TexReflow.Proofs.Replacement
import TexReflow.Proofs.Rows

/-!
# Rows written and read

Reading undoes writing, whichever break the rows are closed with. The other way round the breaks of
a text become line feeds, and a last row that nothing closes is closed. No more than that is lost:
the normal form has the rows of the text.
-/

namespace TexReflow.Text

/-- A character that starts no pair of carriage return and line feed is written alone. -/
theorem unifyBreaks_cons {c : Char} {t : Text} (h : c = '\r' → t.head? ≠ some '\n') :
    unifyBreaks (c :: t) = (if c = '\r' then '\n' else c) :: unifyBreaks t := by
  rw [unifyBreaks]
  intro u hc ht
  exact h hc (by rw [ht]; rfl)

/-- Pairs are replaced first and what is left of carriage returns afterwards. -/
theorem unifyBreaks_eq_replace (t : Text) :
    unifyBreaks t = replace ['\r'] ['\n'] (replace ['\r', '\n'] ['\n'] t) := by
  induction t using replace_induction (List.cons_ne_nil '\r' ['\n']) with
  | nil => rfl
  | occurrence t ih =>
      rw [replace_append _ (by simp), List.singleton_append, replace_cons _ (by simp), ← ih]
      rfl
  | other c t h ih =>
      have hpair : c = '\r' → t.head? ≠ some '\n' := by
        rintro rfl hhead
        obtain ⟨u, rfl⟩ := List.head?_eq_some_iff.mp hhead
        exact h (List.prefix_append ['\r', '\n'] u)
      rw [replace_cons _ h, unifyBreaks_cons hpair, ih]
      by_cases hc : c = '\r'
      · subst hc
        exact (replace_append ['\n'] (List.cons_ne_nil _ _) _).symm
      · rw [replace_cons _ (by simp [Ne.symm hc]), if_neg hc]

/-- The break that closes the last row of a text, if it has a last row that none closes. -/
def missingBreak (t : Text) : Text := if t.getLast?.all isRowBreak then [] else ['\n']

theorem missingBreak_cons {c : Char} {t : Text} (h : isRowBreak c = true ∨ t ≠ []) :
    missingBreak (c :: t) = missingBreak t := by
  cases t with
  | nil => simp [missingBreak, h.resolve_right (by simp)]
  | cons d t => rw [missingBreak, List.getLast?_cons_cons, missingBreak]

theorem unrows_consHead (newline : Text) (c : Char) {rs : List Text} (hrs : rs ≠ []) :
    unrows newline (consHead c rs) = c :: unrows newline rs := by
  cases rs with
  | nil => exact absurd rfl hrs
  | cons r rs => rfl

/-- Rows written with line feeds: the breaks of the text are unified, and its last row is closed. -/
theorem unrows_rows (t : Text) : unrows ['\n'] (rows t) = unifyBreaks t ++ missingBreak t := by
  unfold rows
  fun_induction rowsBy isRowBreak t with
  | case1 => rfl
  | case2 t ih =>
      rw [missingBreak_cons (.inl rfl), missingBreak_cons (.inl rfl), unifyBreaks, List.cons_append,
        ← ih]
      rfl
  | case3 c t hpair hc ih =>
      have hfeed : (if c = '\r' then '\n' else c) = '\n' := by
        rcases (by simpa [isRowBreak] using hc : c = '\n' ∨ c = '\r') with rfl | rfl <;> rfl
      rw [missingBreak_cons (.inl hc), unifyBreaks, hfeed, List.cons_append, ← ih]
      · rfl
      · exact hpair
  | case4 c t hpair hc ih =>
      have hkept : (if c = '\r' then '\n' else c) = c := by
        refine if_neg fun h => hc ?_
        rw [h]
        rfl
      rw [unifyBreaks, hkept]
      · by_cases ht : t = []
        · -- The character is the last one, so the row it starts has no break behind it.
          subst ht
          simp [consHead, rowsBy, unrows, unifyBreaks, missingBreak, hc]
        · rw [unrows_consHead _ _ (rowsBy_ne_nil ht), missingBreak_cons (.inr ht), ih,
            List.cons_append]
      · exact hpair

theorem rows_unifyBreaks (t : Text) : rows (unifyBreaks t) = rows t := by
  fun_induction unifyBreaks t with
  | case1 => rfl
  | case2 t ih => exact congrArg ([] :: ·) ih
  | case3 c t hpair ih =>
      have hread : rows (c :: t) = if isRowBreak c then [] :: rows t else consHead c (rows t) := by
        rw [rows, rowsBy]
        · rfl
        · exact hpair
      have hkept {d : Char} (hd : d ≠ '\r') (u : Text) :
          rows (d :: u) = if isRowBreak d then [] :: rows u else consHead d (rows u) :=
        rowsBy_cons fun h => absurd h hd
      rw [hread, ← ih]
      by_cases hc : c = '\r'
      · rw [if_pos hc, hc]
        exact hkept (by decide) _
      · rw [if_neg hc]
        exact hkept hc _

/-- Lines without breaks are read back from the text they are written to. Rows that are read and
written again give the text with its breaks unified and its last row closed; they have no breaks,
and they are the rows of that text too. -/
theorem rows_roundTrip :
    (∀ (newline : Text) (ls : List Line), newline ∈ rowBreaks →
      (∀ l ∈ ls, ∀ c ∈ l.content, isRowBreak c = false) →
        rows (Line.join newline ls) = ls.map (·.content)) ∧
    ∀ t : Text, Line.join ['\n'] (t.rows.map Line.ofRow) = t.unifyBreaks ++ missingBreak t ∧
      t.unifyBreaks = replace ['\r'] ['\n'] (replace ['\r', '\n'] ['\n'] t) ∧
      (∀ r ∈ t.rows, ∀ c ∈ r, isRowBreak c = false) ∧
      t.unifyBreaks.rows = t.rows ∧ (t.unifyBreaks ++ missingBreak t).rows = t.rows := by
  constructor
  · intro newline ls hnewline hls
    exact rows_unrows hnewline (List.forall_mem_map.mpr hls)
  · intro t
    have hrows : ∀ r ∈ t.rows, ∀ c ∈ r, isRowBreak c = false := not_isBreak_of_mem_rowsBy _ t
    have hjoin : Line.join ['\n'] (t.rows.map Line.ofRow) = unrows ['\n'] t.rows := by
      simp [Line.join, Line.ofRow, Function.comp_def]
    refine ⟨hjoin.trans (unrows_rows t), unifyBreaks_eq_replace t, hrows, rows_unifyBreaks t, ?_⟩
    rw [← unrows_rows, rows_unrows (by decide) hrows]

/-- Empty rows at the start and at the end are read back from between carriage returns. A carriage
return between two pairs is a break of its own, and so is each of the two in reverse order. -/
theorem rows_roundTrip_return :
    let ls : List Line := [.ofRow [], { content := ['a'], comment := true }, .ofRow [], .ofRow []]
    ['\r'] ∈ rowBreaks ∧ (∀ l ∈ ls, ∀ c ∈ l.content, isRowBreak c = false) ∧
      rows (Line.join ['\r'] ls) = [[], ['a'], [], []] ∧
      Line.join ['\n'] ((rows "\r\n\r\r\na\n\rb".toList).map Line.ofRow) =
        "\n\n\na\n\nb\n".toList := by
  intro ls
  have hnewline : ['\r'] ∈ rowBreaks := by decide
  have hls : ∀ l ∈ ls, ∀ c ∈ l.content, isRowBreak c = false := by
    simp [ls, Line.ofRow, isRowBreak]
  obtain ⟨hread, hwrite⟩ := rows_roundTrip
  exact ⟨hnewline, hls, hread ['\r'] ls hnewline hls, (hwrite _).1.trans (by decide)⟩

end TexReflow.Text
