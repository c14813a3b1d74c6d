import TexReflow.Comment
import TexReflow.Proofs.Spacing

/-!
# Comments

How the cut before a comment behaves when texts are put together: behind a comment nothing matters,
and white space without a comment before it starts afresh. The live characters of a text are those
before its comment, white space left out; the dead ones are those of the comment.
-/

namespace TexReflow.Comment

theorem splitFrom_append (escaped : Bool) (t : Text) :
    (splitFrom escaped t).1 ++ (splitFrom escaped t).2 = t := by
  fun_induction splitFrom escaped t with
  | case1 escaped => rfl
  | case2 escaped c t h => rfl
  | case3 escaped c t h text comment hrest ih =>
      rw [hrest] at ih
      rw [List.cons_append, ih]

/-- The cut loses nothing. -/
theorem split_append (t : Text) : (split t).1 ++ (split t).2 = t := splitFrom_append false t

private theorem splitFrom_cons_percent (t : Text) :
    splitFrom false ('%' :: t) = ([], '%' :: t) := by
  simp [splitFrom]

private theorem splitFrom_cons (escaped : Bool) {c : Char} (t : Text)
    (h : (c = '%' && !escaped) = false) :
    splitFrom escaped (c :: t) =
      (c :: (splitFrom (c = '\\') t).1, (splitFrom (c = '\\') t).2) := by
  rw [splitFrom, if_neg (by simp [h])]

/-- A backslash before a text counts only if a percent sign comes first. -/
theorem splitFrom_eq_split {t : Text} (h : t.head? ≠ some '%') (escaped : Bool) :
    splitFrom escaped t = split t := by
  cases t with
  | nil => rfl
  | cons c t =>
      have hc : c ≠ '%' := by simpa using h
      rw [split, splitFrom_cons _ t (by simp [hc]), splitFrom_cons _ t (by simp [hc])]

private theorem splitFrom_cons_space {escaped : Bool} {c : Char} (t : Text)
    (hc : Text.isSpace c = true) :
    splitFrom escaped (c :: t) = (c :: (split t).1, (split t).2) := by
  have hpercent : c ≠ '%' := by
    intro h
    subst h
    exact absurd hc (by decide)
  have hslash : c ≠ '\\' := by
    intro h
    subst h
    exact absurd hc (by decide)
  rw [splitFrom_cons _ t (by simp [hpercent])]
  simp [split, hslash]

/-- A backslash stands directly before the place behind a text. The flag says so of the place before
the text. -/
def slashBehind : (escaped : Bool) → Text → Bool
  | escaped, [] => escaped
  | _, c :: t => slashBehind (c = '\\') t

theorem slashBehind_eq_true_iff (t : Text) :
    slashBehind false t = true ↔ t.getLast? = some '\\' := by
  have hlast (escaped : Bool) : slashBehind escaped t = t.getLast?.elim escaped (· = '\\') := by
    induction t generalizing escaped with
    | nil => rfl
    | cons c t ih =>
        rw [slashBehind, ih, List.getLast?_cons]
        cases t.getLast? <;> rfl
  rw [hlast]
  cases t.getLast? <;> simp

/-- Behind a text without a comment all that counts is a backslash at its end. -/
private theorem splitFrom_append_clean {escaped : Bool} {a : Text} (b : Text)
    (ha : (splitFrom escaped a).2 = []) :
    splitFrom escaped (a ++ b) = (a ++ (splitFrom (slashBehind escaped a) b).1,
      (splitFrom (slashBehind escaped a) b).2) := by
  induction a generalizing escaped with
  | nil => rfl
  | cons d a ih =>
      by_cases hd : (d = '%' && !escaped) = true
      · rw [splitFrom, if_pos hd] at ha
        cases ha
      · rw [Bool.not_eq_true] at hd
        rw [splitFrom_cons _ a hd] at ha
        rw [List.cons_append, splitFrom_cons _ _ hd, ih ha]
        rfl

/-- Behind a text without a comment, white space starts afresh. -/
private theorem splitFrom_append_space {escaped : Bool} {a : Text} {c : Char} (t : Text)
    (ha : (splitFrom escaped a).2 = []) (hc : Text.isSpace c = true) :
    splitFrom escaped (a ++ c :: t) = (a ++ c :: (split t).1, (split t).2) := by
  rw [splitFrom_append_clean _ ha, splitFrom_cons_space t hc]

/-- Behind a comment nothing matters. -/
private theorem splitFrom_append_comment {escaped : Bool} {a : Text} (b : Text)
    (ha : (splitFrom escaped a).2 ≠ []) :
    splitFrom escaped (a ++ b) = ((splitFrom escaped a).1, (splitFrom escaped a).2 ++ b) := by
  induction a generalizing escaped with
  | nil => exact absurd rfl ha
  | cons d a ih =>
      by_cases hd : (d = '%' && !escaped) = true
      · rw [List.cons_append, splitFrom, if_pos hd, splitFrom, if_pos hd]
        rfl
      · rw [Bool.not_eq_true] at hd
        rw [splitFrom_cons _ a hd] at ha
        rw [List.cons_append, splitFrom_cons _ _ hd, splitFrom_cons _ a hd, ih ha]

theorem inside_eq_false_iff (t : Text) : inside t = false ↔ (split t).2 = [] := by
  simp [inside]

theorem split_append_space {a : Text} {c : Char} (t : Text) (ha : inside a = false)
    (hc : Text.isSpace c = true) : split (a ++ c :: t) = (a ++ c :: (split t).1, (split t).2) :=
  splitFrom_append_space t ((inside_eq_false_iff a).mp ha) hc

theorem split_append_comment {a : Text} (b : Text) (ha : inside a = true) :
    split (a ++ b) = ((split a).1, (split a).2 ++ b) := by
  apply splitFrom_append_comment
  intro hnil
  rw [(inside_eq_false_iff a).mpr hnil] at ha
  cases ha

theorem inside_append_of_inside {a : Text} (b : Text) (ha : inside a = true) :
    inside (a ++ b) = true := by
  rw [inside, split_append_comment b ha]
  rw [inside] at ha
  simp only [Bool.not_eq_true', List.isEmpty_eq_false_iff] at ha ⊢
  simp [ha]

theorem inside_left_of_append {a b : Text} (h : inside (a ++ b) = false) : inside a = false := by
  rw [Bool.eq_false_iff]
  intro ha
  rw [inside_append_of_inside b ha] at h
  cases h

theorem split_of_inside_eq_false {t : Text} (h : inside t = false) : split t = (t, []) := by
  have hnil := (inside_eq_false_iff t).mp h
  have happ := split_append t
  rw [hnil, List.append_nil] at happ
  exact Prod.ext happ hnil

theorem split_blank_append {w : Text} (hw : w.isBlank = true) (t : Text) :
    split (w ++ t) = (w ++ (split t).1, (split t).2) := by
  induction w with
  | nil => rfl
  | cons c w ih =>
      rw [Text.isBlank_cons, Bool.and_eq_true] at hw
      rw [List.cons_append, split, splitFrom_cons_space _ hw.1, ih hw.2]
      rfl

theorem inside_of_blank {w : Text} (hw : w.isBlank = true) : inside w = false := by
  have h := split_blank_append hw []
  rw [List.append_nil] at h
  rw [inside_eq_false_iff, h]
  rfl

/-- The characters before the comment, without white space. -/
def live (t : Text) : Text := (split t).1.filter (!Text.isSpace ·)

theorem filter_blank {w : Text} (hw : w.isBlank = true) :
    w.filter (!Text.isSpace ·) = [] := by
  rw [List.filter_eq_nil_iff]
  intro c hc
  simp [List.all_eq_true.mp hw c hc]

theorem live_of_blank {w : Text} (hw : w.isBlank = true) : live w = [] := by
  rw [live, split_of_inside_eq_false (inside_of_blank hw), filter_blank hw]

theorem live_append_comment {a : Text} (b : Text) (ha : inside a = true) :
    live (a ++ b) = live a := by
  rw [live, split_append_comment b ha, live]

theorem live_append_space {a : Text} {c : Char} (t : Text) (ha : inside a = false)
    (hc : Text.isSpace c = true) : live (a ++ c :: t) = live a ++ live (c :: t) := by
  have hsplit := split_append_space t (a := []) rfl hc
  rw [List.nil_append, List.nil_append] at hsplit
  rw [live, split_append_space t ha hc, live, split_of_inside_eq_false ha, live, hsplit,
    List.filter_append]

private theorem split_append_blank {a w : Text} (ha : inside a = false) (hw : w.isBlank = true) :
    split (a ++ w) = (a ++ w, []) := by
  cases w with
  | nil => rw [List.append_nil, split_of_inside_eq_false ha]
  | cons c w =>
      rw [Text.isBlank_cons, Bool.and_eq_true] at hw
      rw [split_append_space w ha hw.1, split_of_inside_eq_false (inside_of_blank hw.2)]

/-- White space at the ends of a text is not live. -/
theorem live_trim (t : Text) : live t.trim = live t := by
  obtain ⟨a, b, ha, hb, ht⟩ := Text.exists_trim t
  have hleft : live (a ++ (t.trim ++ b)) = live (t.trim ++ b) := by
    rw [live, split_blank_append ha, List.filter_append, filter_blank ha]
    rfl
  have hright : live (t.trim ++ b) = live t.trim := by
    cases hin : inside t.trim with
    | true => exact live_append_comment b hin
    | false =>
        rw [live, split_append_blank hin hb, live, split_of_inside_eq_false hin,
          List.filter_append, filter_blank hb, List.append_nil]
  rw [← hright, ← hleft, ← List.append_assoc, ← ht]

theorem inside_trim (t : Text) : inside t.trim = inside t := by
  obtain ⟨a, b, ha, hb, ht⟩ := Text.exists_trim t
  have hleft : inside (a ++ (t.trim ++ b)) = inside (t.trim ++ b) := by
    rw [inside, split_blank_append ha, inside]
  have hright : inside (t.trim ++ b) = inside t.trim := by
    cases hin : inside t.trim with
    | true => exact inside_append_of_inside b hin
    | false => rw [inside_eq_false_iff, split_append_blank hin hb]
  rw [← hright, ← hleft, ← List.append_assoc, ← ht]

theorem isWhole_trim (t : Text) : isWhole t.trim = isWhole t := by
  rw [isWhole, isWhole, Text.trim_trim]

theorem inside_of_isWhole {t : Text} (h : isWhole t = true) : inside t = true := by
  rw [isWhole, decide_eq_true_eq] at h
  rw [← inside_trim]
  cases ht : t.trim with
  | nil =>
      rw [ht] at h
      cases h
  | cons c u =>
      rw [ht, List.head?_cons, Option.some.injEq] at h
      rw [h, inside, split, splitFrom_cons_percent]
      rfl

theorem isWhole_of_inside_eq_false {t : Text} (h : inside t = false) : isWhole t = false := by
  rw [Bool.eq_false_iff]
  intro hwhole
  rw [inside_of_isWhole hwhole] at h
  cases h

/-- Collapsing keeps a trimmed text a comment or no comment. -/
theorem isWhole_collapse {t : Text} (h : t.trim = t) : isWhole t.collapse = isWhole t := by
  rw [isWhole, isWhole, Text.trim_collapse h, Text.head_collapse, h]

/-- Nothing of a text is live when it is blank or a comment. -/
theorem live_eq_nil_iff (t : Text) : live t = [] ↔ t.isBlank = true ∨ isWhole t = true := by
  have hblank := Text.trim_eq_nil_iff t
  rw [← live_trim, isWhole]
  cases ht : t.trim with
  | nil =>
      rw [ht] at hblank
      simp [hblank.mp rfl, live, split, splitFrom]
  | cons c u =>
      have hnot : t.isBlank = false := by
        rw [Bool.eq_false_iff]
        intro h
        rw [hblank.mpr h] at ht
        cases ht
      have hspace : Text.isSpace c = false := Text.head_trim t c (by rw [ht]; rfl)
      by_cases hc : c = '%'
      · subst hc
        simp [live, split, splitFrom_cons_percent]
      · have hsplit := splitFrom_cons false u (c := c) (by simp [hc])
        simp [live, split, hsplit, hspace, hnot, hc]

/-- The characters of the comment, without white space. -/
def dead (t : Text) : Text := (split t).2.filter (!Text.isSpace ·)

/-- Live characters come first and the characters of the comment behind them. -/
theorem live_append_dead (t : Text) : live t ++ dead t = t.filter (!Text.isSpace ·) := by
  rw [live, dead, ← List.filter_append, split_append]

theorem dead_eq_nil {t : Text} (h : inside t = false) : dead t = [] := by
  rw [dead, split_of_inside_eq_false h]
  rfl

/-- Texts with the same characters and the same live ones have the same comment. -/
theorem dead_eq_of_live_eq {t u : Text}
    (hall : t.filter (!Text.isSpace ·) = u.filter (!Text.isSpace ·)) (hlive : live t = live u) :
    dead t = dead u := by
  rw [← live_append_dead t, ← live_append_dead u, hlive] at hall
  exact List.append_cancel_left hall

theorem dead_trim (t : Text) : dead t.trim = dead t := by
  apply dead_eq_of_live_eq _ (live_trim t)
  obtain ⟨a, b, ha, hb, ht⟩ := Text.exists_trim t
  have hall : t.filter (!Text.isSpace ·) = (a ++ t.trim ++ b).filter (!Text.isSpace ·) :=
    congrArg _ ht
  rw [hall, List.filter_append, List.filter_append, filter_blank ha, filter_blank hb,
    List.append_nil, List.nil_append]

private theorem splitFrom_collapse (escaped : Bool) (t : Text) :
    (splitFrom escaped t.collapse).1.filter (!Text.isSpace ·) =
      (splitFrom escaped t).1.filter (!Text.isSpace ·) := by
  fun_induction Text.collapse t generalizing escaped with
  | case1 => rfl
  | case2 c => rfl
  | case3 c d t h ih =>
      obtain ⟨rfl, rfl⟩ := h
      have hspace (e : Bool) (u : Text) :
          splitFrom e (' ' :: u) = (' ' :: (split u).1, (split u).2) := splitFrom_cons_space u rfl
      have hsplit : split (' ' :: t) = (' ' :: (split t).1, (split t).2) := hspace false t
      rw [ih, hspace, hspace, hsplit]
      rfl
  | case4 c d t h ih =>
      by_cases hc : (c = '%' && !escaped) = true
      · rw [splitFrom, if_pos hc, splitFrom, if_pos hc]
      · rw [Bool.not_eq_true] at hc
        rw [splitFrom_cons _ _ hc, splitFrom_cons _ _ hc, List.filter_cons, ih,
          List.filter_cons (x := c)]

theorem live_collapse (t : Text) : live t.collapse = live t := splitFrom_collapse false t

theorem dead_collapse (t : Text) : dead t.collapse = dead t := by
  apply dead_eq_of_live_eq _ (live_collapse t)
  fun_induction Text.collapse t with
  | case1 => rfl
  | case2 c => rfl
  | case3 c d t h ih => rw [ih, h.1]; rfl
  | case4 c d t h ih => rw [List.filter_cons, ih, List.filter_cons (x := c)]

/-- Behind white space the comment is the one of the text that follows. -/
theorem inside_append_space {a : Text} {c : Char} (t : Text) (ha : inside a = false)
    (hc : Text.isSpace c = true) : inside (a ++ c :: t) = inside t := by
  rw [inside, split_append_space t ha hc, inside]

/-- White space between two texts, the first of them without a comment, keeps both as they are. -/
theorem live_dead_append_space {a : Text} {c : Char} (t : Text) (ha : inside a = false)
    (hc : Text.isSpace c = true) :
    live (a ++ c :: t) = live a ++ live t ∧ dead (a ++ c :: t) = dead a ++ dead t := by
  rw [dead_eq_nil ha, live, dead, split_append_space t ha hc, live, split_of_inside_eq_false ha,
    List.filter_append, List.filter_cons, hc]
  exact ⟨rfl, rfl⟩

/-- What follows a text that is neither blank nor has a comment does not make it a comment. -/
theorem isWhole_append_space {a : Text} {c : Char} (t : Text) (ha : inside a = false)
    (hblank : a.isBlank = false) (hc : Text.isSpace c = true) : isWhole (a ++ c :: t) = false := by
  have hlive : live a ≠ [] := by
    rw [ne_eq, live_eq_nil_iff, hblank, isWhole_of_inside_eq_false ha]
    simp
  rw [Bool.eq_false_iff]
  intro hwhole
  have hnil := (live_eq_nil_iff (a ++ c :: t)).mpr (.inr hwhole)
  rw [(live_dead_append_space t ha hc).1, List.append_eq_nil_iff] at hnil
  exact hlive hnil.1

/-- What the cut leaves before the comment has none, and the comment starts with a percent sign that
no backslash stands before. -/
private theorem splitFrom_cut (escaped : Bool) (t : Text) :
    (splitFrom escaped (splitFrom escaped t).1).2 = [] ∧
      ((splitFrom escaped t).2 = [] ∨ (splitFrom escaped t).2.head? = some '%' ∧
        slashBehind escaped (splitFrom escaped t).1 = false) := by
  induction t generalizing escaped with
  | nil => exact ⟨rfl, .inl rfl⟩
  | cons c t ih =>
      by_cases hc : (c = '%' && !escaped) = true
      · have hstart : c = '%' ∧ escaped = false := by simpa using hc
        rw [splitFrom, if_pos hc]
        exact ⟨rfl, .inr ⟨by rw [hstart.1]; rfl, hstart.2⟩⟩
      · rw [Bool.not_eq_true] at hc
        rw [splitFrom_cons _ t hc, splitFrom_cons _ _ hc]
        exact ih _

/-- The cut is the only one before which there is no comment and behind which there is nothing or a
percent sign without a backslash before it. -/
theorem split_eq_iff {t text comment : Text} :
    split t = (text, comment) ↔ t = text ++ comment ∧ inside text = false ∧
      (comment = [] ∨ comment.head? = some '%' ∧ text.getLast? ≠ some '\\') := by
  rw [ne_eq, ← slashBehind_eq_true_iff, Bool.not_eq_true, inside_eq_false_iff]
  constructor
  · intro h
    have hcut := splitFrom_cut false t
    rw [show splitFrom false t = (text, comment) from h] at hcut
    have happend := split_append t
    rw [h] at happend
    exact ⟨happend.symm, hcut⟩
  · intro h
    obtain ⟨rfl, htext, hcomment⟩ := h
    rw [split, splitFrom_append_clean comment htext]
    rcases hcomment with rfl | ⟨hhead, hslash⟩
    · rw [splitFrom, List.append_nil]
    · obtain ⟨u, rfl⟩ := List.head?_eq_some_iff.mp hhead
      rw [hslash, splitFrom_cons_percent, List.append_nil]

theorem split_cut (t : Text) :
    inside (split t).1 = false ∧
      ((split t).2 = [] ∨ (split t).2.head? = some '%' ∧ (split t).1.getLast? ≠ some '\\') := by
  have hsplit : split t = ((split t).1, (split t).2) := rfl
  exact (split_eq_iff.mp hsplit).2

/-- Without a percent sign there is no comment. -/
theorem inside_of_not_mem {t : Text} (h : '%' ∉ t) : inside t = false := by
  cases hsplit : split t with
  | mk text comment =>
      obtain ⟨rfl, -, hcomment⟩ := split_eq_iff.mp hsplit
      rw [inside_eq_false_iff, hsplit]
      rcases hcomment with hnil | ⟨hhead, -⟩
      · exact hnil
      · exact absurd (List.mem_append_right text (List.mem_of_mem_head? hhead)) h

theorem isWhole_of_not_mem {t : Text} (h : '%' ∉ t) : isWhole t = false :=
  isWhole_of_inside_eq_false (inside_of_not_mem h)

/-- In a text without a comment a backslash stands before each percent sign. -/
theorem getLast_of_inside_eq_false {a b : Text} (h : inside (a ++ '%' :: b) = false) :
    a.getLast? = some '\\' := by
  have ha := inside_left_of_append h
  rw [← slashBehind_eq_true_iff, ← Bool.not_eq_false]
  intro hslash
  rw [inside_eq_false_iff, split, splitFrom_append_clean _ ((inside_eq_false_iff a).mp ha), hslash,
    splitFrom_cons_percent] at h
  cases h

/-- A cut of a text without a comment leaves none, unless it stands before a percent sign. -/
theorem inside_of_append {a b : Text} (h : inside (a ++ b) = false) (hb : b.head? ≠ some '%') :
    inside a = false ∧ inside b = false := by
  have ha := inside_left_of_append h
  rw [inside_eq_false_iff, split, splitFrom_append_clean _ ((inside_eq_false_iff a).mp ha),
    splitFrom_eq_split hb] at h
  exact ⟨ha, (inside_eq_false_iff b).mpr h⟩

end TexReflow.Comment
