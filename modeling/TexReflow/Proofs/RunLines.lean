import Mathlib.Data.List.Chain
import TexReflow.Proofs.Rest
import TexReflow.Proofs.Rows

/-!
# Lines after a run

No line of a run has a row break in it. Where the settings ask for nothing but joining lines and
cutting sentences, no sentence ends inside of a line either.
-/

namespace TexReflow

theorem unbroken_of_makes {cfg : Config} {p : Pass} (hnewline : cfg.newline = ['\n'])
    (hsep : p = .splitSentences → ∀ s ∈ cfg.separator?, ∀ c ∈ s, Text.isRowBreak c = false)
    {l : Line} {qs : List Line} (hl : ∀ c ∈ l.content, Text.isRowBreak c = false)
    (h : p.Makes cfg l qs) :
    ∀ q ∈ qs, ∀ c ∈ q.content, Text.isRowBreak c = false := by
  have hone {q : Line} (hq : ∀ c ∈ q.content, c ∈ l.content) :
      ∀ r ∈ [q], ∀ c ∈ r.content, Text.isRowBreak c = false := by
    rw [List.forall_mem_singleton]
    exact fun c hc => hl c (hq c hc)
  cases p with
  | markVerbatim => rcases h with rfl | rfl <;> exact hone fun _ => id
  | trim =>
      cases h
      apply hone
      intro c hc
      rw [Line.trim] at hc
      split at hc
      · exact hc
      · exact Text.mem_of_mem_trim hc
  | markComments =>
      cases h
      exact hone fun _ => id
  | dedup => exact h.elim
  | merge => exact h.elim
  | breakLines =>
      obtain ⟨rules, -, h⟩ := h
      rcases Macro.breakLine_ok h with ⟨-, rfl⟩ | ⟨-, -, rfl⟩
      · exact hone fun _ => id
      · rw [hnewline]
        intro q hq c hc
        obtain ⟨t, ht, rfl⟩ := List.mem_map.mp hq
        obtain ⟨hmem, hne⟩ := Text.mem_of_mem_parts ht hc
        have hpadded : Text.Padded (· = '\n') l.content
            (Macro.insertBreaks rules ['\n'] l.content) :=
          Macro.insertBreaks_padded rules (by simp) l.content
        exact hl c ((hpadded.mem_or hmem).resolve_right hne)
  | markMath => rcases h with rfl | rfl <;> exact hone fun _ => id
  | splitSentences =>
      cases h
      split
      · exact hone fun _ => id
      · intro q hq c hc
        rcases (Sentence.mem_split hq).2 with ⟨s, hs, hcontent⟩ | hseparator
        · rw [hcontent] at hc
          apply hl
          rw [← Sentence.segments_flatten cfg l.content]
          exact List.mem_flatten_of_mem hs (Text.mem_of_mem_trim hc)
        · exact hsep rfl _ hseparator c hc
  | collapse =>
      cases h
      apply hone
      intro c hc
      rw [Line.collapse] at hc
      split at hc
      · exact hc
      · exact Text.mem_of_mem_collapse hc

theorem unbroken_join {first second : Line}
    (hfirst : ∀ c ∈ first.content, Text.isRowBreak c = false)
    (hsecond : ∀ c ∈ second.content, Text.isRowBreak c = false) :
    ∀ c ∈ (Paragraph.join first second).content, Text.isRowBreak c = false := by
  intro c hc
  have hmem := Text.mem_of_mem_trim hc
  simp only [List.mem_append, List.mem_cons] at hmem
  rcases hmem with hmem | rfl | hmem
  · exact hfirst c hmem
  · rfl
  · exact hsecond c hmem

/-- With a line feed as line end and a separator of one row, each line of a run is one row. -/
theorem run_unbroken {cfg : Config} (hnewline : cfg.newline = ['\n'])
    (hsep : ∀ s ∈ cfg.separator?, ∀ c ∈ s, Text.isRowBreak c = false) {rows : List Text}
    (hrows : ∀ r ∈ rows, ∀ c ∈ r, Text.isRowBreak c = false) {out : List Line}
    (h : cfg.run rows = .ok out) : ∀ l ∈ out, ∀ c ∈ l.content, Text.isRowBreak c = false := by
  obtain ⟨rules, -, h⟩ := bind_eq_ok_iff.mp h
  refine Pass.applyAll_forall ?_ h ?_
  · intro p _ as bs
    exact Pass.apply_forall (unbroken_of_makes hnewline fun _ => hsep) fun _ => unbroken_join
  · rwa [List.forall_mem_map]

theorem process_eq_ok_iff {cfg : Config} {t o : Text} :
    cfg.process t = .ok o ↔ ∃ ls, cfg.run t.rows = .ok ls ∧ Line.join cfg.newline ls = o := by
  rw [Config.process, Config.processRows, bind_eq_ok_iff]
  simp only [pure, Except.pure, Except.ok.injEq]

theorem rows_join {ls : List Line}
    (hls : ∀ l ∈ ls, ∀ c ∈ l.content, Text.isRowBreak c = false) :
    (Line.join ['\n'] ls).rows = ls.map (·.content) := by
  rw [Line.join, Text.rows_unrows (by decide)]
  rwa [List.forall_mem_map]

namespace Sentence

/-- No sentence ends inside of the text: no line-end character has a space behind it. -/
def Single (isEnd : Char → Bool) (t : Text) : Prop :=
  t.IsChain fun c d => ¬(isEnd c = true ∧ d = ' ')

instance (isEnd : Char → Bool) (t : Text) : Decidable (Single isEnd t) :=
  inferInstanceAs (Decidable (t.IsChain _))

theorem Single.trim {isEnd : Char → Bool} {t : Text} (h : Single isEnd t) :
    Single isEnd t.trim := by
  obtain ⟨a, b, -, -, ht⟩ := Text.exists_trim t
  exact List.IsChain.infix h ⟨a, b, ht.symm⟩

theorem Single.collapse {isEnd : Char → Bool} {t : Text} (h : Single isEnd t) :
    Single isEnd t.collapse := by
  fun_induction Text.collapse t with
  | case1 => exact h
  | case2 c => exact h
  | case3 c d t hcd ih => exact ih (List.isChain_cons_cons.mp h).2
  | case4 c d t hcd ih =>
      obtain ⟨hfirst, hrest⟩ := List.isChain_cons_cons.mp h
      refine List.isChain_cons.mpr ⟨?_, ih hrest⟩
      intro e he
      rw [Text.head_collapse] at he
      cases he
      exact hfirst

section

variable {cfg : Config} (hopening : cfg.inlineMath.opening = none)

include hopening

/-- Without inline math every sentence end counts. -/
private theorem segmentsFrom_cons_plain (c : Char) (t : Text) :
    segmentsFrom cfg 0 false (c :: t) =
      if cfg.isLineEnd c && t.head? = some ' ' then [c] :: segmentsFrom cfg 0 false t
      else Text.consHead c (segmentsFrom cfg 0 false t) := by
  have hlength : markLength cfg.inlineMath.opening (c :: t) = 0 := by rw [hopening]; rfl
  rw [segmentsFrom]
  simp only [hlength]

theorem single_of_mem_segments (t : Text) : ∀ s ∈ segments cfg t, Single cfg.isLineEnd s := by
  rw [segments]
  induction t with
  | nil => simp [segmentsFrom, Single]
  | cons c t ih =>
      rw [segmentsFrom_cons_plain hopening]
      split
      · exact List.forall_mem_cons.mpr ⟨by simp [Single], ih⟩
      next hend =>
        cases t with
        | nil => simp [segmentsFrom, Text.consHead, Single]
        | cons d t =>
            obtain ⟨u, ss, hsegs⟩ := segmentsFrom_cons cfg 0 false d t
            rw [hsegs] at ih ⊢
            obtain ⟨hfirst, hrest⟩ := List.forall_mem_cons.mp ih
            refine List.forall_mem_cons.mpr ⟨List.isChain_cons_cons.mpr ⟨?_, hfirst⟩, hrest⟩
            simpa using hend

theorem segments_of_single {t : Text} (h : Single cfg.isLineEnd t) : segments cfg t = [t] := by
  rw [segments]
  induction t with
  | nil => rfl
  | cons c t ih =>
      obtain ⟨hfirst, hrest⟩ := List.isChain_cons.mp h
      rw [segmentsFrom_cons_plain hopening, if_neg, ih hrest]
      · rfl
      · simp only [Bool.and_eq_true, decide_eq_true_eq]
        intro h
        obtain ⟨hend, hspace⟩ := h
        exact hfirst ' ' hspace ⟨hend, rfl⟩

end

end Sentence

/-- The settings ask for nothing but joining lines and cutting sentences, with a separator that is
one sentence or a comment. -/
structure Plain (cfg : Config) : Prop where
  breaks : cfg.breaks = []
  verbatim : Region.given cfg.verbatim = false
  math : Region.given cfg.math = false
  inlineMath : cfg.inlineMath.opening = none
  separator : ∀ s ∈ cfg.separator?, Comment.isWhole s = true ∨ Sentence.Single cfg.isLineEnd s

/-- A line outside of regions, marked as a comment only if it is one. -/
private structure Unmarked (l : Line) : Prop where
  verbatim : l.verbatim = false
  math : l.math = false
  comment : l.comment = true → Comment.isWhole l.content = true

private theorem Unmarked.of_makes {cfg : Config} {p : Pass} (hverbatim : p ≠ .markVerbatim)
    (hmath : p ≠ .markMath) (hsentences : p ≠ .splitSentences) (hcollapse : p ≠ .collapse)
    {l : Line} {qs : List Line} (hl : Unmarked l) (h : p.Makes cfg l qs) :
    ∀ q ∈ qs, Unmarked q := by
  cases p with
  | markVerbatim => exact absurd rfl hverbatim
  | trim =>
      cases h
      rw [List.forall_mem_singleton, Line.trim, hl.verbatim, if_neg (by simp)]
      refine ⟨hl.verbatim, hl.math, ?_⟩
      intro hcomment
      exact (Comment.isWhole_trim _).trans (hl.comment hcomment)
  | markComments =>
      cases h
      rw [List.forall_mem_singleton]
      refine ⟨hl.verbatim, hl.math, ?_⟩
      intro hcomment
      rcases Bool.or_eq_true_iff.mp hcomment with hcomment | hwhole
      · exact hl.comment hcomment
      · exact hwhole
  | dedup => exact h.elim
  | merge => exact h.elim
  | breakLines =>
      obtain ⟨rules, -, h⟩ := h
      rcases Macro.breakLine_ok h with ⟨-, rfl⟩ | ⟨-, -, rfl⟩
      · exact List.forall_mem_singleton.mpr hl
      · rw [List.forall_mem_map]
        exact fun t _ => ⟨hl.verbatim, hl.math, id⟩
  | markMath => exact absurd rfl hmath
  | splitSentences => exact absurd rfl hsentences
  | collapse => exact absurd rfl hcollapse

private theorem Unmarked.join {cfg : Config} {first second : Line}
    (hcan : Paragraph.canJoin cfg first second = true) (hfirst : Unmarked first) :
    Unmarked (Paragraph.join first second) := by
  refine ⟨hfirst.verbatim, hfirst.math, ?_⟩
  intro hcomment
  obtain ⟨-, -, -, -, hinside, -⟩ := Paragraph.canJoin_iff.mp hcan
  rw [Comment.inside_of_isWhole (hfirst.comment hcomment)] at hinside
  cases hinside

namespace Plain

variable {cfg : Config} (hplain : Plain cfg)

include hplain

private theorem unmarked_of_apply {p : Pass} (hsentences : p ≠ .splitSentences)
    (hcollapse : p ≠ .collapse) {ls out : List Line} (h : p.apply cfg ls = .ok out)
    (hls : ∀ l ∈ ls, Unmarked l) : ∀ l ∈ out, Unmarked l := by
  by_cases hverbatim : p = .markVerbatim
  · subst hverbatim
    have hmark := mapError_eq_ok_iff.mp h
    rw [Region.markVerbatim, Region.mark, hplain.verbatim] at hmark
    cases hmark
    exact hls
  by_cases hmath : p = .markMath
  · subst hmath
    have hmark := mapError_eq_ok_iff.mp h
    rw [Region.markMath, Region.mark, hplain.math] at hmark
    cases hmark
    exact hls
  · exact Pass.apply_forall (Unmarked.of_makes hverbatim hmath hsentences hcollapse)
      (fun hcan hfirst _ => hfirst.join hcan) h hls

/-- A content that cutting into sentences would not change. -/
private theorem uncut_of_unmarked {l : Line} (hl : Unmarked l) :
    ∀ q ∈ if Sentence.skips l then [l] else Sentence.split cfg l, q.verbatim = false ∧
      (q.isBlank = true ∨ Comment.isWhole q.content = true ∨
        Sentence.Single cfg.isLineEnd q.content) := by
  intro q hq
  split at hq
  next hskip =>
    rw [List.mem_singleton.mp hq]
    rw [Sentence.skips, hl.verbatim, hl.math, Bool.false_or, Bool.false_or,
      Bool.or_eq_true] at hskip
    rcases hskip with hblank | hcomment
    · exact ⟨hl.verbatim, .inl hblank⟩
    · exact ⟨hl.verbatim, .inr (.inl (hl.comment hcomment))⟩
  next =>
    obtain ⟨⟨hverbatim, -⟩, hcontent⟩ := Sentence.mem_split hq
    refine ⟨hverbatim.trans hl.verbatim, .inr ?_⟩
    rcases hcontent with ⟨s, hs, hcontent⟩ | hseparator
    · rw [hcontent]
      exact .inr (Sentence.single_of_mem_segments hplain.inlineMath _ s hs).trim
    · exact hplain.separator _ hseparator

/-- Behind a run the lines are trimmed, have single spaces, and no sentence ends inside of them
unless they are comments. -/
theorem lines_of_run {rows : List Text} {out : List Line} (h : cfg.run rows = .ok out) :
    ∀ l ∈ out, (l.content.trim = l.content ∧ l.content.collapse = l.content) ∧
      (l.isBlank = true ∨ Comment.isWhole l.content = true ∨
        (cfg.splitSentences = true → Sentence.Single cfg.isLineEnd l.content)) := by
  obtain ⟨rules, -, h⟩ := bind_eq_ok_iff.mp h
  rw [Config.passes, List.append_assoc _ _ [Pass.trim, Pass.collapse], Pass.applyAll_append] at h
  obtain ⟨mid, hmid, h⟩ := bind_eq_ok_iff.mp h
  -- Up to the cutting no line gets the mark of a region, so it skips blank lines and comments only.
  have hunmarked : ∀ l ∈ mid, Unmarked l := by
    refine Pass.applyAll_forall ?_ hmid ?_
    · intro p hp as bs
      apply hplain.unmarked_of_apply
      all_goals
        intro hlater
        rw [hlater] at hp
        revert hp
        cases cfg.joinLines <;> simp
    · rw [List.forall_mem_map]
      intro row _
      exact ⟨rfl, rfl, by simp [Line.ofRow]⟩
  rw [Pass.applyAll_closing, Except.ok.injEq] at h
  subst h
  rw [List.forall_mem_map, List.forall_mem_map]
  have hcut : ∀ q ∈ if cfg.splitSentences then Sentence.splitAll cfg mid else mid,
      q.verbatim = false ∧ (q.isBlank = true ∨ Comment.isWhole q.content = true ∨
        (cfg.splitSentences = true → Sentence.Single cfg.isLineEnd q.content)) := by
    intro q hq
    split at hq
    next =>
      obtain ⟨l, hl, hq⟩ := List.mem_flatMap.mp hq
      obtain ⟨hverbatim, hcut⟩ := hplain.uncut_of_unmarked (hunmarked l hl) q hq
      exact ⟨hverbatim, hcut.imp_right (Or.imp_right fun h _ => h)⟩
    next hsplit => exact ⟨(hunmarked q hq).verbatim, .inr (.inr fun h => absurd h hsplit)⟩
  intro q hq
  obtain ⟨hverbatim, hcut⟩ := hcut q hq
  have hcontent : q.trim.collapse.content = q.content.trim.collapse := by
    simp [Line.trim, Line.collapse, Line.withContent, hverbatim]
  rw [Line.isBlank, hcontent, Text.isBlank_collapse, Text.isBlank_trim,
    Comment.isWhole_collapse (Text.trim_trim _), Comment.isWhole_trim]
  refine ⟨⟨Text.trim_collapse (Text.trim_trim _), Text.collapse_collapse _⟩, ?_⟩
  exact hcut.imp_right (Or.imp_right fun h hsplit => (h hsplit).trim.collapse)

end Plain

end TexReflow
