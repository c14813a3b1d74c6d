import TexReflow.Proofs.Breaks
import TexReflow.Proofs.Passes
import TexReflow.Proofs.Sentences

/-!
# Preservation of text

Whatever passes are run, in whatever order, the paragraphs of a document stay what they are, and so
do their words: only line breaks at macros cut words, and nothing is lost, repeated, moved or glued
together.
-/

namespace TexReflow

/-- The paragraphs of a document: the maximal runs of lines that are not blank. -/
def paragraphs (ls : List Line) : List (List Line) := runs Line.isBlank ls

/-- The words of a line. -/
def Line.words (l : Line) : List Text := l.content.words

/-- The words of each paragraph, read line by line. -/
def paragraphWords (ls : List Line) : List (List Text) := (paragraphs ls).map (·.flatMap Line.words)

theorem Line.words_eq_nil_iff (l : Line) : l.words = [] ↔ l.isBlank = true :=
  Text.words_eq_nil_iff l.content

/-- The paragraph read so far, unless there is none. -/
private def closed (ws : List Text) : List (List Text) := if ws = [] then [] else [ws]

/-- The words of each paragraph, with the words of the current one given. -/
private def wordsFrom : List Text → List Line → List (List Text)
  | ws, [] => closed ws
  | ws, l :: ls =>
    if l.isBlank then closed ws ++ wordsFrom [] ls else wordsFrom (ws ++ l.words) ls

private theorem paragraphWords_of_forall {ls : List Line} (h : ∀ l ∈ ls, l.isBlank = false) :
    paragraphWords ls = closed (ls.flatMap Line.words) := by
  cases ls with
  | nil => simp [paragraphWords, paragraphs, closed]
  | cons l ls =>
      have hwords : l.words ≠ [] := by
        intro hnil
        rw [Line.words_eq_nil_iff, h l List.mem_cons_self] at hnil
        cases hnil
      rw [paragraphWords, paragraphs, runs_of_forall (by simp) h, closed, if_neg (by simp [hwords])]
      rfl

private theorem paragraphWords_append (pre : List Line) (hpre : ∀ l ∈ pre, l.isBlank = false)
    (ls : List Line) : paragraphWords (pre ++ ls) = wordsFrom (pre.flatMap Line.words) ls := by
  induction ls generalizing pre with
  | nil => rw [List.append_nil, paragraphWords_of_forall hpre, wordsFrom]
  | cons l ls ih =>
      rw [wordsFrom]
      cases hl : l.isBlank with
      | true =>
          have hrest := ih [] (by simp)
          rw [if_pos rfl, ← paragraphWords_of_forall hpre]
          rw [List.nil_append, List.flatMap_nil] at hrest
          rw [← hrest, paragraphWords, paragraphs, runs_append_cons pre ls hl, List.map_append]
          rfl
      | false =>
          have hstep := ih (pre ++ [l]) (by
            intro q hq
            rcases List.mem_append.mp hq with hq | hq
            · exact hpre q hq
            · rw [List.mem_singleton.mp hq, hl])
          rw [List.append_assoc, List.flatMap_append] at hstep
          simpa using hstep

private theorem paragraphWords_eq (ls : List Line) : paragraphWords ls = wordsFrom [] ls :=
  paragraphWords_append [] (by simp) ls

/-- What a line becomes: one blank line if it is blank, and else lines that are not blank, with
words that are related to its own. -/
private def Kept (R : List Text → List Text → Prop) (l : Line) (qs : List Line) : Prop :=
  (l.isBlank = true ∧ ∃ q, qs = [q] ∧ q.isBlank = true) ∨
    (l.isBlank = false ∧ (∀ q ∈ qs, q.isBlank = false) ∧ R l.words (qs.flatMap Line.words))

private theorem wordsFrom_append (qs : List Line) (hqs : ∀ q ∈ qs, q.isBlank = false)
    (ws : List Text) (ls : List Line) :
    wordsFrom ws (qs ++ ls) = wordsFrom (ws ++ qs.flatMap Line.words) ls := by
  induction qs generalizing ws with
  | nil => simp
  | cons q qs ih =>
      rw [List.cons_append, wordsFrom, hqs q List.mem_cons_self, if_neg (by simp),
        ih fun q' hq' => hqs q' (List.mem_cons_of_mem q hq')]
      simp

section

variable {R : List Text → List Text → Prop}

private theorem closed_rel (hnil : ∀ {ws us}, R ws us → (ws = [] ↔ us = [])) {ws us : List Text}
    (h : R ws us) : List.Forall₂ R (closed ws) (closed us) := by
  by_cases hws : ws = []
  · rw [closed, if_pos hws, closed, if_pos ((hnil h).mp hws)]
    exact .nil
  · rw [closed, if_neg hws, closed, if_neg fun hus => hws ((hnil h).mpr hus)]
    exact .cons h .nil

/-- If each line keeps its words, so does each paragraph. -/
private theorem wordsFrom_rel (hempty : R [] [])
    (happend : ∀ {a a' b b'}, R a a' → R b b' → R (a ++ b) (a' ++ b'))
    (hnil : ∀ {ws us}, R ws us → (ws = [] ↔ us = [])) {ls : List Line} {qss : List (List Line)}
    (h : List.Forall₂ (Kept R) ls qss) {ws us : List Text} (hws : R ws us) :
    List.Forall₂ R (wordsFrom ws ls) (wordsFrom us qss.flatten) := by
  induction h generalizing ws us with
  | nil => exact closed_rel hnil hws
  | @cons l qs ls qss hl _ ih =>
      rw [List.flatten_cons, wordsFrom]
      rcases hl with ⟨hl, q, rfl, hq⟩ | ⟨hl, hqs, hwords⟩
      · rw [List.singleton_append, wordsFrom, hl, hq, if_pos rfl, if_pos rfl]
        exact List.rel_append (closed_rel hnil hws) (ih hempty)
      · rw [hl, if_neg (by simp), wordsFrom_append qs hqs]
        exact ih (happend hws hwords)

end

private theorem paragraphWords_eq_of_kept {ls : List Line} {qss : List (List Line)}
    (h : List.Forall₂ (Kept Eq) ls qss) : paragraphWords qss.flatten = paragraphWords ls := by
  have hrel := wordsFrom_rel rfl (fun ha hb => by rw [ha, hb]) (fun he => by rw [he]) h
    (rfl : ([] : List Text) = [])
  rw [List.forall₂_eq_eq_eq] at hrel
  rw [paragraphWords_eq, paragraphWords_eq, hrel]

private theorem paragraphWords_cut_of_kept {ls : List Line} {qss : List (List Line)}
    (h : List.Forall₂ (Kept CutInto) ls qss) :
    List.Forall₂ CutInto (paragraphWords ls) (paragraphWords qss.flatten) := by
  rw [paragraphWords_eq, paragraphWords_eq]
  exact wordsFrom_rel .nil CutInto.append CutInto.eq_nil_iff h .nil

private theorem kept_single {l q : Line} (hwords : q.words = l.words) : Kept Eq l [q] := by
  have hblank : q.isBlank = l.isBlank := by
    rw [Bool.eq_iff_iff, ← Line.words_eq_nil_iff, ← Line.words_eq_nil_iff, hwords]
  cases hl : l.isBlank with
  | true => exact .inl ⟨hl, q, rfl, by rw [hblank, hl]⟩
  | false =>
      refine .inr ⟨hl, by simp [hblank, hl], ?_⟩
      simp [hwords]

private theorem Kept.cut {l : Line} {qs : List Line} (h : Kept Eq l qs) : Kept CutInto l qs := by
  rcases h with hl | ⟨hl, hqs, hwords⟩
  · exact .inl hl
  · refine .inr ⟨hl, hqs, ?_⟩
    rw [hwords]
    exact .refl _

private theorem sentences_words (ss : List Text) :
    (Sentence.sentences ss).flatMap Text.words = ss.flatMap Text.words := by
  fun_induction Sentence.sentences ss with
  | case1 => rfl
  | case2 s h => simp [Text.words_of_blank h]
  | case3 s h => simp
  | case4 s ss hss ih => rw [List.flatMap_cons, List.flatMap_cons, ih, Text.words_trim]

private theorem cut_words {isEnd : Char → Bool} {ss : List Text} (h : Sentence.Cut isEnd ss) :
    Text.words ss.flatten = ss.flatMap Text.words := by
  induction h with
  | last s => simp
  | @step s c u ss hc _ ih =>
      rw [List.flatten_cons, List.flatMap_cons, ← ih, List.flatten_cons, List.cons_append,
        Text.words_append_cons _ _ rfl, Text.words_cons _ rfl]

private theorem kept_split {cfg : Config} (hsep : cfg.separator? = none)
    (hends : ∀ c, cfg.isLineEnd c = true → Text.isSpace c = false) {l : Line}
    (hl : l.isBlank = false) : Kept Eq l (Sentence.split cfg l) := by
  have hcut := Sentence.segments_cut cfg l.content
  rw [Sentence.split_eq_map cfg l hsep]
  refine .inr ⟨hl, ?_, ?_⟩
  · intro q hq
    obtain ⟨s, hs, rfl⟩ := List.mem_map.mp hq
    exact Sentence.sentences_not_blank hends hcut s hs
  · have hwords := cut_words hcut
    rw [Sentence.segments_flatten, ← sentences_words] at hwords
    rw [List.flatMap_map]
    exact hwords

private theorem kept_breakLine {rules : List Macro.Rule} {newline : Text}
    (hspace : newline.isBlank = true) {l : Line} {qs : List Line}
    (h : Macro.breakLine rules newline l = .ok qs) : Kept CutInto l qs := by
  rcases Macro.breakLine_ok h with ⟨-, rfl⟩ | ⟨hskip, hne, rfl⟩
  · exact (kept_single rfl).cut
  · have hl : l.isBlank = false := by
      simp only [Bool.or_eq_false_iff] at hskip
      exact hskip.1.1
    refine .inr ⟨hl, ?_, ?_⟩
    · intro q hq
      obtain ⟨t, ht, rfl⟩ := List.mem_map.mp hq
      obtain ⟨s, -, rfl, hs⟩ := Macro.mem_pieces ht
      exact (Text.isBlank_trim s).trans hs
    · rw [List.flatMap_map]
      exact Macro.words_pieces rules hne hspace l.content

private theorem kept_of_makes {cfg : Config} (hsep : cfg.separator? = none)
    (hends : ∀ c, cfg.isLineEnd c = true → Text.isSpace c = false) {p : Pass}
    (hp : p ≠ .breakLines) {l : Line} {qs : List Line} (h : p.Makes cfg l qs) : Kept Eq l qs := by
  cases p with
  | markVerbatim => rcases h with rfl | rfl <;> exact kept_single rfl
  | trim =>
      cases h
      apply kept_single
      rw [Line.trim]
      split
      · rfl
      · exact Text.words_trim l.content
  | markComments =>
      cases h
      exact kept_single rfl
  | dedup => exact h.elim
  | merge => exact h.elim
  | breakLines => exact absurd rfl hp
  | markMath => rcases h with rfl | rfl <;> exact kept_single rfl
  | splitSentences =>
      cases h
      cases hskip : Sentence.skips l with
      | true => exact kept_single rfl
      | false =>
          simp only [Sentence.skips, Bool.or_eq_false_iff] at hskip
          exact kept_split hsep hends hskip.1.2
  | collapse =>
      cases h
      apply kept_single
      rw [Line.collapse]
      split
      · rfl
      · exact Text.words_collapse l.content

private theorem wordsFrom_dropBlanks (blank : Bool) (ls : List Line) (ws : List Text)
    (hws : blank = true → ws = []) :
    wordsFrom ws (Paragraph.dropBlanks blank ls) = wordsFrom ws ls := by
  induction ls generalizing blank ws with
  | nil => rfl
  | cons l ls ih =>
      rw [Paragraph.dropBlanks]
      split
      next hdrop =>
        simp only [Bool.and_eq_true] at hdrop
        rw [hws hdrop.1.2, ih blank [] fun _ => rfl, wordsFrom, hdrop.1.1, if_pos rfl]
        rfl
      next =>
        rw [wordsFrom, wordsFrom]
        cases hl : l.isBlank with
        | true => rw [if_pos rfl, if_pos rfl, ih true [] fun _ => rfl]
        | false => rw [if_neg (by simp), if_neg (by simp), ih false _ (by simp)]

private theorem join_words (first second : Line) :
    (Paragraph.join first second).words = first.words ++ second.words := by
  change Text.words (first.content ++ ' ' :: second.content).trim = _
  rw [Text.words_trim, Text.words_append_cons _ _ rfl]
  rfl

private theorem wordsFrom_mergeFrom (cfg : Config) (first : Line) (ls : List Line)
    (ws : List Text) :
    wordsFrom ws (Paragraph.mergeFrom cfg first ls) = wordsFrom ws (first :: ls) := by
  induction ls generalizing first ws with
  | nil => rfl
  | cons second ls ih =>
      rw [Paragraph.mergeFrom]
      split
      next hjoin =>
        obtain ⟨⟨hfirst, hsecond⟩, -⟩ := Paragraph.canJoin_iff.mp hjoin
        have hboth : (Paragraph.join first second).isBlank = false := by
          rw [Bool.eq_false_iff, ne_eq, ← Line.words_eq_nil_iff, join_words,
            List.append_eq_nil_iff, Line.words_eq_nil_iff, hfirst]
          simp
        rw [ih]
        -- The joined line is read like the two lines, as one stretch of words.
        calc wordsFrom ws ([Paragraph.join first second] ++ ls)
            = wordsFrom (ws ++ (first.words ++ second.words)) ls := by
              rw [wordsFrom_append _ (by simp [hboth])]
              simp [join_words]
          _ = wordsFrom ws ([first, second] ++ ls) := by
              rw [wordsFrom_append _ (by simp [hfirst, hsecond])]
              simp
      next =>
        rw [wordsFrom, wordsFrom]
        cases hl : first.isBlank with
        | true => rw [if_pos rfl, if_pos rfl, ih]
        | false => rw [if_neg (by simp), if_neg (by simp), ih]

/-- A pass other than breaking lines keeps the words of every paragraph. -/
private theorem apply_paragraphWords {cfg : Config} (hsep : cfg.separator? = none)
    (hends : ∀ c, cfg.isLineEnd c = true → Text.isSpace c = false) {p : Pass}
    (hp : p ≠ .breakLines) {ls out : List Line} (h : p.apply cfg ls = .ok out) :
    paragraphWords out = paragraphWords ls := by
  by_cases hdedup : p = .dedup
  · subst hdedup
    cases h
    rw [paragraphWords_eq, paragraphWords_eq]
    exact wordsFrom_dropBlanks false ls [] (by simp)
  by_cases hmerge : p = .merge
  · subst hmerge
    cases h
    rw [paragraphWords_eq, paragraphWords_eq]
    cases ls with
    | nil => rfl
    | cons l ls => exact wordsFrom_mergeFrom cfg l ls []
  · obtain ⟨qss, hqss, rfl⟩ := Pass.apply_makes hdedup hmerge h
    exact paragraphWords_eq_of_kept (hqss.imp fun _ _ => kept_of_makes hsep hends hp)

private theorem apply_cut {cfg : Config} (hspace : cfg.newline.isBlank = true)
    (hsep : cfg.separator? = none)
    (hends : ∀ c, cfg.isLineEnd c = true → Text.isSpace c = false) {p : Pass}
    {ls out : List Line} (h : p.apply cfg ls = .ok out) :
    List.Forall₂ CutInto (paragraphWords ls) (paragraphWords out) := by
  by_cases hp : p = .breakLines
  · subst hp
    obtain ⟨qss, hqss, rfl⟩ := Pass.apply_makes (by simp) (by simp) h
    apply paragraphWords_cut_of_kept
    refine hqss.imp ?_
    intro l qs h
    obtain ⟨rules, -, hl⟩ := h
    exact kept_breakLine hspace hl
  · rw [apply_paragraphWords hsep hends hp h, List.forall₂_same]
    intro ws _
    exact .refl ws

private theorem forall₂_cutInto_trans {as bs cs : List (List Text)}
    (h : List.Forall₂ CutInto as bs) (h' : List.Forall₂ CutInto bs cs) :
    List.Forall₂ CutInto as cs := by
  induction h generalizing cs with
  | nil => exact h'
  | cons hhead _ ih =>
      cases h' with
      | cons hhead' htail' => exact .cons (hhead.trans hhead') (ih htail')

private theorem applyAll_cut {cfg : Config} (hspace : cfg.newline.isBlank = true)
    (hsep : cfg.separator? = none)
    (hends : ∀ c, cfg.isLineEnd c = true → Text.isSpace c = false) {ps : List Pass}
    {ls out : List Line} (h : Pass.applyAll cfg ps ls = .ok out) :
    List.Forall₂ CutInto (paragraphWords ls) (paragraphWords out) := by
  apply Pass.applyAll_rel (R := fun as bs =>
    List.Forall₂ CutInto (paragraphWords as) (paragraphWords bs)) _ _ _ h
  · intro ls
    rw [List.forall₂_same]
    intro ws _
    exact .refl ws
  · intro as bs cs hab hbc
    exact forall₂_cutInto_trans hab hbc
  · intro p _ as bs hstep
    exact apply_cut hspace hsep hends hstep

/-- If line breaks are white space, there is no separator and no white space ends a sentence, then
passes in any order keep the paragraphs and at most cut words; only breaking lines does that. -/
theorem paragraphWords_preserved (cfg : Config) (hspace : cfg.newline.isBlank = true)
    (hsep : cfg.separator? = none)
    (hends : ∀ c, cfg.isLineEnd c = true → Text.isSpace c = false) :
    (∀ (ps : List Pass) (ls out : List Line), Pass.applyAll cfg ps ls = .ok out →
      List.Forall₂ CutInto (paragraphWords ls) (paragraphWords out)) ∧
    (∀ (p : Pass) (ls out : List Line), p ≠ .breakLines → p.apply cfg ls = .ok out →
      paragraphWords out = paragraphWords ls) ∧
    (∀ (rows : List Text) (out : List Line), cfg.run rows = .ok out →
      List.Forall₂ CutInto (paragraphWords (rows.map Line.ofRow)) (paragraphWords out)) := by
  refine ⟨?_, ?_, ?_⟩
  · intro ps ls out h
    exact applyAll_cut hspace hsep hends h
  · intro p ls out hp h
    exact apply_paragraphWords hsep hends hp h
  · intro rows out h
    obtain ⟨rules, -, h⟩ := bind_eq_ok_iff.mp h
    exact applyAll_cut hspace hsep hends h

/-- A word cut at a macro, a sentence end, a soft line break and a paragraph. -/
theorem paragraphWords_preserved_breaks :
    let cfg : Config := { breaks := [⟨['x'], .around⟩] }
    let ls := ["a\\x b. c", "d  e", " "].map fun s => Line.ofRow s.toList
    let out := ["a", "\\x", "b.", "c d e", " "].map fun s => Line.ofRow s.toList
    cfg.newline.isBlank = true ∧ cfg.separator? = none ∧
      (∀ c, cfg.isLineEnd c = true → Text.isSpace c = false) ∧
      Pass.applyAll cfg [.merge, .splitSentences, .breakLines, .collapse] ls = .ok out ∧
      List.Forall₂ CutInto (paragraphWords ls) (paragraphWords out) := by
  intro cfg ls out
  have hends : ∀ c, cfg.isLineEnd c = true → Text.isSpace c = false := by
    intro c hc
    have hmem : c = '.' ∨ c = '!' ∨ c = '?' := by simpa [cfg, Config.isLineEnd] using hc
    rcases hmem with rfl | rfl | rfl <;> rfl
  have hrun : Pass.applyAll cfg [.merge, .splitSentences, .breakLines, .collapse] ls = .ok out := by
    decide +kernel
  exact ⟨rfl, rfl, hends, hrun, (paragraphWords_preserved cfg rfl rfl hends).1 _ _ _ hrun⟩

end TexReflow
