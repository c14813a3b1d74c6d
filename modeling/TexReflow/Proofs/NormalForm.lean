import TexReflow.Proofs.Faults
import TexReflow.Proofs.RunLines

/-!
# The form of a result

A run ends by cutting sentences, trimming and collapsing. The last two keep what the ones before
have reached: outside of verbatim regions a line is trimmed and has single spaces, no line has a row
break in it, and no sentence ends inside of a line that was looked at. So the text of a result is
read back as the lines that were written.
-/

namespace TexReflow

/-- The lines of a run behind the marks of block math, before sentences are cut. -/
def Config.marked (cfg : Config) (rows : List Text) : Except Fault (List Line) :=
  Pass.applyAll cfg (cfg.openingPasses ++ [.markMath]) (rows.map Line.ofRow)

/-- A run cuts the marked lines into sentences, if it is asked to, then trims and collapses. -/
theorem exists_marked {cfg : Config} {rows : List Text} {out : List Line}
    (h : cfg.run rows = .ok out) :
    ∃ ls, cfg.marked rows = .ok ls ∧
      out = ((if cfg.splitSentences then Sentence.splitAll cfg ls else ls).map Line.trim).map
        Line.collapse := by
  obtain ⟨rules, -, h⟩ := bind_eq_ok_iff.mp h
  rw [Config.passes_eq, Config.closingPasses, List.append_cons, Pass.applyAll_append] at h
  obtain ⟨ls, hls, h⟩ := bind_eq_ok_iff.mp h
  rw [Pass.applyAll_closing, Except.ok.injEq] at h
  exact ⟨ls, hls, h.symm⟩

theorem not_infix_of_isChain {α : Type} {R : α → α → Prop} {xs : List α} {a b : α}
    (h : xs.IsChain R) (hab : ¬R a b) : ¬[a, b] <:+: xs := by
  intro hinfix
  have hpair := List.IsChain.infix h hinfix
  exact hab (List.isChain_pair.mp hpair)

/-- Collapsing leaves no two spaces side by side. -/
theorem Text.isChain_collapse (t : Text) :
    t.collapse.IsChain fun c d => ¬(c = ' ' ∧ d = ' ') := by
  fun_induction Text.collapse t with
  | case1 => exact .nil
  | case2 c => exact .singleton c
  | case3 c d t h ih => exact ih
  | case4 c d t h ih =>
      refine List.isChain_cons.mpr ⟨?_, ih⟩
      intro e he
      rw [Text.head_collapse] at he
      cases he
      exact h

/-- The form of a line behind a run. -/
structure Line.Formed (cfg : Config) (l : Line) : Prop where
  trimmed : l.verbatim = false → l.content.trim = l.content
  spaced : l.verbatim = false → ¬[' ', ' '] <:+: l.content
  row : '\r' ∉ l.content ∧ '\n' ∉ l.content
  /-- Where nothing hides a sentence end, a line that is no comment and stands in no region has none
  in it. -/
  sentence : cfg.splitSentences = true → cfg.inlineMath = {} → cfg.separator? = none →
    l.verbatim = false → l.math = false → l.comment = false →
      ∀ c, cfg.isLineEnd c = true → ¬[c, ' '] <:+: l.content

/-- Of the lines that were cut, those that are not blank and were not skipped are sentences. -/
private theorem single_of_mem_splitAll {cfg : Config} (hinline : cfg.inlineMath = {})
    (hsep : cfg.separator? = none) {ls : List Line} {q : Line} (hq : q ∈ Sentence.splitAll cfg ls)
    (hverbatim : q.verbatim = false) (hmath : q.math = false) (hcomment : q.comment = false) :
    q.isBlank = true ∨ Sentence.Single cfg.isLineEnd q.content := by
  obtain ⟨l, -, hq⟩ := List.mem_flatMap.mp hq
  split at hq
  next hskip =>
    rw [List.mem_singleton.mp hq] at hverbatim hmath hcomment ⊢
    rw [Sentence.skips, hverbatim, hmath, hcomment] at hskip
    exact .inl (by simpa using hskip)
  next =>
    rcases (Sentence.mem_split hq).2 with ⟨s, hs, hcontent⟩ | hseparator
    · have hopening : cfg.inlineMath.opening = none := by rw [hinline]
      rw [hcontent]
      exact .inr (Sentence.single_of_mem_segments hopening _ s hs).trim
    · rw [hsep] at hseparator
      cases hseparator

/-- Trimming and collapsing give a line its form, if it is one row. -/
private theorem formed_of_mem {cfg : Config} {ls : List Line} {q : Line}
    (hq : q ∈ if cfg.splitSentences then Sentence.splitAll cfg ls else ls)
    (hrow : ∀ c ∈ q.trim.collapse.content, Text.isRowBreak c = false) :
    q.trim.collapse.Formed cfg := by
  have hflags : q.trim.collapse.verbatim = q.verbatim ∧ q.trim.collapse.math = q.math ∧
      q.trim.collapse.comment = q.comment := by
    cases hverbatim : q.verbatim <;> simp [Line.trim, Line.collapse, Line.withContent, hverbatim]
  have hcontent (hverbatim : q.verbatim = false) :
      q.trim.collapse.content = q.content.trim.collapse := by
    simp [Line.trim, Line.collapse, Line.withContent, hverbatim]
  have hbreak {c : Char} (hc : Text.isRowBreak c = true) : c ∉ q.trim.collapse.content := by
    intro hmem
    rw [hrow c hmem] at hc
    cases hc
  obtain ⟨hv, hm, hc⟩ := hflags
  refine ⟨?_, ?_, ⟨hbreak rfl, hbreak rfl⟩, ?_⟩
  · rw [hv]
    intro hverbatim
    rw [hcontent hverbatim]
    exact Text.trim_collapse (Text.trim_trim _)
  · rw [hv]
    intro hverbatim
    rw [hcontent hverbatim]
    exact not_infix_of_isChain (Text.isChain_collapse _) (by simp)
  · rw [hv, hm, hc]
    intro hsplit hinline hsep hverbatim hmath hcomment c hend
    rw [if_pos hsplit] at hq
    rw [hcontent hverbatim]
    rcases single_of_mem_splitAll hinline hsep hq hverbatim hmath hcomment with hblank | hsingle
    · rw [(Text.trim_eq_nil_iff _).mpr hblank]
      simp [Text.collapse]
    · exact not_infix_of_isChain hsingle.trim.collapse (by simp [hend])

/-- With settings that were read, the lines behind a run have their form, and the text of the result
has them as its rows. -/
theorem process_formed {settings t o : Text} {cfg : Config}
    (hcfg : Config.read settings {} = .ok cfg) (h : cfg.process t = .ok o) :
    ∃ ls, cfg.run t.rows = .ok ls ∧ (∀ l ∈ ls, l.Formed cfg) ∧ o.rows = ls.map (·.content) := by
  obtain ⟨hnewline, hseparator⟩ := Config.read_newline_separator hcfg
  obtain ⟨ls, hls, rfl⟩ := process_eq_ok_iff.mp h
  have hrows := run_unbroken hnewline hseparator
    (Text.not_isBreak_of_mem_rowsBy Text.isRowBreak t) hls
  refine ⟨ls, hls, ?_, by rw [hnewline, rows_join hrows]⟩
  obtain ⟨marked, -, rfl⟩ := exists_marked hls
  simp only [List.forall_mem_map] at hrows ⊢
  intro q hq
  exact formed_of_mem hq (hrows q hq)

/-- Two sentences in a row with two spaces, and a region whose lines keep theirs. -/
theorem process_formed_region :
    let pattern (t : Text) := (Pattern.parse t).toOption
    let cfg : Config := { verbatim := ⟨pattern ['B'], pattern ['E']⟩ }
    let t : Text := "a.  b  c.\r\nB  d. e\nE % f. g".toList
    let o : Text := "a.\nb c.\nB  d. e\nE % f. g\n".toList
    let ls : List Line :=
      [Line.ofRow "a.".toList, Line.ofRow "b c.".toList,
        { content := "B  d. e".toList, verbatim := true },
        { content := "E % f. g".toList, verbatim := true }]
    Config.read "begin_protect: B\nend_protect: E".toList {} = .ok cfg ∧ cfg.process t = .ok o ∧
      (∀ l ∈ ls, l.Formed cfg) ∧ ¬['.', ' '] <:+: "b c.".toList ∧ o.rows = ls.map (·.content) := by
  intro pattern cfg t o ls
  have hcfg : Config.read "begin_protect: B\nend_protect: E".toList {} = .ok cfg := by
    decide +kernel
  have h : cfg.process t = .ok o := by decide +kernel
  have hrun : cfg.run t.rows = .ok ls := by decide +kernel
  obtain ⟨ls', hls, hformed, hrows⟩ := process_formed hcfg h
  rw [hrun] at hls
  cases hls
  refine ⟨hcfg, h, hformed, ?_, hrows⟩
  exact (hformed (Line.ofRow "b c.".toList) (by simp [ls])).sentence rfl rfl rfl rfl rfl rfl '.' rfl

end TexReflow
