import TexReflow.Proofs.Gaps
import TexReflow.Proofs.InlineMath
import TexReflow.Proofs.RunLines

/-!
# Canonical form

Where lines are joined and sentences are cut, and nothing else is asked for, a run brings a document
without comments into a form that no further run changes: of each paragraph the sentences, one in a
line, and one empty line between paragraphs. Merging puts the sentences of a paragraph together
again, and cutting finds the same ones.
-/

namespace TexReflow

/-- The settings ask for nothing but joining lines and, perhaps, cutting sentences. Inline math, if
there is any, stands between dollar signs. -/
structure Reflows (cfg : Config) : Prop where
  joinLines : cfg.joinLines = true
  breaks : cfg.breaks = []
  verbatim : cfg.verbatim = {}
  math : cfg.math = {}
  keepAfter : cfg.keepAfter = none
  keepBefore : cfg.keepBefore = none
  separator : cfg.separator? = none
  newline : cfg.newline = ['\n']
  lineEnds : ∀ c, cfg.isLineEnd c = true → Text.isSpace c = false
  inlineMath : cfg.inlineMath = {} ∨
    ∃ p, Pattern.parse "\\$".toList = .ok p ∧ cfg.inlineMath = ⟨some p, some p⟩

theorem Reflows.exists_toggles {cfg : Config} (hcfg : Reflows cfg) :
    ∃ flips, Sentence.Toggles cfg flips := by
  rcases hcfg.inlineMath with hmath | ⟨p, hp, hmath⟩
  · exact ⟨_, Sentence.toggles_none hmath hcfg.lineEnds⟩
  · exact ⟨_, Sentence.toggles_dollar hp hmath hcfg.lineEnds⟩

/-- A trimmed row without a comment, about which nothing is known. -/
structure Line.Bare (l : Line) : Prop where
  eq_ofRow : l = .ofRow l.content
  trimmed : l.content.trim = l.content
  row : '\n' ∉ l.content
  percent : '%' ∉ l.content

namespace Line.Bare

theorem ready {l : Line} (h : l.Bare) : l.Ready where
  trimmed := fun _ => h.trimmed
  row := h.row
  comment := by
    rw [Comment.isWhole_of_not_mem h.percent, h.eq_ofRow]
    rfl

theorem content_eq_nil {l : Line} (h : l.Bare) (hblank : l.isBlank = true) : l.content = [] := by
  rw [← h.trimmed]
  exact (Text.trim_eq_nil_iff l.content).mpr hblank

/-- As a row the line is read as it is. -/
theorem opened {l : Line} (h : l.Bare) : TexReflow.opened l.content = l := by
  rw [TexReflow.opened, h.trimmed, Comment.isWhole_of_not_mem h.percent]
  exact h.eq_ofRow.symm

theorem join {first second : Line} (hfirst : first.Bare) (hsecond : second.Bare) :
    (Paragraph.join first second).Bare := by
  have hmem {c : Char} (hc : c ∈ (Paragraph.join first second).content) :
      c ∈ first.content ∨ c = ' ' ∨ c ∈ second.content := by
    simpa using Text.mem_of_mem_trim hc
  refine ⟨?_, Text.trim_trim _, ?_, ?_⟩
  · rw [Paragraph.join, hfirst.eq_ofRow]
    rfl
  · intro hrow
    rcases hmem hrow with h | h | h
    · exact hfirst.row h
    · cases h
    · exact hsecond.row h
  · intro hpercent
    rcases hmem hpercent with h | h | h
    · exact hfirst.percent h
    · cases h
    · exact hsecond.percent h

theorem foldl_join {first : Line} (hfirst : first.Bare) {ls : List Line} (hls : ∀ l ∈ ls, l.Bare) :
    (ls.foldl Paragraph.join first).Bare := by
  induction ls generalizing first with
  | nil => exact hfirst
  | cons l ls ih =>
      obtain ⟨hl, hls⟩ := List.forall_mem_cons.mp hls
      exact ih (hfirst.join hl) hls

end Line.Bare

theorem bare_opened {row : Text} (hrow : '\n' ∉ row) (hpercent : '%' ∉ row) :
    (opened row).Bare where
  eq_ofRow := by
    rw [opened, Comment.isWhole_of_not_mem hpercent]
    rfl
  trimmed := Text.trim_trim row
  row := fun h => hrow (Text.mem_of_mem_trim h)
  percent := fun h => hpercent (Text.mem_of_mem_trim h)

namespace Reflows

variable {cfg : Config} (hcfg : Reflows cfg)

include hcfg

/-- Two lines of a paragraph can always be joined. -/
theorem canJoin_eq {first second : Line} (hfirst : first.Bare) (hsecond : second.Bare) :
    Paragraph.canJoin cfg first second = (!first.isBlank && !second.isBlank) := by
  have hinside : Comment.inside first.content = false := Comment.inside_of_not_mem hfirst.percent
  have hflags {l : Line} (hl : l.Bare) : l.verbatim = false ∧ l.comment = false := by
    rw [hl.eq_ofRow]
    exact ⟨rfl, rfl⟩
  simp [Paragraph.canJoin, hcfg.keepAfter, hcfg.keepBefore, Pattern.marks, hinside,
    (hflags hfirst).1, (hflags hsecond).1, (hflags hsecond).2]

/-- A run of lines of one paragraph is joined before what follows is looked at. -/
theorem mergeFrom_append {first : Line} (hfirst : first.Bare) (hblank : first.isBlank = false)
    {ls : List Line} (hls : ∀ l ∈ ls, l.Bare ∧ l.isBlank = false) (rest : List Line) :
    Paragraph.mergeFrom cfg first (ls ++ rest) =
      Paragraph.mergeFrom cfg (ls.foldl Paragraph.join first) rest := by
  induction ls generalizing first with
  | nil => rfl
  | cons l ls ih =>
      obtain ⟨⟨hl, hlblank⟩, hls⟩ := List.forall_mem_cons.mp hls
      have hcan : Paragraph.canJoin cfg first l = true := by
        rw [hcfg.canJoin_eq hfirst hl, hblank, hlblank]
        rfl
      rw [List.cons_append, Paragraph.mergeFrom, if_pos hcan]
      exact ih (hfirst.join hl) (Paragraph.isBlank_join l hblank) hls

/-- Behind merging blank lines and others take turns, if no blank line followed a blank line. -/
theorem isChain_mergeFrom {first : Line} {ls : List Line} (hbare : ∀ l ∈ first :: ls, l.Bare)
    (hls : (first :: ls).IsChain fun l q => l.isBlank = true → q.isBlank = false) :
    (∃ q qs, Paragraph.mergeFrom cfg first ls = q :: qs ∧ q.isBlank = first.isBlank) ∧
      (Paragraph.mergeFrom cfg first ls).IsChain fun l q => l.isBlank = !q.isBlank := by
  induction ls generalizing first with
  | nil => exact ⟨⟨first, [], rfl, rfl⟩, .singleton first⟩
  | cons second ls ih =>
      obtain ⟨hfirst, hbare⟩ := List.forall_mem_cons.mp hbare
      obtain ⟨hsecond, hrest⟩ := List.forall_mem_cons.mp hbare
      obtain ⟨hturn, hls⟩ := List.isChain_cons_cons.mp hls
      have hcan := hcfg.canJoin_eq hfirst hsecond
      rw [Paragraph.mergeFrom]
      split
      next hjoin =>
        rw [hjoin, eq_comm, Bool.and_eq_true, Bool.not_eq_true', Bool.not_eq_true'] at hcan
        have hblank := Paragraph.isBlank_join second hcan.1
        have hnext : (Paragraph.join first second :: ls).IsChain fun l q =>
            l.isBlank = true → q.isBlank = false := by
          refine List.isChain_cons.mpr ⟨?_, (List.isChain_cons.mp hls).2⟩
          intro q _ h
          rw [hblank] at h
          cases h
        obtain ⟨⟨q, qs, hqs, hq⟩, hchain⟩ :=
          ih (List.forall_mem_cons.mpr ⟨hfirst.join hsecond, hrest⟩) hnext
        exact ⟨⟨q, qs, hqs, by rw [hq, hblank, hcan.1]⟩, hchain⟩
      next hjoin =>
        obtain ⟨⟨q, qs, hqs, hq⟩, hchain⟩ := ih hbare hls
        refine ⟨⟨first, _, rfl, rfl⟩, List.isChain_cons.mpr ⟨?_, hchain⟩⟩
        rw [hqs]
        rintro _ ⟨⟩
        rw [hq]
        rw [hcan] at hjoin
        cases hblank : first.isBlank with
        | true => rw [hturn hblank, Bool.not_false]
        | false =>
            rw [hblank] at hjoin
            simpa using hjoin

/-- Behind dropping and merging blank lines and others take turns. -/
theorem isChain_merge {ls : List Line} (hls : ∀ l ∈ ls, l.Bare) :
    (∀ l ∈ Paragraph.merge cfg (Paragraph.dedup ls), l.Bare) ∧
      (Paragraph.merge cfg (Paragraph.dedup ls)).IsChain fun l q => l.isBlank = !q.isBlank := by
  have hbare : ∀ l ∈ Paragraph.dedup ls, l.Bare := Pass.forall_dropBlanks hls
  have hchain := isChain_dedup ls
  cases hkept : Paragraph.dedup ls with
  | nil => exact ⟨by simp [Paragraph.merge], .nil⟩
  | cons first rest =>
      rw [hkept] at hbare hchain
      have hturn : (first :: rest).IsChain fun l q => l.isBlank = true → q.isBlank = false := by
        refine hchain.imp_of_mem_imp ?_
        intro l q _ hq h hblank
        rw [Bool.eq_false_iff]
        intro hqblank
        have hverbatim := h hblank hqblank
        rw [(hbare q hq).eq_ofRow] at hverbatim
        cases hverbatim
      obtain ⟨hfirst, hrest⟩ := List.forall_mem_cons.mp hbare
      exact ⟨Pass.forall_mergeFrom (fun _ => Line.Bare.join) hfirst hrest,
        (hcfg.isChain_mergeFrom hbare hturn).2⟩

end Reflows

/-- The lines that a run makes of a line behind merging. -/
def reflowed (cfg : Config) (l : Line) : List Line :=
  ((if cfg.splitSentences then if Sentence.skips l then [l] else Sentence.split cfg l
    else [l]).map Line.trim).map Line.collapse

theorem applyAll_closing_eq (cfg : Config) (ms : List Line) :
    Pass.applyAll cfg ((if cfg.splitSentences then [.splitSentences] else []) ++
      [.trim, .collapse]) ms = .ok (ms.flatMap (reflowed cfg)) := by
  rw [Pass.applyAll_closing]
  unfold reflowed
  cases cfg.splitSentences with
  | true => simp [Sentence.splitAll, List.map_flatMap]
  | false =>
      simp only [Bool.false_eq_true, if_false, List.map_map]
      rw [List.map_eq_flatMap]
      rfl

namespace Reflows

variable {cfg : Config} (hcfg : Reflows cfg)

include hcfg

theorem rules_eq : cfg.rules = .ok [] := by
  rw [Config.rules, hcfg.breaks]
  rfl

/-- Without macros there is nothing to break. -/
theorem breakLines_eq {ms : List Line} (hms : ∀ m ∈ ms, m.Bare) :
    Pass.breakLines.apply cfg ms = .ok ms := by
  rw [Pass.apply, hcfg.rules_eq, hcfg.newline]
  refine (Macro.breakLines_eq_self_iff [] fun m hm => (hms m hm).ready).mpr ?_
  intro m hm
  have hsame : Macro.insertBreaks [] ['\n'] m.content = m.content :=
    Comment.split_append m.content
  rw [hsame, (hms m hm).trimmed]
  exact .inr (.inr (.inr rfl))

/-- A run joins the lines of each paragraph, and makes its lines of the result. -/
theorem run_eq_flatMap {rows : List Text} (hrows : ∀ row ∈ rows, '\n' ∉ row ∧ '%' ∉ row) :
    cfg.run rows =
      .ok ((Paragraph.merge cfg (Paragraph.dedup (rows.map opened))).flatMap (reflowed cfg)) := by
  have hbare : ∀ l ∈ rows.map opened, l.Bare :=
    List.forall_mem_map.mpr fun row hrow => bare_opened (hrows row hrow).1 (hrows row hrow).2
  have hmerged := (hcfg.isChain_merge hbare).1
  have hverbatim : cfg.verbatim.opening = none ∧ cfg.verbatim.closing = none := by
    rw [hcfg.verbatim]
    exact ⟨rfl, rfl⟩
  rw [run_eq_merge hcfg.joinLines hverbatim.1 hverbatim.2, hcfg.rules_eq]
  generalize Paragraph.merge cfg (Paragraph.dedup (rows.map opened)) = ms at hmerged
  have hmath : Pass.markMath.apply cfg ms = .ok ms := by
    rw [Pass.apply, Region.markMath, Region.mark, hcfg.math]
    rfl
  calc
    _ = Pass.breakLines.apply cfg ms >>= fun ls => Pass.markMath.apply cfg ls >>= fun ls =>
        Pass.applyAll cfg ((if cfg.splitSentences then [.splitSentences] else []) ++
          [.trim, .collapse]) ls := by
      rw [List.append_assoc, List.cons_append, List.cons_append, List.nil_append]
      rfl
    _ = Pass.markMath.apply cfg ms >>= fun ls =>
        Pass.applyAll cfg ((if cfg.splitSentences then [.splitSentences] else []) ++
          [.trim, .collapse]) ls := by
      rw [hcfg.breakLines_eq hmerged]
      rfl
    _ = .ok (ms.flatMap (reflowed cfg)) := by
      rw [hmath]
      exact applyAll_closing_eq cfg ms

end Reflows

theorem reflowed_of_blank (cfg : Config) {l : Line} (hl : l.Bare) (hblank : l.isBlank = true) :
    reflowed cfg l = [l] := by
  have hskip : Sentence.skips l = true := by simp [Sentence.skips, hblank]
  have hl : l = .ofRow [] := by rw [hl.eq_ofRow, hl.content_eq_nil hblank]
  rw [reflowed, hskip, if_pos rfl, ite_self, hl]
  rfl

/-- The texts that a paragraph becomes: its sentences, or the whole of it. -/
def formed (cfg : Config) (t : Text) : List Text :=
  if cfg.splitSentences then (Sentence.sentences (Sentence.segments cfg t)).map Text.collapse
  else [t.collapse]

namespace Reflows

variable {cfg : Config} (hcfg : Reflows cfg)

include hcfg

theorem reflowed_of_not_blank {l : Line} (hl : l.Bare) (hblank : l.isBlank = false) :
    reflowed cfg l = (formed cfg l.content).map Line.ofRow := by
  have hskip : Sentence.skips l = false := by
    rw [Sentence.skips, hblank, hl.eq_ofRow]
    rfl
  have hclosed {t : Text} (ht : t.trim = t) :
      (l.withContent t).trim.collapse = .ofRow t.collapse := by
    rw [hl.eq_ofRow]
    simp [Line.trim, Line.collapse, Line.withContent, Line.ofRow, ht]
  rw [reflowed, formed, hskip, Sentence.split_eq_map cfg l hcfg.separator]
  cases cfg.splitSentences with
  | true =>
      simp only [if_true, Bool.false_eq_true, if_false, List.map_map]
      apply List.map_congr_left
      intro t ht
      obtain ⟨s, -, rfl⟩ := Sentence.exists_of_mem_sentences ht
      exact hclosed (Text.trim_trim s)
  | false => exact congrArg List.singleton (hclosed hl.trimmed)

/-- What a paragraph becomes, put together with spaces, becomes the same again. -/
theorem formed_spaced {t : Text} (htrim : t.trim = t) (hblank : t.isBlank = false) :
    ∃ u us, formed cfg t = u :: us ∧ formed cfg (Sentence.spaced u us) = u :: us := by
  rw [formed]
  split
  next hsplit =>
    obtain ⟨flips, hflips⟩ := hcfg.exists_toggles
    obtain ⟨u, us, hus, hagain⟩ := hflips.sentences_spaced htrim hblank
    exact ⟨u, us, hus, by rw [formed, if_pos hsplit, hagain]⟩
  next hsplit =>
    refine ⟨t.collapse, [], rfl, ?_⟩
    rw [formed, if_neg hsplit, Sentence.spaced, List.flatMap_nil, List.append_nil,
      Text.collapse_collapse]

/-- A text that a paragraph becomes is trimmed, not blank, and made of its characters. -/
theorem mem_formed {t v : Text} (htrim : t.trim = t) (hblank : t.isBlank = false)
    (hv : v ∈ formed cfg t) : v.trim = v ∧ v.isBlank = false ∧ ∀ c ∈ v, c ∈ t := by
  rw [formed] at hv
  split at hv
  next =>
    obtain ⟨u, hu, rfl⟩ := List.mem_map.mp hv
    have hnot := Sentence.sentences_not_blank hcfg.lineEnds (Sentence.segments_cut cfg t) u hu
    obtain ⟨s, hs, rfl⟩ := Sentence.exists_of_mem_sentences hu
    refine ⟨Text.trim_collapse (Text.trim_trim s), (Text.isBlank_collapse _).trans hnot, ?_⟩
    intro c hc
    rw [← Sentence.segments_flatten cfg t]
    exact List.mem_flatten_of_mem hs (Text.mem_of_mem_trim (Text.mem_of_mem_collapse hc))
  next =>
    rw [List.mem_singleton.mp hv]
    exact ⟨Text.trim_collapse htrim, (Text.isBlank_collapse t).trans hblank,
      fun c hc => Text.mem_of_mem_collapse hc⟩

end Reflows

/-- Joining trimmed texts puts them together with spaces. -/
theorem foldl_join_ofRow {u : Text} {us : List Text}
    (h : ∀ v ∈ u :: us, v.trim = v ∧ v.isBlank = false) :
    (us.map Line.ofRow).foldl Paragraph.join (.ofRow u) = .ofRow (Sentence.spaced u us) := by
  induction us generalizing u with
  | nil => simp [Sentence.spaced]
  | cons v us ih =>
      obtain ⟨hu, h⟩ := List.forall_mem_cons.mp h
      obtain ⟨hv, hus⟩ := List.forall_mem_cons.mp h
      have hne {t : Text} (ht : t.isBlank = false) : t ≠ [] := by
        rintro rfl
        cases ht
      have hpair : Text.trim (u ++ ' ' :: v) = u ++ ' ' :: v := by
        apply Text.trim_eq_self
        · rw [List.head?_append_of_ne_nil _ (hne hu.2), ← hu.1]
          exact Text.head_trim u
        · rw [List.append_cons, List.getLast?_append_of_ne_nil _ (hne hv.2), ← hv.1]
          exact Text.getLast_trim v
      have hjoin : Paragraph.join (.ofRow u) (.ofRow v) = .ofRow (u ++ ' ' :: v) :=
        congrArg Line.ofRow hpair
      rw [List.map_cons, List.foldl_cons, hjoin, ih]
      · simp [Sentence.spaced]
      · refine List.forall_mem_cons.mpr ⟨⟨hpair, ?_⟩, hus⟩
        rw [Text.isBlank_append, hu.2, Bool.false_and]

/-- Lines that stand for a line behind merging: one blank line, or lines that merging puts together
to a line that becomes them again. -/
structure Block (cfg : Config) (l first : Line) (rest : List Line) : Prop where
  eq_cons : reflowed cfg l = first :: rest
  bare : ∀ q ∈ first :: rest, q.Bare ∧ q.isBlank = l.isBlank
  rest_eq_nil : l.isBlank = true → rest = []
  joined : (rest.foldl Paragraph.join first).isBlank = l.isBlank
  again : reflowed cfg (rest.foldl Paragraph.join first) = first :: rest

namespace Reflows

variable {cfg : Config} (hcfg : Reflows cfg)

include hcfg

theorem exists_block {l : Line} (hl : l.Bare) : ∃ first rest, Block cfg l first rest := by
  cases hblank : l.isBlank with
  | true =>
      have hself := reflowed_of_blank cfg hl hblank
      exact ⟨l, [], hself, List.forall_mem_singleton.mpr ⟨hl, rfl⟩, fun _ => rfl, rfl, hself⟩
  | false =>
      obtain ⟨u, us, hus, hagain⟩ := hcfg.formed_spaced hl.trimmed hblank
      have hmem : ∀ v ∈ u :: us, v.trim = v ∧ v.isBlank = false ∧ ∀ c ∈ v, c ∈ l.content := by
        rw [← hus]
        exact fun v hv => hcfg.mem_formed hl.trimmed hblank hv
      have hbare : ∀ q ∈ (u :: us).map Line.ofRow, q.Bare ∧ q.isBlank = false := by
        rw [List.forall_mem_map]
        intro v hv
        obtain ⟨htrim, hnot, hchars⟩ := hmem v hv
        exact ⟨⟨rfl, htrim, fun h => hl.row (hchars _ h), fun h => hl.percent (hchars _ h)⟩, hnot⟩
      have hjoin := foldl_join_ofRow fun v hv => ⟨(hmem v hv).1, (hmem v hv).2.1⟩
      have hline : (Line.ofRow (Sentence.spaced u us)).Bare := by
        rw [← hjoin]
        obtain ⟨hfirst, hrest⟩ := List.forall_mem_cons.mp hbare
        exact hfirst.1.foldl_join fun q hq => (hrest q hq).1
      have hnot : (Line.ofRow (Sentence.spaced u us)).isBlank = false := by
        change Text.isBlank (u ++ _) = false
        rw [Text.isBlank_append, (hmem u List.mem_cons_self).2.1, Bool.false_and]
      refine ⟨.ofRow u, us.map .ofRow, ?_, by rwa [hblank], ?_, ?_, ?_⟩
      · rw [hcfg.reflowed_of_not_blank hl hblank, hus]
        rfl
      · intro h
        rw [hblank] at h
        cases h
      · rw [hjoin, hnot, hblank]
      · rw [hjoin, hcfg.reflowed_of_not_blank hline hnot]
        exact congrArg (List.map Line.ofRow) hagain

/-- A block is put together before the line behind it, of the other kind, is looked at. -/
theorem merge_block {l first : Line} {rest : List Line} (hblock : Block cfg l first rest)
    {ls : List Line} (hls : ∀ q ∈ ls.head?, q.Bare ∧ l.isBlank = !q.isBlank) :
    Paragraph.merge cfg (first :: rest ++ ls) =
      rest.foldl Paragraph.join first :: Paragraph.merge cfg ls := by
  obtain ⟨⟨hfirst, hblank⟩, hrest⟩ := List.forall_mem_cons.mp hblock.bare
  have hjoined : Paragraph.merge cfg (first :: rest ++ ls) =
      Paragraph.mergeFrom cfg (rest.foldl Paragraph.join first) ls := by
    cases hl : l.isBlank with
    | true =>
        rw [hblock.rest_eq_nil hl]
        rfl
    | false =>
        rw [hl] at hblank hrest
        exact hcfg.mergeFrom_append hfirst hblank hrest ls
  rw [hjoined]
  cases ls with
  | nil => rfl
  | cons q ls =>
      obtain ⟨hq, hturn⟩ := hls q rfl
      have hline := hfirst.foldl_join fun q hq => (hrest q hq).1
      have hcan : Paragraph.canJoin cfg (rest.foldl Paragraph.join first) q = false := by
        rw [hcfg.canJoin_eq hline hq, hblock.joined, hturn]
        cases q.isBlank <;> rfl
      rw [Paragraph.mergeFrom, hcan, if_neg (by simp)]
      rfl

end Reflows

private theorem dropBlanks_of_not_blank {ls : List Line} (h : ∀ l ∈ ls, l.isBlank = false)
    (blank : Bool) : Paragraph.dropBlanks blank ls = ls := by
  induction ls generalizing blank with
  | nil => rfl
  | cons l ls ih =>
      obtain ⟨hl, hls⟩ := List.forall_mem_cons.mp h
      rw [Paragraph.dropBlanks_cons blank hl, ih hls]

section

variable {cfg : Config} {ms : List Line} (hblocks : ∀ m ∈ ms, ∃ first rest, Block cfg m first rest)
  (hturns : ms.IsChain fun l q => l.isBlank = !q.isBlank)

include hblocks hturns

/-- In blocks that take turns there is no blank line to drop. -/
private theorem dropBlanks_blocks (blank : Bool)
    (hblank : ∀ m ∈ ms.head?, blank = true → m.isBlank = false) :
    Paragraph.dropBlanks blank (ms.flatMap (reflowed cfg)) = ms.flatMap (reflowed cfg) := by
  induction ms generalizing blank with
  | nil => rfl
  | cons m ms ih =>
      obtain ⟨⟨first, rest, hblock⟩, hblocks⟩ := List.forall_mem_cons.mp hblocks
      obtain ⟨hturn, hturns⟩ := List.isChain_cons.mp hturns
      have hfirst := (hblock.bare first List.mem_cons_self).2
      rw [List.flatMap_cons, hblock.eq_cons]
      cases hm : m.isBlank with
      | true =>
          have hnext : ∀ q ∈ ms.head?, true = true → q.isBlank = false := by
            intro q hq _
            have hother := hturn q hq
            rw [hm] at hother
            simpa using hother.symm
          have hstart : blank = false := by
            rw [Bool.eq_false_iff]
            intro h
            rw [hblank m rfl h] at hm
            cases hm
          rw [hblock.rest_eq_nil hm, hstart, List.singleton_append, Paragraph.dropBlanks, hfirst,
            hm, if_neg (by simp), ih hblocks hturns true hnext]
      | false =>
          have hnot : ∀ q ∈ first :: rest, q.isBlank = false :=
            fun q hq => (hblock.bare q hq).2.trans hm
          have hlast : (((first :: rest).map Line.isBlank).getLast?.getD blank) = false := by
            rw [List.getLast?_map, List.getLast?_eq_some_getLast (List.cons_ne_nil first rest)]
            exact hnot _ (List.getLast_mem _)
          rw [Paragraph.dropBlanks_append, dropBlanks_of_not_blank hnot, hlast,
            ih hblocks hturns false (by simp)]

/-- Merging puts each block together, and what it gives becomes the blocks again. -/
private theorem merge_blocks (hcfg : Reflows cfg) :
    (Paragraph.merge cfg (ms.flatMap (reflowed cfg))).flatMap (reflowed cfg) =
      ms.flatMap (reflowed cfg) := by
  induction ms with
  | nil => rfl
  | cons m ms ih =>
      obtain ⟨⟨first, rest, hblock⟩, hblocks⟩ := List.forall_mem_cons.mp hblocks
      obtain ⟨hturn, hturns⟩ := List.isChain_cons.mp hturns
      have hnext : ∀ q ∈ (ms.flatMap (reflowed cfg)).head?, q.Bare ∧ m.isBlank = !q.isBlank := by
        intro q hq
        cases ms with
        | nil => cases hq
        | cons m' ms =>
            obtain ⟨⟨first', rest', hblock'⟩, -⟩ := List.forall_mem_cons.mp hblocks
            rw [List.flatMap_cons, hblock'.eq_cons] at hq
            obtain rfl : first' = q := Option.some.inj hq
            obtain ⟨hbare, hblank⟩ := hblock'.bare first' List.mem_cons_self
            exact ⟨hbare, by rw [hblank]; exact hturn m' rfl⟩
      rw [List.flatMap_cons, hblock.eq_cons, hcfg.merge_block hblock hnext, List.flatMap_cons,
        hblock.again, ih hblocks hturns]

/-- The blocks are rows that a run leaves as they are. -/
private theorem run_blocks (hcfg : Reflows cfg) :
    cfg.run ((ms.flatMap (reflowed cfg)).map (·.content)) = .ok (ms.flatMap (reflowed cfg)) := by
  have hbare : ∀ l ∈ ms.flatMap (reflowed cfg), l.Bare := by
    intro l hl
    obtain ⟨m, hm, hl⟩ := List.mem_flatMap.mp hl
    obtain ⟨first, rest, hblock⟩ := hblocks m hm
    rw [hblock.eq_cons] at hl
    exact (hblock.bare l hl).1
  have hsame : ((ms.flatMap (reflowed cfg)).map (·.content)).map opened =
      ms.flatMap (reflowed cfg) := by
    rw [List.map_map]
    exact (List.map_congr_left fun l hl => (hbare l hl).opened).trans (List.map_id _)
  rw [hcfg.run_eq_flatMap, hsame, Paragraph.dedup, dropBlanks_blocks hblocks hturns false (by simp),
    merge_blocks hblocks hturns hcfg]
  rw [List.forall_mem_map]
  exact fun l hl => ⟨(hbare l hl).row, (hbare l hl).percent⟩

end

/-- Under settings that join lines and cut sentences a document without a percent sign becomes a
text that a second run leaves as it is. -/
theorem process_process {cfg : Config} (hcfg : Reflows cfg) {t : Text} (ht : '%' ∉ t) :
    ∃ o, cfg.process t = .ok o ∧ cfg.process o = .ok o := by
  have hbreak := Text.not_isBreak_of_mem_rowsBy Text.isRowBreak t
  have hpercent := Text.forall_rowsBy Text.isRowBreak (P := (· ≠ '%')) fun c hc h => ht (h ▸ hc)
  have hrows : ∀ row ∈ t.rows, '\n' ∉ row ∧ '%' ∉ row := by
    intro row hrow
    refine ⟨?_, fun h => hpercent row hrow _ h rfl⟩
    intro h
    cases hbreak row hrow _ h
  have hopened : ∀ l ∈ t.rows.map opened, l.Bare :=
    List.forall_mem_map.mpr fun row hrow => bare_opened (hrows row hrow).1 (hrows row hrow).2
  obtain ⟨hbare, hturns⟩ := hcfg.isChain_merge hopened
  have hrun := hcfg.run_eq_flatMap hrows
  have hagain := run_blocks (fun m hm => hcfg.exists_block (hbare m hm)) hturns hcfg
  refine ⟨_, process_eq_ok_iff.mpr ⟨_, hrun, rfl⟩, process_eq_ok_iff.mpr ⟨_, ?_, rfl⟩⟩
  have hlines := run_unbroken hcfg.newline (by simp [hcfg.separator]) hbreak hrun
  rw [hcfg.newline, rows_join hlines]
  exact hagain

/-- Paragraphs with inline math, a tab behind a sentence end and several blank rows. -/
theorem process_process_dollar :
    let dollar := (Pattern.parse "\\$".toList).toOption
    let cfg : Config := { inlineMath := ⟨dollar, dollar⟩ }
    let document : Text := "\n\na $x. y$  b.  \tc\n d!\r\n \n\n$e. f".toList
    let o : Text := "\na $x. y$ b.\nc d!\n\n$e. f\n".toList
    Reflows cfg ∧ '%' ∉ document ∧ cfg.process document = .ok o ∧ cfg.process o = .ok o := by
  intro dollar cfg document o
  have hcfg : Reflows cfg := by
    refine ⟨rfl, rfl, rfl, rfl, rfl, rfl, rfl, rfl, ?_, .inr ?_⟩
    · intro c hc
      have hmem : [c] ∈ [['.'], ['!'], ['?']] := List.contains_iff_mem.mp hc
      simp only [List.mem_cons, List.cons.injEq, and_true, List.not_mem_nil, or_false] at hmem
      rcases hmem with rfl | rfl | rfl <;> rfl
    · refine ⟨⟨"\\$".toList, .one ⟨[.single '$'], false, false⟩⟩, ?_, ?_⟩ <;> decide +kernel
  have hpercent : '%' ∉ document := by decide +kernel
  have hfirst : cfg.process document = .ok o := by decide +kernel
  obtain ⟨out, hout, hagain⟩ := process_process hcfg hpercent
  rw [hfirst] at hout
  cases hout
  exact ⟨hcfg, hpercent, hfirst, hagain⟩

end TexReflow
