import TexReflow.Proofs.RunLines
import TexReflow.Proofs.Settings

/-!
# Stability

A run that keeps the line breaks looks at the rows of its own result one by one, except for the
regions it finds in them. So whether it changes the result of an earlier run is a matter of single
rows: of the breaks and sentence ends that a row shows when it stands alone. A macro that directly
follows another one is no invocation before the line is broken there, and becomes one behind the
break; this is why a second run can break again.
-/

namespace TexReflow

/-- A row that a run leaves as it is. In a verbatim region this is every row. Elsewhere the row is
trimmed and has single spaces, and unless it is blank or a comment, the breaks at its macros go to
its ends and no sentence ends inside of it. -/
def Rests (cfg : Config) (rules : List Macro.Rule) (row : Text) (inVerbatim inMath : Bool) : Prop :=
  inVerbatim = true ∨ (row.trim = row ∧ row.collapse = row) ∧
    (row.isBlank = true ∨ Comment.isWhole row = true ∨
      ((Macro.insertBreaks rules cfg.newline row).trim = row ∧
        (cfg.splitSentences = true → inMath = false → Sentence.segments cfg row = [row])))

instance (cfg : Config) (rules : List Macro.Rule) (row : Text) (inVerbatim inMath : Bool) :
    Decidable (Rests cfg rules row inVerbatim inMath) :=
  inferInstanceAs (Decidable (_ ∨ _))

/-- All rows of a document rest, with the regions that are found in it. -/
def Settled (cfg : Config) (rows : List Text) : Prop :=
  ∃ rules v m, cfg.rules = .ok rules ∧ Region.scan cfg.verbatim rows = .ok v ∧
    Region.scan cfg.math rows = .ok m ∧
    ∀ p ∈ rows.zip (v.mask.zip m.mask), Rests cfg rules p.1 p.2.1 p.2.2

/-- The line of a row before macros are looked at, and later with its mark for math. -/
private def lineOf (row : Text) (inVerbatim inMath : Bool) : Line :=
  { content := if inVerbatim then row else row.trim
    verbatim := inVerbatim
    math := inMath
    comment := Comment.isWhole row }

private theorem lineOf_ready {row : Text} (hrow : '\n' ∉ row) (inVerbatim inMath : Bool) :
    (lineOf row inVerbatim inMath).Ready := by
  cases inVerbatim with
  | true => exact ⟨by simp [lineOf], hrow, rfl⟩
  | false =>
      refine ⟨fun _ => Text.trim_trim row, ?_, (Comment.isWhole_trim row).symm⟩
      intro hmem
      exact hrow (Text.mem_of_mem_trim hmem)

private def sentenced (cfg : Config) (ls : List Line) : List Line :=
  if cfg.splitSentences then Sentence.splitAll cfg ls else ls

private theorem opened_eq (rows : List Text) (mask : List Bool) :
    ((List.zipWith (fun l inside => if inside then { l with verbatim := true } else l)
      (rows.map Line.ofRow) mask).map Line.trim).map Comment.mark =
      List.zipWith (lineOf · · false) rows mask := by
  simp only [List.zipWith_map_left, List.map_zipWith]
  congr 1
  funext row inside
  cases inside with
  | true => rfl
  | false =>
      simp [lineOf, Line.ofRow, Line.trim, Line.withContent, Comment.mark, Comment.isWhole_trim]

private theorem run_eq_ok_iff {cfg : Config} (hjoin : cfg.joinLines = false) {rows : List Text}
    {out : List Line} :
    cfg.run rows = .ok out ↔ ∃ rules v broken m, cfg.rules = .ok rules ∧
      Region.scan cfg.verbatim rows = .ok v ∧
      Macro.breakLines rules cfg.newline (List.zipWith (lineOf · · false) rows v.mask) =
        .ok broken ∧
      Region.scan cfg.math (broken.map (·.content)) = .ok m ∧
      out = ((sentenced cfg (List.zipWith
        (fun l inside => if inside then { l with math := true } else l) broken m.mask)).map
          Line.trim).map Line.collapse := by
  simp only [Config.run, Config.passes, hjoin, bind_eq_ok_iff, Pass.applyAll_cons, Pass.apply,
    mapError_eq_ok_iff, Region.markVerbatim, Region.markMath, Region.mark_eq_ok_iff,
    Line.map_content_ofRow, List.cons_append, List.nil_append, List.append_nil,
    Bool.false_eq_true, if_false, Pass.applyAll_closing, Except.ok.injEq, exists_eq_left']
  constructor
  · intro h
    obtain ⟨-, -, _, ⟨v, hv, rfl⟩, broken, ⟨rules, hrules, hbroken⟩, _, ⟨m, hm, rfl⟩, rfl⟩ := h
    rw [opened_eq] at hbroken
    exact ⟨rules, v, broken, m, hrules, hv, hbroken, hm, rfl⟩
  · intro h
    obtain ⟨rules, v, broken, m, hrules, hv, hbroken, hm, rfl⟩ := h
    rw [← opened_eq] at hbroken
    exact ⟨rules, hrules, _, ⟨v, hv, rfl⟩, broken, ⟨rules, hrules, hbroken⟩, _, ⟨m, hm, rfl⟩, rfl⟩

private theorem map_zip_zip {rows : List Text} {v m : List Bool} (hv : v.length = rows.length)
    (hm : m.length = rows.length) :
    (rows.zip (v.zip m)).map (·.1) = rows ∧ (rows.zip (v.zip m)).map (·.2.1) = v ∧
      (rows.zip (v.zip m)).map (·.2.2) = m := by
  have hsnd : (rows.zip (v.zip m)).map (·.2) = v.zip m :=
    List.map_snd_zip (by rw [List.length_zip]; omega)
  have hcomp (f : Bool × Bool → Bool) :
      (rows.zip (v.zip m)).map (fun p => f p.2) = (v.zip m).map f := by
    have hmap := congrArg (List.map f) hsnd
    rwa [List.map_map] at hmap
  refine ⟨List.map_fst_zip (by rw [List.length_zip]; omega), ?_, ?_⟩
  · rw [hcomp (·.1), List.map_fst_zip (by omega)]
  · rw [hcomp (·.2), List.map_snd_zip (by omega)]

private theorem zipWith_lineOf {rows : List Text} {v m : List Bool} (hv : v.length = rows.length)
    (hm : m.length = rows.length) :
    List.zipWith (lineOf · · false) rows v =
        (rows.zip (v.zip m)).map (fun p => lineOf p.1 p.2.1 false) ∧
      List.zipWith (fun l inside => if inside then { l with math := true } else l)
          (List.zipWith (lineOf · · false) rows v) m =
        (rows.zip (v.zip m)).map fun p => lineOf p.1 p.2.1 p.2.2 := by
  obtain ⟨hrows, hinVerbatim, hinMath⟩ := map_zip_zip hv hm
  clear hv hm
  generalize rows.zip (v.zip m) = ps at hrows hinVerbatim hinMath ⊢
  subst hrows hinVerbatim hinMath
  simp only [List.zipWith_map, List.zipWith_self, true_and]
  congr 1
  funext ⟨row, inVerbatim, inMath⟩
  cases inMath <;> rfl

private theorem closed_eq_self_iff (row : Text) :
    row.trim.trim.collapse = row ↔ row.trim = row ∧ row.collapse = row := by
  rw [Text.trim_trim]
  constructor
  · intro h
    have htrim : row.trim = row := by
      rw [← h, Text.trim_collapse (Text.trim_trim row)]
    rw [htrim] at h
    exact ⟨htrim, h⟩
  · intro h
    obtain ⟨htrim, hcollapse⟩ := h
    rw [htrim, hcollapse]

/-- A row rests if none of the passes changes its line. -/
private theorem rests_iff (cfg : Config) (rules : List Macro.Rule) (row : Text)
    (inVerbatim inMath : Bool) :
    Rests cfg rules row inVerbatim inMath ↔
      (lineOf row inVerbatim inMath).trim.collapse.content = row ∧
      (inVerbatim = true ∨ (lineOf row inVerbatim false).isBlank = true ∨
        Comment.isWhole (lineOf row inVerbatim false).content = true ∨
        (Macro.insertBreaks rules cfg.newline (lineOf row inVerbatim false).content).trim =
          (lineOf row inVerbatim false).content) ∧
      (cfg.splitSentences = true → Sentence.skips (lineOf row inVerbatim inMath) = true ∨
        Sentence.segments cfg (lineOf row inVerbatim inMath).content =
          [(lineOf row inVerbatim inMath).content]) := by
  cases inVerbatim with
  | true => simp [Rests, lineOf, Line.trim, Line.collapse, Sentence.skips]
  | false =>
      have hclosed : (lineOf row false inMath).trim.collapse.content = row ↔
          row.trim = row ∧ row.collapse = row := closed_eq_self_iff row
      rw [hclosed, Rests]
      simp only [Bool.false_eq_true, false_or]
      refine and_congr_right ?_
      intro h
      obtain ⟨htrim, -⟩ := h
      have hcontent (b : Bool) : (lineOf row false b).content = row := htrim
      have hskips : Sentence.skips (lineOf row false inMath) =
          (inMath || row.isBlank || Comment.isWhole row) := by
        simp only [Sentence.skips, Line.isBlank, hcontent]
        rfl
      simp only [Line.isBlank, hcontent, hskips]
      cases inMath <;> cases row.isBlank <;> cases Comment.isWhole row <;> simp

private theorem length_sentenced (cfg : Config) {ls : List Line}
    (hls : ∀ l ∈ ls, l.verbatim = false → l.content.trim = l.content) :
    ls.length ≤ (sentenced cfg ls).length ∧
      ((sentenced cfg ls).length = ls.length → sentenced cfg ls = ls) := by
  rw [sentenced]
  split
  · exact Sentence.length_splitAll cfg hls
  · exact ⟨Nat.le_refl _, fun _ => rfl⟩

/-- Neither breaking nor cutting takes lines away, so lines that do not get more are not changed. -/
private theorem unchanged_of_length {cfg : Config} {rules : List Macro.Rule}
    {ls broken : List Line} {mask : List Bool} (hls : ∀ l ∈ ls, l.Ready)
    (hbroken : Macro.breakLines rules ['\n'] ls = .ok broken) (hmask : mask.length = broken.length)
    (hlen : (sentenced cfg (List.zipWith
      (fun l inside => if inside then { l with math := true } else l) broken mask)).length =
        ls.length) :
    broken = ls ∧ sentenced cfg (List.zipWith
        (fun l inside => if inside then { l with math := true } else l) broken mask) =
      List.zipWith (fun l inside => if inside then { l with math := true } else l) broken mask := by
  have htrimmed : ∀ q ∈ List.zipWith
      (fun l inside => if inside then { l with math := true } else l) broken mask,
      q.verbatim = false → q.content.trim = q.content := by
    intro q hq
    obtain ⟨l, hl, hql⟩ := Region.mem_of_mem_marked hq
    have hready := Macro.ready_of_mem_breakLines rules hls hbroken l hl
    rcases hql with rfl | rfl <;> exact hready.trimmed
  obtain ⟨hmore, hbrokenSame⟩ := Macro.length_breakLines rules hls hbroken
  obtain ⟨hmoreCut, hcutSame⟩ := length_sentenced cfg htrimmed
  rw [List.length_zipWith] at hmoreCut hcutSame
  exact ⟨hbrokenSame (by omega), hcutSame (by omega)⟩

/-- No pass changes the lines of rows exactly if each of the rows rests. -/
private theorem forall_rests_iff {cfg : Config} (rules : List Macro.Rule)
    (hnewline : cfg.newline = ['\n']) {ps : List (Text × Bool × Bool)}
    (hps : ∀ p ∈ ps, '\n' ∉ p.1) :
    (∀ p ∈ ps, Rests cfg rules p.1 p.2.1 p.2.2) ↔
      (((ps.map fun p => lineOf p.1 p.2.1 p.2.2).map Line.trim).map Line.collapse).map (·.content) =
        ps.map (·.1) ∧
      Macro.breakLines rules cfg.newline (ps.map fun p => lineOf p.1 p.2.1 false) =
        .ok (ps.map fun p => lineOf p.1 p.2.1 false) ∧
      sentenced cfg (ps.map fun p => lineOf p.1 p.2.1 p.2.2) =
        ps.map fun p => lineOf p.1 p.2.1 p.2.2 := by
  have hready (b : Text × Bool × Bool → Bool) :
      ∀ l ∈ ps.map fun p => lineOf p.1 p.2.1 (b p), l.Ready := by
    rw [List.forall_mem_map]
    intro p hp
    exact lineOf_ready (hps p hp) _ _
  have hsentences : sentenced cfg (ps.map fun p => lineOf p.1 p.2.1 p.2.2) =
      (ps.map fun p => lineOf p.1 p.2.1 p.2.2) ↔ ∀ p ∈ ps, cfg.splitSentences = true →
        Sentence.skips (lineOf p.1 p.2.1 p.2.2) = true ∨
          Sentence.segments cfg (lineOf p.1 p.2.1 p.2.2).content =
            [(lineOf p.1 p.2.1 p.2.2).content] := by
    rw [sentenced]
    cases cfg.splitSentences with
    | true =>
        rw [if_pos rfl, Sentence.splitAll_eq_self_iff cfg fun l hl => (hready _ l hl).trimmed,
          List.forall_mem_map]
        simp only [true_implies]
    | false => simp
  simp only [rests_iff, hsentences, hnewline, Macro.breakLines_eq_self_iff rules (hready _),
    List.map_map, List.map_inj_left, List.forall_mem_map, forall_and]
  rfl

/-- Rows that rest are the contents of their lines from the start. -/
private theorem contents_of_rests {cfg : Config} {rules : List Macro.Rule} {rows : List Text}
    {v m : List Bool} (hv : v.length = rows.length) (hm : m.length = rows.length)
    (h : ∀ p ∈ rows.zip (v.zip m), Rests cfg rules p.1 p.2.1 p.2.2) :
    (List.zipWith (lineOf · · false) rows v).map (·.content) = rows := by
  have hcontent : ∀ p ∈ rows.zip (v.zip m), (lineOf p.1 p.2.1 false).content = p.1 := by
    intro p hp
    cases hinside : p.2.1 with
    | true => rfl
    | false =>
        obtain ⟨⟨htrim, -⟩, -⟩ := (h p hp).resolve_left (by simp [hinside])
        exact htrim
  rw [(zipWith_lineOf hv hm).1, List.map_map]
  exact (List.map_congr_left hcontent).trans (map_zip_zip hv hm).1

/-- The rows that a run with the line breaks kept does not change. -/
private theorem run_eq_self_iff {cfg : Config} (hjoin : cfg.joinLines = false)
    (hnewline : cfg.newline = ['\n']) {rows : List Text} (hrows : ∀ r ∈ rows, '\n' ∉ r) :
    (∃ out, cfg.run rows = .ok out ∧ out.map (·.content) = rows) ↔ Settled cfg rows := by
  have hps (v m : List Bool) : ∀ p ∈ rows.zip (v.zip m), '\n' ∉ p.1 := fun p hp =>
    hrows p.1 (List.of_mem_zip hp).1
  constructor
  · intro h
    obtain ⟨out, hout, hsame⟩ := h
    obtain ⟨rules, v, broken, m, hrules, hv, hbroken, hm, rfl⟩ := (run_eq_ok_iff hjoin).mp hout
    have hvlen := Region.scan_mask_length hv
    have hmlen := Region.scan_mask_length hm
    have hready : ∀ l ∈ List.zipWith (lineOf · · false) rows v.mask, l.Ready := by
      intro l hl
      rw [← List.map_uncurry_zip_eq_zipWith] at hl
      obtain ⟨⟨row, inside⟩, hmem, rfl⟩ := List.mem_map.mp hl
      exact lineOf_ready (hrows row (List.of_mem_zip hmem).1) inside false
    have hopened : (List.zipWith (lineOf · · false) rows v.mask).length = rows.length := by
      rw [List.length_zipWith, hvlen, Nat.min_self]
    have hlen := congrArg List.length hsame
    rw [List.length_map, List.length_map, List.length_map, ← hopened] at hlen
    rw [List.length_map] at hmlen
    obtain ⟨rfl, hcut⟩ := unchanged_of_length hready (hnewline ▸ hbroken) hmlen hlen
    rw [hopened] at hmlen
    rw [hcut, (zipWith_lineOf hvlen hmlen).2] at hsame
    rw [(zipWith_lineOf hvlen hmlen).2] at hcut
    rw [(zipWith_lineOf hvlen hmlen).1] at hbroken
    have hrests := (forall_rests_iff rules hnewline (hps v.mask m.mask)).mpr
      ⟨hsame.trans (map_zip_zip hvlen hmlen).1.symm, hbroken, hcut⟩
    rw [contents_of_rests hvlen hmlen hrests] at hm
    exact ⟨rules, v, m, hrules, hv, hm, hrests⟩
  · intro h
    obtain ⟨rules, v, m, hrules, hv, hm, hrests⟩ := h
    have hvlen := Region.scan_mask_length hv
    have hmlen := Region.scan_mask_length hm
    obtain ⟨hclosed, hbroken, hcut⟩ :=
      (forall_rests_iff rules hnewline (hps v.mask m.mask)).mp hrests
    rw [← (zipWith_lineOf hvlen hmlen).1] at hbroken
    rw [← (zipWith_lineOf hvlen hmlen).2] at hcut hclosed
    rw [← contents_of_rests hvlen hmlen hrests] at hm
    refine ⟨_, (run_eq_ok_iff hjoin).mpr ⟨rules, v, _, m, hrules, hv, hbroken, hm, rfl⟩, ?_⟩
    rw [hcut, hclosed, (map_zip_zip hvlen hmlen).1]

private theorem process_eq_self_iff (cfg : Config) (hjoin : cfg.joinLines = false)
    (hnewline : cfg.newline = ['\n'])
    (hseparator : ∀ s ∈ cfg.separator?, ∀ c ∈ s, Text.isRowBreak c = false) {ls : List Line}
    (hls : ∀ l ∈ ls, ∀ c ∈ l.content, Text.isRowBreak c = false) :
    cfg.process (Line.join ['\n'] ls) = .ok (Line.join ['\n'] ls) ↔
      Settled cfg (ls.map (·.content)) := by
  have hrows : ∀ r ∈ ls.map (·.content), ∀ c ∈ r, Text.isRowBreak c = false := by
    rwa [List.forall_mem_map]
  have hone : ∀ r ∈ ls.map (·.content), '\n' ∉ r := by
    intro r hr hmem
    cases hrows r hr _ hmem
  rw [← run_eq_self_iff hjoin hnewline hone, process_eq_ok_iff, rows_join hls, hnewline]
  constructor
  · intro h
    obtain ⟨out, hout, hsame⟩ := h
    refine ⟨out, hout, ?_⟩
    rw [← rows_join hls, ← hsame, rows_join (run_unbroken hnewline hseparator hrows hout)]
  · intro h
    obtain ⟨out, hout, hsame⟩ := h
    refine ⟨out, hout, ?_⟩
    rw [Line.join, Line.join, hsame]

/-- The same settings, but the line breaks inside of paragraphs are kept. -/
def Config.keepLines (cfg : Config) : Config := { cfg with joinLines := false }

private theorem Plain.settled {cfg : Config} (hplain : Plain cfg) {rows : List Text}
    {ls : List Line} (h : cfg.run rows = .ok ls) : Settled cfg.keepLines (ls.map (·.content)) := by
  refine ⟨[], _, _, ?_, Region.scanFrom_of_not_given hplain.verbatim 1 _,
    Region.scanFrom_of_not_given hplain.math 1 _, ?_⟩
  · rw [Config.rules, Config.keepLines, hplain.breaks]
    rfl
  · intro p hp
    obtain ⟨l, hl, hcontent⟩ := List.mem_map.mp (List.of_mem_zip hp).1
    obtain ⟨hspaces, hcut⟩ := hplain.lines_of_run h l hl
    have hbreaks : Macro.insertBreaks [] cfg.newline p.1 = p.1 := Comment.split_append p.1
    rw [Line.isBlank, hcontent] at hcut
    rw [hcontent] at hspaces
    refine .inr ⟨hspaces, hcut.imp_right (Or.imp_right fun hsingle => ⟨?_, ?_⟩)⟩
    · exact (congrArg Text.trim hbreaks).trans hspaces.1
    · intro hsplit _
      have hopening : cfg.keepLines.inlineMath.opening = none := hplain.inlineMath
      exact Sentence.segments_of_single hopening (hsingle hsplit)

/-- What a run under settings that were read has made is left alone by a second run with the line
breaks kept exactly if all of its rows rest. This is always so for plain settings. -/
theorem process_keepLines_eq_iff {settings t o : Text} {cfg : Config}
    (hcfg : Config.read settings {} = .ok cfg) (h : cfg.process t = .ok o) :
    (cfg.keepLines.process o = .ok o ↔ Settled cfg.keepLines o.rows) ∧
      (Plain cfg → cfg.keepLines.process o = .ok o) := by
  obtain ⟨hnewline, hseparator⟩ := Config.read_newline_separator hcfg
  obtain ⟨ls, hls, rfl⟩ := process_eq_ok_iff.mp h
  have hunbroken := run_unbroken hnewline hseparator
    (Text.not_isBreak_of_mem_rowsBy Text.isRowBreak t) hls
  have hiff := process_eq_self_iff cfg.keepLines rfl hnewline hseparator hunbroken
  rw [hnewline, rows_join hunbroken]
  exact ⟨hiff, fun hplain => hiff.mpr (hplain.settled hls)⟩

/-- A break before a macro, a sentence end and a comment, all at rest behind the first run, and
plain settings. -/
theorem process_keepLines_eq_before :
    (let cfg : Config := { breaks := [⟨['x'], .before⟩] }
    let o := "a\n\\x b.\nc\n% d. \\x\n".toList
    Config.read "break_before_macro: x".toList {} = .ok cfg ∧
      cfg.process "a\\x  b. c\n% d. \\x".toList = .ok o ∧ cfg.keepLines.process o = .ok o) ∧
    (let o := "A b.\nc\n".toList
    Config.read [] {} = .ok {} ∧ Config.process {} "A\n b. c".toList = .ok o ∧
      (Config.keepLines {}).process o = .ok o) := by
  constructor
  · intro cfg o
    have hcfg : Config.read "break_before_macro: x".toList {} = .ok cfg := by decide +kernel
    have hrun : cfg.process "a\\x  b. c\n% d. \\x".toList = .ok o := by decide +kernel
    refine ⟨hcfg, hrun, (process_keepLines_eq_iff hcfg hrun).1.mpr ?_⟩
    exact ⟨_, _, _, rfl, rfl, rfl, by decide +kernel⟩
  · intro o
    have hcfg : Config.read [] {} = .ok {} := rfl
    have hrun : Config.process {} "A\n b. c".toList = .ok o := by decide +kernel
    exact ⟨hcfg, hrun, (process_keepLines_eq_iff hcfg hrun).2 ⟨rfl, rfl, rfl, rfl, nofun⟩⟩

/-- Of two invocations without a character between them the second one is seen by the second run
only. -/
theorem process_keepLines_adjacent :
    let cfg : Config := { breaks := [⟨"\\\\".toList, .after⟩] }
    let o := "a\\\\\n\\\\b\n".toList
    Config.read "break_after_macro: \\\\".toList {} = .ok cfg ∧
      cfg.process "a\\\\\\\\b".toList = .ok o ∧
      cfg.keepLines.process o = .ok "a\\\\\n\\\\\nb\n".toList ∧
      cfg.keepLines.process o ≠ .ok o := by
  decide +kernel

end TexReflow
