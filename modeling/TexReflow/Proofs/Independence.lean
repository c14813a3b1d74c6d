import TexReflow.Proofs.Passes
import TexReflow.Proofs.Spacing

/-!
# Independent paragraphs

Passes carry state from line to line: the regions that are open, whether the last line was blank,
and the line to which others are joined. At an empty line outside of all regions this state is what
it is at the start of a document. So two documents with an empty row between them become what each
of them becomes alone, with an empty line between.
-/

namespace TexReflow

/-- The empty line between two documents. -/
def Line.gap : Line := .ofRow []

/-- An empty line between the two lists has no blank line next to it. -/
private def Apart (as bs : List Line) : Prop :=
  (∀ b ∈ (as.map Line.isBlank).getLast?, b = false) ∧
    ∀ b ∈ (bs.map Line.isBlank).head?, b = false

namespace Region

/-- An empty line neither opens nor closes a region. -/
def IgnoresEmpty (m : Markers) : Prop :=
  Pattern.marks m.opening [] = false ∧ Pattern.marks m.closing [] = false

/-- The number of the first line shows in errors only. -/
private theorem scanFrom_line {m : Markers} {depth line : Nat} (line' : Nat) {cs : List Text}
    {s : Scan} (h : scanFrom m depth line cs = .ok s) : scanFrom m depth line' cs = .ok s := by
  induction cs generalizing depth line line' s with
  | nil => exact h
  | cons c cs ih =>
      obtain ⟨left, s', hleft, hs', rfl⟩ := scanFrom_cons_eq_ok_iff.mp h
      exact scanFrom_cons_eq_ok_iff.mpr ⟨left, s', hleft, ih (line' + 1) hs', rfl⟩

/-- A scan goes on with the regions that are open, and remembers nothing else. -/
private theorem scanFrom_append {m : Markers} {depth line line' : Nat} {as bs : List Text}
    {s s' : Scan} (ha : scanFrom m depth line as = .ok s)
    (hb : scanFrom m s.depth line' bs = .ok s') :
    scanFrom m depth line (as ++ bs) = .ok ⟨s.mask ++ s'.mask, s'.depth⟩ := by
  induction as generalizing depth line s with
  | nil =>
      cases ha
      exact scanFrom_line line hb
  | cons a as ih =>
      obtain ⟨left, t, hleft, ht, rfl⟩ := scanFrom_cons_eq_ok_iff.mp ha
      exact scanFrom_cons_eq_ok_iff.mpr ⟨left, _, hleft, ih ht hb, rfl⟩

private theorem scan_gap {m : Markers} (hm : IgnoresEmpty m) {as bs : List Text} {s s' : Scan}
    (ha : scan m as = .ok s) (hb : scan m bs = .ok s') (hclosed : s.depth = 0) :
    scan m (as ++ [] :: bs) = .ok ⟨s.mask ++ false :: s'.mask, s'.depth⟩ := by
  have hgap : scanFrom m 0 0 ([] :: bs) = .ok ⟨false :: s'.mask, s'.depth⟩ := by
    refine scanFrom_cons_eq_ok_iff.mpr ⟨0, s', ?_, hb, ?_⟩
    · rw [hm.1, hm.2]
    · rw [hm.1]
      rfl
  rw [← hclosed] at hgap
  exact scanFrom_append ha hgap

/-- Where nothing is warned of, no region is open at the end. -/
private theorem scan_depth_eq_zero {kind : Kind} {m : Markers} {ls : List Line} {s : Scan}
    (hs : scan m (ls.map (·.content)) = .ok s)
    (hquiet : ∀ e ∈ report kind m ls, e.level ≠ .warning) : s.depth = 0 := by
  cases hm : given m with
  | false =>
      rw [scan, scanFrom_of_not_given hm] at hs
      cases hs
      rfl
  | true =>
      by_contra hdepth
      apply hquiet (.regionsOpen s.depth kind)
      · simp [report, hm, hs, hdepth]
      · rfl

private theorem mark_gap {kind : Kind} {m : Markers} (hm : IgnoresEmpty m) {f : Line → Line}
    {as bs as' bs' : List Line} (ha : mark m f as = .ok as') (hb : mark m f bs = .ok bs')
    (hquiet : ∀ e ∈ report kind m as, e.level ≠ .warning) :
    mark m f (as ++ .gap :: bs) = .ok (as' ++ .gap :: bs') := by
  obtain ⟨s, hs, rfl⟩ := mark_eq_ok_iff.mp ha
  obtain ⟨s', hs', rfl⟩ := mark_eq_ok_iff.mp hb
  have hlen : as.length = s.mask.length := by rw [scan_mask_length hs, List.length_map]
  have hboth := scan_gap hm hs hs' (scan_depth_eq_zero hs hquiet)
  refine mark_eq_ok_iff.mpr ⟨⟨s.mask ++ false :: s'.mask, s'.depth⟩, ?_, ?_⟩
  · rw [List.map_append]
    exact hboth
  · rw [List.zipWith_append hlen]
    rfl

end Region

namespace Paragraph

private theorem dedup_gap {as bs : List Line} (h : Apart as bs) :
    dedup (as ++ .gap :: bs) = dedup as ++ .gap :: dedup bs := by
  have hbs : dropBlanks true bs = dropBlanks false bs := by
    cases bs with
    | nil => rfl
    | cons b bs =>
        have hb : b.isBlank = false := h.2 b.isBlank rfl
        rw [dropBlanks_cons true hb, dropBlanks_cons false hb]
  have has : (as.map Line.isBlank).getLast?.getD false = false := by
    cases hb : (as.map Line.isBlank).getLast? with
    | none => rfl
    | some b => exact h.1 b hb
  rw [dedup, dropBlanks_append, has]
  change _ ++ .gap :: dropBlanks true bs = _
  rw [hbs]
  rfl

/-- Nothing is joined to an empty line, and an empty line to nothing. -/
private theorem merge_gap (cfg : Config) (as bs : List Line) :
    merge cfg (as ++ .gap :: bs) = merge cfg as ++ .gap :: merge cfg bs := by
  have hgap : mergeFrom cfg .gap bs = .gap :: merge cfg bs := by
    cases bs with
    | nil => rfl
    | cons b bs => rfl
  cases as with
  | nil => exact hgap
  | cons first as =>
      change mergeFrom cfg first (as ++ .gap :: bs) = mergeFrom cfg first as ++ .gap :: merge cfg bs
      induction as generalizing first with
      | nil =>
          have hjoin : canJoin cfg first .gap = false := by
            simp [canJoin, Line.gap, Line.ofRow, Line.isBlank, Text.isBlank]
          rw [List.nil_append, mergeFrom.eq_2, hjoin, if_neg Bool.false_ne_true, hgap]
          rfl
      | cons second as ih =>
          rw [List.cons_append, mergeFrom, mergeFrom, ih, ih]
          split <;> rfl

end Paragraph

private theorem Macro.breakLines_gap {rules : List Macro.Rule} {newline : Text}
    {as bs as' bs' : List Line} (ha : breakLines rules newline as = .ok as')
    (hb : breakLines rules newline bs = .ok bs') :
    breakLines rules newline (as ++ .gap :: bs) = .ok (as' ++ .gap :: bs') := by
  obtain ⟨qss, hqss, ha⟩ := bind_eq_ok_iff.mp ha
  obtain ⟨rss, hrss, hb⟩ := bind_eq_ok_iff.mp hb
  cases ha
  cases hb
  have hgap : breakLine rules newline .gap = .ok [.gap] := rfl
  refine bind_eq_ok_iff.mpr ⟨qss ++ [.gap] :: rss, mapM_eq_ok_iff.mpr ?_, by simp; rfl⟩
  exact List.rel_append (mapM_eq_ok_iff.mp hqss) (.cons hgap (mapM_eq_ok_iff.mp hrss))

namespace Pass

section

variable {cfg : Config} (hverbatim : Region.IgnoresEmpty cfg.verbatim)
  (hmath : Region.IgnoresEmpty cfg.math)

include hverbatim hmath

/-- A pass takes the lines before and behind an empty line on their own. -/
private theorem apply_gap {p : Pass} {as bs as' bs' : List Line} (ha : p.apply cfg as = .ok as')
    (hb : p.apply cfg bs = .ok bs') (hquiet : ∀ e ∈ p.report cfg as as', e.level ≠ .warning)
    (hdedup : p = .dedup → Apart as bs) :
    p.apply cfg (as ++ .gap :: bs) = .ok (as' ++ .gap :: bs') := by
  have hmap {f : Line → Line} (hf : f .gap = .gap) :
      (as ++ .gap :: bs).map f = as.map f ++ .gap :: bs.map f := by
    rw [List.map_append, List.map_cons, hf]
  cases p with
  | markVerbatim =>
      exact mapError_eq_ok_iff.mpr (Region.mark_gap hverbatim (mapError_eq_ok_iff.mp ha)
        (mapError_eq_ok_iff.mp hb) hquiet)
  | trim =>
      cases ha
      cases hb
      exact congrArg _ (hmap rfl)
  | markComments =>
      cases ha
      cases hb
      exact congrArg _ (hmap rfl)
  | dedup =>
      cases ha
      cases hb
      exact congrArg _ (Paragraph.dedup_gap (hdedup rfl))
  | merge =>
      cases ha
      cases hb
      exact congrArg _ (Paragraph.merge_gap cfg as bs)
  | breakLines =>
      obtain ⟨rules, hrules, ha⟩ := bind_eq_ok_iff.mp ha
      obtain ⟨rules', hrules', hb⟩ := bind_eq_ok_iff.mp hb
      rw [hrules] at hrules'
      cases hrules'
      exact bind_eq_ok_iff.mpr ⟨rules, hrules, Macro.breakLines_gap ha hb⟩
  | markMath =>
      exact mapError_eq_ok_iff.mpr (Region.mark_gap hmath (mapError_eq_ok_iff.mp ha)
        (mapError_eq_ok_iff.mp hb) hquiet)
  | splitSentences =>
      cases ha
      cases hb
      rw [apply, Sentence.splitAll, List.flatMap_append, List.flatMap_cons]
      rfl
  | collapse =>
      cases ha
      cases hb
      exact congrArg _ (hmap rfl)

/-- So does a sequence of passes. Blank lines may be dropped by its first pass only: this pass looks
at the lines next to the empty one. -/
private theorem applyAll_gap {ps : List Pass} (hps : .dedup ∉ ps.tail) {as bs as' bs' : List Line}
    (hdedup : ps.head? = some .dedup → Apart as bs) (ha : applyAll cfg ps as = .ok as')
    (hb : applyAll cfg ps bs = .ok bs')
    (hquiet : ∀ e ∈ reportAll cfg ps as, e.level ≠ .warning) :
    applyAll cfg ps (as ++ .gap :: bs) = .ok (as' ++ .gap :: bs') := by
  induction ps generalizing as bs with
  | nil =>
      cases ha
      cases hb
      rfl
  | cons p ps ih =>
      rw [applyAll_cons] at ha hb ⊢
      obtain ⟨amid, hamid, ha⟩ := bind_eq_ok_iff.mp ha
      obtain ⟨bmid, hbmid, hb⟩ := bind_eq_ok_iff.mp hb
      rw [reportAll, hamid] at hquiet
      obtain ⟨hquiet, hquiets⟩ := List.forall_mem_append.mp hquiet
      have hmid := apply_gap hverbatim hmath hamid hbmid hquiet fun hp => hdedup (congrArg some hp)
      refine bind_eq_ok_iff.mpr ⟨_, hmid, ih ?_ ?_ ha hb hquiets⟩
      · exact fun hmem => hps (List.mem_of_mem_tail hmem)
      · exact fun hhead => absurd (List.mem_of_head? hhead) hps

end

private theorem reportAll_append {cfg : Config} {ps qs : List Pass} {ls mid : List Line}
    (h : applyAll cfg ps ls = .ok mid) :
    reportAll cfg (ps ++ qs) ls = reportAll cfg ps ls ++ reportAll cfg qs mid := by
  induction ps generalizing ls with
  | nil =>
      cases h
      rfl
  | cons p ps ih =>
      obtain ⟨next, hnext, h⟩ := bind_eq_ok_iff.mp (applyAll_cons cfg p ps ls ▸ h)
      simp only [List.cons_append, reportAll, hnext, ih h, List.append_assoc]

/-- The passes before `dedup` make one line of a line, blank if it was blank. -/
private theorem isBlank_of_makes {cfg : Config} {p : Pass}
    (hp : p ∈ [markVerbatim, trim, markComments]) {l : Line} {qs : List Line}
    (h : p.Makes cfg l qs) : qs.map Line.isBlank = [l.isBlank] := by
  simp only [List.mem_cons, List.not_mem_nil, or_false] at hp
  rcases hp with rfl | rfl | rfl
  · rcases h with rfl | rfl <;> rfl
  · cases h
    rw [Line.trim]
    split
    · rfl
    · exact congrArg (fun b => [b]) (Text.isBlank_trim l.content)
  · cases h
    rfl

private theorem applyAll_isBlank {cfg : Config} {ls out : List Line}
    (h : applyAll cfg [.markVerbatim, .trim, .markComments] ls = .ok out) :
    out.map Line.isBlank = ls.map Line.isBlank := by
  apply applyAll_rel (R := fun as bs => bs.map Line.isBlank = as.map Line.isBlank) _ _ _ h
  · intro ls
    rfl
  · intro as bs cs hab hbc
    exact hbc.trans hab
  · intro p hp as bs hstep
    have hdedup : p ≠ .dedup := by
      rintro rfl
      simp at hp
    have hmerge : p ≠ .merge := by
      rintro rfl
      simp at hp
    apply apply_congr (F := List.map Line.isBlank) _ hdedup hmerge _ hstep
    · intro as as' bs bs' ha hb
      rw [List.map_append, List.map_append, ha, hb]
    · intro l _ qs hmakes
      exact isBlank_of_makes hp hmakes

end Pass

/-- A run takes the rows before and behind an empty row on their own. -/
private theorem run_gap {cfg : Config} (hverbatim : Region.IgnoresEmpty cfg.verbatim)
    (hmath : Region.IgnoresEmpty cfg.math) {rows₁ rows₂ : List Text} {as bs : List Line}
    (ha : cfg.run rows₁ = .ok as) (hb : cfg.run rows₂ = .ok bs)
    (hquiet : ∀ e ∈ cfg.report rows₁, e.level ≠ .warning)
    (hlast : ∀ r ∈ rows₁.getLast?, r.isBlank = false)
    (hfirst : ∀ r ∈ rows₂.head?, r.isBlank = false) :
    cfg.run (rows₁ ++ [] :: rows₂) = .ok (as ++ .gap :: bs) := by
  obtain ⟨rules, hrules, ha⟩ := bind_eq_ok_iff.mp ha
  obtain ⟨-, -, hb⟩ := bind_eq_ok_iff.mp hb
  refine bind_eq_ok_iff.mpr ⟨rules, hrules, ?_⟩
  rw [List.map_append, List.map_cons]
  change Pass.applyAll cfg cfg.passes (_ ++ .gap :: _) = _
  have hquiet : ∀ e ∈ Pass.reportAll cfg cfg.passes (rows₁.map Line.ofRow),
      e.level ≠ .warning := by
    intro e he
    apply hquiet
    rw [Config.report, hrules]
    exact List.mem_cons_of_mem _ he
  obtain ⟨ps, hpasses, hps⟩ : ∃ ps, cfg.passes =
      [.markVerbatim, .trim, .markComments] ++ ps ∧ .dedup ∉ ps.tail := by
    rw [Config.passes]
    cases cfg.joinLines <;> cases cfg.splitSentences <;> exact ⟨_, rfl, by simp⟩
  rw [hpasses, Pass.applyAll_append] at ha hb ⊢
  obtain ⟨amid, hamid, ha⟩ := bind_eq_ok_iff.mp ha
  obtain ⟨bmid, hbmid, hb⟩ := bind_eq_ok_iff.mp hb
  rw [hpasses, Pass.reportAll_append hamid] at hquiet
  obtain ⟨hopening, hclosing⟩ := List.forall_mem_append.mp hquiet
  have hmid := Pass.applyAll_gap hverbatim hmath (by simp) (by simp) hamid hbmid hopening
  -- Up to here blank lines are those of blank rows, so none stands next to the empty line.
  have hapart : Apart amid bmid := by
    rw [Apart, Pass.applyAll_isBlank hamid, Pass.applyAll_isBlank hbmid]
    simpa [Line.isBlank, Line.ofRow] using And.intro hlast hfirst
  exact bind_eq_ok_iff.mpr
    ⟨_, hmid, Pass.applyAll_gap hverbatim hmath hps (fun _ => hapart) ha hb hclosing⟩

/-- Two documents with an empty row between them become what each of them becomes alone, with an
empty line between, if the first leaves no region open. -/
theorem processRows_append_gap (cfg : Config) (hverbatim : Region.IgnoresEmpty cfg.verbatim)
    (hmath : Region.IgnoresEmpty cfg.math) {rows₁ rows₂ : List Text} {out₁ out₂ : Text}
    (h₁ : cfg.processRows rows₁ = .ok out₁) (h₂ : cfg.processRows rows₂ = .ok out₂)
    (hquiet : ∀ e ∈ cfg.report rows₁, e.level ≠ .warning)
    (hlast : ∀ r ∈ rows₁.getLast?, r.isBlank = false)
    (hfirst : ∀ r ∈ rows₂.head?, r.isBlank = false) :
    cfg.processRows (rows₁ ++ [] :: rows₂) = .ok (out₁ ++ cfg.newline ++ out₂) := by
  obtain ⟨as, ha, h₁⟩ := bind_eq_ok_iff.mp h₁
  obtain ⟨bs, hb, h₂⟩ := bind_eq_ok_iff.mp h₂
  cases h₁
  cases h₂
  have hrun := run_gap hverbatim hmath ha hb hquiet hlast hfirst
  have hjoin : Line.join cfg.newline (as ++ .gap :: bs) =
      Line.join cfg.newline as ++ cfg.newline ++ Line.join cfg.newline bs := by
    simp [Line.join, Text.unrows, Line.gap, Line.ofRow]
  rw [Config.processRows, hrun, ← hjoin]
  rfl

/-- A verbatim region and block math end before the empty row. Behind it a macro is broken and a
region stays open. -/
theorem processRows_append_gap_regions :
    let pattern (s : String) : Option Pattern := (Pattern.parse s.toList).toOption
    let cfg : Config :=
      { verbatim := ⟨pattern "B", pattern "E"⟩, math := ⟨pattern "M", pattern "W"⟩,
        breaks := [⟨['x'], .around⟩] }
    let rows₁ : List Text := ["a.  b", "B", "", "E", "M. c", "d W"].map String.toList
    let rows₂ : List Text := ["e\\x f", "", "", "B", " g"].map String.toList
    let out₁ := "a.\nb\nB\n\nE\nM. c d W\n".toList
    let out₂ := "e\n\\x\nf\n\nB\n g\n".toList
    (Region.IgnoresEmpty cfg.verbatim ∧ Region.IgnoresEmpty cfg.math) ∧
      (cfg.processRows rows₁ = .ok out₁ ∧ cfg.processRows rows₂ = .ok out₂) ∧
      (∀ e ∈ cfg.report rows₁, e.level ≠ .warning) ∧
      (∀ r ∈ rows₁.getLast?, r.isBlank = false) ∧ (∀ r ∈ rows₂.head?, r.isBlank = false) ∧
      cfg.processRows (rows₁ ++ [] :: rows₂) = .ok (out₁ ++ cfg.newline ++ out₂) := by
  intro pattern cfg rows₁ rows₂ out₁ out₂
  have hverbatim : Region.IgnoresEmpty cfg.verbatim := by
    constructor <;> decide +kernel
  have hmath : Region.IgnoresEmpty cfg.math := by
    constructor <;> decide +kernel
  have h₁ : cfg.processRows rows₁ = .ok out₁ := by decide +kernel
  have h₂ : cfg.processRows rows₂ = .ok out₂ := by decide +kernel
  have hquiet : ∀ e ∈ cfg.report rows₁, e.level ≠ .warning := by decide +kernel
  have hlast : ∀ r ∈ rows₁.getLast?, r.isBlank = false := by decide
  have hfirst : ∀ r ∈ rows₂.head?, r.isBlank = false := by decide
  exact ⟨⟨hverbatim, hmath⟩, ⟨h₁, h₂⟩, hquiet, hlast, hfirst,
    processRows_append_gap cfg hverbatim hmath h₁ h₂ hquiet hlast hfirst⟩

end TexReflow
