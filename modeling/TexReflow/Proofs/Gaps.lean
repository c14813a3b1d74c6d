import Mathlib.Data.List.Chain
import TexReflow.Proofs.Settings
import TexReflow.Proofs.SoftWraps
import TexReflow.Proofs.Verbatim

/-!
# Gaps

The gaps of a document are the blank lines before, between and behind its runs of other lines. A
pass that takes the lines one at a time leaves the gaps alone, and so does merging. Dropping blank
lines keeps the first line of each gap, and of the others those that are verbatim.
-/

namespace TexReflow

section

variable {α β : Type}

/-- The gaps from some element on. The flag says that the element before is in no gap. -/
def gapsFrom (p : α → Bool) : (outside : Bool) → List α → List (List α)
  | _, [] => [[]]
  | outside, x :: xs =>
    if p x then (gapsFrom p false xs).modifyHead (x :: ·)
    else if outside then gapsFrom p true xs
    else [] :: gapsFrom p true xs

/-- The runs of elements with `p` before the first, between two and behind the last of the runs of
other elements, each of them possibly empty. -/
def gaps (p : α → Bool) (xs : List α) : List (List α) := gapsFrom p false xs

/-- What is kept of a gap: its first element, and of the others those with `q`. -/
def keptGap (q : α → Bool) : List α → List α
  | [] => []
  | x :: xs => x :: xs.filter q

theorem keptGap_map (q : β → Bool) (f : α → β) (xs : List α) :
    keptGap q (xs.map f) = (keptGap (q ∘ f) xs).map f := by
  cases xs with
  | nil => rfl
  | cons x xs =>
      rw [List.map_cons, keptGap, keptGap, List.filter_map]
      rfl

theorem exists_gapsFrom (p : α → Bool) (outside : Bool) (xs : List α) :
    ∃ g gs, gapsFrom p outside xs = g :: gs := by
  induction xs generalizing outside with
  | nil => exact ⟨[], [], rfl⟩
  | cons x xs ih =>
      obtain ⟨g, gs, h⟩ := ih false
      obtain ⟨g', gs', h'⟩ := ih true
      simp only [gapsFrom, h, h']
      split
      · exact ⟨x :: g, gs, rfl⟩
      · split
        · exact ⟨g', gs', rfl⟩
        · exact ⟨[], g' :: gs', rfl⟩

theorem gapsFrom_cons_of_pos {p : α → Bool} {x : α} (hx : p x = true) (outside : Bool)
    (xs : List α) :
    gapsFrom p outside (x :: xs) = (gapsFrom p false xs).modifyHead (x :: ·) := by
  rw [gapsFrom, if_pos hx]

theorem gapsFrom_cons_of_neg {p : α → Bool} {x : α} (hx : p x = false) (outside : Bool)
    (xs : List α) :
    gapsFrom p outside (x :: xs) =
      if outside then gapsFrom p true xs else [] :: gapsFrom p true xs := by
  rw [gapsFrom, if_neg (by simp [hx])]

/-- A run of elements in no gap opens a gap behind it, and one before it if none is there. -/
theorem gapsFrom_append {p : α → Bool} {ys : List α} (hne : ys ≠ []) (hys : ∀ y ∈ ys, p y = false)
    (outside : Bool) (xs : List α) :
    gapsFrom p outside (ys ++ xs) =
      if outside then gapsFrom p true xs else [] :: gapsFrom p true xs := by
  induction ys generalizing outside with
  | nil => exact absurd rfl hne
  | cons y ys ih =>
      obtain ⟨hy, hys⟩ := List.forall_mem_cons.mp hys
      have hrest : gapsFrom p true (ys ++ xs) = gapsFrom p true xs := by
        cases ys with
        | nil => rfl
        | cons z zs => exact ih (List.cons_ne_nil z zs) hys true
      rw [List.cons_append, gapsFrom_cons_of_neg hy, hrest]

theorem gapsFrom_map {p : α → Bool} {q : β → Bool} {f : α → β} (hf : ∀ x, q (f x) = p x)
    (outside : Bool) (xs : List α) :
    gapsFrom q outside (xs.map f) = (gapsFrom p outside xs).map (·.map f) := by
  induction xs generalizing outside with
  | nil => rfl
  | cons x xs ih =>
      rw [List.map_cons, gapsFrom, gapsFrom, hf, ih, ih]
      obtain ⟨g, gs, h⟩ := exists_gapsFrom p false xs
      split
      · rw [h]
        rfl
      · split <;> rfl

/-- An element with `p` that directly follows another one is in a gap, and not the first there. -/
theorem isChain_of_gapsFrom {p : α → Bool} {P : α → Prop} (outside : Bool) {xs : List α}
    (h : ∀ g ∈ gapsFrom p outside xs, ∀ y ∈ g.tail, P y) :
    xs.IsChain fun x y => p x = true → p y = true → P y := by
  induction xs generalizing outside with
  | nil => exact .nil
  | cons x xs ih =>
      rw [List.isChain_cons]
      cases hx : p x with
      | false =>
          refine ⟨by simp, ih true ?_⟩
          intro g hg
          apply h
          rw [gapsFrom_cons_of_neg hx]
          split
          · exact hg
          · exact List.mem_cons_of_mem _ hg
      | true =>
          obtain ⟨g, gs, hgs⟩ := exists_gapsFrom p false xs
          rw [gapsFrom_cons_of_pos hx, hgs, List.modifyHead_cons, List.forall_mem_cons,
            List.tail_cons] at h
          obtain ⟨hfirst, hrest⟩ := h
          refine ⟨?_, ih false ?_⟩
          · intro y hy _ hpos
            apply hfirst
            -- The next element has `p` as well and so is the first of the gap behind `x`.
            cases xs with
            | nil => cases hy
            | cons z zs =>
                cases hy
                obtain ⟨k, ks, hks⟩ := exists_gapsFrom p false zs
                rw [gapsFrom_cons_of_pos hpos, hks, List.modifyHead_cons] at hgs
                rw [← (List.cons.inj hgs).1]
                exact List.mem_cons_self
          · rw [hgs]
            exact List.forall_mem_cons.mpr ⟨fun y hy => hfirst y (List.mem_of_mem_tail hy), hrest⟩

end

/-- The content of a line, if it is verbatim. -/
def Line.verbatim? (l : Line) : Option Text := if l.verbatim then some l.content else none

theorem Line.isSome_verbatim? (l : Line) : l.verbatim?.isSome = l.verbatim := by
  rw [verbatim?]
  cases l.verbatim <;> rfl

theorem verbatimTexts_eq_filterMap (ls : List Line) :
    verbatimTexts ls = (ls.map Line.verbatim?).filterMap id := by
  induction ls with
  | nil => rfl
  | cons l ls ih =>
      rw [verbatimTexts] at ih ⊢
      rw [List.map_cons, Line.verbatim?, List.filter_cons]
      split
      · rw [List.map_cons, ih]
        rfl
      · rw [ih]
        rfl

/-- What is to be known of the gaps between lines: how long they are, and what is verbatim there. -/
def lineGaps (ls : List Line) : List (List (Option Text)) :=
  (gaps Line.isBlank ls).map (·.map Line.verbatim?)

/-- What a line can become without a change of the gaps. -/
private def Spaced (l : Line) (qs : List Line) : Prop :=
  (l.isBlank = true ∧ ∃ q, qs = [q] ∧ q.isBlank = true ∧ q.verbatim? = l.verbatim?) ∨
    (l.isBlank = false ∧ qs ≠ [] ∧ ∀ q ∈ qs, q.isBlank = false)

private theorem spaced_single {l q : Line} (hblank : q.isBlank = l.isBlank)
    (hverbatim : q.verbatim? = l.verbatim?) : Spaced l [q] := by
  cases hl : l.isBlank with
  | true => exact .inl ⟨hl, q, rfl, hblank.trans hl, hverbatim⟩
  | false => exact .inr ⟨hl, List.cons_ne_nil _ _, List.forall_mem_singleton.mpr (hblank.trans hl)⟩

private theorem gapsFrom_of_spaced {ls : List Line} {qss : List (List Line)}
    (h : List.Forall₂ Spaced ls qss) (outside : Bool) :
    (gapsFrom Line.isBlank outside qss.flatten).map (·.map Line.verbatim?) =
      (gapsFrom Line.isBlank outside ls).map (·.map Line.verbatim?) := by
  induction h generalizing outside with
  | nil => rfl
  | @cons l qs ls qss hl _ ih =>
      rw [List.flatten_cons]
      rcases hl with ⟨hl, q, rfl, hq, hverbatim⟩ | ⟨hl, hne, hqs⟩
      · have hrest := ih false
        obtain ⟨g, gs, hgs⟩ := exists_gapsFrom Line.isBlank false ls
        obtain ⟨g', gs', hgs'⟩ := exists_gapsFrom Line.isBlank false qss.flatten
        rw [hgs, hgs', List.map_cons, List.map_cons, List.cons.injEq] at hrest
        rw [List.singleton_append, gapsFrom_cons_of_pos hq, gapsFrom_cons_of_pos hl, hgs, hgs',
          List.modifyHead_cons, List.modifyHead_cons, List.map_cons, List.map_cons, List.map_cons,
          List.map_cons, hverbatim, hrest.1, hrest.2]
      · rw [gapsFrom_append hne hqs, gapsFrom_cons_of_neg hl]
        cases outside with
        | true => exact ih true
        | false => exact congrArg (List.cons []) (ih true)

section

variable {cfg : Config} (hcfg : cfg.Loaded)

include hcfg

private theorem spaced_breakLine {rules : List Macro.Rule} {l : Line} {qs : List Line}
    (h : Macro.breakLine rules cfg.newline l = .ok qs) : Spaced l qs := by
  rcases Macro.breakLine_ok h with ⟨-, rfl⟩ | ⟨hskip, hne, rfl⟩
  · exact spaced_single rfl rfl
  · simp only [Bool.or_eq_false_iff] at hskip
    have hspace : cfg.newline.isBlank = true := by
      rw [hcfg.newline]
      rfl
    have hwords := Macro.words_pieces rules hne hspace l.content
    refine .inr ⟨hskip.1.1, ?_, ?_⟩
    · -- The words of the line are cut, and none of them gets lost.
      intro hnil
      rw [List.map_eq_nil_iff.mp hnil] at hwords
      have hblank := (Text.words_eq_nil_iff l.content).mp (hwords.eq_nil_iff.mpr rfl)
      rw [Line.isBlank, hblank] at hskip
      cases hskip.1.1
    · intro q hq
      obtain ⟨t, ht, rfl⟩ := List.mem_map.mp hq
      obtain ⟨s, -, rfl, hs⟩ := Macro.mem_pieces ht
      exact (Text.isBlank_trim s).trans hs

private theorem spaced_of_makes {p : Pass} (hp : p ≠ .markVerbatim) {l : Line} {qs : List Line}
    (h : p.Makes cfg l qs) : Spaced l qs := by
  cases p with
  | markVerbatim => exact absurd rfl hp
  | trim =>
      cases h
      apply spaced_single
      · rw [Line.trim]
        split
        · rfl
        · exact Text.isBlank_trim l.content
      · cases hl : l.verbatim <;> simp [Line.trim, Line.verbatim?, Line.withContent, hl]
  | markComments =>
      cases h
      exact spaced_single rfl rfl
  | dedup => exact h.elim
  | merge => exact h.elim
  | breakLines =>
      obtain ⟨rules, -, h⟩ := h
      exact spaced_breakLine hcfg h
  | markMath => rcases h with rfl | rfl <;> exact spaced_single rfl rfl
  | splitSentences =>
      cases h
      split
      · exact spaced_single rfl rfl
      next hskip =>
        simp only [Sentence.skips, Bool.not_eq_true, Bool.or_eq_false_iff] at hskip
        refine .inr ⟨hskip.1.2, Sentence.split_not_blank ?_ ?_ hskip.1.2⟩
        · intro c hc
          exact hcfg.isSpace_of_isLineEnd hc
        · intro s hs
          exact (hcfg.separator s (Config.separator_of_separator? hs)).1
  | collapse =>
      cases h
      apply spaced_single
      · rw [Line.collapse]
        split
        · rfl
        · exact Text.isBlank_collapse l.content
      · cases hl : l.verbatim <;> simp [Line.collapse, Line.verbatim?, Line.withContent, hl]

end

private theorem gapsFrom_mergeFrom (cfg : Config) (outside : Bool) (first : Line) (ls : List Line) :
    gapsFrom Line.isBlank outside (Paragraph.mergeFrom cfg first ls) =
      gapsFrom Line.isBlank outside (first :: ls) := by
  induction ls generalizing outside first with
  | nil => rfl
  | cons second ls ih =>
      rw [Paragraph.mergeFrom]
      split
      next hcan =>
        obtain ⟨⟨hfirst, hsecond⟩, -⟩ := Paragraph.canJoin_iff.mp hcan
        have hjoin := Paragraph.isBlank_join second hfirst
        rw [ih, gapsFrom_cons_of_neg hjoin, gapsFrom_cons_of_neg hfirst,
          gapsFrom_cons_of_neg hsecond, if_pos rfl]
      next => simp only [gapsFrom, ih]

/-- Merging leaves the gaps as they are. -/
theorem gaps_merge (cfg : Config) (ls : List Line) :
    gaps Line.isBlank (Paragraph.merge cfg ls) = gaps Line.isBlank ls := by
  cases ls with
  | nil => rfl
  | cons l ls => exact gapsFrom_mergeFrom cfg false l ls

/-- In the midst of a gap its first line has been kept already. -/
private theorem gapsFrom_dropBlanks (blank outside : Bool) (hblank : blank = true → outside = false)
    {ls : List Line} {g : List Line} {gs : List (List Line)}
    (h : gapsFrom Line.isBlank outside ls = g :: gs) :
    gapsFrom Line.isBlank outside (Paragraph.dropBlanks blank ls) =
      (if blank then g.filter Line.verbatim else keptGap Line.verbatim g) ::
        gs.map (keptGap Line.verbatim) := by
  induction ls generalizing blank outside g gs with
  | nil =>
      cases h
      cases blank <;> rfl
  | cons l ls ih =>
      cases hl : l.isBlank with
      | true =>
          obtain ⟨g', gs', hgs⟩ := exists_gapsFrom Line.isBlank false ls
          rw [gapsFrom_cons_of_pos hl, hgs, List.modifyHead_cons] at h
          cases h
          have hrest := ih true false (fun _ => rfl) hgs
          rw [if_pos rfl] at hrest
          rw [Paragraph.dropBlanks]
          split
          next hdrop =>
            simp only [Bool.and_eq_true, Bool.not_eq_true'] at hdrop
            obtain ⟨⟨-, rfl⟩, hverbatim⟩ := hdrop
            rw [hblank rfl, hrest, if_pos rfl, List.filter_cons_of_neg (by simp [hverbatim])]
          next hkeep =>
            rw [gapsFrom_cons_of_pos hl, hl, hrest, List.modifyHead_cons]
            cases blank with
            | false => rfl
            | true =>
                have hverbatim : l.verbatim = true := by simpa [hl] using hkeep
                rw [if_pos rfl, List.filter_cons_of_pos hverbatim]
      | false =>
          obtain ⟨g', gs', hgs⟩ := exists_gapsFrom Line.isBlank true ls
          have hrest := ih false true (by simp) hgs
          rw [if_neg (by simp)] at hrest
          rw [gapsFrom_cons_of_neg hl, hgs] at h
          rw [Paragraph.dropBlanks_cons blank hl, gapsFrom_cons_of_neg hl, hrest]
          cases outside with
          | true =>
              cases h
              -- Outside of a gap no blank line was kept last.
              have hnot : blank ≠ true := by
                intro hb
                cases hblank hb
              rw [if_neg hnot]
              rfl
          | false =>
              cases h
              cases blank <;> rfl

/-- Dropping blank lines keeps the first line and the verbatim ones of each gap. -/
theorem gaps_dedup (ls : List Line) :
    gaps Line.isBlank (Paragraph.dedup ls) =
      (gaps Line.isBlank ls).map (keptGap Line.verbatim) := by
  obtain ⟨g, gs, hgs⟩ := exists_gapsFrom Line.isBlank false ls
  rw [gaps, gaps, Paragraph.dedup, gapsFrom_dropBlanks false false (by simp) hgs, hgs]
  rfl

/-- Behind dropping only a verbatim blank line follows a blank line. -/
theorem isChain_dedup (ls : List Line) :
    (Paragraph.dedup ls).IsChain fun l q =>
      l.isBlank = true → q.isBlank = true → q.verbatim = true := by
  apply isChain_of_gapsFrom false
  rw [← gaps, gaps_dedup, List.forall_mem_map]
  intro g _ l hl
  cases g with
  | nil => cases hl
  | cons k g => exact (List.mem_filter.mp hl).2

theorem lineGaps_dedup (ls : List Line) :
    lineGaps (Paragraph.dedup ls) = (lineGaps ls).map (keptGap Option.isSome) := by
  have hkept (g : List Line) : (keptGap Line.verbatim g).map Line.verbatim? =
      keptGap Option.isSome (g.map Line.verbatim?) := by
    rw [keptGap_map, show Option.isSome ∘ Line.verbatim? = Line.verbatim from
      funext Line.isSome_verbatim?]
  rw [lineGaps, lineGaps, gaps_dedup, List.map_map, List.map_map]
  exact List.map_congr_left fun g _ => hkept g

/-- Every pass but marking and dropping leaves the gaps as they are. -/
private theorem applyAll_lineGaps {cfg : Config} (hcfg : cfg.Loaded) {ps : List Pass}
    (hmark : .markVerbatim ∉ ps) (hdedup : .dedup ∉ ps) {ls out : List Line}
    (h : Pass.applyAll cfg ps ls = .ok out) : lineGaps out = lineGaps ls := by
  apply Pass.applyAll_rel (R := fun as bs => lineGaps bs = lineGaps as) _ _ _ h
  · intro ls
    rfl
  · intro as bs cs hab hbc
    exact hbc.trans hab
  · intro p hp as bs hstep
    by_cases hmerge : p = .merge
    · subst hmerge
      cases hstep
      rw [lineGaps, gaps_merge]
      rfl
    · obtain ⟨qss, hqss, rfl⟩ := Pass.apply_makes (fun h => hdedup (h ▸ hp)) hmerge hstep
      apply gapsFrom_of_spaced
      exact hqss.imp fun _ _ => spaced_of_makes hcfg fun h => hmark (h ▸ hp)

/-- From the marked rows on, a run changes the gaps only where lines are joined. -/
private theorem tail_lineGaps {cfg : Config} (hcfg : cfg.Loaded) {ls out : List Line}
    (h : Pass.applyAll cfg cfg.passes.tail ls = .ok out) :
    lineGaps out = if cfg.joinLines then (lineGaps ls).map (keptGap Option.isSome)
      else lineGaps ls := by
  cases hjoin : cfg.joinLines with
  | false =>
      apply applyAll_lineGaps hcfg cfg.markVerbatim_not_mem_tail ?_ h
      rw [Config.passes, hjoin]
      cases cfg.splitSentences <;> simp
  | true =>
      obtain ⟨rest, hpasses, hmark, hdedup⟩ : ∃ rest,
          cfg.passes.tail = [.trim, .markComments] ++ .dedup :: rest ∧
            .markVerbatim ∉ rest ∧ .dedup ∉ rest := by
        rw [Config.passes, hjoin]
        refine ⟨_, rfl, ?_⟩
        cases cfg.splitSentences <;> simp
      rw [hpasses, Pass.applyAll_append] at h
      obtain ⟨opened, hopened, h⟩ := bind_eq_ok_iff.mp h
      rw [Pass.applyAll_cons] at h
      obtain ⟨deduped, hdeduped, h⟩ := bind_eq_ok_iff.mp h
      cases hdeduped
      rw [applyAll_lineGaps hcfg hmark hdedup h, lineGaps_dedup,
        applyAll_lineGaps hcfg (by simp) (by simp) hopened]
      rfl

private theorem lineGaps_marked (rows : List Text) (mask : List Bool) :
    lineGaps (List.zipWith (fun l inside => if inside then { l with verbatim := true } else l)
        (rows.map Line.ofRow) mask) =
      (gaps (fun r => r.1.isBlank) (rows.zip mask)).map
        (·.map fun r => if r.2 then some r.1 else none) := by
  have hmarked : List.zipWith (fun l inside => if inside then { l with verbatim := true } else l)
      (rows.map Line.ofRow) mask =
        (rows.zip mask).map fun r => { Line.ofRow r.1 with verbatim := r.2 } := by
    rw [List.zipWith_map_left, ← List.map_uncurry_zip_eq_zipWith]
    apply List.map_congr_left
    intro r _
    obtain ⟨row, inside⟩ := r
    cases inside <;> rfl
  rw [hmarked, lineGaps, gaps, gapsFrom_map (fun _ => rfl), List.map_map]
  apply List.map_congr_left
  intro g _
  exact List.map_map

private theorem gaps_zip {rows : List Text} {mask : List Bool} (hlen : mask.length = rows.length) :
    gaps Text.isBlank rows =
      (gaps (fun r => r.1.isBlank) (rows.zip mask)).map (·.map Prod.fst) := by
  have hrows : (rows.zip mask).map Prod.fst = rows := List.map_fst_zip (by omega)
  calc
    gaps Text.isBlank rows = gaps Text.isBlank ((rows.zip mask).map Prod.fst) := by rw [hrows]
    _ = _ := gapsFrom_map (fun _ => rfl) false _

private theorem filterMap_marked (g : List (Text × Bool)) :
    (g.map fun r => if r.2 then some r.1 else none).filterMap id = (g.filter (·.2)).map (·.1) := by
  induction g with
  | nil => rfl
  | cons r g ih =>
      obtain ⟨row, inside⟩ := r
      cases inside with
      | true => exact congrArg (List.cons row) ih
      | false => exact ih

/-- A gap behind a run, next to the marked rows of the same gap before it: it has the verbatim ones,
and behind its first line no others. -/
private theorem gap_of_keptGap {g : List (Text × Bool)} {g' : List Line}
    (h : g'.map Line.verbatim? =
      keptGap Option.isSome (g.map fun r => if r.2 then some r.1 else none)) :
    (∀ l ∈ g'.tail, l.verbatim = true) ∧ verbatimTexts g' = (g.filter (·.2)).map (·.1) ∧
      (g' = [] ↔ g = []) ∧ (g ≠ [] → (∀ r ∈ g, r.2 = false) → g'.length = 1) := by
  have hflag : Option.isSome ∘ (fun r : Text × Bool => if r.2 then some r.1 else none) =
      Prod.snd := by
    funext r
    obtain ⟨row, inside⟩ := r
    cases inside <;> rfl
  rw [keptGap_map, hflag] at h
  have htexts := congrArg (List.filterMap id) h
  rw [← verbatimTexts_eq_filterMap, filterMap_marked] at htexts
  cases g with
  | nil =>
      obtain rfl : g' = [] := List.map_eq_nil_iff.mp h
      exact ⟨by simp, htexts, by simp, by simp⟩
  | cons r g =>
      rw [keptGap] at h htexts
      have hlen : g'.length = (g.filter (·.2)).length + 1 := by
        simpa using congrArg List.length h
      refine ⟨?_, ?_, ?_, ?_⟩
      · intro l hl
        have htail := congrArg List.tail h
        rw [← List.map_tail, List.map_cons, List.tail_cons] at htail
        have hmem : l.verbatim? ∈ g'.tail.map Line.verbatim? := List.mem_map_of_mem hl
        rw [htail] at hmem
        obtain ⟨r, hr, hview⟩ := List.mem_map.mp hmem
        rw [← Line.isSome_verbatim?, ← hview, if_pos (List.mem_filter.mp hr).2]
        rfl
      · simpa [List.filter_cons] using htexts
      · rw [← List.length_eq_zero_iff, hlen]
        simp
      · intro _ hnone
        obtain ⟨-, hg⟩ := List.forall_mem_cons.mp hnone
        rw [hlen, List.filter_eq_nil_iff.mpr fun r hr => by simp [hg r hr]]
        rfl

/-- A run under settings that were read keeps the number of blank lines in each gap, if it joins no
lines. Else it keeps all gaps, with one line of a gap without verbatim rows and with all verbatim
rows, and no other blank line follows a blank line. -/
theorem run_gaps {settings : Text} {cfg : Config} (hcfg : Config.read settings {} = .ok cfg)
    {rows : List Text} {out : List Line} (h : cfg.run rows = .ok out) :
    ∃ s, Region.scan cfg.verbatim rows = .ok s ∧ s.mask.length = rows.length ∧
      (cfg.joinLines = false →
        (gaps Line.isBlank out).map List.length = (gaps Text.isBlank rows).map List.length) ∧
      (cfg.joinLines = true →
        out.IsChain (fun l q => l.isBlank = true → q.isBlank = true → q.verbatim = true) ∧
        List.Forall₂ (fun g g' => verbatimTexts g' = (g.filter (·.2)).map (·.1) ∧
            (g' = [] ↔ g = []) ∧ (g ≠ [] → (∀ r ∈ g, r.2 = false) → g'.length = 1))
          (gaps (fun r => r.1.isBlank) (rows.zip s.mask)) (gaps Line.isBlank out)) := by
  have hloaded := Config.loaded_of_read hcfg
  obtain ⟨s, hs, h⟩ := Config.exists_scan_of_run h
  have hlen := Region.scan_mask_length hs
  have hgaps := tail_lineGaps hloaded h
  rw [lineGaps_marked, lineGaps] at hgaps
  refine ⟨s, hs, hlen, ?_, ?_⟩
  · intro hjoin
    rw [hjoin, if_neg (by simp)] at hgaps
    rw [gaps_zip hlen]
    simpa [Function.comp_def] using congrArg (List.map List.length) hgaps
  · intro hjoin
    rw [hjoin, if_pos rfl, List.map_map, ← List.forall₂_eq_eq_eq, List.forall₂_map_left_iff,
      List.forall₂_map_right_iff] at hgaps
    obtain ⟨htail, hkept⟩ := (List.forall₂_and_left _ _).mp
      (hgaps.imp fun g' g hg => gap_of_keptGap hg)
    exact ⟨isChain_of_gapsFrom false htail, hkept.flip⟩

/-- Blank rows at the start, between paragraphs and in a verbatim region, with the lines joined and
with the line breaks kept. -/
theorem run_gaps_region :
    let pattern (t : Text) := (Pattern.parse t).toOption
    let cfg : Config := { verbatim := ⟨pattern ['B'], pattern ['E']⟩ }
    let rows : List Text := ["", " ", "a. b", "", "", "B", "", " ", "E", "c"].map String.toList
    Config.read "begin_protect: B\nend_protect: E".toList {} = .ok cfg ∧
      (gaps Text.isBlank rows).map List.length = [2, 2, 2, 0] ∧
      (∃ out s, cfg.run rows = .ok out ∧ Region.scan cfg.verbatim rows = .ok s ∧
        (gaps Line.isBlank out).map List.length = [1, 1, 2, 0] ∧
        out.IsChain (fun l q => l.isBlank = true → q.isBlank = true → q.verbatim = true) ∧
        List.Forall₂ (fun g g' => verbatimTexts g' = (g.filter (·.2)).map (·.1) ∧
            (g' = [] ↔ g = []) ∧ (g ≠ [] → (∀ r ∈ g, r.2 = false) → g'.length = 1))
          (gaps (fun r => r.1.isBlank) (rows.zip s.mask)) (gaps Line.isBlank out)) ∧
      Config.read "begin_protect: B\nend_protect: E\nremove_newlines: no".toList {} =
        .ok { cfg with joinLines := false } ∧
      ∃ out, Config.run { cfg with joinLines := false } rows = .ok out ∧
        (gaps Line.isBlank out).map List.length = [2, 2, 2, 0] := by
  intro pattern cfg rows
  have hcfg : Config.read "begin_protect: B\nend_protect: E".toList {} = .ok cfg := by
    decide +kernel
  have hkeep : Config.read "begin_protect: B\nend_protect: E\nremove_newlines: no".toList {} =
      .ok { cfg with joinLines := false } := by
    decide +kernel
  have hrows : (gaps Text.isBlank rows).map List.length = [2, 2, 2, 0] := by decide +kernel
  have hlines : (cfg.run rows).toOption.map (fun out => (gaps Line.isBlank out).map List.length) =
      some [1, 1, 2, 0] := by
    decide +kernel
  have hkept : (Config.run { cfg with joinLines := false } rows).toOption.isSome := by
    decide +kernel
  refine ⟨hcfg, hrows, ?_, hkeep, ?_⟩
  · cases hout : cfg.run rows with
    | error f =>
        rw [hout] at hlines
        cases hlines
    | ok out =>
        rw [hout] at hlines
        obtain ⟨s, hs, -, -, hjoined⟩ := run_gaps hcfg hout
        exact ⟨out, s, rfl, hs, Option.some.inj hlines, hjoined rfl⟩
  · cases hout : Config.run { cfg with joinLines := false } rows with
    | error f =>
        rw [hout] at hkept
        cases hkept
    | ok out =>
        obtain ⟨s, -, -, hsame, -⟩ := run_gaps hkeep hout
        exact ⟨out, rfl, (hsame rfl).trans hrows⟩

end TexReflow
