import TexReflow.Proofs.Breaks
import TexReflow.Proofs.Passes
import TexReflow.Proofs.Sentences

/-!
# Verbatim lines

No pass changes, drops or moves the content of a verbatim line, and only marking makes further
lines verbatim. After a run the verbatim lines are the rows that the scan finds inside of regions.
-/

namespace TexReflow

/-- The contents of the verbatim lines. -/
def verbatimTexts (ls : List Line) : List Text := (ls.filter (·.verbatim)).map (·.content)

private theorem verbatimTexts_append (as bs : List Line) :
    verbatimTexts (as ++ bs) = verbatimTexts as ++ verbatimTexts bs := by
  rw [verbatimTexts, List.filter_append, List.map_append]
  rfl

private theorem verbatimTexts_cons (l : Line) (ls : List Line) :
    verbatimTexts (l :: ls) = verbatimTexts [l] ++ verbatimTexts ls :=
  verbatimTexts_append [l] ls

private theorem verbatimTexts_eq_nil {ls : List Line} (h : ∀ l ∈ ls, l.verbatim = false) :
    verbatimTexts ls = [] := by
  rw [verbatimTexts, List.map_eq_nil_iff, List.filter_eq_nil_iff]
  intro l hl
  simp [h l hl]

private theorem verbatimTexts_of_not {l : Line} (h : l.verbatim = false) : verbatimTexts [l] = [] :=
  verbatimTexts_eq_nil (by simpa using h)

private theorem verbatimTexts_single {l q : Line} (hflag : q.verbatim = l.verbatim)
    (hcontent : l.verbatim = true → q.content = l.content) :
    verbatimTexts [q] = verbatimTexts [l] := by
  cases hl : l.verbatim with
  | true => simp [verbatimTexts, hflag, hl, hcontent hl]
  | false => simp [verbatimTexts, hflag, hl]

private theorem verbatimTexts_breakLine {rules : List Macro.Rule} {newline : Text} {l : Line}
    {qs : List Line} (h : Macro.breakLine rules newline l = .ok qs) :
    verbatimTexts qs = verbatimTexts [l] := by
  rcases Macro.breakLine_ok h with ⟨-, rfl⟩ | ⟨hskip, -, rfl⟩
  · rfl
  · simp only [Bool.or_eq_false_iff] at hskip
    have hl : l.verbatim = false := hskip.1.2
    have hpieces : ∀ q ∈ (Macro.pieces rules newline l.content).map (Macro.pieceOf l),
        q.verbatim = false := by
      intro q hq
      obtain ⟨t, -, rfl⟩ := List.mem_map.mp hq
      exact hl
    rw [verbatimTexts_eq_nil hpieces, verbatimTexts_of_not hl]

/-- What a pass other than marking makes of a line keeps its verbatim content. -/
private theorem verbatimTexts_of_makes {cfg : Config} {p : Pass} (hp : p ≠ .markVerbatim) {l : Line}
    {qs : List Line} (h : p.Makes cfg l qs) : verbatimTexts qs = verbatimTexts [l] := by
  cases p with
  | markVerbatim => exact absurd rfl hp
  | trim =>
      cases h
      apply verbatimTexts_single
      · rw [Line.trim]
        split <;> rfl
      · intro hl
        rw [Line.trim, if_pos hl]
  | markComments =>
      cases h
      exact verbatimTexts_single rfl fun _ => rfl
  | dedup => exact h.elim
  | merge => exact h.elim
  | breakLines =>
      obtain ⟨rules, -, h⟩ := h
      exact verbatimTexts_breakLine h
  | markMath => rcases h with rfl | rfl <;> exact verbatimTexts_single rfl fun _ => rfl
  | splitSentences =>
      cases h
      cases hskip : Sentence.skips l with
      | true => rfl
      | false =>
          simp only [Sentence.skips, Bool.or_eq_false_iff] at hskip
          have hl : l.verbatim = false := hskip.1.1.1
          have hpieces : ∀ q ∈ Sentence.split cfg l, q.verbatim = false := by
            intro q hq
            rw [(Sentence.mem_split hq).1.1, hl]
          rw [if_neg (by simp), verbatimTexts_eq_nil hpieces,
            verbatimTexts_of_not hl]
  | collapse =>
      cases h
      apply verbatimTexts_single
      · rw [Line.collapse]
        split <;> rfl
      · intro hl
        rw [Line.collapse, if_pos hl]

private theorem verbatimTexts_flatten {ls : List Line} {qss : List (List Line)}
    (h : List.Forall₂ (fun l qs => verbatimTexts qs = verbatimTexts [l]) ls qss) :
    verbatimTexts qss.flatten = verbatimTexts ls := by
  induction h with
  | nil => rfl
  | @cons l qs ls qss hl _ ih =>
      rw [List.flatten_cons, verbatimTexts_append, ih, hl, ← verbatimTexts_cons]

private theorem verbatimTexts_dropBlanks (blank : Bool) (ls : List Line) :
    verbatimTexts (Paragraph.dropBlanks blank ls) = verbatimTexts ls := by
  induction ls generalizing blank with
  | nil => rfl
  | cons l ls ih =>
      rw [Paragraph.dropBlanks, verbatimTexts_cons l]
      split
      next hdrop =>
        simp only [Bool.and_eq_true, Bool.not_eq_true'] at hdrop
        rw [ih, verbatimTexts_of_not hdrop.2, List.nil_append]
      next => rw [verbatimTexts_cons, ih]

private theorem verbatimTexts_mergeFrom (cfg : Config) (first : Line) (ls : List Line) :
    verbatimTexts (Paragraph.mergeFrom cfg first ls) = verbatimTexts (first :: ls) := by
  induction ls generalizing first with
  | nil => rfl
  | cons second ls ih =>
      rw [Paragraph.mergeFrom]
      split
      next hjoin =>
        obtain ⟨-, ⟨hfirst, hsecond⟩, -⟩ := Paragraph.canJoin_iff.mp hjoin
        have hboth : (Paragraph.join first second).verbatim = false := hfirst
        rw [ih, verbatimTexts_cons, verbatimTexts_of_not hboth, verbatimTexts_cons first,
          verbatimTexts_of_not hfirst, verbatimTexts_cons second, verbatimTexts_of_not hsecond]
        rfl
      next => rw [verbatimTexts_cons, ih, ← verbatimTexts_cons]

/-- Every pass other than marking keeps the verbatim contents. -/
private theorem apply_verbatimTexts {cfg : Config} {p : Pass} (hp : p ≠ .markVerbatim)
    {ls out : List Line} (h : p.apply cfg ls = .ok out) : verbatimTexts out = verbatimTexts ls := by
  by_cases hdedup : p = .dedup
  · subst hdedup
    cases h
    exact verbatimTexts_dropBlanks false ls
  by_cases hmerge : p = .merge
  · subst hmerge
    cases h
    cases ls with
    | nil => rfl
    | cons l ls => exact verbatimTexts_mergeFrom cfg l ls
  · obtain ⟨qss, hqss, rfl⟩ := Pass.apply_makes hdedup hmerge h
    exact verbatimTexts_flatten (hqss.imp fun _ _ => verbatimTexts_of_makes hp)

/-- Marking makes lines verbatim and takes the mark from none. -/
private theorem markVerbatim_sublist {cfg : Config} {ls out : List Line}
    (h : Pass.markVerbatim.apply cfg ls = .ok out) :
    (verbatimTexts ls).Sublist (verbatimTexts out) := by
  obtain ⟨qss, hqss, rfl⟩ := Pass.apply_makes (by simp) (by simp) h
  clear h
  induction hqss with
  | nil => exact List.Sublist.refl _
  | @cons l qs ls qss hl _ ih =>
      have hline : (verbatimTexts [l]).Sublist (verbatimTexts qs) := by
        rcases hl with rfl | rfl
        · exact List.Sublist.refl _
        · cases hv : l.verbatim with
          | true => simp [verbatimTexts, hv]
          | false => simp [verbatimTexts, hv]
      rw [verbatimTexts_cons, List.flatten_cons, verbatimTexts_append]
      exact hline.append ih

theorem applyAll_verbatimTexts {cfg : Config} {ps : List Pass} (hps : .markVerbatim ∉ ps)
    {ls out : List Line} (h : Pass.applyAll cfg ps ls = .ok out) :
    verbatimTexts out = verbatimTexts ls := by
  apply Pass.applyAll_rel (R := fun as bs => verbatimTexts bs = verbatimTexts as) _ _ _ h
  · intro ls
    rfl
  · intro as bs cs hab hbc
    exact hbc.trans hab
  · intro p hp as bs hstep
    exact apply_verbatimTexts (fun hmark => hps (hmark ▸ hp)) hstep

private theorem applyAll_sublist {cfg : Config} {ps : List Pass} {ls out : List Line}
    (h : Pass.applyAll cfg ps ls = .ok out) : (verbatimTexts ls).Sublist (verbatimTexts out) := by
  apply Pass.applyAll_rel (R := fun as bs => (verbatimTexts as).Sublist (verbatimTexts bs)) _ _ _ h
  · intro ls
    exact List.Sublist.refl _
  · intro as bs cs hab hbc
    exact hab.trans hbc
  · intro p _ as bs hstep
    by_cases hp : p = .markVerbatim
    · subst hp
      exact markVerbatim_sublist hstep
    · rw [apply_verbatimTexts hp hstep]

theorem verbatimTexts_marked (rows : List Text) (mask : List Bool) :
    verbatimTexts (List.zipWith
      (fun l inside => if inside then { l with verbatim := true } else l)
      (rows.map Line.ofRow) mask) = ((rows.zip mask).filter (·.2)).map (·.1) := by
  induction rows generalizing mask with
  | nil => rfl
  | cons row rows ih =>
      cases mask with
      | nil => rfl
      | cons b mask =>
          rw [List.map_cons, List.zipWith_cons_cons, verbatimTexts_cons, ih, List.zip_cons_cons]
          cases b <;> rfl

/-- Passes in any order keep the contents of verbatim lines, and a run makes exactly those rows
verbatim that lie inside of verbatim regions. -/
theorem verbatimTexts_preserved (cfg : Config) :
    (∀ (ps : List Pass) (ls out : List Line), Pass.applyAll cfg ps ls = .ok out →
      (.markVerbatim ∉ ps → verbatimTexts out = verbatimTexts ls) ∧
        (verbatimTexts ls).Sublist (verbatimTexts out)) ∧
    (∀ (rows : List Text) (out : List Line), cfg.run rows = .ok out →
      ∃ s, Region.scan cfg.verbatim rows = .ok s ∧ s.mask.length = rows.length ∧
        verbatimTexts out = ((rows.zip s.mask).filter (·.2)).map (·.1)) := by
  constructor
  · intro ps ls out h
    exact ⟨fun hps => applyAll_verbatimTexts hps h, applyAll_sublist h⟩
  · intro rows out h
    obtain ⟨s, hs, h⟩ := Config.exists_scan_of_run h
    refine ⟨s, hs, Region.scan_mask_length hs, ?_⟩
    rw [applyAll_verbatimTexts cfg.markVerbatim_not_mem_tail h, verbatimTexts_marked]

/-- A region between lines that are cut by a run and joined by passes behind it. -/
theorem verbatimTexts_preserved_region :
    let cfg : Config :=
      { verbatim := ⟨(Pattern.parse ['B']).toOption, (Pattern.parse ['E']).toOption⟩ }
    let rows := ["a.  b", " B", " x.  y ", "E", "c  d"].map String.toList
    let region := [" B", " x.  y ", "E"].map fun s => { Line.ofRow s.toList with verbatim := true }
    let out := ["a.", "b"].map (fun s => Line.ofRow s.toList) ++ region ++ [.ofRow "c d".toList]
    let joined := .ofRow "a. b".toList :: (region ++ [.ofRow "c d".toList])
    cfg.run rows = .ok out ∧ Pass.applyAll cfg [.merge, .collapse] out = .ok joined ∧
      verbatimTexts joined = verbatimTexts out ∧
      ∃ s, Region.scan cfg.verbatim rows = .ok s ∧ s.mask.length = rows.length ∧
        verbatimTexts out = ((rows.zip s.mask).filter (·.2)).map (·.1) := by
  intro cfg rows region out joined
  have hrun : cfg.run rows = .ok out := by decide +kernel
  have hjoined : Pass.applyAll cfg [.merge, .collapse] out = .ok joined := by decide +kernel
  obtain ⟨hpasses, hruns⟩ := verbatimTexts_preserved cfg
  exact ⟨hrun, hjoined, (hpasses _ _ _ hjoined).1 (by decide), hruns _ _ hrun⟩

end TexReflow
