import TexReflow.Proofs.Grouping
import TexReflow.Proofs.GuardedBreaks
import TexReflow.Proofs.RunLines

/-!
# Text and comments

Without cutting into sentences, and with rules that look for longer names, a run keeps what is live
and what belongs to comments. Every pass keeps both, one line or one group of lines at a time.
-/

namespace TexReflow

/-- The live text of contents and the text of their comments. -/
private def division (ts : List Text) : Text × Text :=
  (ts.flatMap Comment.live, ts.flatMap Comment.dead)

private theorem division_singleton (t : Text) :
    division [t] = (Comment.live t, Comment.dead t) := by
  simp [division]

private theorem division_append {as as' bs bs' : List Text} (ha : division as = division as')
    (hb : division bs = division bs') : division (as ++ bs) = division (as' ++ bs') := by
  simp only [division, Prod.mk.injEq, List.flatMap_append] at ha hb ⊢
  rw [ha.1, ha.2, hb.1, hb.2]
  exact ⟨rfl, rfl⟩

private theorem division_blank {t : Text} (ht : t.isBlank = true) : division [t] = division [] := by
  rw [division_singleton, Comment.live_of_blank ht,
    Comment.dead_eq_nil (Comment.inside_of_blank ht)]
  rfl

private theorem division_trim (t : Text) : division [t.trim] = division [t] := by
  rw [division_singleton, division_singleton, Comment.live_trim, Comment.dead_trim]

private theorem division_part {t : Text} (h : '\n' ∉ t) :
    division (Text.parts '\n' t) = division [t] := by
  rw [Text.parts_of_not_mem h]
  split
  next hblank => exact (division_blank hblank).symm
  next => exact division_trim t

/-- Cutting at line breaks before the comment keeps what is live and what is not. -/
private theorem division_parts {t : Text} (h : '\n' ∉ (Comment.split t).2) :
    division (Text.parts '\n' t) = division [t] := by
  by_cases hmem : '\n' ∈ t
  · obtain ⟨a, b, rfl, ha⟩ := List.eq_append_cons_of_mem hmem
    have hinside : Comment.inside a = false := by
      rw [Bool.eq_false_iff]
      intro hinside
      rw [Comment.split_append_comment _ hinside] at h
      simp at h
    rw [Comment.split_append_space b hinside rfl] at h
    have hparts := division_append (division_part ha) (division_parts h)
    obtain ⟨hlive, hdead⟩ := Comment.live_dead_append_space b hinside (c := '\n') rfl
    rw [Text.parts_append_cons, hparts, division_singleton, hlive, hdead]
    simp [division]
  · exact division_part hmem
termination_by t.length
decreasing_by
  subst_vars
  simp only [List.length_append, List.length_cons]
  omega

/-- The pieces of a content have its live text and its comment. -/
private theorem division_pieces {rules : List Macro.Rule}
    (hguard : ∀ r ∈ rules, r.hasGuard = true) {content : Text} (hrow : '\n' ∉ content) :
    division (Macro.pieces rules ['\n'] content) = division [content] := by
  have hsplit := Macro.split_insertBreaks hguard content
  have hcomment : '\n' ∉ (Comment.split content).2 := by
    intro hmem
    apply hrow
    rw [← Comment.split_append content]
    exact List.mem_append_right _ hmem
  have hlive : Comment.live (Macro.insertBreaks rules ['\n'] content) = Comment.live content := by
    have hpadded : Text.Padded (· = '\n') (Comment.split content).1
        (rules.foldl (fun t r => r.apply ['\n'] t) (Comment.split content).1) :=
      Macro.foldl_padded rules (by simp) _
    rw [Comment.live, hsplit, Comment.live]
    exact hpadded.filter_eq (by rintro c rfl; rfl)
  have hdead : Comment.dead (Macro.insertBreaks rules ['\n'] content) = Comment.dead content := by
    rw [Comment.dead, hsplit, Comment.dead]
  have hparts := division_parts (t := Macro.insertBreaks rules ['\n'] content) (by rwa [hsplit])
  rw [division_singleton, hlive, hdead, ← division_singleton] at hparts
  exact hparts

/-- The rules of names that do not end in an opening bracket or a backslash are guarded. -/
private theorem hasGuard_of_rules {cfg : Config} {rules : List Macro.Rule}
    (hrules : cfg.rules = .ok rules)
    (hnames : ∀ b ∈ cfg.breaks, ∀ c ∈ b.name.getLast?, c ≠ '[' ∧ c ≠ '{' ∧ c ≠ '\\') :
    ∀ r ∈ rules, r.hasGuard = true := by
  have hread := mapM_eq_ok_iff.mp hrules
  clear hrules
  generalize cfg.breaks = breaks at hread hnames
  induction hread with
  | nil => exact List.forall_mem_nil _
  | @cons b r breaks rules hb _ ih =>
      obtain ⟨hname, hnames⟩ := List.forall_mem_cons.mp hnames
      refine List.forall_mem_cons.mpr ⟨?_, ih hnames⟩
      obtain ⟨p, hp, hr⟩ := bind_eq_ok_iff.mp (mapError_eq_ok_iff.mp hb)
      cases hr
      have hsource : p.source = b.name := by
        obtain ⟨reading, -, hp⟩ := bind_eq_ok_iff.mp hp
        obtain ⟨root, -, hp⟩ := bind_eq_ok_iff.mp hp
        cases hp
        rfl
      rw [Macro.Rule.hasGuard, hsource]
      split
      next c hc => simp [hname c hc]
      next => rfl

section

variable {cfg : Config} (hnewline : cfg.newline = ['\n'])
  (hnames : ∀ b ∈ cfg.breaks, ∀ c ∈ b.name.getLast?, c ≠ '[' ∧ c ≠ '{' ∧ c ≠ '\\')

include hnewline hnames

private theorem division_of_makes {p : Pass} (hsentences : p ≠ .splitSentences) {l : Line}
    {qs : List Line} (hrow : '\n' ∉ l.content) (h : p.Makes cfg l qs) :
    division (qs.map (·.content)) = division [l.content] := by
  cases p with
  | markVerbatim => rcases h with rfl | rfl <;> rfl
  | trim =>
      cases h
      rw [List.map_singleton, Line.trim]
      split
      · rfl
      · exact division_trim l.content
  | markComments =>
      cases h
      rfl
  | dedup => exact h.elim
  | merge => exact h.elim
  | breakLines =>
      obtain ⟨rules, hrules, h⟩ := h
      rcases Macro.breakLine_ok h with ⟨-, rfl⟩ | ⟨-, -, rfl⟩
      · rfl
      · have hcontents : ((Macro.pieces rules cfg.newline l.content).map (Macro.pieceOf l)).map
            (·.content) = Macro.pieces rules cfg.newline l.content := by
          rw [List.map_map]
          exact List.map_id _
        rw [hcontents, hnewline]
        exact division_pieces (hasGuard_of_rules hrules hnames) hrow
  | markMath => rcases h with rfl | rfl <;> rfl
  | splitSentences => exact absurd rfl hsentences
  | collapse =>
      cases h
      rw [List.map_singleton, Line.collapse]
      split
      · rfl
      · change division [l.content.collapse] = _
        rw [division_singleton, division_singleton, Comment.live_collapse, Comment.dead_collapse]

omit hnewline hnames in
private theorem division_dropBlanks (blank : Bool) (ls : List Line) :
    division ((Paragraph.dropBlanks blank ls).map (·.content)) =
      division (ls.map (·.content)) := by
  induction ls generalizing blank with
  | nil => rfl
  | cons l ls ih =>
      rw [Paragraph.dropBlanks]
      split
      next hdrop =>
        simp only [Bool.and_eq_true] at hdrop
        exact division_append (division_blank hdrop.1.1).symm (ih blank)
      next =>
        have hfirst : division [l.content] = division [l.content] := rfl
        exact division_append hfirst (ih l.isBlank)

omit hnewline hnames in
private theorem division_merge (ls : List Line) :
    division ((Paragraph.merge cfg ls).map (·.content)) = division (ls.map (·.content)) := by
  have hsoft : ∀ g ∈ Paragraph.groups cfg ls, g.Soft cfg := fun g =>
    Paragraph.soft_of_mem_groups
  rw [Paragraph.merge_eq_map]
  nth_rewrite 2 [← Paragraph.groups_lines cfg ls]
  generalize Paragraph.groups cfg ls = gs at hsoft ⊢
  induction gs with
  | nil => rfl
  | cons g gs ih =>
      obtain ⟨hg, hgs⟩ := List.forall_mem_cons.mp hsoft
      have hgroup : division [g.line.content] = division (g.lines.map (·.content)) := by
        rw [division_singleton, hg.division.1, hg.division.2, division, List.flatMap_map,
          List.flatMap_map]
      rw [List.flatMap_cons, List.map_append]
      exact division_append hgroup (ih hgs)

/-- A pass other than cutting into sentences keeps what is live and what belongs to comments. -/
private theorem apply_division {p : Pass} (hsentences : p ≠ .splitSentences) {ls out : List Line}
    (hrows : ∀ l ∈ ls, '\n' ∉ l.content) (h : p.apply cfg ls = .ok out) :
    division (out.map (·.content)) = division (ls.map (·.content)) := by
  by_cases hdedup : p = .dedup
  · subst hdedup
    cases h
    exact division_dropBlanks false ls
  by_cases hmerge : p = .merge
  · subst hmerge
    cases h
    exact division_merge ls
  · apply Pass.apply_congr (F := fun ls => division (ls.map (·.content))) _ hdedup hmerge _ h
    · intro as as' bs bs' ha hb
      simp only [List.map_append]
      exact division_append ha hb
    · intro l hl qs hmakes
      exact division_of_makes hnewline hnames hsentences (hrows l hl) hmakes

/-- Without cutting into sentences a run keeps what is live and what belongs to comments. -/
private theorem run_division (hsentences : cfg.splitSentences = false) {rows : List Text}
    (hrows : ∀ r ∈ rows, ∀ c ∈ r, Text.isRowBreak c = false) {out : List Line}
    (h : cfg.run rows = .ok out) :
    (∀ l ∈ out, ∀ c ∈ l.content, Text.isRowBreak c = false) ∧
      division (out.map (·.content)) = division rows := by
  obtain ⟨rules, -, h⟩ := bind_eq_ok_iff.mp h
  have hpasses : ∀ p ∈ cfg.passes, p ≠ .splitSentences := by
    rw [Config.passes, hsentences]
    cases cfg.joinLines <;> decide
  -- Breaking needs lines without line feeds, so both facts are carried along together.
  have hrel := Pass.applyAll_rel
    (R := fun as bs => (∀ l ∈ as, ∀ c ∈ l.content, Text.isRowBreak c = false) →
      (∀ l ∈ bs, ∀ c ∈ l.content, Text.isRowBreak c = false) ∧
        division (bs.map (·.content)) = division (as.map (·.content)))
    (fun ls hls => ⟨hls, rfl⟩)
    (fun hab hbc has =>
      ⟨(hbc (hab has).1).1, (hbc (hab has).1).2.trans (hab has).2⟩)
    (fun p hp as bs hstep has => by
      have hsplit := hpasses p hp
      refine ⟨?_, apply_division hnewline hnames hsplit ?_ hstep⟩
      · exact Pass.apply_forall (unbroken_of_makes hnewline fun hp => absurd hp hsplit)
          (fun _ => unbroken_join) hstep has
      · intro l hl hrow
        cases has l hl _ hrow)
    h
  rw [Line.map_content_ofRow] at hrel
  apply hrel
  rwa [List.forall_mem_map]

end

/-- Joining and breaking lines moves no text into a comment and none out of it: for rules that look
for longer names the rows of the result have the live text and the comments of the document. -/
theorem process_division (cfg : Config) (hnewline : cfg.newline = ['\n'])
    (hsentences : cfg.splitSentences = false)
    (hnames : ∀ b ∈ cfg.breaks, ∀ c ∈ b.name.getLast?, c ≠ '[' ∧ c ≠ '{' ∧ c ≠ '\\') {t o : Text}
    (h : cfg.process t = .ok o) :
    o.rows.flatMap Comment.live = t.rows.flatMap Comment.live ∧
      o.rows.flatMap Comment.dead = t.rows.flatMap Comment.dead := by
  obtain ⟨ls, hls, rfl⟩ := process_eq_ok_iff.mp h
  obtain ⟨hunbroken, hdivision⟩ := run_division hnewline hnames hsentences
    (Text.not_isBreak_of_mem_rowsBy Text.isRowBreak t) hls
  rw [hnewline, rows_join hunbroken]
  exact Prod.mk.inj hdivision

/-- An escaped percent sign, a macro in a comment, and a comment in a verbatim region. -/
theorem process_division_macro :
    let cfg : Config :=
      { breaks := [⟨['x'], .around⟩], splitSentences := false
        verbatim := ⟨(Pattern.parse ['B']).toOption, (Pattern.parse ['E']).toOption⟩ }
    let t : Text := "a\\% b\n\\x{c}\\% d % e \\x{f}\ng\nB % h\nE".toList
    let o : Text := "a\\% b\n\\x{c}\n\\% d % e \\x{f}\ng\nB % h\nE\n".toList
    cfg.newline = ['\n'] ∧ cfg.splitSentences = false ∧
      (∀ b ∈ cfg.breaks, ∀ c ∈ b.name.getLast?, c ≠ '[' ∧ c ≠ '{' ∧ c ≠ '\\') ∧
      cfg.process t = .ok o ∧ o.rows.flatMap Comment.live = t.rows.flatMap Comment.live ∧
      o.rows.flatMap Comment.dead = t.rows.flatMap Comment.dead := by
  intro cfg t o
  have hnames : ∀ b ∈ cfg.breaks, ∀ c ∈ b.name.getLast?, c ≠ '[' ∧ c ≠ '{' ∧ c ≠ '\\' := by
    intro b hb c hc
    cases List.mem_singleton.mp hb
    cases hc
    decide
  have hrun : cfg.process t = .ok o := by decide +kernel
  exact ⟨rfl, rfl, hnames, hrun, process_division cfg rfl rfl hnames hrun⟩

end TexReflow
