import TexReflow.Proofs.NormalForm

/-!
# Comment marks

Up to the cutting into sentences a line is marked as a comment exactly if it is one. Joining lines
and breaking them at macros look at the new content, but a sentence takes the mark of the line it is
cut from. So a comment that stands directly behind a sentence end becomes a line of its own without
a mark, and this is the only way to lose one.
-/

namespace TexReflow

/-- The line is marked as a comment exactly if it is one. -/
def Line.Exact (l : Line) : Prop := l.comment = Comment.isWhole l.content

instance (l : Line) : Decidable l.Exact := inferInstanceAs (Decidable (_ = _))

/-- Before comments are looked for no line is marked as one. -/
private theorem unmarked_of_makes {cfg : Config} {p : Pass}
    (hp : p = .markVerbatim ∨ p = .trim) {l : Line} {qs : List Line} (hl : l.comment = false)
    (h : p.Makes cfg l qs) : ∀ q ∈ qs, q.comment = false := by
  rcases hp with rfl | rfl
  · rcases h with rfl | rfl <;> exact List.forall_mem_singleton.mpr hl
  · cases h
    rw [List.forall_mem_singleton, Line.trim]
    split <;> exact hl

/-- Trimming and collapsing keep the mark, and keep a comment a comment. -/
private theorem comment_trim_collapse (q : Line) :
    q.trim.collapse.comment = q.comment ∧
      Comment.isWhole q.trim.collapse.content = Comment.isWhole q.content := by
  cases hverbatim : q.verbatim with
  | true => simp [Line.trim, Line.collapse, hverbatim]
  | false =>
      simp [Line.trim, Line.collapse, Line.withContent, hverbatim, Comment.isWhole_collapse,
        Comment.isWhole_trim]

namespace Line.Exact

theorem of_makes {cfg : Config} {p : Pass} (hsentences : p ≠ .splitSentences)
    (hcollapse : p ≠ .collapse) {l : Line} {qs : List Line} (hl : l.Exact) (h : p.Makes cfg l qs) :
    ∀ q ∈ qs, q.Exact := by
  cases p with
  | markVerbatim => rcases h with rfl | rfl <;> exact List.forall_mem_singleton.mpr hl
  | trim =>
      cases h
      rw [List.forall_mem_singleton, Line.trim]
      split
      · exact hl
      · exact hl.trans (Comment.isWhole_trim l.content).symm
  | markComments =>
      cases h
      rw [List.forall_mem_singleton, Exact, Comment.mark, hl, Bool.or_self]
  | dedup => exact h.elim
  | merge => exact h.elim
  | breakLines =>
      obtain ⟨rules, -, h⟩ := h
      rcases Macro.breakLine_ok h with ⟨-, rfl⟩ | ⟨-, -, rfl⟩
      · exact List.forall_mem_singleton.mpr hl
      · rw [List.forall_mem_map]
        exact fun t _ => rfl
  | markMath => rcases h with rfl | rfl <;> exact List.forall_mem_singleton.mpr hl
  | splitSentences => exact absurd rfl hsentences
  | collapse => exact absurd rfl hcollapse

/-- A line that is continued is no comment, and its continuation does not make it one. -/
theorem join {cfg : Config} {first second : Line}
    (hcan : Paragraph.canJoin cfg first second = true) (hfirst : first.Exact) :
    (Paragraph.join first second).Exact := by
  obtain ⟨⟨hblank, -⟩, -, -, -, hinside, -⟩ := Paragraph.canJoin_iff.mp hcan
  have hcomment : first.comment = false :=
    hfirst.trans (Comment.isWhole_of_inside_eq_false hinside)
  have hjoined : Comment.isWhole (first.content ++ ' ' :: second.content).trim = false := by
    rw [Comment.isWhole_trim]
    exact Comment.isWhole_append_space _ hinside hblank rfl
  exact hcomment.trans hjoined.symm

end Line.Exact

/-- Up to the cutting into sentences every mark is right. -/
theorem exact_of_marked {cfg : Config} {rows : List Text} {ls : List Line}
    (h : cfg.marked rows = .ok ls) : ∀ l ∈ ls, l.Exact := by
  obtain ⟨rest, hpasses, hrest⟩ : ∃ rest, cfg.openingPasses ++ [.markMath] =
      [.markVerbatim, .trim] ++ .markComments :: rest ∧
        (.splitSentences ∉ rest ∧ .collapse ∉ rest) := by
    refine ⟨_, rfl, ?_⟩
    cases cfg.joinLines <;> simp
  rw [Config.marked, hpasses, Pass.applyAll_append] at h
  obtain ⟨opened, hopened, h⟩ := bind_eq_ok_iff.mp h
  have hunmarked : ∀ l ∈ opened, l.comment = false := by
    refine Pass.applyAll_forall ?_ hopened ?_
    · intro p hp as bs
      refine Pass.apply_forall (unmarked_of_makes (by simpa using hp)) ?_
      exact fun _ hfirst _ => hfirst
    · rw [List.forall_mem_map]
      exact fun row _ => rfl
  rw [Pass.applyAll_cons] at h
  obtain ⟨_, ⟨⟩, h⟩ := bind_eq_ok_iff.mp h
  refine Pass.applyAll_forall ?_ h ?_
  · intro p hp as bs
    apply Pass.apply_forall
    · apply Line.Exact.of_makes
      · exact fun hlater => hrest.1 (hlater ▸ hp)
      · exact fun hlater => hrest.2 (hlater ▸ hp)
    · exact fun hcan hfirst _ => hfirst.join hcan
  · rw [List.forall_mem_map]
    intro l hl
    rw [Line.Exact, Comment.mark, hunmarked l hl, Bool.false_or]

namespace Sentence

/-- The lines of a cut have right marks if none of the segments is a comment. -/
private theorem exact_split_iff {cfg : Config} {l : Line} (hcomment : l.comment = false) :
    (∀ q ∈ split cfg l, q.Exact) ↔
      ∀ s ∈ segments cfg l.content, Comment.isWhole s = false := by
  have hexact (s : Text) : (l.withContent s.trim).Exact ↔ Comment.isWhole s = false := by
    rw [Line.Exact, Line.withContent, hcomment, Comment.isWhole_trim, eq_comm]
  constructor
  · intro h s hs
    cases hblank : s.isBlank with
    | true => exact Comment.isWhole_of_inside_eq_false (Comment.inside_of_blank hblank)
    | false => exact (hexact s).mp (h _ (withContent_mem_split hs hblank))
  · intro h q hq
    rcases eq_of_mem_split hq with ⟨s, hs, rfl⟩ | ⟨separator, -, rfl⟩
    · exact (hexact s).mpr (h s hs)
    · rfl

private theorem comment_of_skips {l : Line} (h : skips l = false) : l.comment = false := by
  simp only [skips, Bool.or_eq_false_iff] at h
  exact h.2

private theorem exact_splitAll_iff {cfg : Config} {ls : List Line} (hls : ∀ l ∈ ls, l.Exact) :
    (∀ q ∈ splitAll cfg ls, q.Exact) ↔ ∀ l ∈ ls, skips l = false →
      ∀ s ∈ segments cfg l.content, Comment.isWhole s = false := by
  rw [splitAll, List.forall_mem_flatMap]
  refine forall₂_congr fun l hl => ?_
  cases hskip : skips l with
  | true => simpa using hls l hl
  | false => simpa using exact_split_iff (comment_of_skips hskip)

/-- Cutting marks no line as a comment that is none. -/
private theorem isWhole_of_mem_splitAll {cfg : Config} {ls : List Line} (hls : ∀ l ∈ ls, l.Exact) :
    ∀ q ∈ splitAll cfg ls, q.comment = true → Comment.isWhole q.content = true := by
  intro q hq hmarked
  obtain ⟨l, hl, hq⟩ := List.mem_flatMap.mp hq
  split at hq
  · rw [List.mem_singleton.mp hq] at hmarked ⊢
    exact (hls l hl).symm.trans hmarked
  next hskip =>
    have hcomment : l.comment = false := comment_of_skips (by simpa using hskip)
    rcases eq_of_mem_split hq with ⟨s, -, rfl⟩ | ⟨separator, -, rfl⟩
    · rw [Line.withContent, hcomment] at hmarked
      cases hmarked
    · exact hmarked

end Sentence

/-- A run leaves no mark on a line that is no comment. Before sentences are cut all marks are right,
and behind the run they are, too, unless a comment stands directly behind a sentence end. -/
theorem run_exact_iff {cfg : Config} {rows : List Text} {out : List Line}
    (h : cfg.run rows = .ok out) :
    ∃ ls, cfg.marked rows = .ok ls ∧ (∀ l ∈ ls, l.Exact) ∧
      (∀ l ∈ out, l.comment = true → Comment.isWhole l.content = true) ∧
      ((∀ l ∈ out, l.Exact) ↔ (cfg.splitSentences = true → ∀ l ∈ ls, Sentence.skips l = false →
        ∀ s ∈ Sentence.segments cfg l.content, Comment.isWhole s = false)) := by
  obtain ⟨ls, hls, rfl⟩ := exists_marked h
  have hexact := exact_of_marked hls
  refine ⟨ls, hls, hexact, ?_⟩
  simp only [List.forall_mem_map, Line.Exact, comment_trim_collapse]
  cases cfg.splitSentences with
  | true =>
      simp only [if_true, true_implies]
      exact ⟨Sentence.isWhole_of_mem_splitAll hexact, Sentence.exact_splitAll_iff hexact⟩
  | false =>
      simp only [Bool.false_eq_true, if_false, false_implies, iff_true]
      exact ⟨fun l hl hmarked => (hexact l hl).symm.trans hmarked, hexact⟩

/-- Comments on a line of their own and behind a word, and a sentence end inside of a comment. -/
theorem run_exact_iff_trailing :
    let rows := ["% a. b", "c. d % e"].map String.toList
    let out : List Line :=
      [{ content := "% a. b".toList, comment := true }, Line.ofRow "c.".toList,
        Line.ofRow "d % e".toList]
    Config.run {} rows = .ok out ∧ ∀ l ∈ out, l.Exact := by
  intro rows out
  have hrun : Config.run {} rows = .ok out := by decide +kernel
  have hmarked : Config.marked {} rows =
      .ok [{ content := "% a. b".toList, comment := true }, Line.ofRow "c. d % e".toList] := by
    decide +kernel
  obtain ⟨ls, hls, -, -, hiff⟩ := run_exact_iff hrun
  rw [hmarked] at hls
  cases hls
  exact ⟨hrun, hiff.mpr fun _ => by decide +kernel⟩

/-- A comment directly behind a sentence end gets a line of its own and no mark. -/
theorem run_not_exact :
    Config.run {} ["a. % b".toList] = .ok [Line.ofRow "a.".toList, Line.ofRow "% b".toList] ∧
      ¬(Line.ofRow "% b".toList).Exact := by
  decide +kernel

end TexReflow
