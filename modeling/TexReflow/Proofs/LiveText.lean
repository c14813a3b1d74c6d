import TexReflow.Proofs.Comments
import TexReflow.Proofs.Sentences

/-!
# Live text

Sentences are cut without regard to comments. What is live in a content stays live, in order; what
its comment holds becomes live as soon as a sentence ends in the comment and the next one is no
comment itself. This is the only way in which cutting changes the live text.
-/

namespace TexReflow.Sentence

/-- Behind a text with a comment comes nothing live. -/
def Covers (s u : Text) : Prop :=
  Comment.inside s = true → u.isBlank = true ∨ Comment.isWhole u = true

instance (s u : Text) : Decidable (Covers s u) :=
  inferInstanceAs (Decidable (Comment.inside s = true → _))

private theorem live_step {a u : Text} (h : Comment.inside a = false) :
    Comment.live (a ++ ' ' :: u) = Comment.live a ++ Comment.live (' ' :: u) :=
  Comment.live_append_space u h rfl

private theorem flatMap_live_eq_nil_iff (ss : List Text) :
    ss.flatMap Comment.live = [] ↔
      ∀ u ∈ ss, u.isBlank = true ∨ Comment.isWhole u = true := by
  rw [List.flatMap_eq_nil_iff]
  constructor
  · intro h u hu
    exact (Comment.live_eq_nil_iff u).mp (h u hu)
  · intro h u hu
    exact (Comment.live_eq_nil_iff u).mpr (h u hu)

/-- Segments keep the live text of their content, and what they add comes behind it. -/
theorem Cut.live_isPrefix {isEnd : Char → Bool} {ss : List Text} (h : Cut isEnd ss) :
    Comment.live ss.flatten <+: ss.flatMap Comment.live := by
  induction h with
  | last s => simp
  | @step s c u ss hc _ ih =>
      rw [List.flatMap_cons, List.flatten_cons]
      cases hin : Comment.inside (s ++ [c]) with
      | true =>
          rw [Comment.live_append_comment _ hin]
          exact List.prefix_append _ _
      | false =>
          rw [List.flatten_cons, List.cons_append, live_step hin]
          exact (List.prefix_append_right_inj _).mpr ih

/-- Segments have the live text of their content exactly if comments stay covered. -/
theorem Cut.live_eq_iff {isEnd : Char → Bool} {ss : List Text} (h : Cut isEnd ss) :
    ss.flatMap Comment.live = Comment.live ss.flatten ↔ ss.Pairwise Covers := by
  induction h with
  | last s => simp
  | @step s c u ss hc _ ih =>
      rw [List.flatMap_cons, List.flatten_cons, List.pairwise_cons]
      cases hin : Comment.inside (s ++ [c]) with
      | true =>
          -- All that follows has to be dead, and dead segments cover each other.
          rw [Comment.live_append_comment _ hin, List.append_right_eq_self,
            flatMap_live_eq_nil_iff]
          constructor
          · intro hdead
            refine ⟨fun v hv _ => hdead v hv, ?_⟩
            apply List.pairwise_of_forall_mem_list
            intro v _ w hw _
            exact hdead w hw
          · intro hcover v hv
            exact hcover.1 v hv hin
      | false =>
          rw [List.flatten_cons, List.cons_append, live_step hin, List.append_cancel_left_eq]
          constructor
          · intro heq
            refine ⟨fun v _ hv => ?_, ih.mp heq⟩
            rw [hin] at hv
            cases hv
          · intro hcover
            exact ih.mpr hcover.2

private theorem sentences_live (ss : List Text) :
    (sentences ss).flatMap Comment.live = ss.flatMap Comment.live := by
  fun_induction sentences ss with
  | case1 => rfl
  | case2 s h => simp [Comment.live_of_blank h]
  | case3 s h => simp [Comment.live_trim]
  | case4 s ss hss ih => rw [List.flatMap_cons, List.flatMap_cons, ih, Comment.live_trim]

private theorem forall_mem_sentences {P : Text → Prop} (htrim : ∀ s, P s.trim ↔ P s)
    (hblank : ∀ s : Text, s.isBlank = true → P s) (ss : List Text) :
    (∀ u ∈ sentences ss, P u) ↔ ∀ u ∈ ss, P u := by
  fun_induction sentences ss with
  | case1 => rfl
  | case2 s h => simp [hblank s h]
  | case3 s h => simp [htrim]
  | case4 s ss hss ih => rw [List.forall_mem_cons, List.forall_mem_cons, ih, htrim]

private theorem sentences_covers (ss : List Text) :
    (sentences ss).Pairwise Covers ↔ ss.Pairwise Covers := by
  fun_induction sentences ss with
  | case1 => rfl
  | case2 s h => simp
  | case3 s h => simp
  | case4 s ss hss ih =>
      rw [List.pairwise_cons, List.pairwise_cons, ih]
      refine and_congr_left' ?_
      have hleft (u : Text) : Covers s.trim u ↔ Covers s u := by
        rw [Covers, Covers, Comment.inside_trim]
      simp only [hleft]
      apply forall_mem_sentences
      · intro u
        rw [Covers, Covers, Text.isBlank_trim, Comment.isWhole_trim]
      · intro u hu _
        exact .inl hu

/-- Cutting a line into sentences keeps its live text and may add to it what was a comment. It adds
nothing exactly if every sentence behind one with a comment is blank or a comment itself. -/
theorem split_live_eq_iff (cfg : Config) (l : Line) (hsep : cfg.separator? = none) :
    Comment.live l.content <+: (split cfg l).flatMap (fun p => Comment.live p.content) ∧
      ((split cfg l).flatMap (fun p => Comment.live p.content) = Comment.live l.content ↔
        (split cfg l).Pairwise fun p q => Covers p.content q.content) := by
  have hcut := segments_cut cfg l.content
  have hlive : (split cfg l).flatMap (fun p => Comment.live p.content) =
      (segments cfg l.content).flatMap Comment.live := by
    rw [split_eq_map cfg l hsep, List.flatMap_map, ← sentences_live]
    rfl
  have hcovers : ((split cfg l).Pairwise fun p q => Covers p.content q.content) ↔
      (segments cfg l.content).Pairwise Covers := by
    rw [split_eq_map cfg l hsep, List.pairwise_map, ← sentences_covers]
    rfl
  have hkept := hcut.live_isPrefix
  have hiff := hcut.live_eq_iff
  rw [segments_flatten] at hkept hiff
  rw [hlive, hcovers]
  exact ⟨hkept, hiff⟩

/-- A sentence end before the comment does no harm. -/
theorem split_live_before_comment :
    ({} : Config).separator? = none ∧
      (split {} (Line.ofRow "A. B % c".toList)).flatMap (fun p => Comment.live p.content) =
        "A.B".toList := by
  refine ⟨rfl, ?_⟩
  rw [((split_live_eq_iff {} (Line.ofRow "A. B % c".toList) rfl).2).mpr (by decide)]
  rfl

/-- A sentence end in the comment makes the rest of the comment live. -/
theorem split_exposes_comment :
    skips (Line.ofRow "a % b. c".toList) = false ∧ ({} : Config).separator? = none ∧
      (split {} (Line.ofRow "a % b. c".toList)).flatMap (fun p => Comment.live p.content) ≠
        Comment.live "a % b. c".toList := by
  decide

end TexReflow.Sentence
