import Mathlib.Data.List.Chain
import TexReflow.Proofs.Grouping

/-!
# Greedy groups

Whether a line can be joined depends on all that the lines before it have become: a mark or a
comment may show up only while they grow together. Still there is just one division of the lines in
which each group takes all it can, and merging turns each group of it into a line.
-/

namespace TexReflow.Paragraph

/-- Lines divided into groups that take all they can: the groups hold the lines in order, each line
of a group can be joined to what the lines before it have become, and the first line of the next
group cannot be joined to what the group has become. -/
structure Greedy (cfg : Config) (ls : List Line) (gs : List Group) : Prop where
  lines : gs.flatMap Group.lines = ls
  soft : ∀ g ∈ gs, g.Soft cfg
  apart : gs.IsChain fun g next => canJoin cfg g.line next.first = false

variable {cfg : Config}

namespace Group

/-- The line of a group has the flags of the first line. -/
theorem line_eq_withContent (g : Group) :
    g.line = g.first.withContent
      (g.rest.foldl (fun t l => (t ++ ' ' :: l.content).trim) g.first.content) := by
  obtain ⟨first, rest⟩ := g
  induction rest generalizing first with
  | nil => rfl
  | cons l rest ih => exact ih (join first l)

/-- A blank or verbatim line is joined to no other. -/
theorem Soft.eq_single {g : Group} (h : g.Soft cfg) {l : Line} (hl : l ∈ g.lines)
    (hkept : l.isBlank = true ∨ l.verbatim = true) : g = ⟨l, []⟩ := by
  induction h with
  | single k =>
      rw [List.mem_singleton.mp hl]
  | @add g k _ hjoin ih =>
      obtain ⟨⟨hline, hk⟩, ⟨hverbatim, hkverbatim⟩, -⟩ := canJoin_iff.mp hjoin
      rw [lines_add, List.mem_append, List.mem_singleton] at hl
      rcases hl with hl | rfl
      · rw [ih hl] at hline hverbatim
        exact absurd hkept (by simpa [line] using ⟨hline, hverbatim⟩)
      · exact absurd hkept (by simp [hk, hkverbatim])

end Group

/-- The lines of a group are read into that group. -/
private theorem groupsFrom_rest {g : Group} (h : g.Soft cfg) (ls : List Line) :
    groupsFrom cfg ⟨g.first, []⟩ (g.rest ++ ls) = groupsFrom cfg g ls := by
  induction h generalizing ls with
  | single l => rfl
  | @add g l _ hjoin ih =>
      change groupsFrom cfg ⟨g.first, []⟩ (g.rest ++ [l] ++ ls) = _
      rw [List.append_assoc, ih, List.singleton_append, groupsFrom, if_pos hjoin]

/-- Each group found ends before a line that cannot be joined to it, and the first group goes on
with the one read so far. -/
private theorem groupsFrom_apart (g : Group) (ls : List Line) :
    (∀ k ∈ (groupsFrom cfg g ls).head?, k.first = g.first) ∧
      (groupsFrom cfg g ls).IsChain fun g next => canJoin cfg g.line next.first = false := by
  fun_induction groupsFrom cfg g ls with
  | case1 g => simp
  | case2 g l ls h ih => exact ih
  | case3 g l ls h ih =>
      refine ⟨by simp, List.isChain_cons.mpr ⟨?_, ih.2⟩⟩
      intro next hnext
      rw [ih.1 next hnext]
      exact Bool.not_eq_true _ ▸ h

theorem groups_greedy (cfg : Config) (ls : List Line) : Greedy cfg ls (groups cfg ls) where
  lines := groups_lines cfg ls
  soft _ := soft_of_mem_groups
  apart := by
    cases ls with
    | nil => exact .nil
    | cons l ls => exact (groupsFrom_apart ⟨l, []⟩ ls).2

/-- The groups of a greedy division are those that are found from left to right. -/
theorem Greedy.eq_groups {ls : List Line} {gs : List Group} (h : Greedy cfg ls gs) :
    gs = groups cfg ls := by
  induction gs generalizing ls with
  | nil =>
      rw [← h.lines]
      rfl
  | cons g gs ih =>
      obtain ⟨hg, hsoft⟩ := List.forall_mem_cons.mp h.soft
      obtain ⟨hnext, hapart⟩ := List.isChain_cons.mp h.apart
      have hrest : gs = groups cfg (gs.flatMap Group.lines) := ih ⟨rfl, hsoft, hapart⟩
      have hread : groups cfg ls = groupsFrom cfg g (gs.flatMap Group.lines) := by
        rw [← h.lines]
        exact groupsFrom_rest hg _
      rw [hread]
      cases gs with
      | nil => rfl
      | cons k ks =>
          -- The next group starts with a line that `g` cannot take, so reading ends `g` here too.
          have hk := hnext k rfl
          change g :: k :: ks = groupsFrom cfg g (k.first :: (k.rest ++ ks.flatMap Group.lines))
          rw [groupsFrom, hk, if_neg Bool.false_ne_true, hrest]
          rfl

/-- There is exactly one greedy division of the lines, and merging turns each of its groups into a
line: the contents put together with one space and trimmed again and again, with the flags of the
first line. A blank or verbatim line is a group of its own. -/
theorem merge_greedy (cfg : Config) (ls : List Line) :
    (∃! gs, Greedy cfg ls gs) ∧
      ∀ gs, Greedy cfg ls gs →
        merge cfg ls = gs.map Group.line ∧
        ∀ g ∈ gs,
          g.line = g.first.withContent
            (g.rest.foldl (fun t l => (t ++ ' ' :: l.content).trim) g.first.content) ∧
          (g.rest = [] → g.line = g.first) ∧
          ∀ l ∈ g.lines, l.isBlank = true ∨ l.verbatim = true → g = ⟨l, []⟩ := by
  refine ⟨⟨groups cfg ls, groups_greedy cfg ls, fun gs => Greedy.eq_groups⟩, ?_⟩
  intro gs hgs
  refine ⟨by rw [hgs.eq_groups, merge_eq_map], ?_⟩
  intro g hg
  refine ⟨g.line_eq_withContent, ?_, ?_⟩
  · intro hrest
    rw [Group.line, hrest]
    rfl
  · intro l hl
    exact (hgs.soft g hg).eq_single hl

/-- After `x` a line break is kept. The mark is not in the first line but in what it becomes, so the
third line is not joined, and neither are a blank and a verbatim line. -/
theorem merge_greedy_grown :
    let cfg : Config := { keepAfter := some ⟨['x'], .one ⟨[.single 'x'], false, false⟩⟩ }
    let first := Line.ofRow ['a']
    let code : Line := { content := ['d'], verbatim := true }
    let ls := [first, .ofRow ['x'], .ofRow ['b'], .ofRow [' '], code]
    let gs : List Group :=
      [⟨first, [.ofRow ['x']]⟩, ⟨.ofRow ['b'], []⟩, ⟨.ofRow [' '], []⟩, ⟨code, []⟩]
    Greedy cfg ls gs ∧ (∃! gs, Greedy cfg ls gs) ∧
      merge cfg ls = [.ofRow "a x".toList, .ofRow ['b'], .ofRow [' '], code] ∧
      (∀ g ∈ gs, code ∈ g.lines → g = ⟨code, []⟩) ∧
      canJoin cfg first (.ofRow ['b']) = true := by
  intro cfg first code ls gs
  have hgroups : groups cfg ls = gs := by decide +kernel
  have hgs : Greedy cfg ls gs := hgroups ▸ groups_greedy cfg ls
  obtain ⟨hunique, hdivision⟩ := merge_greedy cfg ls
  obtain ⟨hmerge, hsingle⟩ := hdivision gs hgs
  refine ⟨hgs, hunique, ?_, ?_, by decide +kernel⟩
  · rw [hmerge]
    decide +kernel
  · intro g hg hcode
    exact (hsingle g hg).2.2 code hcode (.inr rfl)

end TexReflow.Paragraph
