import Mathlib.Algebra.Group.Nat.Even
import TexReflow.Proofs.Comments
import TexReflow.Proofs.Passes

/-!
# Groups of joined lines

Merging takes consecutive lines together, and each group of them becomes one line. A line that is
continued has no comment, so the group has the live text and the comment of its lines. A percent
sign counts as escaped as soon as a backslash stands directly before it. Where that backslash is
itself escaped, a reader of the document sees a comment, and the lines are joined all the same.
-/

namespace TexReflow

namespace Comment

/-- For each percent sign the number of backslashes directly before it. `run` of them stand before
the text. -/
def escapesFrom : (run : Nat) → Text → List Nat
  | _, [] => []
  | run, c :: t =>
    if c = '%' then run :: escapesFrom 0 t
    else escapesFrom (if c = '\\' then run + 1 else 0) t

/-- For each percent sign of a text the number of backslashes directly before it. -/
def escapes (t : Text) : List Nat := escapesFrom 0 t

/-- A percent sign stands behind an even number of backslashes: they escape each other. -/
def Unescaped (t : Text) : Prop := ∃ n ∈ escapes t, Even n

instance (t : Text) : Decidable (Unescaped t) := inferInstanceAs (Decidable (∃ n ∈ escapes t, _))

private theorem splitFrom_eq_nil_iff (run : Nat) (t : Text) :
    (splitFrom (run != 0) t).2 = [] ↔ ∀ n ∈ escapesFrom run t, n ≠ 0 := by
  fun_induction escapesFrom run t with
  | case1 run => simp [splitFrom]
  | case2 run t ih =>
      by_cases hrun : run = 0
      · simp [splitFrom, hrun]
      · simpa [splitFrom, hrun] using ih
  | case3 run c t hc ih =>
      have hflag : ((if c = '\\' then run + 1 else 0) != 0) = decide (c = '\\') := by
        split <;> simp_all
      rw [hflag] at ih
      simpa [splitFrom, hc] using ih

/-- A text has no comment if a backslash stands directly before each percent sign. -/
theorem inside_eq_false_iff_escapes (t : Text) :
    inside t = false ↔ ∀ n ∈ escapes t, n ≠ 0 :=
  (inside_eq_false_iff t).trans (splitFrom_eq_nil_iff 0 t)

end Comment

namespace Paragraph

/-- Lines that are joined to one line: the first of them, and those that follow it. -/
structure Group where
  first : Line
  rest : List Line
deriving Repr, DecidableEq

namespace Group

def lines (g : Group) : List Line := g.first :: g.rest

/-- The line that the lines of the group become. -/
def line (g : Group) : Line := g.rest.foldl join g.first

def add (g : Group) (l : Line) : Group := ⟨g.first, g.rest ++ [l]⟩

theorem lines_add (g : Group) (l : Line) : (g.add l).lines = g.lines ++ [l] := rfl

theorem line_add (g : Group) (l : Line) : (g.add l).line = join g.line l := by
  rw [line, add, List.foldl_append]
  rfl

/-- Each line of the group could be joined to what the lines before it had become. -/
inductive Soft (cfg : Config) : Group → Prop
  | single (l : Line) : Soft cfg ⟨l, []⟩
  | add {g : Group} {l : Line} (h : Soft cfg g) (hjoin : canJoin cfg g.line l = true) :
      Soft cfg (g.add l)

end Group

/-- The groups of lines that are joined, from the group read so far on. -/
def groupsFrom (cfg : Config) : Group → List Line → List Group
  | g, [] => [g]
  | g, l :: ls =>
    if canJoin cfg g.line l then groupsFrom cfg (g.add l) ls else g :: groupsFrom cfg ⟨l, []⟩ ls

/-- The groups of lines that merging joins. -/
def groups (cfg : Config) : List Line → List Group
  | [] => []
  | l :: ls => groupsFrom cfg ⟨l, []⟩ ls

private theorem groupsFrom_line (cfg : Config) (g : Group) (ls : List Line) :
    (groupsFrom cfg g ls).map Group.line = mergeFrom cfg g.line ls := by
  fun_induction groupsFrom cfg g ls with
  | case1 g => rfl
  | case2 g l ls h ih => rw [mergeFrom, if_pos h, ih, Group.line_add]
  | case3 g l ls h ih =>
      rw [mergeFrom, if_neg h, List.map_cons, ih]
      rfl

/-- Merging turns each group into its line. -/
theorem merge_eq_map (cfg : Config) (ls : List Line) :
    merge cfg ls = (groups cfg ls).map Group.line := by
  cases ls with
  | nil => rfl
  | cons l ls => exact (groupsFrom_line cfg ⟨l, []⟩ ls).symm

private theorem groupsFrom_lines (cfg : Config) (g : Group) (ls : List Line) :
    (groupsFrom cfg g ls).flatMap Group.lines = g.lines ++ ls := by
  fun_induction groupsFrom cfg g ls with
  | case1 g => simp
  | case2 g l ls h ih => rw [ih, Group.lines_add, List.append_assoc, List.singleton_append]
  | case3 g l ls h ih =>
      rw [List.flatMap_cons, ih]
      rfl

/-- The groups hold all lines, in order. -/
theorem groups_lines (cfg : Config) (ls : List Line) :
    (groups cfg ls).flatMap Group.lines = ls := by
  cases ls with
  | nil => rfl
  | cons l ls => exact groupsFrom_lines cfg ⟨l, []⟩ ls

private theorem soft_of_mem_groupsFrom {cfg : Config} {g : Group} (hg : g.Soft cfg)
    (ls : List Line) : ∀ k ∈ groupsFrom cfg g ls, k.Soft cfg := by
  fun_induction groupsFrom cfg g ls with
  | case1 g => exact List.forall_mem_singleton.mpr hg
  | case2 g l ls h ih => exact ih (hg.add h)
  | case3 g l ls h ih => exact List.forall_mem_cons.mpr ⟨hg, ih (.single l)⟩

theorem soft_of_mem_groups {cfg : Config} {ls : List Line} {g : Group} (h : g ∈ groups cfg ls) :
    g.Soft cfg := by
  cases ls with
  | nil => cases h
  | cons l ls => exact soft_of_mem_groupsFrom (.single l) ls g h

/-- Joining keeps the live text and the comment of both lines, and it hides no comment. -/
theorem join_division {first : Line} (second : Line)
    (hfirst : Comment.inside first.content = false) :
    Comment.live (join first second).content =
        Comment.live first.content ++ Comment.live second.content ∧
      Comment.dead (join first second).content =
        Comment.dead first.content ++ Comment.dead second.content ∧
      Comment.inside (join first second).content = Comment.inside second.content := by
  change Comment.live (first.content ++ ' ' :: second.content).trim = _ ∧
    Comment.dead (first.content ++ ' ' :: second.content).trim = _ ∧
    Comment.inside (first.content ++ ' ' :: second.content).trim = _
  obtain ⟨hlive, hdead⟩ := Comment.live_dead_append_space second.content hfirst (c := ' ') rfl
  rw [Comment.live_trim, Comment.dead_trim, Comment.inside_trim]
  exact ⟨hlive, hdead, Comment.inside_append_space second.content hfirst rfl⟩

namespace Group.Soft

variable {cfg : Config} {g : Group}

/-- The line of a group has a comment only if one of its lines has. -/
private theorem inside_lines (h : g.Soft cfg) (hline : Comment.inside g.line.content = false) :
    ∀ l ∈ g.lines, Comment.inside l.content = false := by
  induction h with
  | single l => exact List.forall_mem_singleton.mpr hline
  | @add g l _ hjoin ih =>
      obtain ⟨-, -, -, -, hinside, -⟩ := canJoin_iff.mp hjoin
      rw [line_add, (join_division l hinside).2.2] at hline
      rw [lines_add, List.forall_mem_append, List.forall_mem_singleton]
      exact ⟨ih hinside, hline⟩

/-- A line that is continued has no comment. -/
theorem inside_dropLast (h : g.Soft cfg) :
    ∀ l ∈ g.lines.dropLast, Comment.inside l.content = false := by
  cases h with
  | single l => exact List.forall_mem_nil _
  | @add g l hg hjoin =>
      obtain ⟨-, -, -, -, hinside, -⟩ := canJoin_iff.mp hjoin
      rw [lines_add, List.dropLast_concat]
      exact hg.inside_lines hinside

/-- The line of a group has the live text and the comments of its lines. -/
theorem division (h : g.Soft cfg) :
    Comment.live g.line.content = g.lines.flatMap (fun l => Comment.live l.content) ∧
      Comment.dead g.line.content = g.lines.flatMap fun l => Comment.dead l.content := by
  induction h with
  | single l => simp [line, lines]
  | @add g l _ hjoin ih =>
      obtain ⟨-, -, -, -, hinside, -⟩ := canJoin_iff.mp hjoin
      obtain ⟨hlive, hdead, -⟩ := join_division l hinside
      rw [line_add, hlive, hdead, ih.1, ih.2, lines_add, List.flatMap_append, List.flatMap_append]
      simp

end Group.Soft

/-- In a line that is continued a backslash stands directly before each percent sign, and the joined
line has the live text and the comments of its lines. So the only percent signs behind an even
number of backslashes that are continued are those behind two or more. -/
theorem merge_continues (cfg : Config) (ls : List Line) :
    merge cfg ls = (groups cfg ls).map Group.line ∧
      (groups cfg ls).flatMap Group.lines = ls ∧
      ∀ g ∈ groups cfg ls,
        (∀ l ∈ g.lines.dropLast, (∀ n ∈ Comment.escapes l.content, n ≠ 0) ∧
          (Comment.Unescaped l.content ↔
            ∃ n ∈ Comment.escapes l.content, n ≠ 0 ∧ Even n)) ∧
        Comment.live g.line.content = g.lines.flatMap (fun l => Comment.live l.content) ∧
        Comment.dead g.line.content = g.lines.flatMap fun l => Comment.dead l.content := by
  refine ⟨merge_eq_map cfg ls, groups_lines cfg ls, ?_⟩
  intro g hg
  have hsoft := soft_of_mem_groups hg
  refine ⟨?_, hsoft.division⟩
  intro l hl
  have hescapes := (Comment.inside_eq_false_iff_escapes l.content).mp (hsoft.inside_dropLast l hl)
  refine ⟨hescapes, ?_⟩
  constructor
  · intro h
    obtain ⟨n, hn, heven⟩ := h
    exact ⟨n, hn, hescapes n hn, heven⟩
  · intro h
    obtain ⟨n, hn, -, heven⟩ := h
    exact ⟨n, hn, heven⟩

/-- An escaped percent sign is continued, and a comment is not. -/
theorem merge_continues_escaped :
    let ls := ["a\\% b", "c % d", "e"].map fun s => Line.ofRow s.toList
    let g : Group := ⟨.ofRow "a\\% b".toList, [.ofRow "c % d".toList]⟩
    g ∈ groups {} ls ∧ g.first ∈ g.lines.dropLast ∧
      merge {} ls = ["a\\% b c % d", "e"].map (fun s => Line.ofRow s.toList) ∧
      ¬Comment.Unescaped g.first.content ∧
      Comment.dead g.line.content = g.lines.flatMap fun l => Comment.dead l.content := by
  intro ls g
  have hg : g ∈ groups {} ls := by decide
  have hfirst : g.first ∈ g.lines.dropLast := by decide
  obtain ⟨hmerge, -, hgroups⟩ := merge_continues {} ls
  obtain ⟨hlines, -, hdead⟩ := hgroups g hg
  refine ⟨hg, hfirst, ?_, ?_, hdead⟩
  · rw [hmerge]
    decide
  · rw [(hlines g.first hfirst).2]
    decide

/-- Of two backslashes the second is escaped and not the percent sign behind it, but what follows is
joined to the comment. -/
theorem merge_continues_comment :
    let ls := ["a\\\\% b", "c"].map fun s => Line.ofRow s.toList
    merge {} ls = [Line.ofRow "a\\\\% b c".toList] ∧
      ∃ g ∈ groups {} ls, ∃ l ∈ g.lines.dropLast, Comment.Unescaped l.content := by
  decide

end Paragraph

end TexReflow
