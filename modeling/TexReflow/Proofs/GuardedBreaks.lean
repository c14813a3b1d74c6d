import TexReflow.Proofs.ArgumentRuns
import TexReflow.Proofs.Rest

/-!
# Breaks of guarded rules

A rule that looks for longer names puts no break before a percent sign: the name must not go on
there, and arguments end in a closing bracket, behind which a percent sign would start a comment. So
the breaks take no percent sign away from its backslash, and the pieces of a content have its live
text and its comment.
-/

namespace TexReflow.Macro

/-- The text is empty or ends in a closing bracket. -/
def Closed (t : Text) : Prop := ∀ c ∈ t.getLast?, c = '}' ∨ c = ']'

private theorem closeLength?_take {opener closer : Char} {depth n : Nat} {t : Text}
    (h : closeLength? opener closer depth t = some n) : ∃ a, t.take n = a ++ [closer] := by
  induction t generalizing depth n with
  | nil => cases h
  | cons d t ih =>
      have hnext {left : Nat}
          (hmap : (closeLength? opener closer left t).map (· + 1) = some n) :
          ∃ a, (d :: t).take n = a ++ [closer] := by
        obtain ⟨k, hk, rfl⟩ := Option.map_eq_some_iff.mp hmap
        obtain ⟨a, ha⟩ := ih hk
        exact ⟨d :: a, by rw [List.take_succ_cons, ha, List.cons_append]⟩
      rw [closeLength?] at h
      split at h
      · exact hnext h
      · split at h
        next hd =>
          split at h
          · cases h
            exact ⟨[], by simp [hd]⟩
          · exact hnext h
        · exact hnext h

/-- A group ends in a closing bracket. -/
private theorem group_closed {t : Text} {n : Nat} (h : groupLength? t = some n) :
    Closed (t.take n) := by
  cases t with
  | nil => cases h
  | cons opener t =>
      simp only [groupLength?] at h
      split at h
      · cases h
      next closer hcloser =>
        obtain ⟨a, ha⟩ := closeLength?_take h
        have hkind : ∀ kind ∈ brackets, kind.2 = '}' ∨ kind.2 = ']' := by decide
        intro c hc
        rw [ha, List.getLast?_concat] at hc
        cases hc
        exact hkind _ (closer?_eq_some_iff.mp hcloser)

private theorem Closed.append {a b : Text} (ha : Closed a) (hb : Closed b) : Closed (a ++ b) := by
  intro c hc
  rw [List.getLast?_append] at hc
  cases hlast : b.getLast? with
  | none =>
      rw [hlast] at hc
      exact ha c hc
  | some d =>
      rw [hlast] at hc
      cases hc
      exact hb c hlast

theorem arguments_closed (t : Text) : Closed (t.take (argumentsLength t)) := by
  induction t using group_induction with
  | hnone t h =>
      rw [argumentsLength_of_none h, List.take_zero]
      exact nofun
  | hsome t n h ih =>
      rw [argumentsLength_of_some h, List.take_add]
      exact (group_closed h).append ih

namespace Rule

theorem closed_of_mem_invocations {r : Rule} {t : Text} {m : Invocation}
    (h : m ∈ r.invocations t) : Closed m.args := by
  obtain ⟨free, before, c, behind, -, hfound⟩ := exists_of_mem_invocationsFrom h rfl
  rw [invocation?_args hfound]
  exact arguments_closed _

end Rule

/-- A break that is not put before a percent sign makes no comment. -/
private theorem inside_insert {a b : Text} (h : Comment.inside (a ++ b) = false)
    (hb : b.head? ≠ some '%') (given : Bool) :
    Comment.inside (a ++ ((if given then ['\n'] else []) ++ b)) = false := by
  cases given with
  | false => exact h
  | true =>
      obtain ⟨ha, hrest⟩ := Comment.inside_of_append h hb
      exact (Comment.inside_append_space b ha rfl).trans hrest

private theorem render_inside {before rest : Text} {m : Invocation}
    (h : Comment.inside (before ++ (m.text ++ rest)) = false) (hrest : rest.head? ≠ some '%')
    (side : Side) : Comment.inside (before ++ (m.render side ['\n'] ++ rest)) = false := by
  rw [← List.append_assoc] at h
  have hfollows := inside_insert h hrest side.follows
  have hsplit : before ++ m.text ++ ((if side.follows then ['\n'] else []) ++ rest) =
      before ++ m.lead ++
        '\\' :: (m.name ++ m.args ++ ((if side.follows then ['\n'] else []) ++ rest)) := by
    simp [Invocation.text]
  rw [hsplit] at hfollows
  have hleads := inside_insert hfollows (by simp) side.leads
  simpa [Invocation.render] using hleads

/-- Behind an invocation whose name does not go on comes no percent sign. -/
private theorem head_ne_percent {r : Rule} (hguard : r.hasGuard = true) {before rest : Text}
    {m : Invocation} (hclosed : Closed m.args) (hcontinues : r.continues (m.args ++ rest) = false)
    (h : Comment.inside (before ++ (m.text ++ rest)) = false) : rest.head? ≠ some '%' := by
  intro hhead
  obtain ⟨u, rfl⟩ := List.head?_eq_some_iff.mp hhead
  by_cases hargs : m.args = []
  · rw [hargs, List.nil_append, Rule.continues, hguard] at hcontinues
    cases hcontinues
  · -- The percent sign stands behind a closing bracket, and not behind a backslash.
    rw [← List.append_assoc] at h
    have hslash := Comment.getLast_of_inside_eq_false h
    rw [Invocation.text, ← List.append_assoc, ← List.cons_append, ← List.append_assoc,
      List.getLast?_append_of_ne_nil _ hargs] at hslash
    exact absurd (hclosed _ hslash) (by decide)

/-- The text put together so far stands before; the invocations are found in the whole text. -/
private theorem splice_inside {r : Rule} (hguard : r.hasGuard = true) {whole : Text} {i : Nat}
    {t : Text} {ms : List Invocation} (h : Invocation.LaidOut i t ms) (ht : whole.drop i = t)
    (hms : ∀ m ∈ ms, Closed m.args ∧ r.continues (whole.drop m.nameEnd) = false) {before : Text}
    (hbefore : Comment.inside (before ++ t) = false) :
    Comment.inside (before ++ Rule.splice (Invocation.render r.side ['\n']) i t ms) = false := by
  induction h generalizing before with
  | nil i t => exact hbefore
  | @cons i gap m rest ms hstart _ ih =>
      obtain ⟨⟨hclosed, hcontinues⟩, hms⟩ := List.forall_mem_cons.mp hms
      have hname : whole.drop m.nameEnd = m.args ++ rest := by
        have hsplit : gap ++ (m.text ++ rest) =
            gap ++ (m.lead ++ '\\' :: m.name) ++ (m.args ++ rest) := by
          simp [Invocation.text]
        have hlen : m.nameEnd = i + (gap ++ (m.lead ++ '\\' :: m.name)).length := by
          rw [Invocation.nameEnd, Invocation.backslash, hstart]
          simp only [List.length_append, List.length_cons]
          omega
        rw [hlen, ← List.drop_drop, ht, hsplit, List.drop_left]
      have hstop : whole.drop m.stop = rest := by
        rw [Invocation.stop, ← List.drop_drop, hname, List.drop_left]
      rw [hname] at hcontinues
      rw [← List.append_assoc] at hbefore
      have hrest := head_ne_percent hguard hclosed hcontinues hbefore
      have hrender := render_inside hbefore hrest r.side
      rw [← List.append_assoc] at hrender
      rw [Rule.splice_cons _ gap rest ms hstart, ← List.append_assoc, ← List.append_assoc]
      exact ih hstop hms hrender

/-- A guarded rule makes no comment. -/
theorem Rule.apply_inside {r : Rule} (hguard : r.hasGuard = true) {t : Text}
    (h : Comment.inside t = false) : Comment.inside (r.apply ['\n'] t) = false := by
  have hbefore : Comment.inside ([] ++ t) = false := h
  refine splice_inside hguard ((r.invocations_laidOut t).filter _) (List.drop_zero ..) ?_ hbefore
  intro m hm
  obtain ⟨hm, hends⟩ := List.mem_filter.mp hm
  exact ⟨closed_of_mem_invocations hm, by simpa using hends⟩

/-- Guarded rules leave the comment of a content where it is. -/
theorem split_insertBreaks {rules : List Rule} (hguard : ∀ r ∈ rules, r.hasGuard = true)
    (content : Text) :
    Comment.split (insertBreaks rules ['\n'] content) =
      (rules.foldl (fun t r => r.apply ['\n'] t) (Comment.split content).1,
        (Comment.split content).2) := by
  have hsplit :
      Comment.split content = ((Comment.split content).1, (Comment.split content).2) := rfl
  obtain ⟨-, htext, hcomment⟩ := Comment.split_eq_iff.mp hsplit
  rw [Comment.split_eq_iff]
  refine ⟨rfl, ?_, ?_⟩
  · clear hcomment
    generalize (Comment.split content).1 = t at htext ⊢
    induction rules generalizing t with
    | nil => exact htext
    | cons r rules ih =>
        obtain ⟨hr, hrules⟩ := List.forall_mem_cons.mp hguard
        exact ih hrules _ (Rule.apply_inside hr htext)
  · refine hcomment.imp_right (And.imp_right ?_)
    intro hlast
    have hpadded : Text.Padded (· = '\n') (Comment.split content).1
        (rules.foldl (fun t r => r.apply ['\n'] t) (Comment.split content).1) :=
      foldl_padded rules (by simp) _
    rcases hpadded.getLast with hsame | ⟨c, hc, rfl⟩
    · rwa [hsame]
    · simp [hc]

end TexReflow.Macro
