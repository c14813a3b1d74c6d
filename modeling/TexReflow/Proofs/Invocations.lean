import TexReflow.Proofs.Breaks

/-!
# Invocations in a text

A rule reads a text from left to right. The invocations it finds stand in the text in order and
without overlap, and it passes over a macro of its own only if that touches an invocation found
before.
-/

namespace TexReflow

theorem Pattern.span?_le {p : Pattern} {before after : Text} {n : Nat}
    (h : p.span? before after = some n) : n ≤ after.length := by
  obtain ⟨q, -, rfl⟩ := Option.map_eq_some_iff.mp h
  exact Nat.sub_le ..

namespace Macro

namespace Invocation

theorem LaidOut.exists_append {i : Nat} {t : Text} {ms : List Invocation} (h : LaidOut i t ms)
    {m : Invocation} (hm : m ∈ ms) :
    ∃ gap rest, t = gap ++ (m.text ++ rest) ∧ m.start = i + gap.length := by
  induction h with
  | nil i t => cases hm
  | @cons i gap first rest ms hstart _ ih =>
      rcases List.mem_cons.mp hm with rfl | hm
      · exact ⟨gap, rest, rfl, hstart⟩
      · obtain ⟨gap', rest', rfl, hstart'⟩ := ih hm
        refine ⟨gap ++ first.text ++ gap', rest', by simp only [List.append_assoc], ?_⟩
        rw [hstart', stop_eq, hstart, List.length_append, List.length_append]
        omega

theorem LaidOut.pairwise {i : Nat} {t : Text} {ms : List Invocation} (h : LaidOut i t ms) :
    ms.Pairwise fun m next => m.stop ≤ next.start := by
  induction h with
  | nil i t => exact .nil
  | @cons i gap m rest ms hstart hrest ih =>
      refine .cons ?_ ih
      intro next hnext
      obtain ⟨gap', -, -, hstart'⟩ := hrest.exists_append hnext
      rw [hstart']
      exact Nat.le_add_right ..

theorem backslash_lt_stop (m : Invocation) : m.backslash < m.stop := by
  rw [stop, nameEnd]
  omega

end Invocation

namespace Rule

/-- The length of the rule's name at an offset. The pattern sees all of the text. -/
def nameLength? (r : Rule) (t : Text) (i : Nat) : Option Nat :=
  r.name.span? (t.take i).reverse (t.drop i)

theorem nameLength?_append (r : Rule) (before : Text) (c : Char) (behind : Text) :
    r.nameLength? (before.reverse ++ c :: behind) (before.length + 1) =
      r.name.span? (c :: before) behind := by
  have hlen : (before.reverse ++ [c]).length = before.length + 1 := by simp
  rw [nameLength?, List.append_cons, ← hlen, List.take_left, List.drop_left, List.reverse_append,
    List.reverse_reverse]
  rfl

/-- A macro of the rule stands at an offset: a backslash, none before it and the name behind it. -/
structure Opens (r : Rule) (t : Text) (p : Nat) : Prop where
  backslash : t[p]? = some '\\'
  unescaped : p = 0 ∨ t[p - 1]? ≠ some '\\'
  named : (r.nameLength? t (p + 1)).isSome

theorem opens_append_iff (r : Rule) (before : Text) (c : Char) (behind : Text) :
    r.Opens (before.reverse ++ c :: behind) before.length ↔
      c = '\\' ∧ before.head? ≠ some '\\' ∧ (r.name.span? (c :: before) behind).isSome := by
  have hat : (before.reverse ++ c :: behind)[before.length]? = some c := by
    rw [List.getElem?_append_right (by simp)]
    simp
  have hbefore : (before.length = 0 ∨
      (before.reverse ++ c :: behind)[before.length - 1]? ≠ some '\\') ↔
      before.head? ≠ some '\\' := by
    cases before <;> simp
  rw [← hbefore, ← nameLength?_append, ← Option.some_inj, ← hat]
  exact ⟨fun h => ⟨h.backslash, h.unescaped, h.named⟩, fun ⟨hslash, hfree, hname⟩ =>
    ⟨hslash, hfree, hname⟩⟩

theorem lead?_eq_some {free : Bool} {before lead : Text} (h : lead? free before = some lead) :
    before.head? ≠ some '\\' ∧ (lead = [] ∧ before = [] ∨ ∃ c, c ≠ '\\' ∧ lead = [c]) := by
  cases before with
  | nil => exact ⟨nofun, .inl ⟨(Option.some.inj h).symm, rfl⟩⟩
  | cons c before =>
      rw [lead?] at h
      split at h
      next hc =>
        have hne : c ≠ '\\' := by simpa using (Bool.and_eq_true_iff.mp hc).2
        exact ⟨by simpa using hne, .inr ⟨c, hne, (Option.some.inj h).symm⟩⟩
      · cases h

theorem invocation?_name {r : Rule} {free : Bool} {i : Nat} {before behind : Text} {c : Char}
    {m : Invocation} (h : r.invocation? free i before c behind = some m) :
    r.name.span? (c :: before) behind = some m.name.length := by
  rw [invocation?] at h
  split at h
  · cases h
  · simp only [Option.bind_eq_bind, Option.bind_eq_some_iff, Option.pure_def,
      Option.some.injEq] at h
    obtain ⟨lead, -, n, hn, rfl⟩ := h
    rw [hn, List.length_take, Nat.min_eq_left (Pattern.span?_le hn)]

/-- With a free character before it, every macro of the rule is an invocation. -/
theorem exists_invocation?_eq_some {r : Rule} {before behind : Text} {c : Char}
    (h : r.Opens (before.reverse ++ c :: behind) before.length) (i : Nat) :
    ∃ m, r.invocation? true i before c behind = some m := by
  obtain ⟨rfl, hbefore, hname⟩ := (opens_append_iff ..).mp h
  obtain ⟨n, hn⟩ := Option.isSome_iff_exists.mp hname
  have hlead : ∃ lead, lead? true before = some lead := by
    cases before with
    | nil => exact ⟨[], rfl⟩
    | cons d before => exact ⟨[d], by simpa [lead?] using hbefore⟩
  obtain ⟨lead, hlead⟩ := hlead
  rw [← Option.isSome_iff_exists]
  simp [invocation?, hlead, hn]

theorem invocation?_stop {r : Rule} {free : Bool} {before behind : Text} {c : Char}
    {m : Invocation} (h : r.invocation? free before.length before c behind = some m) :
    m.stop = before.length + 1 + (m.name.length + m.args.length) := by
  rw [Invocation.stop, Invocation.nameEnd, invocation?_backslash h]
  omega

/-- A macro of the rule that lies ahead is an invocation, or one that starts before touches it. With
a claimed character before the rest this holds behind the part still to be passed over only. -/
private theorem invocationsFrom_reaches (r : Rule) (before after : Text) {p : Nat}
    (hopens : r.Opens (before.reverse ++ after) p) :
    (∀ skip, before.length + skip < p →
      ∃ m ∈ r.invocationsFrom skip false before.length before after,
        m.backslash ≤ p ∧ p ≤ m.stop) ∧
    (before.length ≤ p →
      ∃ m ∈ r.invocationsFrom 0 true before.length before after,
        m.backslash ≤ p ∧ p ≤ m.stop) := by
  induction after generalizing before with
  | nil =>
      have hlt : p < before.length := by
        obtain ⟨hp, -⟩ := List.getElem?_eq_some_iff.mp hopens.backslash
        simpa using hp
      exact ⟨fun skip hskip => by omega, fun hp => by omega⟩
  | cons c t ih =>
      obtain ⟨hclaimed, hfree⟩ := ih (c :: before) (by simpa using hopens)
      rw [List.length_cons] at hclaimed hfree
      -- An invocation found here reaches all offsets up to its stop; behind it the search goes on.
      have hfound {free : Bool} {m : Invocation}
          (hm : r.invocation? free before.length before c t = some m) (hp : before.length ≤ p) :
          ∃ m' ∈ m :: r.invocationsFrom (m.name.length + m.args.length) false (before.length + 1)
            (c :: before) t, m'.backslash ≤ p ∧ p ≤ m'.stop := by
        by_cases hstop : p ≤ m.stop
        · exact ⟨m, List.mem_cons_self, (invocation?_backslash hm).trans_le hp, hstop⟩
        · obtain ⟨m', hm', hreach⟩ := hclaimed (m.name.length + m.args.length)
            (by rw [← invocation?_stop hm]; omega)
          exact ⟨m', List.mem_cons_of_mem m hm', hreach⟩
      constructor
      · intro skip hskip
        cases skip with
        | succ skip => exact hclaimed skip (by omega)
        | zero =>
            rw [invocationsFrom]
            split
            next m hm => exact hfound hm (by omega)
            next => exact hfree (by omega)
      · intro hp
        rw [invocationsFrom]
        split
        next m hm => exact hfound hm hp
        next hm =>
          rcases Nat.lt_or_eq_of_le hp with hlt | rfl
          · exact hfree hlt
          · obtain ⟨m, hsome⟩ := exists_invocation?_eq_some hopens before.length
            rw [hm] at hsome
            cases hsome

end Rule

/-- An invocation of a rule as it stands in a text. -/
structure Invocation.StandsIn (m : Invocation) (r : Rule) (t : Text) : Prop where
  span : (t.drop m.start).take (m.stop - m.start) = m.lead ++ '\\' :: (m.name ++ m.args)
  lead : m.lead = [] ∧ m.start = 0 ∨ ∃ c, c ≠ '\\' ∧ m.lead = [c]
  name : r.nameLength? t (m.backslash + 1) = some m.name.length
  args : argumentsEnd t m.nameEnd = .ok m.stop

namespace Rule

theorem standsIn_of_mem {r : Rule} {t : Text} {m : Invocation} (h : m ∈ r.invocations t) :
    m.StandsIn r t ∧ r.Opens t m.backslash := by
  obtain ⟨free, before, c, behind, htext, hfound⟩ := exists_of_mem_invocationsFrom h rfl
  have hbackslash := invocation?_backslash hfound
  have hname := invocation?_name hfound
  obtain ⟨hlead, hstart, hslash⟩ := invocation?_some hfound
  obtain ⟨hfree, hcases⟩ := lead?_eq_some hlead
  rw [List.reverse_nil, List.nil_append] at htext
  refine ⟨⟨?_, ?_, ?_, argumentsEnd_nameEnd h⟩, ?_⟩
  · obtain ⟨gap, rest, rfl, hgap⟩ := (r.invocations_laidOut t).exists_append h
    rw [Invocation.stop_eq, hgap, Nat.zero_add, Nat.add_sub_cancel_left, List.drop_left,
      List.take_left]
    rfl
  · refine hcases.imp_left (And.imp_right ?_)
    rintro rfl
    rw [hstart]
    exact Nat.zero_sub _
  · rw [hbackslash, ← htext, nameLength?_append, hname]
  · rw [hbackslash, ← htext, opens_append_iff, hname]
    exact ⟨(List.cons.inj hslash).1, hfree, rfl⟩

/-- An invocation behind another one claims a character between them, so that its backslash does not
even touch the one before. -/
theorem invocations_apart (r : Rule) (t : Text) :
    (r.invocations t).Pairwise fun m next => m.stop < next.backslash := by
  refine (r.invocations_laidOut t).pairwise.imp_of_mem ?_
  intro m next _ hnext hle
  have hpos := Nat.zero_lt_of_lt m.backslash_lt_stop
  rw [Invocation.backslash]
  rcases (standsIn_of_mem hnext).1.lead with ⟨-, hzero⟩ | ⟨c, -, hlead⟩
  · omega
  · rw [hlead, List.length_singleton]
    omega

/-- An invocation that starts before another one has stopped before its backslash. -/
private theorem stop_lt_backslash {r : Rule} {t : Text} {m m' : Invocation}
    (hm : m ∈ r.invocations t) (hm' : m' ∈ r.invocations t) (hlt : m.backslash < m'.backslash) :
    m.stop < m'.backslash := by
  have happart := invocations_apart r t
  have hordered : (r.invocations t).Pairwise fun m m' =>
      m.backslash < m'.backslash → m.stop < m'.backslash := by
    apply happart.imp
    intro m m' hstop _
    exact hstop
  refine hordered.forall_of_forall_of_flip (fun _ _ h => absurd h (Nat.lt_irrefl _))
    (happart.imp ?_) hm hm' hlt
  -- In the list the other way round, the two contradict the order of their backslashes.
  intro first next hstop h
  have hfirst := first.backslash_lt_stop
  exact absurd h (by omega)

/-- The invocations of a rule stand in the text one behind the other, and they are at exactly those
macros of the rule that no invocation before them reaches. -/
theorem invocations_exact (r : Rule) (t : Text) :
    (r.invocations t).Pairwise (fun m next => m.stop ≤ next.start) ∧
      (∀ m ∈ r.invocations t, m.StandsIn r t) ∧
      ∀ p, (∃ m ∈ r.invocations t, m.backslash = p) ↔
        r.Opens t p ∧ ∀ m ∈ r.invocations t, m.backslash < p → m.stop < p := by
  refine ⟨(r.invocations_laidOut t).pairwise, fun m hm => (standsIn_of_mem hm).1, ?_⟩
  intro p
  constructor
  · rintro ⟨m, hm, rfl⟩
    exact ⟨(standsIn_of_mem hm).2, fun m' hm' hlt => stop_lt_backslash hm' hm hlt⟩
  · rintro ⟨hopens, hpast⟩
    obtain ⟨m, hm, hle, hstop⟩ := (invocationsFrom_reaches r [] t hopens).2 (Nat.zero_le p)
    refine ⟨m, hm, ?_⟩
    rcases Nat.lt_or_eq_of_le hle with hlt | heq
    · exact absurd (hpast m hm hlt) (Nat.not_lt.mpr hstop)
    · exact heq

/-- The macro at offset 5 touches the arguments of the one before and is passed over. -/
theorem invocations_exact_adjacent :
    let r : Rule := ⟨⟨['x'], .one ⟨[.single 'x'], false, false⟩⟩, .after⟩
    let t := "\\x{a}\\x b\\x".toList
    let first : Invocation := ⟨0, [], ['x'], "{a}".toList⟩
    let second : Invocation := ⟨8, ['b'], ['x'], []⟩
    r.invocations t = [first, second] ∧ first.StandsIn r t ∧ second.StandsIn r t ∧
      r.Opens t 5 ∧ (¬∃ m ∈ r.invocations t, m.backslash = 5) ∧ r.Opens t 9 := by
  intro r t first second
  have hfound : r.invocations t = [first, second] := by decide +kernel
  have hfirst : first ∈ r.invocations t := by simp [hfound]
  have hsecond : second ∈ r.invocations t := by simp [hfound]
  obtain ⟨-, hstands, hat⟩ := invocations_exact r t
  refine ⟨hfound, hstands _ hfirst, hstands _ hsecond, ⟨by decide, by decide, by decide⟩, ?_, ?_⟩
  · intro hfive
    exact absurd (((hat 5).mp hfive).2 first hfirst (by decide)) (by decide)
  · exact ((hat 9).mp ⟨second, hsecond, rfl⟩).1

end Rule

end Macro

end TexReflow
