import Mathlib.Data.List.Forall2
import Mathlib.Data.Nat.Find
import Mathlib.Order.Bounds.Basic
import TexReflow.Macro.Argument

/-!
# Bracket groups

A group ends at the first offset up to which the brackets of its kind are balanced, however deep
groups nest and whatever stands between the brackets.
-/

namespace TexReflow.Macro

/-- The kinds of brackets: what opens a group, and what closes it. -/
def brackets : List (Char × Char) := [('{', '}'), ('[', ']')]

theorem closer?_eq_some_iff {opener closer : Char} :
    closer? opener = some closer ↔ (opener, closer) ∈ brackets := by
  unfold closer?
  split <;> simp_all [brackets, eq_comm]

theorem ne_of_mem_brackets {opener closer : Char} (h : (opener, closer) ∈ brackets) :
    opener ≠ closer := by
  have hne : ∀ kind ∈ brackets, kind.1 ≠ kind.2 := by decide
  exact hne (opener, closer) h

/-- With `depth` groups open before the text, all groups are closed after `n` characters. -/
def Closes (opener closer : Char) (depth : Nat) (t : Text) (n : Nat) : Prop :=
  n ≤ t.length ∧ depth + (t.take n).count opener = (t.take n).count closer

/-- The least offset in a text, found from the rest of the text. -/
private theorem isLeast_succ_iff {p q : Nat → Prop} (hzero : ¬p 0) (hsucc : ∀ k, p (k + 1) ↔ q k)
    {n : Nat} : IsLeast {k | p k} n ↔ ∃ k, IsLeast {k | q k} k ∧ k + 1 = n := by
  constructor
  · intro h
    cases n with
    | zero => exact absurd h.1 hzero
    | succ n =>
        refine ⟨n, ⟨(hsucc n).mp h.1, ?_⟩, rfl⟩
        intro k hk
        exact Nat.le_of_succ_le_succ (h.2 ((hsucc k).mpr hk))
  · rintro ⟨k, h, rfl⟩
    refine ⟨(hsucc k).mpr h.1, ?_⟩
    intro j hj
    cases j with
    | zero => exact absurd hj hzero
    | succ j => exact Nat.succ_le_succ (h.2 ((hsucc j).mp hj))

section Groups

variable {opener closer : Char}

/-- A character changes the number of open groups by one at most. -/
theorem closes_cons_iff {c : Char} {depth left : Nat} {t : Text} {n : Nat}
    (hleft : depth + (decide (c = opener)).toNat = left + (decide (c = closer)).toNat) :
    Closes opener closer depth (c :: t) (n + 1) ↔ Closes opener closer left t n := by
  have hcount (d : Char) :
      (c :: t.take n).count d = (t.take n).count d + (decide (c = d)).toNat := by
    by_cases h : c = d <;> simp [h]
  rw [Closes, Closes, List.take_succ_cons, hcount, hcount, List.length_cons]
  omega

theorem isLeast_closes_zero_iff {t : Text} {n : Nat} :
    IsLeast {k | Closes opener closer 0 t k} n ↔ n = 0 := by
  have hzero : IsLeast {k | Closes opener closer 0 t k} 0 :=
    ⟨⟨Nat.zero_le _, rfl⟩, fun _ _ => Nat.zero_le _⟩
  exact ⟨fun h => h.unique hzero, fun h => h ▸ hzero⟩

/-- With a group open, the length found is the least at which all groups are closed. -/
theorem closeLength?_eq_some_iff (hne : opener ≠ closer) {depth : Nat} (hdepth : 0 < depth)
    {t : Text} {n : Nat} :
    closeLength? opener closer depth t = some n ↔
      IsLeast {k | Closes opener closer depth t k} n := by
  induction t generalizing depth n with
  | nil =>
      refine ⟨nofun, ?_⟩
      rintro ⟨⟨-, hcount⟩, -⟩
      simp only [List.take_nil, List.count_nil] at hcount
      omega
  | cons c t ih =>
      have hzero : ¬Closes opener closer depth (c :: t) 0 := by
        rintro ⟨-, hcount⟩
        simp only [List.take_zero, List.count_nil] at hcount
        omega
      have hstep (left : Nat)
          (hleft : depth + (decide (c = opener)).toNat = left + (decide (c = closer)).toNat) :
          IsLeast {k | Closes opener closer depth (c :: t) k} n ↔
            ∃ k, IsLeast {k | Closes opener closer left t k} k ∧ k + 1 = n :=
        isLeast_succ_iff hzero fun _ => closes_cons_iff hleft
      rw [closeLength?]
      split
      next hopen =>
        subst hopen
        rw [hstep (depth + 1) (by simp [hne]), Option.map_eq_some_iff]
        simp only [ih (Nat.succ_pos depth)]
      next hopen =>
        split
        next hclose =>
          subst hclose
          rw [hstep (depth - 1) (by simp [hopen]; omega)]
          split
          next hlast =>
            -- The last open group is closed here.
            rw [Nat.sub_eq_zero_of_le hlast]
            simp only [isLeast_closes_zero_iff, exists_eq_left, Option.some_inj]
          next hlast =>
            rw [Option.map_eq_some_iff]
            simp only [ih (Nat.sub_pos_of_lt (Nat.lt_of_not_le hlast))]
        next hclose =>
          rw [hstep depth (by simp [hopen, hclose]), Option.map_eq_some_iff]
          simp only [ih hdepth]

/-- A group at the start of a text is the shortest part with as many brackets that open as brackets
that close. -/
theorem groupLength?_eq_some_iff {t : Text} {n : Nat} :
    groupLength? t = some n ↔
      ∃ opener closer, (opener, closer) ∈ brackets ∧ t.head? = some opener ∧
        IsLeast {k | 0 < k ∧ Closes opener closer 0 t k} n := by
  cases t with
  | nil => simp [groupLength?]
  | cons c t =>
      have hgroup {closer : Char} (h : (c, closer) ∈ brackets) :
          closeLength? c closer 0 (c :: t) = some n ↔
            IsLeast {k | 0 < k ∧ Closes c closer 0 (c :: t) k} n := by
        have hne := ne_of_mem_brackets h
        have hstep (k : Nat) : (0 < k + 1 ∧ Closes c closer 0 (c :: t) (k + 1)) ↔
            Closes c closer 1 t k := by
          have hopen : 0 + (decide (c = c)).toNat = 1 + (decide (c = closer)).toNat := by
            simp [hne]
          rw [closes_cons_iff hopen]
          simp
        rw [closeLength?, if_pos rfl, isLeast_succ_iff (by simp) hstep, Option.map_eq_some_iff]
        simp only [closeLength?_eq_some_iff hne Nat.one_pos]
      simp only [groupLength?, List.head?_cons, Option.some_inj]
      constructor
      · intro h
        split at h
        · cases h
        next closer hcloser =>
          have hmem := closer?_eq_some_iff.mp hcloser
          exact ⟨c, closer, hmem, rfl, (hgroup hmem).mp h⟩
      · rintro ⟨_, closer, hmem, rfl, hleast⟩
        rw [closer?_eq_some_iff.mpr hmem]
        exact (hgroup hmem).mpr hleast

theorem groupLength?_bounds {t : Text} {n : Nat} (h : groupLength? t = some n) :
    0 < n ∧ n ≤ t.length := by
  obtain ⟨_, _, -, -, hleast⟩ := groupLength?_eq_some_iff.mp h
  exact ⟨hleast.1.1, hleast.1.2.1⟩

/-- What follows a group does not change it. -/
theorem groupLength?_append {t : Text} {n : Nat} (h : groupLength? t = some n) (behind : Text) :
    groupLength? (t ++ behind) = some n := by
  obtain ⟨opener, closer, hmem, hhead, hleast⟩ := groupLength?_eq_some_iff.mp h
  have hcloses {k : Nat} (hk : k ≤ t.length) :
      Closes opener closer 0 (t ++ behind) k ↔ Closes opener closer 0 t k := by
    rw [Closes, Closes, List.take_append_of_le_length hk, List.length_append]
    simp [hk, Nat.le_add_right_of_le hk]
  have hn : n ≤ t.length := hleast.1.2.1
  refine groupLength?_eq_some_iff.mpr ⟨opener, closer, hmem, ?_, ⟨hleast.1.1, ?_⟩, ?_⟩
  · rw [List.head?_append, hhead]
    rfl
  · exact (hcloses hn).mpr hleast.1.2
  · rintro k ⟨hpos, hk⟩
    rcases Nat.le_total k t.length with hle | hle
    · exact hleast.2 ⟨hpos, (hcloses hle).mp hk⟩
    · exact hn.trans hle

/-- The characters are the same, or neither is a bracket of the kind. -/
def Alike (opener closer c d : Char) : Prop :=
  c = d ∨ (c ≠ opener ∧ c ≠ closer) ∧ d ≠ opener ∧ d ≠ closer

theorem closeLength?_alike {t u : Text} (h : List.Forall₂ (Alike opener closer) t u)
    (depth : Nat) : closeLength? opener closer depth u = closeLength? opener closer depth t := by
  induction h generalizing depth with
  | nil => rfl
  | cons hcd _ ih =>
      rcases hcd with rfl | ⟨⟨hc, hc'⟩, hd, hd'⟩
      · simp only [closeLength?, ih]
      · simp only [closeLength?, if_neg hc, if_neg hc', if_neg hd, if_neg hd', ih]

/-- A group depends on the brackets of its own kind only. -/
theorem groupLength?_alike {t u : Text} (hmem : (opener, closer) ∈ brackets)
    (hhead : t.head? = some opener) (h : List.Forall₂ (Alike opener closer) t u) :
    groupLength? u = groupLength? t := by
  cases h with
  | nil => rfl
  | @cons c d t u hcd htu =>
      cases hhead
      have hsame : opener = d := hcd.resolve_right fun h => h.1.1 rfl
      subst hsame
      simp only [groupLength?, closer?_eq_some_iff.mpr hmem,
        closeLength?_alike (.cons hcd htu)]

end Groups

/-- Between two offsets the text has as many brackets that open as brackets that close. -/
structure Balances (opener closer : Char) (t : Text) (pos stop : Nat) : Prop where
  lt : pos < stop
  le : stop ≤ t.length
  count : (t.extract pos stop).count opener = (t.extract pos stop).count closer

theorem balances_add_iff {opener closer : Char} {t : Text} {pos n : Nat} :
    Balances opener closer t pos (pos + n) ↔ 0 < n ∧ Closes opener closer 0 (t.drop pos) n := by
  have hlen : pos < pos + n ∧ pos + n ≤ t.length ↔ 0 < n ∧ n ≤ t.length - pos := by omega
  rw [Closes, List.length_drop, Nat.zero_add, ← and_assoc, ← hlen, and_assoc]
  have hextract : t.extract pos (pos + n) = (t.drop pos).take n := by
    rw [List.extract_eq_take_drop, Nat.add_sub_cancel_left]
  rw [← hextract]
  exact ⟨fun h => ⟨h.lt, h.le, h.count⟩, fun ⟨hlt, hle, hcount⟩ => ⟨hlt, hle, hcount⟩⟩

theorem isLeast_balances_iff {opener closer : Char} {t : Text} {pos n : Nat} :
    IsLeast {k | Balances opener closer t pos k} (pos + n) ↔
      IsLeast {k | 0 < k ∧ Closes opener closer 0 (t.drop pos) k} n := by
  refine and_congr balances_add_iff ⟨?_, ?_⟩
  · intro h k hk
    exact Nat.le_of_add_le_add_left (h (balances_add_iff.mpr hk))
  · intro h k hk
    obtain ⟨j, rfl⟩ := Nat.exists_eq_add_of_le hk.lt.le
    exact Nat.add_le_add_left (h (balances_add_iff.mp hk)) pos

theorem groupEnd_of_read {t u : Text} {pos : Int} (h : readFrom? t pos = some u) :
    groupEnd t pos = .ok ((groupLength? u).map fun n : Nat => pos + (n : Int)) := by
  simp only [groupEnd, h]
  cases groupLength? u <;> rfl

theorem groupEnd_natCast (t : Text) (pos : Nat) :
    groupEnd t pos =
      .ok ((groupLength? (t.drop pos)).map fun n : Nat => (pos : Int) + (n : Int)) := by
  apply groupEnd_of_read
  rw [readFrom?, if_pos (Int.natCast_nonneg pos), Int.toNat_natCast]

theorem groupEnd_eq_some_iff {t : Text} {pos : Nat} {stop : Int} :
    groupEnd t pos = .ok (some stop) ↔
      ∃ n : Nat, stop = n ∧ ∃ opener closer, (opener, closer) ∈ brackets ∧
        t[pos]? = some opener ∧ IsLeast {k | Balances opener closer t pos k} n := by
  rw [groupEnd_natCast, Except.ok.injEq, Option.map_eq_some_iff]
  simp only [groupLength?_eq_some_iff, List.head?_drop, ← isLeast_balances_iff]
  constructor
  · rintro ⟨n, hgroup, rfl⟩
    exact ⟨pos + n, rfl, hgroup⟩
  · rintro ⟨n, rfl, opener, closer, hmem, hhead, hleast⟩
    obtain ⟨j, rfl⟩ := Nat.exists_eq_add_of_le hleast.1.lt.le
    exact ⟨j, ⟨opener, closer, hmem, hhead, hleast⟩, rfl⟩

theorem groupEnd_eq_none_iff {t : Text} {pos : Nat} :
    groupEnd t pos = .ok none ↔
      ∀ opener closer, (opener, closer) ∈ brackets → t[pos]? = some opener →
        ∀ n, ¬Balances opener closer t pos n := by
  constructor
  · intro hnone opener closer hmem hhead n hn
    classical
    have hex : ∃ n, Balances opener closer t pos n := ⟨n, hn⟩
    have hleast : IsLeast {k | Balances opener closer t pos k} (Nat.find hex) :=
      ⟨Nat.find_spec hex, fun _ => Nat.find_min' hex⟩
    have hsome := groupEnd_eq_some_iff.mpr ⟨_, rfl, opener, closer, hmem, hhead, hleast⟩
    rw [hnone] at hsome
    cases hsome
  · intro hno
    cases hlength : groupLength? (t.drop pos) with
    | none => rw [groupEnd_natCast, hlength, Option.map_none]
    | some n =>
        obtain ⟨opener, closer, hmem, hhead, hleast⟩ := groupLength?_eq_some_iff.mp hlength
        rw [List.head?_drop] at hhead
        exact absurd (balances_add_iff.mpr hleast.1) (hno opener closer hmem hhead _)

/-- The group that opens at an offset ends at the least offset up to which the brackets of its kind
are balanced, and there is none if there is no such offset. What stands behind the group, what
stands before it and characters that are no brackets of its kind do not matter. -/
theorem groupEnd_least (t : Text) (pos : Nat) :
    (∀ stop : Int, groupEnd t pos = .ok (some stop) ↔
      ∃ n : Nat, stop = n ∧ ∃ opener closer, (opener, closer) ∈ brackets ∧
        t[pos]? = some opener ∧ IsLeast {k | Balances opener closer t pos k} n) ∧
      (groupEnd t pos = .ok none ↔
        ∀ opener closer, (opener, closer) ∈ brackets → t[pos]? = some opener →
          ∀ n, ¬Balances opener closer t pos n) ∧
      ∀ stop : Int, groupEnd t pos = .ok (some stop) →
        (∀ behind, groupEnd (t ++ behind) pos = .ok (some stop)) ∧
        (∀ before : Text, groupEnd (before ++ t) (before.length + pos) =
          .ok (some (before.length + stop))) ∧
        ∀ opener closer u, (opener, closer) ∈ brackets → t[pos]? = some opener →
          List.Forall₂ (Alike opener closer) t u → groupEnd u pos = .ok (some stop) := by
  refine ⟨fun stop => groupEnd_eq_some_iff, groupEnd_eq_none_iff, ?_⟩
  intro stop hstop
  rw [groupEnd_natCast, Except.ok.injEq, Option.map_eq_some_iff] at hstop
  obtain ⟨n, hn, rfl⟩ := hstop
  refine ⟨?_, ?_, ?_⟩
  · intro behind
    have hpos : pos ≤ t.length := by
      by_contra hlt
      rw [List.drop_eq_nil_of_le (by omega)] at hn
      cases hn
    rw [groupEnd_natCast, List.drop_append_of_le_length hpos, groupLength?_append hn behind,
      Option.map_some]
  · intro before
    rw [← Int.natCast_add, groupEnd_natCast, List.drop_length_add_append, hn, Option.map_some,
      Int.natCast_add, Int.add_assoc]
  · intro opener closer u hmem hhead hu
    rw [← List.head?_drop] at hhead
    rw [groupEnd_natCast, groupLength?_alike hmem hhead (List.forall₂_drop pos hu), hn,
      Option.map_some]

/-- The group at offset 1 is a square one with a square one inside; curly brackets are plain text
there, and at offset 3 a curly group opens. -/
theorem groupEnd_least_nested :
    let t := "x[a{[b}]]".toList
    groupEnd t 1 = .ok (some 9) ∧ (∀ behind, groupEnd (t ++ behind) 1 = .ok (some 9)) ∧
      groupEnd ("[[".toList ++ t) 3 = .ok (some 11) ∧
      groupEnd "x[a([by]]".toList 1 = .ok (some 9) ∧
      IsLeast {k | Balances '{' '}' t 3 k} 7 ∧ ∀ n, ¬Balances '[' ']' "x[a{[b}]".toList 1 n := by
  intro t
  have hsquare : groupEnd t (1 : Nat) = .ok (some 9) := by decide
  have hcurly : groupEnd t (3 : Nat) = .ok (some 7) := by decide
  have hopen : groupEnd "x[a{[b}]".toList (1 : Nat) = .ok none := by decide
  obtain ⟨hbehind, hbefore, halike⟩ := (groupEnd_least t 1).2.2 9 hsquare
  obtain ⟨n, hn, opener, closer, hmem, hhead, hleast⟩ := ((groupEnd_least t 3).1 7).mp hcurly
  obtain rfl : '{' = opener := Option.some.inj ((by decide : some '{' = t[3]?).trans hhead)
  obtain rfl : closer = '}' := by simpa [brackets] using hmem
  obtain rfl : n = 7 := by omega
  exact ⟨hsquare, hbehind, hbefore "[[".toList,
    halike '[' ']' _ (by decide) (by decide) (by simp [t, Alike]), hleast,
    (groupEnd_least _ 1).2.1.mp hopen '[' ']' (by decide) (by decide)⟩

end TexReflow.Macro
