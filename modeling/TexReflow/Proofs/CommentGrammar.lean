import Mathlib.Order.Bounds.Basic
import TexReflow.Pattern.Match
import TexReflow.Pattern.Parse
import TexReflow.Proofs.Comments

/-!
# The grammar of comments

The cut before a comment can be told by a pattern: parts that start no comment, as many as there
are, and behind them nothing or a percent sign with all that follows. At each place there is one
part at most, and as long as there is one, neither the end of the text nor a comment can follow. So
the pattern matches every text as a whole, and going back it finds no other cut.
-/

namespace TexReflow

namespace Pattern

/-- The place between two texts, the first of them reversed, with the texts kept so far. -/
def Place.keeping (kept : List (Nat × Text)) (before after : Text) : Place :=
  ⟨before, after, after.length, kept⟩

@[simp] theorem Place.keeping_ahead (kept : List (Nat × Text)) (before after : Text) :
    (Place.keeping kept before after).ahead = after.length := rfl

/-- A step that has one way to go on at most, with what its copies take of a text and what they
leave. -/
def Step.Takes (body : Step) (cut : Text → Text × Text) : Prop :=
  ∀ t, (cut t = ([], t) ∧ ∀ kept before k, body (.keeping kept before t) k = none) ∨
    ∃ u v, u ≠ [] ∧ t = u ++ v ∧ cut t = (u ++ (cut v).1, (cut v).2) ∧
      ∀ kept before k, body (.keeping kept before t) k = k (.keeping kept (u.reverse ++ before) v)

namespace Step.Takes

variable {kept : List (Nat × Text)} {k : Rest} {cut : Text → Text × Text}

/-- As many copies as possible, before a rest that fails as long as another copy can follow. The
rest is reached behind the last copy only, however often copies are given back. -/
private theorem upTo {body : Step} (h : body.Takes cut)
    (hk : ∀ before t, (cut t).1 ≠ [] → k (.keeping kept before t) = none) {n : Nat}
    {last : Option Nat} {t : Text} (hn : t.length < n) (hlast : last ≠ some t.length)
    (before : Text) :
    Step.upTo body true n last (.keeping kept before t) k =
      k (.keeping kept ((cut t).1.reverse ++ before) (cut t).2) := by
  induction n generalizing last t before with
  | zero => exact absurd hn (Nat.not_lt_zero _)
  | succ n ih =>
      rw [Step.upTo, Place.keeping_ahead, if_neg hlast, if_pos rfl]
      rcases h t with ⟨hcut, hfail⟩ | ⟨u, v, hu, rfl, hcut, hgo⟩
      · rw [hfail, hcut]
        rfl
      · have hpos : 0 < u.length := List.length_pos_iff.mpr hu
        rw [List.length_append] at hn
        have hnext : some (u ++ v).length ≠ some v.length := by
          rw [List.length_append, ne_eq, Option.some_inj]
          omega
        rw [hgo, ih (by omega) hnext, hk before (u ++ v) (by simp [hcut, hu]), hcut]
        simp

theorem copies {body : Node} (h : Step.Takes body.step cut)
    (hk : ∀ before t, (cut t).1 ≠ [] → k (.keeping kept before t) = none) (before t : Text) :
    (Node.copies 0 none true body).step (.keeping kept before t) k =
      k (.keeping kept ((cut t).1.reverse ++ before) (cut t).2) := by
  have hlast : none ≠ some t.length := nofun
  exact h.upTo hk (Nat.lt_succ_self t.length) hlast before

end Step.Takes

/-- A rest that can only end where the text ends. -/
def Rest.Closes (k : Rest) : Prop := ∀ q, q.after ≠ [] → k q = none

/-- The rest of a match that has to take the whole text. -/
def Rest.whole : Rest := fun q => if q.after.isEmpty then some q else none

theorem Rest.whole_closes : Rest.whole.Closes := by
  intro q hq
  rw [Rest.whole, if_neg (by simpa using hq)]

end Pattern

namespace Comment

open Pattern

namespace Grammar

def char (c : Char) : Node := .one ⟨[.single c], false, false⟩

/-- A character that is neither a percent sign nor a backslash. -/
def plain : Node := .one ⟨[.single '%', .single '\\'], true, false⟩

/-- Any character, a line feed too. -/
def anything : Node := .one ⟨[], true, false⟩

/-- A plain character, an escaped percent sign, or a backslash that escapes none. -/
def part : Node :=
  .alt plain (.alt (.seq (char '\\') (char '%')) (.seq (char '\\') (.lookAhead false (char '%'))))

/-- Nothing, or a percent sign and all that follows. -/
def tail : Node := .copies 0 (some 1) true (.seq (char '%') (.copies 0 none true anything))

def root : Node := .seq (.group 1 (.copies 0 none true part)) (.group 2 tail)

/-- The grammar as it is written: the text in the first group, the comment in the second one. The
flag lets the dot stand for a line feed, too. -/
def source : Text :=
  "(?s)(?P<prefix>(?:[^%\\\\]|\\\\%|\\\\(?!%))*)(?P<suffix>(?:%.*)?)".toList

theorem parse_source : Pattern.parse source = .ok ⟨source, root⟩ := by
  decide +kernel

section Steps

variable (kept : List (Nat × Text)) (before t : Text) (k : Rest)

private theorem step_char (c d : Char) :
    (char c).step (.keeping kept before (d :: t)) k =
      if d = c then k (.keeping kept (d :: before) t) else none := by
  simp only [char, Node.step_one, Place.next?, Place.keeping, CharClass.holds_single, beq_iff_eq]
  rfl

private theorem step_plain (c : Char) :
    plain.step (.keeping kept before (c :: t)) k =
      if c ≠ '%' ∧ c ≠ '\\' then k (.keeping kept (c :: before) t) else none := by
  have hpercent := CharClass.holds_single '%' c
  have hslash := CharClass.holds_single '\\' c
  simp only [CharClass.holds, List.any_cons, List.any_nil, Bool.or_false, Bool.bne_false]
    at hpercent hslash
  simp only [plain, Node.step_one, Place.next?, Place.keeping, CharClass.holds, List.any_cons,
    List.any_nil, Bool.or_false, hpercent, hslash]
  by_cases hc : c = '%' <;> by_cases hc' : c = '\\' <;> simp [hc, hc']

private theorem step_anything (c : Char) :
    anything.step (.keeping kept before (c :: t)) k = k (.keeping kept (c :: before) t) := by
  simp [anything, Place.next?, Place.keeping, CharClass.holds]

end Steps

private theorem split_cons_plain {c : Char} (t : Text) (hpercent : c ≠ '%') (hslash : c ≠ '\\') :
    split (c :: t) = (c :: (split t).1, (split t).2) := by
  simp [split, splitFrom, hpercent, hslash]

private theorem split_cons_escaped (t : Text) :
    split ('\\' :: '%' :: t) = ('\\' :: '%' :: (split t).1, (split t).2) := by
  simp [split, splitFrom]

private theorem split_cons_slash {t : Text} (h : t.head? ≠ some '%') :
    split ('\\' :: t) = ('\\' :: (split t).1, (split t).2) := by
  rw [← splitFrom_eq_split h true]
  rfl

/-- The parts of a text are those before its comment. -/
theorem part_takes : Step.Takes part.step split := by
  intro t
  cases t with
  | nil => exact .inl ⟨rfl, fun _ _ _ => rfl⟩
  | cons c t =>
      by_cases hpercent : c = '%'
      · subst hpercent
        refine .inl ⟨rfl, ?_⟩
        intro kept before k
        simp [part, step_char, step_plain]
      refine .inr ?_
      by_cases hslash : c = '\\'
      · subst hslash
        by_cases hhead : t.head? = some '%'
        · obtain ⟨v, rfl⟩ := List.head?_eq_some_iff.mp hhead
          refine ⟨['\\', '%'], v, by simp, rfl, split_cons_escaped v, ?_⟩
          intro kept before k
          simp [part, step_char, step_plain]
        · refine ⟨['\\'], t, by simp, rfl, split_cons_slash hhead, ?_⟩
          intro kept before k
          cases t with
          | nil => rfl
          | cons d t =>
              have hd : d ≠ '%' := by simpa using hhead
              simp [part, step_char, step_plain, hd]
      · refine ⟨[c], t, by simp, rfl, split_cons_plain t hpercent hslash, ?_⟩
        intro kept before k
        simp [part, step_char, step_plain, hpercent, hslash]

theorem anything_takes : Step.Takes anything.step fun t => (t, []) := by
  intro t
  cases t with
  | nil => exact .inl ⟨rfl, fun _ _ _ => rfl⟩
  | cons c t =>
      refine .inr ⟨[c], t, by simp, rfl, rfl, ?_⟩
      intro kept before k
      exact step_anything kept before t k c

/-- Up to the end of the text the tail is matched at the end and before a percent sign only. -/
theorem tail_step {k : Rest} (hk : k.Closes) (kept : List (Nat × Text)) (before t : Text) :
    tail.step (.keeping kept before t) k =
      if t = [] ∨ t.head? = some '%' then k (.keeping kept (t.reverse ++ before) []) else none := by
  have hstop (before : Text) {t : Text} (ht : t ≠ []) : k (.keeping kept before t) = none :=
    hk _ ht
  have hstep : tail.step (.keeping kept before t) k =
      ((char '%').step (.keeping kept before t)
          (fun q => (Node.copies 0 none true anything).step q k) <|>
        k (.keeping kept before t)) := by
    have hone : furtherCopies 0 (some 1) t.length = 1 := by
      rw [furtherCopies]
      omega
    simp only [tail, Node.step_copies, Node.step_seq, Step.exactly, Place.keeping_ahead, hone,
      Step.upTo]
    rfl
  rw [hstep]
  cases t with
  | nil => rfl
  | cons c t =>
      rw [step_char, hstop before (List.cons_ne_nil c t)]
      by_cases hc : c = '%'
      · rw [if_pos hc, anything_takes.copies (fun before t ht => hstop before ht)]
        simp [hc]
      · simp [hc]

/-- A rest that can only end where the text ends is reached in one way: behind the whole text, with
the two sides of the cut kept. -/
theorem root_step {k : Rest} (hk : k.Closes) (t : Text) :
    root.step (.between [] t) k =
      k ⟨t.reverse, [], 0, [(2, (split t).2), (1, (split t).1)]⟩ := by
  -- What is left to match behind some of the parts.
  let rest : Rest := fun q => (Node.group 2 tail).step
    { q with kept := (1, t.take (t.length - q.ahead)) :: q.kept } k
  have hrest (before u : Text) : rest (.keeping [] before u) =
      if u = [] ∨ u.head? = some '%' then
        k ⟨u.reverse ++ before, [], 0, [(2, u), (1, t.take (t.length - u.length))]⟩
      else none := by
    have hcloses : Rest.Closes fun q =>
        k { q with kept := (2, u.take (u.length - q.ahead)) :: q.kept } := fun q hq => hk _ hq
    refine (tail_step hcloses [(1, t.take (t.length - u.length))] before u).trans ?_
    simp [Place.keeping]
  have hstop (before u : Text) (hu : (split u).1 ≠ []) : rest (.keeping [] before u) = none := by
    rw [hrest, if_neg]
    rintro (rfl | hhead)
    · exact hu rfl
    · obtain ⟨v, rfl⟩ := List.head?_eq_some_iff.mp hhead
      exact hu rfl
  have happend := split_append t
  have hcomment : (split t).2 = [] ∨ (split t).2.head? = some '%' :=
    (split_cut t).2.imp_right And.left
  have htext : t.take (t.length - (split t).2.length) = (split t).1 := by
    calc t.take (t.length - (split t).2.length)
        = ((split t).1 ++ (split t).2).take
            (((split t).1 ++ (split t).2).length - (split t).2.length) := by rw [happend]
      _ = (split t).1 := by simp
  refine (part_takes.copies hstop [] t).trans ?_
  rw [hrest, if_pos hcomment, htext, List.append_nil, ← List.reverse_append, happend]

end Grammar

/-- A percent sign at an offset starts a comment: no backslash stands directly before it. -/
def StartsAt (t : Text) (n : Nat) : Prop := t[n]? = some '%' ∧ (n = 0 ∨ t[n - 1]? ≠ some '\\')

theorem startsAt_append_left_iff {a : Text} (b : Text) {n : Nat} (hn : n < a.length) :
    StartsAt (a ++ b) n ↔ StartsAt a n := by
  rw [StartsAt, StartsAt, List.getElem?_append_left hn, List.getElem?_append_left (by omega)]

theorem startsAt_length_iff {a b : Text} :
    StartsAt (a ++ '%' :: b) a.length ↔ a.getLast? ≠ some '\\' := by
  rw [StartsAt, List.getElem?_append_right (Nat.le_refl _), Nat.sub_self,
    List.getLast?_eq_getElem?]
  cases a with
  | nil => simp
  | cons c a =>
      rw [List.getElem?_append_left (by simp)]
      simp

theorem StartsAt.exists_append {t : Text} {n : Nat} (h : StartsAt t n) :
    ∃ a b, t = a ++ '%' :: b ∧ a.getLast? ≠ some '\\' := by
  obtain ⟨a, b, rfl, rfl⟩ : ∃ a b, t = a ++ '%' :: b ∧ a.length = n := by
    obtain ⟨hn, hget⟩ := List.getElem?_eq_some_iff.mp h.1
    refine ⟨t.take n, t.drop (n + 1), ?_, List.length_take_of_le hn.le⟩
    rw [← hget, List.getElem_cons_drop, List.take_append_drop]
  exact ⟨a, b, rfl, startsAt_length_iff.mp h⟩

/-- Without a comment no percent sign starts one. -/
theorem not_startsAt {t : Text} (h : inside t = false) (n : Nat) : ¬StartsAt t n := by
  intro hstart
  obtain ⟨a, b, rfl, hlast⟩ := hstart.exists_append
  exact hlast (getLast_of_inside_eq_false h)

theorem split_startsAt (t : Text) :
    IsLeast {n | StartsAt t n} (split t).1.length ∨ (∀ n, ¬StartsAt t n) ∧ (split t).2 = [] := by
  cases hsplit : split t with
  | mk text comment =>
      obtain ⟨rfl, htext, rfl | ⟨hhead, hlast⟩⟩ := split_eq_iff.mp hsplit
      · rw [List.append_nil]
        exact .inr ⟨not_startsAt htext, rfl⟩
      · obtain ⟨b, rfl⟩ := List.head?_eq_some_iff.mp hhead
        refine .inl ⟨startsAt_length_iff.mpr hlast, ?_⟩
        intro n hn
        by_contra hlt
        exact not_startsAt htext n ((startsAt_append_left_iff _ (Nat.lt_of_not_le hlt)).mp hn)

/-- The grammar matches every text as a whole and in one way only, with the two sides of the cut in
its groups. The cut loses nothing and stands before the first percent sign that starts a comment, at
the end if there is none, so that the text before it is not cut again. Behind a text without a
comment and a space, the cut is that of what follows. -/
theorem split_reads_grammar :
    (∃ p, Pattern.parse Grammar.source = .ok p ∧ ∀ t : Text,
      p.root.step (.between [] t) Rest.whole =
        some ⟨t.reverse, [], 0, [(2, (split t).2), (1, (split t).1)]⟩ ∧
      ∀ k : Rest, k.Closes → p.root.step (.between [] t) k =
        k ⟨t.reverse, [], 0, [(2, (split t).2), (1, (split t).1)]⟩) ∧
    (∀ t : Text, (split t).1 ++ (split t).2 = t ∧
      (IsLeast {n | StartsAt t n} (split t).1.length ∨ (∀ n, ¬StartsAt t n) ∧ (split t).2 = []) ∧
      split (split t).1 = ((split t).1, [])) ∧
    ∀ a b : Text, inside a = false →
      split (a ++ ' ' :: b) = (a ++ ' ' :: (split b).1, (split b).2) := by
  refine ⟨⟨_, Grammar.parse_source, ?_⟩, ?_, ?_⟩
  · intro t
    exact ⟨Grammar.root_step Rest.whole_closes t, fun k hk => Grammar.root_step hk t⟩
  · intro t
    exact ⟨split_append t, split_startsAt t, split_of_inside_eq_false (split_cut t).1⟩
  · intro a b ha
    exact split_append_space b ha rfl

/-- Percent signs behind one, two and three backslashes start no comment, and the backslash before
the space does not count for what follows. -/
theorem split_reads_grammar_escaped :
    let a := "\\%\\\\%\\\\\\%\\".toList
    let b := "% b\n\\%".toList
    inside a = false ∧ split (a ++ ' ' :: b) = (a ++ [' '], b) ∧ Rest.whole.Closes ∧
      ∃ p, Pattern.parse Grammar.source = .ok p ∧
        p.root.step (.between [] (a ++ ' ' :: b)) Rest.whole =
          some ⟨(a ++ ' ' :: b).reverse, [], 0, [(2, b), (1, a ++ [' '])]⟩ := by
  intro a b
  have ha : inside a = false := by decide
  have hb : split b = ([], b) := by decide
  obtain ⟨⟨p, hp, hmatch⟩, -, hjoin⟩ := split_reads_grammar
  have hsplit : split (a ++ ' ' :: b) = (a ++ [' '], b) := by rw [hjoin a b ha, hb]
  refine ⟨ha, hsplit, Rest.whole_closes, p, hp, ?_⟩
  rw [(hmatch _).2 _ Rest.whole_closes, hsplit]
  rfl

end Comment

end TexReflow
