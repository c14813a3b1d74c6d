import Mathlib.Data.List.Flatten
import TexReflow.Proofs.Sentences

/-!
# Sentence ends

The spans of inline math can be told without walking over the content: each one goes from the next
match of the opening mark to the end of the next match of the closing mark. A sentence ends at the
line-end characters before a space that lie in no span, and nowhere else. A separator stands between
the sentences of one line, and only there.
-/

namespace TexReflow.Sentence

/-- The least offset from `i` on at which a mark takes a character. -/
def nextMark? (p : Option Pattern) (t : Text) (i : Nat) : Option Nat :=
  (List.range' i (t.length - i)).find? fun j => 0 < markLength p (t.drop j)

theorem nextMark?_eq_some {p : Option Pattern} {t : Text} {i j : Nat}
    (h : nextMark? p t i = some j) : 0 < markLength p (t.drop j) ∧ i ≤ j ∧ j < t.length := by
  obtain ⟨hmark, hmem, -⟩ := List.find?_range'_eq_some.mp h
  rw [List.mem_range'_1] at hmem
  exact ⟨of_decide_eq_true hmark, hmem.1, by omega⟩

theorem nextMark?_of_pos {p : Option Pattern} {t : Text} {i : Nat} (hi : i < t.length)
    (h : 0 < markLength p (t.drop i)) : nextMark? p t i = some i := by
  rw [nextMark?, List.find?_range'_eq_some, List.mem_range'_1]
  exact ⟨decide_eq_true h, ⟨Nat.le_refl i, by omega⟩, fun j _ _ => by omega⟩

theorem nextMark?_of_zero {p : Option Pattern} {t : Text} {i : Nat} (hi : i < t.length)
    (h : markLength p (t.drop i) = 0) : nextMark? p t i = nextMark? p t (i + 1) := by
  have hlen : t.length - i = t.length - (i + 1) + 1 := by omega
  rw [nextMark?, nextMark?, hlen, List.range'_succ, List.find?_cons_of_neg (by simp [h])]

/-- The offset behind the next closing mark from offset `i` on; without one, the end. -/
def mathStop (cfg : Config) (t : Text) (i : Nat) : Nat :=
  match nextMark? cfg.inlineMath.closing t i with
  | none => t.length
  | some k => k + markLength cfg.inlineMath.closing (t.drop k)

theorem lt_mathStop (cfg : Config) {t : Text} {i k : Nat} (hi : i < t.length) (hk : i ≤ k) :
    i < mathStop cfg t k := by
  rw [mathStop]
  split
  · exact hi
  next h =>
    have hmark := nextMark?_eq_some h
    omega

/-- A part of a content: from its start on, up to its stop. -/
structure Span where
  start : Nat
  stop : Nat
deriving Repr, DecidableEq

def Span.covers (s : Span) (i : Nat) : Bool := s.start ≤ i && i < s.stop

theorem Span.covers_iff (s : Span) (i : Nat) : s.covers i = true ↔ s.start ≤ i ∧ i < s.stop := by
  simp [covers]

/-- The first span of inline math from offset `i` on. -/
def nextSpan? (cfg : Config) (t : Text) (i : Nat) : Option Span :=
  (nextMark? cfg.inlineMath.opening t i).map fun j =>
    ⟨j, mathStop cfg t (j + markLength cfg.inlineMath.opening (t.drop j))⟩

theorem nextSpan?_eq_some {cfg : Config} {t : Text} {i : Nat} {s : Span}
    (h : nextSpan? cfg t i = some s) : i ≤ s.start ∧ s.start < s.stop ∧ s.start < t.length := by
  obtain ⟨j, hj, rfl⟩ := Option.map_eq_some_iff.mp h
  obtain ⟨hmark, hle, hlt⟩ := nextMark?_eq_some hj
  exact ⟨hle, lt_mathStop cfg hlt (Nat.le_add_right ..), hlt⟩

/-- The spans of inline math from offset `i` on. -/
def mathSpans (cfg : Config) (t : Text) (i : Nat) : List Span :=
  match h : nextSpan? cfg t i with
  | none => []
  | some s =>
    have := nextSpan?_eq_some h
    s :: mathSpans cfg t s.stop
termination_by t.length - i

theorem mathSpans_eq (cfg : Config) (t : Text) (i : Nat) :
    mathSpans cfg t i = match nextSpan? cfg t i with
      | none => []
      | some s => s :: mathSpans cfg t s.stop := by
  rw [mathSpans]
  split
  next h => rw [h]
  next s h => simp only [h]

theorem le_start_of_mem {cfg : Config} {t : Text} {i : Nat} {s : Span}
    (h : s ∈ mathSpans cfg t i) : i ≤ s.start := by
  fun_induction mathSpans cfg t i with
  | case1 i hnext => cases h
  | case2 i first hnext hfirst ih =>
      rcases List.mem_cons.mp h with rfl | h
      · exact hfirst.1
      · have hs := ih h
        omega

/-- The text cut behind the characters at the offsets with `isEnd`. It starts at offset `i`. -/
def cutFrom (isEnd : Nat → Bool) : (i : Nat) → Text → List Text
  | _, [] => [[]]
  | i, c :: t =>
    if isEnd i then [c] :: cutFrom isEnd (i + 1) t
    else Text.consHead c (cutFrom isEnd (i + 1) t)

theorem cutFrom_congr {f g : Nat → Bool} {i : Nat} (h : ∀ j, i ≤ j → f j = g j) (t : Text) :
    cutFrom f i t = cutFrom g i t := by
  induction t generalizing i with
  | nil => rfl
  | cons c t ih => rw [cutFrom, cutFrom, h i (Nat.le_refl i), ih fun j hj => h j (by omega)]

/-- A sentence ends at an offset: there is a line-end character outside of the spans, and a space
behind it. -/
def endsAmong (cfg : Config) (spans : List Span) (t : Text) (i : Nat) : Bool :=
  !spans.any (·.covers i) && t[i]?.any cfg.isLineEnd && t[i + 1]? = some ' '

theorem endsAmong_of_covers {cfg : Config} {spans : List Span} {t : Text} {i : Nat} {s : Span}
    (hs : s ∈ spans) (hcovers : s.covers i = true) : endsAmong cfg spans t i = false := by
  have hany : spans.any (·.covers i) = true := List.any_eq_true.mpr ⟨s, hs, hcovers⟩
  simp [endsAmong, hany]

theorem endsAmong_cons {cfg : Config} {spans : List Span} {t : Text} {i : Nat} {s : Span}
    (hs : s.covers i = false) : endsAmong cfg (s :: spans) t i = endsAmong cfg spans t i := by
  simp [endsAmong, hs]

theorem mathStop_of_zero {cfg : Config} {t : Text} {i : Nat} (hi : i < t.length)
    (h : markLength cfg.inlineMath.closing (t.drop i) = 0) :
    mathStop cfg t i = mathStop cfg t (i + 1) := by
  rw [mathStop, mathStop, nextMark?_of_zero hi h]

theorem mathStop_of_pos {cfg : Config} {t : Text} {i : Nat} (hi : i < t.length)
    (h : 0 < markLength cfg.inlineMath.closing (t.drop i)) :
    mathStop cfg t i = i + markLength cfg.inlineMath.closing (t.drop i) := by
  rw [mathStop, nextMark?_of_pos hi h]

theorem mathSpans_of_zero {cfg : Config} {t : Text} {i : Nat} (hi : i < t.length)
    (h : markLength cfg.inlineMath.opening (t.drop i) = 0) :
    mathSpans cfg t i = mathSpans cfg t (i + 1) := by
  have hnext : nextSpan? cfg t i = nextSpan? cfg t (i + 1) := by
    rw [nextSpan?, nextSpan?, nextMark?_of_zero hi h]
  rw [mathSpans_eq, hnext, ← mathSpans_eq]

theorem mathSpans_of_pos {cfg : Config} {t : Text} {i : Nat} (hi : i < t.length)
    (h : 0 < markLength cfg.inlineMath.opening (t.drop i)) :
    mathSpans cfg t i =
      ⟨i, mathStop cfg t (i + markLength cfg.inlineMath.opening (t.drop i))⟩ ::
        mathSpans cfg t (mathStop cfg t (i + markLength cfg.inlineMath.opening (t.drop i))) := by
  rw [mathSpans_eq, nextSpan?, nextMark?_of_pos hi h]
  rfl

theorem cutFrom_of_covers (cfg : Config) {spans : List Span} {t : Text} {i : Nat} {s : Span}
    (hs : s ∈ spans) (hcovers : s.start ≤ i ∧ i < s.stop) (c : Char) (rest : Text) :
    cutFrom (endsAmong cfg spans t) i (c :: rest) =
      Text.consHead c (cutFrom (endsAmong cfg spans t) (i + 1) rest) := by
  rw [cutFrom, endsAmong_of_covers hs ((s.covers_iff i).mpr hcovers)]
  rfl

/-- A span that has stopped does not matter any more. -/
theorem cutFrom_of_stop_le (cfg : Config) {spans : List Span} {t : Text} {i : Nat} {s : Span}
    (hs : s.stop ≤ i) (rest : Text) :
    cutFrom (endsAmong cfg (s :: spans) t) i rest = cutFrom (endsAmong cfg spans t) i rest := by
  apply cutFrom_congr
  intro j hj
  apply endsAmong_cons
  rw [Bool.eq_false_iff, Ne, s.covers_iff]
  omega

private theorem of_drop_eq_cons {t rest : Text} {i : Nat} {c : Char} (h : t.drop i = c :: rest) :
    i < t.length ∧ t[i]? = some c ∧ t.drop (i + 1) = rest := by
  have hhere : t[i]? = some c := by
    rw [← List.head?_drop, h]
    rfl
  refine ⟨(List.getElem?_eq_some_iff.mp hhere).1, hhere, ?_⟩
  rw [← List.drop_drop, h]
  rfl

/-- Before the first span a sentence ends at each line-end character with a space behind it. -/
theorem endsAmong_before {cfg : Config} {t : Text} {i : Nat} {c : Char} {rest : Text}
    (hrest : t.drop i = c :: rest) {spans : List Span} (hspans : ∀ s ∈ spans, i < s.start) :
    endsAmong cfg spans t i = (cfg.isLineEnd c && rest.head? = some ' ') := by
  obtain ⟨-, hhere, hnext⟩ := of_drop_eq_cons hrest
  have hany : spans.any (·.covers i) = false := by
    rw [List.any_eq_false]
    intro s hs
    rw [s.covers_iff]
    have := hspans s hs
    omega
  rw [endsAmong, hany, hhere, ← List.head?_drop, hnext]
  rfl

/-- Outside of inline math, where no span begins, the line ends alone decide. -/
theorem cutFrom_mathSpans_of_zero {cfg : Config} {t : Text} {i : Nat} {c : Char} {rest : Text}
    (hrest : t.drop i = c :: rest) (h : markLength cfg.inlineMath.opening (c :: rest) = 0) :
    cutFrom (endsAmong cfg (mathSpans cfg t i) t) i (c :: rest) =
      if cfg.isLineEnd c && rest.head? = some ' ' then
        [c] :: cutFrom (endsAmong cfg (mathSpans cfg t (i + 1)) t) (i + 1) rest
      else Text.consHead c (cutFrom (endsAmong cfg (mathSpans cfg t (i + 1)) t) (i + 1) rest) := by
  rw [← hrest] at h
  rw [mathSpans_of_zero (of_drop_eq_cons hrest).1 h, cutFrom,
    endsAmong_before hrest fun s hs => le_start_of_mem hs]

/-- Where the walk leaves inline math, if `i` is the offset behind the part still to be passed
over. -/
private def leaves (cfg : Config) (t : Text) (math : Bool) (i : Nat) : Nat :=
  if math then mathStop cfg t i else i

private theorem lt_leaves (cfg : Config) {t : Text} {i k : Nat} (math : Bool) (hi : i < t.length)
    (hk : i < k) : i < leaves cfg t math k := by
  cases math with
  | true => exact lt_mathStop cfg hi (Nat.le_of_lt hk)
  | false => exact hk

/-- In each of its states the walk cuts at the sentence ends outside of the span it is in, which
began at `start`, and of the spans behind it. -/
private theorem segmentsFrom_eq_cutFrom (cfg : Config) (t : Text) {i : Nat} {rest : Text}
    (hrest : t.drop i = rest) (skip : Nat) (math : Bool) {start stop : Nat} (hstart : start ≤ i)
    (hstop : leaves cfg t math (i + skip) = stop) :
    segmentsFrom cfg skip math rest =
      cutFrom (endsAmong cfg (⟨start, stop⟩ :: mathSpans cfg t stop) t) i rest := by
  fun_induction segmentsFrom cfg skip math rest generalizing i start stop with
  | case1 => rfl
  | case2 skip math c rest ih =>
      obtain ⟨hi, -, hnext⟩ := of_drop_eq_cons hrest
      have hlt : i < stop := hstop ▸ lt_leaves cfg math hi (by omega)
      have hpassed : leaves cfg t math (i + 1 + skip) = stop := by
        rw [← hstop, Nat.add_assoc, Nat.add_comm 1]
      rw [cutFrom_of_covers cfg List.mem_cons_self ⟨hstart, hlt⟩,
        ih hnext (Nat.le_succ_of_le hstart) hpassed]
  | case3 c rest hmark ih =>
      obtain ⟨hi, -, hnext⟩ := of_drop_eq_cons hrest
      rw [← hrest] at hmark
      have hlt : i < stop := hstop ▸ lt_mathStop cfg hi (Nat.le_refl i)
      have hunclosed : leaves cfg t true (i + 1 + 0) = stop :=
        (mathStop_of_zero hi hmark).symm.trans hstop
      rw [cutFrom_of_covers cfg List.mem_cons_self ⟨hstart, hlt⟩,
        ih hnext (Nat.le_succ_of_le hstart) hunclosed]
  | case4 c rest n hmark ih =>
      obtain ⟨hi, -, hnext⟩ := of_drop_eq_cons hrest
      rw [← hrest] at hmark
      have hlt : i < stop := hstop ▸ lt_mathStop cfg hi (Nat.le_refl i)
      have hclosed : leaves cfg t false (i + 1 + n) = stop := by
        rw [← hstop]
        refine .trans ?_ (mathStop_of_pos hi (by omega)).symm
        rw [hmark]
        exact Nat.add_right_comm i 1 n
      rw [cutFrom_of_covers cfg List.mem_cons_self ⟨hstart, hlt⟩,
        ih hnext (Nat.le_succ_of_le hstart) hclosed]
  | case5 c rest hmark hend ih =>
      obtain ⟨-, -, hnext⟩ := of_drop_eq_cons hrest
      obtain rfl : i = stop := hstop
      rw [cutFrom_of_stop_le cfg (Nat.le_refl i), cutFrom_mathSpans_of_zero hrest hmark,
        if_pos hend, ih hnext (Nat.le_succ_of_le hstart) rfl]
      exact congrArg ([c] :: ·) (cutFrom_of_stop_le cfg (Nat.le_refl (i + 1)) rest)
  | case6 c rest hmark hend ih =>
      obtain ⟨-, -, hnext⟩ := of_drop_eq_cons hrest
      obtain rfl : i = stop := hstop
      rw [cutFrom_of_stop_le cfg (Nat.le_refl i), cutFrom_mathSpans_of_zero hrest hmark,
        if_neg hend, ih hnext (Nat.le_succ_of_le hstart) rfl]
      exact congrArg (Text.consHead c) (cutFrom_of_stop_le cfg (Nat.le_refl (i + 1)) rest)
  | case7 c rest n hmark ih =>
      obtain ⟨hi, -, hnext⟩ := of_drop_eq_cons hrest
      rw [← hrest] at hmark
      obtain rfl : i = stop := hstop
      have hlt : i < mathStop cfg t (i + (n + 1)) := lt_mathStop cfg hi (by omega)
      have hopened : leaves cfg t true (i + 1 + n) = mathStop cfg t (i + (n + 1)) :=
        congrArg (mathStop cfg t) (Nat.add_right_comm i 1 n)
      rw [cutFrom_of_stop_le cfg (Nat.le_refl i), mathSpans_of_pos hi (by omega), hmark,
        cutFrom_of_covers cfg List.mem_cons_self ⟨Nat.le_refl i, hlt⟩,
        ih hnext (Nat.le_succ i) hopened]

/-- The content is cut behind the sentence ends outside of inline math. -/
theorem segments_eq_cutFrom (cfg : Config) (t : Text) :
    segments cfg t = cutFrom (endsAmong cfg (mathSpans cfg t 0) t) 0 t := by
  have hstop : leaves cfg t false (0 + 0) = 0 := rfl
  rw [segments, segmentsFrom_eq_cutFrom cfg t List.drop_zero 0 false (Nat.le_refl 0) hstop]
  exact cutFrom_of_stop_le cfg (Nat.le_refl 0) t

/-- Without a separator a line becomes its content cut behind the sentence ends outside of inline
math, with the marks of the line. -/
theorem split_outside_math (cfg : Config) (l : Line) (hsep : cfg.separator? = none) :
    split cfg l =
      (sentences (cutFrom (endsAmong cfg (mathSpans cfg l.content 0) l.content) 0 l.content)).map
        l.withContent := by
  rw [split_eq_map cfg l hsep, segments_eq_cutFrom]

/-- Sentence ends between two spans of inline math, and the second span is not closed. -/
theorem split_outside_math_dollar :
    let dollar : Pattern := ⟨"\\$".toList, .one ⟨[.single '$'], false, false⟩⟩
    let cfg : Config := { inlineMath := ⟨some dollar, some dollar⟩ }
    let l : Line := { content := "A. $b. c$ D. $e. f".toList, comment := true }
    cfg.separator? = none ∧ mathSpans cfg l.content 0 = [⟨3, 9⟩, ⟨13, 18⟩] ∧
      split cfg l = ["A.", "$b. c$ D.", "$e. f"].map fun s => l.withContent s.toList := by
  intro dollar cfg l
  have hspans : mathSpans cfg l.content 0 = [⟨3, 9⟩, ⟨13, 18⟩] := by decide +kernel
  refine ⟨rfl, hspans, ?_⟩
  rw [split_outside_math cfg l rfl, hspans]
  decide +kernel

private theorem segments_separator (cfg : Config) (separator : Option Text) (t : Text) :
    segments { cfg with separator } t = segments cfg t := by
  have hfrom (skip : Nat) (math : Bool) :
      segmentsFrom { cfg with separator } skip math t = segmentsFrom cfg skip math t := by
    fun_induction segmentsFrom cfg skip math t with
    | case1 => rw [segmentsFrom]
    | case2 skip math c t ih => rw [segmentsFrom, ih]
    | case3 c t hmark ih => simp only [segmentsFrom, hmark, ih]
    | case4 c t n hmark ih => simp only [segmentsFrom, hmark, ih]
    | case5 c t hmark hend ih =>
        simp only [segmentsFrom, hmark, ih]
        exact if_pos hend
    | case6 c t hmark hend ih =>
        simp only [segmentsFrom, hmark, ih]
        exact if_neg hend
    | case7 c t n hmark ih => simp only [segmentsFrom, hmark, ih]
  exact hfrom 0 false

/-- With a separator the same lines come out as without one, and its line stands between each two
sentences that one line is cut into. -/
theorem splitAll_separated {cfg : Config} {s : Text} (hsep : cfg.separator = some s) (hs : s ≠ [])
    (ls : List Line) :
    splitAll cfg ls =
        ls.flatMap (fun l =>
          if l.verbatim || l.math || l.isBlank || l.comment then [l]
          else (split { cfg with separator := none } l).intersperse
            { l with content := s, comment := Comment.isWhole s }) ∧
      (splitAll { cfg with separator := none } ls).Sublist (splitAll cfg ls) := by
  have hgiven : cfg.separator? = some s := by
    rw [Config.separator?, hsep]
    cases s with
    | nil => exact absurd rfl hs
    | cons c s => rfl
  have hsplit (l : Line) : split cfg l =
      (split { cfg with separator := none } l).intersperse (separatorLine l s) := by
    rw [split_eq_intersperse l hgiven, split_eq_map _ l rfl, segments_separator cfg none]
  constructor
  · simp only [splitAll, hsplit]
    rfl
  · apply List.Sublist.flatMap_right
    intro l _
    split
    · exact List.Sublist.refl _
    · rw [hsplit]
      exact sublist_intersperse _ _

/-- The first line ends behind a sentence, the second one is a comment, the last one is a single
sentence. -/
theorem splitAll_separated_trailing :
    let cfg : Config := { separator := some ['%'] }
    let comment : Line := { content := "% c. d".toList, comment := true }
    let ls := [.ofRow "A. B. ".toList, comment, .ofRow "E.".toList]
    cfg.separator = some ['%'] ∧ ['%'] ≠ [] ∧
      splitAll cfg ls = [.ofRow "A.".toList, { content := ['%'], comment := true },
        .ofRow "B.".toList, comment, .ofRow "E.".toList] := by
  intro cfg comment ls
  have hne : ['%'] ≠ [] := by decide
  refine ⟨rfl, hne, ?_⟩
  rw [(splitAll_separated rfl hne ls).1]
  decide +kernel

end TexReflow.Sentence
