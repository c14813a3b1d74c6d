import TexReflow.Proofs.Rest

/-!
# Sentences around inline math

If the same characters open and close inline math, a place lies inside of it if there is an odd
number of them before. White space does not count here, so that the trimmed and collapsed sentences
of a content, put together again with spaces between them, are cut at the same places.
-/

namespace TexReflow.Sentence

/-- Inline math is opened and closed by the characters with `flips`, which may be none at all.
Neither these nor the characters that end a sentence are white space. -/
structure Toggles (cfg : Config) (flips : Char → Bool) : Prop where
  opening : ∀ c t, markLength cfg.inlineMath.opening (c :: t) = (flips c).toNat
  closing : ∀ c t, markLength cfg.inlineMath.closing (c :: t) = (flips c).toNat
  space : ∀ c, Text.isSpace c = true → flips c = false
  lineEnd : ∀ c, cfg.isLineEnd c = true → Text.isSpace c = false

/-- A pattern of one character takes it wherever it stands. -/
private theorem markLength_one (source : Text) (set : Pattern.CharClass) (c : Char) (t : Text) :
    markLength (some ⟨source, .one set⟩) (c :: t) = (set.holds c).toNat := by
  simp only [markLength, Option.bind_some, Pattern.span?, Pattern.Node.span?, Pattern.Node.step_one,
    Pattern.Place.between, Pattern.Place.next?]
  cases set.holds c <;> simp

/-- Without inline math no character opens or closes it. -/
theorem toggles_none {cfg : Config} (hmath : cfg.inlineMath = {})
    (hends : ∀ c, cfg.isLineEnd c = true → Text.isSpace c = false) :
    Toggles cfg fun _ => false where
  opening := by simp [hmath, markLength]
  closing := by simp [hmath, markLength]
  space := by simp
  lineEnd := hends

/-- Inline math between dollar signs. -/
theorem toggles_dollar {cfg : Config} {p : Pattern} (hp : Pattern.parse "\\$".toList = .ok p)
    (hmath : cfg.inlineMath = ⟨some p, some p⟩)
    (hends : ∀ c, cfg.isLineEnd c = true → Text.isSpace c = false) :
    Toggles cfg (· == '$') := by
  have hparse : Pattern.parse "\\$".toList =
      .ok ⟨"\\$".toList, .one ⟨[.single '$'], false, false⟩⟩ := by
    decide +kernel
  rw [hparse, Except.ok.injEq] at hp
  refine ⟨?_, ?_, ?_, hends⟩
  · simp [hmath, ← hp, markLength_one, Pattern.CharClass.holds_single]
  · simp [hmath, ← hp, markLength_one, Pattern.CharClass.holds_single]
  · intro c hc
    rw [Bool.eq_false_iff]
    intro hdollar
    rw [beq_iff_eq.mp hdollar] at hc
    cases hc

/-- A sentence ends at a character with the given text behind it. -/
def endsAt (cfg : Config) (flips : Char → Bool) (math : Bool) (c : Char) (t : Text) : Bool :=
  !math && !flips c && cfg.isLineEnd c && t.head? = some ' '

/-- No sentence ends inside of the text. -/
def Whole (cfg : Config) (flips : Char → Bool) : (math : Bool) → Text → Prop
  | _, [] => True
  | math, c :: t => endsAt cfg flips math c t = false ∧ Whole cfg flips (math ^^ flips c) t

/-- Whether the place behind a text lies inside of inline math. -/
def mathBehind (flips : Char → Bool) (math : Bool) (t : Text) : Bool :=
  t.foldl (fun m c => m ^^ flips c) math

theorem mathBehind_append (flips : Char → Bool) (math : Bool) (a b : Text) :
    mathBehind flips math (a ++ b) = mathBehind flips (mathBehind flips math a) b :=
  List.foldl_append

/-- The last character is one at which a sentence ends, if a space comes next. -/
structure Ended (cfg : Config) (flips : Char → Bool) (math : Bool) (s : Text) : Prop where
  outside : mathBehind flips math s = false
  last : ∃ c, s.getLast? = some c ∧ flips c = false ∧ cfg.isLineEnd c = true

/-- Segments as the walk over a content cuts them, the first one from a given place on. -/
inductive Walk (cfg : Config) (flips : Char → Bool) : Bool → List Text → Prop
  | last {math : Bool} {s : Text} (h : Whole cfg flips math s) : Walk cfg flips math [s]
  | step {math : Bool} {s u : Text} {ss : List Text} (h : Whole cfg flips math s)
      (hended : Ended cfg flips math s) (hrest : Walk cfg flips false ((' ' :: u) :: ss)) :
      Walk cfg flips math (s :: (' ' :: u) :: ss)

theorem Whole.left {cfg : Config} {flips : Char → Bool} {math : Bool} {a b : Text}
    (h : Whole cfg flips math (a ++ b)) : Whole cfg flips math a := by
  induction a generalizing math with
  | nil => trivial
  | cons c a ih =>
      obtain ⟨hends, hrest⟩ := h
      refine ⟨?_, ih hrest⟩
      cases a with
      | nil => simp [endsAt]
      | cons d a => exact hends

/-- A character before a segment in which no sentence ends, at a place where none ends either. -/
theorem Walk.consHead {cfg : Config} {flips : Char → Bool} {math : Bool} {c : Char} {t : Text}
    (hends : endsAt cfg flips math c t = false) {ss : List Text} (hss : ss.flatten = t)
    (h : Walk cfg flips (math ^^ flips c) ss) : Walk cfg flips math (Text.consHead c ss) := by
  cases h with
  | @last _ s hs =>
      rw [List.flatten_singleton] at hss
      exact .last ⟨by rw [hss]; exact hends, hs⟩
  | @step _ s u ss hs hended hrest =>
      obtain ⟨d, hd, hflips, hend⟩ := hended.last
      cases s with
      | nil => cases hd
      | cons e s =>
          refine .step ⟨?_, hs⟩ ⟨hended.outside, d, ?_, hflips, hend⟩ hrest
          · rw [← hss] at hends
            exact hends
          · rw [List.getLast?_cons_cons]
            exact hd

namespace Toggles

variable {cfg : Config} {flips : Char → Bool} (hcfg : Toggles cfg flips)

include hcfg

/-- One step of the walk: a sentence ends here, or the walk goes on, inside or outside of inline
math. -/
theorem segmentsFrom_cons (math : Bool) (c : Char) (t : Text) :
    segmentsFrom cfg 0 math (c :: t) =
      if endsAt cfg flips math c t then [c] :: segmentsFrom cfg 0 false t
      else Text.consHead c (segmentsFrom cfg 0 (math ^^ flips c) t) := by
  have hopening := hcfg.opening c t
  have hclosing := hcfg.closing c t
  cases math with
  | true =>
      cases hflips : flips c <;> simp [segmentsFrom, hclosing, hflips, endsAt]
  | false =>
      cases hflips : flips c <;> simp [segmentsFrom, hopening, hflips, endsAt]

/-- No sentence ends at white space. -/
theorem endsAt_space (math : Bool) {c : Char} (hc : Text.isSpace c = true) (t : Text) :
    endsAt cfg flips math c t = false := by
  have hend : cfg.isLineEnd c = false := by
    rw [Bool.eq_false_iff]
    intro hend
    rw [hcfg.lineEnd c hend] at hc
    cases hc
  simp [endsAt, hend]

theorem mathBehind_blank (math : Bool) {w : Text} (hw : w.isBlank = true) :
    mathBehind flips math w = math := by
  induction w with
  | nil => rfl
  | cons c w ih =>
      rw [Text.isBlank_cons, Bool.and_eq_true] at hw
      rw [mathBehind, List.foldl_cons, hcfg.space c hw.1, Bool.xor_false]
      exact ih hw.2

theorem mathBehind_trim (math : Bool) (t : Text) :
    mathBehind flips math t.trim = mathBehind flips math t := by
  obtain ⟨a, b, ha, hb, ht⟩ := Text.exists_trim t
  have hall : mathBehind flips math t = mathBehind flips math (a ++ t.trim ++ b) :=
    congrArg (mathBehind flips math) ht
  rw [hall, mathBehind_append, mathBehind_append, hcfg.mathBehind_blank math ha,
    hcfg.mathBehind_blank _ hb]

theorem mathBehind_collapse (math : Bool) (t : Text) :
    mathBehind flips math t.collapse = mathBehind flips math t := by
  fun_induction Text.collapse t generalizing math with
  | case1 => rfl
  | case2 c => rfl
  | case3 c d t h ih =>
      have hc : flips c = false := hcfg.space c (by rw [h.1]; rfl)
      rw [ih, mathBehind, mathBehind, List.foldl_cons (l := d :: t), hc, Bool.xor_false]
  | case4 c d t h ih => exact ih (math ^^ flips c)

theorem whole_blank_append {math : Bool} {w : Text} (hw : w.isBlank = true) {t : Text}
    (h : Whole cfg flips math (w ++ t)) : Whole cfg flips math t := by
  induction w generalizing math with
  | nil => exact h
  | cons c w ih =>
      rw [Text.isBlank_cons, Bool.and_eq_true] at hw
      have hrest := h.2
      rw [hcfg.space c hw.1, Bool.xor_false] at hrest
      exact ih hw.2 hrest

theorem whole_trim {math : Bool} {t : Text} (h : Whole cfg flips math t) :
    Whole cfg flips math t.trim := by
  obtain ⟨a, b, ha, -, ht⟩ := Text.exists_trim t
  rw [ht] at h
  exact hcfg.whole_blank_append ha h.left

theorem whole_collapse {math : Bool} {t : Text} (h : Whole cfg flips math t) :
    Whole cfg flips math t.collapse := by
  fun_induction Text.collapse t generalizing math with
  | case1 => exact h
  | case2 c => exact h
  | case3 c d t hcd ih =>
      apply ih
      exact hcfg.whole_blank_append (w := [c]) (by rw [hcd.1]; rfl) h
  | case4 c d t hcd ih =>
      refine ⟨?_, ih h.2⟩
      rw [endsAt, Text.head_collapse]
      exact h.1

/-- A sentence that has ended still does so when it is trimmed and collapsed. -/
theorem ended_trim_collapse {math : Bool} {s : Text} (h : Ended cfg flips math s) :
    Ended cfg flips math s.trim.collapse := by
  refine ⟨?_, ?_⟩
  · rw [hcfg.mathBehind_collapse, hcfg.mathBehind_trim]
    exact h.outside
  · obtain ⟨c, hc, hflips, hend⟩ := h.last
    refine ⟨c, ?_, hflips, hend⟩
    have hspace := hcfg.lineEnd c hend
    have hlast : ∀ d ∈ s.getLast?, Text.isSpace d = false := by
      rw [hc]
      rintro d ⟨⟩
      exact hspace
    obtain ⟨a, ha, hs⟩ := Text.exists_trim_left hlast
    have hne : s.trim ≠ [] := by
      intro hnil
      have hblank : s.isBlank = true := (Text.trim_eq_nil_iff s).mp hnil
      rw [List.all_eq_true.mp hblank c (List.mem_of_getLast? hc)] at hspace
      cases hspace
    rw [hs, List.getLast?_append_of_ne_nil a hne] at hc
    rw [Text.getLast_collapse]
    exact hc

/-- The walk over a content cuts it as described. -/
theorem walk_segmentsFrom (math : Bool) (t : Text) :
    Walk cfg flips math (segmentsFrom cfg 0 math t) := by
  induction t generalizing math with
  | nil => exact .last trivial
  | cons c t ih =>
      rw [hcfg.segmentsFrom_cons]
      split
      next hends =>
        simp only [endsAt, Bool.and_eq_true, Bool.not_eq_true', decide_eq_true_eq] at hends
        obtain ⟨⟨⟨hmath, hflips⟩, hend⟩, hspace⟩ := hends
        cases t with
        | nil => cases hspace
        | cons d t =>
            rw [Option.some.inj hspace] at ih ⊢
            have hrest := ih false
            obtain ⟨u, ss, hsegs⟩ := Sentence.segmentsFrom_cons cfg 0 false ' ' t
            rw [hsegs] at hrest ⊢
            refine .step ⟨by simp [endsAt], trivial⟩ ⟨?_, c, rfl, hflips, hend⟩ hrest
            simp [mathBehind, hmath, hflips]
      next hends =>
        exact .consHead (by simpa using hends) (segmentsFrom_flatten cfg 0 _ t) (ih _)

theorem segmentsFrom_whole {math : Bool} {t : Text} (h : Whole cfg flips math t) :
    segmentsFrom cfg 0 math t = [t] := by
  induction t generalizing math with
  | nil => cases math <;> rfl
  | cons c t ih =>
      rw [hcfg.segmentsFrom_cons, h.1, if_neg (by simp), ih h.2]
      rfl

/-- Behind a sentence that has ended, and a space, the walk starts anew. -/
theorem segmentsFrom_append {math : Bool} {s : Text} (h : Whole cfg flips math s)
    (hended : Ended cfg flips math s) (t : Text) :
    segmentsFrom cfg 0 math (s ++ ' ' :: t) = s :: segmentsFrom cfg 0 false (' ' :: t) := by
  induction s generalizing math with
  | nil =>
      obtain ⟨c, hc, -⟩ := hended.last
      cases hc
  | cons c s ih =>
      rw [List.cons_append, hcfg.segmentsFrom_cons]
      cases s with
      | nil =>
          obtain ⟨d, hd, hflips, hend⟩ := hended.last
          obtain rfl : c = d := Option.some.inj hd
          have hmath : math = false := by simpa [mathBehind, hflips] using hended.outside
          have hends : endsAt cfg flips math c (' ' :: t) = true := by
            simp [endsAt, hmath, hflips, hend]
          rw [List.nil_append, hends]
          rfl
      | cons e s =>
          have hends : endsAt cfg flips math c (e :: s ++ ' ' :: t) = false := h.1
          have hrest : Ended cfg flips (math ^^ flips c) (e :: s) := by
            refine ⟨hended.outside, ?_⟩
            simpa only [List.getLast?_cons_cons] using hended.last
          rw [hends, if_neg (by simp), ih h.2 hrest]
          rfl

end Toggles

/-- Texts put together with spaces between them. -/
def spaced (s : Text) (ss : List Text) : Text := s ++ ss.flatMap (' ' :: ·)

/-- The segments of a content, trimmed, collapsed and put together with spaces, are cut as before.
-/
theorem Walk.segmentsFrom_spaced {cfg : Config} {flips : Char → Bool} (hcfg : Toggles cfg flips)
    {math : Bool} {s : Text} {ss : List Text} (h : Walk cfg flips math (s :: ss)) :
    segmentsFrom cfg 0 math (spaced s.trim.collapse (ss.map (·.trim.collapse))) =
      s.trim.collapse :: ss.map fun s => ' ' :: s.trim.collapse := by
  generalize hsegs : s :: ss = segs at h
  induction h generalizing s ss with
  | last h =>
      cases hsegs
      rw [List.map_nil, spaced, List.flatMap_nil, List.append_nil]
      exact hcfg.segmentsFrom_whole (hcfg.whole_collapse (hcfg.whole_trim h))
  | @step math s u ss h hended hrest ih =>
      cases hsegs
      have hwhole := hcfg.whole_collapse (hcfg.whole_trim h)
      have hnext := hcfg.segmentsFrom_append hwhole (hcfg.ended_trim_collapse hended)
        (spaced (Text.trim (' ' :: u)).collapse (ss.map (·.trim.collapse)))
      rw [hcfg.segmentsFrom_cons false ' ', hcfg.endsAt_space false rfl,
        hcfg.space ' ' rfl, Bool.xor_false, ih rfl] at hnext
      exact hnext

theorem sentences_of_not_blank {ss : List Text} (h : ∀ s ∈ ss, s.isBlank = false) :
    sentences ss = ss.map Text.trim := by
  fun_induction sentences ss with
  | case1 => rfl
  | case2 s hs =>
      rw [h s List.mem_cons_self] at hs
      cases hs
  | case3 s hs => rfl
  | case4 s ss hss ih =>
      rw [ih (List.forall_mem_cons.mp h).2]
      rfl

namespace Toggles

variable {cfg : Config} {flips : Char → Bool} (hcfg : Toggles cfg flips)

include hcfg

private theorem segments_not_blank {t : Text} (htrim : t.trim = t) (hblank : t.isBlank = false) :
    ∀ s ∈ segments cfg t, s.isBlank = false := by
  have hcut := segments_cut cfg t
  have hne : t ≠ [] := by
    rintro rfl
    cases hblank
  obtain ⟨init, r, hsegs, hr⟩ := hcut.getLast_not_blank
    (by rwa [segments_flatten]) (by rw [segments_flatten, ← htrim]; exact Text.getLast_trim t)
  have hinit := hcut.not_blank hcfg.lineEnd
  rw [hsegs, List.dropLast_concat] at hinit
  rw [hsegs]
  exact List.forall_mem_append.mpr ⟨hinit, List.forall_mem_singleton.mpr hr⟩

/-- The sentences of a trimmed content, put together with spaces, are its sentences again. -/
theorem sentences_spaced {t : Text} (htrim : t.trim = t) (hblank : t.isBlank = false) :
    ∃ u us, (sentences (segments cfg t)).map Text.collapse = u :: us ∧
      (sentences (segments cfg (spaced u us))).map Text.collapse = u :: us := by
  have hsegs := hcfg.segments_not_blank htrim hblank
  have hwalk := hcfg.walk_segmentsFrom false t
  rw [← segments] at hwalk
  rw [sentences_of_not_blank hsegs, List.map_map]
  cases hsplit : segments cfg t with
  | nil =>
      rw [hsplit] at hwalk
      cases hwalk
  | cons s ss =>
      rw [hsplit] at hwalk hsegs
      obtain ⟨hs, hss⟩ := List.forall_mem_cons.mp hsegs
      have hagain : segments cfg (spaced s.trim.collapse (ss.map (·.trim.collapse))) =
          s.trim.collapse :: ss.map fun s => ' ' :: s.trim.collapse :=
        hwalk.segmentsFrom_spaced hcfg
      have hnot {s : Text} (h : s.isBlank = false) : s.trim.collapse.isBlank = false := by
        rw [Text.isBlank_collapse, Text.isBlank_trim, h]
      have hsame (s : Text) : s.trim.collapse.trim.collapse = s.trim.collapse := by
        rw [Text.trim_collapse (Text.trim_trim s), Text.collapse_collapse]
      have hspace (s : Text) : Text.trim (' ' :: s) = s.trim := by
        simpa using Text.trim_append_blank (a := [' ']) rfl Text.isBlank_nil s
      refine ⟨s.trim.collapse, ss.map (·.trim.collapse), rfl, ?_⟩
      rw [hagain, sentences_of_not_blank, List.map_cons, List.map_cons, hsame, List.map_map,
        List.map_map]
      · congr 1
        apply List.map_congr_left
        intro r _
        change (Text.trim (' ' :: r.trim.collapse)).collapse = r.trim.collapse
        rw [hspace, hsame]
      · refine List.forall_mem_cons.mpr ⟨hnot hs, List.forall_mem_map.mpr ?_⟩
        intro r hr
        rw [Text.isBlank_cons, hnot (hss r hr), Bool.and_false]

end Toggles

end TexReflow.Sentence
