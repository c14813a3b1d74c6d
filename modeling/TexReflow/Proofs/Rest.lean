import Mathlib.Data.List.Forall2
import TexReflow.Proofs.Breaks
import TexReflow.Proofs.Passes
import TexReflow.Proofs.Sentences

/-!
# Lines at rest

When breaking at macros and cutting into sentences leave a line as it is. Neither takes a line
away, and a trimmed line that becomes one line has not changed, so it is enough to count lines.
-/

namespace TexReflow

namespace Text

private theorem splitOn_singleton (x : Char) (t : Text) : splitOn [x] t = t.splitOnP (· == x) := by
  induction t with
  | nil => rfl
  | cons c t ih =>
      rw [List.splitOnP_cons_eq_if_modifyHead, ← ih, splitOn, splitFrom]
      by_cases hc : c = x
      · simp [hc, splitOn]
      · have hcx : x ≠ c := fun h => hc h.symm
        cases h : splitOn [x] t with
        | nil =>
            rw [ih] at h
            exact absurd h (List.splitOnP_ne_nil _ _)
        | cons r rs =>
            rw [splitOn] at h
            simp [List.isPrefixOf, hc, hcx, h, consHead]

/-- The pieces between the occurrences of a character, trimmed and without blank ones. -/
def parts (x : Char) (t : Text) : List Text :=
  ((splitOn [x] t).map trim).filter (!·.isEmpty)

theorem parts_append_cons (x : Char) (a b : Text) :
    parts x (a ++ x :: b) = parts x a ++ parts x b := by
  have hsplit : splitOn [x] (a ++ x :: b) = splitOn [x] a ++ splitOn [x] b := by
    rw [splitOn_singleton, splitOn_singleton, splitOn_singleton,
      List.splitOnP_append_cons a b (by simp)]
  rw [parts, hsplit, List.map_append, List.filter_append]
  rfl

theorem parts_of_not_mem {x : Char} {t : Text} (h : x ∉ t) :
    parts x t = if t.isBlank then [] else [t.trim] := by
  have hsplit : splitOn [x] t = [t] := by
    rw [splitOn_singleton, List.splitOnP_eq_singleton]
    intro c hc
    simpa using fun hcx : c = x => h (hcx ▸ hc)
  rw [parts, hsplit, List.map_singleton, List.filter_singleton]
  cases ht : t.isBlank <;> simp [ht]

theorem mem_of_mem_parts {x c : Char} {t r : Text} (h : r ∈ parts x t) (hc : c ∈ r) :
    c ∈ t ∧ c ≠ x := by
  by_cases hmem : x ∈ t
  · obtain ⟨a, b, rfl, ha⟩ := List.eq_append_cons_of_mem hmem
    rw [parts_append_cons] at h
    rcases List.mem_append.mp h with h | h
    · obtain ⟨hca, hne⟩ := mem_of_mem_parts h hc
      exact ⟨List.mem_append_left _ hca, hne⟩
    · obtain ⟨hcb, hne⟩ := mem_of_mem_parts h hc
      exact ⟨List.mem_append_right _ (List.mem_cons_of_mem x hcb), hne⟩
  · rw [parts_of_not_mem hmem] at h
    split at h
    · cases h
    · rw [List.mem_singleton.mp h] at hc
      have hct := mem_of_mem_trim hc
      exact ⟨hct, fun hcx => hmem (hcx ▸ hct)⟩
termination_by t.length
decreasing_by
  all_goals
    subst_vars
    simp only [List.length_append, List.length_cons]
    omega

theorem parts_eq_nil_iff {x : Char} (hx : isSpace x = true) (t : Text) :
    parts x t = [] ↔ t.isBlank = true := by
  by_cases hmem : x ∈ t
  · obtain ⟨a, b, rfl, ha⟩ := List.eq_append_cons_of_mem hmem
    rw [parts_append_cons, List.append_eq_nil_iff, parts_of_not_mem ha, parts_eq_nil_iff hx b]
    simp [hx]
  · rw [parts_of_not_mem hmem]
    simp
termination_by t.length
decreasing_by
  subst_vars
  simp only [List.length_append, List.length_cons]
  omega

/-- There is one part exactly if the trimmed text has no break in it. -/
theorem parts_eq_singleton_iff {x : Char} (hx : isSpace x = true) (t r : Text) :
    parts x t = [r] ↔ t.trim = r ∧ r ≠ [] ∧ x ∉ r := by
  by_cases hmem : x ∈ t
  -- A blank text before the first break adds nothing; any other one has to be the only part.
  · obtain ⟨a, b, rfl, ha⟩ := List.eq_append_cons_of_mem hmem
    have htrim : x ∉ trim a := fun h => ha (mem_of_mem_trim h)
    rw [parts_append_cons, parts_of_not_mem ha]
    cases hblank : isBlank a with
    | true =>
        have hdrop : trim (a ++ x :: b) = trim b := by
          have h := trim_append_blank (a := a ++ [x]) (b := []) (by simp [hblank, hx]) rfl b
          simpa using h
        rw [hdrop, if_pos rfl, List.nil_append]
        exact parts_eq_singleton_iff hx b r
    | false =>
        rw [if_neg (by simp), List.singleton_append, List.cons.injEq, parts_eq_nil_iff hx]
        cases hb : isBlank b with
        | true =>
            have hdrop : trim (a ++ x :: b) = trim a :=
              trim_append_blank (a := []) (b := x :: b) rfl (by simp [hb, hx]) a
            rw [hdrop]
            constructor
            · intro h
              obtain ⟨rfl, -⟩ := h
              exact ⟨rfl, by simp [trim_eq_nil_iff, hblank], htrim⟩
            · intro h
              obtain ⟨rfl, -⟩ := h
              exact ⟨rfl, rfl⟩
        | false =>
            simp only [Bool.false_eq_true, and_false, false_iff]
            intro h
            obtain ⟨rfl, -, hnot⟩ := h
            exact hnot (mem_trim_append_cons hblank hb x)
  · have htrim : x ∉ t.trim := fun h => hmem (mem_of_mem_trim h)
    rw [parts_of_not_mem hmem]
    have hblank := trim_eq_nil_iff t
    cases ht : t.isBlank with
    | true =>
        rw [hblank.mpr ht, if_pos rfl]
        constructor
        · intro h
          cases h
        · intro h
          obtain ⟨rfl, hne, -⟩ := h
          exact absurd rfl hne
    | false =>
        simp only [Bool.false_eq_true, if_false, List.cons.injEq, and_true]
        constructor
        · intro h
          subst h
          exact ⟨rfl, by simp [hblank, ht], htrim⟩
        · intro h
          obtain ⟨rfl, -⟩ := h
          rfl
termination_by t.length
decreasing_by
  subst_vars
  simp only [List.length_append, List.length_cons]
  omega

/-- A text that breaks were put into, but only at its ends, is still the same text. -/
theorem trim_eq_of_padded {x : Char} {t u : Text}
    (h : Padded (· = x) t u) (ht : x ∉ t) (hu : x ∉ u.trim) : u.trim = t.trim := by
  obtain ⟨a, b, ha, hb, hab⟩ := exists_trim u
  have hkeep {w : Text} (hw : x ∉ w) : w.filter (· != x) = w := by
    rw [List.filter_eq_self]
    intro c hc
    simpa using fun hcx : c = x => hw (hcx ▸ hc)
  have hblank {w : Text} (hw : w.isBlank = true) : isBlank (w.filter (· != x)) = true :=
    List.all_eq_true.mpr fun c hc => List.all_eq_true.mp hw c (List.mem_of_mem_filter hc)
  have hsame : a.filter (· != x) ++ u.trim ++ b.filter (· != x) = t := by
    have hfilter := h.filter_eq (q := (· != x)) (by simp)
    rw [hab, List.filter_append, List.filter_append, hkeep hu, hkeep ht] at hfilter
    exact hfilter
  rw [← hsame, trim_append_blank (hblank ha) (hblank hb), trim_trim]

end Text

private theorem flatMap_eq_self_of_length {α : Type} {f : α → List α} {xs : List α}
    (h : ∀ x ∈ xs, f x ≠ [] ∧ ∀ y, f x = [y] → y = x) :
    xs.length ≤ (xs.flatMap f).length ∧
      ((xs.flatMap f).length = xs.length → ∀ x ∈ xs, f x = [x]) := by
  induction xs with
  | nil => simp
  | cons x xs ih =>
      obtain ⟨⟨hne, hone⟩, hxs⟩ := List.forall_mem_cons.mp h
      obtain ⟨hle, hself⟩ := ih hxs
      have hpos : 0 < (f x).length := List.length_pos_iff.mpr hne
      rw [List.flatMap_cons, List.length_append, List.length_cons]
      refine ⟨by omega, ?_⟩
      intro hlen
      obtain ⟨y, hy⟩ := List.length_eq_one_iff.mp (show (f x).length = 1 by omega)
      have hx : f x = [x] := by rw [hy, hone y hy]
      exact List.forall_mem_cons.mpr ⟨hx, hself (by omega)⟩

private theorem flatMap_eq_self {α : Type} {f : α → List α} {xs : List α}
    (h : ∀ x ∈ xs, f x = [x]) : xs.flatMap f = xs := by
  induction xs with
  | nil => rfl
  | cons x xs ih =>
      obtain ⟨hx, hxs⟩ := List.forall_mem_cons.mp h
      rw [List.flatMap_cons, hx, ih hxs]
      rfl

/-- A line as breaking finds it in a run: trimmed unless it is verbatim, without a line feed, and
marked as a comment exactly if it is one. -/
structure Line.Ready (l : Line) : Prop where
  trimmed : l.verbatim = false → l.content.trim = l.content
  row : '\n' ∉ l.content
  comment : l.comment = Comment.isWhole l.content

namespace Macro

/-- The lines that breaking makes of a line. -/
def broken (rules : List Rule) (newline : Text) (l : Line) : List Line :=
  if l.isBlank || l.verbatim || l.comment then [l]
  else (pieces rules newline l.content).map (pieceOf l)

theorem breakLines_eq (rules : List Rule) {newline : Text} (hne : newline ≠ []) (ls : List Line) :
    breakLines rules newline ls = .ok (ls.flatMap (broken rules newline)) := by
  have hline (l : Line) : breakLine rules newline l = .ok (broken rules newline l) := by
    rw [breakLine, broken, cutLines]
    split
    · rfl
    · rw [if_neg (by simpa using hne)]
      rfl
  have hlines : ls.mapM (breakLine rules newline) = .ok (ls.map (broken rules newline)) := by
    rw [mapM_eq_ok_iff, List.forall₂_map_right_iff, List.forall₂_same]
    intro l _
    exact hline l
  rw [breakLines, hlines, List.flatMap_def]
  rfl

private theorem broken_ready (rules : List Rule) {l : Line} (hl : l.Ready) :
    broken rules ['\n'] l ≠ [] ∧ ∀ q, broken rules ['\n'] l = [q] → q = l := by
  rw [broken]
  split
  · simp
  next hskip =>
    simp only [Bool.not_eq_true, Bool.or_eq_false_iff] at hskip
    have hpadded : Text.Padded (· = '\n') l.content (insertBreaks rules ['\n'] l.content) :=
      insertBreaks_padded rules (by simp) l.content
    constructor
    · rw [ne_eq, List.map_eq_nil_iff]
      intro hnil
      have hall := List.all_eq_true.mp ((Text.parts_eq_nil_iff rfl _).mp hnil)
      have hblank : l.isBlank = true := List.all_eq_true.mpr fun c hc => hall c (hpadded.mem hc)
      rw [hskip.1.1] at hblank
      cases hblank
    · intro q hq
      obtain ⟨r, hr, rfl⟩ := List.map_eq_singleton_iff.mp hq
      obtain ⟨htrim, -, hrow⟩ := (Text.parts_eq_singleton_iff rfl _ r).mp hr
      have hsame := Text.trim_eq_of_padded hpadded hl.row (htrim ▸ hrow)
      rw [htrim, hl.trimmed hskip.1.2] at hsame
      rw [pieceOf, hsame, ← hl.comment]

/-- Lines that were broken could be broken again. -/
theorem ready_of_mem_breakLines (rules : List Rule) {ls out : List Line} (hls : ∀ l ∈ ls, l.Ready)
    (h : breakLines rules ['\n'] ls = .ok out) : ∀ q ∈ out, q.Ready := by
  rw [breakLines_eq rules (by simp)] at h
  cases h
  intro q hq
  obtain ⟨l, hl, hq⟩ := List.mem_flatMap.mp hq
  rw [broken] at hq
  split at hq
  · rw [List.mem_singleton.mp hq]
    exact hls l hl
  · obtain ⟨t, ht, rfl⟩ := List.mem_map.mp hq
    obtain ⟨s, -, rfl, -⟩ := mem_pieces ht
    exact ⟨fun _ => Text.trim_trim s, fun hrow => (Text.mem_of_mem_parts ht hrow).2 rfl, rfl⟩

/-- Breaking adds lines or changes nothing. -/
theorem length_breakLines (rules : List Rule) {ls out : List Line} (hls : ∀ l ∈ ls, l.Ready)
    (h : breakLines rules ['\n'] ls = .ok out) :
    ls.length ≤ out.length ∧ (out.length = ls.length → out = ls) := by
  rw [breakLines_eq rules (by simp)] at h
  cases h
  obtain ⟨hle, hself⟩ := flatMap_eq_self_of_length fun l hl => broken_ready rules (hls l hl)
  exact ⟨hle, fun hlen => flatMap_eq_self (hself hlen)⟩

theorem broken_eq_self_iff (rules : List Rule) {l : Line} (hl : l.Ready) :
    broken rules ['\n'] l = [l] ↔ l.verbatim = true ∨ l.isBlank = true ∨
      Comment.isWhole l.content = true ∨
        (insertBreaks rules ['\n'] l.content).trim = l.content := by
  rw [broken, ← hl.comment]
  split
  next hskip =>
    simp only [Bool.or_eq_true] at hskip
    simp only [true_iff]
    tauto
  next hskip =>
    simp only [Bool.not_eq_true, Bool.or_eq_false_iff] at hskip
    have hne : l.content ≠ [] := by
      intro hnil
      rw [Line.isBlank, hnil] at hskip
      cases hskip.1.1
    have hself : (pieces rules ['\n'] l.content).map (pieceOf l) = [l] ↔
        pieces rules ['\n'] l.content = [l.content] := by
      constructor
      · intro h
        obtain ⟨r, hr, hlr⟩ := List.map_eq_singleton_iff.mp h
        rw [hr, ← hlr, pieceOf]
      · intro h
        rw [h, List.map_singleton, pieceOf, ← hl.comment]
    rw [hself, hskip.1.1, hskip.1.2, hskip.2]
    simp only [Bool.false_eq_true, false_or]
    exact (Text.parts_eq_singleton_iff rfl _ _).trans ⟨fun h => h.1, fun h => ⟨h, hne, hl.row⟩⟩

/-- Breaking leaves lines alone if the breaks go to the ends of a line. -/
theorem breakLines_eq_self_iff (rules : List Rule) {ls : List Line} (hls : ∀ l ∈ ls, l.Ready) :
    breakLines rules ['\n'] ls = .ok ls ↔ ∀ l ∈ ls, l.verbatim = true ∨ l.isBlank = true ∨
      Comment.isWhole l.content = true ∨
        (insertBreaks rules ['\n'] l.content).trim = l.content := by
  rw [breakLines_eq rules (by simp), Except.ok.injEq]
  constructor
  · intro h l hl
    obtain ⟨-, hself⟩ := flatMap_eq_self_of_length fun l hl => broken_ready rules (hls l hl)
    exact (broken_eq_self_iff rules (hls l hl)).mp (hself (by rw [h]) l hl)
  · intro h
    exact flatMap_eq_self fun l hl => (broken_eq_self_iff rules (hls l hl)).mpr (h l hl)

end Macro

namespace Sentence

theorem Cut.getLast_not_blank {isEnd : Char → Bool} {ss : List Text} (h : Cut isEnd ss)
    (hne : ss.flatten ≠ []) (hlast : ∀ c ∈ ss.flatten.getLast?, Text.isSpace c = false) :
    ∃ init r, ss = init ++ [r] ∧ r.isBlank = false := by
  induction h with
  | last s =>
      refine ⟨[], s, rfl, ?_⟩
      rw [List.flatten_singleton] at hne hlast
      rw [Bool.eq_false_iff]
      intro hblank
      have hc := hlast _ (List.getLast?_eq_some_getLast hne)
      rw [List.all_eq_true.mp hblank _ (List.getLast_mem hne)] at hc
      cases hc
  | @step s c u ss hc _ ih =>
      have hrest : ((' ' :: u) :: ss).flatten ≠ [] := by simp
      rw [List.flatten_cons, List.getLast?_append_of_ne_nil _ hrest] at hlast
      obtain ⟨init, r, hr, hblank⟩ := ih hrest hlast
      exact ⟨(s ++ [c]) :: init, r, by rw [hr]; rfl, hblank⟩

/-- A trimmed line ends in a sentence that is not blank. -/
private theorem split_eq_append (cfg : Config) {l : Line} (hblank : l.isBlank = false)
    (htrim : l.content.trim = l.content) :
    ∃ init r, segments cfg l.content = init ++ [r] ∧
      split cfg l = init.flatMap (ended cfg l) ++ [l.withContent r.trim] := by
  have hne : l.content ≠ [] := by
    intro hnil
    rw [Line.isBlank, hnil] at hblank
    cases hblank
  have hflat := segments_flatten cfg l.content
  obtain ⟨init, r, hsegs, hr⟩ := (segments_cut cfg l.content).getLast_not_blank
    (by rwa [hflat]) (by rw [hflat, ← htrim]; exact Text.getLast_trim _)
  refine ⟨init, r, hsegs, ?_⟩
  rw [split, hsegs]
  simp [hr]

private theorem flatMap_ended_eq_nil_iff (cfg : Config) (l : Line) (ss : List Text) :
    ss.flatMap (ended cfg l) = [] ↔ ss = [] := by
  cases ss <;> simp [ended]

private theorem segments_of_split_eq (cfg : Config) {l q : Line} (hblank : l.isBlank = false)
    (htrim : l.content.trim = l.content) (h : split cfg l = [q]) :
    segments cfg l.content = [l.content] := by
  obtain ⟨init, r, hsegs, hsplit⟩ := split_eq_append cfg hblank htrim
  rw [hsplit, List.append_eq_singleton_iff] at h
  have hinit : init = [] := by
    rcases h with ⟨hnil, -⟩ | ⟨-, hnil⟩
    · exact (flatMap_ended_eq_nil_iff cfg l init).mp hnil
    · cases hnil
  have hflat := segments_flatten cfg l.content
  rw [hsegs, hinit, List.nil_append, List.flatten_singleton] at hflat
  rw [hsegs, hinit, hflat]
  rfl

private theorem split_eq_of_segments (cfg : Config) {l : Line} (hblank : l.isBlank = false)
    (htrim : l.content.trim = l.content) (h : segments cfg l.content = [l.content]) :
    split cfg l = [l] := by
  obtain ⟨init, r, hsegs, hsplit⟩ := split_eq_append cfg hblank htrim
  rw [h] at hsegs
  obtain ⟨hinit, hr⟩ := List.append_eq_singleton_iff.mp hsegs.symm |>.resolve_right (by simp)
  rw [hsplit, hinit, ← (List.cons.inj hr).1.symm, htrim]
  rfl

section

variable (cfg : Config) {ls : List Line}
  (hls : ∀ l ∈ ls, l.verbatim = false → l.content.trim = l.content)

include hls

private theorem cut_trimmed : ∀ l ∈ ls, (if skips l then [l] else split cfg l) ≠ [] ∧
    ∀ q, (if skips l then [l] else split cfg l) = [q] → q = l := by
  intro l hl
  split
  · simp
  next hskip =>
    simp only [skips, Bool.not_eq_true, Bool.or_eq_false_iff] at hskip
    obtain ⟨⟨⟨hverbatim, -⟩, hblank⟩, -⟩ := hskip
    have htrim := hls l hl hverbatim
    obtain ⟨init, r, -, hsplit⟩ := split_eq_append cfg hblank htrim
    refine ⟨by simp [hsplit], ?_⟩
    intro q hq
    have hself := split_eq_of_segments cfg hblank htrim (segments_of_split_eq cfg hblank htrim hq)
    rw [hself] at hq
    exact (List.cons.inj hq).1.symm

/-- Cutting into sentences adds lines or changes nothing. -/
theorem length_splitAll :
    ls.length ≤ (splitAll cfg ls).length ∧
      ((splitAll cfg ls).length = ls.length → splitAll cfg ls = ls) := by
  obtain ⟨hle, hself⟩ := flatMap_eq_self_of_length (cut_trimmed cfg hls)
  exact ⟨hle, fun hlen => flatMap_eq_self (hself hlen)⟩

/-- Cutting leaves lines alone if none of them that is looked at has a sentence end in it. -/
theorem splitAll_eq_self_iff :
    splitAll cfg ls = ls ↔ ∀ l ∈ ls, skips l = true ∨ segments cfg l.content = [l.content] := by
  constructor
  · intro h l hl
    obtain ⟨-, hself⟩ := flatMap_eq_self_of_length (cut_trimmed cfg hls)
    have hcut := hself (congrArg List.length h) l hl
    cases hskip : skips l with
    | true => exact .inl rfl
    | false =>
        rw [hskip, if_neg (by simp)] at hcut
        simp only [skips, Bool.or_eq_false_iff] at hskip
        exact .inr (segments_of_split_eq cfg hskip.1.2 (hls l hl hskip.1.1.1) hcut)
  · intro h
    apply flatMap_eq_self
    intro l hl
    cases hskip : skips l with
    | true => rfl
    | false =>
        have hsegs := (h l hl).resolve_left (by simp [hskip])
        simp only [skips, Bool.or_eq_false_iff] at hskip
        exact split_eq_of_segments cfg hskip.1.2 (hls l hl hskip.1.1.1) hsegs

end

end Sentence

end TexReflow
