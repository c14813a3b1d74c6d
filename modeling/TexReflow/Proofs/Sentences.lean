import TexReflow.Proofs.Spacing
import TexReflow.Sentence

/-!
# Segments

The walk over a content cuts it into segments without losing a character, and every cut stands
between a line-end character and a space. All that later modules say about sentences rests on
these two facts.
-/

namespace TexReflow

namespace Text

theorem flatten_consHead (c : Char) (rs : List Text) :
    (consHead c rs).flatten = c :: rs.flatten := by
  cases rs <;> rfl

end Text

namespace Sentence

/-- Segments with a line-end character before every cut and a space behind it. -/
inductive Cut (isEnd : Char → Bool) : List Text → Prop
  | last (s : Text) : Cut isEnd [s]
  | step (s : Text) {c : Char} {u : Text} {ss : List Text} (hc : isEnd c = true)
      (h : Cut isEnd ((' ' :: u) :: ss)) : Cut isEnd ((s ++ [c]) :: (' ' :: u) :: ss)

theorem Cut.consHead {isEnd : Char → Bool} {ss : List Text} (h : Cut isEnd ss) (c : Char) :
    Cut isEnd (Text.consHead c ss) := by
  cases h with
  | last s => exact .last (c :: s)
  | step s hd hrest => exact .step (c :: s) hd hrest

theorem segmentsFrom_cons (cfg : Config) (skip : Nat) (math : Bool) (c : Char) (t : Text) :
    ∃ u ss, segmentsFrom cfg skip math (c :: t) = (c :: u) :: ss := by
  have hhead (rs : List Text) : ∃ u ss, Text.consHead c rs = (c :: u) :: ss := by
    cases rs with
    | nil => exact ⟨[], [], rfl⟩
    | cons r rs => exact ⟨r, rs, rfl⟩
  cases skip with
  | succ skip => exact hhead _
  | zero =>
      cases math with
      | true =>
          rw [segmentsFrom]
          split <;> exact hhead _
      | false =>
          rw [segmentsFrom]
          split
          · split
            · exact ⟨[], _, rfl⟩
            · exact hhead _
          · exact hhead _

theorem segmentsFrom_flatten (cfg : Config) (skip : Nat) (math : Bool) (t : Text) :
    (segmentsFrom cfg skip math t).flatten = t := by
  fun_induction segmentsFrom cfg skip math t with
  | case1 => rfl
  | case2 math skip c t ih => rw [Text.flatten_consHead, ih]
  | case3 c t h ih => rw [Text.flatten_consHead, ih]
  | case4 c t n h ih => rw [Text.flatten_consHead, ih]
  | case5 c t h hend ih => rw [List.flatten_cons, ih]; rfl
  | case6 c t h hend ih => rw [Text.flatten_consHead, ih]
  | case7 c t n h ih => rw [Text.flatten_consHead, ih]

theorem segmentsFrom_cut (cfg : Config) (skip : Nat) (math : Bool) (t : Text) :
    Cut cfg.isLineEnd (segmentsFrom cfg skip math t) := by
  fun_induction segmentsFrom cfg skip math t with
  | case1 => exact .last []
  | case2 math skip c t ih => exact ih.consHead c
  | case3 c t h ih => exact ih.consHead c
  | case4 c t n h ih => exact ih.consHead c
  | case5 c t h hend ih =>
      simp only [Bool.and_eq_true, decide_eq_true_eq] at hend
      obtain ⟨hc, hspace⟩ := hend
      cases t with
      | nil => cases hspace
      | cons d t =>
          rw [Option.some.inj hspace] at ih ⊢
          obtain ⟨u, ss, hseg⟩ := segmentsFrom_cons cfg 0 false ' ' t
          rw [hseg] at ih ⊢
          exact .step [] hc ih
  | case6 c t h hend ih => exact ih.consHead c
  | case7 c t n h ih => exact ih.consHead c

/-- The segments of a content make up the content. -/
theorem segments_flatten (cfg : Config) (t : Text) : (segments cfg t).flatten = t :=
  segmentsFrom_flatten cfg 0 false t

theorem segments_cut (cfg : Config) (t : Text) : Cut cfg.isLineEnd (segments cfg t) :=
  segmentsFrom_cut cfg 0 false t

theorem segments_ne_nil (cfg : Config) (t : Text) : segments cfg t ≠ [] := by
  have hcut := segments_cut cfg t
  intro hnil
  rw [hnil] at hcut
  cases hcut

/-- Where white space ends no sentence, only the last segment can be blank. -/
theorem Cut.not_blank {isEnd : Char → Bool} (hend : ∀ c, isEnd c = true → Text.isSpace c = false)
    {ss : List Text} (h : Cut isEnd ss) : ∀ s ∈ ss.dropLast, s.isBlank = false := by
  induction h with
  | last s => simp
  | @step s c u ss hc _ ih =>
      rw [List.dropLast_cons_cons]
      refine List.forall_mem_cons.mpr ⟨?_, ih⟩
      simp [hend c hc]

/-- A line that is not blank is cut into lines that are not blank, and into one at least. -/
theorem split_not_blank {cfg : Config} (hend : ∀ c, cfg.isLineEnd c = true → Text.isSpace c = false)
    (hsep : ∀ s ∈ cfg.separator?, s.isBlank = false) {l : Line} (hl : l.isBlank = false) :
    split cfg l ≠ [] ∧ ∀ q ∈ split cfg l, q.isBlank = false := by
  have hcut := segments_cut cfg l.content
  have hflat := segments_flatten cfg l.content
  rw [split]
  generalize segments cfg l.content = ss at hcut hflat
  have hended : ∀ q ∈ ss.dropLast.flatMap (ended cfg l), q.isBlank = false := by
    intro q hq
    obtain ⟨s, hs, hq⟩ := List.mem_flatMap.mp hq
    rcases List.mem_cons.mp hq with rfl | hq
    · exact (Text.isBlank_trim s).trans (hcut.not_blank hend s hs)
    · rw [Option.mem_toList, Option.map_eq_some_iff] at hq
      obtain ⟨separator, hseparator, rfl⟩ := hq
      exact hsep separator hseparator
  cases hcut with
  | last s =>
      -- The only segment is the content.
      rw [List.flatten_singleton] at hflat
      rw [Line.isBlank, ← hflat] at hl
      simp [hl, Line.isBlank, Line.withContent]
  | @step s c u ss hc hrest =>
      rw [List.dropLast_cons_cons, List.flatMap_cons] at hended ⊢
      split
      next hlast =>
        refine ⟨by simp, List.forall_mem_append.mpr ⟨hended, List.forall_mem_singleton.mpr ?_⟩⟩
        exact (Text.isBlank_trim _).trans (by simpa using hlast)
      next =>
        split
        next hsome =>
          obtain ⟨separator, hseparator⟩ := Option.isSome_iff_exists.mp hsome
          refine ⟨?_, fun q hq => hended q (List.dropLast_subset _ hq)⟩
          simp [ended, hseparator]
        next => exact ⟨by simp [ended], hended⟩

/-- The sentences that segments become: all of them trimmed, the last one unless it is blank. -/
def sentences : List Text → List Text
  | [] => []
  | [s] => if s.isBlank then [] else [s.trim]
  | s :: ss => s.trim :: sentences ss

theorem sentences_cons_cons (s r : Text) (rs : List Text) :
    sentences (s :: r :: rs) = s.trim :: sentences (r :: rs) := rfl

private theorem sentences_eq (ss : List Text) (hne : ss ≠ []) :
    sentences ss = ss.dropLast.map Text.trim ++
      if (ss.getLast?.getD []).isBlank then [] else [(ss.getLast?.getD []).trim] := by
  fun_induction sentences ss with
  | case1 => exact absurd rfl hne
  | case2 s h => simp [h]
  | case3 s h => simp [h]
  | case4 s ss hss ih =>
      cases ss with
      | nil => exact absurd rfl (hss ·)
      | cons r rs =>
          rw [ih (by simp), List.dropLast_cons_cons, List.getLast?_cons_cons]
          rfl

theorem exists_of_mem_sentences {ss : List Text} {t : Text} (h : t ∈ sentences ss) :
    ∃ s ∈ ss, t = s.trim := by
  fun_induction sentences ss with
  | case1 => cases h
  | case2 s hs => cases h
  | case3 s hs => exact ⟨s, List.mem_cons_self, List.mem_singleton.mp h⟩
  | case4 s ss hss ih =>
      rcases List.mem_cons.mp h with rfl | h
      · exact ⟨s, List.mem_cons_self, rfl⟩
      · obtain ⟨r, hr, ht⟩ := ih h
        exact ⟨r, List.mem_cons_of_mem s hr, ht⟩

theorem trim_mem_sentences {ss : List Text} {s : Text} (hs : s ∈ ss) (hblank : s.isBlank = false) :
    s.trim ∈ sentences ss := by
  fun_induction sentences ss with
  | case1 => cases hs
  | case2 r hr =>
      rw [List.mem_singleton.mp hs, hr] at hblank
      cases hblank
  | case3 r hr =>
      rw [List.mem_singleton.mp hs]
      exact List.mem_singleton_self _
  | case4 r rs hrs ih =>
      rcases List.mem_cons.mp hs with rfl | hs
      · exact List.mem_cons_self
      · exact List.mem_cons_of_mem _ (ih hs)

/-- Where white space ends no sentence, no sentence is blank. -/
theorem sentences_not_blank {isEnd : Char → Bool}
    (hend : ∀ c, isEnd c = true → Text.isSpace c = false) {ss : List Text}
    (h : Cut isEnd ss) : ∀ s ∈ sentences ss, s.isBlank = false := by
  induction h with
  | last s =>
      intro t ht
      rw [sentences] at ht
      split at ht
      · cases ht
      next hs =>
        rw [List.mem_singleton.mp ht, Text.isBlank_trim]
        simpa using hs
  | @step s c u ss hc _ ih =>
      intro t ht
      rw [sentences] at ht
      · rcases List.mem_cons.mp ht with rfl | ht
        · rw [Text.isBlank_trim]
          simp [hend c hc]
        · exact ih t ht
      · intro hnil
        cases hnil

/-- Without a separator the sentences of a line are its trimmed segments. -/
theorem split_eq_map (cfg : Config) (l : Line) (hsep : cfg.separator? = none) :
    split cfg l = (sentences (segments cfg l.content)).map l.withContent := by
  have hended (ss : List Text) :
      ss.flatMap (ended cfg l) = (ss.map Text.trim).map l.withContent := by
    rw [List.map_map, List.map_eq_flatMap]
    congr 1
    funext s
    simp [ended, hsep]
  rw [sentences_eq _ (segments_ne_nil cfg _), split, hended, hsep, List.map_append]
  cases ((segments cfg l.content).getLast?.getD []).isBlank with
  | true => simp only [Bool.not_true, Bool.false_eq_true, if_false, Option.isSome_none, if_true,
      List.map_nil, List.append_nil]
  | false => simp only [Bool.not_false, if_true, Bool.false_eq_true, if_false, List.map_cons,
      List.map_nil]

/-- With a separator the same sentences stand with the separator between each two of them. -/
theorem split_eq_intersperse {cfg : Config} (l : Line) {separator : Text}
    (hsep : cfg.separator? = some separator) :
    split cfg l = ((sentences (segments cfg l.content)).map l.withContent).intersperse
      (separatorLine l separator) := by
  have hne := segments_ne_nil cfg l.content
  have hended (s : Text) : ended cfg l s = [l.withContent s.trim, separatorLine l separator] := by
    rw [ended, hsep]
    rfl
  rw [split, hsep]
  generalize segments cfg l.content = ss at hne
  fun_induction sentences ss with
  | case1 => exact absurd rfl hne
  | case2 s hs => simp [hs]
  | case3 s hs => simp [hs]
  | case4 s ss hss ih =>
      -- What follows the first sentence is not empty, unless it is one blank segment.
      obtain ⟨r, rs, rfl⟩ := List.exists_cons_of_ne_nil hss
      have hrest := ih (List.cons_ne_nil r rs)
      cases rs with
      | nil => cases hr : r.isBlank <;> simp [sentences, hended, hr]
      | cons r' rs =>
          rw [sentences_cons_cons, List.map_cons] at hrest
          rw [sentences_cons_cons, List.map_cons, List.map_cons, List.intersperse_cons_cons,
            ← hrest]
          simp only [List.dropLast_cons_cons, List.getLast?_cons_cons, List.flatMap_cons, hended,
            Option.isSome_some, if_true, List.cons_append, List.nil_append]
          split <;> rfl

private theorem mem_or_of_mem_intersperse {α : Type} {x sep : α} {xs : List α}
    (h : x ∈ xs.intersperse sep) : x ∈ xs ∨ x = sep := by
  fun_induction List.intersperse sep xs with
  | case1 => cases h
  | case2 y => exact .inl h
  | case3 y z xs ih =>
      rcases List.mem_cons.mp h with rfl | h
      · exact .inl List.mem_cons_self
      rcases List.mem_cons.mp h with rfl | h
      · exact .inr rfl
      · exact (ih h).imp_left (List.mem_cons_of_mem y)

theorem sublist_intersperse {α : Type} (sep : α) (xs : List α) :
    xs.Sublist (xs.intersperse sep) := by
  fun_induction List.intersperse sep xs with
  | case1 => exact .slnil
  | case2 y => exact List.Sublist.refl _
  | case3 y ys h ih => exact (ih.cons sep).cons_cons y

/-- A line of a cut is a sentence with the marks of the line, or the line of the separator. -/
theorem eq_of_mem_split {cfg : Config} {l q : Line} (h : q ∈ split cfg l) :
    (∃ s ∈ segments cfg l.content, q = l.withContent s.trim) ∨
      ∃ separator, cfg.separator? = some separator ∧ q = separatorLine l separator := by
  have hsentence (h : q ∈ (sentences (segments cfg l.content)).map l.withContent) :
      ∃ s ∈ segments cfg l.content, q = l.withContent s.trim := by
    obtain ⟨t, ht, rfl⟩ := List.mem_map.mp h
    obtain ⟨s, hs, rfl⟩ := exists_of_mem_sentences ht
    exact ⟨s, hs, rfl⟩
  cases hsep : cfg.separator? with
  | none =>
      rw [split_eq_map cfg l hsep] at h
      exact .inl (hsentence h)
  | some separator =>
      rw [split_eq_intersperse l hsep] at h
      exact (mem_or_of_mem_intersperse h).imp hsentence fun hq => ⟨separator, rfl, hq⟩

/-- Every segment that is not blank becomes a line of the cut. -/
theorem withContent_mem_split {cfg : Config} {l : Line} {s : Text}
    (hs : s ∈ segments cfg l.content) (hblank : s.isBlank = false) :
    l.withContent s.trim ∈ split cfg l := by
  have hmem : l.withContent s.trim ∈ (sentences (segments cfg l.content)).map l.withContent :=
    List.mem_map_of_mem (trim_mem_sentences hs hblank)
  cases hsep : cfg.separator? with
  | none => rwa [split_eq_map cfg l hsep]
  | some separator =>
      rw [split_eq_intersperse l hsep]
      exact (sublist_intersperse _ _).subset hmem

/-- A line of a cut has the content of a sentence or of the separator, and the marks of regions. -/
theorem mem_split {cfg : Config} {l q : Line} (h : q ∈ split cfg l) :
    (q.verbatim = l.verbatim ∧ q.math = l.math) ∧
      ((∃ s ∈ segments cfg l.content, q.content = s.trim) ∨ cfg.separator? = some q.content) := by
  rcases eq_of_mem_split h with ⟨s, hs, rfl⟩ | ⟨separator, hsep, rfl⟩
  · exact ⟨⟨rfl, rfl⟩, .inl ⟨s, hs, rfl⟩⟩
  · exact ⟨⟨rfl, rfl⟩, .inr hsep⟩

end Sentence

end TexReflow
