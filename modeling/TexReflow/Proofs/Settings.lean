import TexReflow.Config.Read
import TexReflow.Proofs.Passes
import TexReflow.Proofs.Rows
import TexReflow.Proofs.Spacing

/-!
# Settings that are read

A settings text sets one thing after the other, from trimmed values that hold no line break. What
holds of the settings at the start and is kept by each such step holds of the settings read.
-/

namespace TexReflow

theorem Text.cutAt?_some {c : Char} {t a b : Text} (h : Text.cutAt? c t = some (a, b)) :
    t = a ++ c :: b := by
  induction t generalizing a with
  | nil => cases h
  | cons d t ih =>
      rw [Text.cutAt?] at h
      split at h
      next hd =>
        cases h
        rw [hd]
        rfl
      next =>
        obtain ⟨⟨a', b'⟩, hcut, hab⟩ := Option.map_eq_some_iff.mp h
        cases hab
        rw [ih hcut]
        rfl

namespace Config

theorem addBreaks_ok {key : Text} {side : Macro.Side} {names : List Text} {cfg out : Config}
    (h : addBreaks key side names cfg = .ok out) :
    out = { cfg with breaks := cfg.breaks ++ names.map (⟨·, side⟩) } ∧
      ∀ name ∈ names, ∃ p, Pattern.parse name = .ok p := by
  induction names generalizing cfg with
  | nil =>
      cases h
      simp
  | cons name names ih =>
      obtain ⟨p, hp, h⟩ := bind_eq_ok_iff.mp h
      obtain ⟨hout, hnames⟩ := ih h
      refine ⟨?_, List.forall_mem_cons.mpr ⟨⟨p, mapError_eq_ok_iff.mp hp⟩, hnames⟩⟩
      rw [hout]
      simp

theorem isBlank_of_mem_values {value v : Text} (h : v ∈ values value) : v.isBlank = false := by
  obtain ⟨hv, hkeep⟩ := List.mem_filter.mp h
  obtain ⟨s, -, rfl⟩ := List.mem_map.mp hv
  rwa [Bool.not_eq_true', Text.isEmpty_trim, ← Text.isBlank_trim] at hkeep

section

variable {P : Config → Prop}

private theorem readLine_induct {number : Nat} {raw : Text} {cfg out : Config}
    (hraw : ∀ c ∈ raw, Text.isLineBreak c = false) (hcfg : P cfg)
    (hset : ∀ {key what value}, (∀ c ∈ value, Text.isLineBreak c = false) →
      value.trim = value → cfg.set key what value = .ok out → P out)
    (h : cfg.readLine number raw = .ok out) : P out := by
  rw [readLine] at h
  split at h
  · cases h
    exact hcfg
  · split at h
    · cases h
    next key value hcut =>
      split at h
      · cases h
      next what hwhat =>
        refine hset ?_ (Text.trim_trim value) h
        intro c hc
        apply hraw
        apply Text.mem_of_mem_trim
        rw [Text.cutAt?_some hcut]
        simp [Text.mem_of_mem_trim hc]

/-- What each setting keeps, a settings text keeps. -/
theorem read_induct {text : Text} {base cfg : Config} (hbase : P base)
    (hset : ∀ {before after key what value}, P before →
      (∀ c ∈ value, Text.isLineBreak c = false) → value.trim = value →
        before.set key what value = .ok after → P after)
    (h : read text base = .ok cfg) : P cfg := by
  have hlines := Text.not_isBreak_of_mem_rowsBy Text.isLineBreak text
  rw [read, Text.lines] at h
  generalize Text.rowsBy Text.isLineBreak text = raws at h hlines
  generalize 1 = number at h
  induction raws generalizing number base with
  | nil =>
      cases h
      exact hbase
  | cons raw raws ih =>
      obtain ⟨hraw, hraws⟩ := List.forall_mem_cons.mp hlines
      obtain ⟨mid, hmid, h⟩ := bind_eq_ok_iff.mp h
      exact ih (readLine_induct hraw hbase (hset hbase) hmid) hraws _ h

end

/-- Settings as they are read: a line ends in a line feed, the separator is not blank and has one
row, no blank text ends a sentence, and the names of macros are patterns. -/
structure Loaded (cfg : Config) : Prop where
  newline : cfg.newline = ['\n']
  separator : ∀ s ∈ cfg.separator, s.isBlank = false ∧ ∀ c ∈ s, Text.isLineBreak c = false
  lineEnds : ∀ e ∈ cfg.lineEnds, e.isBlank = false
  breaks : ∀ b ∈ cfg.breaks, ∃ p, Pattern.parse b.name = .ok p

private theorem Loaded.set {cfg out : Config} {key value : Text} {what : Key} (hcfg : Loaded cfg)
    (hvalue : ∀ c ∈ value, Text.isLineBreak c = false) (htrim : value.trim = value)
    (h : cfg.set key what value = .ok out) : Loaded out := by
  obtain ⟨hnewline, hseparator, hends, hbreaks⟩ := hcfg
  cases what with
  | breaks side =>
      obtain ⟨rfl, hnames⟩ := addBreaks_ok h
      refine ⟨hnewline, hseparator, hends, List.forall_mem_append.mpr ⟨hbreaks, ?_⟩⟩
      exact List.forall_mem_map.mpr hnames
  | switch which =>
      rw [Config.set] at h
      split at h
      · cases h
        cases which <;> exact ⟨hnewline, hseparator, hends, hbreaks⟩
      · cases h
  | mark which =>
      rw [Config.set] at h
      split at h
      · cases h
        cases which <;> exact ⟨hnewline, hseparator, hends, hbreaks⟩
      · obtain ⟨p, -, h⟩ := bind_eq_ok_iff.mp h
        cases h
        cases which <;> exact ⟨hnewline, hseparator, hends, hbreaks⟩
  | lineEnds =>
      rw [Config.set] at h
      split at h
      · cases h
        exact ⟨hnewline, hseparator, fun e he => isBlank_of_mem_values he, hbreaks⟩
      · cases h
  | separator =>
      cases h
      refine ⟨hnewline, ?_, hends, hbreaks⟩
      intro s hs
      split at hs
      · cases hs
      next hne =>
        cases hs
        rw [← htrim, Text.isEmpty_trim, Bool.not_eq_true] at hne
        exact ⟨hne, hvalue⟩

theorem loaded_of_read {text : Text} {cfg : Config} (h : read text {} = .ok cfg) : Loaded cfg := by
  refine read_induct (P := Loaded) ⟨rfl, ?_, ?_, ?_⟩ Loaded.set h
  · simp
  · decide
  · simp

namespace Loaded

variable {cfg : Config} (hcfg : Loaded cfg)

include hcfg

/-- White space ends no sentence. -/
theorem isSpace_of_isLineEnd {c : Char} (h : cfg.isLineEnd c = true) : Text.isSpace c = false := by
  have hblank := hcfg.lineEnds [c] (List.contains_iff_mem.mp h)
  simpa using hblank

end Loaded

theorem separator_of_separator? {cfg : Config} {s : Text} (h : cfg.separator? = some s) :
    cfg.separator = some s := by
  rw [separator?] at h
  split at h
  · cases h
  · exact h

/-- A settings text leaves the line end as it is and sets separators of one row. -/
theorem read_newline_separator {text : Text} {cfg : Config} (h : read text {} = .ok cfg) :
    cfg.newline = ['\n'] ∧ ∀ s ∈ cfg.separator?, ∀ c ∈ s, Text.isRowBreak c = false := by
  have hcfg := loaded_of_read h
  refine ⟨hcfg.newline, ?_⟩
  intro s hs c hc
  have hline := (hcfg.separator s (separator_of_separator? hs)).2 c hc
  rw [Bool.eq_false_iff]
  intro hbreak
  simp only [Text.isRowBreak, Bool.or_eq_true, beq_iff_eq] at hbreak
  rcases hbreak with rfl | rfl <;> cases hline

end Config

end TexReflow
