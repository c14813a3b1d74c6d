import TexReflow.Proofs.Settings

/-!
# Settings in several texts

A settings text can be cut at a line feed and read in two steps: the second part is read on top of
what the first part gives. No line looks at the lines before it, except for the number that an error
names. What comes out is the base with the macros of all lines added in order, and every other
setting as the last line that speaks of it says. All errors are errors of the settings, except that
a pattern can be refused.
-/

namespace TexReflow.Config

namespace Error

/-- The number of the line that is named. -/
def line? : Error → Option Nat
  | .missingColon line _ | .unknownKey line _ => some line
  | _ => none

/-- The same error with `n` more lines before it. -/
def later (n : Nat) : Error → Error
  | .missingColon line raw => .missingColon (line + n) raw
  | .unknownKey line key => .unknownKey (line + n) key
  | e => e

theorem later_of_line?_eq_none {e : Error} (h : e.line? = none) (n : Nat) : e.later n = e := by
  cases e with
  | missingColon line raw => cases h
  | unknownKey line key => cases h
  | notBoolean key value => rfl
  | badPattern key pattern cause => rfl
  | badLineEnds entries => rfl
  | refused cause => rfl

/-- Of a message with a line number only the number changes. -/
theorem message_later {e : Error} {line : Nat} (h : e.line? = some line) (n : Nat) :
    ∃ rest, e.message = "line " ++ toString line ++ rest ∧
      (e.later n).message = "line " ++ toString (line + n) ++ rest := by
  cases e with
  | missingColon line raw =>
      cases h
      exact ⟨": missing ':' in " ++ raw.shown, String.append_assoc, String.append_assoc⟩
  | unknownKey line key =>
      cases h
      exact ⟨": unknown key " ++ key.shown, String.append_assoc, String.append_assoc⟩
  | notBoolean key value => cases h
  | badPattern key pattern cause => cases h
  | badLineEnds entries => cases h
  | refused cause => cases h

theorem isReported_later (n : Nat) (e : Error) : (e.later n).isReported = e.isReported := by
  cases e <;> rfl

/-- The error is one of the settings, or one of the given patterns is refused. -/
def Arises (patterns : List Text) (e : Error) : Prop :=
  e.isReported = true ∨
    ∃ t ∈ patterns, ∃ cause, Pattern.parse t = .error (.refused cause) ∧ e = .refused cause

theorem Arises.mono {as bs : List Text} {e : Error} (h : e.Arises as) (hsub : as ⊆ bs) :
    e.Arises bs :=
  h.imp_right fun ⟨t, ht, hcause⟩ => ⟨t, hsub ht, hcause⟩

end Error

/-- A pattern is read, or it is to blame for the error, which names no line. -/
theorem readPattern_error {key t : Text} {e : Error} (h : readPattern key t = .error e) :
    e.line? = none ∧ e.Arises [t] := by
  rw [readPattern] at h
  cases hparse : Pattern.parse t with
  | ok p =>
      rw [hparse] at h
      cases h
  | error cause =>
      rw [hparse] at h
      cases cause with
      | malformed cause =>
          cases h
          exact ⟨rfl, .inl rfl⟩
      | refused cause =>
          cases h
          exact ⟨rfl, .inr ⟨t, List.mem_singleton_self t, cause, hparse, rfl⟩⟩

theorem addBreaks_error {key : Text} {side : Macro.Side} {names : List Text} {cfg : Config}
    {e : Error} (h : addBreaks key side names cfg = .error e) :
    e.line? = none ∧ e.Arises names := by
  induction names generalizing cfg with
  | nil => cases h
  | cons name names ih =>
      rcases bind_eq_error_iff.mp h with hname | ⟨p, -, hnames⟩
      · exact (readPattern_error hname).imp_right (·.mono (by simp))
      · exact (ih hnames).imp_right (·.mono (List.subset_cons_self name names))

/-- The patterns in a written value. -/
def patterns : Key × Text → List Text
  | (.breaks _, t) => values t
  | (.mark _, t) => if t.isEmpty then [] else [t]
  | _ => []

/-- What is wrong with a value does not depend on the line it stands in. -/
theorem set_error {cfg : Config} {key value : Text} {what : Key} {e : Error}
    (h : cfg.set key what value = .error e) :
    e.line? = none ∧ e.Arises (patterns (what, value)) := by
  cases what with
  | breaks side => exact addBreaks_error h
  | switch which =>
      rw [set] at h
      split at h <;> cases h
      exact ⟨rfl, .inl rfl⟩
  | mark which =>
      rw [set] at h
      split at h
      · cases h
      next hempty =>
        rcases bind_eq_error_iff.mp h with hvalue | ⟨p, -, hset⟩
        · rw [patterns, if_neg hempty]
          exact readPattern_error hvalue
        · cases hset
  | lineEnds =>
      rw [set] at h
      split at h <;> cases h
      exact ⟨rfl, .inl rfl⟩
  | separator => cases h

theorem readLine_later (number n : Nat) (raw : Text) (cfg : Config) :
    cfg.readLine (number + n) raw = (cfg.readLine number raw).mapError (Error.later n) := by
  rw [readLine, readLine]
  split
  · rfl
  · split
    · rfl
    · split
      · rfl
      next key value _ _ what _ =>
        cases hset : cfg.set key.trim what value.trim with
        | ok out => rfl
        | error e => exact congrArg _ (Error.later_of_line?_eq_none (set_error hset).1 n).symm

theorem readLines_later (number n : Nat) (raws : List Text) (cfg : Config) :
    readLines (number + n) raws cfg = (readLines number raws cfg).mapError (Error.later n) := by
  induction raws generalizing number cfg with
  | nil => rfl
  | cons raw raws ih =>
      rw [readLines, readLines, readLine_later]
      cases cfg.readLine number raw with
      | error e => rfl
      | ok mid =>
          have hnext : number + n + 1 = number + 1 + n := by omega
          rw [hnext]
          exact ih (number + 1) mid

theorem readLines_append (number : Nat) (as bs : List Text) (cfg : Config) :
    readLines number (as ++ bs) cfg =
      readLines number as cfg >>= readLines (number + as.length) bs := by
  induction as generalizing number cfg with
  | nil => rfl
  | cons a as ih =>
      rw [List.cons_append, readLines, readLines, List.length_cons]
      cases cfg.readLine number a with
      | error e => rfl
      | ok mid =>
          have hnext : number + (as.length + 1) = number + 1 + as.length := by omega
          rw [hnext]
          exact ih (number + 1) mid

/-- A line feed behind a settings text says nothing. -/
theorem readLines_lineFeed (text : Text) (cfg : Config) :
    readLines 1 (text ++ ['\n']).lines cfg = read text cfg := by
  rw [read]
  rcases text.lines_append_lineFeed with h | h
  · rw [h]
  · rw [h, readLines_append]
    cases readLines 1 text.lines cfg with
    | error e => rfl
    | ok mid => rfl

theorem read_eq_bind (first second : Text) (base : Config) :
    read (first ++ '\n' :: second) base = read first base >>= fun mid =>
      (read second mid).mapError (Error.later (first ++ ['\n']).lines.length) := by
  rw [read, Text.lines, Text.rowsBy_append_cons_lineFeed rfl, readLines_append,
    ← readLines_lineFeed first base]
  congr 1
  funext mid
  exact readLines_later 1 _ _ mid

/-- What a line says: a key, and the value for it. A line that says nothing, or that cannot be read,
gives none. -/
def said? (raw : Text) : Option (Key × Text) :=
  if raw.trim.isEmpty || raw.trim.head? = some '#' then none
  else (Text.cutAt? ':' raw.trim).bind fun (key, value) =>
    (keys.lookup key.trim).map fun what => (what, value.trim)

theorem filterMap_said?_cons (raw : Text) (raws : List Text) :
    (raw :: raws).filterMap said? = (said? raw).toList ++ raws.filterMap said? := by
  rw [List.filterMap_cons]
  cases said? raw <;> rfl

/-- What the lines of a settings text say, in order. -/
def said (text : Text) : List (Key × Text) := text.lines.filterMap said?

theorem said_append (first second : Text) :
    said (first ++ '\n' :: second) = said first ++ said second := by
  have hfirst : (first ++ ['\n']).lines.filterMap said? = said first := by
    rcases first.lines_append_lineFeed with h | h
    · rw [h, said]
    · rw [h, List.filterMap_append]
      exact List.append_nil _
  rw [said, Text.lines, Text.rowsBy_append_cons_lineFeed rfl, List.filterMap_append]
  exact congrArg (· ++ said second) hfirst

def switch (cfg : Config) : Switch → Bool
  | .joinLines => cfg.joinLines
  | .splitSentences => cfg.splitSentences

/-- The keys whose values add up. -/
def Key.adds : Key → Bool
  | .breaks _ => true
  | _ => false

/-- What a key stands for in settings. -/
inductive Value where
  | breaks (bs : List Macro.Break)
  | switch (on : Bool)
  | mark (p : Option Pattern)
  | lineEnds (entries : List Text)
  | separator (t : Option Text)
deriving DecidableEq

def value (cfg : Config) : Key → Value
  | .breaks _ => .breaks cfg.breaks
  | .switch which => .switch (cfg.switch which)
  | .mark which => .mark (cfg.mark? which)
  | .lineEnds => .lineEnds cfg.lineEnds
  | .separator => .separator cfg.separator

/-- What a written value sets a key to. An empty one takes a mark or the separator away. -/
def written? : Key → Text → Option Value
  | .breaks _, _ => none
  | .switch _, t => (switchValue? t).map .switch
  | .mark _, t =>
    if t.isEmpty then some (.mark none)
    else (Pattern.parse t).toOption.map fun p => .mark (some p)
  | .lineEnds, t => some (.lineEnds (values t))
  | .separator, t => some (.separator (if t.isEmpty then none else some t))

/-- The breaks that a written value adds. -/
def added : Key × Text → List Macro.Break
  | (.breaks side, t) => (values t).map (⟨·, side⟩)
  | _ => []

/-- Settings that say what the lines say on top of a base: breaks are added in order, and of several
values for another key the last one counts. -/
structure Over (base : Config) (lines : List (Key × Text)) (cfg : Config) : Prop where
  newline : cfg.newline = base.newline
  breaks : cfg.breaks = base.breaks ++ lines.flatMap added
  last : ∀ k, k.adds = false → ∀ t ∈ lines.reverse.lookup k, written? k t = some (cfg.value k)
  kept : ∀ k, k.adds = false → lines.reverse.lookup k = none → cfg.value k = base.value k

namespace Over

theorem refl (cfg : Config) : Over cfg [] cfg :=
  ⟨rfl, (List.append_nil _).symm, fun _ _ _ ht => (by cases ht), fun _ _ _ => rfl⟩

/-- What is said later goes on top of what was said before. -/
theorem trans {base mid cfg : Config} {as bs : List (Key × Text)} (h : Over base as mid)
    (h' : Over mid bs cfg) : Over base (as ++ bs) cfg := by
  refine ⟨h'.newline.trans h.newline, ?_, ?_, ?_⟩
  · rw [h'.breaks, h.breaks, List.append_assoc, List.flatMap_append]
  · intro k hk t ht
    rw [List.reverse_append, List.lookup_append, Option.mem_def, Option.or_eq_some_iff] at ht
    rcases ht with ht | ⟨hnone, ht⟩
    · exact h'.last k hk t ht
    · rw [h'.kept k hk hnone]
      exact h.last k hk t ht
  · intro k hk hnone
    rw [List.reverse_append, List.lookup_append, Option.or_eq_none_iff] at hnone
    exact (h'.kept k hk hnone.1).trans (h.kept k hk hnone.2)

theorem of_set {cfg out : Config} {what : Key} {t : Text} (hnewline : out.newline = cfg.newline)
    (hbreaks : out.breaks = cfg.breaks ++ added (what, t))
    (hwritten : what.adds = false → written? what t = some (out.value what))
    (hkept : ∀ k, k ≠ what → k.adds = false → out.value k = cfg.value k) :
    Over cfg [(what, t)] out := by
  refine ⟨hnewline, by simpa using hbreaks, ?_, ?_⟩
  · intro k hk u hu
    by_cases hwhat : k = what
    · subst hwhat
      simp only [List.reverse_singleton, List.lookup_cons_self, Option.mem_some_iff] at hu
      subst hu
      exact hwritten hk
    · simp [List.lookup_cons, beq_false_of_ne hwhat] at hu
  · intro k hk hnone
    apply hkept k _ hk
    intro hwhat
    simp [hwhat] at hnone

end Over

theorem value_setSwitch_of_ne (cfg : Config) {which : Switch} {k : Key} (h : k ≠ .switch which)
    (on : Bool) : (cfg.setSwitch which on).value k = cfg.value k := by
  cases k with
  | breaks side => cases which <;> rfl
  | switch other => cases which <;> cases other <;> first | rfl | exact absurd rfl h
  | mark other => cases which <;> rfl
  | lineEnds => cases which <;> rfl
  | separator => cases which <;> rfl

theorem value_setMark_of_ne (cfg : Config) {which : Mark} {k : Key} (h : k ≠ .mark which)
    (p : Option Pattern) : (cfg.setMark which p).value k = cfg.value k := by
  cases k with
  | breaks side => cases which <;> rfl
  | switch other => cases which <;> rfl
  | mark other => cases which <;> cases other <;> first | rfl | exact absurd rfl h
  | lineEnds => cases which <;> rfl
  | separator => cases which <;> rfl

/-- A mark is set to what is given, and nothing but the marks changes. -/
theorem setMark_spec (cfg : Config) (which : Mark) (p : Option Pattern) :
    (cfg.setMark which p).mark? which = p ∧ (cfg.setMark which p).newline = cfg.newline ∧
      (cfg.setMark which p).breaks = cfg.breaks := by
  cases which <;> exact ⟨rfl, rfl, rfl⟩

/-- Each setting sets its own key. -/
theorem over_of_set {cfg out : Config} {key t : Text} {what : Key}
    (h : cfg.set key what t = .ok out) : Over cfg [(what, t)] out := by
  cases what with
  | breaks side =>
      obtain ⟨rfl, -⟩ := addBreaks_ok h
      refine .of_set rfl rfl nofun ?_
      intro k _ hk
      cases k with
      | breaks side => cases hk
      | switch which | mark which | lineEnds | separator => rfl
  | switch which =>
      rw [set] at h
      split at h
      next on hon =>
        cases h
        refine .of_set ?_ ?_ (fun _ => ?_) fun k hk _ => cfg.value_setSwitch_of_ne hk on
        · cases which <;> rfl
        · cases which <;> exact (List.append_nil _).symm
        · rw [written?, hon]
          cases which <;> rfl
      next => cases h
  | mark which =>
      have hmark (p : Option Pattern) (hwritten : written? (.mark which) t = some (.mark p)) :
          Over cfg [(.mark which, t)] (cfg.setMark which p) := by
        obtain ⟨hmark, hnewline, hbreaks⟩ := cfg.setMark_spec which p
        refine .of_set hnewline (hbreaks.trans (List.append_nil _).symm) (fun _ => ?_)
          fun k hk _ => cfg.value_setMark_of_ne hk p
        rw [hwritten, value, hmark]
      rw [set] at h
      split at h
      next hempty =>
        cases h
        exact hmark none (if_pos hempty)
      next hempty =>
        obtain ⟨p, hp, h⟩ := bind_eq_ok_iff.mp h
        cases h
        apply hmark (some p)
        rw [written?, if_neg hempty, mapError_eq_ok_iff.mp hp]
        rfl
  | lineEnds =>
      rw [set] at h
      split at h
      · cases h
        refine .of_set rfl (List.append_nil _).symm (fun _ => rfl) ?_
        intro k hk _
        cases k with
        | breaks side | switch which | mark which | separator => rfl
        | lineEnds => exact absurd rfl hk
      · cases h
  | separator =>
      cases h
      refine .of_set rfl (List.append_nil _).symm (fun _ => rfl) ?_
      intro k hk _
      cases k with
      | breaks side | switch which | mark which | lineEnds => rfl
      | separator => exact absurd rfl hk

theorem over_of_readLine {number : Nat} {raw : Text} {cfg out : Config}
    (h : cfg.readLine number raw = .ok out) : Over cfg (said? raw).toList out := by
  rw [readLine] at h
  rw [said?]
  split at h
  next hquiet =>
    cases h
    rw [if_pos hquiet]
    exact .refl cfg
  next hquiet =>
    rw [if_neg hquiet]
    split at h
    · cases h
    next key value hcut =>
      split at h
      · cases h
      next what hwhat =>
        simp only [hcut, Option.bind_some, hwhat, Option.map_some, Option.toList_some]
        exact over_of_set h

theorem over_of_readLines {number : Nat} {raws : List Text} {cfg out : Config}
    (h : readLines number raws cfg = .ok out) : Over cfg (raws.filterMap said?) out := by
  induction raws generalizing number cfg with
  | nil =>
      cases h
      exact .refl out
  | cons raw raws ih =>
      obtain ⟨mid, hmid, h⟩ := bind_eq_ok_iff.mp h
      rw [filterMap_said?_cons]
      exact (over_of_readLine hmid).trans (ih h)

theorem readLine_error {number : Nat} {raw : Text} {cfg : Config} {e : Error}
    (h : cfg.readLine number raw = .error e) : e.Arises ((said? raw).toList.flatMap patterns) := by
  rw [readLine] at h
  rw [said?]
  split at h
  · cases h
  next hquiet =>
    rw [if_neg hquiet]
    split at h
    · cases h
      exact .inl rfl
    next key value hcut =>
      split at h
      · cases h
        exact .inl rfl
      next what hwhat =>
        simp only [hcut, Option.bind_some, hwhat, Option.map_some, Option.toList_some]
        exact (set_error h).2.mono (by simp)

/-- An error comes from one of the lines. -/
theorem readLines_error {number : Nat} {raws : List Text} {cfg : Config} {e : Error}
    (h : readLines number raws cfg = .error e) :
    e.Arises ((raws.filterMap said?).flatMap patterns) := by
  induction raws generalizing number cfg with
  | nil => cases h
  | cons raw raws ih =>
      rw [filterMap_said?_cons, List.flatMap_append]
      rcases bind_eq_error_iff.mp h with hraw | ⟨mid, -, hraws⟩
      · exact (readLine_error hraw).mono (List.subset_append_left _ _)
      · exact (ih hraws).mono (List.subset_append_right _ _)

/-- Two settings texts with a line feed between them are read as one on top of the other. If the
first one fails, so does the whole, with the same error. If only the second one fails, the error is
the same, except that a line number counts the lines before, too. Errors are errors of the settings,
unless one of the patterns in them is refused. -/
theorem read_append (first second : Text) (base : Config) :
    let before := (first ++ ['\n']).lines
    let whole := first ++ '\n' :: second
    whole.lines = before ++ second.lines ∧
      (∀ cfg, read whole base = .ok cfg ↔
        ∃ mid, read first base = .ok mid ∧ read second mid = .ok cfg) ∧
      (∀ cfg, read whole base = .ok cfg → Over base (said first ++ said second) cfg) ∧
      (∀ e, read first base = .error e → read whole base = .error e) ∧
      (∀ mid e, read first base = .ok mid → read second mid = .error e →
        read whole base = .error (e.later before.length) ∧
        (e.later before.length).isReported = e.isReported ∧
        (e.line? = none → (e.later before.length).message = e.message) ∧
        ∀ line ∈ e.line?, ∃ rest, e.message = "line " ++ toString line ++ rest ∧
          (e.later before.length).message = "line " ++ toString (line + before.length) ++ rest) ∧
      ∀ e, read whole base = .error e →
        e.Arises ((said first ++ said second).flatMap patterns) := by
  intro before whole
  have hread := read_eq_bind first second base
  refine ⟨Text.rowsBy_append_cons_lineFeed rfl first second, ?_, ?_, ?_, ?_, ?_⟩
  · intro cfg
    rw [hread, bind_eq_ok_iff]
    simp only [mapError_eq_ok_iff]
  · intro cfg h
    rw [← said_append]
    exact over_of_readLines h
  · intro e he
    rw [hread, he]
    rfl
  · intro mid e hmid he
    refine ⟨?_, e.isReported_later _, ?_, ?_⟩
    · rw [hread, hmid]
      exact congrArg (Except.mapError _) he
    · intro hline
      rw [Error.later_of_line?_eq_none hline]
    · intro line hline
      exact Error.message_later hline _
  · intro e he
    rw [← said_append]
    exact readLines_error he

/-- The second text takes back what the first one has set and adds to its macros. The first one ends
in a carriage return, so that the line feed between the two starts no line of its own. -/
theorem read_append_return :
    let first : Text := "break_after_macro: a\nend_protect: x\nremove_newlines: no\r".toList
    let second : Text := "break_before_macro: b, c\nend_protect:\nremove_newlines: Yes".toList
    let bad : Text := "# d\nend_protect".toList
    let base : Config := { newline := ['\r', '\n'], separator := some ['%'] }
    let mid : Config :=
      { base with
        breaks := [⟨['a'], .after⟩]
        verbatim := ⟨none, (Pattern.parse ['x']).toOption⟩
        joinLines := false }
    let cfg : Config :=
      { base with breaks := [⟨['a'], .after⟩, ⟨['b'], .before⟩, ⟨['c'], .before⟩] }
    let e (line : Nat) := Error.missingColon line "end_protect".toList
    (read first base = .ok mid ∧ read second mid = .ok cfg ∧
        read (first ++ '\n' :: second) base = .ok cfg ∧
        Over base (said first ++ said second) cfg) ∧
      (read bad base = .error (e 2) ∧ read (bad ++ '\n' :: first) base = .error (e 2) ∧
        (e 2).Arises ((said bad ++ said first).flatMap patterns)) ∧
      read bad mid = .error (e 2) ∧ read (first ++ '\n' :: bad) base = .error (e 5) := by
  intro first second bad base mid cfg e
  have hfirst : read first base = .ok mid := by decide +kernel
  have hsecond : read second mid = .ok cfg := by decide +kernel
  have hbase : read bad base = .error (e 2) := by decide +kernel
  have hmid : read bad mid = .error (e 2) := by decide +kernel
  obtain ⟨-, hok, hover, -⟩ := read_append first second base
  obtain ⟨-, -, -, hfails, -, harises⟩ := read_append bad first base
  obtain ⟨-, -, -, -, hlater, -⟩ := read_append first bad base
  have hboth := (hok cfg).mpr ⟨mid, hfirst, hsecond⟩
  have hbad := hfails _ hbase
  refine ⟨⟨hfirst, hsecond, hboth, hover cfg hboth⟩, ⟨hbase, hbad, harises _ hbad⟩, hmid, ?_⟩
  exact (hlater mid _ hfirst hmid).1

/-- A number of copies that is too large makes a text fail, alone and before another one, and the
error is none of the settings. -/
theorem read_refused_copies :
    let first : Text := "begin_protect: a{4294967295}".toList
    let second : Text := "remove_newlines: no".toList
    ∃ e, read first {} = .error e ∧ read (first ++ '\n' :: second) {} = .error e ∧
      e.isReported = false ∧ e.message = "the repetition number is too large" := by
  intro first second
  exact ⟨.refused .manyCopies, by decide +kernel, by decide +kernel, rfl, rfl⟩

end TexReflow.Config
