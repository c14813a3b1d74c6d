import TexReflow.Macro.Break
import TexReflow.Proofs.Comments
import TexReflow.Proofs.Words

/-!
# Inserted breaks

The invocations that a rule finds stand in the text one behind the other, so putting them back with
line breaks changes nothing but the breaks. Cutting at the breaks then loses the breaks only.
-/

namespace TexReflow

namespace Text

/-- The second text is the first one with characters satisfying `p` put in. -/
inductive Padded (p : Char → Prop) : Text → Text → Prop
  | nil : Padded p [] []
  | keep (c : Char) {t u : Text} (h : Padded p t u) : Padded p (c :: t) (c :: u)
  | gap {c : Char} {t u : Text} (hc : p c) (h : Padded p t u) : Padded p t (c :: u)

namespace Padded

variable {p : Char → Prop}

theorem refl (t : Text) : Padded p t t := by
  induction t with
  | nil => exact .nil
  | cons c t ih => exact .keep c ih

theorem append {a a' b b' : Text} (ha : Padded p a a') (hb : Padded p b b') :
    Padded p (a ++ b) (a' ++ b') := by
  induction ha with
  | nil => exact hb
  | keep c _ ih => exact .keep c ih
  | gap hc _ ih => exact .gap hc ih

theorem trans {t u v : Text} (h : Padded p t u) (h' : Padded p u v) : Padded p t v := by
  induction h' generalizing t with
  | nil => exact h
  | keep c _ ih =>
      cases h with
      | keep _ h => exact .keep c (ih h)
      | gap hc h => exact .gap hc (ih h)
  | gap hc _ ih => exact .gap hc (ih h)

theorem of_forall {w : Text} (hw : ∀ c ∈ w, p c) : Padded p [] w := by
  induction w with
  | nil => exact .nil
  | cons c w ih => exact .gap (hw c (by simp)) (ih fun d hd => hw d (by simp [hd]))

theorem mem {t u : Text} (h : Padded p t u) {c : Char} (hc : c ∈ t) : c ∈ u := by
  induction h with
  | nil => exact hc
  | keep d _ ih =>
      rcases List.mem_cons.mp hc with rfl | hc
      · exact List.mem_cons_self
      · exact List.mem_cons_of_mem d (ih hc)
  | gap _ _ ih => exact List.mem_cons_of_mem _ (ih hc)

theorem mem_or {t u : Text} (h : Padded p t u) {c : Char} (hc : c ∈ u) : c ∈ t ∨ p c := by
  induction h with
  | nil => exact .inl hc
  | keep d _ ih =>
      rcases List.mem_cons.mp hc with rfl | hc
      · exact .inl List.mem_cons_self
      · exact (ih hc).imp_left (List.mem_cons_of_mem d)
  | gap hd _ ih =>
      rcases List.mem_cons.mp hc with rfl | hc
      · exact .inr hd
      · exact ih hc

/-- The last character is the same or one that was put in. -/
theorem getLast {t u : Text} (h : Padded p t u) :
    u.getLast? = t.getLast? ∨ ∃ c, u.getLast? = some c ∧ p c := by
  induction h with
  | nil => exact .inl rfl
  | keep c _ ih =>
      rw [List.getLast?_cons, List.getLast?_cons]
      rcases ih with hsame | ⟨d, hd, hpd⟩
      · exact .inl (by rw [hsame])
      · exact .inr ⟨d, by rw [hd]; rfl, hpd⟩
  | @gap c t u hc _ ih =>
      rw [List.getLast?_cons]
      rcases ih with hsame | ⟨d, hd, hpd⟩
      · rw [hsame]
        cases t.getLast? with
        | none => exact .inr ⟨c, rfl, hc⟩
        | some d => exact .inl rfl
      · exact .inr ⟨d, by rw [hd]; rfl, hpd⟩

/-- Without the characters that may be put in, the two texts are the same. -/
theorem filter_eq {t u : Text} (h : Padded p t u) {q : Char → Bool}
    (hq : ∀ c, p c → q c = false) : u.filter q = t.filter q := by
  induction h with
  | nil => rfl
  | keep c _ ih => rw [List.filter_cons, List.filter_cons, ih]
  | gap hc _ ih =>
      rw [List.filter_cons, hq _ hc, ih]
      rfl

end Padded

private theorem words_append_padded (a : Text) {t u : Text}
    (h : Padded (isSpace · = true) t u) : CutInto (words (a ++ t)) (words (a ++ u)) := by
  induction h generalizing a with
  | nil => exact .refl _
  | keep c _ ih =>
      have hstep := ih (a ++ [c])
      rwa [List.append_assoc, List.append_assoc] at hstep
  | @gap c t u hc _ ih =>
      rw [words_append_cons a u hc]
      exact (words_append a t).trans ((CutInto.refl _).append (ih []))

/-- White space put into a text can only cut its words. -/
theorem words_padded {t u : Text} (h : Padded (isSpace · = true) t u) :
    CutInto (words t) (words u) := words_append_padded [] h

theorem splitFrom_ne_nil (sep : Text) (n : Nat) (t : Text) : splitFrom sep n t ≠ [] := by
  fun_induction splitFrom sep n t with
  | case1 => simp
  | case2 n c t ih => exact ih
  | case3 c t h ih => simp
  | case4 c t h ih => cases splitFrom sep 0 t <;> simp [consHead]

theorem intercalate_consHead (sep : Text) (c : Char) {rs : List Text} (hne : rs ≠ []) :
    sep.intercalate (consHead c rs) = c :: sep.intercalate rs := by
  cases rs with
  | nil => exact absurd rfl hne
  | cons r rs =>
      cases rs with
      | nil => simp [consHead]
      | cons s rs => simp [consHead, List.intercalate_cons_cons]

private theorem intercalate_splitFrom {sep : Text} (hsep : sep ≠ []) (n : Nat) (t : Text) :
    sep.intercalate (splitFrom sep n t) = t.drop n := by
  fun_induction splitFrom sep n t with
  | case1 n => simp
  | case2 n c t ih => rw [ih, List.drop_succ_cons]
  | case3 c t h ih =>
      obtain ⟨rest, hrest⟩ := List.isPrefixOf_iff_prefix.mp h
      rw [List.intercalate_cons_of_ne_nil (splitFrom_ne_nil _ _ _), ih, ← hrest]
      cases sep with
      | nil => exact absurd rfl hsep
      | cons d sep =>
          rw [List.cons_append] at hrest
          rw [← (List.cons.inj hrest).2]
          simp
  | case4 c t h ih =>
      rw [intercalate_consHead sep c (splitFrom_ne_nil _ _ _), ih]
      rfl

/-- The pieces with the separator between them make up the text. -/
theorem intercalate_splitOn {sep : Text} (hsep : sep ≠ []) (t : Text) :
    sep.intercalate (splitOn sep t) = t := intercalate_splitFrom hsep 0 t

theorem words_intercalate {gap : Text} (hne : gap ≠ []) (hgap : gap.isBlank = true)
    (ps : List Text) : words (gap.intercalate ps) = ps.flatMap words := by
  induction ps with
  | nil => rfl
  | cons q ps ih =>
      cases ps with
      | nil => simp
      | cons r ps =>
          rw [List.intercalate_cons_cons, List.append_assoc, words_append_gap _ _ hne hgap, ih]
          rfl

end Text

namespace Macro

namespace Invocation

/-- The part of the text that an invocation takes. -/
def text (m : Invocation) : Text := m.lead ++ '\\' :: (m.name ++ m.args)

theorem stop_eq (m : Invocation) : m.stop = m.start + m.text.length := by
  simp only [stop, nameEnd, backslash, text, List.length_append, List.length_cons]
  omega

/-- Invocations that stand in a text, the first character of which has offset `i`, one behind the
other. -/
inductive LaidOut : Nat → Text → List Invocation → Prop
  | nil (i : Nat) (t : Text) : LaidOut i t []
  | cons {i : Nat} (gap : Text) {m : Invocation} {rest : Text} {ms : List Invocation}
      (hstart : m.start = i + gap.length) (h : LaidOut m.stop rest ms) :
      LaidOut i (gap ++ (m.text ++ rest)) (m :: ms)

theorem LaidOut.extend {i : Nat} {t : Text} {ms : List Invocation} (gap : Text)
    (h : LaidOut (i + gap.length) t ms) : LaidOut i (gap ++ t) ms := by
  cases h with
  | nil => exact .nil i (gap ++ t)
  | cons gap' hstart hrest =>
      rw [← List.append_assoc]
      refine .cons (gap ++ gap') ?_ hrest
      rw [hstart, List.length_append]
      omega

theorem LaidOut.filter {i : Nat} {t : Text} {ms : List Invocation} (h : LaidOut i t ms)
    (q : Invocation → Bool) : LaidOut i t (ms.filter q) := by
  induction h with
  | nil i t => exact .nil i t
  | @cons i gap m rest ms hstart _ ih =>
      rw [List.filter_cons]
      split
      · exact .cons gap hstart ih
      · rw [← List.append_assoc]
        apply LaidOut.extend
        rwa [List.length_append, ← Nat.add_assoc, ← hstart, ← stop_eq]

theorem render_padded {p : Char → Prop} (side : Side) {newline : Text} (hp : ∀ c ∈ newline, p c)
    (m : Invocation) : Text.Padded p m.text (m.render side newline) := by
  have hgap (b : Bool) : Text.Padded p [] (if b then newline else []) := by
    cases b with
    | true => exact .of_forall hp
    | false => exact .nil
  have h := (((Text.Padded.refl m.lead).append (hgap side.leads)).append
    (.refl ('\\' :: (m.name ++ m.args)))).append (hgap side.follows)
  rwa [List.append_nil, List.append_nil] at h

end Invocation

/-- A run of groups lies inside of the text. -/
theorem argumentsLength_le (t : Text) : argumentsLength t ≤ t.length := by
  have hfrom (skip : Nat) : argumentsFrom skip t ≤ t.length := by
    fun_induction argumentsFrom skip t with
    | case1 => exact Nat.le_refl 0
    | case2 skip c t ih => exact Nat.succ_le_succ ih
    | case3 => exact Nat.zero_le _
    | case4 c t n hn ih => exact Nat.succ_le_succ ih
  exact hfrom 0

namespace Rule

/-- What an invocation found at a backslash looks like. -/
theorem invocation?_some {r : Rule} {free : Bool} {i : Nat} {before behind : Text}
    {c : Char} {m : Invocation} (h : r.invocation? free i before c behind = some m) :
    lead? free before = some m.lead ∧ m.start = i - m.lead.length ∧
      c :: behind = '\\' :: (m.name ++ m.args ++ behind.drop (m.name.length + m.args.length)) := by
  rw [invocation?] at h
  split at h
  · cases h
  next hc =>
    have hslash : c = '\\' := by simpa using hc
    simp only [Option.bind_eq_bind, Option.bind_eq_some_iff, Option.pure_def,
      Option.some.injEq] at h
    obtain ⟨lead, hlead, n, -, rfl⟩ := h
    refine ⟨hlead, rfl, ?_⟩
    have hname : behind.take n ++ behind.drop n = behind := List.take_append_drop n behind
    generalize hk : argumentsLength (behind.drop n) = k
    have hargs : (behind.drop n).take k ++ (behind.drop n).drop k = behind.drop n :=
      List.take_append_drop k _
    have hall : behind.take n ++ (behind.drop n).take k ++ (behind.drop n).drop k = behind := by
      rw [List.append_assoc, hargs, hname]
    have hrest : behind.drop ((behind.take n).length + ((behind.drop n).take k).length) =
        (behind.drop n).drop k := by
      have hdrop := congrArg (List.drop (behind.take n ++ (behind.drop n).take k).length) hall
      rw [List.drop_left, List.length_append] at hdrop
      exact hdrop.symm
    rw [hslash, hrest, hall]

private theorem lead?_false {before lead : Text} (h : lead? false before = some lead) :
    lead = [] := by
  cases before with
  | nil => exact (Option.some.inj h).symm
  | cons c before => simp [lead?] at h

private theorem lead?_true {before lead : Text} (h : lead? true before = some lead) :
    lead = before.take 1 := by
  cases before with
  | nil => exact (Option.some.inj h).symm
  | cons c before =>
      rw [lead?] at h
      split at h
      · exact (Option.some.inj h).symm
      · cases h

/-- With a claimed character before it, the search goes on where the last invocation stops; with a
free one it can go back by that character. -/
private theorem invocationsFrom_laidOut (r : Rule) (i : Nat) (before after : Text)
    (hi : before.length = i) :
    (∀ skip, Invocation.LaidOut (i + skip) (after.drop skip)
      (r.invocationsFrom skip false i before after)) ∧
    Invocation.LaidOut (i - (before.take 1).length) (before.take 1 ++ after)
      (r.invocationsFrom 0 true i before after) := by
  induction after generalizing i before with
  | nil =>
      constructor
      · intro skip
        cases skip <;> exact .nil _ _
      · exact .nil _ _
  | cons c t ih =>
      obtain ⟨hclaimed, hfree⟩ := ih (i + 1) (c :: before) (by simp [hi])
      have hpass : Invocation.LaidOut i (c :: t)
          (r.invocationsFrom 0 true (i + 1) (c :: before) t) := hfree
      -- The lead is what the search may go back by.
      have hfound {free : Bool} {m : Invocation} (hm : r.invocation? free i before c t = some m)
          (hlead : m.lead.length ≤ i) : Invocation.LaidOut (i - m.lead.length) (m.lead ++ c :: t)
          (m :: r.invocationsFrom (m.name.length + m.args.length) false (i + 1) (c :: before)
            t) := by
        obtain ⟨-, hstart, htext⟩ := invocation?_some hm
        have hstop : m.stop = i + 1 + (m.name.length + m.args.length) := by
          rw [Invocation.stop_eq, hstart]
          simp only [Invocation.text, List.length_append, List.length_cons]
          omega
        have hrest := hclaimed (m.name.length + m.args.length)
        rw [← hstop] at hrest
        have hcons := Invocation.LaidOut.cons [] (i := i - m.lead.length) hstart hrest
        rwa [List.nil_append, Invocation.text, List.append_assoc, List.cons_append,
          ← htext] at hcons
      constructor
      · intro skip
        cases skip with
        | succ skip =>
            have h := hclaimed skip
            rwa [Nat.add_assoc, Nat.add_comm 1 skip] at h
        | zero =>
            rw [invocationsFrom]
            split
            next m hm =>
              have hnil := lead?_false (invocation?_some hm).1
              have h := hfound hm (by simp [hnil])
              rwa [hnil] at h
            next hm => exact hpass
      · rw [invocationsFrom]
        split
        next m hm =>
          have htake := lead?_true (invocation?_some hm).1
          have h := hfound hm (by rw [htake, ← hi]; exact List.length_take_le' 1 before)
          rwa [htake] at h
        next hm =>
          apply Invocation.LaidOut.extend
          have hle : (before.take 1).length ≤ i := by rw [← hi]; exact List.length_take_le' 1 before
          rwa [Nat.sub_add_cancel hle]

/-- The invocations of a rule stand in the text one behind the other. -/
theorem invocations_laidOut (r : Rule) (t : Text) : Invocation.LaidOut 0 t (r.invocations t) :=
  (invocationsFrom_laidOut r 0 [] t rfl).2

/-- Each invocation of a rule was found at some backslash of the text. -/
theorem exists_of_mem_invocationsFrom {r : Rule} {skip : Nat} {free : Bool} {i : Nat}
    {before after : Text} {m : Invocation} (h : m ∈ r.invocationsFrom skip free i before after)
    (hi : before.length = i) :
    ∃ free before' c behind, before'.reverse ++ c :: behind = before.reverse ++ after ∧
      r.invocation? free before'.length before' c behind = some m := by
  induction after generalizing skip free i before with
  | nil => cases skip <;> cases h
  | cons c t ih =>
      have hnext {skip : Nat} {free : Bool}
          (h : m ∈ r.invocationsFrom skip free (i + 1) (c :: before) t) :
          ∃ free before' d behind, before'.reverse ++ d :: behind = before.reverse ++ c :: t ∧
            r.invocation? free before'.length before' d behind = some m := by
        obtain ⟨free, before', d, behind, htext, hfound⟩ := ih h (by rw [List.length_cons, hi])
        exact ⟨free, before', d, behind, by simpa using htext, hfound⟩
      cases skip with
      | succ skip => exact hnext h
      | zero =>
          rw [invocationsFrom] at h
          split at h
          next found hfound =>
            rcases List.mem_cons.mp h with rfl | h
            · exact ⟨free, before, c, t, rfl, hi ▸ hfound⟩
            · exact hnext h
          next => exact hnext h

private theorem lead?_length_le {free : Bool} {before lead : Text}
    (h : lead? free before = some lead) : lead.length ≤ before.length := by
  cases free with
  | true =>
      rw [lead?_true h]
      exact List.length_take_le' 1 before
  | false =>
      rw [lead?_false h]
      exact Nat.zero_le _

theorem invocation?_backslash {r : Rule} {free : Bool} {before behind : Text} {c : Char}
    {m : Invocation} (h : r.invocation? free before.length before c behind = some m) :
    m.backslash = before.length := by
  obtain ⟨hlead, hstart, -⟩ := invocation?_some h
  rw [Invocation.backslash, hstart]
  exact Nat.sub_add_cancel (lead?_length_le hlead)

/-- The arguments of an invocation are the run of groups behind its name. -/
theorem invocation?_args {r : Rule} {free : Bool} {i : Nat} {before behind : Text} {c : Char}
    {m : Invocation} (h : r.invocation? free i before c behind = some m) :
    m.args = (behind.drop m.name.length).take (argumentsLength (behind.drop m.name.length)) := by
  rw [invocation?] at h
  split at h
  · cases h
  · simp only [Option.bind_eq_bind, Option.bind_eq_some_iff, Option.pure_def,
      Option.some.injEq] at h
    obtain ⟨lead, -, n, -, rfl⟩ := h
    have hdrop : behind.drop (behind.take n).length = behind.drop n := by
      rw [List.length_take]
      rcases Nat.le_total n behind.length with hn | hn
      · rw [Nat.min_eq_left hn]
      · rw [Nat.min_eq_right hn, List.drop_length, List.drop_of_length_le hn]
    simp only [hdrop]

/-- Where the name of an invocation ends there is a place in the text, and the run of groups from
there on ends where the invocation does. -/
theorem argumentsEnd_nameEnd {r : Rule} {t : Text} {m : Invocation} (h : m ∈ r.invocations t) :
    argumentsEnd t m.nameEnd = .ok m.stop := by
  obtain ⟨free, before, c, behind, htext, hfound⟩ := exists_of_mem_invocationsFrom h rfl
  have hbackslash := invocation?_backslash hfound
  have hrest : t.drop m.nameEnd = behind.drop m.name.length := by
    have hlen : m.nameEnd = (before.reverse ++ [c]).length + m.name.length := by
      rw [Invocation.nameEnd, hbackslash]
      simp
    rw [List.reverse_nil, List.nil_append, List.append_cons] at htext
    rw [hlen, ← htext, ← List.drop_drop, List.drop_left]
  have hargs : m.args.length = argumentsLength (behind.drop m.name.length) := by
    rw [invocation?_args hfound, List.length_take]
    exact Nat.min_eq_left (argumentsLength_le _)
  simp [argumentsEnd, readFrom?, hrest, Invocation.stop, hargs]

/-- Putting back the first invocation keeps the text before it and goes on behind it. -/
theorem splice_cons (render : Invocation → Text) {i : Nat} (gap : Text) {m : Invocation}
    (rest : Text) (ms : List Invocation) (hstart : m.start = i + gap.length) :
    splice render i (gap ++ (m.text ++ rest)) (m :: ms) =
      gap ++ (render m ++ splice render m.stop rest ms) := by
  have htake : (gap ++ (m.text ++ rest)).take (m.start - i) = gap := by
    rw [hstart, Nat.add_sub_cancel_left, List.take_left]
  have hdrop : (gap ++ (m.text ++ rest)).drop (m.stop - i) = rest := by
    have hlen : m.stop - i = (gap ++ m.text).length := by
      rw [Invocation.stop_eq, hstart, List.length_append]
      omega
    rw [hlen, ← List.append_assoc, List.drop_left]
  rw [splice, htake, hdrop, List.append_assoc]

private theorem splice_padded {p : Char → Prop} {render : Invocation → Text}
    (hrender : ∀ m, Text.Padded p m.text (render m)) {i : Nat} {t : Text} {ms : List Invocation}
    (h : Invocation.LaidOut i t ms) : Text.Padded p t (splice render i t ms) := by
  induction h with
  | nil i t => exact .refl t
  | @cons i gap m rest ms hstart _ ih =>
      rw [splice_cons render gap rest ms hstart]
      exact (Text.Padded.refl gap).append ((hrender m).append ih)

/-- A rule puts line breaks into a text and changes nothing else. -/
theorem apply_padded {p : Char → Prop} (r : Rule) {newline : Text} (hp : ∀ c ∈ newline, p c)
    (t : Text) : Text.Padded p t (r.apply newline t) :=
  splice_padded (Invocation.render_padded r.side hp) ((invocations_laidOut r t).filter _)

end Rule

theorem foldl_padded {p : Char → Prop} (rules : List Rule) {newline : Text}
    (hp : ∀ c ∈ newline, p c) (t : Text) :
    Text.Padded p t (rules.foldl (fun t r => r.apply newline t) t) := by
  induction rules generalizing t with
  | nil => exact .refl t
  | cons r rules ih => exact (r.apply_padded hp t).trans (ih _)

/-- The rules put line breaks into a content and change nothing else. -/
theorem insertBreaks_padded {p : Char → Prop} (rules : List Rule) {newline : Text}
    (hp : ∀ c ∈ newline, p c) (content : Text) :
    Text.Padded p content (insertBreaks rules newline content) := by
  have h :=
    (foldl_padded rules hp (Comment.split content).1).append (.refl (Comment.split content).2)
  rwa [Comment.split_append] at h

/-- The pieces that a content is broken into. -/
def pieces (rules : List Rule) (newline content : Text) : List Text :=
  ((Text.splitOn newline (insertBreaks rules newline content)).map Text.trim).filter (!·.isEmpty)

/-- A line is left as it is, or it becomes its pieces. -/
theorem breakLine_ok {rules : List Rule} {newline : Text} {l : Line} {qs : List Line}
    (h : breakLine rules newline l = .ok qs) :
    ((l.isBlank || l.verbatim || l.comment) = true ∧ qs = [l]) ∨
      ((l.isBlank || l.verbatim || l.comment) = false ∧ newline ≠ [] ∧
        qs = (pieces rules newline l.content).map (pieceOf l)) := by
  rw [breakLine] at h
  split at h
  next hskip =>
    cases h
    exact .inl ⟨hskip, rfl⟩
  next hskip =>
    rw [cutLines] at h
    split at h
    · cases h
    next hne =>
      cases h
      exact .inr ⟨by simpa using hskip, by simpa using hne, rfl⟩

theorem mem_pieces {rules : List Rule} {newline content t : Text}
    (h : t ∈ pieces rules newline content) :
    ∃ s ∈ Text.splitOn newline (insertBreaks rules newline content),
      t = s.trim ∧ s.isBlank = false := by
  obtain ⟨ht, hkeep⟩ := List.mem_filter.mp h
  obtain ⟨s, hs, rfl⟩ := List.mem_map.mp ht
  rw [Bool.not_eq_true', Text.isEmpty_trim] at hkeep
  exact ⟨s, hs, rfl, hkeep⟩

private theorem words_filter_trim (ss : List Text) :
    ((ss.map Text.trim).filter (!·.isEmpty)).flatMap Text.words = ss.flatMap Text.words := by
  induction ss with
  | nil => rfl
  | cons s ss ih =>
      rw [List.map_cons, List.filter_cons, List.flatMap_cons, ← ih]
      split
      · rw [List.flatMap_cons, Text.words_trim]
      next hs => rw [Text.words_of_blank (by simpa using hs), List.nil_append]

/-- Breaking a content at white space can only cut its words. -/
theorem words_pieces (rules : List Rule) {newline : Text} (hne : newline ≠ [])
    (hspace : newline.isBlank = true) (content : Text) :
    CutInto content.words ((pieces rules newline content).flatMap Text.words) := by
  rw [pieces, words_filter_trim, ← Text.words_intercalate hne hspace, Text.intercalate_splitOn hne]
  apply Text.words_padded
  exact insertBreaks_padded rules (List.all_eq_true.mp hspace) content

end Macro

end TexReflow
