import TexReflow.Proofs.Invocations

/-!
# Where breaks go

A rule puts a line break before or behind each of its invocations whose name does not go on, and
changes nothing else. Rules applied one after the other therefore leave a text with line breaks put
into it, and they do not touch the comment behind it.
-/

namespace TexReflow

namespace Text

/-- The text with a copy of `w` before each character whose offset is given, and behind the last one
if the offset there is given. The text starts at offset `i`. -/
def insertFrom (w : Text) (offsets : List Nat) : (i : Nat) → Text → Text
  | i, [] => if i ∈ offsets then w else []
  | i, c :: t => (if i ∈ offsets then w else []) ++ c :: insertFrom w offsets (i + 1) t

def insertAt (w : Text) (offsets : List Nat) (t : Text) : Text := insertFrom w offsets 0 t

theorem insertFrom_nil (w : Text) (i : Nat) (t : Text) : insertFrom w [] i t = t := by
  induction t generalizing i with
  | nil => rfl
  | cons c t ih =>
      rw [insertFrom, ih]
      rfl

/-- Offsets before the text do not matter. -/
theorem insertFrom_congr (w : Text) {offsets offsets' : List Nat} {i : Nat}
    (h : ∀ j, i ≤ j → (j ∈ offsets ↔ j ∈ offsets')) (t : Text) :
    insertFrom w offsets i t = insertFrom w offsets' i t := by
  induction t generalizing i with
  | nil => simp only [insertFrom, h i (Nat.le_refl i)]
  | cons c t ih =>
      simp only [insertFrom, h i (Nat.le_refl i), ih fun j hj => h j (Nat.le_of_succ_le hj)]

/-- A part of the text that holds none of the offsets stays as it is. -/
theorem insertFrom_append (w : Text) {offsets : List Nat} {i : Nat} {a : Text}
    (h : ∀ o ∈ offsets, o < i ∨ i + a.length ≤ o) (b : Text) :
    insertFrom w offsets i (a ++ b) = a ++ insertFrom w offsets (i + a.length) b := by
  induction a generalizing i with
  | nil => rfl
  | cons c a ih =>
      rw [List.length_cons] at h ⊢
      have hi : i ∉ offsets := fun hi => by have := h i hi; omega
      have hrest := ih (i := i + 1) fun o ho => by have := h o ho; omega
      rw [List.cons_append, insertFrom, if_neg hi, hrest, Nat.add_right_comm, Nat.add_assoc]
      rfl

/-- The copy at the start of the text, and the ones behind it. -/
theorem insertFrom_head (w : Text) {offsets behind : List Nat} {i : Nat}
    (hbehind : ∀ o ∈ behind, i < o) (h : ∀ j, i < j → (j ∈ offsets ↔ j ∈ behind)) (t : Text) :
    insertFrom w offsets i t = (if i ∈ offsets then w else []) ++ insertFrom w behind i t := by
  have hi : i ∉ behind := fun hi => Nat.lt_irrefl i (hbehind i hi)
  cases t with
  | nil => simp only [insertFrom, if_neg hi, List.append_nil]
  | cons c t => rw [insertFrom, insertFrom, if_neg hi, insertFrom_congr w h, List.nil_append]

/-- The second text is the first one with copies of `w` put in, one after the other. A copy may be
put into one that is there already. -/
inductive Inserted (w : Text) : Text → Text → Prop
  | refl (t : Text) : Inserted w t t
  | step {t : Text} (a b : Text) (h : Inserted w t (a ++ b)) : Inserted w t (a ++ (w ++ b))

namespace Inserted

variable {w : Text}

theorem trans {t u v : Text} (h : Inserted w t u) (h' : Inserted w u v) : Inserted w t v := by
  induction h' with
  | refl => exact h
  | step a b _ ih => exact .step a b ih

theorem cons {t u : Text} (c : Char) (h : Inserted w t u) : Inserted w (c :: t) (c :: u) := by
  induction h with
  | refl => exact .refl _
  | step a b _ ih => exact .step (c :: a) b ih

theorem gap {t u : Text} (h : Inserted w t u) (given : Prop) [Decidable given] :
    Inserted w t ((if given then w else []) ++ u) := by
  split
  · exact .step [] u h
  · exact h

theorem insertFrom (offsets : List Nat) (i : Nat) (t : Text) :
    Inserted w t (Text.insertFrom w offsets i t) := by
  induction t generalizing i with
  | nil =>
      have h := (Inserted.refl (w := w) []).gap (i ∈ offsets)
      rwa [List.append_nil] at h
  | cons c t ih => exact ((ih (i + 1)).cons c).gap _

end Inserted

end Text

namespace Macro

/-- The offsets at which a side puts line breaks around an invocation. -/
def Side.offsets (side : Side) (m : Invocation) : List Nat :=
  (if side.leads then [m.backslash] else []) ++ (if side.follows then [m.stop] else [])

theorem Side.mem_offsets {side : Side} {m : Invocation} {o : Nat} :
    o ∈ side.offsets m ↔
      side.leads = true ∧ o = m.backslash ∨ side.follows = true ∧ o = m.stop := by
  cases side <;> simp [offsets, leads, follows]

theorem Side.backslash_le {side : Side} {m : Invocation} {o : Nat} (h : o ∈ side.offsets m) :
    m.backslash ≤ o ∧ o ≤ m.stop := by
  have hlt := m.backslash_lt_stop
  rcases mem_offsets.mp h with ⟨-, rfl⟩ | ⟨-, rfl⟩ <;> omega

namespace Rule

/-- The offsets at which a rule breaks a text. -/
def breakOffsets (r : Rule) (t : Text) : List Nat :=
  ((r.invocations t).filter fun m => !r.isGuarded t m.backslash).flatMap r.side.offsets

theorem isGuarded_of_mem {r : Rule} {t : Text} {m : Invocation} (h : m ∈ r.invocations t) :
    r.isGuarded t m.backslash = r.continues (t.drop m.nameEnd) := by
  obtain ⟨hstands, hopens⟩ := standsIn_of_mem h
  obtain ⟨hlt, -⟩ := List.getElem?_eq_some_iff.mp hopens.backslash
  have hoffset : min ((m.backslash : Int) + 1).toNat t.length = m.backslash + 1 := by omega
  have hname : r.name.span? (t.take (m.backslash + 1)).reverse (t.drop (m.backslash + 1)) =
      some m.name.length := hstands.name
  simp only [isGuarded, hoffset, hname]
  rfl

/-- The breaks of one invocation, with those of later ones behind it. -/
private theorem insertFrom_render (side : Side) (newline : Text) {i : Nat} {gap : Text}
    {m : Invocation} (hstart : m.start = i + gap.length) (rest : Text) {later : List Nat}
    (hlater : ∀ o ∈ later, m.stop < o) :
    Text.insertFrom newline (side.offsets m ++ later) i (gap ++ (m.text ++ rest)) =
      gap ++ (m.render side newline ++ Text.insertFrom newline later m.stop rest) := by
  have hlt := m.backslash_lt_stop
  have hbefore : i + (gap ++ m.lead).length = m.backslash := by
    rw [Invocation.backslash, hstart, List.length_append, Nat.add_assoc]
  have hname : m.backslash + 1 + (m.name ++ m.args).length = m.stop := by
    rw [Invocation.stop, Invocation.nameEnd, List.length_append]
    omega
  have hmem (o : Nat) : o ∈ side.offsets m ++ later ↔
      side.leads = true ∧ o = m.backslash ∨ side.follows = true ∧ o = m.stop ∨ o ∈ later := by
    rw [List.mem_append, Side.mem_offsets, or_assoc]
  have hleads : m.backslash ∈ side.offsets m ++ later ↔ side.leads = true := by
    have hnot : m.backslash ∉ later := fun h => Nat.lt_asymm hlt (hlater _ h)
    simp [hmem, hnot, Nat.ne_of_lt hlt]
  have hfollows : m.stop ∈ side.offsets m ++ later ↔ side.follows = true := by
    have hnot : m.stop ∉ later := fun h => Nat.lt_irrefl _ (hlater _ h)
    simp [hmem, hnot, Nat.ne_of_gt hlt]
  have htext : gap ++ (m.text ++ rest) =
      (gap ++ m.lead) ++ '\\' :: ((m.name ++ m.args) ++ rest) := by
    simp [Invocation.text]
  have hfar : ∀ o ∈ side.offsets m ++ later, o = m.backslash ∨ m.stop ≤ o := by
    intro o ho
    rcases (hmem o).mp ho with ⟨-, rfl⟩ | ⟨-, rfl⟩ | ho
    · exact .inl rfl
    · exact .inr (Nat.le_refl _)
    · exact .inr (Nat.le_of_lt (hlater o ho))
  -- From left to right: the text before the backslash, the break there, the name and the arguments,
  -- the break behind them.
  rw [htext, Text.insertFrom_append, hbefore, Text.insertFrom, Text.insertFrom_append, hname,
    Text.insertFrom_head newline hlater]
  · simp [Invocation.render, hleads, hfollows]
  · intro o ho
    simp [hmem, Nat.ne_of_gt ho, Nat.ne_of_gt (Nat.lt_trans hlt ho)]
  · intro o ho
    have := hfar o ho
    omega
  · intro o ho
    have := hfar o ho
    omega

/-- Putting the invocations back with their line breaks puts in the line breaks only. -/
theorem splice_eq_insertFrom (side : Side) (newline : Text) {i : Nat} {t : Text}
    {ms : List Invocation} (h : Invocation.LaidOut i t ms)
    (happart : ms.Pairwise fun m next => m.stop < next.backslash) :
    splice (Invocation.render side newline) i t ms =
      Text.insertFrom newline (ms.flatMap side.offsets) i t := by
  induction h with
  | nil i t => exact (Text.insertFrom_nil newline i t).symm
  | @cons i gap m rest ms hstart _ ih =>
      obtain ⟨hfirst, happart⟩ := List.pairwise_cons.mp happart
      have hlater : ∀ o ∈ ms.flatMap side.offsets, m.stop < o := by
        intro o ho
        obtain ⟨next, hnext, ho⟩ := List.mem_flatMap.mp ho
        exact Nat.lt_of_lt_of_le (hfirst next hnext) (Side.backslash_le ho).1
      rw [splice_cons _ gap rest ms hstart, ih happart, List.flatMap_cons,
        insertFrom_render side newline hstart rest hlater]

theorem apply_eq_insertAt (r : Rule) (newline t : Text) :
    r.apply newline t = Text.insertAt newline (r.breakOffsets t) t := by
  have hfilter : (r.invocations t).filter (fun m => !r.isGuarded t m.backslash) =
      (r.invocations t).filter fun m => !r.continues (t.drop m.nameEnd) :=
    List.filter_congr fun m hm => by rw [isGuarded_of_mem hm]
  rw [apply, Text.insertAt, breakOffsets, hfilter]
  exact splice_eq_insertFrom r.side newline ((r.invocations_laidOut t).filter _)
    ((r.invocations_apart t).filter _)

theorem breakOffsets_increasing (r : Rule) (t : Text) : (r.breakOffsets t).Pairwise (· < ·) := by
  rw [breakOffsets, List.pairwise_flatMap]
  constructor
  · intro m _
    have hlt := m.backslash_lt_stop
    cases r.side <;> simp [Side.offsets, Side.leads, Side.follows, hlt]
  · refine ((r.invocations_apart t).filter _).imp ?_
    intro m next happart o ho o' ho'
    have hle := (Side.backslash_le ho).2
    have hle' := (Side.backslash_le ho').1
    omega

theorem le_of_mem_breakOffsets {r : Rule} {t : Text} {o : Nat} (h : o ∈ r.breakOffsets t) :
    o ≤ t.length := by
  obtain ⟨m, hm, ho⟩ := List.mem_flatMap.mp h
  obtain ⟨gap, rest, rfl, hstart⟩ :=
    (r.invocations_laidOut t).exists_append (List.mem_filter.mp hm).1
  have hle := (Side.backslash_le ho).2
  rw [Invocation.stop_eq] at hle
  simp only [List.length_append]
  omega

end Rule

theorem foldl_inserted (rules : List Rule) (newline t : Text) :
    Text.Inserted newline t
      (rules.foldl (fun t r => Text.insertAt newline (r.breakOffsets t) t) t) := by
  induction rules generalizing t with
  | nil => exact .refl t
  | cons r rules ih => exact (Text.Inserted.insertFrom _ 0 t).trans (ih _)

/-- A rule puts the line break in before and behind those of its invocations whose name does not go
on, once at each of the offsets, and it changes nothing else. All rules together, each in the text
that the ones before it have left, put line breaks into the text before the comment and leave the
comment as it is. -/
theorem breaks_inserted (newline : Text) :
    (∀ (r : Rule) (t : Text),
      r.apply newline t = Text.insertAt newline (r.breakOffsets t) t ∧
        (r.breakOffsets t).Pairwise (· < ·) ∧ ∀ o ∈ r.breakOffsets t, o ≤ t.length) ∧
    ∀ (rules : List Rule) (content : Text),
      let text := (Comment.split content).1
      let broken := rules.foldl (fun t r => Text.insertAt newline (r.breakOffsets t) t) text
      Text.Inserted newline text broken ∧
        insertBreaks rules newline content = broken ++ (Comment.split content).2 := by
  constructor
  · intro r t
    exact ⟨r.apply_eq_insertAt newline t, r.breakOffsets_increasing t,
      fun o ho => Rule.le_of_mem_breakOffsets ho⟩
  · intro rules content text broken
    refine ⟨foldl_inserted rules newline text, ?_⟩
    simp only [insertBreaks, Rule.apply_eq_insertAt]
    rfl

/-- Breaks around two invocations; the name of the one between them goes on. -/
theorem breaks_inserted_guarded :
    let r : Rule := ⟨⟨['x'], .one ⟨[.single 'x'], false, false⟩⟩, .around⟩
    let t := "a\\x{b} \\xy\\x".toList
    r.breakOffsets t = [1, 6, 10, 12] ∧
      r.apply ['\n'] t = "a\n\\x{b}\n \\xy\n\\x\n".toList ∧ 12 ≤ t.length := by
  intro r t
  have hoffsets : r.breakOffsets t = [1, 6, 10, 12] := by decide +kernel
  obtain ⟨happly, -, hle⟩ := (breaks_inserted ['\n']).1 r t
  rw [hoffsets] at happly hle
  exact ⟨hoffsets, happly, hle 12 (by decide)⟩

end Macro

end TexReflow
