import TexReflow.Proofs.Verbatim

/-!
# Verbatim content and the rest

The content of a verbatim line is read by several passes, but all they learn of it is whether it is
blank and which marks of regions it has. Two documents that differ inside of verbatim regions and
agree on this much go through the passes side by side: the lines that are not verbatim are the same
behind each pass, and where one of the runs fails, so does the other.
-/

namespace TexReflow

/-- The same marks of a region occur in both texts. -/
def Region.SameMarks (m : Markers) (a b : Text) : Prop :=
  Pattern.marks m.opening a = Pattern.marks m.opening b ∧
    Pattern.marks m.closing a = Pattern.marks m.closing b

/-- All that a run can learn of the content of a verbatim line is the same for both texts. -/
structure Alike (cfg : Config) (a b : Text) : Prop where
  blank : a.isBlank = b.isBlank
  verbatim : Region.SameMarks cfg.verbatim a b
  math : Region.SameMarks cfg.math a b

theorem Alike.refl (cfg : Config) (a : Text) : Alike cfg a a := ⟨rfl, ⟨rfl, rfl⟩, ⟨rfl, rfl⟩⟩

/-- Faults of one kind, and at the same line if regions are not balanced. -/
def Fault.SameKind : Fault → Fault → Prop
  | .unbalanced u, .unbalanced v => u.line = v.line
  | .badPattern p c, .badPattern q d => p = q ∧ c = d
  | .emptyNewline, .emptyNewline => True
  | _, _ => False

theorem Fault.SameKind.refl (f : Fault) : f.SameKind f := by
  cases f <;> simp [SameKind]

/-- Two computations have both succeeded, with related results, or both failed, with related
errors. -/
inductive SameOutcome {ε α : Type} (E : ε → ε → Prop) (R : α → α → Prop) :
    Except ε α → Except ε α → Prop
  | ok {a b : α} (h : R a b) : SameOutcome E R (.ok a) (.ok b)
  | error {e e' : ε} (h : E e e') : SameOutcome E R (.error e) (.error e')

namespace SameOutcome

variable {ε ε' α β : Type} {E : ε → ε → Prop} {E' : ε' → ε' → Prop} {R : α → α → Prop}
  {S : β → β → Prop}

theorem refl (hE : ∀ e, E e e) (hR : ∀ a, R a a) (x : Except ε α) : SameOutcome E R x x := by
  cases x with
  | ok a => exact .ok (hR a)
  | error e => exact .error (hE e)

theorem bind {x y : Except ε α} (h : SameOutcome E R x y) {f g : α → Except ε β}
    (hfg : ∀ {a b}, R a b → SameOutcome E S (f a) (g b)) :
    SameOutcome E S (x >>= f) (y >>= g) := by
  cases h with
  | ok h => exact hfg h
  | error h => exact .error h

theorem mapError {x y : Except ε α} (h : SameOutcome E R x y) {f : ε → ε'}
    (hf : ∀ {e e'}, E e e' → E' (f e) (f e')) :
    SameOutcome E' R (x.mapError f) (y.mapError f) := by
  cases h with
  | ok h => exact .ok h
  | error h => exact .error (hf h)

theorem elim {x y : Except ε α} (h : SameOutcome E R x y) :
    (∃ a b, x = .ok a ∧ y = .ok b ∧ R a b) ∨ ∃ e e', x = .error e ∧ y = .error e' ∧ E e e' := by
  cases h with
  | @ok a b h => exact .inl ⟨a, b, rfl, rfl, h⟩
  | @error e e' h => exact .inr ⟨e, e', rfl, rfl, h⟩

theorem mapM {f g : α → Except ε β} (hfg : ∀ {a b}, R a b → SameOutcome E S (f a) (g b))
    {as bs : List α} (h : List.Forall₂ R as bs) :
    SameOutcome E (List.Forall₂ S) (as.mapM f) (bs.mapM g) := by
  induction h with
  | nil => exact .ok .nil
  | cons hab _ ih =>
      rw [List.mapM_cons, List.mapM_cons]
      refine (hfg hab).bind fun hfirst => ih.bind fun hrest => ?_
      exact .ok (.cons hfirst hrest)

end SameOutcome

/-- The two lines are the same, or both are verbatim with the same marks and contents alike. -/
def Line.Agree (cfg : Config) (l k : Line) : Prop :=
  l = k ∨ (l.verbatim = true ∧ k.verbatim = true) ∧ l.math = k.math ∧ Alike cfg l.content k.content

namespace Line.Agree

variable {cfg : Config} {l k : Line}

theorem refl (cfg : Config) (l : Line) : l.Agree cfg l := .inl rfl

theorem alike (h : l.Agree cfg k) : Alike cfg l.content k.content := by
  rcases h with rfl | ⟨-, -, h⟩
  · exact .refl cfg l.content
  · exact h

theorem isBlank (h : l.Agree cfg k) : l.isBlank = k.isBlank := h.alike.blank

theorem flags (h : l.Agree cfg k) : l.verbatim = k.verbatim ∧ l.math = k.math := by
  rcases h with rfl | ⟨⟨hl, hk⟩, hmath, -⟩
  · exact ⟨rfl, rfl⟩
  · exact ⟨hl.trans hk.symm, hmath⟩

theorem eq_of_not_verbatim (h : l.Agree cfg k) (hl : l.verbatim = false) : l = k := by
  rcases h with rfl | ⟨⟨hverbatim, -⟩, -⟩
  · rfl
  · rw [hl] at hverbatim
    cases hverbatim

/-- A change that keeps verbatim contents and all marks of regions keeps lines in agreement. -/
theorem map (h : l.Agree cfg k) {f : Line → Line}
    (hf : ∀ l, l.verbatim = true → (f l).verbatim = true ∧ (f l).content = l.content)
    (hmath : l.math = k.math → (f l).math = (f k).math) : (f l).Agree cfg (f k) := by
  rcases h with rfl | ⟨⟨hl, hk⟩, hsame, halike⟩
  · exact .refl cfg (f l)
  · obtain ⟨hfl, hlcontent⟩ := hf l hl
    obtain ⟨hfk, hkcontent⟩ := hf k hk
    rw [← hlcontent, ← hkcontent] at halike
    exact .inr ⟨⟨hfl, hfk⟩, hmath hsame, halike⟩

end Line.Agree

namespace Region

/-- Contents with the same marks have the same regions, or fail at the same line. -/
private theorem scanFrom_sameMarks {m : Markers} {cs ds : List Text}
    (h : List.Forall₂ (SameMarks m) cs ds) (depth line : Nat) :
    SameOutcome (fun u v => u.line = v.line) Eq (scanFrom m depth line cs)
      (scanFrom m depth line ds) := by
  induction h generalizing depth line with
  | nil => exact .ok rfl
  | @cons c d cs ds hmarks _ ih =>
      rw [scanFrom_cons, scanFrom_cons, hmarks.1, hmarks.2]
      split
      · exact .error rfl
      · exact (ih _ _).bind fun heq => .ok (heq ▸ rfl)

private theorem zipWith_agree {cfg : Config} {f : Line → Line}
    (hf : ∀ {l k : Line}, l.Agree cfg k → (f l).Agree cfg (f k)) {ls ks : List Line}
    (h : List.Forall₂ (Line.Agree cfg) ls ks) (mask : List Bool) :
    List.Forall₂ (Line.Agree cfg)
      (List.zipWith (fun l inside => if inside then f l else l) ls mask)
      (List.zipWith (fun l inside => if inside then f l else l) ks mask) := by
  induction h generalizing mask with
  | nil => exact .nil
  | cons hline _ ih =>
      cases mask with
      | nil => exact .nil
      | cons inside mask =>
          cases inside with
          | true => exact .cons (hf hline) (ih mask)
          | false => exact .cons hline (ih mask)

end Region

namespace Paragraph

variable {cfg : Config}

private theorem dropBlanks_agree {ls ks : List Line} (h : List.Forall₂ (Line.Agree cfg) ls ks)
    (blank : Bool) :
    List.Forall₂ (Line.Agree cfg) (dropBlanks blank ls) (dropBlanks blank ks) := by
  induction h generalizing blank with
  | nil => exact .nil
  | cons hline _ ih =>
      rw [dropBlanks, dropBlanks, hline.isBlank, hline.flags.1]
      split
      · exact ih blank
      · exact .cons hline (ih _)

/-- A line break next to a verbatim line is never soft, whatever the line holds. -/
private theorem canJoin_agree {first second first' second' : Line} (h : first.Agree cfg first')
    (h' : second.Agree cfg second') : canJoin cfg first second = canJoin cfg first' second' := by
  have hverbatim (l k : Line) : (l.verbatim || k.verbatim) = true → canJoin cfg l k = false := by
    intro hlk
    rw [Bool.eq_false_iff]
    intro hjoin
    obtain ⟨-, ⟨hl, hk⟩, -⟩ := canJoin_iff.mp hjoin
    rw [hl, hk] at hlk
    cases hlk
  cases hboth : first.verbatim || second.verbatim with
  | true =>
      have hboth' : (first'.verbatim || second'.verbatim) = true := by
        rw [← h.flags.1, ← h'.flags.1, hboth]
      rw [hverbatim _ _ hboth, hverbatim _ _ hboth']
  | false =>
      obtain ⟨hfirst, hsecond⟩ := Bool.or_eq_false_iff.mp hboth
      rw [h.eq_of_not_verbatim hfirst, h'.eq_of_not_verbatim hsecond]

private theorem mergeFrom_agree {first first' : Line} (hfirst : first.Agree cfg first')
    {ls ks : List Line} (h : List.Forall₂ (Line.Agree cfg) ls ks) :
    List.Forall₂ (Line.Agree cfg) (mergeFrom cfg first ls) (mergeFrom cfg first' ks) := by
  induction h generalizing first first' with
  | nil => exact .cons hfirst .nil
  | @cons second second' ls ks hsecond _ ih =>
      rw [mergeFrom, mergeFrom, ← canJoin_agree hfirst hsecond]
      split
      next hjoin =>
        obtain ⟨-, ⟨hl, hk⟩, -⟩ := canJoin_iff.mp hjoin
        rw [← hfirst.eq_of_not_verbatim hl, ← hsecond.eq_of_not_verbatim hk]
        exact ih (.refl cfg _)
      next => exact .cons hfirst (ih hsecond)

private theorem merge_agree {ls ks : List Line} (h : List.Forall₂ (Line.Agree cfg) ls ks) :
    List.Forall₂ (Line.Agree cfg) (merge cfg ls) (merge cfg ks) := by
  cases h with
  | nil => exact .nil
  | cons hline hlines => exact mergeFrom_agree hline hlines

end Paragraph

/-- What is done to a line that is not verbatim, verbatim lines being left as they are, keeps lines
in agreement. -/
private theorem SameOutcome.lines {cfg : Config} {f : Line → Except Fault (List Line)}
    (hf : ∀ l, l.verbatim = true → f l = .ok [l]) {l k : Line} (h : l.Agree cfg k) :
    SameOutcome Fault.SameKind (List.Forall₂ (Line.Agree cfg)) (f l) (f k) := by
  cases hl : l.verbatim with
  | true =>
      rw [hf l hl, hf k (h.flags.1 ▸ hl)]
      exact .ok (.cons h .nil)
  | false =>
      rw [← h.eq_of_not_verbatim hl]
      exact .refl Fault.SameKind.refl (fun ls => List.forall₂_same.mpr fun q _ => .refl cfg q) _

namespace Pass

variable {cfg : Config} {ls ks : List Line}

/-- A pass keeps lines in agreement, or fails for both lists. -/
private theorem apply_agree (p : Pass) (h : List.Forall₂ (Line.Agree cfg) ls ks) :
    SameOutcome Fault.SameKind (List.Forall₂ (Line.Agree cfg)) (p.apply cfg ls)
      (p.apply cfg ks) := by
  have hcontents {m : Markers} (hm : ∀ {a b}, Alike cfg a b → Region.SameMarks m a b) :
      List.Forall₂ (Region.SameMarks m) (ls.map (·.content)) (ks.map (·.content)) := by
    rw [List.forall₂_map_left_iff, List.forall₂_map_right_iff]
    exact h.imp fun _ _ hline => hm hline.alike
  have hmark {m : Markers} (hm : ∀ {a b}, Alike cfg a b → Region.SameMarks m a b) {f : Line → Line}
      (hf : ∀ {l k : Line}, l.Agree cfg k → (f l).Agree cfg (f k)) :
      SameOutcome Fault.SameKind (List.Forall₂ (Line.Agree cfg))
        ((Region.mark m f ls).mapError .unbalanced)
        ((Region.mark m f ks).mapError .unbalanced) := by
    rw [Region.mark_eq_map, Region.mark_eq_map]
    refine SameOutcome.mapError ?_ id
    refine (Region.scanFrom_sameMarks (hcontents hm) 0 1).bind ?_
    rintro s _ rfl
    exact .ok (Region.zipWith_agree hf h s.mask)
  have hmap {f : Line → Line} (hf : ∀ {l k : Line}, l.Agree cfg k → (f l).Agree cfg (f k)) :
      SameOutcome Fault.SameKind (List.Forall₂ (Line.Agree cfg)) (.ok (ls.map f))
        (.ok (ks.map f)) := by
    refine .ok ?_
    rw [List.forall₂_map_left_iff, List.forall₂_map_right_iff]
    exact h.imp fun _ _ hline => hf hline
  cases p with
  | markVerbatim =>
      exact hmark (fun halike => halike.verbatim) fun hline =>
        hline.map (f := fun l => { l with verbatim := true }) (fun _ _ => ⟨rfl, rfl⟩) id
  | trim =>
      refine hmap fun hline => hline.map ?_ ?_
      · intro l hl
        rw [Line.trim, if_pos hl]
        exact ⟨hl, rfl⟩
      · intro hmath
        rw [Line.trim, Line.trim]
        split <;> split <;> exact hmath
  | markComments => exact hmap fun hline => hline.map (fun _ hl => ⟨hl, rfl⟩) id
  | dedup => exact .ok (Paragraph.dropBlanks_agree h false)
  | merge => exact .ok (Paragraph.merge_agree h)
  | breakLines =>
      refine (SameOutcome.refl Fault.SameKind.refl (R := Eq) (fun _ => rfl) cfg.rules).bind ?_
      rintro rules _ rfl
      refine (SameOutcome.mapM (fun hline => .lines ?_ hline) h).bind ?_
      · intro l hl
        rw [Macro.breakLine, hl, Bool.or_true, Bool.true_or]
        rfl
      · intro qss rss hlines
        exact .ok (List.rel_flatten hlines)
  | markMath =>
      exact hmark (fun halike => halike.math) fun hline =>
        hline.map (f := fun l => { l with math := true }) (fun _ hl => ⟨hl, rfl⟩) fun _ => rfl
  | splitSentences =>
      refine .ok (List.rel_flatMap h ?_)
      intro l k hline
      have hcut := SameOutcome.lines
        (f := fun l => .ok (if Sentence.skips l then [l] else Sentence.split cfg l)) ?_ hline
      · cases hcut with
        | ok hcut => exact hcut
      · intro l hl
        simp [Sentence.skips, hl]
  | collapse =>
      refine hmap fun hline => hline.map ?_ ?_
      · intro l hl
        rw [Line.collapse, if_pos hl]
        exact ⟨hl, rfl⟩
      · intro hmath
        rw [Line.collapse, Line.collapse]
        split <;> split <;> exact hmath

private theorem applyAll_agree (ps : List Pass) (h : List.Forall₂ (Line.Agree cfg) ls ks) :
    SameOutcome Fault.SameKind (List.Forall₂ (Line.Agree cfg)) (applyAll cfg ps ls)
      (applyAll cfg ps ks) := by
  induction ps generalizing ls ks with
  | nil => exact .ok h
  | cons p ps ih =>
      rw [applyAll_cons, applyAll_cons]
      exact (apply_agree p h).bind ih

end Pass

/-- Rows that differ inside of regions only are lines in agreement as soon as regions are marked. -/
private theorem marked_agree {cfg : Config} {rows rows' : List Text}
    (h : List.Forall₂ (Alike cfg) rows rows') {mask : List Bool}
    (hsame : ∀ i : Nat, mask[i]? = some false → rows[i]? = rows'[i]?) :
    List.Forall₂ (Line.Agree cfg)
      (List.zipWith (fun l inside => if inside then { l with verbatim := true } else l)
        (rows.map Line.ofRow) mask)
      (List.zipWith (fun l inside => if inside then { l with verbatim := true } else l)
        (rows'.map Line.ofRow) mask) := by
  induction h generalizing mask with
  | nil => exact .nil
  | @cons row row' rows rows' halike _ ih =>
      cases mask with
      | nil => exact .nil
      | cons inside mask =>
          refine .cons ?_ (ih fun i => hsame (i + 1))
          cases inside with
          | true => exact .inr ⟨⟨rfl, rfl⟩, rfl, halike⟩
          | false =>
              have hrow : row = row' := Option.some.inj (hsame 0 rfl)
              rw [hrow]
              exact .refl cfg _

/-- Two documents of which the rows differ inside of verbatim regions only, and there agree on being
blank and on the marks of regions. Both runs succeed, with the same lines outside of the regions and
the rows of each document inside; or both fail in the same way. -/
theorem run_verbatim_content (cfg : Config) {rows rows' : List Text}
    (halike : List.Forall₂ (Alike cfg) rows rows')
    (hsame : ∀ s, Region.scan cfg.verbatim rows = .ok s →
      ∀ i : Nat, s.mask[i]? = some false → rows[i]? = rows'[i]?) :
    (∃ s out out', Region.scan cfg.verbatim rows = .ok s ∧ cfg.run rows = .ok out ∧
      cfg.run rows' = .ok out' ∧
      List.Forall₂ (fun l k => (l.verbatim = k.verbatim ∧ l.math = k.math) ∧
        (l.verbatim = false → l = k)) out out' ∧
      verbatimTexts out = ((rows.zip s.mask).filter (·.2)).map (·.1) ∧
      verbatimTexts out' = ((rows'.zip s.mask).filter (·.2)).map (·.1)) ∨
    ∃ f f', cfg.run rows = .error f ∧ cfg.run rows' = .error f' ∧ f.SameKind f' := by
  rw [cfg.run_eq_bind, cfg.run_eq_bind]
  cases hrules : cfg.rules with
  | error f => exact .inr ⟨f, f, rfl, rfl, .refl f⟩
  | ok rules =>
      have hscan := Region.scanFrom_sameMarks (halike.imp fun _ _ h => h.verbatim) 0 1
      rcases hscan.elim with ⟨s, _, hs, hs', rfl⟩ | ⟨u, v, hu, hv, huv⟩
      · have hmarked := marked_agree halike (hsame s hs)
        simp only [Region.scan, hs, hs']
        rcases (Pass.applyAll_agree cfg.passes.tail hmarked).elim with
          ⟨out, out', hout, hout', hlines⟩ | ⟨f, f', hf, hf', hkind⟩
        · refine .inl ⟨s, out, out', rfl, hout, hout', ?_, ?_, ?_⟩
          · exact hlines.imp fun l k hline => ⟨hline.flags, hline.eq_of_not_verbatim⟩
          · rw [applyAll_verbatimTexts cfg.markVerbatim_not_mem_tail hout, verbatimTexts_marked]
          · rw [applyAll_verbatimTexts cfg.markVerbatim_not_mem_tail hout', verbatimTexts_marked]
        · exact .inr ⟨f, f', hf, hf', hkind⟩
      · simp only [Region.scan, hu, hv]
        exact .inr ⟨.unbalanced u, .unbalanced v, rfl, rfl, huv⟩

/-- A comment takes the place of a sentence in a verbatim region. Both open block math, which goes
on behind the region. -/
theorem run_verbatim_content_comment :
    let pattern (s : String) : Option Pattern := (Pattern.parse s.toList).toOption
    let cfg : Config :=
      { verbatim := ⟨pattern "B", pattern "E"⟩, math := ⟨pattern "M", pattern "W"⟩ }
    let rows : List Text := ["a.  b", "B", " x.  y M", "E", "c. d W"].map String.toList
    let rows' : List Text := ["a.  b", "B", "% z M", "E", "c. d W"].map String.toList
    List.Forall₂ (Alike cfg) rows rows' ∧
      (∀ s, Region.scan cfg.verbatim rows = .ok s →
        ∀ i : Nat, s.mask[i]? = some false → rows[i]? = rows'[i]?) ∧
      ∃ out out', cfg.run rows = .ok out ∧ cfg.run rows' = .ok out' ∧
        out.map (·.content) = ["a.", "b", "B", " x.  y M", "E", "c. d W"].map String.toList ∧
        List.Forall₂ (fun l k => (l.verbatim = k.verbatim ∧ l.math = k.math) ∧
          (l.verbatim = false → l = k)) out out' ∧
        verbatimTexts out' = ["B", "% z M", "E"].map String.toList := by
  intro pattern cfg rows rows'
  have hscan : Region.scan cfg.verbatim rows = .ok ⟨[false, true, true, true, false], 0⟩ := by
    decide +kernel
  have hrun : (cfg.run rows).toOption.map (·.map (·.content)) =
      some (["a.", "b", "B", " x.  y M", "E", "c. d W"].map String.toList) := by
    decide +kernel
  have halike : List.Forall₂ (Alike cfg) rows rows' := by
    refine .cons (.refl cfg _) (.cons (.refl cfg _) (.cons ?_ (.cons (.refl cfg _)
      (.cons (.refl cfg _) .nil))))
    refine ⟨?_, ⟨?_, ?_⟩, ?_, ?_⟩ <;> decide +kernel
  have hsame : ∀ s, Region.scan cfg.verbatim rows = .ok s →
      ∀ i : Nat, s.mask[i]? = some false → rows[i]? = rows'[i]? := by
    intro s hs i hi
    rw [hscan] at hs
    cases hs
    rcases i with _ | _ | _ | _ | _ | i
    · rfl
    · cases hi
    · cases hi
    · cases hi
    · rfl
    · cases hi
  refine ⟨halike, hsame, ?_⟩
  rcases run_verbatim_content cfg halike hsame with
    ⟨s, out, out', hs, hout, hout', hlines, -, htexts⟩ | ⟨f, f', hf, -⟩
  · rw [hscan] at hs
    cases hs
    rw [hout] at hrun
    exact ⟨out, out', hout, hout', Option.some.inj hrun, hlines, htexts⟩
  · rw [hf] at hrun
    cases hrun

end TexReflow
