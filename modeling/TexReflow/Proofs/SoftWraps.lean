import Mathlib.Logic.Relation
import TexReflow.Proofs.Grouping

/-!
# Soft wraps

Where lines are joined and no pattern keeps a line break, a run does not see at which spaces a
paragraph was wrapped, nor how many blank rows stand between two paragraphs. After merging the lines
are the same, and all that follows looks at these lines only.
-/

namespace TexReflow

/-- The second document is the first one with a row wrapped at a space, or with one more blank row
behind a blank one. Nothing is wrapped inside of a comment or before a percent sign. -/
inductive SoftWrap : List Text → List Text → Prop
  | wrap (before after : List Text) {x y : Text} (hx : x.isBlank = false) (hy : y.isBlank = false)
      (hxlast : ∀ c ∈ x.getLast?, Text.isSpace c = false)
      (hyhead : ∀ c ∈ y.head?, Text.isSpace c = false) (hcomment : Comment.inside x = false)
      (hpercent : y.head? ≠ some '%') :
      SoftWrap (before ++ (x ++ ' ' :: y) :: after) (before ++ x :: y :: after)
  | blank (before after : List Text) {w w' : Text} (hw : w.isBlank = true)
      (hw' : w'.isBlank = true) : SoftWrap (before ++ w :: after) (before ++ w :: w' :: after)

namespace Paragraph

theorem isBlank_join {first : Line} (second : Line) (hfirst : first.isBlank = false) :
    (join first second).isBlank = false := by
  change Text.isBlank (first.content ++ ' ' :: second.content).trim = false
  rw [Text.isBlank_trim, Text.isBlank_append, show first.content.isBlank = false from hfirst]
  rfl

/-- It does not matter which of two breaks is removed first. -/
private theorem join_assoc (first : Line) {x y : Line} (hx : x.isBlank = false)
    (htrim : x.content.trim = x.content) :
    join (join first x) y = join first (join x y) := by
  have hne : x.content ≠ [] := by
    intro hnil
    rw [Line.isBlank, hnil] at hx
    cases hx
  have hlast : ∀ c ∈ (first.content ++ ' ' :: x.content).getLast?, Text.isSpace c = false := by
    rw [List.append_cons, List.getLast?_append_of_ne_nil _ hne, ← htrim]
    exact Text.getLast_trim x.content
  have hhead : ∀ c ∈ (x.content ++ ' ' :: y.content).head?, Text.isSpace c = false := by
    rw [List.head?_append_of_ne_nil _ hne, ← htrim]
    exact Text.head_trim x.content
  have hsame : ((first.content ++ ' ' :: x.content).trim ++ ' ' :: y.content).trim =
      (first.content ++ ' ' :: (x.content ++ ' ' :: y.content).trim).trim := by
    rw [Text.trim_trim_append hlast, List.append_cons first.content ' ' (Text.trim _),
      Text.trim_append_trim hhead]
    simp
  simp only [join, Line.withContent, hsame]

section

variable {cfg : Config} (hafter : cfg.keepAfter = none) (hbefore : cfg.keepBefore = none)
  {x y : Line} (hxy : canJoin cfg x y = true) (htrim : x.content.trim = x.content)

include hafter hbefore hxy htrim

/-- A line is joined to the two parts of a line one by one as it is to the whole line. -/
private theorem mergeFrom_wrap (first : Line) (ls : List Line) :
    mergeFrom cfg first (join x y :: ls) = mergeFrom cfg first (x :: y :: ls) := by
  obtain ⟨⟨hx, hy⟩, ⟨-, hyv⟩, -, -, hinside, hcomment⟩ := canJoin_iff.mp hxy
  have hmarks (t : Text) : Pattern.marks cfg.keepAfter t = false ∧
      Pattern.marks cfg.keepBefore t = false := by
    rw [hafter, hbefore]
    exact ⟨rfl, rfl⟩
  have hsame : canJoin cfg first (join x y) = canJoin cfg first x := by
    simp only [canJoin, (hmarks _).1, (hmarks _).2, isBlank_join y hx, hx]
    rfl
  rw [mergeFrom, mergeFrom, hsame]
  split
  next hfirst =>
    obtain ⟨⟨hblank, -⟩, ⟨hverbatim, -⟩, -, -, hfree, -⟩ := canJoin_iff.mp hfirst
    have hnext : canJoin cfg (join first x) y = true := by
      refine canJoin_iff.mpr ⟨⟨isBlank_join x hblank, hy⟩, ⟨hverbatim, hyv⟩, (hmarks _).1,
        (hmarks _).2, ?_, hcomment⟩
      rw [(join_division x hfree).2.2, hinside]
    rw [mergeFrom, if_pos hnext, join_assoc first hx htrim]
  next => rw [mergeFrom, if_pos hxy]

private theorem merge_wrap (before ls : List Line) :
    merge cfg (before ++ join x y :: ls) = merge cfg (before ++ x :: y :: ls) := by
  cases before with
  | nil => exact (if_pos hxy).symm
  | cons first before =>
      change mergeFrom cfg first (before ++ join x y :: ls) =
        mergeFrom cfg first (before ++ x :: y :: ls)
      induction before generalizing first with
      | nil => exact mergeFrom_wrap hafter hbefore hxy htrim first ls
      | cons second before ih =>
          rw [List.cons_append, List.cons_append, mergeFrom, mergeFrom, ih, ih]

end

private theorem dedup_wrap (before : List Line) {x y z : Line} (hx : x.isBlank = false)
    (hy : y.isBlank = false) (hz : z.isBlank = false) (after : List Line) :
    ∃ as bs, dedup (before ++ z :: after) = as ++ z :: bs ∧
      dedup (before ++ x :: y :: after) = as ++ x :: y :: bs := by
  refine ⟨dedup before, dropBlanks false after, ?_, ?_⟩
  · rw [dedup, dropBlanks_append, dropBlanks_cons _ hz]
    rfl
  · rw [dedup, dropBlanks_append, dropBlanks_cons _ hx, dropBlanks_cons _ hy]
    rfl

private theorem dedup_blank (before : List Line) {l l' : Line} (hl : l.isBlank = true)
    (hl' : l'.isBlank = true) (hverbatim : l'.verbatim = false) (after : List Line) :
    dedup (before ++ l :: l' :: after) = dedup (before ++ l :: after) := by
  have hdrop : dropBlanks true (l' :: after) = dropBlanks true after := by
    rw [dropBlanks, hl', hverbatim]
    rfl
  have hlast : ((before ++ [l]).map Line.isBlank).getLast?.getD false = true := by simp [hl]
  rw [List.append_cons before l (l' :: after), List.append_cons before l after, dedup, dedup,
    dropBlanks_append false (before ++ [l]), dropBlanks_append false (before ++ [l]), hlast, hdrop]

end Paragraph

/-- The line of a row before lines are joined. -/
def opened (row : Text) : Line := { content := row.trim, comment := Comment.isWhole row }

theorem opened_isBlank (row : Text) : (opened row).isBlank = row.isBlank :=
  Text.isBlank_trim row

/-- Without verbatim regions a run joins the trimmed rows, and the other passes follow. -/
theorem run_eq_merge {cfg : Config} (hjoin : cfg.joinLines = true)
    (hopening : cfg.verbatim.opening = none) (hclosing : cfg.verbatim.closing = none)
    (rows : List Text) :
    cfg.run rows = cfg.rules >>= fun _ =>
      Pass.applyAll cfg
        ([.breakLines, .markMath] ++ (if cfg.splitSentences then [.splitSentences] else []) ++
          [.trim, .collapse])
        (Paragraph.merge cfg (Paragraph.dedup (rows.map opened))) := by
  have hverbatim (ls : List Line) : Pass.markVerbatim.apply cfg ls = .ok ls := by
    rw [Pass.apply, Region.markVerbatim, Region.mark, Region.given, hopening, hclosing]
    rfl
  have hopened : ((rows.map Line.ofRow).map Line.trim).map Comment.mark = rows.map opened := by
    rw [List.map_map, List.map_map]
    apply List.map_congr_left
    intro row _
    simp [opened, Line.ofRow, Line.trim, Line.withContent, Comment.mark, Comment.isWhole_trim]
  rw [Config.run, Config.passes, hjoin, ← hopened]
  congr 1
  funext _
  simp only [if_true, List.cons_append, List.nil_append, Pass.applyAll_cons, hverbatim]
  rfl

/-- The line of a wrapped row is what the lines of its parts are joined to. -/
private theorem opened_wrap {x y : Text} (hx : x.isBlank = false)
    (hxlast : ∀ c ∈ x.getLast?, Text.isSpace c = false)
    (hyhead : ∀ c ∈ y.head?, Text.isSpace c = false) (hcomment : Comment.inside x = false) :
    opened (x ++ ' ' :: y) = Paragraph.join (opened x) (opened y) := by
  have hcontent : (x.trim ++ ' ' :: y.trim).trim = (x ++ ' ' :: y).trim := by
    rw [Text.trim_trim_append hxlast, List.append_cons, Text.trim_append_trim hyhead]
    simp
  have hrow : Comment.isWhole (x ++ ' ' :: y) = false :=
    Comment.isWhole_append_space y hcomment hx rfl
  simp only [opened, Paragraph.join, Line.withContent, hcontent,
    Comment.isWhole_of_inside_eq_false hcomment, hrow]

/-- The lines of the two parts of a wrapped row can be joined. -/
private theorem canJoin_opened {cfg : Config} (hafter : cfg.keepAfter = none)
    (hbefore : cfg.keepBefore = none) {x y : Text} (hx : x.isBlank = false)
    (hy : y.isBlank = false) (hyhead : ∀ c ∈ y.head?, Text.isSpace c = false)
    (hcomment : Comment.inside x = false) (hpercent : y.head? ≠ some '%') :
    Paragraph.canJoin cfg (opened x) (opened y) = true := by
  have hwhole : Comment.isWhole y = false := by
    rw [Bool.eq_false_iff, Comment.isWhole, ne_eq, decide_eq_true_eq]
    intro hhead
    obtain ⟨b, -, hyb⟩ := Text.exists_trim_right hyhead
    apply hpercent
    rw [hyb, List.head?_append, hhead]
    rfl
  rw [Paragraph.canJoin_iff, opened_isBlank, opened_isBlank, hafter, hbefore]
  exact ⟨⟨hx, hy⟩, ⟨rfl, rfl⟩, rfl, rfl, (Comment.inside_trim x).trans hcomment, hwhole⟩

/-- Merging does not see soft wraps. -/
private theorem merge_softWrap {cfg : Config} (hafter : cfg.keepAfter = none)
    (hbefore : cfg.keepBefore = none) {rows rows' : List Text} (h : SoftWrap rows rows') :
    Paragraph.merge cfg (Paragraph.dedup (rows.map opened)) =
      Paragraph.merge cfg (Paragraph.dedup (rows'.map opened)) := by
  cases h with
  | @wrap before after x y hx hy hxlast hyhead hcomment hpercent =>
      have hwrap := opened_wrap hx hxlast hyhead hcomment
      have hjoin := canJoin_opened hafter hbefore hx hy hyhead hcomment hpercent
      have hxblank : (opened x).isBlank = false := (opened_isBlank x).trans hx
      have hyblank : (opened y).isBlank = false := (opened_isBlank y).trans hy
      obtain ⟨as, bs, hrow, hparts⟩ := Paragraph.dedup_wrap (before.map opened) hxblank hyblank
        (Paragraph.isBlank_join (opened y) hxblank) (after.map opened)
      rw [List.map_append, List.map_append, List.map_cons, List.map_cons, List.map_cons, hwrap,
        hrow, hparts]
      exact Paragraph.merge_wrap hafter hbefore hjoin (Text.trim_trim x) as bs
  | @blank before after w w' hw hw' =>
      rw [List.map_append, List.map_append, List.map_cons, List.map_cons, List.map_cons,
        Paragraph.dedup_blank (before.map opened) ((opened_isBlank w).trans hw)
          ((opened_isBlank w').trans hw') rfl (after.map opened)]

/-- Where lines are joined, no region is verbatim and no pattern keeps line breaks, documents that
differ by soft wraps have the same outcome. -/
theorem processRows_softWrap (cfg : Config) (hjoin : cfg.joinLines = true)
    (hopening : cfg.verbatim.opening = none) (hclosing : cfg.verbatim.closing = none)
    (hafter : cfg.keepAfter = none) (hbefore : cfg.keepBefore = none) {rows rows' : List Text}
    (h : Relation.EqvGen SoftWrap rows rows') : cfg.processRows rows = cfg.processRows rows' := by
  induction h with
  | rel rows rows' hwrap =>
      rw [Config.processRows, Config.processRows, run_eq_merge hjoin hopening hclosing,
        run_eq_merge hjoin hopening hclosing, merge_softWrap hafter hbefore hwrap]
  | refl rows => rfl
  | symm rows rows' _ ih => exact ih.symm
  | trans rows rows' rows'' _ _ ih ih' => exact ih.trans ih'

/-- A paragraph with a macro and two sentences is wrapped, and the blank row behind it is doubled.
-/
theorem processRows_softWrap_paragraph :
    let cfg : Config := { breaks := [⟨['x'], .around⟩] }
    let rows := ["a\\x b. c\\% d", "", "e"].map String.toList
    let rows' := ["a\\x b.", "c\\% d", "", " ", "e"].map String.toList
    cfg.joinLines = true ∧ cfg.verbatim.opening = none ∧ cfg.verbatim.closing = none ∧
      cfg.keepAfter = none ∧ cfg.keepBefore = none ∧ Relation.EqvGen SoftWrap rows rows' ∧
      cfg.processRows rows' = .ok "a\n\\x\nb.\nc\\% d\n\ne\n".toList := by
  intro cfg rows rows'
  have hwrapped : Relation.EqvGen SoftWrap rows rows' := by
    refine .trans _ (["a\\x b.", "c\\% d", "", "e"].map String.toList) _ (.rel _ _ ?_) (.rel _ _ ?_)
    · refine .wrap [] (["", "e"].map String.toList) (x := "a\\x b.".toList) (y := "c\\% d".toList)
        rfl rfl ?_ ?_ (by decide) (by decide)
      · rintro c ⟨⟩
        rfl
      · rintro c ⟨⟩
        rfl
    · exact .blank (["a\\x b.", "c\\% d"].map String.toList) ["e".toList] (w := []) rfl rfl
  refine ⟨rfl, rfl, rfl, rfl, rfl, hwrapped, ?_⟩
  rw [← processRows_softWrap cfg rfl rfl rfl rfl rfl hwrapped]
  decide +kernel

end TexReflow
