import Mathlib.Data.List.Forall2
import TexReflow.Document

/-!
# Passes line by line

Apart from dropping blank lines and merging, a pass turns each line into lines of its own, whatever
its neighbours are. `Pass.Makes` says once which lines these can be, so that what a run keeps is
proved for one line at a time.
-/

namespace TexReflow

theorem bind_eq_ok_iff {ε α β : Type} {x : Except ε α} {f : α → Except ε β} {b : β} :
    x >>= f = .ok b ↔ ∃ a, x = .ok a ∧ f a = .ok b := by
  constructor
  · intro h
    cases x with
    | error e => cases h
    | ok a => exact ⟨a, rfl, h⟩
  · intro h
    obtain ⟨a, rfl, h⟩ := h
    exact h

theorem bind_eq_error_iff {ε α β : Type} {x : Except ε α} {f : α → Except ε β} {e : ε} :
    x >>= f = .error e ↔ x = .error e ∨ ∃ a, x = .ok a ∧ f a = .error e := by
  cases x with
  | error e' => simp [bind, Except.bind]
  | ok a => simp [bind, Except.bind]

theorem mapError_eq_ok_iff {ε ε' α : Type} {f : ε → ε'} {x : Except ε α} {a : α} :
    x.mapError f = .ok a ↔ x = .ok a := by
  cases x <;> simp [Except.mapError]

theorem mapM_eq_ok_iff {ε α β : Type} {f : α → Except ε β} {xs : List α} {ys : List β} :
    xs.mapM f = .ok ys ↔ List.Forall₂ (fun x y => f x = .ok y) xs ys := by
  induction xs generalizing ys with
  | nil =>
      rw [List.mapM_nil, List.forall₂_nil_left_iff]
      constructor
      · intro h
        cases h
        rfl
      · intro h
        subst h
        rfl
  | cons x xs ih =>
      rw [List.mapM_cons, bind_eq_ok_iff]
      constructor
      · intro h
        obtain ⟨y, hy, h⟩ := h
        obtain ⟨zs, hzs, h⟩ := bind_eq_ok_iff.mp h
        cases h
        exact .cons hy (ih.mp hzs)
      · intro h
        cases h with
        | cons hy hzs => exact ⟨_, hy, bind_eq_ok_iff.mpr ⟨_, ih.mpr hzs, rfl⟩⟩

namespace Region

/-- One step of a scan. A line opens its region before it closes one, and can close only a region
that is open. -/
theorem scanFrom_cons (m : Markers) (depth line : Nat) (c : Text) (cs : List Text) :
    scanFrom m depth line (c :: cs) =
      if depth + (Pattern.marks m.opening c).toNat < (Pattern.marks m.closing c).toNat then
        .error ⟨line, c⟩
      else
        (scanFrom m (depth + (Pattern.marks m.opening c).toNat -
          (Pattern.marks m.closing c).toNat) (line + 1) cs).map fun s =>
            ⟨(depth + (Pattern.marks m.opening c).toNat != 0) :: s.mask, s.depth⟩ := by
  have hentered : (if Pattern.marks m.opening c then depth + 1 else depth) =
      depth + (Pattern.marks m.opening c).toNat := by
    cases Pattern.marks m.opening c <;> rfl
  rw [scanFrom, hentered]
  cases Pattern.marks m.closing c with
  | true => cases depth + (Pattern.marks m.opening c).toNat <;> simp
  | false => simp

theorem scanFrom_cons_eq_ok_iff {m : Markers} {depth line : Nat} {c : Text} {cs : List Text}
    {s : Scan} :
    scanFrom m depth line (c :: cs) = .ok s ↔
      ∃ left s', depth + (Pattern.marks m.opening c).toNat =
          left + (Pattern.marks m.closing c).toNat ∧ scanFrom m left (line + 1) cs = .ok s' ∧
        s = ⟨(depth + (Pattern.marks m.opening c).toNat != 0) :: s'.mask, s'.depth⟩ := by
  rw [scanFrom_cons]
  split
  next hlt =>
    refine ⟨nofun, ?_⟩
    rintro ⟨left, s', hleft, -⟩
    omega
  next hle =>
    obtain ⟨left, hleft⟩ := Nat.exists_eq_add_of_le' (Nat.le_of_not_lt hle)
    rw [hleft, Nat.add_sub_cancel]
    cases hrest : scanFrom m left (line + 1) cs <;> simp [Except.map, hrest, eq_comm]

theorem scanFrom_mask_length {m : Markers} {depth line : Nat} {cs : List Text} {s : Scan}
    (h : scanFrom m depth line cs = .ok s) : s.mask.length = cs.length := by
  induction cs generalizing depth line s with
  | nil =>
      cases h
      rfl
  | cons c cs ih =>
      obtain ⟨left, s', -, hs', rfl⟩ := scanFrom_cons_eq_ok_iff.mp h
      rw [List.length_cons, List.length_cons, ih hs']

theorem scan_mask_length {m : Markers} {cs : List Text} {s : Scan} (h : scan m cs = .ok s) :
    s.mask.length = cs.length := scanFrom_mask_length h

/-- Without any mark no line lies inside a region. -/
theorem scanFrom_of_not_given {m : Markers} (hm : given m = false) (line : Nat) (cs : List Text) :
    scanFrom m 0 line cs = .ok ⟨List.replicate cs.length false, 0⟩ := by
  obtain ⟨opening, closing⟩ := m
  cases opening with
  | some p => cases hm
  | none =>
      cases closing with
      | some p => cases hm
      | none =>
          induction cs generalizing line with
          | nil => rfl
          | cons c cs ih =>
              have hrest := ih (line + 1)
              simp only [scanFrom, Pattern.marks, Option.any_none, Bool.false_eq_true, if_false,
                hrest]
              rfl

private theorem zipWith_replicate_false (f : Line → Line) (ls : List Line) :
    List.zipWith (fun l inside => if inside then f l else l) ls (List.replicate ls.length false) =
      ls := by
  induction ls with
  | nil => rfl
  | cons l ls ih =>
      rw [List.length_cons, List.replicate_succ, List.zipWith_cons_cons, ih]
      rfl

/-- Marking is a scan followed by a change of the lines inside, whether marks are given or not. -/
theorem mark_eq_ok_iff {m : Markers} {f : Line → Line} {ls out : List Line} :
    mark m f ls = .ok out ↔ ∃ s, scan m (ls.map (·.content)) = .ok s ∧
      out = List.zipWith (fun l inside => if inside then f l else l) ls s.mask := by
  rw [mark]
  cases hm : given m with
  | true =>
      rw [if_neg (by simp), bind_eq_ok_iff]
      constructor
      · intro h
        obtain ⟨s, hs, h⟩ := h
        cases h
        exact ⟨s, hs, rfl⟩
      · intro h
        obtain ⟨s, hs, rfl⟩ := h
        exact ⟨s, hs, rfl⟩
  | false =>
      rw [if_pos (by simp), scan, scanFrom_of_not_given hm, List.length_map]
      constructor
      · intro h
        cases h
        exact ⟨_, rfl, (zipWith_replicate_false f ls).symm⟩
      · intro h
        obtain ⟨s, hs, rfl⟩ := h
        cases hs
        rw [zipWith_replicate_false]

/-- The outcome of marking in one piece, also where the scan fails. -/
theorem mark_eq_map (m : Markers) (f : Line → Line) (ls : List Line) :
    mark m f ls = (scan m (ls.map (·.content))).map fun s =>
      List.zipWith (fun l inside => if inside then f l else l) ls s.mask := by
  cases hs : scan m (ls.map (·.content)) with
  | ok s => exact mark_eq_ok_iff.mpr ⟨s, hs, rfl⟩
  | error u =>
      rw [mark]
      split
      next hgiven =>
        rw [scan, scanFrom_of_not_given (by simpa using hgiven)] at hs
        cases hs
      next =>
        rw [hs]
        rfl

/-- A line with its mark is one of the lines before, marked or not. -/
theorem mem_of_mem_marked {f : Line → Line} {ls : List Line} {mask : List Bool} {q : Line}
    (h : q ∈ List.zipWith (fun l inside => if inside then f l else l) ls mask) :
    ∃ l ∈ ls, q = l ∨ q = f l := by
  rw [← List.map_uncurry_zip_eq_zipWith] at h
  obtain ⟨⟨l, inside⟩, hl, rfl⟩ := List.mem_map.mp h
  refine ⟨l, (List.of_mem_zip hl).1, ?_⟩
  cases inside with
  | true => exact .inr rfl
  | false => exact .inl rfl

end Region

/-- What it takes for a line break to be soft. -/
theorem Paragraph.canJoin_iff {cfg : Config} {first second : Line} :
    canJoin cfg first second = true ↔
      (first.isBlank = false ∧ second.isBlank = false) ∧
        (first.verbatim = false ∧ second.verbatim = false) ∧
          Pattern.marks cfg.keepAfter first.content = false ∧
            Pattern.marks cfg.keepBefore second.content = false ∧
              Comment.inside first.content = false ∧ second.comment = false := by
  simp only [canJoin, Bool.not_eq_true', Bool.or_eq_false_iff, and_assoc]

/-- Dropping blank lines remembers nothing but whether the last line was blank. -/
theorem Paragraph.dropBlanks_append (blank : Bool) (as bs : List Line) :
    dropBlanks blank (as ++ bs) =
      dropBlanks blank as ++ dropBlanks ((as.map Line.isBlank).getLast?.getD blank) bs := by
  induction as generalizing blank with
  | nil => rfl
  | cons l as ih =>
      rw [List.cons_append, dropBlanks, dropBlanks, List.map_cons, List.getLast?_cons,
        Option.getD_some]
      split
      next hdrop =>
        simp only [Bool.and_eq_true] at hdrop
        rw [ih, hdrop.1.1, hdrop.1.2]
      next => rw [ih, List.cons_append]

theorem Paragraph.dropBlanks_cons (blank : Bool) {l : Line} (hl : l.isBlank = false)
    (ls : List Line) : dropBlanks blank (l :: ls) = l :: dropBlanks false ls := by
  rw [dropBlanks, hl]
  rfl

namespace Pass

/-- What a pass makes of one line, for the passes that look at one line at a time. -/
def Makes (cfg : Config) (p : Pass) (l : Line) (qs : List Line) : Prop :=
  match p with
  | .markVerbatim => qs = [l] ∨ qs = [{ l with verbatim := true }]
  | .trim => qs = [l.trim]
  | .markComments => qs = [Comment.mark l]
  | .breakLines => ∃ rules, cfg.rules = .ok rules ∧ Macro.breakLine rules cfg.newline l = .ok qs
  | .markMath => qs = [l] ∨ qs = [{ l with math := true }]
  | .splitSentences => qs = if Sentence.skips l then [l] else Sentence.split cfg l
  | .collapse => qs = [l.collapse]
  | .dedup | .merge => False

private theorem makes_of_map {R : Line → List Line → Prop} {f : Line → Line}
    (hf : ∀ l, R l [f l]) (ls : List Line) :
    ∃ qss, List.Forall₂ R ls qss ∧ ls.map f = qss.flatten := by
  induction ls with
  | nil => exact ⟨[], .nil, rfl⟩
  | cons l ls ih =>
      obtain ⟨qss, hqss, hls⟩ := ih
      refine ⟨[f l] :: qss, .cons (hf l) hqss, ?_⟩
      rw [List.map_cons, hls]
      rfl

private theorem makes_of_mark {R : Line → List Line → Prop} {f : Line → Line}
    (hsame : ∀ l, R l [l]) (hf : ∀ l, R l [f l]) {ls : List Line} {mask : List Bool}
    (hlen : mask.length = ls.length) :
    ∃ qss, List.Forall₂ R ls qss ∧
      List.zipWith (fun l inside => if inside then f l else l) ls mask = qss.flatten := by
  induction ls generalizing mask with
  | nil => exact ⟨[], .nil, rfl⟩
  | cons l ls ih =>
      cases mask with
      | nil => cases hlen
      | cons b mask =>
          obtain ⟨qss, hqss, hls⟩ := ih (Nat.succ.inj hlen)
          cases b with
          | true =>
              refine ⟨[f l] :: qss, .cons (hf l) hqss, ?_⟩
              rw [List.zipWith_cons_cons, hls]
              rfl
          | false =>
              refine ⟨[l] :: qss, .cons (hsame l) hqss, ?_⟩
              rw [List.zipWith_cons_cons, hls]
              rfl

/-- A pass other than `dedup` and `merge` takes the lines one at a time. -/
theorem apply_makes {cfg : Config} {p : Pass} {ls out : List Line} (hdedup : p ≠ .dedup)
    (hmerge : p ≠ .merge) (h : p.apply cfg ls = .ok out) :
    ∃ qss, List.Forall₂ (p.Makes cfg) ls qss ∧ out = qss.flatten := by
  cases p with
  | markVerbatim =>
      obtain ⟨s, hs, rfl⟩ := Region.mark_eq_ok_iff.mp (mapError_eq_ok_iff.mp h)
      apply makes_of_mark (fun l => .inl rfl) (fun l => .inr rfl)
      rw [Region.scan_mask_length hs, List.length_map]
  | trim =>
      cases h
      apply makes_of_map
      intro l
      rfl
  | markComments =>
      cases h
      apply makes_of_map
      intro l
      rfl
  | dedup => exact absurd rfl hdedup
  | merge => exact absurd rfl hmerge
  | breakLines =>
      obtain ⟨rules, hrules, h⟩ := bind_eq_ok_iff.mp h
      obtain ⟨qss, hqss, h⟩ := bind_eq_ok_iff.mp h
      cases h
      refine ⟨qss, (mapM_eq_ok_iff.mp hqss).imp ?_, rfl⟩
      intro l qs hl
      exact ⟨rules, hrules, hl⟩
  | markMath =>
      obtain ⟨s, hs, rfl⟩ := Region.mark_eq_ok_iff.mp (mapError_eq_ok_iff.mp h)
      apply makes_of_mark (fun l => .inl rfl) (fun l => .inr rfl)
      rw [Region.scan_mask_length hs, List.length_map]
  | splitSentences =>
      cases h
      refine ⟨ls.map fun l => if Sentence.skips l then [l] else Sentence.split cfg l, ?_, ?_⟩
      · rw [List.forall₂_map_right_iff, List.forall₂_same]
        intro l _
        rfl
      · rw [Sentence.splitAll, List.flatMap_def]
  | collapse =>
      cases h
      apply makes_of_map
      intro l
      rfl

/-- What is put together from its values for the lines, and is kept of each line, a pass keeps. -/
theorem apply_congr {β : Type} {F : List Line → β}
    (happend : ∀ {as as' bs bs'}, F as = F as' → F bs = F bs' → F (as ++ bs) = F (as' ++ bs'))
    {cfg : Config} {p : Pass} {ls out : List Line} (hdedup : p ≠ .dedup) (hmerge : p ≠ .merge)
    (hmakes : ∀ l ∈ ls, ∀ {qs}, p.Makes cfg l qs → F qs = F [l]) (h : p.apply cfg ls = .ok out) :
    F out = F ls := by
  obtain ⟨qss, hqss, rfl⟩ := apply_makes hdedup hmerge h
  clear h
  induction hqss with
  | nil => rfl
  | cons hl _ ih =>
      obtain ⟨hfirst, hmakes⟩ := List.forall_mem_cons.mp hmakes
      exact happend (hfirst hl) (ih hmakes)

theorem applyAll_cons (cfg : Config) (p : Pass) (ps : List Pass) (ls : List Line) :
    applyAll cfg (p :: ps) ls = p.apply cfg ls >>= applyAll cfg ps :=
  List.foldlM_cons

/-- What every pass of a sequence does to the lines, the whole sequence does. -/
theorem applyAll_rel {cfg : Config} {R : List Line → List Line → Prop} (hrefl : ∀ ls, R ls ls)
    (htrans : ∀ {as bs cs}, R as bs → R bs cs → R as cs) {ps : List Pass}
    (hstep : ∀ p ∈ ps, ∀ {as bs}, p.apply cfg as = .ok bs → R as bs) {ls out : List Line}
    (h : applyAll cfg ps ls = .ok out) : R ls out := by
  induction ps generalizing ls with
  | nil =>
      cases h
      exact hrefl _
  | cons p ps ih =>
      obtain ⟨mid, hmid, h⟩ := bind_eq_ok_iff.mp (applyAll_cons cfg p ps ls ▸ h)
      have hfirst := hstep p List.mem_cons_self hmid
      exact htrans hfirst (ih (fun q hq => hstep q (List.mem_cons_of_mem p hq)) h)

theorem applyAll_append (cfg : Config) (ps qs : List Pass) (ls : List Line) :
    applyAll cfg (ps ++ qs) ls = applyAll cfg ps ls >>= applyAll cfg qs :=
  List.foldlM_append

section

variable {P : Line → Prop}

theorem forall_dropBlanks {blank : Bool} {ls : List Line} (hls : ∀ l ∈ ls, P l) :
    ∀ l ∈ Paragraph.dropBlanks blank ls, P l := by
  induction ls generalizing blank with
  | nil => exact hls
  | cons l ls ih =>
      obtain ⟨hl, hls⟩ := List.forall_mem_cons.mp hls
      rw [Paragraph.dropBlanks]
      split
      · exact ih hls
      · exact List.forall_mem_cons.mpr ⟨hl, ih hls⟩

theorem forall_mergeFrom {cfg : Config}
    (hjoin : ∀ {first second}, Paragraph.canJoin cfg first second = true → P first → P second →
      P (Paragraph.join first second))
    {first : Line} {ls : List Line} (hfirst : P first) (hls : ∀ l ∈ ls, P l) :
    ∀ l ∈ Paragraph.mergeFrom cfg first ls, P l := by
  induction ls generalizing first with
  | nil => exact List.forall_mem_singleton.mpr hfirst
  | cons second ls ih =>
      obtain ⟨hsecond, hls⟩ := List.forall_mem_cons.mp hls
      rw [Paragraph.mergeFrom]
      split
      next hcan => exact ih (hjoin hcan hfirst hsecond) hls
      next => exact List.forall_mem_cons.mpr ⟨hfirst, ih hsecond hls⟩

/-- What a pass keeps line by line and joining keeps, holds of all lines behind the pass. -/
theorem apply_forall {cfg : Config} {p : Pass}
    (hmakes : ∀ {l qs}, P l → p.Makes cfg l qs → ∀ q ∈ qs, P q)
    (hjoin : ∀ {first second}, Paragraph.canJoin cfg first second = true → P first → P second →
      P (Paragraph.join first second))
    {ls out : List Line} (h : p.apply cfg ls = .ok out) (hls : ∀ l ∈ ls, P l) : ∀ l ∈ out, P l := by
  by_cases hdedup : p = .dedup
  · subst hdedup
    cases h
    exact forall_dropBlanks hls
  by_cases hmerge : p = .merge
  · subst hmerge
    cases h
    cases ls with
    | nil => exact hls
    | cons l ls =>
        obtain ⟨hl, hls⟩ := List.forall_mem_cons.mp hls
        exact forall_mergeFrom hjoin hl hls
  · obtain ⟨qss, hqss, rfl⟩ := apply_makes hdedup hmerge h
    clear h
    induction hqss with
    | nil => simp
    | cons hl _ ih =>
        obtain ⟨hfirst, hls⟩ := List.forall_mem_cons.mp hls
        rw [List.flatten_cons, List.forall_mem_append]
        exact ⟨hmakes hfirst hl, ih hls⟩

/-- What holds of all lines and is kept by every pass of a sequence holds behind the sequence. -/
theorem applyAll_forall {cfg : Config} {ps : List Pass}
    (hstep : ∀ p ∈ ps, ∀ {as bs}, p.apply cfg as = .ok bs → (∀ l ∈ as, P l) → ∀ l ∈ bs, P l)
    {ls out : List Line} (h : applyAll cfg ps ls = .ok out) (hls : ∀ l ∈ ls, P l) :
    ∀ l ∈ out, P l := by
  induction ps generalizing ls with
  | nil =>
      cases h
      exact hls
  | cons p ps ih =>
      obtain ⟨mid, hmid, h⟩ := bind_eq_ok_iff.mp (applyAll_cons cfg p ps ls ▸ h)
      have hfirst := hstep p List.mem_cons_self hmid hls
      exact ih (fun q hq => hstep q (List.mem_cons_of_mem p hq)) h hfirst

end

/-- The last passes of a run, from cutting into sentences on. -/
theorem applyAll_closing (cfg : Config) (ls : List Line) :
    applyAll cfg ((if cfg.splitSentences then [.splitSentences] else []) ++ [.trim, .collapse]) ls =
      .ok (((if cfg.splitSentences then Sentence.splitAll cfg ls else ls).map Line.trim).map
        Line.collapse) := by
  cases cfg.splitSentences <;> rfl

end Pass

theorem Line.map_content_ofRow (rows : List Text) :
    (rows.map Line.ofRow).map (·.content) = rows := by
  rw [List.map_map]
  exact List.map_id rows

namespace Config

/-- A run marks verbatim regions first, and never again. -/
theorem markVerbatim_not_mem_tail (cfg : Config) : .markVerbatim ∉ cfg.passes.tail := by
  rw [passes]
  cases cfg.joinLines <;> cases cfg.splitSentences <;> simp

/-- The rules are read, the rows of verbatim regions are marked, and the other passes follow. -/
theorem run_eq_bind (cfg : Config) (rows : List Text) :
    cfg.run rows = cfg.rules >>= fun _ =>
      ((Region.scan cfg.verbatim rows).map fun s =>
        List.zipWith (fun l inside => if inside then { l with verbatim := true } else l)
          (rows.map Line.ofRow) s.mask).mapError .unbalanced >>=
        Pass.applyAll cfg cfg.passes.tail := by
  rw [run, show cfg.passes = .markVerbatim :: cfg.passes.tail from rfl]
  congr 1
  funext _
  rw [Pass.applyAll_cons, Pass.apply, Region.markVerbatim, Region.mark_eq_map,
    Line.map_content_ofRow]
  rfl

/-- A run that ends with lines has found the verbatim regions, and the passes behind the marking
have made the lines. -/
theorem exists_scan_of_run {cfg : Config} {rows : List Text} {out : List Line}
    (h : cfg.run rows = .ok out) :
    ∃ s, Region.scan cfg.verbatim rows = .ok s ∧
      Pass.applyAll cfg cfg.passes.tail
        (List.zipWith (fun l inside => if inside then { l with verbatim := true } else l)
          (rows.map Line.ofRow) s.mask) = .ok out := by
  rw [run_eq_bind] at h
  obtain ⟨-, -, h⟩ := bind_eq_ok_iff.mp h
  obtain ⟨marked, hmarked, h⟩ := bind_eq_ok_iff.mp h
  cases hs : Region.scan cfg.verbatim rows with
  | error u =>
      rw [hs] at hmarked
      cases hmarked
  | ok s =>
      rw [hs] at hmarked
      cases hmarked
      exact ⟨s, rfl, h⟩

end Config

end TexReflow
