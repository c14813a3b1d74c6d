import TexReflow.Command.Files
import TexReflow.Proofs.Passes

/-!
# Writing a file

A path leads through directories only, so that all places above the one it names have entries.
Writing to it puts a file there and leaves every other place of the tree as it is.
-/

namespace TexReflow.Command.Files

private theorem lookup_replace (entries : List (Location × Entry)) (place q : Location)
    (e : Entry) :
    (entries.map fun (l, old) => if l = place then (l, e) else (l, old)).lookup q =
      (entries.lookup q).map fun old => if q = place then e else old := by
  induction entries with
  | nil => rfl
  | cons entry entries ih =>
      obtain ⟨l, old⟩ := entry
      by_cases hq : q = l
      · subst hq
        by_cases hplace : q = place <;> simp [hplace]
      · have hskip (x : Entry) (rest : List (Location × Entry)) :
            ((l, x) :: rest).lookup q = rest.lookup q := by
          simp [List.lookup_cons, beq_false_of_ne hq]
        rw [hskip, ← ih, List.map_cons]
        by_cases hplace : l = place
        · subst hplace
          simp [hskip]
        · simp [hplace, hskip]

/-- A file at the place that was written, and the entries elsewhere. -/
private theorem lookup_put (fs : Files) (place q : Location) (e : Entry) :
    (fs.put place e).entries.lookup q = if q = place then some e else fs.entries.lookup q := by
  rw [put]
  split
  next hsome =>
    rw [lookup_replace]
    by_cases hq : q = place
    · subst hq
      obtain ⟨old, hold⟩ := Option.isSome_iff_exists.mp hsome
      simp [hold]
    · simp [hq]
  next hnone =>
    rw [List.lookup_append]
    by_cases hq : q = place
    · subst hq
      rw [Option.not_isSome_iff_eq_none] at hnone
      simp [hnone]
    · simp [hq, List.lookup_cons, beq_false_of_ne hq]

/-- The places above the entries are those of before and those above the place written. -/
private theorem any_put (fs : Files) (place q : Location) (e : Entry) :
    ((fs.put place e).entries.any (q.isPrefixOf ·.1)) =
      (fs.entries.any (q.isPrefixOf ·.1) || q.isPrefixOf place) := by
  rw [put]
  split
  next hsome =>
    obtain ⟨old, hold⟩ := Option.isSome_iff_exists.mp hsome
    have hkeys : (fs.entries.map fun (l, old) => if l = place then (l, e) else (l, old)).any
        (q.isPrefixOf ·.1) = fs.entries.any (q.isPrefixOf ·.1) := by
      rw [List.any_map]
      congr 1
      funext entry
      by_cases hplace : entry.1 = place <;> simp [hplace]
    rw [hkeys, Bool.eq_iff_iff, Bool.or_eq_true]
    refine ⟨.inl, fun h => h.elim id fun habove => ?_⟩
    obtain ⟨before, after, hentries, -⟩ := List.lookup_eq_some_iff.mp hold
    exact List.any_eq_true.mpr ⟨(place, old), by simp [hentries], habove⟩
  next => simp

theorem get?_put_self (fs : Files) (place : Location) (e : Entry) :
    (fs.put place e).get? place = some e := by
  rw [get?, lookup_put, if_pos rfl]

/-- The places with an entry are the root and those at or above what is in the tree. -/
theorem isSome_get?_iff {fs : Files} {q : Location} :
    (fs.get? q).isSome ↔ (∃ entry ∈ fs.entries, q <+: entry.1) ∨ q = [] := by
  rw [get?]
  cases hlookup : fs.entries.lookup q with
  | none => simp
  | some e =>
      obtain ⟨before, after, hentries, -⟩ := List.lookup_eq_some_iff.mp hlookup
      exact iff_of_true rfl (.inl ⟨(q, e), by simp [hentries], List.prefix_refl q⟩)

theorem isSome_get?_of_isPrefix {fs : Files} {place q : Location} (h : (fs.get? place).isSome)
    (hq : q <+: place) : (fs.get? q).isSome := by
  rcases isSome_get?_iff.mp h with ⟨entry, hentry, hplace⟩ | rfl
  · exact isSome_get?_iff.mpr (.inl ⟨entry, hentry, hq.trans hplace⟩)
  · exact isSome_get?_iff.mpr (.inr (List.prefix_nil.mp hq))

theorem get?_put_of_ne {fs : Files} {place q : Location} (hq : q ≠ place)
    (habove : q <+: place → (fs.get? q).isSome) (e : Entry) :
    (fs.put place e).get? q = fs.get? q := by
  rw [get?, lookup_put, if_neg hq, any_put]
  rw [get?] at habove ⊢
  cases hlookup : fs.entries.lookup q with
  | some old => rfl
  | none =>
      cases hprefix : q.isPrefixOf place with
      | false => rw [Bool.or_false]
      | true =>
          have hsome := habove (List.isPrefixOf_iff_prefix.mp hprefix)
          simp only [hlookup, Option.isSome_ite] at hsome
          simp only [hsome, Bool.or_true, Bool.true_or]

/-- A step of a walk goes through a directory that can be searched. -/
theorem walk_cons_eq_ok_iff {fs : Files} {here place : Location} {part : Text}
    {parts : List Text} :
    fs.walk here (part :: parts) = .ok place ↔
      (∃ access, fs.get? here = some (.directory access) ∧ access.search = true) ∧
        exceeds maxName part = false ∧
        fs.walk (if part = ['.', '.'] then here.dropLast else here ++ [part]) parts =
          .ok place := by
  rw [walk]
  rcases fs.get? here with _ | (_ | access)
  · simp
  · simp
  · cases hsearch : access.search <;> cases hname : exceeds maxName part <;> simp [hsearch]

/-- All places above the one that parts lead to have an entry, if this is so where they start. -/
theorem isSome_get?_of_walk {fs : Files} {here place : Location} {parts : List Text}
    (h : fs.walk here parts = .ok place)
    (hhere : ∀ q, q <+: here → q ≠ here → (fs.get? q).isSome) :
    ∀ q, q <+: place → q ≠ place → (fs.get? q).isSome := by
  induction parts generalizing here with
  | nil =>
      cases h
      exact hhere
  | cons part parts ih =>
      obtain ⟨⟨access, hdirectory, -⟩, -, h⟩ := walk_cons_eq_ok_iff.mp h
      have hall (q : Location) (hq : q <+: here) : (fs.get? q).isSome :=
        isSome_get?_of_isPrefix (by rw [hdirectory, Option.isSome_some]) hq
      refine ih h ?_
      intro q hq hne
      split at hq
      · exact hall q (hq.trans (List.dropLast_prefix here))
      next hdots =>
        rw [if_neg hdots] at hne
        exact hall q ((List.prefix_concat_iff.mp hq).resolve_left hne)

/-- A path leads from the root, or from the working directory, which has an entry. -/
theorem locate_eq_ok_iff {fs : Files} {cwd p : Path} {place : Location} :
    fs.locate cwd p = .ok place ↔
      p.text.contains '\x00' = false ∧ exceeds maxPath p.text = false ∧
        (p.root.isEmpty = false ∧ fs.walk [] p.parts = .ok place ∨
          p.root.isEmpty = true ∧ (fs.get? cwd.parts).isSome ∧
            fs.walk cwd.parts p.parts = .ok place) := by
  rw [locate]
  cases p.text.contains '\x00' <;> cases exceeds maxPath p.text <;> cases p.root.isEmpty <;>
    cases (fs.get? cwd.parts).isSome <;> simp

theorem isSome_get?_of_locate {fs : Files} {cwd p : Path} {place : Location}
    (h : fs.locate cwd p = .ok place) : ∀ q, q <+: place → q ≠ place → (fs.get? q).isSome := by
  obtain ⟨-, -, ⟨-, h⟩ | ⟨-, hcwd, h⟩⟩ := locate_eq_ok_iff.mp h
  · exact isSome_get?_of_walk h fun q hq hne => absurd (List.prefix_nil.mp hq) hne
  · exact isSome_get?_of_walk h fun q hq _ => isSome_get?_of_isPrefix hcwd hq

/-- Parts lead to the same place in every tree that has the same directories. -/
theorem walk_congr {fs fs' : Files}
    (hfs : ∀ q access, fs.get? q = some (.directory access) →
      fs'.get? q = some (.directory access))
    {here place : Location} {parts : List Text} (h : fs.walk here parts = .ok place) :
    fs'.walk here parts = .ok place := by
  induction parts generalizing here with
  | nil => exact h
  | cons part parts ih =>
      obtain ⟨⟨access, hdirectory, hsearch⟩, hname, h⟩ := walk_cons_eq_ok_iff.mp h
      exact walk_cons_eq_ok_iff.mpr ⟨⟨access, hfs here access hdirectory, hsearch⟩, hname, ih h⟩

/-- What is written is a file that was there before, or a new one. -/
theorem write_eq_ok {fs fs' : Files} {cwd p : Path} {octets : List UInt8}
    (h : fs.write cwd p octets = .ok fs') :
    ∃ place access, fs.locate cwd p = .ok place ∧
      (fs.get? place = none ∨ ∃ old, fs.get? place = some (.file old access)) ∧
      fs' = fs.put place (.file octets access) := by
  obtain ⟨place, hplace, h⟩ := bind_eq_ok_iff.mp (mapError_eq_ok_iff.mp h)
  split at h
  · cases h
  next old access hold =>
    split at h
    · exact ⟨place, access, hplace, .inr ⟨old, hold⟩, (Except.ok.inj h).symm⟩
    · cases h
  next hnone =>
    split at h
    · exact ⟨place, {}, hplace, .inl hnone, (Except.ok.inj h).symm⟩
    · cases h

section Put

variable {fs : Files} {cwd p : Path} {place : Location} {octets : List UInt8} {access : Access}
  (hplace : fs.locate cwd p = .ok place)

include hplace

theorem get?_put_of_locate (e : Entry) {q : Location} (hq : q ≠ place) :
    (fs.put place e).get? q = fs.get? q :=
  get?_put_of_ne hq (isSome_get?_of_locate hplace q · hq) e

/-- The path of a file names it after it has been written, too. -/
theorem locate_put
    (hold : fs.get? place = none ∨ ∃ old, fs.get? place = some (.file old access)) :
    (fs.put place (.file octets access)).locate cwd p = .ok place := by
  have hkept {q : Location} {a : Access} (hq : fs.get? q = some (.directory a)) :
      (fs.put place (.file octets access)).get? q = some (.directory a) := by
    rw [get?_put_of_locate hplace _, hq]
    rintro rfl
    rcases hold with hold | ⟨old, hold⟩ <;> simp [hold] at hq
  have hsome {q : Location} (hq : (fs.get? q).isSome) :
      ((fs.put place (.file octets access)).get? q).isSome := by
    by_cases hqp : q = place
    · rw [hqp, get?_put_self, Option.isSome_some]
    · rwa [get?_put_of_locate hplace _ hqp]
  obtain ⟨hnull, hlong, ⟨hroot, hwalk⟩ | ⟨hroot, hcwd, hwalk⟩⟩ := locate_eq_ok_iff.mp hplace
  · exact locate_eq_ok_iff.mpr ⟨hnull, hlong, .inl ⟨hroot, walk_congr (fun _ _ => hkept) hwalk⟩⟩
  · exact locate_eq_ok_iff.mpr
      ⟨hnull, hlong, .inr ⟨hroot, hsome hcwd, walk_congr (fun _ _ => hkept) hwalk⟩⟩

end Put

end TexReflow.Command.Files
