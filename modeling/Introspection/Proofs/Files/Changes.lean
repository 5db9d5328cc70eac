import Introspection.Files.Basic

/-!
# Files that change

* `Files.locate?_of_hasFolder`: a path leads where it led as long as no folder is gone;
* `Files.at?_write`, `Files.at?_delete`: what is at a place after a change;
* `Files.hasFolder_write`, `Files.hasFolder_delete`: no change takes a folder away;
* `Files.mem_write`, `Files.mem_delete`: the files that are there after a change.
-/

namespace Introspection.Files

variable {fs : Files}

/-! ## What paths lead to -/

theorem found?_of_find? {p : Path} {f : File} (h : fs.find? p = some f) :
    fs.found? p = some (.file f) := by
  obtain ⟨q, hq, hf⟩ := Option.bind_eq_some_iff.mp h
  obtain ⟨x, hx, hfile⟩ := Option.bind_eq_some_iff.mp hf
  rw [found?, hq, Option.bind_some, hx]
  cases x with
  | file g => exact congrArg some (congrArg Found.file (Option.some.inj hfile))
  | folder t => cases hfile

theorem find?_of_found? {p : Path} {f : File} (h : fs.found? p = some (.file f)) :
    fs.find? p = some f := by
  obtain ⟨q, hq, hf⟩ := Option.bind_eq_some_iff.mp h
  rw [find?, hq, Option.bind_some, fileAt?, hf]
  rfl

theorem hasFolder_iff {q : Path} : fs.hasFolder q ↔ ∃ t, fs.at? q = some (.folder t) := by
  rw [hasFolder]
  rcases fs.at? q with _ | f | t <;> simp [Found.isFolder]

theorem follow_of_hasFolder {fs' : Files} (h : ∀ q, fs.hasFolder q → fs'.hasFolder q)
    {here q : Path} {ns : List String} (hf : fs.follow here ns = some q) :
    fs'.follow here ns = some q := by
  induction ns generalizing here with
  | nil => exact hf
  | cons n ns ih =>
    rw [follow] at hf ⊢
    by_cases hm : fs.hasFolder here
    · rw [if_pos hm] at hf
      rw [if_pos (h here hm)]
      exact ih hf
    · rw [if_neg hm] at hf
      cases hf

/-- A path leads where it led as long as no folder is gone. -/
theorem locate?_of_hasFolder {fs' : Files} (h : ∀ q, fs.hasFolder q → fs'.hasFolder q)
    {p q : Path} (hl : fs.locate? p = some q) : fs'.locate? p = some q :=
  follow_of_hasFolder h hl

/-! ## Writing -/

theorem grown_subset_way (p : Path) : fs.grown p ⊆ way p := by
  intro q hq
  obtain ⟨⟨q', next⟩, hmem, hx⟩ := List.mem_filterMap.mp hq
  dsimp only at hx
  split at hx
  · rw [← Option.some.inj hx]
    exact (List.of_mem_zip hmem).1
  · cases hx

theorem lookup_map_folder {r : Path} {qs : List Path} {time : Rat} :
    (qs.map (·, Found.folder time)).lookup r = if r ∈ qs then some (.folder time) else none := by
  induction qs with
  | nil => rfl
  | cons q qs ih =>
    rw [List.map_cons, List.lookup_cons, ih]
    by_cases hr : r = q
    · simp [hr]
    · simp [hr, beq_eq_false_iff_ne.mpr hr]

theorem at?_write (p : Path) (file : File) (time : Rat) :
    fs.write p file time = fs ∨ fs.hasFolder (place p) = false ∧ ∀ r,
      (fs.write p file time).at? r =
        if r = place p then some (.file file)
        else if r ∈ fs.grown p then some (.folder time) else fs.at? r := by
  rw [write]
  split
  · exact .inl rfl
  · rename_i hfree
    rw [Bool.or_eq_true, not_or, Bool.not_eq_true] at hfree
    refine .inr ⟨hfree.1, fun r => ?_⟩
    rw [at?, List.cons_append, List.lookup_cons, List.lookup_append, lookup_map_folder]
    by_cases hr : r = place p
    · simp [hr]
    · rw [beq_eq_false_iff_ne.mpr hr, if_neg hr]
      by_cases hg : r ∈ fs.grown p
      · simp [hg]
      · simp [hg, at?]

theorem hasFolder_write (p : Path) (file : File) (time : Rat) {q : Path} (h : fs.hasFolder q) :
    (fs.write p file time).hasFolder q := by
  rcases fs.at?_write p file time with heq | ⟨hfree, hat⟩
  · rwa [heq]
  · rw [hasFolder_iff] at h ⊢
    rw [hat]
    by_cases hq : q = place p
    · rw [← hq, ← Bool.not_eq_true, hasFolder_iff] at hfree
      exact absurd h hfree
    · rw [if_neg hq]
      split
      · exact ⟨time, rfl⟩
      · exact h

theorem mem_write {p : Path} {file : File} {time : Rat} {q : Path} {f : File}
    (h : (q, .file f) ∈ (fs.write p file time).places) :
    (q, f) = (place p, file) ∨ (q, .file f) ∈ fs.places := by
  rw [write] at h
  split at h
  · exact .inr h
  · rw [List.cons_append, List.mem_cons, List.mem_append] at h
    rcases h with h | h | h
    · exact .inl (by simpa using h)
    · simp at h
    · exact .inr h

/-! ## Deleting -/

theorem lookup_filter_of_ne {q r : Path} (h : r ≠ q) (places : List (Path × Found)) :
    (places.filter (·.1 ≠ q)).lookup r = places.lookup r := by
  induction places with
  | nil => rfl
  | cons x places ih =>
    by_cases hx : x.1 = q
    · have hr : (r == x.1) = false := by
        rw [beq_eq_false_iff_ne, hx]
        exact h
      rw [List.filter_cons_of_neg (by simpa using hx), ih, List.lookup_cons, hr]
    · rw [List.filter_cons_of_pos (by simpa using hx), List.lookup_cons, List.lookup_cons, ih]

theorem lookup_filter_self (q : Path) (places : List (Path × Found)) :
    (places.filter (·.1 ≠ q)).lookup q = none := by
  rw [List.lookup_eq_none_iff]
  intro x hx
  rw [List.mem_filter, decide_eq_true_eq] at hx
  rw [bne_iff_ne]
  exact Ne.symm hx.2

theorem at?_delete (p : Path) (time : Rat) :
    fs.delete p time = fs ∨ ∃ q, fs.hasFolder q = false ∧ ∀ r,
      (fs.delete p time).at? r =
        if (way p).getLast? = some r then some (.folder time)
        else if r = q then none else fs.at? r := by
  rw [delete]
  cases hl : fs.locate? p with
  | none => exact .inl rfl
  | some q =>
    dsimp only
    split
    · rename_i hfile
      have hno : fs.hasFolder q = false := by
        rw [fileAt?] at hfile
        rw [hasFolder]
        rcases hq : fs.at? q with _ | f | t <;> simp_all [Found.isFolder, Found.file?]
      refine .inr ⟨q, hno, fun r => ?_⟩
      have hrest : (fs.places.filter (·.1 ≠ q)).lookup r = if r = q then none else fs.at? r := by
        by_cases hr : r = q
        · rw [if_pos hr, hr]
          exact lookup_filter_self q fs.places
        · rw [if_neg hr]
          exact lookup_filter_of_ne hr fs.places
      rw [at?, List.lookup_append, hrest]
      cases (way p).getLast? with
      | none => rfl
      | some holder =>
        by_cases hr : holder = r
        · simp [hr]
        · simp [hr, List.lookup_cons, beq_eq_false_iff_ne.mpr (Ne.symm hr)]
    · exact .inl rfl

theorem hasFolder_delete (p : Path) (time : Rat) {q : Path} (h : fs.hasFolder q) :
    (fs.delete p time).hasFolder q := by
  rcases fs.at?_delete p time with heq | ⟨r, hr, hat⟩
  · rwa [heq]
  · rw [hasFolder_iff] at h ⊢
    rw [hat]
    split
    · exact ⟨time, rfl⟩
    · rw [if_neg]
      · exact h
      · rintro rfl
        rw [← Bool.not_eq_true, hasFolder_iff] at hr
        exact hr h

theorem mem_delete {p : Path} {time : Rat} {q : Path} {f : File}
    (h : (q, .file f) ∈ (fs.delete p time).places) : (q, .file f) ∈ fs.places := by
  rw [delete] at h
  cases hl : fs.locate? p with
  | none => rwa [hl] at h
  | some r =>
    rw [hl] at h
    dsimp only at h
    split at h
    · rcases List.mem_append.mp h with h | h
      · simp at h
      · exact (List.mem_filter.mp h).1
    · exact h

theorem mem_of_at? {q : Path} {x : Found} (h : fs.at? q = some x) : (q, x) ∈ fs.places := by
  obtain ⟨l₁, l₂, hl, -⟩ := List.lookup_eq_some_iff.mp h
  rw [hl]
  exact List.mem_append_right _ List.mem_cons_self

end Introspection.Files
