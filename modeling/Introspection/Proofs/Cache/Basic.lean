import Introspection.Cache.Basic

/-!
# Entries of caches

What changes of a cache do to its entries.

* `Cache.mem_of_lookup`: what is found is there;
* `Cache.lookup_invalidate_self`, `Cache.lookup_set_self`, `Cache.lookup_get` and the like: what is
  found after a change;
* `Cache.entries_invalidate_subset`, `Cache.entries_get_subset`, `Cache.eq_or_mem_of_mem_set`: what
  is there after a change.
-/

namespace Introspection.Cache

variable {α : Type} {c : Cache α}

theorem mem_of_lookup {key : String} {e : CacheEntry α} (h : c.lookup key = some e) :
    (key, e) ∈ c.entries := by
  obtain ⟨l₁, l₂, hl, -⟩ := List.lookup_eq_some_iff.mp h
  rw [hl]
  exact List.mem_append_right _ List.mem_cons_self

theorem entries_invalidate_subset (key : String) : (c.invalidate key).entries ⊆ c.entries :=
  fun _ h => (List.mem_filter.mp h).1

theorem entries_get_subset (now : Float) (key : String) :
    (c.get now key).1.entries ⊆ c.entries := by
  rw [get]
  cases c.lookup key with
  | none => exact List.Subset.refl _
  | some e =>
    dsimp only
    split
    · exact entries_invalidate_subset key
    · exact List.Subset.refl _

theorem eq_or_mem_of_mem_set {now : Float} {key : String} {data : α} {ttl : Option Float}
    {file : Option File} {x : String × CacheEntry α}
    (h : x ∈ (c.set now key data ttl file).entries) :
    x ∈ c.entries ∨
      x.1 = key ∧ x.2.data = data ∧ x.2.modified = (file.map (·.modified)).getD 0 ∧
        x.2.tag = (file.map fun f => Md5.hex f.bytes).getD "" := by
  rcases List.mem_append.mp h with h | h
  · exact .inl (entries_invalidate_subset key h)
  · rw [List.mem_singleton.mp h]
    exact .inr ⟨rfl, rfl, rfl, rfl⟩

/-! ## Look-ups after changes -/

section Lookup

variable (c : Cache α) (key : String)

theorem lookup_invalidate_self : Cache.lookup (c.invalidate key) key = none := by
  rw [lookup, List.lookup_eq_none_iff]
  intro x hx
  have := (List.mem_filter.mp hx).2
  rw [bne_iff_ne] at this ⊢
  exact Ne.symm this

theorem lookup_invalidate_of_ne {k : String} (h : k ≠ key) :
    Cache.lookup (c.invalidate k) key = c.lookup key := by
  rw [lookup, lookup, invalidate]
  induction c.entries with
  | nil => rfl
  | cons x xs ih =>
    by_cases hx : x.1 = k
    · rw [List.filter_cons_of_neg (by simpa using hx), ih, List.lookup_cons,
        show (key == x.1) = false by simpa [hx] using h.symm]
    · rw [List.filter_cons_of_pos (by simpa using hx), List.lookup_cons, List.lookup_cons, ih]

theorem lookup_set_self (now : Float) (data : α) (ttl : Option Float) (file : Option File) :
    Cache.lookup (c.set now key data ttl file) key =
      some ⟨data, now, c.effectiveTtl ttl, (file.map fun f => Md5.hex f.bytes).getD "",
        (file.map (·.modified)).getD 0⟩ := by
  have hnone := c.lookup_invalidate_self key
  rw [lookup] at hnone
  rw [lookup, set, List.lookup_append, hnone, Option.none_or, List.lookup_cons, beq_self_eq_true]

theorem lookup_set_of_ne {k : String} (h : k ≠ key) (now : Float) (data : α) (ttl : Option Float)
    (file : Option File) : Cache.lookup (c.set now k data ttl file) key = c.lookup key := by
  have hne : (key == k) = false := by simpa using h.symm
  rw [← c.lookup_invalidate_of_ne key h, lookup, set, List.lookup_append, List.lookup_cons, hne,
    List.lookup_nil, Option.or_none, lookup]

/-- Getting removes what is got too late, and nothing else. -/
theorem lookup_get (now : Float) (k : String) (e : CacheEntry α) :
    Cache.lookup (c.get now k).1 key = some e ↔
      c.lookup key = some e ∧ ¬(k = key ∧ e.ttl < now - e.stored) := by
  rw [get]
  cases he : c.lookup k with
  | none =>
    refine ⟨fun (h : c.lookup key = some e) => ⟨h, ?_⟩, And.left⟩
    rintro ⟨rfl, -⟩
    rw [he] at h
    cases h
  | some e' =>
    dsimp only
    by_cases hx : e'.isExpired now
    · rw [if_pos hx]
      change Cache.lookup (c.invalidate k) key = some e ↔ _
      by_cases hk : k = key
      · subst hk
        rw [c.lookup_invalidate_self k, he]
        refine ⟨nofun, fun ⟨h, hn⟩ => absurd ⟨rfl, ?_⟩ hn⟩
        rw [← Option.some.inj h]
        exact of_decide_eq_true hx
      · rw [c.lookup_invalidate_of_ne key hk]
        simp [hk]
    · rw [if_neg hx]
      refine ⟨fun (h : c.lookup key = some e) => ⟨h, ?_⟩, And.left⟩
      rintro ⟨rfl, hlt⟩
      rw [Option.some.inj (he.symm.trans h)] at hx
      exact hx (decide_eq_true hlt)

end Lookup

theorem exists_of_set (c : Cache α) (now : Float) (key : String) (data : α) (ttl : Option Float)
    (file : Option File) : ∃ e, Cache.lookup (c.set now key data ttl file) key = some e ∧
      e.modified = (file.map (·.modified)).getD 0 :=
  ⟨_, c.lookup_set_self key now data ttl file, rfl⟩

theorem exists_of_not_isStale {key : String} {found : Option Found} (h : ¬c.isStale key found) :
    ∃ e x, c.lookup key = some e ∧ found = some x ∧ x.modified ≤ e.modified := by
  cases he : c.lookup key with
  | none => simp [isStale, he] at h
  | some e =>
    cases found with
    | none => simp [isStale, he] at h
    | some x => exact ⟨e, x, rfl, rfl, Rat.not_lt.mp (by simpa [isStale, he] using h)⟩

theorem entries_of_get {now : Float} {key : String} {a : α} (h : (c.get now key).2 = some a) :
    (c.get now key).1.entries = c.entries := by
  rw [get] at h ⊢
  cases he : c.lookup key with
  | none => rfl
  | some e =>
    rw [he] at h
    dsimp only at h ⊢
    by_cases hx : e.isExpired now
    · rw [if_pos hx] at h
      cases h
    · rw [if_neg hx]

theorem data_of_get {now : Float} {key : String} {e : CacheEntry α} {a : α}
    (he : c.lookup key = some e) (h : (c.get now key).2 = some a) : a = e.data := by
  rw [get, he] at h
  dsimp only at h
  split at h
  · cases h
  · exact (Option.some.inj h).symm

end Introspection.Cache
