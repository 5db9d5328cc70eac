import Introspection.Proofs.Cache.Timed

/-!
# How long a value can be got

A value that is set with a time to live can be got until that time is over, whatever the default of
the cache is. No time at all is the exception: it stands for the default.

* `Cache.Spares`: what happens without setting, removing or outliving a value;
* `Cache.Clocked.held?_run_of_spares`: its entry stays;
* `Cache.Clocked.get?_eq_ite`: what an entry gives at a time;
* **`Cache.Clocked.lifetime_of_set`**: how long a value can be got that was set with a time to live.
-/

namespace Introspection.Cache

variable {α : Type}

/-- What happens neither sets nor removes a key, nor does it ask for it when a time to live from
some time on is over. -/
structure Spares (key : String) (stored ttl : Float) (y : Float × Event α) : Prop where
  sets : y.2.sets key = false
  invalidate : y.2 ≠ .invalidate key
  clear : y.2 ≠ .clear
  get : y.2 = .get key → ¬ttl < y.1 - stored

theorem Spares.not_ends {key : String} {e : CacheEntry α} {y : Float × Event α}
    (h : Spares key e.stored e.ttl y) : ¬Ends key e y :=
  not_ends_iff.mpr ⟨h.sets, h.invalidate, h.clear, h.get⟩

namespace Clocked

variable {w : Clocked α} {key : String} {e : CacheEntry α}

/-- **An entry stays as long as nothing sets, removes or outlives it.** -/
theorem held?_run_of_spares {xs : List (Event α)} (h : w.held? key = some e)
    (hx : ∀ y ∈ timeline w.now xs, Spares key e.stored e.ttl y) :
    (w.run xs).held? key = some e := by
  induction xs generalizing w with
  | nil => exact h
  | cons x xs ih =>
    rw [timeline, List.forall_mem_cons, ← now_step] at hx
    have hstep : (w.step x).held? key = some e := held?_step_iff.mpr (.inr ⟨h, hx.1.not_ends⟩)
    exact ih hstep hx.2

theorem get?_eq_ite (h : w.held? key = some e) :
    w.get? key = if e.ttl < w.now - e.stored then none else some e.data := by
  rw [get?, Cache.get, ← held?, h]
  dsimp only
  by_cases hover : e.ttl < w.now - e.stored
  · have hexpired : e.isExpired w.now = true := decide_eq_true hover
    rw [if_pos hover, if_pos hexpired]
  · have hexpired : e.isExpired w.now = false := decide_eq_false hover
    rw [if_neg hover, if_neg (by simp [hexpired])]

/-- **How long a value can be got that was set with a time to live.** It can be got for that time,
whatever the default is, and after that nothing is got. Set for no time at all, it can be got for
the default instead. So by a finite clock a time to live is kept to unless it is zero and the
default tells another story about the time that has gone by. -/
theorem lifetime_of_set (w : Clocked α) (key : String) (data : α) (ttl : Float) (file : Option File)
    {xs : List (Event α)}
    (hx : ∀ y ∈ timeline w.now xs, Spares key w.now (w.cache.effectiveTtl (some ttl)) y)
    {v : Clocked α} (hv : v = (w.step (.set key data (some ttl) file)).run xs) :
    v.get? key =
        (if w.cache.effectiveTtl (some ttl) < v.now - w.now then none else some data) ∧
      ((ttl == 0) = false → (v.get? key = some data ↔ ¬ttl < v.now - w.now)) ∧
      (ttl == 0 → (v.get? key = some data ↔ ¬w.cache.defaultTtl < v.now - w.now)) ∧
      (0 ≤ ttl → v.now.isFinite → w.now.isFinite →
        ((v.get? key = some data ↔ v.now - w.now ≤ ttl) ↔
          (ttl == 0 → (¬w.cache.defaultTtl < v.now - w.now ↔ v.now - w.now ≤ ttl)))) := by
  have hset : (w.step (.set key data (some ttl) file)).held? key = some _ :=
    w.cache.lookup_set_self key w.now data (some ttl) file
  have hget := get?_eq_ite (held?_run_of_spares hset hx)
  rw [← hv] at hget
  dsimp only at hget
  have hsome : v.get? key = some data ↔ ¬w.cache.effectiveTtl (some ttl) < v.now - w.now := by
    rw [hget]
    split <;> simp_all
  have hne : (ttl == 0) = false → (v.get? key = some data ↔ ¬ttl < v.now - w.now) := by
    intro ht
    rwa [effectiveTtl, ht, if_neg Bool.false_ne_true] at hsome
  have hzero : ttl == 0 → (v.get? key = some data ↔ ¬w.cache.defaultTtl < v.now - w.now) := by
    intro ht
    rwa [effectiveTtl, if_pos ht] at hsome
  refine ⟨hget, hne, hzero, fun hpos hv hw => ⟨fun htold ht => ?_, fun hsame => ?_⟩⟩
  · rw [← hzero ht, htold]
  · cases ht : ttl == 0 with
    | true => rw [hzero ht, hsame ht]
    | false => rw [hne ht, Double.not_lt_sub_iff hv hw hpos]

/-- A unit of time goes by, the value is asked for, another one is set, and a unit goes by. -/
def errand : List (Event Nat) := [.advance 1, .get "a", .set "b" 2 none none, .advance 2]

/-- A value that was set for two units of time is there at the end of them. -/
theorem lifetime_of_errand :
    (∀ y ∈ timeline 0 errand,
        Spares "a" 0 ((start Nat 5 0).cache.effectiveTtl (some 2)) y) ∧
      (((start Nat 5 0).step (.set "a" 1 (some 2) none)).run errand).get? "a" = some 1 := by
  have hx : ∀ y ∈ timeline 0 errand,
      Spares "a" 0 ((start Nat 5 0).cache.effectiveTtl (some 2)) y := by
    have hkept : ¬(start Nat 5 0).cache.effectiveTtl (some 2) < (1 : Float) - 0 := by
      decide +kernel
    intro y hy
    simp only [errand, timeline, List.mem_cons, List.not_mem_nil, or_false] at hy
    rcases hy with rfl | rfl | rfl | rfl
    · exact ⟨rfl, by simp, by simp, by simp⟩
    · exact ⟨rfl, by simp, by simp, fun _ => hkept⟩
    · exact ⟨rfl, by simp, by simp, by simp⟩
    · exact ⟨rfl, by simp, by simp, by simp⟩
  have hne : ((2 : Float) == 0) = false := by decide +kernel
  refine ⟨hx, ((lifetime_of_set (start Nat 5 0) "a" 1 2 none hx rfl).2.1 hne).mpr ?_⟩
  decide +kernel

/-- A value that is set for no time at all is there a unit of time later. -/
theorem lifetime_of_noTime :
    ¬((((start Nat 5 1000).step (.set "k" 1 (some 0) none)).run [.advance 1001]).get? "k" =
        some 1 ↔
      (((start Nat 5 1000).step (.set "k" 1 (some 0) none)).run [.advance 1001]).now - 1000 ≤
        0) := by
  decide +kernel

end Clocked

end Introspection.Cache
