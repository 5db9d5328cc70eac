import Introspection.Proofs.Cache.Basic
import Introspection.Proofs.Double.Difference
import Introspection.Proofs.Latest

/-!
# Caches over time

Values are set, got and removed while a clock goes on. What a cache gives at the end can be told
from what happened, without the cache: by the latest set of the key and by what came after it.

Times are doubles. How long ago something happened is a difference that has been rounded, and a time
to live that is no number is never over.

* `Cache.Event`, `Cache.Clocked.step`, `Cache.Clocked.run`: what can happen to a cache with a clock;
* `Cache.timeline`: what happened, each with its time;
* `Cache.Makes`, `Cache.Ends`, `Cache.Stands`: what makes and what ends an entry, and the entry that
  stands after all;
* **`Cache.Clocked.held?_step_iff`**, `Cache.Clocked.held?_run_iff`: the entries after one event and
  after several;
* `Cache.Clocked.Alike`: two caches that hold the same under a key;
* **`Cache.Clocked.run_isTimedMap`**: a cache is a map whose values last for a time.
-/

namespace Introspection.Cache

variable {α : Type}

/-! ## Events -/

/-- What can happen to a cache with a clock. -/
inductive Event (α : Type) where
  | set (key : String) (data : α) (ttl : Option Float) (file : Option File)
  | get (key : String)
  | tag (key : String)
  | isStale (key : String) (found : Option Found)
  | invalidate (key : String)
  | clear
  | advance (time : Float)

namespace Event

/-- Whether an event is about a key; clearing and the passing of time are about all keys. -/
def concerns (key : String) : Event α → Bool
  | .set k _ _ _ | .get k | .tag k | .isStale k _ | .invalidate k => k == key
  | .clear | .advance _ => true

def isGet : Event α → Bool
  | .get _ => true
  | _ => false

/-- Whether an event sets a key. -/
def sets (key : String) : Event α → Bool
  | .set k _ _ _ => k == key
  | _ => false

/-- The time after an event that begins at a time. -/
def timeAfter (t : Float) : Event α → Float
  | .advance time => time
  | _ => t

/-- At a time, no value is set for no length of time, and the clock does not go back. -/
def IsProper (t : Float) : Event α → Prop
  | .set _ _ ttl _ => ∀ l ∈ ttl, (l == 0) = false
  | .advance time => t ≤ time
  | _ => True

/-- What is over stays over. -/
theorem lt_timeAfter_sub {x : Event α} {t : Float} (h : x.IsProper t) {ttl stored : Float}
    (hover : ttl < t - stored) : ttl < x.timeAfter t - stored := by
  cases x with
  | advance time => exact Double.lt_sub_of_le h hover
  | _ => exact hover

end Event

/-- A cache with the time. -/
structure Clocked (α : Type) where
  cache : Cache α
  now : Float

namespace Clocked

/-- An empty cache at a time. -/
def start (α : Type) (defaultTtl now : Float) : Clocked α := ⟨.empty α defaultTtl, now⟩

/-- What there is after an event. -/
def step (w : Clocked α) : Event α → Clocked α
  | .set key data ttl file => { w with cache := w.cache.set w.now key data ttl file }
  | .get key => { w with cache := (w.cache.get w.now key).1 }
  | .tag _ | .isStale _ _ => w
  | .invalidate key => { w with cache := w.cache.invalidate key }
  | .clear => { w with cache := w.cache.clear }
  | .advance time => { w with now := time }

def run (w : Clocked α) (xs : List (Event α)) : Clocked α := xs.foldl step w

/-- The entry of a key. -/
def held? (w : Clocked α) (key : String) : Option (CacheEntry α) := w.cache.lookup key

/-- What is got under a key now. -/
def get? (w : Clocked α) (key : String) : Option α := (w.cache.get w.now key).2

theorem run_append (w : Clocked α) (xs ys : List (Event α)) :
    w.run (xs ++ ys) = (w.run xs).run ys := by
  rw [run, List.foldl_append, run, run]

theorem run_concat (w : Clocked α) (xs : List (Event α)) (x : Event α) :
    w.run (xs ++ [x]) = (w.run xs).step x := by
  rw [run_append]
  rfl

end Clocked

/-! ## Entries in a history -/

/-- Events with the times at which they happen, from a time on. -/
def timeline (t : Float) : List (Event α) → List (Float × Event α)
  | [] => []
  | x :: xs => (t, x) :: timeline (x.timeAfter t) xs

/-- An event makes an entry for a key, under a default time to live. -/
def Makes (defaultTtl : Float) (key : String) (e : CacheEntry α) (x : Float × Event α) : Prop :=
  ∃ data ttl file, x.2 = .set key data ttl file ∧
    e = ⟨data, x.1, (empty α defaultTtl).effectiveTtl ttl,
      (file.map fun f => Md5.hex f.bytes).getD "", (file.map (·.modified)).getD 0⟩

/-- An event ends an entry for a key: another one takes its place, or it is removed, if only because
it is asked for when its time is over. -/
def Ends (key : String) (e : CacheEntry α) : Float × Event α → Prop
  | (_, .set k _ _ _) | (_, .invalidate k) => k = key
  | (t, .get k) => k = key ∧ e.ttl < t - e.stored
  | (_, .clear) => True
  | (_, .tag _) | (_, .isStale _ _) | (_, .advance _) => False

/-- The entry that a history has made for a key and not ended. -/
def Stands (defaultTtl : Float) (key : String) (h : List (Float × Event α)) (e : CacheEntry α) :
    Prop :=
  ∃ before x after, h = before ++ x :: after ∧ Makes defaultTtl key e x ∧
    ∀ y ∈ after, ¬Ends key e y

theorem timeline_concat (t : Float) (xs : List (Event α)) (x : Event α) :
    timeline t (xs ++ [x]) = timeline t xs ++ [(xs.foldl Event.timeAfter t, x)] := by
  induction xs generalizing t with
  | nil => rfl
  | cons y xs ih => rw [List.cons_append, timeline, ih, timeline, List.foldl_cons, List.cons_append]

theorem stands_concat_iff {defaultTtl : Float} {key : String} {h : List (Float × Event α)}
    {e : CacheEntry α} {x : Float × Event α} :
    Stands defaultTtl key (h ++ [x]) e ↔
      Makes defaultTtl key e x ∨ Stands defaultTtl key h e ∧ ¬Ends key e x :=
  exists_latest_concat_iff

namespace Clocked

/-! ## The entries of a run -/

@[simp] theorem defaultTtl_step (w : Clocked α) (x : Event α) :
    (w.step x).cache.defaultTtl = w.cache.defaultTtl := by
  cases x with
  | get key =>
    simp only [step, Cache.get]
    split
    · rfl
    · split <;> rfl
  | _ => rfl

theorem now_step (w : Clocked α) (x : Event α) : (w.step x).now = x.timeAfter w.now := by
  cases x <;> rfl

theorem now_run (w : Clocked α) (xs : List (Event α)) :
    (w.run xs).now = xs.foldl Event.timeAfter w.now := by
  induction xs generalizing w with
  | nil => rfl
  | cons x xs ih =>
    rw [List.foldl_cons, ← now_step]
    exact ih (w.step x)

theorem defaultTtl_run (w : Clocked α) (xs : List (Event α)) :
    (w.run xs).cache.defaultTtl = w.cache.defaultTtl := by
  induction xs generalizing w with
  | nil => rfl
  | cons x xs ih =>
    rw [← w.defaultTtl_step x]
    exact ih (w.step x)

/-- **After an event there is the entry that it makes, or the one that it does not end.** -/
theorem held?_step_iff {w : Clocked α} {x : Event α} {key : String} {e : CacheEntry α} :
    (w.step x).held? key = some e ↔
      Makes w.cache.defaultTtl key e (w.now, x) ∨
        w.held? key = some e ∧ ¬Ends key e (w.now, x) := by
  have hmakes : ∀ y : Event α, y.sets key = false → ¬Makes w.cache.defaultTtl key e (w.now, y) := by
    rintro y hy ⟨data, ttl, file, rfl, -⟩
    simp [Event.sets] at hy
  cases x with
  | set k data ttl file =>
    by_cases hk : k = key
    · subst hk
      have hset : (w.step (.set k data ttl file)).held? k = _ :=
        w.cache.lookup_set_self k w.now data ttl file
      rw [hset]
      constructor
      · intro h
        exact .inl ⟨data, ttl, file, rfl, (Option.some.inj h).symm⟩
      · rintro (⟨_, _, _, heq, rfl⟩ | ⟨-, hn⟩)
        · obtain ⟨-, rfl, rfl, rfl⟩ := Event.set.inj heq
          rfl
        · exact absurd rfl hn
    · have hset : (w.step (.set k data ttl file)).held? key = w.held? key :=
        w.cache.lookup_set_of_ne key hk w.now data ttl file
      have := hmakes (.set k data ttl file) (by simpa [Event.sets] using hk)
      simp [hset, this, Ends, hk]
  | get k =>
    have hno := hmakes (.get k) rfl
    have hget : (w.step (.get k)).held? key = some e ↔
        w.held? key = some e ∧ ¬(k = key ∧ e.ttl < w.now - e.stored) :=
      w.cache.lookup_get key w.now k e
    simp only [hget, hno, Ends, false_or]
  | invalidate k =>
    have hno := hmakes (.invalidate k) rfl
    by_cases hk : k = key
    · subst hk
      have hinvalidate : (w.step (.invalidate k)).held? k = none :=
        w.cache.lookup_invalidate_self k
      simp [hinvalidate, hno, Ends]
    · have hinvalidate : (w.step (.invalidate k)).held? key = w.held? key :=
        w.cache.lookup_invalidate_of_ne key hk
      simp [hinvalidate, hno, Ends, hk]
  | clear =>
    have hno := hmakes .clear rfl
    have hclear : (w.step .clear).held? key = none := rfl
    simp [hclear, hno, Ends]
  | tag k => simp [step, held?, hmakes (.tag k) rfl, Ends]
  | isStale k found => simp [step, held?, hmakes (.isStale k found) rfl, Ends]
  | advance time => simp [step, held?, hmakes (.advance time) rfl, Ends]

/-- **After a run there is the entry that stands in its history.** -/
theorem held?_run_iff {defaultTtl t : Float} {xs : List (Event α)} {key : String}
    {e : CacheEntry α} :
    ((start α defaultTtl t).run xs).held? key = some e ↔
      Stands defaultTtl key (timeline t xs) e := by
  induction xs using List.reverseRecOn generalizing e with
  | nil =>
    have hempty : ((start α defaultTtl t).run []).held? key = none := rfl
    rw [hempty]
    constructor
    · rintro ⟨⟩
    · rintro ⟨before, x, after, heq, -⟩
      simp [timeline] at heq
  | append_singleton xs x ih =>
    rw [run_concat, held?_step_iff, ih, timeline_concat, stands_concat_iff, now_run,
      defaultTtl_run]
    rfl

/-! ## What is got -/

theorem get?_eq_some_iff {w : Clocked α} {key : String} {data : α} :
    w.get? key = some data ↔
      ∃ e, w.held? key = some e ∧ e.data = data ∧ ¬e.ttl < w.now - e.stored := by
  rw [get?, Cache.get, ← held?]
  cases w.held? key with
  | none => simp
  | some e =>
    dsimp only
    by_cases hx : e.isExpired w.now
    · rw [if_pos hx]
      constructor
      · rintro ⟨⟩
      · rintro ⟨e', he, -, hkept⟩
        rw [← Option.some.inj he] at hkept
        exact absurd (of_decide_eq_true hx) hkept
    · rw [if_neg hx]
      constructor
      · intro h
        exact ⟨e, rfl, Option.some.inj h, fun hover => hx (decide_eq_true hover)⟩
      · rintro ⟨e', he, rfl, -⟩
        rw [Option.some.inj he]

/-- What gives nothing now gives nothing later, until it is set. -/
theorem get?_step_eq_none {w : Clocked α} {x : Event α} {key : String} (hx : x.IsProper w.now)
    (hs : x.sets key = false) (h : w.get? key = none) : (w.step x).get? key = none := by
  rw [Option.eq_none_iff_forall_ne_some]
  intro data hdata
  obtain ⟨e, he, rfl, hkept⟩ := get?_eq_some_iff.mp hdata
  rcases held?_step_iff.mp he with ⟨_, _, _, rfl, -⟩ | ⟨he, -⟩
  · simp [Event.sets] at hs
  · rw [now_step] at hkept
    have hnow : ¬e.ttl < w.now - e.stored := fun hover => hkept (Event.lt_timeAfter_sub hx hover)
    rw [get?_eq_some_iff.mpr ⟨e, he, rfl, hnow⟩] at h
    cases h

theorem get?_run_eq_none {w : Clocked α} {xs : List (Event α)} {key : String}
    (hx : ∀ y ∈ timeline w.now xs, y.2.IsProper y.1) (hs : ∀ x ∈ xs, x.sets key = false)
    (h : w.get? key = none) : (w.run xs).get? key = none := by
  induction xs generalizing w with
  | nil => exact h
  | cons x xs ih =>
    rw [timeline, List.forall_mem_cons, ← now_step] at hx
    rw [List.forall_mem_cons] at hs
    exact ih hx.2 hs.2 (get?_step_eq_none hx.1 hs.1 h)

/-! ## Keys apart -/

/-- Two caches that hold the same under a key, at the same time. -/
structure Alike (key : String) (w w' : Clocked α) : Prop where
  now : w.now = w'.now
  defaultTtl : w.cache.defaultTtl = w'.cache.defaultTtl
  held : w.held? key = w'.held? key

namespace Alike

variable {key : String} {w w' : Clocked α} {x : Event α}

theorem refl (key : String) (w : Clocked α) : Alike key w w := ⟨rfl, rfl, rfl⟩

theorem get?_eq (h : Alike key w w') : w.get? key = w'.get? key := by
  apply Option.ext
  intro data
  rw [get?_eq_some_iff, get?_eq_some_iff, h.held, h.now]

theorem tag_eq (h : Alike key w w') : w.cache.tag key = w'.cache.tag key := by
  have hheld := h.held
  rw [held?, held?] at hheld
  rw [tag, tag, hheld]

theorem step (h : Alike key w w') : Alike key (w.step x) (w'.step x) where
  now := by rw [now_step, now_step, h.now]
  defaultTtl := by rw [defaultTtl_step, defaultTtl_step, h.defaultTtl]
  held := by
    apply Option.ext
    intro e
    rw [held?_step_iff, held?_step_iff, h.now, h.defaultTtl, h.held]

theorem step_left (h : Alike key w w') (hx : x.concerns key = false) :
    Alike key (w.step x) w' where
  now := by
    rw [now_step, ← h.now]
    cases x <;> first | rfl | cases hx
  defaultTtl := by rw [defaultTtl_step, h.defaultTtl]
  held := by
    apply Option.ext
    intro e
    have hmakes : ¬Makes w.cache.defaultTtl key e (w.now, x) := by
      rintro ⟨_, _, _, rfl, -⟩
      simp [Event.concerns] at hx
    have hends : ¬Ends key e (w.now, x) := by
      cases x <;> simp_all [Ends, Event.concerns]
    rw [held?_step_iff, ← h.held]
    simp [hmakes, hends]

/-- What happens to other keys makes no difference. -/
theorem run_filter (h : Alike key w w') (xs : List (Event α)) :
    Alike key (w.run xs) (w'.run (xs.filter (·.concerns key))) := by
  induction xs generalizing w w' with
  | nil => exact h
  | cons x xs ih =>
    cases hx : x.concerns key with
    | true =>
      rw [List.filter_cons_of_pos hx]
      exact ih h.step
    | false =>
      rw [List.filter_cons_of_neg (by simp [hx])]
      exact ih (h.step_left hx)

end Alike

/-! ## Counts -/

theorem hits_add_misses_step (w : Clocked α) (x : Event α) :
    (w.step x).cache.hits + (w.step x).cache.misses =
      w.cache.hits + w.cache.misses + if x.isGet then 1 else 0 := by
  cases x with
  | get key =>
    simp only [step, Cache.get, Event.isGet, if_true]
    cases w.cache.lookup key with
    | none => exact (Nat.add_assoc _ _ _).symm
    | some e =>
      dsimp only
      split
      · exact (Nat.add_assoc _ _ _).symm
      · exact Nat.add_right_comm _ _ _
  | _ => rfl

theorem hits_add_misses_run (w : Clocked α) (xs : List (Event α)) :
    (w.run xs).cache.hits + (w.run xs).cache.misses =
      w.cache.hits + w.cache.misses + xs.countP Event.isGet := by
  induction xs generalizing w with
  | nil => rfl
  | cons x xs ih =>
    have hx := w.hits_add_misses_step x
    have hxs := ih (w.step x)
    rw [List.countP_cons]
    change ((w.step x).run xs).cache.hits + ((w.step x).run xs).cache.misses = _
    omega

/-- The keys of the entries. -/
def keys (w : Clocked α) : List String := w.cache.entries.map (·.1)

theorem mem_keys_iff {w : Clocked α} {key : String} :
    key ∈ w.keys ↔ ∃ e, w.held? key = some e := by
  rw [keys, held?, Cache.lookup, ← Option.isSome_iff_exists, List.lookup_isSome_iff, List.mem_map]
  constructor
  · rintro ⟨x, hx, rfl⟩
    exact ⟨x, hx, beq_self_eq_true _⟩
  · rintro ⟨x, hx, hkey⟩
    exact ⟨x, hx, (beq_iff_eq.mp hkey).symm⟩

theorem nodup_keys_step {w : Clocked α} (h : w.keys.Nodup) (x : Event α) :
    (w.step x).keys.Nodup := by
  have hinvalidate : ∀ key, ((w.cache.invalidate key).entries.map (·.1)).Nodup :=
    fun key => h.sublist (List.filter_sublist.map _)
  cases x with
  | set key data ttl file =>
    have hnew : key ∉ (w.cache.invalidate key).entries.map (·.1) := by
      intro hm
      obtain ⟨y, hy, rfl⟩ := List.mem_map.mp hm
      simpa using (List.mem_filter.mp hy).2
    rw [keys]
    simp only [step, Cache.set]
    rw [List.map_append, List.nodup_append]
    refine ⟨hinvalidate key, by simp, fun a ha b hb hab => ?_⟩
    rw [List.mem_singleton.mp hb] at hab
    change a = key at hab
    exact hnew (hab ▸ ha)
  | get key =>
    change ((w.cache.get w.now key).1.entries.map (·.1)).Nodup
    rw [Cache.get]
    cases w.cache.lookup key with
    | none => exact h
    | some e =>
      dsimp only
      split
      · exact hinvalidate key
      · exact h
  | invalidate key => exact hinvalidate key
  | clear => exact .nil
  | tag key | isStale key found | advance time => exact h

theorem nodup_keys_run {w : Clocked α} (h : w.keys.Nodup) (xs : List (Event α)) :
    (w.run xs).keys.Nodup := by
  induction xs generalizing w with
  | nil => exact h
  | cons x xs ih => exact ih (nodup_keys_step h x)

end Clocked

/-! ## Timed maps -/

/-- The latest set of a key happened at a time with a value and a time to live, and since then the
key was neither removed nor asked for too late. -/
def LastSet (defaultTtl : Float) (key : String) (h : List (Float × Event α)) (s : Float) (data : α)
    (ttl : Option Float) : Prop :=
  ∃ before file after, h = before ++ (s, .set key data ttl file) :: after ∧
    ∀ y ∈ after, y.2.sets key = false ∧ y.2 ≠ .invalidate key ∧ y.2 ≠ .clear ∧
      (y.2 = .get key → ¬ttl.getD defaultTtl < y.1 - s)

theorem not_ends_iff {key : String} {e : CacheEntry α} {y : Float × Event α} :
    ¬Ends key e y ↔ y.2.sets key = false ∧ y.2 ≠ .invalidate key ∧ y.2 ≠ .clear ∧
      (y.2 = .get key → ¬e.ttl < y.1 - e.stored) := by
  obtain ⟨t, x⟩ := y
  cases x with
  | get k => simp [Ends, Event.sets]
  | _ => simp [Ends, Event.sets]

theorem effectiveTtl_eq {ttl : Option Float} (h : ∀ l ∈ ttl, (l == 0) = false) (c : Cache α) :
    c.effectiveTtl ttl = ttl.getD c.defaultTtl := by
  cases ttl with
  | none => rfl
  | some l => rw [effectiveTtl, h l rfl, if_neg Bool.false_ne_true, Option.getD_some]

theorem exists_stands_iff (defaultTtl : Float) (key : String) {h : List (Float × Event α)}
    (hx : ∀ y ∈ h, y.2.IsProper y.1) {P : Float → α → Float → Prop} :
    (∃ e, Stands defaultTtl key h e ∧ P e.stored e.data e.ttl) ↔
      ∃ s data ttl, LastSet defaultTtl key h s data ttl ∧ P s data (ttl.getD defaultTtl) := by
  constructor
  · rintro ⟨e, ⟨before, ⟨s, x⟩, after, rfl, ⟨data, ttl, file, rfl, rfl⟩, hends⟩, hp⟩
    have hset : Event.IsProper s (.set key data ttl file) :=
      hx (s, .set key data ttl file) (by simp)
    have httl := effectiveTtl_eq hset (empty α defaultTtl)
    rw [httl] at hends hp
    have hkept : ∀ y ∈ after, _ := fun y hy => not_ends_iff.mp (hends y hy)
    exact ⟨s, data, ttl, ⟨before, file, after, rfl, hkept⟩, hp⟩
  · rintro ⟨s, data, ttl, ⟨before, file, after, rfl, hends⟩, hp⟩
    have hset : Event.IsProper s (.set key data ttl file) :=
      hx (s, .set key data ttl file) (by simp)
    have httl := effectiveTtl_eq hset (empty α defaultTtl)
    refine ⟨_, ⟨before, _, after, rfl, ⟨data, ttl, file, rfl, rfl⟩, fun y hy => ?_⟩, ?_⟩
    · rw [httl]
      exact not_ends_iff.mpr (hends y hy)
    · rw [httl]
      exact hp

namespace Clocked

/-- A cache that began empty and went through events is a map whose values last for a time. -/
structure IsTimedMap (defaultTtl t : Float) (xs : List (Event α)) (w : Clocked α) : Prop where
  now_eq : w.now = xs.foldl Event.timeAfter t
  /-- What is got is the value of the latest set, up to the end of its time. -/
  get?_iff : ∀ key data, w.get? key = some data ↔
    ∃ s ttl, LastSet defaultTtl key (timeline t xs) s data ttl ∧ ¬ttl.getD defaultTtl < w.now - s
  /-- What is known under a key depends on what happened to that key alone. -/
  apart : ∀ key, w.get? key = ((start α defaultTtl t).run (xs.filter (·.concerns key))).get? key ∧
    w.cache.tag key = ((start α defaultTtl t).run (xs.filter (·.concerns key))).cache.tag key
  /-- What gives nothing gives nothing until it is set. -/
  gone : ∀ key ys, (∀ y ∈ timeline w.now ys, y.2.IsProper y.1) →
    (∀ y ∈ ys, y.sets key = false) → w.get? key = none → (w.run ys).get? key = none
  hits_add_misses : w.cache.hits + w.cache.misses = xs.countP Event.isGet
  /-- The size is the number of the keys that were set and not removed. -/
  size_eq : ∃ keys : List String, keys.Nodup ∧ w.cache.size = keys.length ∧
    ∀ key, key ∈ keys ↔ ∃ s data ttl, LastSet defaultTtl key (timeline t xs) s data ttl

/-- **A cache is a map whose values last for a time.** Whatever happens to a cache that was empty,
if no value is set for no length of time and the clock does not go back, a key gives the value of
its latest set as long as the time of that is not over, unless the key was removed since then. Every
look-up counts as a hit or a miss, and the size is the number of keys that have not been removed. -/
theorem run_isTimedMap (defaultTtl t : Float) {xs : List (Event α)}
    (hx : ∀ y ∈ timeline t xs, y.2.IsProper y.1) :
    IsTimedMap defaultTtl t xs ((start α defaultTtl t).run xs) := by
  refine ⟨now_run _ xs, fun key data => ?_, fun key => ?_, fun key ys => get?_run_eq_none,
    ?_, ?_⟩
  · rw [get?_eq_some_iff]
    simp only [held?_run_iff]
    rw [exists_stands_iff defaultTtl key hx
      (P := fun s d ttl => d = data ∧ ¬ttl < ((start α defaultTtl t).run xs).now - s)]
    constructor
    · rintro ⟨s, _, ttl, hlast, rfl, hkept⟩
      exact ⟨s, ttl, hlast, hkept⟩
    · rintro ⟨s, ttl, hlast, hkept⟩
      exact ⟨s, data, ttl, hlast, rfl, hkept⟩
  · have halike := (Alike.refl key (start α defaultTtl t)).run_filter xs
    exact ⟨halike.get?_eq, halike.tag_eq⟩
  · have hcount := hits_add_misses_run (start α defaultTtl t) xs
    rwa [show (start α defaultTtl t).cache.hits + (start α defaultTtl t).cache.misses = 0 from rfl,
      Nat.zero_add] at hcount
  · have hempty : (start α defaultTtl t).keys.Nodup := .nil
    refine ⟨_, nodup_keys_run hempty xs, (List.length_map _).symm, fun key => ?_⟩
    have hlast := exists_stands_iff defaultTtl key hx
      (P := fun _ _ _ => True)
    simp only [and_true] at hlast
    rw [mem_keys_iff, ← hlast]
    simp only [held?_run_iff]

/-- A value is set for two units of time and another one for the default of five, and three units go
by before both are asked for. -/
def visit : List (Event Nat) :=
  [.set "a" 1 (some 2) none, .set "b" 2 none none, .get "a", .advance 3, .get "a", .tag "b"]

/-- The first value is gone when it is asked for again, and the second one is there. -/
theorem visit_isTimedMap :
    (∀ y ∈ timeline 0 visit, y.2.IsProper y.1) ∧
      IsTimedMap 5 0 visit ((start Nat 5 0).run visit) ∧
      ((start Nat 5 0).run visit).get? "a" = none ∧
      ((start Nat 5 0).run visit).get? "b" = some 2 ∧
      ((start Nat 5 0).run visit).cache.size = 1 := by
  have hx : ∀ y ∈ timeline 0 visit, y.2.IsProper y.1 := by
    have hset : ((2 : Float) == 0) = false := by decide +kernel
    have hle : (0 : Float) ≤ 3 := by decide +kernel
    simp [visit, timeline, Event.IsProper, Event.timeAfter, hset, hle]
  exact ⟨hx, run_isTimedMap 5 0 hx, by decide +kernel, by decide +kernel, by decide +kernel⟩

/-- The last double before 1001. -/
def eve : Float := 1001 - 1 / 8796093022208

/-- A value is set just before the clock shows 1001, and the clock goes on to 4096. -/
def vigil : List (Event Nat) := [.advance eve, .set "k" 1 (some 3095) none, .advance 4096]

/-- **What is got is not told by exact time.** A little more than 3095 units have gone by, but no
double is as close to their number as 3095 is. And a time to live that is no number is never over,
although nothing is at most that. -/
theorem vigil_not_exact :
    ¬(((start Nat 5 1000).run vigil).get? "k" = some 1 ↔
        Double.unitsOf 4096 - Double.unitsOf eve ≤ Double.unitsOf 3095) ∧
      ¬(((start Nat (0 / 0) 1000).run [.set "k" 1 none none]).get? "k" = some 1 ↔
        (1000 : Float) - 1000 ≤ 0 / 0) := by
  decide +kernel

end Clocked

end Introspection.Cache
