import Mathlib.Data.List.Sort
import Introspection.Proofs.Config.Settings

/-!
# Configurations that are written

A configuration is written as one pair for each option, in any order. It is read back as long as no
value begins or ends with a blank and no value holds a comma to cut at. Other commas do no harm, not
even at the end of a value, since what follows them there is the comma in front of the next pair.

* `Config.write`: pairs for options, put together with commas;
* `Config.Writable`: values that can be found again;
* `Config.Writable.value_valueText`, `Config.Writable.pairs_write`: values and pairs found again;
* **`Config.read_write`**: what is read is what was written.
-/

namespace Introspection

theorem NameSet.eq_of_mem {s t : NameSet} (h : ∀ n, n ∈ s ↔ n ∈ t) : s = t := by
  have hnames : s.names = t.names := by
    have hs : s.names.Nodup := s.ascending.imp String.ne_of_lt
    have ht : t.names.Nodup := t.ascending.imp String.ne_of_lt
    have hasymm : ∀ a b : String, a < b → b < a → a = b := fun a b hab hba =>
      absurd hba (String.lt_asymm hab)
    exact ((List.perm_ext_iff_of_nodup hs ht).mpr h).eq_of_pairwise
      (fun a b _ _ => hasymm a b) s.ascending t.ascending
  cases s
  cases t
  congr

namespace Config

/-! ## Writing -/

/-- How the value of an option is written, the names of the blacklist with bars between them. -/
def valueText (c : Config) (names : List String) : Setting → String
  | .rootPrefix => c.rootPrefix
  | .delimiter => c.delimiter
  | .blacklist => String.intercalate "|" names
  | .errorTypeName => c.errorTypeName
  | .defaultErrorType => c.defaultErrorType

/-- The pair for an option. -/
def pairText (c : Config) (names : List String) (s : Setting) : String :=
  s.key ++ "=" ++ c.valueText names s

/-- Pairs for options, with commas between them. -/
def write (c : Config) (names : List String) (order : List Setting) : String :=
  String.intercalate "," (order.map (c.pairText names))

/-- The names are those of the blacklist, and all values can be found again: names are not empty
and hold no bars, and no value has blanks at its ends or a comma to cut at. -/
structure Writable (c : Config) (names : List String) : Prop where
  perm : names.Perm c.blacklist.names
  bars : ∀ n ∈ names, n ≠ "" ∧ '|' ∉ n.toList
  trim_eq : ∀ s, Text.trim (c.valueText names s).toList = (c.valueText names s).toList
  whole : ∀ s, Whole (c.valueText names s).toList

variable {c : Config} {names : List String} {order : List Setting}

/-! ## Names -/

theorem mem_blacklistNames_intercalate (h : ∀ n ∈ names, n ≠ "" ∧ '|' ∉ n.toList) {n : String} :
    n ∈ blacklistNames (String.intercalate "|" names) ↔ n ∈ names := by
  rw [mem_blacklistNames, String.toList_intercalate]
  cases names with
  | nil =>
    -- There is one piece, which is empty and so is no name.
    rw [List.map_nil, List.intercalate_nil, List.splitOn_nil, List.mem_singleton]
    constructor
    · rintro ⟨hne, hnil⟩
      exact absurd (String.toList_eq_nil_iff.mp hnil) hne
    · exact nofun
  | cons m ms =>
    have hbars : ∀ cs ∈ (m :: ms).map String.toList, '|' ∉ cs := by
      intro cs hcs
      obtain ⟨n, hn, rfl⟩ := List.mem_map.mp hcs
      exact (h n hn).2
    change n ≠ "" ∧ n.toList ∈ (['|'].intercalate ((m :: ms).map String.toList)).splitOn '|' ↔ _
    rw [List.splitOn_intercalate '|' hbars (by simp), List.mem_map]
    constructor
    · rintro ⟨-, k, hk, heq⟩
      rwa [← String.toList_inj.mp heq]
    · intro hn
      exact ⟨(h n hn).1, n, hn, rfl⟩

/-- A written value is read as what it was. -/
theorem Writable.value_valueText (h : c.Writable names) (s : Setting) :
    s.value (c.valueText names s) = c.get s := by
  cases s with
  | blacklist =>
    refine congrArg Value.names (NameSet.eq_of_mem fun n => ?_)
    rw [valueText, mem_blacklistNames_intercalate h.bars, NameSet.mem_def]
    exact h.perm.mem_iff
  | _ => rfl

/-! ## Pairs -/

theorem toList_pairText (c : Config) (names : List String) (s : Setting) :
    (c.pairText names s).toList = s.key.toList ++ '=' :: (c.valueText names s).toList := by
  rw [pairText, String.toList_append, String.toList_append, List.append_assoc]
  rfl

namespace Setting

theorem trim_key (s : Setting) : Text.trim s.key.toList = s.key.toList := by
  cases s <;> decide

theorem equals_not_mem_key (s : Setting) : '=' ∉ s.key.toList := by
  cases s <;> decide

theorem comma_not_mem_key (s : Setting) : ',' ∉ s.key.toList := by
  cases s <;> decide

theorem opens_key (s : Setting) : Opens (s.key.toList ++ ['=']) := by
  rw [← startsPair_iff]
  cases s <;> decide +kernel

end Setting

namespace Writable

variable (h : c.Writable names)
include h

theorem fragments_write (hne : order ≠ []) :
    fragments (c.write names order).toList = order.map fun s => (c.pairText names s).toList := by
  rw [write, String.toList_intercalate, List.map_map]
  have hwhole : ∀ f ∈ order.map (String.toList ∘ c.pairText names), Whole f := by
    intro f hf
    obtain ⟨s, -, rfl⟩ := List.mem_map.mp hf
    rw [Function.comp_apply, toList_pairText, List.append_cons]
    refine (h.whole s).append_left ?_
    simp [s.comma_not_mem_key]
  have hopens : ∀ f ∈ order.map (String.toList ∘ c.pairText names), Opens f := by
    intro f hf
    obtain ⟨s, -, rfl⟩ := List.mem_map.mp hf
    rw [Function.comp_apply, toList_pairText, List.append_cons]
    exact s.opens_key.append _
  exact fragments_intercalate (by simpa using hne) hwhole fun f hf =>
    hopens f (List.mem_of_mem_tail hf)

theorem pairs_write (hne : order ≠ []) :
    pairs (c.write names order) = order.map fun s => (s.key, c.valueText names s) := by
  rw [pairs, h.fragments_write hne, List.filterMap_map, ← List.filterMap_eq_map]
  refine List.filterMap_congr fun s _ => ?_
  rw [Function.comp_apply, toList_pairText, pair?_append s.equals_not_mem_key, s.trim_key,
    h.trim_eq, String.ofList_toList, String.ofList_toList]
  rfl

end Writable

theorem lookup_map_key (f : Setting → String) {s : Setting} (hs : s ∈ order) :
    (order.map fun t => (t.key, f t)).lookup s.key = some (f s) := by
  induction order with
  | nil => cases hs
  | cons t order ih =>
    rw [List.map_cons, List.lookup_cons]
    by_cases hst : s = t
    · rw [hst, beq_self_eq_true]
    · rw [beq_eq_false_iff_ne.mpr (Setting.key_inj.not.mpr hst)]
      exact ih (List.mem_of_ne_of_mem hst hs)

/-- **What is read is what was written.** A configuration is read back, without a report, from the
pairs for its options in any order. -/
theorem read_write (h : c.Writable names) (horder : order.Perm Setting.all) :
    read (c.write names order) = .ok c := by
  have hmem : ∀ s, s ∈ order := fun s => horder.mem_iff.mpr s.mem_all
  have hopt : ∀ p ∈ order.map fun s => (s.key, c.valueText names s), IsOption p.1 := by
    intro p hp
    obtain ⟨s, -, rfl⟩ := List.mem_map.mp hp
    exact ⟨s, rfl⟩
  rw [read, h.pairs_write (List.ne_nil_of_mem (hmem .blacklist)), apply_of_isOption hopt]
  refine congrArg Outcome.ok (eq_of_get fun s => ?_)
  rw [get_settle, ← List.map_reverse, lookup_map_key _ (List.mem_reverse.mpr (hmem s)),
    Option.map_some, Option.getD_some, h.value_valueText]

/-- A configuration with commas at the ends of values, and with equals signs in values. -/
def crowded : Config where
  rootPrefix := "=gir,"
  delimiter := ","
  blacklist := .ofList ["Foo", "Bar"]
  errorTypeName := "a = b,, c"
  defaultErrorType := ",,"

theorem read_write_crowded :
    crowded.Writable ["Foo", "Bar"] ∧
      [.delimiter, .blacklist, .defaultErrorType, .rootPrefix, .errorTypeName].Perm Setting.all ∧
      crowded.write ["Foo", "Bar"]
        [.delimiter, .blacklist, .defaultErrorType, .rootPrefix, .errorTypeName] =
        "prefix_delimiter=,,blacklist=Foo|Bar,default_error_type=,,," ++
          "default_prefix==gir,,error_type_name=a = b,, c" ∧
      read (crowded.write ["Foo", "Bar"]
        [.delimiter, .blacklist, .defaultErrorType, .rootPrefix, .errorTypeName]) =
        .ok crowded := by
  have hw : crowded.Writable ["Foo", "Bar"] := by
    refine ⟨by decide, by decide, fun s => ?_, fun s => ?_⟩
    · cases s <;> decide
    · cases s <;> decide +kernel
  have hp : [Setting.delimiter, .blacklist, .defaultErrorType, .rootPrefix, .errorTypeName].Perm
      Setting.all := by decide
  exact ⟨hw, hp, by decide +kernel, read_write hw hp⟩

end Config

end Introspection
