import Mathlib.Data.List.Basic
import Mathlib.Data.List.Induction
import Introspection.Proofs.Config.Fragments
import Introspection.Proofs.Outcome

/-!
# What a configuration is read from

Pairs are applied from the left, so an option has the value that the last pair gives it. Keys that
are no options are reported, but not all of them: what objects have anyway counts as known. Most of
these reserved keys are passed over without a word, and three of them break off the reading.

* `Setting.key`, `Config.get`: options by their keys and their values;
* `Config.mem_blacklistNames`: the names of a blacklist;
* `Config.give`, `Config.settle`, `Config.get_settle`: the last pair for an option counts;
* `Config.apply_eq`: pairs that are applied;
* **`Config.read_settles`**: what is read, what is reported, and when nothing is amiss.
-/

namespace Introspection.Config

/-! ## Options -/

namespace Setting

/-- The options in the order of the fields. -/
def all : List Setting := [.rootPrefix, .delimiter, .blacklist, .errorTypeName, .defaultErrorType]

theorem mem_all (s : Setting) : s ∈ all := by
  cases s <;> decide

/-- The key of an option. -/
def key : Setting → String
  | rootPrefix => "default_prefix"
  | delimiter => "prefix_delimiter"
  | blacklist => "blacklist"
  | errorTypeName => "error_type_name"
  | defaultErrorType => "default_error_type"

@[simp] theorem lookup_key (s : Setting) : settings.lookup s.key = some s := by
  cases s <;> rfl

@[simp] theorem key_inj {s t : Setting} : s.key = t.key ↔ s = t := by
  refine ⟨fun h => ?_, fun h => h ▸ rfl⟩
  have ht := t.lookup_key
  rw [← h, lookup_key] at ht
  exact Option.some.inj ht

end Setting

theorem lookup_settings_eq_some_iff {k : String} {s : Setting} :
    settings.lookup k = some s ↔ k = s.key := by
  refine ⟨fun h => ?_, fun h => h ▸ s.lookup_key⟩
  have hkeys : ∀ p ∈ settings, p.1 = p.2.key := by decide
  obtain ⟨p, q, heq, -⟩ := List.lookup_eq_some_iff.mp h
  exact hkeys (k, s) (by rw [heq]; simp)

/-- A key is the key of an option. -/
def IsOption (k : String) : Prop := ∃ s : Setting, k = s.key

theorem isOption_iff {k : String} : IsOption k ↔ (settings.lookup k).isSome := by
  simp only [IsOption, Option.isSome_iff_exists, lookup_settings_eq_some_iff]

instance (k : String) : Decidable (IsOption k) := decidable_of_iff _ isOption_iff.symm

/-! ## Values -/

/-- The value of an option. -/
inductive Value where
  | text (t : String)
  | names (s : NameSet)
deriving DecidableEq

def get (c : Config) : Setting → Value
  | .rootPrefix => .text c.rootPrefix
  | .delimiter => .text c.delimiter
  | .blacklist => .names c.blacklist
  | .errorTypeName => .text c.errorTypeName
  | .defaultErrorType => .text c.defaultErrorType

theorem eq_of_get {c d : Config} (h : ∀ s, c.get s = d.get s) : c = d := by
  have hroot := Value.text.inj (h .rootPrefix)
  have hdelimiter := Value.text.inj (h .delimiter)
  have hblacklist := Value.names.inj (h .blacklist)
  have hname := Value.text.inj (h .errorTypeName)
  have hdefault := Value.text.inj (h .defaultErrorType)
  cases c
  cases d
  congr

/-- The value that a text stands for: the text itself, or the names in it for the blacklist. -/
def Setting.value : Setting → String → Value
  | .blacklist, v => .names (blacklistNames v)
  | _, v => .text v

@[simp] theorem get_set_self (c : Config) (s : Setting) (v : String) :
    (c.set s v).get s = s.value v := by
  cases s <;> rfl

theorem get_set_of_ne (c : Config) {s t : Setting} (h : s ≠ t) (v : String) :
    (c.set s v).get t = c.get t := by
  cases s <;> cases t <;> first | rfl | exact absurd rfl h

theorem mem_blacklistNames {n v : String} :
    n ∈ blacklistNames v ↔ n ≠ "" ∧ n.toList ∈ v.toList.splitOn '|' := by
  rw [blacklistNames, NameSet.mem_ofList, Text.splitOn_singleton, List.mem_map]
  constructor
  · rintro ⟨piece, hpiece, rfl⟩
    obtain ⟨hmem, hne⟩ := List.mem_filter.mp hpiece
    rw [String.toList_ofList]
    refine ⟨?_, hmem⟩
    rintro hempty
    rw [← String.toList_inj, String.toList_ofList] at hempty
    simp [hempty] at hne
  · rintro ⟨hne, hmem⟩
    refine ⟨n.toList, List.mem_filter.mpr ⟨hmem, ?_⟩, String.ofList_toList⟩
    simpa using hne

/-! ## Pairs -/

theorem pair?_append {key value : List Char} (h : '=' ∉ key) :
    pair? (key ++ '=' :: value) =
      some (String.ofList (Text.trim key), String.ofList (Text.trim value)) := by
  rw [pair?, Text.splitAtFirst?_append h, Option.map_some]

theorem pair?_eq_none_iff {fragment : List Char} : pair? fragment = none ↔ '=' ∉ fragment := by
  rw [pair?, Option.map_eq_none_iff, Text.splitAtFirst?_eq_none_iff]

/-- Gives an option the value of a pair for it; a pair with another key changes nothing. -/
def give (c : Config) (p : String × String) : Config :=
  (settings.lookup p.1).elim c fun s => c.set s p.2

@[simp] theorem give_key (c : Config) (s : Setting) (v : String) : c.give (s.key, v) = c.set s v := by
  rw [give, s.lookup_key, Option.elim_some]

theorem give_of_not_isOption (c : Config) {k : String} (h : ¬IsOption k) (v : String) :
    c.give (k, v) = c := by
  rw [isOption_iff, Option.not_isSome_iff_eq_none] at h
  rw [give, h, Option.elim_none]

/-- The configuration with the values that pairs give to options. -/
def settle (c : Config) (ps : List (String × String)) : Config := ps.foldl give c

theorem settle_concat (c : Config) (ps : List (String × String)) (p : String × String) :
    c.settle (ps ++ [p]) = (c.settle ps).give p := by
  rw [settle, List.foldl_append]
  rfl

/-- **The last pair for an option counts.** -/
theorem get_settle (c : Config) (ps : List (String × String)) (s : Setting) :
    (c.settle ps).get s = ((ps.reverse.lookup s.key).map s.value).getD (c.get s) := by
  induction ps using List.reverseRecOn with
  | nil => rfl
  | append_singleton ps p ih =>
    obtain ⟨k, v⟩ := p
    rw [settle_concat, List.reverse_append, List.reverse_singleton, List.singleton_append]
    by_cases hk : s.key = k
    · subst hk
      rw [give_key, get_set_self, List.lookup_cons_self]
      rfl
    · rw [List.lookup_cons, beq_eq_false_iff_ne.mpr hk, ← ih]
      by_cases hopt : IsOption k
      · obtain ⟨t, rfl⟩ := hopt
        rw [give_key, get_set_of_ne _ fun h => hk (Setting.key_inj.mpr h.symm)]
      · rw [give_of_not_isOption _ hopt]

/-! ## Keys -/

/-- A key is neither an option nor something that objects have anyway. -/
def IsUnknown (k : String) : Prop := ¬IsOption k ∧ k ∉ reserved ∧ k ∉ fixed

instance (k : String) : Decidable (IsUnknown k) := inferInstanceAs (Decidable (_ ∧ _))

theorem not_isOption_of_mem_reserved : ∀ k ∈ reserved, ¬IsOption k := by decide

theorem not_isOption_of_mem_fixed : ∀ k ∈ fixed, ¬IsOption k := by decide

theorem not_mem_reserved_of_mem_fixed : ∀ k ∈ fixed, k ∉ reserved := by decide

theorem apply_cons (c : Config) (k v : String) (ps : List (String × String)) :
    apply c ((k, v) :: ps) =
      if k ∈ fixed then .fail (.fixedOption k)
      else
        let rest := apply (c.give (k, v)) ps
        ⟨if IsUnknown k then .unknownOption k :: rest.warnings else rest.warnings,
          rest.result⟩ := by
  rw [apply, Key.ofText]
  by_cases hopt : IsOption k
  · obtain ⟨s, rfl⟩ := hopt
    have hf : s.key ∉ fixed := fun h => not_isOption_of_mem_fixed _ h ⟨s, rfl⟩
    have hu : ¬IsUnknown s.key := fun h => h.1 ⟨s, rfl⟩
    rw [s.lookup_key, give_key]
    simp only [if_neg hf, if_neg hu]
  · have hnone := hopt
    rw [isOption_iff, Option.not_isSome_iff_eq_none] at hnone
    rw [give_of_not_isOption c hopt, hnone]
    by_cases hr : k ∈ reserved
    · have hf : k ∉ fixed := fun h => not_mem_reserved_of_mem_fixed k h hr
      have hu : ¬IsUnknown k := fun h => h.2.1 hr
      simp only [if_pos hr, if_neg hf, if_neg hu]
    · by_cases hf : k ∈ fixed
      · simp only [if_neg hr, if_pos hf]
      · have hu : IsUnknown k := ⟨hopt, hr, hf⟩
        simp only [if_neg hr, if_neg hf, if_pos hu]
        exact Outcome.warn_bind _ _

/-- The pairs up to the first key that takes no value. -/
def untilFixed (ps : List (String × String)) : List (String × String) :=
  ps.takeWhile fun p => p.1 ∉ fixed

/-- The failure for the first key that takes no value. -/
def failure? (ps : List (String × String)) : Option Failure :=
  (ps.find? fun p => p.1 ∈ fixed).map fun p => .fixedOption p.1

theorem failure?_eq_some_iff {ps : List (String × String)} {e : Failure} :
    failure? ps = some e ↔
      ∃ before k v after, ps = before ++ (k, v) :: after ∧ (∀ p ∈ before, p.1 ∉ fixed) ∧
        k ∈ fixed ∧ e = .fixedOption k := by
  rw [failure?, Option.map_eq_some_iff]
  constructor
  · rintro ⟨⟨k, v⟩, hfind, rfl⟩
    obtain ⟨hk, before, after, heq, hbefore⟩ := List.find?_eq_some_iff_append.mp hfind
    exact ⟨before, k, v, after, heq, by simpa using hbefore, by simpa using hk, rfl⟩
  · rintro ⟨before, k, v, after, rfl, hbefore, hk, rfl⟩
    have hfind : (before ++ (k, v) :: after).find? (fun p => p.1 ∈ fixed) = some (k, v) :=
      List.find?_eq_some_iff_append.mpr
        ⟨by simpa using hk, before, after, rfl, by simpa using hbefore⟩
    exact ⟨(k, v), hfind, rfl⟩

theorem failure?_eq_none_iff {ps : List (String × String)} :
    failure? ps = none ↔ ∀ p ∈ ps, p.1 ∉ fixed := by
  simp [failure?]

theorem untilFixed_eq_self {ps : List (String × String)} (h : ∀ p ∈ ps, p.1 ∉ fixed) :
    untilFixed ps = ps :=
  List.takeWhile_eq_self_iff.mpr (by simpa using h)

/-- **Pairs that are applied.** -/
theorem apply_eq (c : Config) (ps : List (String × String)) :
    apply c ps =
      ⟨((untilFixed ps).filter fun p => IsUnknown p.1).map fun p => .unknownOption p.1,
        (failure? ps).elim (.ok (c.settle ps)) .error⟩ := by
  induction ps generalizing c with
  | nil => rfl
  | cons p ps ih =>
    obtain ⟨k, v⟩ := p
    rw [apply_cons, untilFixed, failure?, List.find?_cons, List.takeWhile_cons]
    by_cases hf : k ∈ fixed
    · simp [hf, Outcome.fail]
    · rw [if_neg hf, ih]
      simp only [hf, not_false_eq_true, decide_true, if_true, List.filter_cons]
      by_cases hu : IsUnknown k
      · simp [hu, untilFixed, failure?, settle]
      · simp [hu, untilFixed, failure?, settle]

/-- Pairs for options are applied without a word. -/
theorem apply_of_isOption {c : Config} {ps : List (String × String)}
    (h : ∀ p ∈ ps, IsOption p.1) : apply c ps = .ok (c.settle ps) := by
  have hfixed : failure? ps = none :=
    failure?_eq_none_iff.mpr fun p hp hf => not_isOption_of_mem_fixed _ hf (h p hp)
  have hunknown : (untilFixed ps).filter (fun p => IsUnknown p.1) = [] := by
    refine List.filter_eq_nil_iff.mpr fun p hp hu => ?_
    exact (of_decide_eq_true hu).1 (h p (List.takeWhile_subset _ hp))
  rw [apply_eq, hfixed, hunknown]
  rfl

/-! ## Texts -/

/-- The value that the last pair for an option gives it, the default if there is none. -/
def lastValue (ps : List (String × String)) (s : Setting) : Value :=
  ((ps.reverse.lookup s.key).map s.value).getD (get {} s)

/-- What is expected of a reader of pairs: whatever the keys are, a configuration that has the last
value for each option, and one report for each pair whose key is no option. -/
def AsExpected (ps : List (String × String)) (o : Outcome Config) : Prop :=
  (∃ c, o.result = .ok c ∧ ∀ s, c.get s = lastValue ps s) ∧
    o.warnings = (ps.filter fun p => ¬IsOption p.1).map fun p => .unknownOption p.1

/-- What comes of pairs. -/
structure Settles (ps : List (String × String)) (o : Outcome Config) : Prop where
  /-- The reading is broken off at the first key that takes no value, and only there. -/
  failed : ∀ e, o.result = .error e ↔
    ∃ before k v after, ps = before ++ (k, v) :: after ∧ (∀ p ∈ before, p.1 ∉ fixed) ∧ k ∈ fixed ∧
      e = .fixedOption k
  /-- Options have their last values. -/
  settled : ∀ c, o.result = .ok c → ∀ s, c.get s = lastValue ps s
  /-- Unknown keys are reported in order, until the reading is broken off. -/
  reported : o.warnings =
    ((untilFixed ps).filter fun p => IsUnknown p.1).map fun p => .unknownOption p.1
  /-- Nothing else is amiss. -/
  asExpected_iff : AsExpected ps o ↔ ∀ p ∈ ps, p.1 ∉ reserved ∧ p.1 ∉ fixed

theorem result_apply_eq_ok_iff {c d : Config} {ps : List (String × String)} :
    (apply c ps).result = .ok d ↔ (∀ p ∈ ps, p.1 ∉ fixed) ∧ c.settle ps = d := by
  rw [apply_eq, ← failure?_eq_none_iff]
  cases failure? ps <;> simp

theorem asExpected_apply_iff (ps : List (String × String)) :
    AsExpected ps (apply {} ps) ↔ ∀ p ∈ ps, p.1 ∉ reserved ∧ p.1 ∉ fixed := by
  constructor
  · rintro ⟨⟨d, hd, -⟩, hw⟩ p hp
    have hfixed := (result_apply_eq_ok_iff.mp hd).1
    refine ⟨fun hr => ?_, hfixed p hp⟩
    -- All keys that are no options are reported, so as many are unknown as are no options.
    rw [apply_eq, untilFixed_eq_self hfixed] at hw
    have hlength := congrArg List.length hw
    rw [List.length_map, List.length_map] at hlength
    have hsub : (ps.filter fun p => IsUnknown p.1).Sublist (ps.filter fun p => ¬IsOption p.1) :=
      List.monotone_filter_right ps fun q hq => decide_eq_true (of_decide_eq_true hq).1
    have heq := hsub.eq_of_length hlength
    have hmem : p ∈ ps.filter fun p => ¬IsOption p.1 :=
      List.mem_filter.mpr ⟨hp, decide_eq_true (not_isOption_of_mem_reserved _ hr)⟩
    rw [← heq] at hmem
    exact (of_decide_eq_true (List.mem_filter.mp hmem).2).2.1 hr
  · intro h
    have hfixed : ∀ p ∈ ps, p.1 ∉ fixed := fun p hp => (h p hp).2
    refine ⟨⟨_, result_apply_eq_ok_iff.mpr ⟨hfixed, rfl⟩, get_settle {} ps⟩, ?_⟩
    rw [apply_eq, untilFixed_eq_self hfixed]
    refine congrArg _ (List.filter_congr fun p hp => decide_eq_decide.mpr ?_)
    exact ⟨And.left, fun hopt => ⟨hopt, h p hp⟩⟩

theorem settles_apply (ps : List (String × String)) : Settles ps (apply {} ps) where
  failed e := by
    rw [apply_eq, ← failure?_eq_some_iff]
    cases failure? ps <;> simp
  settled c hc s := by
    rw [← (result_apply_eq_ok_iff.mp hc).2, get_settle, lastValue]
  reported := by rw [apply_eq]
  asExpected_iff := asExpected_apply_iff ps

/-- **What is read from a text.** The text is cut at the commas behind which a pair begins, in the
one way there is; fragments without an equals sign count for nothing, and the others are pairs of
what is before and behind their first equals sign. Reading fails exactly if there is a key that
takes no value; if it does not fail, every option has the value of the last pair for it, or its
default; and all is as expected exactly if no key is the name of what objects have anyway. -/
theorem read_settles (text : String) :
    ∃ fs, IsCut text.toList fs ∧ Settles (fs.filterMap pair?) (read text) ∧
      (∀ f, pair? f = none ↔ '=' ∉ f) ∧
      ∀ key value, '=' ∉ key → pair? (key ++ '=' :: value) =
        some (String.ofList (Text.trim key), String.ofList (Text.trim value)) :=
  ⟨fragments text.toList, isCut_fragments _, settles_apply _, fun _ => pair?_eq_none_iff,
    fun _ _ => pair?_append⟩

/-- The class of an object is no option, but it does not count as unknown either: reading a value
for it fails. A value for its documentation is passed over without a word. -/
theorem read_class :
    pairs "__class__=x" = [("__class__", "x")] ∧
      (read "__class__=x").result = .error (.fixedOption "__class__") ∧
      (read "__class__=x").warnings = [] ∧
      ¬AsExpected (pairs "__class__=x") (read "__class__=x") ∧
      pairs "__doc__=x" = [("__doc__", "x")] ∧
      (read "__doc__=x").result = .ok {} ∧ (read "__doc__=x").warnings = [] ∧
      ¬AsExpected (pairs "__doc__=x") (read "__doc__=x") := by
  have hclass : pairs "__class__=x" = [("__class__", "x")] := by decide
  have hdoc : pairs "__doc__=x" = [("__doc__", "x")] := by decide
  refine ⟨hclass, rfl, rfl, ?_, hdoc, rfl, rfl, ?_⟩
  · rw [read, asExpected_apply_iff, hclass]
    decide
  · rw [read, asExpected_apply_iff, hdoc]
    decide

end Introspection.Config
