import Introspection.Proofs.Text.Piece
import Introspection.Proofs.Tree
import Mathlib.Data.List.Flatten
import Mathlib.Data.List.TakeWhile

/-!
# Paths made of names

A path that leads over all children, or to all descendants, with a name that a prefix puts into a
namespace.

* `isName`: names without colons;
* `isWordChar_of_isNameChar`: the characters of names continue a word of a path;
* `Path.read_childrenPath`, `Path.read_descendantsPath`: the steps of such paths;
* **`Path.select_childrenPath`**, **`Path.select_descendantsPath`**: they select what is two levels
  further down, or anywhere below, in document order.
-/

namespace Introspection.Xml

open Introspection.Text

/-! ## Names -/

/-- Whether a text is a name without colons. -/
def isName (s : String) : Bool :=
  match s.toList with
  | [] => false
  | c :: cs => isNameStart c && cs.all isNameChar

theorem isBlank_eq_false {c : Char} (hc : 128 ≤ c.toNat)
    (h : inRanges letterRanges c.toNat ∨ inRanges continuationRanges c.toNat) :
    isBlank c = false := by
  have apart : ∀ r ∈ blankRanges, ∀ i ≤ r.2 - r.1, 128 ≤ r.1 + i →
      inRanges letterRanges (r.1 + i) = false ∧ inRanges continuationRanges (r.1 + i) = false := by
    decide
  rw [isBlank, Bool.eq_false_iff]
  intro hb
  obtain ⟨r, hr, hlo, hhi⟩ := inRanges_iff.mp hb
  have := apart r hr (c.toNat - r.1) (by omega) (by omega)
  rw [show r.1 + (c.toNat - r.1) = c.toNat by omega] at this
  simp [this] at h

/-- The characters of names continue a word of a path and are no colons. -/
theorem isWordChar_of_isNameChar {c : Char} (h : isNameChar c) :
    Path.isWordChar c ∧ c ≠ ':' := by
  by_cases hc : c.toNat < 128
  · exact of_forall_ascii
      (p := fun c => isNameChar c → Path.isWordChar c ∧ c ≠ ':') (by decide) hc h
  · have hr : inRanges letterRanges c.toNat ∨ inRanges continuationRanges c.toNat := by
      simpa [isNameChar, isNameStart, hc] using h
    have hne : ∀ d : Char, d.toNat < 128 → c ≠ d := by
      rintro d hd rfl
      exact hc hd
    rw [Path.isWordChar, isBlank_eq_false (by omega) hr]
    refine ⟨?_, hne ':' (by decide)⟩
    simp only [Bool.not_false, Bool.true_and, Bool.not_eq_true', List.contains_eq_mem,
      decide_eq_false_iff_not]
    intro hm
    have hall : "/[]()@!=".toList.all (fun d => d.toNat < 128) := by decide
    exact hne c (by simpa using List.all_eq_true.mp hall c hm) rfl

theorem not_mem_of_isNameStart {c : Char} (h : isNameStart c) :
    c ∉ "/.*:@=[]()!'\"\x7b".toList := by
  have hall : "/.*:@=[]()!'\"\x7b".toList.all (fun d => !isNameStart d) := by decide
  intro hm
  simpa [h] using List.all_eq_true.mp hall c hm

theorem exists_cons_of_isName {s : String} (h : isName s) :
    ∃ c cs, s.toList = c :: cs ∧ isNameStart c ∧ ∀ x ∈ c :: cs, isNameChar x := by
  rw [isName] at h
  cases hs : s.toList with
  | nil => rw [hs] at h; cases h
  | cons c cs =>
    rw [hs] at h
    simp only [Bool.and_eq_true, List.all_eq_true] at h
    refine ⟨c, cs, rfl, h.1, fun x hx => ?_⟩
    rcases List.mem_cons.mp hx with rfl | hx
    · simp [isNameChar, h.1]
    · exact h.2 x hx

/-! ## Reading -/

namespace Path

/-- The path over all children to those with a name that has a prefix. -/
def childrenPath (p base : String) : String := "./*/" ++ p ++ ":" ++ base

/-- The path to all descendants with a name that has a prefix. -/
def descendantsPath (p base : String) : String := ".//" ++ p ++ ":" ++ base

theorem lex_nil (n : Nat) : lex n [] = [] := by
  cases n <;> rfl

theorem lex_sign {c : Char} {cs rest : List Char} {s : Sign} (h : sign? (c :: cs) = some (s, rest))
    (hc : c ≠ '\'' ∧ c ≠ '"') (n : Nat) : lex (n + 1) (c :: cs) = .sign s :: lex n rest := by
  have hquoted : quoted? c cs = none := if_neg (not_or.mpr hc)
  rw [lex, hquoted, h]

section Signs

variable (cs : List Char)

theorem sign?_dot : sign? ('.' :: '/' :: cs) = some (.dot, '/' :: cs) := rfl

theorem sign?_star : sign? ('*' :: '/' :: cs) = some (.star, '/' :: cs) := rfl

theorem sign?_slash_star : sign? ('/' :: '*' :: cs) = some (.slash, '*' :: cs) := rfl

theorem sign?_slashes : sign? ('/' :: '/' :: cs) = some (.slashes, cs) := rfl

end Signs

section Plain

variable {c : Char} (hc : c ∉ "/.*:@=[]()!'\"\x7b".toList)

include hc

theorem sign?_eq_none (cs : List Char) : sign? (c :: cs) = none := by
  have hsingle : Sign.single? c = none := by
    unfold Sign.single?
    split <;> simp_all
  cases cs with
  | nil => rw [sign?, hsingle, Option.map_none]
  | cons d cs =>
    have hdouble : Sign.double? c d = none := by
      unfold Sign.double?
      split <;> simp_all
    rw [sign?, hdouble, hsingle, Option.map_none]

theorem sign?_slash (cs : List Char) : sign? ('/' :: c :: cs) = some (.slash, c :: cs) := by
  have hdouble : Sign.double? '/' c = none := by
    unfold Sign.double?
    split <;> simp_all
  rw [sign?, hdouble]
  rfl

theorem lex_word {cs : List Char} (hw : ∀ x ∈ c :: cs, isWordChar x) (n : Nat) :
    lex (n + 1) (c :: cs) = [.word (String.ofList (c :: cs))] := by
  have hquoted : quoted? c cs = none := if_neg (by simp_all)
  have hbraced : braced? (c :: cs) = none := by
    unfold braced?
    split <;> simp_all
  have hblank : isBlank c = false := by
    have hstart := hw c List.mem_cons_self
    simp only [isWordChar, Bool.and_eq_true, Bool.not_eq_true'] at hstart
    exact hstart.1
  have hword : takeWord (c :: cs) = (c :: cs, []) := by
    simp [takeWord, hbraced, List.takeWhile_eq_self_iff.mpr hw, List.dropWhile_eq_nil_iff.mpr hw]
  rw [lex, hquoted, sign?_eq_none hc]
  simp only [hblank, Bool.false_eq_true, if_false]
  rw [if_neg (by simp_all), hword]
  simp only [lex_nil]

end Plain

/-- A name with a prefix. -/
def prefixed (p base : String) : List Char := p.toList ++ ':' :: base.toList

theorem not_mem_of_isName {s : String} (h : isName s) : ':' ∉ s.toList ∧ '\x7d' ∉ s.toList := by
  obtain ⟨c, cs, hs, -, hcs⟩ := exists_cons_of_isName h
  rw [hs]
  refine ⟨fun hm => (isWordChar_of_isNameChar (hcs _ hm)).2 rfl, fun hm => ?_⟩
  exact absurd (hcs _ hm) (by decide)

section Prefixed

variable {p base : String} (hp : isName p) (hb : isName base)

include hp

theorem exists_cons_prefixed (base : String) :
    ∃ c cs, prefixed p base = c :: cs ∧ c ∉ "/.*:@=[]()!'\"\x7b".toList := by
  obtain ⟨c, cs, hpl, hc, -⟩ := exists_cons_of_isName hp
  exact ⟨c, cs ++ ':' :: base.toList, by rw [prefixed, hpl, List.cons_append],
    not_mem_of_isNameStart hc⟩

theorem read_prefixed {prefixes : List (String × String)} {space : String}
    (hl : prefixes.lookup p = some space) (isAttribute : Bool) :
    Word.read prefixes isAttribute (String.ofList (prefixed p base)) =
      .ok (.qualified space base) := by
  have hsplit : splitAtFirst? ':' (prefixed p base) = some (p.toList, base.toList) :=
    splitAtFirst?_append (not_mem_of_isName hp).1
  have hbrace : (prefixed p base).head? ≠ some '\x7b' := by
    obtain ⟨c, cs, heq, hc⟩ := exists_cons_prefixed hp base
    rw [heq, List.head?_cons, ne_eq, Option.some.injEq]
    rintro rfl
    exact hc (by decide)
  rw [Word.read, String.toList_ofList, if_neg hbrace, hsplit]
  simp [hl]

include hb

theorem lex_prefixed (n : Nat) :
    lex (n + 1) (prefixed p base) = [.word (String.ofList (prefixed p base))] := by
  obtain ⟨c, cs, hpl, -, hcs⟩ := exists_cons_of_isName hp
  obtain ⟨d, ds, hbl, -, hds⟩ := exists_cons_of_isName hb
  obtain ⟨e, es, heq, he⟩ := exists_cons_prefixed hp base
  have hw : ∀ x ∈ prefixed p base, isWordChar x := by
    intro x hx
    rw [prefixed, List.mem_append, List.mem_cons] at hx
    rcases hx with hx | rfl | hx
    · exact (isWordChar_of_isNameChar (hcs x (hpl ▸ hx))).1
    · decide
    · exact (isWordChar_of_isNameChar (hds x (hbl ▸ hx))).1
  rw [heq] at hw ⊢
  exact lex_word he hw n

omit hp in
theorem getLast?_append_prefixed_ne (lead : List Char) :
    (lead ++ prefixed p base).getLast? ≠ some '/' := by
  obtain ⟨d, ds, hbl, -, hds⟩ := exists_cons_of_isName hb
  rw [prefixed, hbl, show lead ++ (p.toList ++ ':' :: d :: ds) =
    (lead ++ (p.toList ++ [':'])) ++ d :: ds by simp, List.getLast?_append,
    List.getLast?_eq_some_getLast (List.cons_ne_nil d ds), Option.some_or]
  intro h
  have hlast := List.getLast_mem (List.cons_ne_nil d ds)
  rw [Option.some.inj h] at hlast
  exact absurd (isWordChar_of_isNameChar (hds _ hlast)).1 (by decide)

omit hp in
theorem test_qualified (space : String) :
    (Word.qualified space base).test = .qualified space base :=
  if_neg (not_mem_of_isName hb).2

end Prefixed

theorem read_childrenPath {p base space : String} (hp : isName p) (hb : isName base)
    {prefixes : List (String × String)} (hl : prefixes.lookup p = some space) :
    read prefixes (childrenPath p base) =
      .ok [.self, .children .any, .children (.qualified space base)] := by
  have hpath : (childrenPath p base).toList = ['.', '/', '*', '/'] ++ prefixed p base := by
    simp [childrenPath, prefixed]
  have hlen : (['.', '/', '*', '/'] ++ prefixed p base).length + 1 =
      (prefixed p base).length + 1 + 4 := by simp
  have hlex : lex ((prefixed p base).length + 1 + 4) (['.', '/', '*', '/'] ++ prefixed p base) =
      [.sign .dot, .sign .slash, .sign .star, .sign .slash,
        .word (String.ofList (prefixed p base))] := by
    have hslash : sign? ('/' :: prefixed p base) = some (.slash, prefixed p base) := by
      obtain ⟨c, cs, heq, hc⟩ := exists_cons_prefixed hp base
      rw [heq, sign?_slash hc]
    simp only [List.cons_append, List.nil_append]
    rw [lex_sign (sign?_dot _) (by decide), lex_sign (sign?_slash_star _) (by decide),
      lex_sign (sign?_star _) (by decide), lex_sign hslash (by decide), lex_prefixed hp hb]
  simp only [read, hpath, if_neg (getLast?_append_prefixed_ne hb _), hlen, hlex, resolve,
    read_prefixed hp hl]
  rw [if_neg (by simp), ← test_qualified hb]
  rfl

theorem read_descendantsPath {p base space : String} (hp : isName p) (hb : isName base)
    {prefixes : List (String × String)} (hl : prefixes.lookup p = some space) :
    read prefixes (descendantsPath p base) = .ok [.self, .descendants (.qualified space base)] := by
  have hpath : (descendantsPath p base).toList = ['.', '/', '/'] ++ prefixed p base := by
    simp [descendantsPath, prefixed]
  have hlen : (['.', '/', '/'] ++ prefixed p base).length + 1 =
      (prefixed p base).length + 1 + 3 := by simp
  have hlex : lex ((prefixed p base).length + 1 + 3) (['.', '/', '/'] ++ prefixed p base) =
      [.sign .dot, .sign .slashes, .word (String.ofList (prefixed p base))] := by
    simp only [List.cons_append, List.nil_append]
    rw [lex_sign (sign?_dot _) (by decide), lex_sign (sign?_slashes _) (by decide),
      lex_prefixed hp hb]
  simp only [read, hpath, if_neg (getLast?_append_prefixed_ne hb _), hlen, hlex, resolve,
    read_prefixed hp hl]
  rw [if_neg (by simp), ← test_qualified hb]
  rfl

/-! ## Selection -/

/-- **A path over all children selects what is two levels further down, in document order.** -/
theorem select_childrenPath (t : NameTest) (n : Node) :
    select [.self, .children .any, .children t] n =
      (n.generation 2).filter fun m => t.accepts m.element.name := by
  have hany : n.children.filter (fun m => NameTest.any.accepts m.element.name) = n.children :=
    List.filter_eq_self.mpr fun m _ => rfl
  have hgeneration : n.generation 2 = n.children.flatMap Node.children := by
    simp [Node.generation]
  rw [hgeneration, List.filter_flatMap]
  simp only [select, List.foldl_cons, List.foldl_nil, Step.select, List.flatMap_singleton, hany]

/-- **A path to all descendants selects what is below, in document order.** -/
theorem select_descendantsPath (t : NameTest) (n : Node) :
    select [.self, .descendants t] n =
      n.descendants.filter fun m => t.accepts m.element.name := by
  simp only [select, List.foldl_cons, List.foldl_nil, Step.select, List.flatMap_singleton]

end Path

end Introspection.Xml
