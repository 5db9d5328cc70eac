import Mathlib.Data.List.TakeWhile
import Introspection.Config.Reader
import Introspection.Proofs.Text.Piece

/-!
# Commas between pairs

A configuration is cut at the commas behind which a pair begins. What comes after the next such
comma cannot change whether a pair begins, so fragments can be told apart one by one: no fragment
holds a comma to cut at, and a pair begins in every fragment but perhaps the first.

* `IsKey`, `Opens`: how a pair begins;
* `opens_append_comma_iff`: only the text up to the next comma counts;
* `Whole`: texts without commas to cut at;
* `IsCut`: fragments of a text, and **`fragments_eq_iff`**: there is one way to cut a text, which is
  the one that is taken.
-/

namespace Introspection.Config

/-! ## How a pair begins -/

/-- A key: a letter of the basic alphabet or an underscore, and letters, numbers and underscores
behind it. -/
def IsKey (cs : List Char) : Prop :=
  ∃ c rest, cs = c :: rest ∧ isKeyStart c ∧ ∀ x ∈ rest, isKeyChar x

/-- A text begins with a key and an equals sign, perhaps behind blanks. -/
def Opens (cs : List Char) : Prop :=
  ∃ blanks key rest,
    cs = blanks ++ (key ++ '=' :: rest) ∧ (∀ b ∈ blanks, Text.isBlank b) ∧ IsKey key

theorem isKeyChar_equals : isKeyChar '=' = false := by decide +kernel

theorem isKeyChar_comma : isKeyChar ',' = false := by decide +kernel

theorem isKeyChar_of_isKeyStart {c : Char} (h : isKeyStart c) :
    isKeyChar c ∧ Text.isBlank c = false := by
  have hsmall : c.toNat < 128 := by
    rcases (Bool.or_eq_true _ _).mp h with h | h
    · rw [eq_of_beq h]
      decide
    · -- Letters of the basic alphabet, large and small.
      rcases (Bool.or_eq_true _ _).mp h with h | h
      · have hle : c.toNat ≤ 'Z'.toNat := (of_decide_eq_true h).2
        exact Nat.lt_of_le_of_lt hle (by decide)
      · have hle : c.toNat ≤ 'z'.toNat := of_decide_eq_true ((Bool.and_eq_true _ _).mp h).2
        exact Nat.lt_of_le_of_lt hle (by decide)
  exact Text.of_forall_ascii
    (p := fun c => isKeyStart c → isKeyChar c ∧ Text.isBlank c = false) (by decide) hsmall h

theorem IsKey.isKeyChar_of_mem {cs : List Char} (h : IsKey cs) {c : Char} (hc : c ∈ cs) :
    isKeyChar c := by
  obtain ⟨k, rest, rfl, hk, hrest⟩ := h
  rcases List.mem_cons.mp hc with rfl | hc
  · exact (isKeyChar_of_isKeyStart hk).1
  · exact hrest c hc

theorem IsKey.not_mem {cs : List Char} (h : IsKey cs) {c : Char} (hc : isKeyChar c = false) :
    c ∉ cs := by
  intro hm
  rw [h.isKeyChar_of_mem hm] at hc
  cases hc

theorem startsPair_iff {cs : List Char} : startsPair cs ↔ Opens cs := by
  have hsplit : cs.takeWhile Text.isBlank ++ cs.dropWhile Text.isBlank = cs :=
    List.takeWhile_append_dropWhile
  have hblank : ∀ b ∈ cs.takeWhile Text.isBlank, Text.isBlank b := fun _ =>
    List.mem_takeWhile_imp
  rw [startsPair]
  constructor
  · intro h
    split at h
    · cases h
    · rename_i c rest hdrop
      rw [Bool.and_eq_true, beq_iff_eq] at h
      obtain ⟨tail, htail⟩ := List.head?_eq_some_iff.mp h.2
      refine ⟨_, c :: rest.takeWhile isKeyChar, tail, ?_, hblank,
        c, _, rfl, h.1, fun _ => List.mem_takeWhile_imp⟩
      rw [List.cons_append, ← htail, List.takeWhile_append_dropWhile, ← hdrop, hsplit]
  · rintro ⟨blanks, key, rest, rfl, hblanks, c, ks, rfl, hc, hks⟩
    have hdrop : (blanks ++ (c :: ks ++ '=' :: rest)).dropWhile Text.isBlank =
        c :: (ks ++ '=' :: rest) :=
      Text.dropWhile_append_stop hblanks (isKeyChar_of_isKeyStart hc).2
    rw [hdrop]
    dsimp only
    rw [hc, Text.dropWhile_append_stop hks isKeyChar_equals]
    rfl

/-- What follows does not matter once a pair has begun. -/
theorem Opens.append {cs : List Char} (h : Opens cs) (ds : List Char) : Opens (cs ++ ds) := by
  obtain ⟨blanks, key, rest, rfl, hblanks, hkey⟩ := h
  exact ⟨blanks, key, rest ++ ds, by simp, hblanks, hkey⟩

/-- **Only the text up to the next comma counts.** A comma is neither blank nor part of a key, so
it does not stand between a key and what is in front of it. -/
theorem opens_append_comma_iff {cs ds : List Char} : Opens (cs ++ ',' :: ds) ↔ Opens cs := by
  refine ⟨?_, fun h => h.append _⟩
  rintro ⟨blanks, key, rest, heq, hblanks, hkey⟩
  have hcomma : ',' ∉ blanks ++ (key ++ ['=']) := by
    simp only [List.mem_append, List.mem_singleton, not_or]
    refine ⟨fun hb => ?_, hkey.not_mem isKeyChar_comma, by decide⟩
    exact absurd (hblanks _ hb) (by decide)
  have heq : cs ++ ',' :: ds = (blanks ++ (key ++ ['='])) ++ rest := by
    rw [heq]
    simp
  rcases List.append_eq_append_iff.mp heq with ⟨as, hhead, hrest⟩ | ⟨bs, rfl, -⟩
  · cases as with
    | nil => exact ⟨blanks, key, [], by simpa using hhead.symm, hblanks, hkey⟩
    | cons a as =>
      -- The comma would be part of what begins the pair.
      rw [List.cons_append] at hrest
      obtain ⟨rfl, -⟩ := List.cons.inj hrest
      exact absurd (hhead ▸ by simp) hcomma
  · exact ⟨blanks, key, bs, by simp, hblanks, hkey⟩

/-! ## Fragments -/

/-- A text holds no comma behind which a pair begins. -/
def Whole (cs : List Char) : Prop := ∀ before after, cs = before ++ ',' :: after → ¬Opens after

theorem Whole.append_left {as cs : List Char} (h : Whole cs) (ha : ',' ∉ as) :
    Whole (as ++ cs) := by
  intro before after heq
  rcases List.append_eq_append_iff.mp heq with ⟨bs, -, hcs⟩ | ⟨bs, rfl, hrest⟩
  · exact h bs after hcs
  · cases bs with
    | nil => exact h [] after hrest.symm
    | cons b bs =>
      obtain ⟨rfl, -⟩ := List.cons.inj hrest
      exact absurd (by simp) ha

theorem Whole.tail {c : Char} {cs : List Char} (h : Whole (c :: cs)) : Whole cs :=
  fun before after heq => h (c :: before) after (by rw [heq, List.cons_append])

/-- Fragments that make up a text: with commas between them they are the text, no fragment holds a
comma to cut at, and a pair begins behind each comma between them. -/
structure IsCut (cs : List Char) (fs : List (List Char)) : Prop where
  joined : [','].intercalate fs = cs
  ne_nil : fs ≠ []
  whole : ∀ f ∈ fs, Whole f
  opens : ∀ f ∈ fs.tail, Opens f

section Cut

variable {f : List Char}

theorem cut_of_whole (hf : Whole f) (begun : List Char) : cut begun f = [begun.reverse ++ f] := by
  induction f generalizing begun with
  | nil => simp [cut]
  | cons c f ih =>
    have hstay : ¬(c = ',' ∧ startsPair f) := by
      rintro ⟨rfl, h⟩
      exact hf [] f rfl (startsPair_iff.mp h)
    rw [cut, if_neg hstay, ih hf.tail]
    simp

/-- The first comma to cut at is the one between a whole text and the beginning of a pair. -/
theorem cut_append (hf : Whole f) {next : List Char} (hnext : Opens next) (begun : List Char) :
    cut begun (f ++ ',' :: next) = (begun.reverse ++ f) :: cut [] next := by
  induction f generalizing begun with
  | nil => simp [cut, startsPair_iff.mpr hnext]
  | cons c f ih =>
    have hstay : ¬(c = ',' ∧ startsPair (f ++ ',' :: next)) := by
      rintro ⟨rfl, h⟩
      exact hf [] f rfl (opens_append_comma_iff.mp (startsPair_iff.mp h))
    rw [List.cons_append, cut, if_neg hstay, ih hf.tail]
    simp

theorem fragments_intercalate {fs : List (List Char)} (hne : fs ≠ []) (hwhole : ∀ f ∈ fs, Whole f)
    (hopens : ∀ f ∈ fs.tail, Opens f) : fragments ([','].intercalate fs) = fs := by
  induction fs with
  | nil => exact absurd rfl hne
  | cons f fs ih =>
    cases fs with
    | nil =>
      rw [List.intercalate_singleton, fragments, cut_of_whole (hwhole f (by simp))]
      rfl
    | cons g gs =>
      have hg : Opens ([','].intercalate (g :: gs)) := by
        have := hopens g (by simp)
        cases gs with
        | nil => rwa [List.intercalate_singleton]
        | cons h hs =>
          rw [List.intercalate_cons_cons, List.append_assoc]
          exact this.append _
      have hrest := ih (by simp) (fun x hx => hwhole x (List.mem_cons_of_mem _ hx))
        fun x hx => hopens x (List.mem_cons_of_mem _ hx)
      rw [fragments] at hrest
      rw [List.intercalate_cons_cons, List.append_assoc, List.singleton_append, fragments,
        cut_append (hwhole f (by simp)) hg, hrest]
      rfl

end Cut

theorem isCut_cut {begun cs : List Char}
    (h : ∀ before after, begun.reverse = before ++ ',' :: after → ¬Opens (after ++ cs)) :
    IsCut (begun.reverse ++ cs) (cut begun cs) := by
  induction cs generalizing begun with
  | nil =>
    rw [cut, List.append_nil]
    refine ⟨List.intercalate_singleton, by simp, ?_, by simp⟩
    intro f hf before after heq
    rw [List.mem_singleton.mp hf] at heq
    simpa using h before after heq
  | cons c cs ih =>
    rw [cut]
    by_cases hcut : c = ',' ∧ startsPair cs
    · obtain ⟨rfl, hopens⟩ := hcut
      obtain ⟨hjoined, hne, hwhole, htail⟩ := @ih [] (by simp)
      rw [if_pos ⟨rfl, hopens⟩]
      obtain ⟨g, gs, hgs⟩ := List.exists_cons_of_ne_nil hne
      rw [hgs] at hjoined hwhole htail ⊢
      -- The pair that begins behind the comma is the first of the other fragments.
      have hg : Opens g := by
        rw [startsPair_iff, ← List.nil_append cs, ← List.reverse_nil, ← hjoined] at hopens
        cases gs with
        | nil => rwa [List.intercalate_singleton] at hopens
        | cons x xs =>
          rw [List.intercalate_cons_cons, List.append_assoc, List.singleton_append] at hopens
          exact opens_append_comma_iff.mp hopens
      refine ⟨?_, by simp, ?_, ?_⟩
      · rw [List.intercalate_cons_cons, hjoined]
        simp
      · refine List.forall_mem_cons.mpr ⟨fun before after heq hafter => ?_, hwhole⟩
        exact h before after heq (hafter.append _)
      · exact List.forall_mem_cons.mpr ⟨hg, htail⟩
    · rw [if_neg hcut, show begun.reverse ++ c :: cs = (c :: begun).reverse ++ cs by simp]
      refine ih fun before after heq hafter => ?_
      rw [List.reverse_cons] at heq
      rcases List.eq_nil_or_concat after with rfl | ⟨after, d, rfl⟩
      · -- The comma is the last character, behind which no pair begins.
        obtain ⟨-, hc⟩ := List.append_inj' heq rfl
        obtain ⟨rfl, -⟩ := List.cons.inj hc
        exact hcut ⟨rfl, startsPair_iff.mpr hafter⟩
      · rw [List.concat_eq_append, ← List.cons_append, ← List.append_assoc] at heq
        obtain ⟨hbegun, hc⟩ := List.append_inj' heq rfl
        obtain ⟨rfl, -⟩ := List.cons.inj hc
        refine h before after hbegun ?_
        rwa [List.concat_eq_append, List.append_assoc, List.singleton_append] at hafter

theorem isCut_fragments (cs : List Char) : IsCut cs (fragments cs) :=
  @isCut_cut [] cs (by simp)

/-- **There is one way to cut a text.** -/
theorem fragments_eq_iff {cs : List Char} {fs : List (List Char)} :
    fragments cs = fs ↔ IsCut cs fs := by
  constructor
  · rintro rfl
    exact isCut_fragments cs
  · rintro ⟨rfl, hne, hwhole, hopens⟩
    exact fragments_intercalate hne hwhole hopens

theorem whole_iff {cs : List Char} : Whole cs ↔ fragments cs = [cs] := by
  constructor
  · intro h
    rw [fragments, cut_of_whole h]
    rfl
  · intro h
    exact (fragments_eq_iff.mp h).whole cs (by simp)

instance (cs : List Char) : Decidable (Whole cs) := decidable_of_iff _ whole_iff.symm

end Introspection.Config
