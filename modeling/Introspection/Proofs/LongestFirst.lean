import Mathlib.Data.Multiset.Sort
import Mathlib.Data.String.Basic
import Introspection.Document
import Introspection.Proofs.Text.Delimited

/-!
# Lists in attributes

The entries of a list in an attribute are given with the longest first and by code points where they
are equally long. Two texts that another text begins with are the same if they are equally long, so
the first entry that a text begins with is the longest one.

* `pieceLE_iff`: the order of entries, which is a linear one;
* `longestFirst`: entries in this order, whatever order they had;
* `firstMatch?`, **`firstMatch?_eq_some_iff`**: the first entry that a text begins with;
* `RankedByLength`, **`rankedByLength_longestFirst`**: what the order is good for;
* **`Xml.Element.subAttributes_ranked`**: lists in attributes.
-/

namespace Introspection

open Xml

/-! ## The order of entries -/

/-- The code points of a text. -/
def codePoints (s : String) : List Nat := s.toList.map (·.toNat)

theorem codePoints_le_of_le {a b : String} (h : a ≤ b) : codePoints a ≤ codePoints b := by
  rcases h.eq_or_lt with rfl | hlt
  · exact le_refl _
  · have hlt : codePoints a < codePoints b :=
      List.map_lt (fun _ _ hc => hc) (String.lt_iff_toList_lt.mp hlt)
    exact hlt.le

theorem pieceLE_iff {a b : String} :
    pieceLE a b ↔ b.length < a.length ∨ a.length = b.length ∧ a ≤ b := by
  simp [pieceLE]

instance : IsTrans String (fun a b => pieceLE a b) where
  trans a b c hab hbc := by
    rw [pieceLE_iff] at hab hbc ⊢
    rcases hab with hab | ⟨hab, hle⟩
    · exact .inl (by omega)
    · rcases hbc with hbc | ⟨hbc, hle'⟩
      · exact .inl (by omega)
      · exact .inr ⟨hab.trans hbc, hle.trans hle'⟩

instance : Std.Antisymm (fun a b => pieceLE a b) where
  antisymm a b hab hba := by
    rw [pieceLE_iff] at hab hba
    have hab : a ≤ b := (hab.resolve_left (by omega)).2
    have hba : b ≤ a := (hba.resolve_left (by omega)).2
    exact le_antisymm hab hba

instance : Std.Total (fun a b => pieceLE a b) where
  total a b := by
    rw [pieceLE_iff, pieceLE_iff]
    rcases Nat.lt_trichotomy a.length b.length with h | h | h
    · exact .inr (.inl h)
    · exact (le_total a b).imp (fun hle => .inr ⟨h, hle⟩) fun hle => .inr ⟨h.symm, hle⟩
    · exact .inl (.inl h)

/-- Entries with the longest first. Only how often each of them occurs counts. -/
def longestFirst (entries : Multiset String) : List String :=
  entries.sort fun a b => pieceLE a b

/-! ## The first entry that a text begins with -/

/-- The first entry of a list that a text begins with. -/
def firstMatch? (entries : List String) (s : String) : Option String :=
  entries.find? fun p => p.toList.isPrefixOf s.toList

theorem isPrefix_of_firstMatch? {entries : List String} {s p : String}
    (h : firstMatch? entries s = some p) : p ∈ entries ∧ p.toList <+: s.toList := by
  rw [firstMatch?] at h
  have hp := List.find?_some h
  exact ⟨List.mem_of_find?_eq_some h, List.isPrefixOf_iff_prefix.mp hp⟩

/-- Among entries that get shorter, no match is longer than the first one. -/
theorem length_le_of_firstMatch? {entries : List String}
    (hsorted : entries.Pairwise fun p q => q.length ≤ p.length) {s p q : String}
    (h : firstMatch? entries s = some p) (hq : q ∈ entries) (hqs : q.toList <+: s.toList) :
    q.length ≤ p.length := by
  obtain ⟨-, before, after, rfl, hbefore⟩ := List.find?_eq_some_iff_append.mp h
  rw [List.mem_append, List.mem_cons] at hq
  rcases hq with hq | rfl | hq
  · have := hbefore q hq
    rw [List.isPrefixOf_iff_prefix.mpr hqs] at this
    cases this
  · exact Nat.le_refl _
  · exact List.rel_of_pairwise_cons (List.pairwise_append.mp hsorted).2.1 hq

/-- **Among entries that get shorter, the first match is the longest one.** -/
theorem firstMatch?_eq_some_iff {entries : List String}
    (hsorted : entries.Pairwise fun p q => q.length ≤ p.length) {s p : String} :
    firstMatch? entries s = some p ↔ p ∈ entries ∧ p.toList <+: s.toList ∧
      ∀ q ∈ entries, q.toList <+: s.toList → q.length ≤ p.length := by
  constructor
  · intro h
    obtain ⟨hp, hps⟩ := isPrefix_of_firstMatch? h
    exact ⟨hp, hps, fun q => length_le_of_firstMatch? hsorted h⟩
  · rintro ⟨hp, hps, hlongest⟩
    have hsome : (firstMatch? entries s).isSome :=
      List.find?_isSome.mpr ⟨p, hp, List.isPrefixOf_iff_prefix.mpr hps⟩
    obtain ⟨q, hfirst⟩ := Option.isSome_iff_exists.mp hsome
    obtain ⟨hq, hqs⟩ := isPrefix_of_firstMatch? hfirst
    have hlength : q.length = p.length :=
      Nat.le_antisymm (hlongest q hq hqs) (length_le_of_firstMatch? hsorted hfirst hp hps)
    -- Both are what the text begins with.
    have hqp : q.toList <+: p.toList := List.prefix_of_prefix_length_le hqs hps hlength.le
    rw [hfirst, String.toList_injective (hqp.eq_of_length hlength)]

/-- A list has given entries, ranked by their lengths. -/
structure RankedByLength (entries : Multiset String) (result : List String) : Prop where
  /-- Each entry occurs as often as it is given. -/
  same : (result : Multiset String) = entries
  /-- The first match of a text is the longest one. -/
  longest : ∀ s p, firstMatch? result s = some p ↔ p ∈ entries ∧ p.toList <+: s.toList ∧
    ∀ q ∈ entries, q.toList <+: s.toList → q.length ≤ p.length
  shorter : result.Pairwise fun p q => q.length ≤ p.length
  /-- Entries of one length are in the order of their code points. -/
  lexical : result.Pairwise fun p q => p.length = q.length → codePoints p ≤ codePoints q

theorem shorter_longestFirst (entries : Multiset String) :
    (longestFirst entries).Pairwise fun p q => q.length ≤ p.length := by
  refine (entries.pairwise_sort _).imp fun h => ?_
  rcases pieceLE_iff.mp h with h | ⟨h, -⟩
  · exact h.le
  · exact h.ge

/-- **The longest first is the order to match in.** -/
theorem rankedByLength_longestFirst (entries : Multiset String) :
    RankedByLength entries (longestFirst entries) where
  same := entries.sort_eq _
  longest s p := by
    have hmem : ∀ q, q ∈ longestFirst entries ↔ q ∈ entries := fun q => Multiset.mem_sort _
    simp only [firstMatch?_eq_some_iff (shorter_longestFirst entries), hmem]
  shorter := shorter_longestFirst entries
  lexical := by
    refine (entries.pairwise_sort _).imp fun h hlength => ?_
    exact codePoints_le_of_le ((pieceLE_iff.mp h).resolve_left (by omega)).2

/-! ## Lists in attributes -/

/-- The entries of a list that is cut into pieces, which are the pieces that are not empty. -/
def entriesOf (pieces : List (List Char)) : List String :=
  (pieces.filter (· ≠ [])).map String.ofList

/-- **A list in an attribute is given with its longest entries first.** There is one way to cut the
attribute at a delimiter; what is given depends only on how often each entry occurs. -/
theorem Xml.Element.subAttributes_ranked {e : Element} {name raw delimiter : String}
    (hraw : e.attribute? name = some raw) (hdelimiter : delimiter ≠ "") :
    ∃ pieces, (∀ ps, Text.Delimited delimiter.toList raw.toList ps ↔ ps = pieces) ∧
      e.subAttributes name delimiter = .ok (longestFirst (entriesOf pieces)) ∧
      RankedByLength (entriesOf pieces) (longestFirst (entriesOf pieces)) := by
  have hchars : delimiter.toList ≠ [] := by simpa using hdelimiter
  refine ⟨Text.splitOn delimiter.toList raw.toList, fun ps => ?_, ?_,
    rankedByLength_longestFirst _⟩
  · rw [← Text.splitOn_eq_iff hchars, eq_comm]
  · have hentries : ∀ pieces : List (List Char),
        (pieces.filter (!·.isEmpty)).map String.ofList = entriesOf pieces := by
      intro pieces
      refine congrArg _ (List.filter_congr fun piece _ => ?_)
      cases piece <;> rfl
    rw [subAttributes, hraw, longestFirst, Multiset.coe_sort]
    simp only [if_neg hdelimiter, hentries, Bool.decide_eq_true]

/-- An element with a list whose delimiter overlaps with itself. -/
def crowdedList : Element where
  name := ⟨"", "namespace"⟩
  attributes := [⟨⟨"", "prefixes"⟩, "Gtk::G:::Gtk::Gdk::::Gtk"⟩]
  text := ""
  children := []
  tail := ""

/-- A delimiter is cut off as soon as it is complete, and an entry that occurs twice stays twice. -/
theorem subAttributes_of_crowdedList :
    crowdedList.attribute? "prefixes" = some "Gtk::G:::Gtk::Gdk::::Gtk" ∧ "::" ≠ "" ∧
      ∃ result, crowdedList.subAttributes "prefixes" "::" = .ok result ∧
        RankedByLength ↑["Gtk", "G", ":Gtk", "Gdk", "Gtk"] result ∧
        firstMatch? result "GtkWidget" = some "Gtk" := by
  have hraw : crowdedList.attribute? "prefixes" = some "Gtk::G:::Gtk::Gdk::::Gtk" := by decide
  have hdelimiter : "::" ≠ "" := by decide
  obtain ⟨pieces, hpieces, hresult, hranked⟩ :=
    Element.subAttributes_ranked hraw hdelimiter
  have hcut : Text.splitOn "::".toList "Gtk::G:::Gtk::Gdk::::Gtk".toList =
      ["Gtk", "G", ":Gtk", "Gdk", "", "Gtk"].map String.toList := by decide
  obtain rfl := (hpieces _).mp ((Text.splitOn_eq_iff (by decide)).mp hcut)
  have hentries : entriesOf (["Gtk", "G", ":Gtk", "Gdk", "", "Gtk"].map String.toList) =
      ["Gtk", "G", ":Gtk", "Gdk", "Gtk"] := by decide
  rw [hentries] at hresult hranked
  refine ⟨hraw, hdelimiter, _, hresult, hranked, (hranked.longest _ _).mpr ⟨?_, ?_, ?_⟩⟩
  · decide
  · decide
  · decide

end Introspection
