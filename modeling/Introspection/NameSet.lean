/-!
# Sets of names

A set of names is kept as its names in ascending order, so that equal sets are equal.

* `NameSet`, `NameSet.empty`, `NameSet.insert`, `NameSet.ofList`: sets;
* `NameSet.mem_insert`, `NameSet.mem_ofList`: their names.
-/

namespace Introspection

/-- A set of names, ascending by code points. -/
structure NameSet where
  names : List String
  ascending : names.Pairwise (· < ·)
deriving DecidableEq, Repr

namespace NameSet

/-- The set without names. -/
def empty : NameSet := ⟨[], .nil⟩

/-- Puts a name into its place among ascending names. -/
def place (n : String) : List String → List String
  | [] => [n]
  | m :: ms => if n < m then n :: m :: ms else if n = m then m :: ms else m :: place n ms

@[simp] theorem mem_place {a n : String} {ms : List String} :
    a ∈ place n ms ↔ a = n ∨ a ∈ ms := by
  fun_induction place n ms <;> grind

theorem pairwise_place {n : String} {ms : List String} (h : ms.Pairwise (· < ·)) :
    (place n ms).Pairwise (· < ·) := by
  fun_induction place n ms with
  | case1 => simp
  | case2 m ms hlt =>
    refine List.pairwise_cons.2 ⟨fun a ha => ?_, h⟩
    rcases List.mem_cons.1 ha with rfl | ha
    · exact hlt
    · exact String.lt_trans hlt ((List.pairwise_cons.1 h).1 a ha)
  | case3 => exact h
  | case4 m ms hlt hne ih =>
    have hm : m < n := by
      have hle : m ≤ n := String.not_lt.1 hlt
      have hnot : ¬ n ≤ m := fun hn => hne (String.le_antisymm hn hle)
      exact String.not_le.1 hnot
    refine List.pairwise_cons.2 ⟨fun a ha => ?_, ih (List.pairwise_cons.1 h).2⟩
    rcases mem_place.1 ha with rfl | ha
    · exact hm
    · exact (List.pairwise_cons.1 h).1 a ha

/-- A set with one more name. -/
def insert (s : NameSet) (n : String) : NameSet := ⟨place n s.names, pairwise_place s.ascending⟩

/-- The set of the names of a list. -/
def ofList (l : List String) : NameSet := l.foldr (fun n s => s.insert n) empty

instance : Membership String NameSet := ⟨fun s n => n ∈ s.names⟩

instance (n : String) (s : NameSet) : Decidable (n ∈ s) :=
  inferInstanceAs (Decidable (n ∈ s.names))

theorem mem_def {n : String} {s : NameSet} : n ∈ s ↔ n ∈ s.names := Iff.rfl

@[simp] theorem mem_insert {a n : String} {s : NameSet} : a ∈ s.insert n ↔ a = n ∨ a ∈ s :=
  mem_place

@[simp] theorem mem_ofList {a : String} {l : List String} : a ∈ ofList l ↔ a ∈ l := by
  induction l with
  | nil => simp [ofList, empty, mem_def]
  | cons n l ih =>
    simp only [ofList, List.foldr_cons, mem_insert, List.mem_cons]
    exact or_congr_right ih

end NameSet

end Introspection
