import Mathlib.Data.List.Forall2
import Mathlib.Data.List.Perm.Subperm
import Mathlib.Data.List.Sort
import Introspection.Proofs.Tree

/-!
# Document order

Every element of a tree has an address: the way to it from the top, child by child. The tree of a
document lists the elements by their addresses in lexicographic order.

* `Xml.Element.at?`, `Xml.Element.addresses`: the element at an address, and all addresses;
* **`Xml.Element.pairwise_addresses`**, `Xml.Element.mem_addresses_iff`: the addresses are in
  lexicographic order, and there is an element at each of them and nowhere else;
* `Xml.Element.DocumentOrder`: what it is to list a tree in document order, and
  **`Xml.Element.documentOrder_placed`**: a recursion over the tree does so.
-/

namespace Introspection

open Xml

/-! ## Sorted lists -/

section Sorted

variable {α : Type} {r : α → α → Prop} {p : α → Bool} {l : List α}

theorem pair_sublist [Std.Asymm r] (hl : l.Pairwise r) {a b : α} (ha : a ∈ l) (hb : b ∈ l)
    (hab : r a b) : [a, b].Sublist l := by
  have hpair : [a, b].Nodup := by simpa using ne_of_irrefl hab
  refine List.sublist_of_subperm_of_pairwise (hpair.subperm ?_) (by simpa using hab) hl
  intro x hx
  rcases List.mem_cons.mp hx with rfl | hx
  · exact ha
  · rwa [List.mem_singleton.mp hx]

theorem filter_isPrefix (hl : l.Pairwise r) (hp : ∀ y ∈ l, ∀ z, r y z → p z → p y) :
    l.filter p <+: l := by
  induction l with
  | nil => exact List.prefix_rfl
  | cons y l ih =>
    obtain ⟨hy, hl⟩ := List.pairwise_cons.mp hl
    by_cases hpy : p y
    · rw [List.filter_cons_of_pos hpy, List.prefix_cons_inj]
      exact ih hl fun z hz => hp z (List.mem_cons_of_mem y hz)
    · have hnone : l.filter p = [] := by
        rw [List.filter_eq_nil_iff]
        exact fun z hz hpz => hpy (hp y List.mem_cons_self z (hy z hz) hpz)
      rw [List.filter_cons_of_neg hpy, hnone]
      exact List.nil_prefix

theorem filter_isInfix (hl : l.Pairwise r) (hp : ∀ x y z, r x y → r y z → p x → p z → p y) :
    l.filter p <:+: l := by
  induction l with
  | nil => exact List.infix_rfl
  | cons x l ih =>
    obtain ⟨hx, hl⟩ := List.pairwise_cons.mp hl
    by_cases hpx : p x
    · have hrest : l.filter p <+: l :=
        filter_isPrefix hl fun y hy z hyz => hp x y z (hx y hy) hyz hpx
      rw [List.filter_cons_of_pos hpx]
      exact ((List.prefix_cons_inj x).mpr hrest).isInfix
    · rw [List.filter_cons_of_neg hpx]
      exact List.infix_cons (ih hl)

end Sorted

/-! ## Addresses -/

/-- What begins with an address stands together in lexicographic order. -/
theorem isPrefix_of_between {a x y z : List Nat} (hx : a <+: x) (hz : a <+: z) (hxy : x < y)
    (hyz : y < z) : a <+: y := by
  induction a generalizing x y z with
  | nil => exact List.nil_prefix
  | cons i a ih =>
    obtain ⟨x', rfl, hx'⟩ := List.cons_prefix_iff.mp hx
    obtain ⟨z', rfl, hz'⟩ := List.cons_prefix_iff.mp hz
    cases y with
    | nil => exact absurd hxy (List.not_lt_nil _)
    | cons j y' =>
      rw [List.cons_lt_cons_iff] at hxy hyz
      have hij : i = j := by omega
      subst hij
      have hxy' : x' < y' := hxy.resolve_left (Nat.lt_irrefl i) |>.2
      have hyz' : y' < z' := hyz.resolve_left (Nat.lt_irrefl i) |>.2
      exact (List.prefix_cons_inj i).mpr (ih hx' hz' hxy' hyz')

namespace Xml.Element

/-- The element at an address: the numbers of the children on the way to it. -/
def at? : Element → List Nat → Option Element
  | e, [] => some e
  | e, i :: a => e.children[i]?.bind (at? · a)

theorem at?_append (e : Element) (a b : List Nat) : e.at? (a ++ b) = (e.at? a).bind (·.at? b) := by
  induction a generalizing e with
  | nil => rfl
  | cons i a ih =>
    rw [List.cons_append, at?, at?, Option.bind_assoc]
    congr 1
    funext c
    exact ih c

theorem at?_concat {e c : Element} {a : List Nat} (h : e.at? a = some c) (i : Nat) :
    e.at? (a ++ [i]) = c.children[i]? := by
  rw [at?_append, h, Option.bind_some, at?]
  cases c.children[i]? <;> rfl

/-- The addresses of an element and of everything below it, in document order. -/
def addresses : Element → List (List Nat)
  | ⟨_, _, _, children, _⟩ => [] :: addressesRow 0 children
where
  /-- The addresses of the children from a number on and of everything below them. -/
  addressesRow (i : Nat) : List Element → List (List Nat)
    | [] => []
    | e :: es => (addresses e).map (i :: ·) ++ addressesRow (i + 1) es

theorem addresses_eq (e : Element) : e.addresses = [] :: addresses.addressesRow 0 e.children := by
  cases e
  rw [addresses]

theorem mem_addressesRow_iff {a : List Nat} {k : Nat} {es : List Element} :
    a ∈ addresses.addressesRow k es ↔
      ∃ i b c, a = (k + i) :: b ∧ es[i]? = some c ∧ b ∈ c.addresses := by
  induction es generalizing k with
  | nil => simp [addresses.addressesRow]
  | cons e es ih =>
    rw [addresses.addressesRow, List.mem_append, List.mem_map, ih]
    constructor
    · rintro (⟨b, hb, rfl⟩ | ⟨i, b, c, rfl, hc, hb⟩)
      · exact ⟨0, b, e, rfl, rfl, hb⟩
      · exact ⟨i + 1, b, c, by rw [Nat.add_right_comm, Nat.add_assoc], hc, hb⟩
    · rintro ⟨_ | i, b, c, rfl, hc, hb⟩
      · exact .inl ⟨b, Option.some.inj hc ▸ hb, rfl⟩
      · exact .inr ⟨i, b, c, by rw [Nat.add_right_comm, Nat.add_assoc], hc, hb⟩

theorem mem_addresses_iff {a : List Nat} {e : Element} : a ∈ e.addresses ↔ (e.at? a).isSome := by
  induction a generalizing e with
  | nil => simp [addresses_eq, at?]
  | cons i a ih =>
    rw [addresses_eq, List.mem_cons, mem_addressesRow_iff, at?]
    constructor
    · rintro (h | ⟨j, b, c, heq, hc, hb⟩)
      · cases h
      · rw [Nat.zero_add] at heq
        obtain ⟨rfl, rfl⟩ := List.cons.inj heq
        rw [hc, Option.bind_some]
        exact ih.mp hb
    · intro h
      obtain ⟨c, hc⟩ := Option.isSome_iff_exists.mp (Option.isSome_of_isSome_bind h)
      rw [hc, Option.bind_some] at h
      exact .inr ⟨i, a, c, by rw [Nat.zero_add], hc, ih.mpr h⟩

mutual

/-- **The addresses are in lexicographic order.** -/
theorem pairwise_addresses : ∀ e : Element, e.addresses.Pairwise (· < ·)
  | ⟨_, _, _, children, _⟩ => by
    rw [addresses, List.pairwise_cons]
    refine ⟨fun a ha => ?_, pairwise_addressesRow 0 children⟩
    obtain ⟨i, b, c, rfl, -⟩ := mem_addressesRow_iff.mp ha
    exact List.nil_lt_cons _ _

theorem pairwise_addressesRow (k : Nat) :
    ∀ es : List Element, (addresses.addressesRow k es).Pairwise (· < ·)
  | [] => .nil
  | e :: es => by
    rw [addresses.addressesRow, List.pairwise_append]
    refine ⟨?_, pairwise_addressesRow (k + 1) es, ?_⟩
    · rw [List.pairwise_map]
      exact (pairwise_addresses e).imp fun h => List.cons_lt_cons_iff.mpr (.inr ⟨rfl, h⟩)
    · intro a ha b hb
      obtain ⟨a, -, rfl⟩ := List.mem_map.mp ha
      obtain ⟨i, b, c, rfl, -⟩ := mem_addressesRow_iff.mp hb
      exact List.cons_lt_cons_iff.mpr (.inl (by omega))

end

/-- An element stands at an address if it is the one there; the way to it has as many steps as it
is deep. -/
def Stands (root : Element) (a : List Nat) (p : Placed) : Prop :=
  root.at? a = some p.element ∧ p.level = a.length

mutual

/-- The elements of a subtree stand at the addresses that go on from that of its top. -/
theorem forall₂_placed {root : Element} {a : List Nat} :
    ∀ e : Element, root.at? a = some e →
      List.Forall₂ (fun b => Stands root (a ++ b)) e.addresses (e.placed a.length)
  | ⟨_, _, _, children, _⟩, h => by
    rw [addresses, placed]
    refine .cons ⟨by rw [List.append_nil, h], by rw [List.append_nil]⟩ ?_
    refine forall₂_placedRow children 0 fun i => ?_
    rw [Nat.zero_add]
    exact at?_concat h i

theorem forall₂_placedRow {root : Element} {a : List Nat} :
    ∀ (es : List Element) (k : Nat), (∀ i, root.at? (a ++ [k + i]) = es[i]?) →
      List.Forall₂ (fun b => Stands root (a ++ b)) (addresses.addressesRow k es)
        (placed.placedRow (a.length + 1) es)
  | [], _, _ => .nil
  | e :: es, k, h => by
    rw [addresses.addressesRow, placed.placedRow]
    refine List.rel_append ?_ (forall₂_placedRow es (k + 1) fun i => ?_)
    · have hhead := forall₂_placed (a := a ++ [k]) e (h 0)
      rw [List.forall₂_map_left_iff]
      simpa using hhead
    · rw [Nat.add_right_comm, Nat.add_assoc]
      exact h (i + 1)

end

/-- Elements with their depths, listed along their addresses, are a tree in document order. -/
structure DocumentOrder (root : Element) (addresses : List (List Nat)) (listing : List Placed) :
    Prop where
  /-- The elements stand at the addresses. -/
  entries : List.Forall₂ (Stands root) addresses listing
  /-- Nothing is left out. -/
  complete : ∀ a, (root.at? a).isSome → a ∈ addresses
  /-- Nothing is listed twice. -/
  once : addresses.Nodup
  /-- An element comes before its children. -/
  parents : ∀ a i, a ++ [i] ∈ addresses → [a, a ++ [i]].Sublist addresses
  /-- Children come in the order that they have in their parent. -/
  siblings : ∀ a i j, i < j → a ++ [j] ∈ addresses → [a ++ [i], a ++ [j]].Sublist addresses
  /-- An element and what is below it stand together. -/
  subtrees : ∀ a : List Nat, addresses.filter (a.isPrefixOf ·) <:+: addresses

theorem exists_parent {e : Element} {a : List Nat} {i : Nat} (h : a ++ [i] ∈ e.addresses) :
    ∃ c, e.at? a = some c ∧ i < c.children.length := by
  rw [mem_addresses_iff, at?_append] at h
  obtain ⟨c, hc⟩ := Option.isSome_iff_exists.mp (Option.isSome_of_isSome_bind h)
  rw [← at?_append, at?_concat hc, isSome_getElem?] at h
  exact ⟨c, hc, h⟩

/-- **Elements before what is below them, and children one by one, is document order.** -/
theorem documentOrder_placed (e : Element) : DocumentOrder e e.addresses (e.placed 0) where
  entries := forall₂_placed (a := []) e rfl
  complete _ h := mem_addresses_iff.mpr h
  once := e.pairwise_addresses.imp ne_of_irrefl
  parents a i h := by
    obtain ⟨c, hc, -⟩ := exists_parent h
    have ha : a ∈ e.addresses := mem_addresses_iff.mpr (Option.isSome_of_eq_some hc)
    have hlt : a < a ++ [i] := by
      have := @List.append_left_lt _ _ a [] [i] (List.nil_lt_cons i [])
      rwa [List.append_nil] at this
    exact pair_sublist e.pairwise_addresses ha h hlt
  siblings a i j hij h := by
    obtain ⟨c, hc, hj⟩ := exists_parent h
    have hi : a ++ [i] ∈ e.addresses := by
      rw [mem_addresses_iff, at?_concat hc, isSome_getElem?]
      exact hij.trans hj
    have hlt : a ++ [i] < a ++ [j] :=
      List.append_left_lt (List.cons_lt_cons_iff.mpr (.inl hij))
    exact pair_sublist e.pairwise_addresses hi h hlt
  subtrees a := by
    refine filter_isInfix e.pairwise_addresses fun x y z hxy hyz hx hz => ?_
    rw [List.isPrefixOf_iff_prefix] at hx hz ⊢
    exact isPrefix_of_between hx hz hxy hyz

end Xml.Element

end Introspection
