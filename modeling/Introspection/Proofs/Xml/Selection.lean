import Introspection.Proofs.Tree
import Introspection.Xml.Path
import Mathlib.Data.List.Flatten
import Mathlib.Data.List.Perm.Basic

/-!
# The order of selection

As long as a path only goes from children to children, from nodes to their parents, and to nodes
that meet a condition, everything it selects is on one level. There nodes keep their order, and none
of them is selected twice. Descendants are on several levels, so they come last.

* `Node.map_number_inclusive`, `Node.generation_sublist`: numbers in document order;
* **`Node.parent?_eq`**: the parent of a child;
* `Node.distinct_filterMap_sublist`: the parents of children in document order;
* `Path.exists_generation`: what is selected on one level;
* **`Path.select_sublist`**: what is selected in document order.
-/

namespace Introspection.Xml

namespace Node

/-! ## Numbers -/

theorem map_number_inclusive (n : Node) :
    n.inclusive.map (·.number) = List.range' n.number n.element.size := by
  have hdescendants : n.descendants.map (·.number) =
      List.range' (n.number + 1) (Element.size.sizes n.element.children) := by
    rw [descendants, List.map_map, ← Element.length_subtrees]
    exact List.zipIdx_map_snd _ _
  rw [inclusive, List.map_cons, hdescendants, n.element.size_eq, Nat.add_comm 1,
    List.range'_succ]

theorem nodup_number_inclusive (n : Node) : (n.inclusive.map (·.number)).Nodup := by
  rw [map_number_inclusive]
  exact List.nodup_range'

theorem generation_flatMap_inclusive_sublist (m : Nat) (n : Node) :
    ((n.generation m).flatMap inclusive).Sublist n.inclusive := by
  induction m generalizing n with
  | zero => rw [generation, List.flatMap_singleton]
  | succ m ih =>
    rw [generation, List.flatMap_assoc, inclusive, descendants_eq]
    exact (List.Sublist.flatMap_right _ fun c _ => ih c).trans (List.sublist_cons_self _ _)

theorem generation_sublist (m : Nat) (n : Node) : (n.generation m).Sublist n.inclusive := by
  refine List.Sublist.trans ?_ (generation_flatMap_inclusive_sublist m n)
  conv => lhs; rw [← List.flatMap_singleton' (n.generation m)]
  exact List.Sublist.flatMap_right _ fun c _ => List.singleton_sublist.mpr List.mem_cons_self

theorem generation_succ (m : Nat) (n : Node) :
    n.generation (m + 1) = (n.generation m).flatMap children := by
  induction m generalizing n with
  | zero => simp [generation]
  | succ m ih =>
    rw [generation, generation, List.flatMap_assoc]
    congr 1
    funext c
    exact ih c

/-! ## Parents -/

theorem flatMap_children_perm (n : Node) : (n.inclusive.flatMap children).Perm n.descendants := by
  have hbelow : (n.children.flatMap fun c => c.inclusive.flatMap children).Perm
      (n.children.flatMap descendants) := by
    refine List.Perm.flatMap_left _ fun c hc => ?_
    have := size_lt_of_mem_children hc
    exact flatMap_children_perm c
  have hself : n.children = n.children.flatMap fun c => [c] := by simp
  rw [inclusive, List.flatMap_cons, descendants_eq, List.flatMap_assoc]
  refine (hbelow.append_left _).trans ?_
  conv => lhs; lhs; rw [hself]
  exact List.flatMap_append_perm _ _ _
termination_by n.element.size

theorem map_fst_parents (root : Node) :
    root.parents.map (·.1) = (root.inclusive.flatMap children).map (·.number) := by
  rw [parents, List.map_flatMap, List.map_flatMap]
  congr 1
  funext p
  rw [List.map_map]
  rfl

theorem nodup_fst_parents (root : Node) : (root.parents.map (·.1)).Nodup := by
  rw [map_fst_parents, ((flatMap_children_perm root).map _).nodup_iff]
  exact (List.nodup_cons.mp root.nodup_number_inclusive).2

/-- **A child has the parent that it is a child of.** -/
theorem parent?_eq {root p c : Node} (hp : p ∈ root.inclusive) (hc : c ∈ p.children) :
    root.parent? c = some p := by
  have hmem : (c.number, p) ∈ root.parents :=
    List.mem_flatMap.mpr ⟨p, hp, List.mem_map.mpr ⟨c, hc, rfl⟩⟩
  have hnodup := root.nodup_fst_parents
  rw [parent?]
  generalize root.parents = ps at hmem hnodup
  induction ps with
  | nil => cases hmem
  | cons x ps ih =>
    rw [List.map_cons, List.nodup_cons] at hnodup
    rcases List.mem_cons.mp hmem with rfl | hmem
    · rw [List.lookup_cons, beq_self_eq_true]
    · have hne : (c.number == x.1) = false := by
        rw [beq_eq_false_iff_ne]
        rintro heq
        exact hnodup.1 (heq ▸ List.mem_map_of_mem hmem)
      rw [List.lookup_cons, hne]
      exact ih hmem hnodup.2

theorem parent?_self (root : Node) : root.parent? root = none := by
  rw [parent?, List.lookup_eq_none_iff]
  intro x hx
  have hmem : x.1 ∈ root.descendants.map (·.number) := by
    have hfst := List.mem_map_of_mem (f := (·.1)) hx
    rw [map_fst_parents] at hfst
    exact ((flatMap_children_perm root).map _).mem_iff.mp hfst
  have hne := (List.nodup_cons.mp root.nodup_number_inclusive).1
  rw [bne_iff_ne]
  intro heq
  rw [← heq] at hmem
  exact hne hmem

/-- What has a number may be left out in front if that number is left out in the end. -/
theorem filter_distinct_append {k : Nat} {xs : List Node} (h : ∀ x ∈ xs, x.number = k)
    (ys : List Node) :
    (distinct (xs ++ ys)).filter (·.number != k) = (distinct ys).filter (·.number != k) := by
  induction xs with
  | nil => rfl
  | cons x xs ih =>
    rw [List.forall_mem_cons] at h
    rw [List.cons_append, distinct, List.filter_cons_of_neg (by simp [h.1]), List.filter_filter,
      h.1]
    simp only [Bool.and_self]
    exact ih h.2

theorem distinct_filterMap_sublist {ps : List Node} {f : Node → List Node}
    {g : Node → Option Node} (hg : ∀ p ∈ ps, ∀ m ∈ f p, g m = some p) {ns : List Node}
    (h : ns.Sublist (ps.flatMap f)) : (distinct (ns.filterMap g)).Sublist ps := by
  induction ps generalizing ns with
  | nil => rw [List.sublist_nil.mp h]; exact List.nil_sublist _
  | cons p ps ih =>
    rw [List.forall_mem_cons] at hg
    rw [List.flatMap_cons, List.sublist_append_iff] at h
    obtain ⟨xs, ys, rfl, hxs, hys⟩ := h
    have hrest := ih hg.2 hys
    cases xs with
    | nil => exact hrest.trans (List.sublist_cons_self _ _)
    | cons x xs =>
      have hfirst : ∀ m ∈ xs.filterMap g, m.number = p.number := by
        intro m hm
        obtain ⟨y, hy, hgy⟩ := List.mem_filterMap.mp hm
        have := hg.1 y (hxs.subset (List.mem_cons_of_mem _ hy))
        rw [hgy] at this
        rw [Option.some.inj this]
      rw [List.cons_append, List.filterMap_cons_some (hg.1 x (hxs.subset List.mem_cons_self)),
        List.filterMap_append, distinct, filter_distinct_append hfirst]
      exact (List.filter_sublist.trans hrest).cons_cons p

end Node

namespace Path

/-! ## Levels -/

/-- **What is selected without descendants is on one level, in document order.** -/
theorem exists_generation {root : Node} {ss : List Step} (h : ∀ t, .descendants t ∉ ss) {m : Nat}
    {ns : List Node} (hns : ns.Sublist (root.generation m)) :
    ∃ k, (ss.foldl (fun ns s => s.select root ns) ns).Sublist (root.generation k) := by
  induction ss generalizing m ns with
  | nil => exact ⟨m, hns⟩
  | cons s ss ih =>
    have hrest : ∀ t, .descendants t ∉ ss := fun t ht => h t (List.mem_cons_of_mem _ ht)
    rw [List.foldl_cons]
    cases s with
    | self => exact ih hrest hns
    | filter p => exact ih hrest (List.filter_sublist.trans hns)
    | descendants t => exact absurd List.mem_cons_self (h t)
    | children t =>
      refine ih hrest (m := m + 1) ?_
      rw [Node.generation_succ]
      exact (List.Sublist.flatMap_right _ fun n _ => List.filter_sublist).trans (hns.flatMap _)
    | parent =>
      cases m with
      | zero =>
        have hnone : ns.filterMap root.parent? = [] := by
          rw [List.filterMap_eq_nil_iff]
          intro n hn
          rw [List.mem_singleton.mp (hns.subset hn), Node.parent?_self]
        rw [Step.select, hnone]
        exact ih hrest (m := 0) (List.nil_sublist _)
      | succ m =>
        refine ih hrest (m := m) (Node.distinct_filterMap_sublist (f := Node.children) ?_ ?_)
        · intro p hp c hc
          exact Node.parent?_eq ((Node.generation_sublist m root).subset hp) hc
        · rwa [← Node.generation_succ]

/-- **What is selected is in document order, and each node once,** if nothing but the last step goes
to descendants. -/
theorem select_sublist {ss : List Step} (h : ∀ t, .descendants t ∉ ss.dropLast) (root : Node) :
    (select ss root).Sublist root.inclusive := by
  have hroot : [root].Sublist (root.generation 0) := List.Sublist.refl _
  by_cases hlast : ∃ t, .descendants t ∈ ss
  · obtain ⟨t, ht⟩ := hlast
    have hne : ss ≠ [] := List.ne_nil_of_mem ht
    have hss := List.dropLast_append_getLast hne
    have hgetLast : ss.getLast hne = .descendants t := by
      rw [← hss, List.mem_append, List.mem_singleton] at ht
      exact (ht.resolve_left (h t)).symm
    obtain ⟨k, hk⟩ := exists_generation h hroot
    rw [select, ← hss, hgetLast, List.foldl_append, List.foldl_cons, List.foldl_nil, Step.select]
    refine (List.Sublist.flatMap_right _ fun n _ => ?_).trans
      ((hk.flatMap _).trans (Node.generation_flatMap_inclusive_sublist k root))
    exact List.filter_sublist.trans (List.sublist_cons_self _ _)
  · obtain ⟨k, hk⟩ := exists_generation (fun t ht => hlast ⟨t, ht⟩) hroot
    exact hk.trans (Node.generation_sublist k root)

end Path

end Introspection.Xml
