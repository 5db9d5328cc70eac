import Introspection.Proofs.Stub.Walk
import Introspection.Proofs.Tree

/-!
# Recursive descent

A walk goes through the nodes of a document one after the other and remembers in a stack of frames
which rules are in force. Recursion over the tree needs no stack: the rules that a node brings in
are in force for its children, and otherwise the rules around the node stay in force.

* `Scope`, `Visit`: the rules in force at a node, and the node with them;
* `descend`, `Document.visits`: the visits of a tree by recursion;
* `Tracked`: a walk that knows which nodes opened its frames;
* `Renders`: a walk writes and notices what some visits say;
* **`run_tree_eq_visits`**: a walk through a document is the recursive descent.
-/

namespace Introspection

namespace Stub

open Xml

/-! ## Visits -/

/-- The rules in force at a place of a tree, for the nodes of one level. -/
structure Scope where
  table : Table
  level : Int
  /-- The node below which the rules hold; none for the rules of the root element. -/
  opener : Option Node

/-- A node with the rules in force. -/
structure Visit where
  node : Node
  level : Int
  /-- The node right above. -/
  parent : Option Node
  scope : Scope

namespace Visit

/-- The node with its level. -/
def placed (v : Visit) : Placed := ⟨v.node.element, v.level⟩

/-- The rule for the node, if the rules in force are for its level and one is for its tag. -/
def rule? (v : Visit) : Option Rule :=
  if v.scope.level = v.level then v.scope.table.lookup v.node.element.tag else none

/-- The line of the node. -/
def line (v : Visit) : String :=
  match v.rule? with
  | some r => r.line v.node.element v.level v.scope.level (v.scope.opener.map (·.element))
  | none =>
    indented v.level
      ("# unhandled: " ++ v.node.element.tag ++ " @ " ++ levels v.level v.scope.level)

/-- What is noticed at the node. -/
def diagnostic? (v : Visit) : Option Diagnostic :=
  if v.rule?.isNone then some (.unhandled v.node.element.tag v.level) else none

/-- The rules in force below the node. -/
def inner (v : Visit) : Scope :=
  match v.rule?.bind Rule.table? with
  | some table => ⟨table, v.level + 1, some v.node⟩
  | none => v.scope

end Visit

/-- The visits of an element and of everything below it. The element has the given number and
level, and a scope is in force there. -/
def descend (s : Scope) (parent : Option Node) (level : Int) (number : Nat) : Element → List Visit
  | ⟨name, attributes, text, children, tail⟩ =>
    let v : Visit := ⟨⟨⟨name, attributes, text, children, tail⟩, number⟩, level, parent, s⟩
    v :: descendRow v.inner v.node (level + 1) (number + 1) children
where
  /-- The visits of the children of a node from a number on. -/
  descendRow (s : Scope) (parent : Node) (level : Int) (number : Nat) :
      List Element → List Visit
    | [] => []
    | e :: es =>
      descend s (some parent) level number e ++ descendRow s parent level (number + e.size) es

/-! ## Tracked walks -/

/-- The rules of a frame that was opened by the node with a number. -/
def Frame.scope (f : Frame) (number : Option Nat) : Scope :=
  ⟨f.table, f.level, f.opener.bind fun e => number.map (⟨e, ·⟩)⟩

/-- A walk that knows which nodes opened its frames. -/
structure Tracked where
  walk : Walk
  /-- The numbers of the nodes that opened the frames above the lowest one, the latest first. -/
  opened : List Nat := []
  /-- The number of the node that comes next. -/
  next : Nat := 0

namespace Tracked

/-- Goes to the next node; gives the rules that it meets. -/
def step (t : Tracked) (p : Placed) : Tracked × Scope :=
  let (f, below) := t.walk.settled p.level
  let opened := t.opened.drop (t.walk.below.length - below.length)
  let walk := (t.walk.step p).1
  ({ walk, next := t.next + 1
     opened := if walk.below.length = below.length then opened else t.next :: opened },
    f.scope opened.head?)

/-- Goes through several nodes; gives the rules that they meet. -/
def run (t : Tracked) : List Placed → Tracked × List Scope
  | [] => (t, [])
  | p :: ps =>
    let (t, s) := t.step p
    let (t, scopes) := t.run ps
    (t, s :: scopes)

theorem run_append (t : Tracked) (ps qs : List Placed) :
    t.run (ps ++ qs) = (((t.run ps).1.run qs).1, (t.run ps).2 ++ ((t.run ps).1.run qs).2) := by
  induction ps generalizing t with
  | nil => rfl
  | cons p ps ih => simp only [List.cons_append, run, ih]

/-- Tracking does not disturb the walk. -/
theorem walk_run (t : Tracked) (ps : List Placed) : (t.run ps).1.walk = (t.walk.run ps).1 := by
  induction ps generalizing t with
  | nil => rfl
  | cons p ps ih => rw [run, Walk.run_cons, ih]; rfl

end Tracked

/-! ## What a walk renders -/

/-- A walk that goes through nodes writes and notices what some visits say. -/
structure Renders (t : Tracked) (ps : List Placed) (vs : List Visit) : Prop where
  lines : (t.walk.run ps).2 = vs.map Visit.line
  scopes : (t.run ps).2 = vs.map Visit.scope
  noticed : (t.walk.run ps).1.noticed = (vs.filterMap Visit.diagnostic?).reverse ++ t.walk.noticed
  outputs : (t.walk.run ps).1.root.outputs =
    t.walk.root.outputs ++ (vs.filter (·.scope.opener.isNone)).map Visit.line
  next : (t.run ps).1.next = t.next + vs.length

namespace Renders

variable {t : Tracked} {ps qs : List Placed} {us vs : List Visit}

theorem nil (t : Tracked) : Renders t [] [] where
  lines := rfl
  scopes := rfl
  noticed := rfl
  outputs := by simp [Walk.run]
  next := rfl

theorem append (h : Renders t ps vs) (h' : Renders (t.run ps).1 qs us) :
    Renders t (ps ++ qs) (vs ++ us) where
  lines := by rw [Walk.run_append, h.lines, ← t.walk_run, h'.lines, List.map_append]
  scopes := by rw [Tracked.run_append, h.scopes, h'.scopes, List.map_append]
  noticed := by
    rw [Walk.run_append, ← t.walk_run, h'.noticed, t.walk_run, h.noticed, List.filterMap_append,
      List.reverse_append, List.append_assoc]
  outputs := by
    rw [Walk.run_append, ← t.walk_run, h'.outputs, t.walk_run, h.outputs, List.filter_append,
      List.map_append, List.append_assoc]
  next := by rw [Tracked.run_append, h'.next, h.next, List.length_append, Nat.add_assoc]

end Renders

/-! ## Frames and scopes -/

/-- The rules of a frame are those in force. -/
structure Frame.Holds (f : Frame) (s : Scope) : Prop where
  table : f.table = s.table
  level : f.level = s.level
  opener : f.opener = s.opener.map (·.element)

namespace Frame.Holds

variable {f : Frame} {s : Scope}

theorem write (h : f.Holds s) (line : String) : (f.write line).Holds s := ⟨h.1, h.2, h.3⟩

theorem scope_eq (h : f.Holds s) : f.scope (s.opener.map (·.number)) = s := by
  obtain ⟨table, level, opener⟩ := s
  obtain ⟨rfl, rfl, ho⟩ := h
  rw [Frame.scope, ho]
  cases opener <;> rfl

theorem rule?_eq (h : f.Holds s) (n : Node) (level : Int) (parent : Option Node) :
    f.rule? ⟨n.element, level⟩ = (Visit.mk n level parent s).rule? := by
  rw [Frame.rule?, Visit.rule?, h.table, h.level]

end Frame.Holds

theorem outputs_getLastD_write (f : Frame) (below : List Frame) (line : String) :
    (below.getLastD (f.write line)).outputs =
      (below.getLastD f).outputs ++ if below = [] then [line] else [] := by
  cases below with
  | nil => simp [Frame.outputs, Frame.write]
  | cons g gs => rw [List.getLastD_cons, List.getLastD_cons, if_neg (by simp), List.append_nil]

/-! ## One step -/

/-- A walk is where a scope is in force for the nodes of a level: what lies on the frame of that
scope goes away before the next node of the level, and `below` is left under it, opened by the
nodes with the numbers `left`. -/
structure Tracked.Ready (t : Tracked) (s : Scope) (level : Int) (below : List Frame)
    (left : List Nat) : Prop where
  settled : ∃ f, t.walk.settled level = (f, below) ∧ f.Holds s
  level_le : s.level ≤ level
  opened : t.opened.drop (t.walk.below.length - below.length) = left
  head_left : left.head? = s.opener.map (·.number)
  length_left : left.length = below.length

namespace Tracked.Ready

variable {t t' : Tracked} {s : Scope} {level : Int} {below : List Frame} {left : List Nat}

theorem isNone_opener_iff (h : t.Ready s level below left) : s.opener.isNone ↔ below = [] := by
  rw [← List.length_eq_zero_iff, ← h.length_left, List.length_eq_zero_iff, ← List.head?_eq_none_iff,
    h.head_left]
  simp

/-- The scope of an outer level is in force again behind the nodes of a deeper level. -/
theorem of_deeper (h : t.Ready s (level + 1) below left) (hl : s.level ≤ level) :
    t.Ready s level below left where
  settled := by
    obtain ⟨f, hs, hf⟩ := h.settled
    refine ⟨f, ?_, hf⟩
    rw [Walk.settled_of_settled (by omega) hs, settle_eq_self (by rw [hf.level]; exact hl)]
  level_le := hl
  opened := h.opened
  head_left := h.head_left
  length_left := h.length_left

section Step

variable {v : Visit}

theorem step_of_quiet (h : t.Ready v.scope v.level below left)
    (hq : v.rule?.bind Rule.table? = none) :
    ∃ f, f.Holds v.scope ∧ t.walk.settled v.level = (f, below) ∧
      t.walk.step v.placed =
        ({ top := f.write v.line, below
           noticed := v.diagnostic?.toList ++ t.walk.noticed }, v.line) := by
  obtain ⟨f, hs, hf⟩ := h.settled
  refine ⟨f, hf, hs, ?_⟩
  have hr : f.rule? v.placed = v.rule? := hf.rule?_eq v.node v.level v.parent
  cases hv : v.rule? with
  | none =>
    rw [Walk.step_of_none hs (hr.trans hv)]
    simp [Visit.diagnostic?, Visit.line, hv, Walk.unhandledLine, hf.level, Visit.placed]
  | some r =>
    rw [hv, Option.bind_some] at hq
    rw [Walk.step_of_leaf hs (hr.trans hv) hq]
    simp [Visit.diagnostic?, Visit.line, hv, hf.level, hf.opener, Visit.placed]

theorem step_of_opening (h : t.Ready v.scope v.level below left) {table : Table}
    (ht : v.rule?.bind Rule.table? = some table) :
    ∃ f, f.Holds v.scope ∧ t.walk.settled v.level = (f, below) ∧
      t.walk.step v.placed =
        ({ top := { table, level := v.level + 1, opener := some v.node.element }
           below := f.write v.line :: below, noticed := t.walk.noticed }, v.line) := by
  obtain ⟨f, hs, hf⟩ := h.settled
  refine ⟨f, hf, hs, ?_⟩
  obtain ⟨r, hv, hrt⟩ := Option.bind_eq_some_iff.mp ht
  have hr : f.rule? v.placed = some r := (hf.rule?_eq v.node v.level v.parent).trans hv
  rw [Walk.step_of_table hs hr hrt]
  simp [Visit.line, hv, hf.level, hf.opener, Visit.placed]

theorem step_scope (h : t.Ready v.scope v.level below left) : (t.step v.placed).2 = v.scope := by
  obtain ⟨f, hs, hf⟩ := h.settled
  have ho := h.opened
  have hl := h.head_left
  rw [← hf.scope_eq, ← hl, ← ho]
  simp only [step, Visit.placed, hs]

theorem opened_step (h : t.Ready v.scope v.level below left) {f : Frame}
    (hs : t.walk.settled v.level = (f, below)) :
    (t.step v.placed).1.opened =
      if (t.walk.step v.placed).1.below.length = below.length then left else t.next :: left := by
  rw [← h.opened]
  simp only [step, Visit.placed, hs]
  rfl

theorem outputs_step (h : t.Ready v.scope v.level below left) :
    (t.walk.step v.placed).1.root.outputs =
      t.walk.root.outputs ++ if v.scope.opener.isNone then [v.line] else [] := by
  have hroot : ∀ f : Frame, t.walk.settled v.level = (f, below) →
      t.walk.root = below.getLastD f := by
    intro f hs
    have := getLastD_settle v.level t.walk.top t.walk.below
    rw [← Walk.settled, hs] at this
    exact this.symm
  simp only [h.isNone_opener_iff]
  cases ht : v.rule?.bind Rule.table? with
  | none =>
    obtain ⟨f, -, hs, he⟩ := h.step_of_quiet ht
    rw [he, hroot f hs, ← outputs_getLastD_write]
    rfl
  | some table =>
    obtain ⟨f, -, hs, he⟩ := h.step_of_opening ht
    rw [he, hroot f hs, ← outputs_getLastD_write, Walk.root, List.getLastD_cons]

/-- **One step of a walk is one visit.** -/
theorem renders (h : t.Ready v.scope v.level below left) : Renders t [v.placed] [v] where
  lines := by
    cases ht : v.rule?.bind Rule.table? with
    | none => obtain ⟨f, -, -, he⟩ := h.step_of_quiet ht; simp [Walk.run, he]
    | some table => obtain ⟨f, -, -, he⟩ := h.step_of_opening ht; simp [Walk.run, he]
  scopes := by simp [Tracked.run, h.step_scope]
  noticed := by
    cases ht : v.rule?.bind Rule.table? with
    | none =>
      obtain ⟨f, -, -, he⟩ := h.step_of_quiet ht
      cases hd : v.diagnostic? <;> simp [Walk.run, he, hd]
    | some table =>
      obtain ⟨f, -, -, he⟩ := h.step_of_opening ht
      obtain ⟨r, hv, -⟩ := Option.bind_eq_some_iff.mp ht
      simp [Walk.run, he, Visit.diagnostic?, hv]
  outputs := by
    rw [Walk.run_cons]
    change (t.walk.step v.placed).1.root.outputs = _
    rw [h.outputs_step]
    cases ho : v.scope.opener <;> simp [ho]
  next := rfl

/-- **The children of a node meet the scope inside it.** Behind them the scope around the node is
in force again. -/
theorem inner (h : t.Ready v.scope v.level below left) (hn : v.node.number = t.next) :
    ∃ below' left', (t.step v.placed).1.Ready v.inner (v.level + 1) below' left' ∧
      ∀ t' : Tracked, t'.Ready v.inner (v.level + 1) below' left' →
        t'.Ready v.scope v.level below left := by
  cases ht : v.rule?.bind Rule.table? with
  | none =>
    have hi : v.inner = v.scope := by simp [Visit.inner, ht]
    obtain ⟨f, hf, hs, he⟩ := h.step_of_quiet ht
    have hw : (t.step v.placed).1.walk = _ := congrArg Prod.fst he
    have hl := h.level_le
    rw [hi]
    refine ⟨below, left, ⟨⟨f.write v.line, ?_, hf.write v.line⟩, by omega, ?_, h.head_left,
      h.length_left⟩, fun t' h' => h'.of_deeper hl⟩
    · rw [hw]
      exact settle_eq_self (by rw [(hf.write v.line).level]; omega)
    · rw [h.opened_step hs, hw, he]
      simp
  | some table =>
    have hi : v.inner = ⟨table, v.level + 1, some v.node⟩ := by simp [Visit.inner, ht]
    obtain ⟨f, hf, hs, he⟩ := h.step_of_opening ht
    have hw : (t.step v.placed).1.walk = _ := congrArg Prod.fst he
    rw [hi]
    refine ⟨f.write v.line :: below, v.node.number :: left,
      ⟨⟨⟨table, v.level + 1, some v.node.element, []⟩, ?_, rfl, rfl, rfl⟩, Int.le_refl _, ?_, rfl,
        by simp [h.length_left]⟩, fun t' h' => ?_⟩
    · rw [hw]
      exact settle_eq_self (Int.le_refl _)
    · rw [h.opened_step hs, hw, he, hn]
      simp
    · -- The frame for the children lies on the one that the node met.
      obtain ⟨g, hg, hgs⟩ := h'.settled
      have hlevel : v.level < g.level := by rw [hgs.level]; exact Int.lt_succ v.level
      have hlen := length_settle_le (v.level + 1) t'.walk.top t'.walk.below
      rw [← Walk.settled, hg, List.length_cons] at hlen
      refine ⟨⟨f.write v.line, ?_, hf.write v.line⟩, h.level_le, ?_, h.head_left, h.length_left⟩
      · rw [Walk.settled_of_settled (by omega) hg, settle_cons_of_lt hlevel,
          settle_eq_self (by rw [(hf.write v.line).level]; exact h.level_le)]
      · have hd := h'.opened
        rw [List.length_cons] at hd
        rw [show t'.walk.below.length - below.length =
          t'.walk.below.length - (below.length + 1) + 1 by omega, ← List.tail_drop, hd,
          List.tail_cons]

end Step

end Tracked.Ready

/-! ## Whole subtrees -/

mutual

theorem length_descend (s : Scope) (parent : Option Node) (level : Int) (number : Nat) :
    ∀ e : Element, (descend s parent level number e).length = e.size
  | ⟨_, _, _, children, _⟩ => by
    rw [descend, Element.size, List.length_cons, length_descendRow _ _ _ _ children, Nat.add_comm]

theorem length_descendRow (s : Scope) (parent : Node) (level : Int) (number : Nat) :
    ∀ es : List Element,
      (descend.descendRow s parent level number es).length = Element.size.sizes es
  | [] => rfl
  | e :: es => by
    rw [descend.descendRow, Element.size.sizes, List.length_append, length_descend _ _ _ _ e,
      length_descendRow _ _ _ _ es]

end

mutual

/-- **A walk through a subtree is the recursive descent into it**, and behind it the walk is where
it was before. -/
theorem renders_descend :
    ∀ (e : Element) {t : Tracked} {s : Scope} {level : Int} {below : List Frame} {left : List Nat}
      (parent : Option Node), t.Ready s level below left →
        Renders t (e.placed level) (descend s parent level t.next e) ∧
          (t.run (e.placed level)).1.Ready s level below left
  | ⟨name, attributes, text, children, tail⟩, t, s, level, below, left, parent, h => by
    let v : Visit := ⟨⟨⟨name, attributes, text, children, tail⟩, t.next⟩, level, parent, s⟩
    have hv : t.Ready v.scope v.level below left := h
    obtain ⟨below', left', hin, hout⟩ := hv.inner rfl
    obtain ⟨hr, hready⟩ := renders_descendRow children v.node hin
    rw [descend, Element.placed]
    exact ⟨hv.renders.append hr, hout _ hready⟩

theorem renders_descendRow :
    ∀ (es : List Element) {t : Tracked} {s : Scope} {level : Int} {below : List Frame}
      {left : List Nat} (parent : Node), t.Ready s level below left →
        Renders t (Element.placed.placedRow level es)
            (descend.descendRow s parent level t.next es) ∧
          (t.run (Element.placed.placedRow level es)).1.Ready s level below left
  | [], t, _, _, _, _, _, h => ⟨.nil t, h⟩
  | e :: es, t, s, level, below, left, parent, h => by
    obtain ⟨he, hready⟩ := renders_descend e (some parent) h
    have hn : (t.run (e.placed level)).1.next = t.next + e.size := by
      rw [he.next, length_descend]
    obtain ⟨hes, hready'⟩ := renders_descendRow es parent hready
    rw [hn] at hes
    rw [Element.placed.placedRow, descend.descendRow]
    refine ⟨he.append hes, ?_⟩
    rw [Tracked.run_append]
    exact hready'

end

mutual

theorem map_node_descend (s : Scope) (parent : Option Node) (level : Int) (number : Nat) :
    ∀ e : Element,
      (descend s parent level number e).map Visit.node = Node.inclusive ⟨e, number⟩
  | ⟨_, _, _, children, _⟩ => by
    rw [descend, List.map_cons, map_node_descendRow _ _ _ _ children, Node.inclusive,
      Node.descendants_eq]
    rfl

theorem map_node_descendRow (s : Scope) (parent : Node) (level : Int) (number : Nat) :
    ∀ es : List Element,
      (descend.descendRow s parent level number es).map Visit.node =
        (Node.row number es).flatMap Node.inclusive
  | [] => rfl
  | e :: es => by
    rw [descend.descendRow, List.map_append, map_node_descend _ _ _ _ e,
      map_node_descendRow _ _ _ _ es, Node.row, List.flatMap_cons]

end

/-! ## Where rules come from -/

/-- A scope is in force at a node of a tree: its rules are for the level of the node only if the
node right above brought them in, and for no level further down. -/
structure Scope.Around (root : Node) (s : Scope) (parent : Option Node) (level : Int) (n : Node) :
    Prop where
  level_le : s.level ≤ level
  opener_eq : s.level = level → s.opener = parent
  mem : n ∈ root.inclusive
  eq_root : parent = none → n = root
  mem_children : ∀ p ∈ parent, p ∈ root.inclusive ∧ n ∈ p.children
  mem_descendants : ∀ o ∈ s.opener, o ∈ root.inclusive ∧ n ∈ o.descendants

/-- A visit meets rules as its place in a tree says: a rule for the node was brought in by the node
right above, and no rules in force were brought in by a node that is not above. -/
structure Visit.Lexical (root : Node) (v : Visit) : Prop where
  opener_eq : v.rule?.isSome → v.scope.opener = v.parent
  eq_root : v.parent = none → v.node = root
  mem_children : ∀ p ∈ v.parent, p ∈ root.inclusive ∧ v.node ∈ p.children
  mem_descendants : ∀ o ∈ v.scope.opener, o ∈ root.inclusive ∧ v.node ∈ o.descendants

namespace Scope.Around

variable {root n : Node} {s : Scope} {parent : Option Node} {level : Int}

theorem lexical (h : s.Around root parent level n) :
    (Visit.mk n level parent s).Lexical root where
  opener_eq hr := by
    refine h.opener_eq (Decidable.byContradiction fun hne => ?_)
    simp [Visit.rule?, hne] at hr
  eq_root := h.eq_root
  mem_children := h.mem_children
  mem_descendants := h.mem_descendants

theorem child (h : s.Around root parent level n) {m : Node} (hm : m ∈ n.children) :
    (Visit.mk n level parent s).inner.Around root (some n) (level + 1) m := by
  have hl := h.level_le
  have hin : m ∈ root.inclusive :=
    List.mem_cons_of_mem _ (Node.mem_descendants_of_mem_children h.mem hm)
  have hp : ∀ p ∈ some n, p ∈ root.inclusive ∧ m ∈ p.children := by
    rintro p ⟨⟩
    exact ⟨h.mem, hm⟩
  cases ht : (Visit.mk n level parent s).rule?.bind Rule.table? with
  | none =>
    have hi : (Visit.mk n level parent s).inner = s := by rw [Visit.inner, ht]
    rw [hi]
    refine ⟨by omega, by omega, hin, by simp, hp, fun o ho => ?_⟩
    obtain ⟨hor, hon⟩ := h.mem_descendants o ho
    exact ⟨hor, Node.mem_descendants_of_mem_children (List.mem_cons_of_mem _ hon) hm⟩
  | some table =>
    have hi : (Visit.mk n level parent s).inner = ⟨table, level + 1, some n⟩ := by
      rw [Visit.inner, ht]
    rw [hi]
    refine ⟨Int.le_refl _, fun _ => rfl, hin, by simp, hp, ?_⟩
    rintro o ⟨⟩
    exact ⟨h.mem, Node.mem_descendants_of_mem_children List.mem_cons_self hm⟩

end Scope.Around

mutual

theorem lexical_descend {root : Node} :
    ∀ (e : Element) {s : Scope} {parent : Option Node} {level : Int} {number : Nat},
      s.Around root parent level ⟨e, number⟩ →
        ∀ v ∈ descend s parent level number e, v.Lexical root
  | ⟨name, attributes, text, children, tail⟩, s, parent, level, number, h => by
    rw [descend]
    intro v hv
    rcases List.mem_cons.mp hv with rfl | hv
    · exact h.lexical
    · exact lexical_descendRow children (fun m hm => h.child hm) v hv

theorem lexical_descendRow {root : Node} :
    ∀ (es : List Element) {s : Scope} {parent : Node} {level : Int} {number : Nat},
      (∀ m ∈ Node.row number es, s.Around root (some parent) level m) →
        ∀ v ∈ descend.descendRow s parent level number es, v.Lexical root
  | [], _, _, _, _, _ => by simp [descend.descendRow]
  | e :: es, s, parent, level, number, h => by
    rw [descend.descendRow]
    rw [Node.row] at h
    intro v hv
    rcases List.mem_append.mp hv with hv | hv
    · exact lexical_descend e (h _ List.mem_cons_self) v hv
    · exact lexical_descendRow es (fun m hm => h m (List.mem_cons_of_mem _ hm)) v hv

end

end Stub

/-- The visits of a document with the given rules for its root element. -/
def Document.visits (d : Document) (table : Stub.Table) : List Stub.Visit :=
  Stub.descend ⟨table, 0, none⟩ none 0 0 d.root

namespace Stub

/-- **A walk through a document is the recursive descent into its root element.** The lines, what
is noticed, and what the lowest frame holds are those of the visits; every node meets the rules of
its visit, in a frame that was opened by the same node; a rule that renders a node was brought in
by the node right above, and rules that were brought in by a node are in force below it only. -/
theorem run_tree_eq_visits (d : Document) (table : Table) :
    ((Walk.start table).run d.tree).2 = (d.visits table).map Visit.line ∧
      ((Walk.start table).run d.tree).1.unhandled =
        (d.visits table).countP (·.rule?.isNone) ∧
      ((Walk.start table).run d.tree).1.diagnostics =
        (d.visits table).filterMap Visit.diagnostic? ∧
      ((Walk.start table).run d.tree).1.root.outputs =
        ((d.visits table).filter (·.scope.opener.isNone)).map Visit.line ∧
      (Tracked.run { walk := Walk.start table } d.tree).2 = (d.visits table).map Visit.scope ∧
      (d.visits table).map Visit.node = Xml.Node.inclusive ⟨d.root, 0⟩ ∧
      ∀ v ∈ d.visits table, v.Lexical ⟨d.root, 0⟩ := by
  let t : Tracked := { walk := Walk.start table }
  have hready : t.Ready ⟨table, 0, none⟩ 0 [] [] :=
    ⟨⟨_, rfl, rfl, rfl, rfl⟩, Int.le_refl _, rfl, rfl, rfl⟩
  obtain ⟨hr, -⟩ := renders_descend d.root none hready
  have haround : Scope.Around ⟨d.root, 0⟩ ⟨table, 0, none⟩ none 0 ⟨d.root, 0⟩ :=
    ⟨Int.le_refl _, fun _ => rfl, List.mem_cons_self, fun _ => rfl, by simp, by simp⟩
  rw [← Document.tree_eq_placed] at hr
  have hnoticed : ((Walk.start table).run d.tree).1.noticed =
      ((d.visits table).filterMap Visit.diagnostic?).reverse := by
    rw [hr.noticed]
    simp [t, Walk.start, Document.visits]
  refine ⟨hr.lines, ?_, ?_, ?_, hr.scopes, map_node_descend _ _ _ _ _,
    lexical_descend d.root haround⟩
  · rw [Walk.unhandled, hnoticed, List.length_reverse, List.length_filterMap_eq_countP]
    refine List.countP_congr fun v _ => ?_
    simp [Visit.diagnostic?]
  · rw [Walk.diagnostics, hnoticed, List.reverse_reverse]
  · exact hr.outputs

end Stub

end Introspection
