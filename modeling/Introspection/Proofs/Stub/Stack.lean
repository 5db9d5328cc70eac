import Mathlib.Data.List.Basic
import Introspection.Proofs.Latest
import Introspection.Proofs.Stub.Walk

/-!
# The stack of a walk

A walk goes through nodes of any levels in any order, with handlers of any kind. Its stack holds a
frame for each level from zero on, up to some level. Which node opened the frame of a level can be
told from the nodes alone: it is the latest one of a lower level, if that is the next lower one and
its handler opens frames.

* `Layer`, `Handlers`: frames that know the one below, and handlers that may be anything;
* `Meeting`: a node with the frame that it meets;
* `Tower.step`, `Tower.run`: walks with such frames and handlers;
* `Tower.Standing`, `Tower.Standing.step`: what every step of a walk preserves;
* `Tower.Opens`: the history of a frame;
* `Tower.Lawful`, `Tower.lawful_run`: the laws of the stack;
* **`Tower.lawful_walk`**: the laws hold for any handlers, and the walk of stubs is the one with the
  handlers of rules.
-/

namespace Introspection.Stub

/-! ## Frames and handlers -/

/-- A frame with a table of any kind. -/
structure Layer (τ : Type) where
  table : τ
  level : Int
  /-- A number that no other frame has. -/
  number : Nat
  /-- The number of the frame that it was opened on. -/
  parent : Option Nat
  /-- The node that opened it, with its position among the nodes. -/
  opener : Option (Nat × Placed)
  /-- The lines of the nodes that met the frame. -/
  outputs : List String

/-- The handlers of tables by tag. A handler makes a line of a node that meets a frame, and may give
a table for the nodes below. -/
abbrev Handlers (τ : Type) : Type :=
  τ → String → Option (Placed → Layer τ → String × Option τ)

/-- A node with the frame that it meets. -/
structure Meeting (τ : Type) where
  node : Placed
  frame : Layer τ

section

variable {τ : Type} (h : Handlers τ)

namespace Layer

/-- The lowest frame. -/
def root (table : τ) : Layer τ := ⟨table, 0, 0, none, none, []⟩

def write (f : Layer τ) (line : String) : Layer τ := { f with outputs := f.outputs ++ [line] }

/-- A frame without its lines. -/
def bare (f : Layer τ) : Layer τ := { f with outputs := [] }

/-- The frame that a node opens on another one. -/
def push (f : Layer τ) (position : Nat) (p : Placed) (table : τ) : Layer τ where
  table := table
  level := p.level + 1
  number := position + 1
  parent := some f.number
  opener := some (position, p)
  outputs := []

/-- Leaves the frames of deeper levels. -/
def settle (level : Int) : Layer τ → List (Layer τ) → Layer τ × List (Layer τ)
  | f, [] => (f, [])
  | f, g :: gs => if level < f.level then settle level g gs else (f, g :: gs)

end Layer

namespace Meeting

/-- What the handler makes of the node, if the frame is for its level and has one for its tag. -/
def answer? (m : Meeting τ) : Option (String × Option τ) :=
  if m.frame.level = m.node.level then
    (h m.frame.table m.node.element.tag).map fun answer => answer m.node m.frame
  else none

/-- Whether the frame is for another level or has no handler for the tag. -/
def isUnhandled (m : Meeting τ) : Bool :=
  m.frame.level != m.node.level || (h m.frame.table m.node.element.tag).isNone

/-- The line of the node. -/
def line (m : Meeting τ) : String :=
  match m.answer? h with
  | some (line, _) => line
  | none => indented m.node.level
      ("# unhandled: " ++ m.node.element.tag ++ " @ " ++ levels m.node.level m.frame.level)

/-- The frame that the node opens, if its handler gives a table. -/
def opened? (m : Meeting τ) (position : Nat) : Option (Layer τ) :=
  ((m.answer? h).bind (·.2)).map (m.frame.push position m.node)

/-- What is noticed of the node. -/
def diagnostics (m : Meeting τ) : List Diagnostic :=
  if (m.answer? h).isNone then [.unhandled m.node.element.tag m.node.level] else []

end Meeting

/-- A walk with handlers of any kind. -/
structure Tower (τ : Type) where
  top : Layer τ
  /-- The frames below the top one, the nearest first. -/
  below : List (Layer τ) := []
  /-- How many nodes were met. -/
  met : Nat := 0
  unhandled : Nat := 0
  diagnostics : List Diagnostic := []

namespace Tower

/-- The walk at its start with the table for the root element. -/
def start (table : τ) : Tower τ := { top := .root table }

/-- The frames, the latest first. -/
def stack (w : Tower τ) : List (Layer τ) := w.top :: w.below

/-- The frames, the lowest first. -/
def frames (w : Tower τ) : List (Layer τ) := w.stack.reverse

/-- A node as the walk meets it, in the nearest frame of no deeper level or else the lowest one. -/
def meeting (w : Tower τ) (p : Placed) : Meeting τ := ⟨p, (Layer.settle p.level w.top w.below).1⟩

@[simp] theorem node_meeting (w : Tower τ) (p : Placed) : (w.meeting p).node = p := rfl

/-- Goes to the next node. -/
def step (w : Tower τ) (p : Placed) : Tower τ × Meeting τ :=
  let below := (Layer.settle p.level w.top w.below).2
  let m := w.meeting p
  let written := m.frame.write (m.line h)
  let (top, below) := match m.opened? h w.met with
    | none => (written, below)
    | some g => (g, written :: below)
  ({ top, below
     met := w.met + 1
     unhandled := w.unhandled + if (m.answer? h).isNone then 1 else 0
     diagnostics := w.diagnostics ++ m.diagnostics h }, m)

/-- Goes through several nodes. -/
def run (w : Tower τ) : List Placed → Tower τ × List (Meeting τ)
  | [] => (w, [])
  | p :: ps =>
    let (w, m) := w.step h p
    let (w, ms) := run w ps
    (w, m :: ms)

/-- What there is after several nodes from the start. -/
def after (table : τ) (ps : List Placed) : Tower τ := ((start table).run h ps).1

end Tower

/-! ## Leaving frames -/

namespace Layer

/-- The frames of a stack are for the levels down to zero, each was opened on the next one, and its
number is greater than those below. -/
def Stair : List (Layer τ) → Prop
  | [] => True
  | f :: fs =>
    f.level = fs.length ∧ f.parent = fs.head?.map (·.number) ∧ (∀ g ∈ fs, g.number < f.number) ∧
      Stair fs

theorem Stair.of_suffix {fs gs : List (Layer τ)} (hs : Stair gs) (hsuffix : fs <:+ gs) :
    Stair fs := by
  induction gs with
  | nil => rwa [List.suffix_nil.mp hsuffix]
  | cons g gs ih =>
    rcases List.suffix_cons_iff.mp hsuffix with rfl | hsuffix
    · exact hs
    · exact ih hs.2.2.2 hsuffix

theorem Stair.level_eq {fs : List (Layer τ)} (hs : Stair fs) {i : Nat} {f : Layer τ}
    (hf : fs.reverse[i]? = some f) : f.level = i := by
  induction fs with
  | nil => cases hf
  | cons g gs ih =>
    rw [List.reverse_cons, List.getElem?_append, List.length_reverse] at hf
    split at hf
    · exact ih hs.2.2.2 hf
    · obtain ⟨hi, hg⟩ := List.getElem?_eq_some_iff.mp hf
      rw [List.length_singleton] at hi
      have hlevel := hs.1
      rw [List.getElem_singleton] at hg
      rw [← hg, hlevel]
      omega

theorem Stair.parent_eq {fs : List (Layer τ)} (hs : Stair fs) {i : Nat} {f g : Layer τ}
    (hf : fs.reverse[i]? = some f) (hg : fs.reverse[i + 1]? = some g) :
    g.parent = some f.number := by
  induction fs with
  | nil => cases hf
  | cons top fs ih =>
    rw [List.reverse_cons] at hf hg
    by_cases hi : i + 1 < fs.reverse.length
    · rw [List.getElem?_append_left (by omega)] at hf
      rw [List.getElem?_append_left hi] at hg
      exact ih hs.2.2.2 hf hg
    · cases fs with
      | nil => simp at hg
      | cons below fs =>
        have hlt := (List.getElem?_eq_some_iff.mp hg).1
        simp only [List.length_append, List.length_reverse, List.length_cons, List.length_nil]
          at hlt hi
        obtain rfl : i = fs.length := by omega
        have hbelow : below = f := by simpa [List.getElem?_append] using hf
        have htop : top = g := by simpa [List.getElem?_append] using hg
        rw [← htop, ← hbelow]
        exact hs.2.1

theorem Stair.pairwise {fs : List (Layer τ)} (hs : Stair fs) :
    (fs.reverse.map (·.number)).Pairwise (· < ·) := by
  rw [List.map_reverse, List.pairwise_reverse, List.pairwise_map]
  induction fs with
  | nil => exact .nil
  | cons f fs ih => exact List.pairwise_cons.mpr ⟨hs.2.2.1, ih hs.2.2.2⟩

theorem settle_of_stair {level : Int} {f : Layer τ} {below : List (Layer τ)}
    (hs : Stair (f :: below)) :
    (settle level f below).1 :: (settle level f below).2 <:+ f :: below ∧
      (settle level f below).2.length = min below.length level.toNat := by
  induction below generalizing f with
  | nil => exact ⟨List.suffix_rfl, (Nat.zero_min _).symm⟩
  | cons g gs ih =>
    obtain ⟨hlevel, -, -, hs⟩ := hs
    rw [List.length_cons] at hlevel
    rw [settle]
    split
    · obtain ⟨hsuffix, hlen⟩ := ih hs
      refine ⟨hsuffix.trans (List.suffix_cons _ _), ?_⟩
      rw [hlen, List.length_cons]
      omega
    · refine ⟨List.suffix_rfl, ?_⟩
      rw [List.length_cons]
      omega

end Layer

namespace Meeting

variable {h} {m : Meeting τ}

theorem isUnhandled_eq : m.isUnhandled h = (m.answer? h).isNone := by
  rw [isUnhandled, answer?]
  by_cases hl : m.frame.level = m.node.level <;> simp [hl]

/-- Only a node of the level of its frame opens another frame. -/
theorem exists_of_opened? {position : Nat} {g : Layer τ} (ho : m.opened? h position = some g) :
    m.frame.level = m.node.level ∧ ∃ table, g = m.frame.push position m.node table := by
  obtain ⟨table, ht, rfl⟩ := Option.map_eq_some_iff.mp ho
  obtain ⟨answer, ha, -⟩ := Option.bind_eq_some_iff.mp ht
  refine ⟨Decidable.byContradiction fun hne => ?_, table, rfl⟩
  rw [answer?, if_neg hne] at ha
  cases ha

end Meeting

namespace Tower

/-! ## One step -/

/-- What every step preserves: the frames are a stair from the lowest one, and their numbers were
given before. -/
structure Standing (table : τ) (w : Tower τ) : Prop where
  stair : Layer.Stair w.stack
  number_le : ∀ f ∈ w.stack, f.number ≤ w.met
  root : (w.stack.map Layer.bare).getLast? = some (.root table)

/-- How many frames lie below the one that a node meets. -/
def depth (w : Tower τ) (p : Placed) : Nat := min w.below.length p.level.toNat

theorem stack_step (w : Tower τ) (p : Placed) :
    (w.step h p).1.stack = ((w.meeting p).opened? h w.met).toList ++
      (w.meeting p).frame.write ((w.meeting p).line h) ::
        (Layer.settle p.level w.top w.below).2 := by
  rw [step, stack]
  cases (w.meeting p).opened? h w.met <;> rfl

theorem frames_step_eq (w : Tower τ) (p : Placed) :
    (w.step h p).1.frames = (Layer.settle p.level w.top w.below).2.reverse ++
      (w.meeting p).frame.write ((w.meeting p).line h) ::
        ((w.meeting p).opened? h w.met).toList := by
  rw [frames, stack_step]
  cases (w.meeting p).opened? h w.met <;> simp

namespace Standing

variable {h} {table : τ} {w : Tower τ}

theorem start : (Tower.start table).Standing table where
  stair := ⟨rfl, rfl, nofun, trivial⟩
  number_le := by
    intro f hf
    rw [List.mem_singleton.mp hf]
    exact Nat.le_refl 0
  root := rfl

variable (hw : w.Standing table) (p : Placed)

include hw

theorem settled : (w.meeting p).frame :: (Layer.settle p.level w.top w.below).2 <:+ w.stack ∧
    (Layer.settle p.level w.top w.below).2.length = w.depth p :=
  Layer.settle_of_stair hw.stair

theorem getElem?_depth : w.frames[w.depth p]? = some (w.meeting p).frame := by
  obtain ⟨⟨deeper, hstack⟩, hlen⟩ := hw.settled p
  rw [frames, ← hstack, ← hlen, List.reverse_append, List.reverse_cons, List.append_assoc,
    List.getElem?_append_right (by simp)]
  simp

theorem level_frame : (w.meeting p).frame.level = w.depth p := by
  obtain ⟨hsuffix, hlen⟩ := hw.settled p
  rw [← hlen]
  exact (hw.stair.of_suffix hsuffix).1

/-- **What a step does to the frames.** Those above the one that the node meets are left, that one
gets the line, and those below stay as they are. A frame that is opened has no lines. -/
theorem frames_step : (w.step h p).1.frames = w.frames.take (w.depth p) ++
    (w.meeting p).frame.write ((w.meeting p).line h) ::
      ((w.meeting p).opened? h w.met).toList := by
  obtain ⟨⟨deeper, hstack⟩, hlen⟩ := hw.settled p
  have htake : w.frames.take (w.depth p) = (Layer.settle p.level w.top w.below).2.reverse := by
    rw [frames, ← hstack, ← hlen, List.reverse_append, List.reverse_cons, List.append_assoc]
    exact List.take_left' (by simp)
  rw [frames_step_eq, htake]

theorem bare_frames_step : (w.step h p).1.frames.map Layer.bare =
    (w.frames.map Layer.bare).take (w.depth p + 1) ++
      ((w.meeting p).opened? h w.met).toList := by
  have hopened : ((w.meeting p).opened? h w.met).toList.map Layer.bare =
      ((w.meeting p).opened? h w.met).toList := by
    cases ho : (w.meeting p).opened? h w.met with
    | none => rfl
    | some g =>
      obtain ⟨-, t, rfl⟩ := Meeting.exists_of_opened? ho
      rfl
  rw [hw.frames_step, List.take_add_one, List.getElem?_map, hw.getElem?_depth, List.map_append,
    List.map_cons, hopened, List.map_take, List.append_assoc]
  rfl

/-- **Every step preserves this.** -/
theorem step : (w.step h p).1.Standing table := by
  obtain ⟨hsuffix, hlen⟩ := hw.settled p
  have hstair := hw.stair.of_suffix hsuffix
  have hwritten : Layer.Stair ((w.meeting p).frame.write ((w.meeting p).line h) ::
    (Layer.settle p.level w.top w.below).2) := hstair
  have hle : ∀ f ∈ (w.meeting p).frame.write ((w.meeting p).line h) ::
      (Layer.settle p.level w.top w.below).2, f.number ≤ w.met := by
    intro f hf
    rcases List.mem_cons.mp hf with rfl | hf
    · exact hw.number_le (w.meeting p).frame (hsuffix.subset List.mem_cons_self)
    · exact hw.number_le _ (hsuffix.subset (List.mem_cons_of_mem _ hf))
  have hmet : (w.step h p).1.met = w.met + 1 := rfl
  refine ⟨?_, ?_, ?_⟩
  · rw [stack_step]
    cases ho : (w.meeting p).opened? h w.met with
    | none => exact hwritten
    | some g =>
      obtain ⟨hl, t, rfl⟩ := Meeting.exists_of_opened? ho
      refine ⟨?_, rfl, fun f hf => Nat.lt_succ_of_le (hle f hf), hwritten⟩
      change p.level + 1 = ((Layer.settle p.level w.top w.below).2.length + 1 : Nat)
      have hlevel : _ = p.level := hl
      have hlength := hstair.1
      omega
  · rw [stack_step, hmet]
    intro f hf
    rcases List.mem_append.mp hf with hf | hf
    · obtain ⟨-, t, rfl⟩ := Meeting.exists_of_opened? (Option.mem_toList.mp hf)
      exact Nat.le_refl _
    · exact Nat.le_succ_of_le (hle f hf)
  · obtain ⟨deeper, hstack⟩ := hsuffix
    have hroot := hw.root
    rw [← hstack, List.map_append, List.map_cons, List.getLast?_append_cons] at hroot
    rw [stack_step, List.map_append, List.map_cons, List.getLast?_append_cons]
    exact hroot

end Standing

/-! ## Runs -/

variable {h} {table : τ}

theorem run_append (w : Tower τ) (ps qs : List Placed) :
    w.run h (ps ++ qs) =
      (((w.run h ps).1.run h qs).1, (w.run h ps).2 ++ ((w.run h ps).1.run h qs).2) := by
  induction ps generalizing w with
  | nil => rfl
  | cons p ps ih => simp only [List.cons_append, run, ih]

theorem after_concat (ps : List Placed) (p : Placed) :
    after h table (ps ++ [p]) = ((after h table ps).step h p).1 := by
  rw [after, run_append]
  rfl

theorem met_after (ps : List Placed) : (after h table ps).met = ps.length := by
  induction ps using List.reverseRecOn with
  | nil => rfl
  | append_singleton ps p ih =>
    rw [after_concat, List.length_append, ← ih]
    rfl

theorem standing_after (ps : List Placed) : (after h table ps).Standing table := by
  induction ps using List.reverseRecOn with
  | nil => exact .start
  | append_singleton ps p ih =>
    rw [after_concat]
    exact ih.step p

/-! ## The history of a frame -/

variable (h table) in
/-- The latest node above a level is right above it and opened a frame for it: the node comes behind
others, and no node behind it is above that level. -/
def Opens (ps : List Placed) (level : Nat) (f : Layer τ) : Prop :=
  ∃ before p behind, ps = before ++ p :: behind ∧
    (p.level + 1 = (level : Int) ∧
      ((after h table before).meeting p).opened? h before.length = some f) ∧
    ∀ q ∈ behind, (level : Int) ≤ q.level

theorem opens_concat_iff {ps : List Placed} {p : Placed} {level : Nat} {f : Layer τ} :
    Opens h table (ps ++ [p]) level f ↔
      (p.level + 1 = (level : Int) ∧ ((after h table ps).meeting p).opened? h ps.length = some f) ∨
        Opens h table ps level f ∧ (level : Int) ≤ p.level :=
  exists_latest_concat_iff

/-- **The frame of a level, apart from its lines, is the one that the latest node above the level
opened.** -/
theorem getElem?_frames_iff {ps : List Placed} {level : Nat} {f : Layer τ} :
    ((after h table ps).frames.map Layer.bare)[level + 1]? = some f ↔
      Opens h table ps (level + 1) f := by
  induction ps using List.reverseRecOn generalizing f with
  | nil =>
    constructor
    · rintro ⟨⟩
    · rintro ⟨before, p, behind, heq, -⟩
      simp at heq
  | append_singleton ps p ih =>
    have hs : (after h table ps).Standing table := standing_after ps
    have hframe := hs.level_frame p
    have hopened {g : Layer τ}
        (ho : ((after h table ps).meeting p).opened? h (after h table ps).met = some g) :
        p.level = (after h table ps).depth p :=
      (Meeting.exists_of_opened? ho).1.symm.trans hframe
    have hmet : (after h table ps).met = ps.length := met_after ps
    have hlen : ((after h table ps).frames.map Layer.bare).length =
        (after h table ps).below.length + 1 := by simp [frames, stack]
    have hdepth : (after h table ps).depth p = min (after h table ps).below.length p.level.toNat :=
      rfl
    rw [after_concat, hs.bare_frames_step, opens_concat_iff, ← ih, ← hmet,
      List.getElem?_append, List.length_take, hlen]
    split
    · rw [List.getElem?_take_of_lt (by omega)]
      constructor
      · intro hf
        exact .inr ⟨hf, by omega⟩
      · rintro (⟨hl, -⟩ | ⟨hf, -⟩)
        · omega
        · exact hf
    · constructor
      · intro hf
        have hmem := List.mem_of_getElem? hf
        have ho := Option.mem_toList.mp hmem
        rw [Option.mem_def.mp ho] at hf
        have hl := hopened ho
        have hlt := (List.getElem?_eq_some_iff.mp hf).1
        rw [Option.toList_some, List.length_singleton] at hlt
        exact .inl ⟨by omega, ho⟩
      · rintro (⟨hl, ho⟩ | ⟨hf, hle⟩)
        · have hl' := hopened ho
          have hzero : level + 1 - min ((after h table ps).depth p + 1)
              ((after h table ps).below.length + 1) = 0 := by omega
          rw [ho, hzero]
          rfl
        · have hlt := (List.getElem?_eq_some_iff.mp hf).1
          omega

/-! ## Laws -/

theorem node_run (w : Tower τ) (ps : List Placed) : (w.run h ps).2.map (·.node) = ps := by
  induction ps generalizing w with
  | nil => rfl
  | cons p ps ih =>
    change p :: ((w.step h p).1.run h ps).2.map (·.node) = p :: ps
    rw [ih]

theorem unhandled_run (w : Tower τ) (ps : List Placed) :
    (w.run h ps).1.unhandled = w.unhandled + (w.run h ps).2.countP (·.isUnhandled h) := by
  induction ps generalizing w with
  | nil => rfl
  | cons p ps ih =>
    change ((w.step h p).1.run h ps).1.unhandled =
      w.unhandled + (w.meeting p :: ((w.step h p).1.run h ps).2).countP (·.isUnhandled h)
    rw [ih, List.countP_cons, Meeting.isUnhandled_eq]
    change w.unhandled + _ + _ = _
    omega

theorem diagnostics_run (w : Tower τ) (ps : List Placed) :
    (w.run h ps).1.diagnostics = w.diagnostics ++ (w.run h ps).2.flatMap (·.diagnostics h) := by
  induction ps generalizing w with
  | nil => simp [run]
  | cons p ps ih =>
    change ((w.step h p).1.run h ps).1.diagnostics =
      w.diagnostics ++ (w.meeting p :: ((w.step h p).1.run h ps).2).flatMap (·.diagnostics h)
    rw [ih, List.flatMap_cons, ← List.append_assoc]
    rfl

theorem length_flatMap_diagnostics (ms : List (Meeting τ)) :
    (ms.flatMap (·.diagnostics h)).length = ms.countP (·.isUnhandled h) := by
  induction ms with
  | nil => rfl
  | cons m ms ih =>
    rw [List.flatMap_cons, List.length_append, ih, List.countP_cons, Meeting.isUnhandled_eq,
      Meeting.diagnostics]
    split <;> simp +arith

theorem getElem?_run {before behind : List Placed} {p : Placed} :
    ((start table).run h (before ++ p :: behind)).2[before.length]? =
      some ((after h table before).meeting p) := by
  have hlen : ((start table).run h before).2.length = before.length := by
    rw [← List.length_map (·.node), node_run]
  rw [run_append, List.getElem?_append_right (by omega), hlen, Nat.sub_self]
  rfl

variable (h table) in
/-- The laws of the stack after some nodes. -/
structure Lawful (ps : List Placed) : Prop where
  /-- The levels go up from zero without a gap. -/
  level_eq : ∀ (i : Nat) (f : Layer τ), (after h table ps).frames[i]? = some f → f.level = i
  root : ((after h table ps).frames.map Layer.bare)[0]? = some (.root table)
  parent_eq : ∀ (i : Nat) (f g : Layer τ), (after h table ps).frames[i]? = some f →
    (after h table ps).frames[i + 1]? = some g → g.parent = some f.number
  numbers : ((after h table ps).frames.map (·.number)).Pairwise (· < ·)
  /-- A frame above the lowest one is that of the latest node above its level. -/
  opens_iff : ∀ (level : Nat) (f : Layer τ),
    ((after h table ps).frames.map Layer.bare)[level + 1]? = some f ↔
      Opens h table ps (level + 1) f
  /-- The next node meets the frame of its level, the highest one if there is none, or the lowest
  one if its level is below zero. -/
  meets : ∀ p, (after h table ps).frames[(after h table ps).depth p]? =
    some ((after h table ps).meeting p).frame
  /-- What the next node does to the frames. -/
  frames_concat : ∀ p, (after h table (ps ++ [p])).frames =
    (after h table ps).frames.take ((after h table ps).depth p) ++
      ((after h table ps).meeting p).frame.write (((after h table ps).meeting p).line h) ::
        (((after h table ps).meeting p).opened? h ps.length).toList
  /-- Every node is met once. -/
  meetings : ∃ ms : List (Meeting τ), (start table).run h ps = (after h table ps, ms) ∧
    ms.map (·.node) = ps ∧
    (∀ before p behind, ps = before ++ p :: behind →
      ms[before.length]? = some ((after h table before).meeting p)) ∧
    (after h table ps).unhandled = ms.countP (·.isUnhandled h) ∧
    (after h table ps).diagnostics = ms.flatMap (·.diagnostics h) ∧
    (after h table ps).diagnostics.length = ms.countP (·.isUnhandled h)

theorem lawful_run (ps : List Placed) : Lawful h table ps := by
  have hs : (after h table ps).Standing table := standing_after ps
  refine ⟨fun i f => hs.stair.level_eq, ?_, fun i f g => hs.stair.parent_eq, hs.stair.pairwise,
    fun level f => getElem?_frames_iff, hs.getElem?_depth, fun p => ?_, ?_⟩
  · have hroot := hs.root
    rwa [frames, List.map_reverse, ← List.head?_eq_getElem?, List.head?_reverse]
  · rw [after_concat, hs.frames_step, met_after]
  · have hdiagnostics : (after h table ps).diagnostics =
        ((start table).run h ps).2.flatMap (·.diagnostics h) := diagnostics_run _ ps
    refine ⟨_, rfl, node_run _ ps, ?_, ?_, hdiagnostics, ?_⟩
    · rintro before p behind rfl
      exact getElem?_run
    · have hunhandled := unhandled_run (h := h) (start table) ps
      rwa [show (start table).unhandled = 0 from rfl, Nat.zero_add] at hunhandled
    · rw [hdiagnostics, length_flatMap_diagnostics]

end Tower

end

/-! ## Rules as handlers -/

/-- The handlers that tables of rules stand for. -/
def ofRules : Handlers Table := fun table tag =>
  (table.lookup tag).map fun r p f =>
    (r.line p.element p.level f.level (f.opener.map (·.2.element)), r.table?)

/-- A frame without what only tells it from others. -/
def Layer.plain (f : Layer Table) : Frame where
  table := f.table
  level := f.level
  opener := f.opener.map (·.2.element)
  written := f.outputs.reverse

/-- The walk of a stub that goes along with a walk. -/
def Tower.plain (w : Tower Table) : Walk where
  top := w.top.plain
  below := w.below.map Layer.plain
  noticed := w.diagnostics.reverse

namespace Tower

theorem plain_write (f : Layer Table) (line : String) :
    (f.write line).plain = f.plain.write line := by
  simp [Layer.plain, Layer.write, Frame.write]

theorem settle_plain (level : Int) (f : Layer Table) (below : List (Layer Table)) :
    settle level f.plain (below.map Layer.plain) =
      ((Layer.settle level f below).1.plain, (Layer.settle level f below).2.map Layer.plain) := by
  induction below generalizing f with
  | nil => rfl
  | cons g gs ih =>
    have hlevel : f.plain.level = f.level := rfl
    rw [List.map_cons, settle, Layer.settle, hlevel]
    split
    · exact ih g
    · rfl

theorem answer?_ofRules (m : Meeting Table) :
    m.answer? ofRules = (m.frame.plain.rule? m.node).map fun r =>
      (r.line m.node.element m.node.level m.frame.level (m.frame.opener.map (·.2.element)),
        r.table?) := by
  have hlevel : m.frame.plain.level = m.frame.level := rfl
  have htable : m.frame.plain.table = m.frame.table := rfl
  rw [Meeting.answer?, Frame.rule?, hlevel, htable]
  split
  · rw [ofRules, Option.map_map]
    rfl
  · rfl

theorem plain_step (w : Tower Table) (p : Placed) :
    w.plain.step p = ((w.step ofRules p).1.plain, (w.meeting p).line ofRules) := by
  have hs : w.plain.settled p.level = ((w.meeting p).frame.plain,
      (Layer.settle p.level w.top w.below).2.map Layer.plain) := settle_plain ..
  have ha := answer?_ofRules (w.meeting p)
  cases hr : (w.meeting p).frame.plain.rule? p with
  | none =>
    rw [node_meeting, hr, Option.map_none] at ha
    have ho : (w.meeting p).opened? ofRules w.met = none := by rw [Meeting.opened?, ha]; rfl
    have hline : (w.meeting p).line ofRules = Walk.unhandledLine p (w.meeting p).frame.plain := by
      rw [Meeting.line, ha]
      rfl
    rw [Walk.step_of_none hs hr, ← hline]
    simp [step, ho, ha, plain, plain_write, Meeting.diagnostics]
  | some r =>
    rw [node_meeting, hr, Option.map_some] at ha
    have hline : (w.meeting p).line ofRules = r.line p.element p.level
        (w.meeting p).frame.plain.level (w.meeting p).frame.plain.opener := by
      rw [Meeting.line, ha]
      rfl
    cases ht : r.table? with
    | none =>
      have ho : (w.meeting p).opened? ofRules w.met = none := by
        rw [Meeting.opened?, ha, Option.bind_some, ht]
        rfl
      rw [Walk.step_of_leaf hs hr ht, ← hline]
      simp [step, ho, ha, plain, plain_write, Meeting.diagnostics]
    | some table =>
      have ho : (w.meeting p).opened? ofRules w.met =
          some ((w.meeting p).frame.push w.met p table) := by
        rw [Meeting.opened?, ha, Option.bind_some, ht]
        rfl
      have hpush : ((w.meeting p).frame.push w.met p table).plain =
          { table, level := p.level + 1, opener := some p.element } := rfl
      rw [Walk.step_of_table hs hr ht, ← hline]
      simp [step, ho, ha, plain, plain_write, Meeting.diagnostics, hpush]

theorem plain_run (w : Tower Table) (ps : List Placed) :
    w.plain.run ps =
      ((w.run ofRules ps).1.plain, (w.run ofRules ps).2.map (·.line ofRules)) := by
  induction ps generalizing w with
  | nil => rfl
  | cons p ps ih =>
    rw [Walk.run_cons, plain_step, ih]
    rfl

/-- **The laws of the stack hold for handlers of any kind, after any nodes of any levels**, and the
walk of stubs is the one with the handlers of rules. -/
theorem lawful_walk {τ : Type} (h : Handlers τ) (root : τ) (table : Table) (ps : List Placed) :
    Lawful h root ps ∧
      (Walk.start table).run ps = ((after ofRules table ps).plain,
        ((start table).run ofRules ps).2.map (·.line ofRules)) :=
  ⟨lawful_run ps, plain_run (start table) ps⟩

end Tower

end Introspection.Stub
