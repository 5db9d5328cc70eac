import Introspection.Stub.Walk

/-!
# Steps of walks

What a step of a walk does to its stack.

* `settle_settle`, `settle_eq_self`: leaving the frames of deeper levels, once and again;
* `Walk.step_of_none`, `Walk.step_of_leaf`, `Walk.step_of_table`: the three kinds of steps;
* `Walk.run_append`: a run in two parts.
-/

namespace Introspection.Stub

/-! ## Leaving frames -/

section Settle

variable {level deeper : Int} {f : Frame} {below : List Frame}

theorem settle_eq_self (h : f.level ≤ level) : settle level f below = (f, below) := by
  cases below with
  | nil => rfl
  | cons g gs => rw [settle, if_neg (by omega)]

theorem settle_cons_of_lt {g : Frame} (h : level < f.level) :
    settle level f (g :: below) = settle level g below := by
  rw [settle, if_pos h]

theorem settle_settle (h : level ≤ deeper) (f : Frame) (below : List Frame) :
    settle level (settle deeper f below).1 (settle deeper f below).2 = settle level f below := by
  induction below generalizing f with
  | nil => rfl
  | cons g gs ih =>
    by_cases hf : deeper < f.level
    · rw [settle_cons_of_lt hf, ih, settle_cons_of_lt (by omega)]
    · rw [settle_eq_self (Int.not_lt.mp hf)]

/-- The lowest frame is never left. -/
theorem getLastD_settle (level : Int) (f : Frame) (below : List Frame) :
    (settle level f below).2.getLastD (settle level f below).1 = below.getLastD f := by
  induction below generalizing f with
  | nil => rfl
  | cons g gs ih =>
    by_cases hf : level < f.level
    · rw [settle_cons_of_lt hf, ih, List.getLastD_cons]
    · rw [settle_eq_self (by omega)]

theorem length_settle_le (level : Int) (f : Frame) (below : List Frame) :
    (settle level f below).2.length ≤ below.length := by
  induction below generalizing f with
  | nil => simp [settle]
  | cons g gs ih =>
    by_cases hf : level < f.level
    · rw [settle_cons_of_lt hf, List.length_cons]
      have := ih g
      omega
    · simp only [settle_eq_self (Int.not_lt.mp hf), Nat.le_refl]

end Settle

/-! ## Steps -/

namespace Walk

/-- The frame that a node of a level meets, and the frames below it. -/
def settled (w : Walk) (level : Int) : Frame × List Frame := settle level w.top w.below

theorem settled_of_settled {w : Walk} {level deeper : Int} {f : Frame} {below : List Frame}
    (h : level ≤ deeper) (hw : w.settled deeper = (f, below)) :
    w.settled level = settle level f below := by
  rw [settled, ← settle_settle h, ← settled, hw]

section Step

variable {w : Walk} {p : Placed} {f : Frame} {below : List Frame} {r : Rule}

theorem step_of_none (hs : w.settled p.level = (f, below)) (hr : f.rule? p = none) :
    w.step p =
      ({ top := f.write (unhandledLine p f), below
         noticed := .unhandled p.element.tag p.level :: w.noticed }, unhandledLine p f) := by
  rw [settled] at hs
  simp only [step, hs, hr]

theorem step_of_leaf (hs : w.settled p.level = (f, below)) (hr : f.rule? p = some r)
    (ht : r.table? = none) :
    w.step p =
      ({ top := f.write (r.line p.element p.level f.level f.opener), below, noticed := w.noticed },
        r.line p.element p.level f.level f.opener) := by
  rw [settled] at hs
  simp only [step, hs, hr, ht]

theorem step_of_table {table : Table} (hs : w.settled p.level = (f, below))
    (hr : f.rule? p = some r) (ht : r.table? = some table) :
    w.step p =
      ({ top := { table, level := p.level + 1, opener := some p.element }
         below := f.write (r.line p.element p.level f.level f.opener) :: below
         noticed := w.noticed }, r.line p.element p.level f.level f.opener) := by
  rw [settled] at hs
  simp only [step, hs, hr, ht]

end Step

/-! ## Runs -/

theorem run_cons (w : Walk) (p : Placed) (ps : List Placed) :
    w.run (p :: ps) = (((w.step p).1.run ps).1, (w.step p).2 :: ((w.step p).1.run ps).2) := rfl

theorem run_append (w : Walk) (ps qs : List Placed) :
    w.run (ps ++ qs) = (((w.run ps).1.run qs).1, (w.run ps).2 ++ ((w.run ps).1.run qs).2) := by
  induction ps generalizing w with
  | nil => rfl
  | cons p ps ih => rw [List.cons_append, run_cons, ih, run_cons, List.cons_append]

end Walk

end Introspection.Stub
