import Introspection.Diagnostic

/-!
# Values with diagnostics

A value that is read from a document comes with the diagnostics that were noticed on the way.

* `Reported`: a value with diagnostics, as a monad;
* `Reported.report`: one diagnostic;
* `Reported.each`: the elements of a list, read one after the other with their positions.
-/

namespace Introspection

/-- A value with the diagnostics noticed on the way to it. -/
structure Reported (α : Type) where
  value : α
  diagnostics : List Diagnostic
deriving Repr

namespace Reported

variable {α β γ : Type}

instance : Monad Reported where
  pure a := ⟨a, []⟩
  bind x f := ⟨(f x.value).value, x.diagnostics ++ (f x.value).diagnostics⟩

@[simp] theorem value_pure (a : α) : (pure a : Reported α).value = a := rfl

@[simp] theorem diagnostics_pure (a : α) : (pure a : Reported α).diagnostics = [] := rfl

@[simp] theorem value_bind (x : Reported α) (f : α → Reported β) :
    (x >>= f).value = (f x.value).value := rfl

@[simp] theorem diagnostics_bind (x : Reported α) (f : α → Reported β) :
    (x >>= f).diagnostics = x.diagnostics ++ (f x.value).diagnostics := rfl

/-- One diagnostic. -/
def report (d : Diagnostic) : Reported Unit := ⟨(), [d]⟩

@[simp] theorem diagnostics_report (d : Diagnostic) : (report d).diagnostics = [d] := rfl

/-- Reads the elements of a list in order, counting positions from `i` on. -/
def eachFrom (f : α → Nat → Reported β) (i : Nat) : List α → Reported (List β)
  | [] => pure []
  | a :: as => do return (← f a i) :: (← eachFrom f (i + 1) as)

/-- Reads the elements of a list in order with their positions. -/
def each (f : α → Nat → Reported β) (as : List α) : Reported (List β) := eachFrom f 0 as

end Reported

end Introspection
