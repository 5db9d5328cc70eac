import Introspection.Diagnostic
import Introspection.Failure

/-!
# Outcomes

What an operation gives that may fail and has things to say on the way.

* `Outcome`: a result with the warnings before it, as a monad;
* `Outcome.warn`, `Outcome.fail`.
-/

namespace Introspection

/-- A result with the warnings that were given on the way to it. -/
structure Outcome (α : Type) where
  warnings : List Warning
  result : Except Failure α

namespace Outcome

variable {α β : Type}

def ok (a : α) : Outcome α := ⟨[], .ok a⟩

def fail (e : Failure) : Outcome α := ⟨[], .error e⟩

/-- The outcome that says one thing. -/
def warn (w : Warning) : Outcome Unit := ⟨[w], .ok ()⟩

def warnAll (ws : List Warning) : Outcome Unit := ⟨ws, .ok ()⟩

/-- Goes on with a result, keeping the warnings of both parts in order. -/
def andThen (x : Outcome α) (f : α → Outcome β) : Outcome β :=
  match x.result with
  | .ok a => ⟨x.warnings ++ (f a).warnings, (f a).result⟩
  | .error e => ⟨x.warnings, .error e⟩

instance : Monad Outcome where
  pure := ok
  bind := andThen

/-- A result without warnings as an outcome. -/
def ofExcept (r : Except Failure α) : Outcome α := ⟨[], r⟩

end Outcome

end Introspection
