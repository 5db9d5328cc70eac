import Introspection.Cache.Parser
import Introspection.Config.Reader

/-!
# Remembered parsers

A parser is made from the text of its configuration. The parsers that were asked for last are
remembered, and a new one takes the place of the one that was not asked for the longest.

* `Memo`, `Memo.ask`: a few values by key, the one asked for last in front;
* `ParserMemo.ask`: the parser for a text, which may be left out.
-/

namespace Introspection

/-- A few values by key, the one asked for last in front. -/
structure Memo (κ α : Type) where
  capacity : Nat
  slots : List (κ × α) := []
deriving Repr

namespace Memo

variable {κ α : Type} [DecidableEq κ]

def find? (m : Memo κ α) (key : κ) : Option α := (m.slots.find? (·.1 = key)).map (·.2)

/-- Puts a value in front of the others; the last one is forgotten if there are too many. -/
def put (m : Memo κ α) (key : κ) (a : α) : Memo κ α :=
  { m with slots := ((key, a) :: m.slots.filter (·.1 ≠ key)).take m.capacity }

end Memo

/-- What a parser is asked for with: nothing at all, or the text of a configuration or none. -/
abbrev ParserRequest := Option (Option String)

/-- The parsers that were asked for, with the number of parsers made so far. -/
structure ParserMemo where
  memo : Memo ParserRequest (Nat × Parser) := { capacity := 4 }
  made : Nat := 0
deriving Repr

/-- The parser that is asked for, with its number: a remembered one, or else a new one. -/
def ParserMemo.ask (m : ParserMemo) (request : ParserRequest) :
    ParserMemo × Outcome (Nat × Parser) :=
  match m.memo.find? request with
  | some p => ({ m with memo := m.memo.put request p }, .ok p)
  | none =>
    let o := Config.readOptional request.join
    match o.result with
    | .ok config =>
      let p := (m.made, { config })
      (⟨m.memo.put request p, m.made + 1⟩, ⟨o.warnings, .ok p⟩)
    | .error e => (m, ⟨o.warnings, .error e⟩)

end Introspection
