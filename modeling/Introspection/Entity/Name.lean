import Introspection.Text.Piece

/-!
# Names of entities

* `withoutNamespace`: a name without the namespace in front of it;
* `privateBaseName?`: the name that a private one belongs to;
* `nodeName`: the name of the type that a class or interface structure belongs to.
-/

namespace Introspection

/-- The part of a name behind its last dot. -/
def withoutNamespace (name : String) : String :=
  String.ofList (Text.afterLast '.' name.toList)

/-- A name without an ending, if it has that ending and something before it. -/
def withoutEnding? (ending name : String) : Option String :=
  (Text.withoutSuffix? ending.toList name.toList).map String.ofList

/-- What is in front of the ending `Private`, if the name has it. -/
def privateBaseName? (name : String) : Option String := withoutEnding? "Private" name

/-- The name without an ending `Class` or `Iface`; an ending `Private` behind it stays. -/
def nodeName (name : String) : String :=
  let base := privateBaseName? name
  let stem := base.getD name
  match (withoutEnding? "Class" stem).or (withoutEnding? "Iface" stem) with
  | some s => if base.isSome then s ++ "Private" else s
  | none => name

end Introspection
