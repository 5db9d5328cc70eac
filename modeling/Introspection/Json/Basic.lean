/-!
# JSON values

Values as the library hands them out and reads them in. The fields of an object keep their order,
since the order in which they are written is part of every answer.

* `Json`: the values;
* `Json.optional`, `Json.texts`: values that may be missing, and lists of texts;
* `Json.field?`, `Json.setField`: fields by key;
* `Json.isExchangeable`: whether every program can read a value.
-/

namespace Introspection

/-- A JSON value. The fields of an object keep their order. -/
inductive Json where
  | null
  | bool (b : Bool)
  | integer (n : Int)
  /-- A number with a fraction or an exponent, as written, or one that is not finite. -/
  | decimal (written : String)
  | text (s : String)
  /-- A text that holds half a character, so that no text of characters stands for it. -/
  | broken
  | list (items : List Json)
  | object (fields : List (String × Json))
deriving Repr, Inhabited

namespace Json

/-- A value that may be missing; null stands for none. -/
def optional {α : Type} (f : α → Json) : Option α → Json
  | none => .null
  | some a => f a

def texts (l : List String) : Json := .list (l.map .text)

/-- The value of a field. Of fields with the same key the last one counts. -/
def field? (key : String) : Json → Option Json
  | .object fields => (fields.reverse.find? (·.1 == key)).map (·.2)
  | _ => none

/-- Sets a field, in its place if there is one with the same key. -/
def setField (key : String) (j : Json) : List (String × Json) → List (String × Json)
  | [] => [(key, j)]
  | (k, i) :: fs => if k = key then (k, j) :: fs else (k, i) :: setField key j fs

/-- The numbers that are not finite. -/
def notFinite : List String := ["NaN", "Infinity", "-Infinity"]

/-- Whether all numbers of a value are finite and all its texts are made of characters. -/
def isExchangeable : Json → Bool
  | .null | .bool _ | .integer _ | .text _ => true
  | .decimal written => written ∉ notFinite
  | .broken => false
  | .list js => items js
  | .object fs => fields fs
where
  items : List Json → Bool
    | [] => true
    | j :: js => j.isExchangeable && items js
  fields : List (String × Json) → Bool
    | [] => true
    | (_, j) :: fs => j.isExchangeable && fields fs

end Json

end Introspection
