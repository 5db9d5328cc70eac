import Introspection.Text.CaseTable
import Introspection.Text.Range

/-!
# Upper and lower case

Full case mapping: a character may become several, and a capital sigma becomes a final sigma where
a letter precedes it and none follows.

* `lower`, `upper`: the mappings of a text.
-/

namespace Introspection.Text

/-- The image of a code point under a table of runs, itself if no run holds it. -/
def mapRuns (runs : List (Nat × Nat × Nat × Int)) (n : Nat) : Nat :=
  match runs.find? fun r => r.1 ≤ n && n ≤ r.2.1 && (n - r.1) % r.2.2.1 == 0 with
  | some r => (n + r.2.2.2).toNat
  | none => n

/-- Whether a character counts as a letter with case beside a sigma. -/
def isCased (c : Char) : Bool := inRanges casedRanges c.toNat

/-- Whether a character is skipped in search of a letter beside a sigma. -/
def isCaseIgnorable (c : Char) : Bool := inRanges caseIgnorableRanges c.toNat

/-- Whether the next character that is not skipped is a letter with case. -/
def casedFollows (cs : List Char) : Bool :=
  match cs.dropWhile isCaseIgnorable with
  | [] => false
  | c :: _ => isCased c

/-- The lower case of a character that is neither a capital sigma nor a dotted capital I. -/
def lowerChar (c : Char) : Char :=
  if c.toNat < 0x80 then c.toLower else Char.ofNat (mapRuns lowerRuns c.toNat)

/-- The lower case of a text; `after` says whether a letter with case came before it. -/
def lowerAfter (after : Bool) : List Char → List Char
  | [] => []
  | c :: cs =>
    let after' := if isCaseIgnorable c then after else isCased c
    if c = 'Σ' then (if after && !casedFollows cs then 'ς' else 'σ') :: lowerAfter after' cs
    else if c = 'İ' then 'i' :: '\u0307' :: lowerAfter after' cs
    else lowerChar c :: lowerAfter after' cs

/-- The lower case of a text. -/
def lower (s : String) : String := String.ofList (lowerAfter false s.toList)

def upperChar (c : Char) : List Char :=
  if c.toNat < 0x80 then [c.toUpper]
  else match upperExpansions.find? (·.1 == c.toNat) with
    | some e => e.2.map Char.ofNat
    | none => [Char.ofNat (mapRuns upperRuns c.toNat)]

def upper (s : String) : String := String.ofList (s.toList.flatMap upperChar)

end Introspection.Text
