import Introspection.Proofs.Entity.Renaming
import Introspection.Proofs.Stub.Signature
import Introspection.Proofs.Stub.Walk

/-!
# Stubs and namespaces

The stub of a document does not depend on the namespaces of its elements and attributes.

* `parameterList_renamed`, `Rule.text_renamed`: the texts that are read from elements;
* `Frame.renamed`, `Walk.renamed`: the stack of a walk through a renamed tree;
* **`Walk.step_renamed`**, `Walk.run_renamed`: such a walk goes in step with the walk through the
  tree and gives the same lines.
-/

namespace Introspection.Stub

open Xml

section

variable (ρ : Renaming) (e : Element)

/-! ## Texts -/

theorem typeHint_renamed : typeHint (ρ.renamed e) = typeHint e := by
  have hname : (fun t : Element => t.attribute? "name") ∘ ρ.renamed =
      fun t => t.attribute? "name" :=
    funext fun t => ρ.attribute?_renamed (by decide) t
  rw [typeHint, typeHint, ρ.firstChildNamed?_renamed, ρ.firstChildNamed?_renamed]
  cases e.firstChildNamed? "array" with
  | some array =>
    simp only [Option.map_some, ρ.firstChildNamed?_renamed, Option.bind_map, hname]
  | none =>
    cases e.firstChildNamed? "type" with
    | none => rfl
    | some t => simp (disch := decide) only [Option.map_none, Option.map_some,
        Renaming.attribute?_renamed]

theorem returnHint_renamed : returnHint (ρ.renamed e) = returnHint e := by
  rw [returnHint, returnHint, ρ.firstChildNamed?_renamed]
  cases e.firstChildNamed? "return-value" with
  | none => rfl
  | some r => exact typeHint_renamed ρ r

theorem parameterEntry_renamed : parameterEntry (ρ.renamed e) = parameterEntry e := by
  rw [parameterEntry_eq, isVarargsElement_renamed, typeHint_renamed, parameterName,
    ρ.attributeD_renamed (by decide), parameterEntry_eq, parameterName]

theorem parameterList_renamed (receiver : Option String) :
    parameterList (ρ.renamed e) receiver = parameterList e receiver := by
  have hentry : parameterEntry ∘ ρ.renamed = parameterEntry :=
    funext (parameterEntry_renamed ρ)
  have htag : (fun p : Element => p.tag != "instance-parameter") ∘ ρ.renamed =
      fun p => p.tag != "instance-parameter" :=
    funext fun p => by rw [Function.comp_apply, ρ.tag_renamed]
  rw [parameterList, listedElements_eq, parameterElements_renamed, List.filter_map, htag,
    List.map_map, hentry, ← listedElements_eq, parameterList]

theorem docText_renamed : docText (ρ.renamed e) = docText e := by
  rw [docText, ρ.content_renamed, docText]

theorem nameOf_renamed : nameOf (ρ.renamed e) = nameOf e :=
  ρ.attributeD_renamed (by decide) e

theorem callableText_renamed : callableText (ρ.renamed e) = callableText e := by
  rw [callableText, nameOf_renamed, ρ.tag_renamed, parameterList_renamed,
    returnHint_renamed, saysRaises, ρ.attribute?_renamed (by decide)]
  rfl

theorem Rule.text_renamed (r : Rule) (level ruleLevel : Int) (opener : Option Element) :
    r.text (ρ.renamed e) level ruleLevel (opener.map ρ.renamed) =
      r.text e level ruleLevel opener := by
  have hname : (fun o : Element => o.attribute? "name") ∘ ρ.renamed =
      fun o => o.attribute? "name" :=
    funext fun o => ρ.attribute?_renamed (by decide) o
  cases r with
  | aliasTarget =>
    rw [text, text, Option.bind_map, hname, ρ.attribute?_renamed (by decide)]
  | callable => exact callableText_renamed ρ e
  | doc => exact docText_renamed ρ e
  | _ =>
    simp (disch := decide) only [text, spaceLabel, typeText, recordText, nameOf, ρ.tag_renamed,
      typeHint_renamed, returnHint_renamed, Renaming.attribute?_renamed,
      Renaming.attributeD_renamed]

theorem Rule.line_renamed (r : Rule) (level ruleLevel : Int) (opener : Option Element) :
    r.line (ρ.renamed e) level ruleLevel (opener.map ρ.renamed) =
      r.line e level ruleLevel opener := by
  rw [line, text_renamed, line]

end

/-! ## Walks -/

section

variable (ρ : Renaming)

/-- A frame that a renamed element opened. -/
def Frame.renamed (f : Frame) : Frame := { f with opener := f.opener.map ρ.renamed }

theorem Frame.rule?_renamed (f : Frame) (p : Placed) :
    (f.renamed ρ).rule? (ρ.renamedPlaced p) = f.rule? p := by
  rw [rule?, Renaming.renamedPlaced, ρ.tag_renamed]
  rfl

theorem settle_renamed (level : Int) (f : Frame) (below : List Frame) :
    settle level (f.renamed ρ) (below.map (·.renamed ρ)) =
      ((settle level f below).1.renamed ρ, (settle level f below).2.map (·.renamed ρ)) := by
  induction below generalizing f with
  | nil => rfl
  | cons g gs ih =>
    by_cases h : level < f.level
    · have h' : level < (f.renamed ρ).level := h
      rw [List.map_cons, settle_cons_of_lt h, settle_cons_of_lt h', ih]
    · have h' : ¬level < (f.renamed ρ).level := h
      rw [settle_eq_self (Int.not_lt.mp h), settle_eq_self (Int.not_lt.mp h')]

namespace Walk

/-- A walk whose frames renamed elements opened. -/
def renamed (w : Walk) : Walk :=
  { w with top := w.top.renamed ρ, below := w.below.map (·.renamed ρ) }

theorem unhandledLine_renamed (p : Placed) (f : Frame) :
    unhandledLine (ρ.renamedPlaced p) (f.renamed ρ) = unhandledLine p f := by
  rw [unhandledLine, Renaming.renamedPlaced, ρ.tag_renamed]
  rfl

/-- **A step of a walk goes in step with the same step among renamed elements.** -/
theorem step_renamed (w : Walk) (p : Placed) :
    (w.renamed ρ).step (ρ.renamedPlaced p) = ((w.step p).1.renamed ρ, (w.step p).2) := by
  obtain ⟨f, below, hs⟩ : ∃ f below, w.settled p.level = (f, below) := ⟨_, _, rfl⟩
  have hs' : (w.renamed ρ).settled (ρ.renamedPlaced p).level =
      (f.renamed ρ, below.map (·.renamed ρ)) := by
    have := settle_renamed ρ p.level w.top w.below
    rw [settled] at hs
    rwa [hs] at this
  cases hr : f.rule? p with
  | none =>
    have hr' := (f.rule?_renamed ρ p).trans hr
    rw [step_of_none hs hr, step_of_none hs' hr', unhandledLine_renamed,
      Renaming.renamedPlaced, ρ.tag_renamed]
    rfl
  | some r =>
    have hr' := (f.rule?_renamed ρ p).trans hr
    have hline : r.line (ρ.renamedPlaced p).element (ρ.renamedPlaced p).level (f.renamed ρ).level
        (f.renamed ρ).opener = r.line p.element p.level f.level f.opener :=
      r.line_renamed ρ p.element p.level f.level f.opener
    cases ht : r.table? with
    | none =>
      rw [step_of_leaf hs hr ht, step_of_leaf hs' hr' ht, hline]
      rfl
    | some table =>
      rw [step_of_table hs hr ht, step_of_table hs' hr' ht, hline]
      rfl

theorem run_renamed (w : Walk) (ps : List Placed) :
    (w.renamed ρ).run (ps.map ρ.renamedPlaced) = ((w.run ps).1.renamed ρ, (w.run ps).2) := by
  induction ps generalizing w with
  | nil => rfl
  | cons p ps ih => rw [List.map_cons, run_cons, step_renamed, ih, run_cons]

end Walk

end

end Introspection.Stub
