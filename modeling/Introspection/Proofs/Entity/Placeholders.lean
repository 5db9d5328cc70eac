import Introspection.Proofs.Entity.OfElement

/-!
# Placeholders and what is noticed about them

Whenever a type cannot be read, a placeholder is put in its place and one diagnostic says so.

* `CType.placeholders`, `Argument.placeholders`, `Callable.placeholders`, `Record.placeholders`:
  the placeholders of an entity, found by a search through all its types. The search goes along
  with the elements that the parts of the entity come from, because an array counts once in an
  argument that takes both types from it, and an ellipsis without an array does not count;
* `Reported.Accounts`: a value that is noticed for its placeholders, one after the other;
* `Category.accounts_entity`: all entities are;
* **`diagnostics_eq_placeholders`**: the same for everything that is read from an element.
-/

namespace Introspection

open Xml

/-! ## The search -/

/-- The placeholder in the place of a type, if there is one. -/
def TypeSlot.placeholders : TypeSlot → List Placeholder
  | .written _ => []
  | .unresolved p => [p]

/-- The placeholders of a type: those of its element types, then its own ones. -/
def CType.placeholders : CType → List Placeholder
  | ⟨t, below, contained⟩ =>
    ofContained contained ++ (t.type.placeholders ++ below.placeholders)
where
  ofContained : List CType → List Placeholder
    | [] => []
    | t :: ts => placeholders t ++ ofContained ts

/-- The placeholders of parts of an entity, each searched along with its element. -/
def placeholdersAlong {α : Type} (search : α → Option Element → List Placeholder) :
    List α → List Element → List Placeholder
  | [], _ => []
  | a :: as, [] => search a none ++ placeholdersAlong search as []
  | a :: as, e :: es => search a (some e) ++ placeholdersAlong search as es

theorem placeholdersAlong_const {α : Type} (search : α → List Placeholder) (as : List α)
    (es : List Element) : placeholdersAlong (fun a _ => search a) as es = as.flatMap search := by
  induction as generalizing es with
  | nil => rfl
  | cons a as ih => cases es <;> simp [placeholdersAlong, ih]

namespace Argument

/-- The placeholders in the two types of an argument. One that an array puts into both of them
counts once; those of an ellipsis do not count unless there is an array. -/
def ownPlaceholders (a : Argument) (e? : Option Element) : List Placeholder :=
  match e?.bind (·.firstChildNamed? "array") with
  | some _ =>
    if a.type = a.native then a.native.placeholders
    else a.type.placeholders ++ a.native.placeholders
  | none => if a.varargs then [] else a.type.placeholders ++ a.native.placeholders

/-- The placeholders of an argument that comes from an element. -/
def placeholders (a : Argument) (e? : Option Element) : List Placeholder :=
  a.contained.flatMap CType.placeholders ++ a.ownPlaceholders e?

end Argument

/-- The placeholders of a callable that comes from an element. -/
def Callable.placeholders (m : Callable) (e? : Option Element) : List Placeholder :=
  m.returns.placeholders (e?.bind (·.firstChildNamed? "return-value")) ++
    placeholdersAlong Argument.placeholders m.args (e?.elim [] parameterElements)

/-- The placeholders of a record that comes from an element. -/
def Record.placeholders (r : Record) (e : Element) : List Placeholder :=
  r.toCType.placeholders ++
    placeholdersAlong Callable.placeholders r.functions (e.childrenNamed "function") ++
    placeholdersAlong Callable.placeholders r.methods (e.childrenNamed "method") ++
    placeholdersAlong Callable.placeholders r.constructors (e.childrenNamed "constructor")

/-- The placeholders of an enumeration or bit field. -/
def Enumeration.placeholders (x : Enumeration) : List Placeholder :=
  x.type.placeholders ++ x.members.flatMap (·.toCType.placeholders)

/-- The placeholders of an entity that comes from an element. -/
def Entity.placeholders (e : Element) : Entity → List Placeholder
  | .thing _ => []
  | .datatype t => t.type.placeholders
  | .ctype t | .typeAlias t => t.placeholders
  | .constant c => c.toCType.placeholders
  | .enumeration x | .bitfield x => x.placeholders
  | .argument a => a.placeholders (some e)
  | .method m => m.placeholders (some e)
  | .record r => r.placeholders e
  | .objectClass c => c.toRecord.placeholders e

/-! ## Accounts -/

/-- A value is noticed for its placeholders, for each of them once and for nothing else. -/
def Reported.Accounts {α : Type} (x : Reported α) (search : α → List Placeholder) : Prop :=
  x.diagnostics = (search x.value).map .unresolved

namespace Reported.Accounts

variable {α β : Type}

theorem each {f : Element → Nat → Reported β} {search : β → Option Element → List Placeholder}
    (hf : ∀ e i, (f e i).Accounts (search · (some e))) (es : List Element) :
    (Reported.each f es).Accounts (placeholdersAlong search · es) := by
  -- The first index is left open, since it grows from one element to the next.
  have h : ∀ i, (eachFrom f i es).Accounts (placeholdersAlong search · es) := by
    induction es with
    | nil => exact fun _ => rfl
    | cons e es ih =>
      intro i
      have he := hf e i
      have hes := ih (i + 1)
      simp only [Accounts] at he hes
      simp [Accounts, eachFrom, placeholdersAlong, he, hes]
  exact h 0

theorem each_flatMap {f : Element → Nat → Reported β} {search : β → List Placeholder}
    (hf : ∀ e i, (f e i).Accounts search) (es : List Element) :
    (Reported.each f es).Accounts (·.flatMap search) := by
  have h : (Reported.each f es).Accounts (placeholdersAlong (fun b _ => search b) · es) :=
    each hf es
  simpa only [Accounts, placeholdersAlong_const] using h

theorem map {x : Reported α} {g : α → β} {search : α → List Placeholder}
    {search' : β → List Placeholder} (hx : x.Accounts search)
    (hg : search' (g x.value) = search x.value) :
    (x >>= fun a => pure (g a)).Accounts search' := by
  rw [Accounts, diagnostics_bind, diagnostics_pure, value_bind, value_pure, hg, List.append_nil, hx]

end Reported.Accounts

/-! ## Types -/

theorem CType.placeholders_eq (t : CType) :
    t.placeholders =
      t.contained.flatMap CType.placeholders ++
        (t.type.placeholders ++ t.native.placeholders) := by
  have hcontained : ∀ ts, placeholders.ofContained ts = ts.flatMap placeholders := by
    intro ts
    induction ts with
    | nil => rfl
    | cons t ts ih => rw [placeholders.ofContained, ih, List.flatMap_cons]
  cases t
  rw [placeholders, hcontained]

theorem TypeSlot.accounts_orMissing (written : Option String) (p : Placeholder) :
    (TypeSlot.orMissing written p true).Accounts TypeSlot.placeholders := by
  cases written <;> rfl

section

variable (e : Element) (index : Int)

theorem accounts_nativeType (n : Option String) :
    (nativeType e index n).Accounts TypeSlot.placeholders := by
  unfold nativeType
  split
  · exact TypeSlot.accounts_orMissing _ _
  · split <;> exact TypeSlot.accounts_orMissing _ _

theorem CType.accounts_ofContained : (CType.ofContained e index).Accounts CType.placeholders := by
  have hnative := accounts_nativeType e index (some "type")
  simp only [Reported.Accounts] at hnative
  simp [Reported.Accounts, ofContained, CType.placeholders_eq, TypeSlot.placeholders, hnative]

theorem accounts_containedTypes :
    (containedTypes e index).Accounts (·.flatMap CType.placeholders) :=
  .each_flatMap (fun a _ => CType.accounts_ofContained a index) _

theorem CType.accounts_ofElement (a : String) (n : Option String) :
    (CType.ofElement e index a n).Accounts CType.placeholders := by
  have hnative := accounts_nativeType e index n
  have hcontained := accounts_containedTypes e index
  simp only [Reported.Accounts] at hnative hcontained
  unfold CType.ofElement
  split <;>
    simp [Reported.Accounts, CType.placeholders_eq, TypeSlot.placeholders, hnative, hcontained]

/-! ## Constants and enumerations -/

theorem Constant.accounts_ofElement (n : Option String) :
    (Constant.ofElement e index n).Accounts (·.toCType.placeholders) :=
  (CType.accounts_ofElement e index "type" n).map rfl

theorem Enumeration.accounts_ofElement :
    (Enumeration.ofElement e index).Accounts Enumeration.placeholders := by
  have hmembers := Reported.Accounts.each_flatMap
    (fun m i => Constant.accounts_ofElement m i (some "identifier")) (e.childrenNamed "member")
  simp only [Reported.Accounts] at hmembers
  simp [Reported.Accounts, ofElement, placeholders, TypeSlot.placeholders, hmembers]

/-! ## Callables -/

theorem diagnostics_childTypes (report : Bool) :
    (childTypes e index report).diagnostics =
      if report then
        ((childTypes e index report).value.1.placeholders ++
          (childTypes e index report).value.2.placeholders).map .unresolved
      else [] := by
  unfold childTypes
  split
  · rename_i child entry _
    cases firstAttribute? child "name" "type" <;> cases firstAttribute? entry "type" "name" <;>
      cases report <;> rfl
  · cases report <;> rfl

/-- An array that lacks its native type is noticed once, also if the type lacks with it. -/
theorem diagnostics_arrayTypes :
    (arrayTypes e index).diagnostics =
      (if (arrayTypes e index).value.1 = (arrayTypes e index).value.2 then
        (arrayTypes e index).value.2.placeholders
      else (arrayTypes e index).value.1.placeholders ++
        (arrayTypes e index).value.2.placeholders).map .unresolved := by
  have hnative := TypeSlot.accounts_orMissing (e.attribute? "type") ⟨index, "ctype", "unknown"⟩
  simp only [Reported.Accounts] at hnative
  by_cases hname : e.attributeD "name" = ""
  · simp [arrayTypes, hname, hnative]
  · -- The name is the type then, which is no placeholder.
    cases hw : e.attribute? "type" with
    | none => simp [arrayTypes, hname, hw, TypeSlot.orMissing, TypeSlot.missing,
        TypeSlot.placeholders]
    | some s => simp [arrayTypes, hname, hw, TypeSlot.orMissing, TypeSlot.placeholders]

theorem Argument.accounts_ofElement :
    (Argument.ofElement e index).Accounts (·.placeholders (some e)) := by
  cases harray : e.firstChildNamed? "array" with
  | some array =>
    have hcontained := accounts_containedTypes array index
    simp only [Reported.Accounts] at hcontained
    simp [Reported.Accounts, ofElement, argumentTypes, harray, placeholders, ownPlaceholders,
      hcontained, diagnostics_arrayTypes]
  | none =>
    cases hvarargs : isVarargsElement e <;>
      simp [Reported.Accounts, ofElement, argumentTypes, harray, placeholders, ownPlaceholders,
        hvarargs, diagnostics_childTypes]

theorem Callable.accounts_ofElement :
    (Callable.ofElement e index).Accounts (·.placeholders (some e)) := by
  have hargs := Reported.Accounts.each (fun p i => Argument.accounts_ofElement p i)
    (parameterElements e)
  simp only [Reported.Accounts] at hargs
  cases hreturn : e.firstChildNamed? "return-value" with
  | some r =>
    have hreturns := Argument.accounts_ofElement r (-1)
    simp only [Reported.Accounts] at hreturns
    simp [Reported.Accounts, ofElement, placeholders, hreturn, hreturns, hargs]
  | none =>
    -- What stands for the missing returned value is written.
    have hvoid : Argument.void.placeholders none = [] := rfl
    simp [Reported.Accounts, ofElement, placeholders, hreturn, hvoid, hargs]

theorem accounts_callables (tag : String) :
    (callables e tag).Accounts (placeholdersAlong Callable.placeholders · (e.childrenNamed tag)) :=
  .each (fun m i => Callable.accounts_ofElement m i) _

/-! ## Entities -/

theorem Record.accounts_ofElement : (Record.ofElement e index).Accounts (·.placeholders e) := by
  have htype := CType.accounts_ofElement e index "type-name" (some "type")
  have hfunctions := accounts_callables e "function"
  have hmethods := accounts_callables e "method"
  have hconstructors := accounts_callables e "constructor"
  simp only [Reported.Accounts] at htype hfunctions hmethods hconstructors
  simp [Reported.Accounts, ofElement, placeholders, htype, hfunctions, hmethods, hconstructors]

theorem Category.accounts_entity (c : Category) :
    (c.entity e index).Accounts (·.placeholders e) := by
  cases c with
  | typeAlias => exact (CType.accounts_ofElement e index "type" none).map rfl
  | constant => exact (Constant.accounts_ofElement e index none).map rfl
  | enumeration | bitfield => exact (Enumeration.accounts_ofElement e index).map rfl
  | record => exact (Record.accounts_ofElement e index).map rfl
  | objectClass =>
    have hclass : (ObjectClass.ofElement e index).Accounts (·.toRecord.placeholders e) :=
      (Record.accounts_ofElement e index).map rfl
    exact hclass.map rfl

end

theorem Category.exists_of_mem_diagnostics {c : Category} {e : Element} {index : Int}
    {x : Diagnostic} (h : x ∈ (c.entity e index).diagnostics) : ∃ p, x = .unresolved p := by
  rw [c.accounts_entity e index] at h
  obtain ⟨p, -, rfl⟩ := List.mem_map.mp h
  exact ⟨p, rfl⟩

/-- **What is read from an element is noticed for its placeholders, for each of them once and for
nothing else.** This holds of arguments, callables and the entities of all categories, whatever the
element is. What is noticed tells in what way which type is lacking and where. -/
theorem diagnostics_eq_placeholders (e : Element) (index : Int) :
    (Argument.ofElement e index).diagnostics =
        ((Argument.ofElement e index).value.placeholders (some e)).map .unresolved ∧
      (Callable.ofElement e index).diagnostics =
        ((Callable.ofElement e index).value.placeholders (some e)).map .unresolved ∧
      (∀ c : Category, (c.entity e index).diagnostics =
        ((c.entity e index).value.placeholders e).map .unresolved) ∧
      ∀ p : Placeholder, (Diagnostic.unresolved p).kind = .missingAttribute ∧
        (Diagnostic.unresolved p).message =
          p.reason ++ " " ++ p.expected ++ " at index " ++ Text.decimal p.index ∧
        (Diagnostic.unresolved p).index? = some p.index ∧
        (Diagnostic.unresolved p).name? = none :=
  ⟨Argument.accounts_ofElement e index, Callable.accounts_ofElement e index,
    fun c => c.accounts_entity e index, fun _ => ⟨rfl, rfl, rfl, rfl⟩⟩

end Introspection
