import Introspection.Entity.OfElement

/-!
# What entities take from their elements

* `Reported.value_each`: what is read from the elements of a list;
* `CType.value_ofElement`: the type that an element describes;
* `Category.toThing_entity`, `Category.kind?_entity`, `Category.type?_entity`: the parts that do not
  depend on the category.
-/

namespace Introspection

open Xml

theorem Reported.value_each {α β : Type} (f : α → Nat → Reported β) (as : List α) :
    (Reported.each f as).value = as.zipIdx.map fun p => (f p.1 p.2).value := by
  -- The first position is left open, since it grows from one element to the next.
  have h : ∀ k, (eachFrom f k as).value = (as.zipIdx k).map fun p => (f p.1 p.2).value := by
    induction as with
    | nil => exact fun _ => rfl
    | cons a as ih =>
      intro k
      rw [List.zipIdx_cons, List.map_cons, ← ih]
      rfl
  exact h 0

theorem CType.value_ofElement (e : Element) (index : Int) (a : String) (n : Option String) :
    (CType.ofElement e index a n).value =
      { Thing.ofElement e index with
        type := .written (e.attributeD a), native := (nativeType e index n).value
        contained := if e.tag = "array" then (containedTypes e index).value else [] } := by
  unfold CType.ofElement
  split <;> rfl

namespace Category

variable (c : Category) (e : Element) (index : Int)

theorem toThing_entity : (c.entity e index).value.toThing = Thing.ofElement e index := by
  cases c with
  | typeAlias | constant | record | objectClass =>
    simp only [entity, Constant.ofElement, Record.ofElement, ObjectClass.ofElement,
      Reported.value_bind, Reported.value_pure, Entity.toThing, CType.value_ofElement]
  | enumeration | bitfield => rfl

/-- The name of an entity is that of its element, made from the position if there is none. -/
theorem name_entity : (c.entity e index).value.name = nameOrUnknown e index := by
  rw [Entity.name, toThing_entity, Thing.ofElement]

theorem kind?_entity : (c.entity e index).value.kind? = some c.kind := by
  cases c <;> rfl

theorem type?_entity : ∃ s, (c.entity e index).value.type? = some (.written s) := by
  cases c with
  | typeAlias | constant | record | objectClass =>
    simp only [entity, Constant.ofElement, Record.ofElement, ObjectClass.ofElement,
      Reported.value_bind, Reported.value_pure, Entity.type?, CType.value_ofElement]
    exact ⟨_, rfl⟩
  | enumeration | bitfield => exact ⟨_, rfl⟩

end Category

end Introspection
